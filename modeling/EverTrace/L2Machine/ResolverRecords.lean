import EverTrace.L2Machine.Resolver
import EverTrace.Lib.Outcome
/-!
# Resolutions that can be recorded

What a resolution must be for the store to take it (`Recordable`): one valid record
for each repository and worktree, each the next revision of the known one in a
lifecycle that may follow, valid transitions, and no snapshot that is not known.

A resolution grows record by record (`Growing`), and at most one at a time
(`Grown`). The probed worktree comes first; a revision of it may follow when it is
not an archived one in another state (`reconcileExistingWorktree_yields`).
-/
namespace EverTrace.L2.Resolver
open EverTrace.Lib EverTrace.L1 EverTrace.L2.Repository

/-! ## What is promised -/

/-- The records are valid, each is kept under its own id, and a current snapshot is known.
mirrors evertrace-store/src/repository.rs:49-111, 304-311 -/
structure ViewOk (view : RepositoryCurrentView) : Prop where
  repositoryKey : ∀ id repository, view.repositories.get id = some repository → repository.repositoryId = id
  repositoryValid : ∀ id repository, view.repositories.get id = some repository → repository.validate = .ok ()
  worktreeKey : ∀ id worktree, view.worktrees.get id = some worktree → worktree.worktreeInstanceId = id
  worktreeValid : ∀ id worktree, view.worktrees.get id = some worktree → worktree.validate = .ok ()
  currentSnapshot : ∀ id worktree snapshotId, view.worktrees.get id = some worktree →
    worktree.currentSnapshotId = some snapshotId → (view.snapshots.get snapshotId).isSome

/-- The evidence is of the supported version, from a time, and refers to something, each reference being valid and
named once. -/
structure EvidenceOk (e : GitProbeEvidence) : Prop where
  version : e.probeSchemaVersion = 1
  time : 0 ≤ e.occurredAtUs
  nonempty : e.evidenceRefs ≠ []
  refs : ∀ reference ∈ e.evidenceRefs, validRef reference = .ok ()
  unique : e.evidenceRefs.Nodup

/-- The number of worktrees that a resolution can record: a revision for each known one, and one for each line of the
list. -/
def mostWorktrees (view : RepositoryCurrentView) (e : GitProbeEvidence) : Nat :=
  view.worktrees.values.length + e.worktreeEntries.length

/-- The ids that are given out are new, and as many as can be needed are distinct. -/
structure Unused (ids : FreshIds) (view : RepositoryCurrentView) (e : GitProbeEvidence) : Prop where
  repository : view.repositories.get ids.repository = none
  worktree : ∀ n, view.worktrees.get (ids.worktree n) = none
  distinct : ∀ n ≤ mostWorktrees view e, ∀ m < n, ids.worktree m ≠ ids.worktree n

/-- The next revision of a worktree, in a lifecycle that may follow. -/
structure Next (old worktree : WorktreeInstance) : Prop where
  revision : worktree.worktreeRevision.toNat = old.worktreeRevision.toNat + 1
  predecessor : worktree.predecessorRevision = some old.worktreeRevision
  lifecycle : lifecycleSuccessorAllowed old.lifecycle worktree.lifecycle = true

/-- The snapshot is in the view or in the resolution. -/
def Known (view : RepositoryCurrentView) (resolution : RepositoryResolution) (snapshot : Option WorktreeSnapshotId) :
    Prop :=
  ∀ id, snapshot = some id → (view.snapshots.get id).isSome ∨
    id ∈ resolution.snapshots.map WorktreeSnapshot.worktreeSnapshotId

/-- A resolution that can be recorded. -/
structure Recordable (view : RepositoryCurrentView) (resolution : RepositoryResolution) : Prop where
  repositoriesOnce : (resolution.repositories.map RepositoryInstance.repositoryId).Nodup
  repositories : ∀ repository ∈ resolution.repositories, repository.validate = .ok () ∧
    ∀ old, view.repositories.get repository.repositoryId = some old →
      repository.repositoryRevision.toNat = old.repositoryRevision.toNat + 1
  worktreesOnce : (resolution.worktrees.map WorktreeInstance.worktreeInstanceId).Nodup
  worktrees : ∀ worktree ∈ resolution.worktrees, worktree.validate = .ok () ∧
    ∀ old, view.worktrees.get worktree.worktreeInstanceId = some old → Next old worktree
  transitions : ∀ transition ∈ resolution.transitions, transition.validate = .ok ()
  worktreeSnapshots : ∀ worktree ∈ resolution.worktrees, Known view resolution worktree.currentSnapshotId
  transitionSnapshots : ∀ transition ∈ resolution.transitions, Known view resolution transition.fromSnapshotId ∧
    Known view resolution transition.toSnapshotId

def lastRevision : UInt32 := 4294967295

/-! ## Records -/

variable {ids : FreshIds} {view : RepositoryCurrentView} {e : GitProbeEvidence} {repositoryId : RepositoryId}
  {resolution resolution' : RepositoryResolution} {worktree old : WorktreeInstance}

theorem forM_validRef (he : EvidenceOk e) : e.evidenceRefs.forM validRef = .ok () :=
  forM_eq_ok.mpr he.refs

theorem validRef_head (he : EvidenceOk e) : validRef (e.evidenceRefs.headD "") = .ok () := by
  cases hrefs : e.evidenceRefs with
  | nil => exact absurd hrefs he.nonempty
  | cons reference rest => exact he.refs reference (hrefs ▸ List.mem_cons_self)

theorem EvidenceOk.refs_ok (he : EvidenceOk e) :
    e.evidenceRefs.isEmpty = false ∧ requireUnique e.evidenceRefs = .ok () := by
  refine ⟨List.isEmpty_eq_false_iff.mpr he.nonempty, ?_⟩
  unfold requireUnique
  rw [ensure_ok]
  exact decide_eq_true he.unique

theorem newTransition_valid (he : EvidenceOk e) {fromWorktree toWorktree : WorktreeId}
    {fromSnapshot toSnapshot : Option WorktreeSnapshotId} {kind : TransitionKind} {assessment : LineageAssessment}
    {sourceWatermark : Nat} (hfits : kind.fits (fromWorktree == toWorktree) = true)
    (hsnapshot : kind.needsSnapshot = toSnapshot.isSome) :
    (newTransition ids resolution fromWorktree fromSnapshot toWorktree toSnapshot kind assessment sourceWatermark
      e).validate = .ok () := by
  have hrefs := forM_validRef he
  obtain ⟨hne, hunique⟩ := he.refs_ok
  unfold WorktreeTransition.validate newTransition
  simp only [hrefs, hunique, hne, hfits, hsnapshot, beq_self_eq_true]
  rfl

/-- A number that passes the check after the old one is the next one. -/
theorem next_of_chain {revision : UInt32} (h : validRevisionChain (revision + 1) (some revision) = true) :
    (revision + 1).toNat = revision.toNat + 1 := by
  unfold validRevisionChain at h
  rw [Bool.and_eq_true, decide_eq_true_iff] at h
  have hpos : 0 < (revision + 1).toNat := h.1
  have hlt := revision.toNat_lt
  rw [UInt32.toNat_add] at hpos ⊢
  have hone : (1 : UInt32).toNat = 1 := rfl
  rw [hone] at hpos ⊢
  omega

/-- A number that is not the last one has a next one. -/
theorem chain_of_ne_last {revision : UInt32} (hpos : 0 < revision) (h : revision ≠ lastRevision) :
    validRevisionChain (revision + 1) (some revision) = true := by
  have hlt := revision.toNat_lt
  have hne : revision.toNat ≠ 4294967295 := fun heq => h (UInt32.toNat_inj.mp heq)
  have hposNat : 0 < revision.toNat := hpos
  have hnext : (revision + 1).toNat = revision.toNat + 1 := by
    rw [UInt32.toNat_add]
    have hone : (1 : UInt32).toNat = 1 := rfl
    rw [hone]
    omega
  have hgt : (1 : UInt32) < revision + 1 := by
    rw [UInt32.lt_iff_toNat_lt, hnext]
    have hone : (1 : UInt32).toNat = 1 := rfl
    omega
  have hsub : revision + 1 - 1 = revision := by
    rw [UInt32.add_sub_cancel]
  unfold validRevisionChain
  rw [if_pos hgt, hsub]
  simp only [beq_self_eq_true, Bool.and_true, decide_eq_true_iff]
  rw [UInt32.lt_iff_toNat_lt, hnext]
  exact Nat.succ_pos _

/-- The last number has none. -/
theorem ne_last_of_chain {revision : UInt32} (h : validRevisionChain (revision + 1) (some revision) = true) :
    revision ≠ lastRevision := by
  rintro rfl
  exact Bool.noConfusion h

/-- What the check of a worktree asks for. -/
structure WorktreeOk (worktree : WorktreeInstance) : Prop where
  chain : validRevisionChain worktree.worktreeRevision worktree.predecessorRevision = true
  other : worktree.recreatedFromWorktreeInstanceId ≠ some worktree.worktreeInstanceId
  time : 0 ≤ worktree.recordedAtUs
  paths : worktree.pathHistory ≠ []
  adminPaths : worktree.gitAdminPathHistory ≠ []
  observations : ∀ observation ∈ worktree.pathHistory ++ worktree.gitAdminPathHistory, observation.validate = .ok ()
  created : validRef worktree.createdEventRef = .ok ()
  terminal : ∀ reference, worktree.terminalEventRef = some reference → validRef reference = .ok ()
  lifecycle : worktree.lifecycleOk = .ok ()

theorem worktree_valid_iff : worktree.validate = .ok () ↔ WorktreeOk worktree := by
  have hterminal : worktree.terminalEventRef.forM validRef = .ok () ↔
      ∀ reference, worktree.terminalEventRef = some reference → validRef reference = .ok () := by
    cases worktree.terminalEventRef with
    | none => simp [pure, Except.pure]
    | some reference => simp
  unfold WorktreeInstance.validate
  simp only [bind_eq_ok, ensure_ok, forM_eq_ok, hterminal, Bool.and_eq_true, bne_iff_ne, ne_eq, decide_eq_true_iff,
    Bool.not_eq_true', List.isEmpty_eq_false_iff]
  constructor
  · rintro ⟨_, ⟨⟨hchain, hother⟩, htime⟩, _, ⟨hpaths, hadmin⟩, _, hobs, _, hcreated, _, hterm, hlife⟩
    exact ⟨hchain, hother, htime, hpaths, hadmin, hobs, hcreated, hterm, hlife⟩
  · intro h
    exact ⟨(), ⟨⟨h.chain, h.other⟩, h.time⟩, (), ⟨h.paths, h.adminPaths⟩, (), h.observations, (), h.created, (),
      h.terminal, h.lifecycle⟩

theorem WorktreeOk.revision_pos (hold : WorktreeOk old) : 0 < old.worktreeRevision := by
  have hchain := hold.chain
  unfold validRevisionChain at hchain
  exact of_decide_eq_true (Bool.and_eq_true _ _ ▸ hchain).1

theorem missing_valid (he : EvidenceOk e) (hold : WorktreeOk old) (hactive : old.lifecycle = .active)
    (hrevision : old.worktreeRevision ≠ lastRevision) (registration : GitRegistrationState) :
    WorktreeOk (worktreeSuccessor old .missing old.currentPath registration none e) := by
  have hlife := hold.lifecycle
  refine ⟨chain_of_ne_last hold.revision_pos hrevision, hold.other, he.time, hold.paths, hold.adminPaths, hold.observations,
    hold.created, (by intro reference h; cases h), ?_⟩
  unfold WorktreeInstance.lifecycleOk at hlife ⊢
  rw [hactive] at hlife
  obtain ⟨path, hpath, hlife⟩ := bind_eq_ok.mp hlife
  obtain ⟨_, hlocator, hlife⟩ := bind_eq_ok.mp hlife
  rw [ensure_ok, Bool.and_eq_true] at hlife
  unfold worktreeSuccessor
  dsimp only
  rw [okOr_ok.mp hpath]
  refine bind_eq_ok.mpr ⟨path, rfl, bind_eq_ok.mpr ⟨_, hlocator, ?_⟩⟩
  rw [ensure_ok, Bool.and_eq_true]
  exact ⟨rfl, hlife.2⟩

theorem ended_valid (he : EvidenceOk e) (hold : WorktreeOk old) (hrevision : old.worktreeRevision ≠ lastRevision)
    {lifecycle : WorktreeLifecycle} (hlifecycle : lifecycle.isTerminal = true) :
    WorktreeOk (worktreeSuccessor old lifecycle none .absent (some (e.evidenceRefs.headD "")) e) := by
  refine ⟨chain_of_ne_last hold.revision_pos hrevision, hold.other, he.time, hold.paths, hold.adminPaths, hold.observations,
    hold.created, ?_, ?_⟩
  · intro reference h
    cases h
    exact validRef_head he
  · unfold WorktreeInstance.lifecycleOk worktreeSuccessor
    cases lifecycle with
    | removed => rfl
    | pruned => rfl
    | active => cases hlifecycle
    | missing => cases hlifecycle
    | archived => cases hlifecycle

/-! ## The resolution as it grows -/

/-- A record of a worktree: valid, and the next revision where there is one before it. -/
def WorktreeRecord (view : RepositoryCurrentView) (worktree : WorktreeInstance) : Prop :=
  worktree.validate = .ok () ∧
    ∀ old, view.worktrees.get worktree.worktreeInstanceId = some old → Next old worktree

/-- The records so far; of the known worktrees only those that are done have one. -/
structure Growing (ids : FreshIds) (view : RepositoryCurrentView) (done : List WorktreeId)
    (resolution : RepositoryResolution) : Prop where
  once : (resolution.worktrees.map WorktreeInstance.worktreeInstanceId).Nodup
  origin : ∀ worktree ∈ resolution.worktrees, worktree.worktreeInstanceId ∈ done ∨
    ∃ n < resolution.worktrees.length, worktree.worktreeInstanceId = ids.worktree n
  known : ∀ id ∈ done, (view.worktrees.get id).isSome
  worktrees : ∀ worktree ∈ resolution.worktrees, WorktreeRecord view worktree
  transitions : ∀ transition ∈ resolution.transitions, transition.validate = .ok () ∧
    Known view resolution transition.fromSnapshotId ∧ Known view resolution transition.toSnapshotId
  worktreeSnapshots : ∀ worktree ∈ resolution.worktrees, Known view resolution worktree.currentSnapshotId

/-- At most one record of a worktree more, and none of a repository. -/
def Grown (ids : FreshIds) (view : RepositoryCurrentView) (done : List WorktreeId)
    (resolution resolution' : RepositoryResolution) : Prop :=
  Growing ids view done resolution' ∧ resolution'.repositories = resolution.repositories ∧
    resolution'.worktrees.length ≤ resolution.worktrees.length + 1

theorem length_addWorktree (resolution : RepositoryResolution) (worktree : WorktreeInstance) :
    (resolution.addWorktree worktree).worktrees.length = resolution.worktrees.length + 1 :=
  List.length_append

variable {done : List WorktreeId} {transition : WorktreeTransition} {snapshot : WorktreeSnapshot}

theorem Known.addSnapshot {snapshotId : Option WorktreeSnapshotId} (h : Known view resolution snapshotId)
    (snapshot : WorktreeSnapshot) : Known view (resolution.addSnapshot snapshot) snapshotId := by
  intro id hid
  refine (h id hid).imp_right fun hmem => ?_
  unfold RepositoryResolution.addSnapshot
  rw [List.map_append]
  exact List.mem_append_left _ hmem

theorem known_addSnapshot (resolution : RepositoryResolution) (snapshot : WorktreeSnapshot) :
    Known view (resolution.addSnapshot snapshot) (some snapshot.worktreeSnapshotId) := by
  intro id hid
  cases hid
  refine .inr ?_
  unfold RepositoryResolution.addSnapshot
  rw [List.map_append]
  exact List.mem_append_right _ (List.mem_singleton_self _)

theorem known_none : Known view resolution none := by
  intro id hid
  cases hid

theorem known_current (hview : ViewOk view) {id : WorktreeId} (hold : view.worktrees.get id = some old) :
    Known view resolution old.currentSnapshotId := fun snapshotId hsnapshot =>
  .inl (hview.currentSnapshot id old snapshotId hold hsnapshot)

theorem Growing.addTransition (h : Growing ids view done resolution) (hvalid : transition.validate = .ok ())
    (hfrom : Known view resolution transition.fromSnapshotId) (hto : Known view resolution transition.toSnapshotId) :
    Growing ids view done (resolution.addTransition transition) := by
  refine ⟨h.once, h.origin, h.known, h.worktrees, fun t ht => ?_, h.worktreeSnapshots⟩
  rcases List.mem_append.mp ht with ht | ht
  · exact h.transitions t ht
  · rw [List.mem_singleton.mp ht]
    exact ⟨hvalid, hfrom, hto⟩

theorem Growing.addSnapshot (h : Growing ids view done resolution) (snapshot : WorktreeSnapshot) :
    Growing ids view done (resolution.addSnapshot snapshot) := by
  refine ⟨h.once, h.origin, h.known, h.worktrees, fun t ht => ?_, fun w hw => ?_⟩
  · obtain ⟨hvalid, hfrom, hto⟩ := h.transitions t ht
    exact ⟨hvalid, hfrom.addSnapshot snapshot, hto.addSnapshot snapshot⟩
  · exact (h.worktreeSnapshots w hw).addSnapshot snapshot

/-- One record more, of a worktree that has none yet. -/
theorem Growing.add (h : Growing ids view done resolution) {done' : List WorktreeId} (hdone : ∀ id ∈ done, id ∈ done')
    (hknown : ∀ id ∈ done', (view.worktrees.get id).isSome)
    (hfresh : worktree.worktreeInstanceId ∉ resolution.worktrees.map WorktreeInstance.worktreeInstanceId)
    (horigin : worktree.worktreeInstanceId ∈ done' ∨
      worktree.worktreeInstanceId = ids.worktree resolution.worktrees.length)
    (hrecord : WorktreeRecord view worktree) (hsnapshot : Known view resolution worktree.currentSnapshotId) :
    Growing ids view done' (resolution.addWorktree worktree) := by
  refine ⟨?_, ?_, hknown, ?_, h.transitions, ?_⟩
  · unfold RepositoryResolution.addWorktree
    rw [List.map_append, List.map_singleton, ← List.concat_eq_append, List.nodup_concat]
    exact ⟨hfresh, h.once⟩
  · intro w hw
    unfold RepositoryResolution.addWorktree
    rw [List.length_append, List.length_singleton]
    rcases List.mem_append.mp hw with hw | hw
    · refine (h.origin w hw).imp (hdone _) ?_
      intro ⟨n, hn, hid⟩
      exact ⟨n, hn.trans (Nat.lt_succ_self _), hid⟩
    · rw [List.mem_singleton.mp hw]
      exact horigin.imp_right fun hid => ⟨_, Nat.lt_succ_self _, hid⟩
  · intro w hw
    rcases List.mem_append.mp hw with hw | hw
    · exact h.worktrees w hw
    · rw [List.mem_singleton.mp hw]
      exact hrecord
  · intro w hw
    rcases List.mem_append.mp hw with hw | hw
    · exact h.worktreeSnapshots w hw
    · rw [List.mem_singleton.mp hw]
      exact hsnapshot

theorem Growing.addRevision (hids : Unused ids view e) (h : Growing ids view done resolution)
    (hrecord : WorktreeRecord view worktree) (hsnapshot : Known view resolution worktree.currentSnapshotId)
    (hknown : (view.worktrees.get worktree.worktreeInstanceId).isSome)
    (hnew : worktree.worktreeInstanceId ∉ done) :
    Growing ids view (worktree.worktreeInstanceId :: done) (resolution.addWorktree worktree) := by
  refine h.add (fun id => List.mem_cons_of_mem _) ?_ ?_ (.inl List.mem_cons_self) hrecord hsnapshot
  · intro id hid
    rcases List.mem_cons.mp hid with rfl | hid
    · exact hknown
    · exact h.known id hid
  · intro hmem
    obtain ⟨other, hother, hid⟩ := List.mem_map.mp hmem
    rcases h.origin other hother with hdone | ⟨n, -, hn⟩
    · exact hnew (hid ▸ hdone)
    · rw [← hid, hn, hids.worktree n] at hknown
      cases hknown

theorem Growing.addCreated (hids : Unused ids view e) (h : Growing ids view done resolution)
    (hroom : resolution.worktrees.length ≤ mostWorktrees view e)
    (hid : worktree.worktreeInstanceId = ids.worktree resolution.worktrees.length)
    (hvalid : worktree.validate = .ok ()) (hsnapshot : Known view resolution worktree.currentSnapshotId) :
    Growing ids view done (resolution.addWorktree worktree) := by
  refine h.add (fun _ => id) h.known ?_ (.inr hid) ⟨hvalid, fun old hold => ?_⟩ hsnapshot
  · intro hmem
    obtain ⟨other, hother, hother'⟩ := List.mem_map.mp hmem
    rcases h.origin other hother with hdone | ⟨n, hn, hn'⟩
    · have hknown := h.known _ hdone
      rw [hother', hid, hids.worktree] at hknown
      cases hknown
    · rw [← hother', hn'] at hid
      exact hids.distinct _ hroom n hn hid
  · rw [hid, hids.worktree] at hold
    cases hold

theorem Growing.skip (h : Growing ids view done resolution) {id : WorktreeId} (hknown : (view.worktrees.get id).isSome) :
    Growing ids view (id :: done) resolution := by
  refine ⟨h.once, fun w hw => (h.origin w hw).imp_left (List.mem_cons_of_mem _), fun id' hid' => ?_, h.worktrees,
    h.transitions, h.worktreeSnapshots⟩
  rcases List.mem_cons.mp hid' with rfl | hid'
  · exact hknown
  · exact h.known id' hid'

/-! ## The probed worktree -/

theorem domain_ne_panic (checked : Except RepositoryError Unit) : domain checked ≠ .error .panic := by
  cases checked with
  | ok value => exact nofun
  | error error => exact nofun

theorem domain_eq_ok {checked : Except RepositoryError Unit} {u : Unit} (h : domain checked = .ok u) :
    checked = .ok () := by
  cases checked with
  | ok value => rfl
  | error error => cases h

theorem yields_expected {α : Type} {checked : Except RepositoryError Unit} {post : α → Prop}
    {next : Unit → Except RepositoryResolveError α} (hchecked : checked = .ok ())
    (hnext : Yields .panic post (next ())) : Yields .panic post (expected checked >>= next) := by
  rw [hchecked]
  exact hnext

theorem snapshotFromEvidence_yields (worktreeId : WorktreeId) :
    Yields .panic (fun _ => True) (snapshotFromEvidence ids resolution worktreeId e) :=
  Yields.bind_ok (domain_ne_panic _) fun _ _ => trivial

theorem probedSnapshot_yields (worktreeId : WorktreeId) (entry : WorktreeAdminEntry) :
    Yields .panic (fun _ => True) (probedSnapshot ids resolution worktreeId entry e) := by
  unfold probedSnapshot
  split
  · exact (snapshotFromEvidence_yields worktreeId).map
  · trivial

theorem recordRecreated_yields (hview : ViewOk view) (h : Growing ids view done resolution) (worktreeId : WorktreeId)
    (assessment : LineageAssessment) (recreated : Option WorktreeId) :
    Yields .panic (fun r => Growing ids view done r)
      (recordRecreated ids view e worktreeId assessment resolution recreated) := by
  cases recreated with
  | none => exact h
  | some previous =>
    refine Yields.bind_ok (domain_ne_panic _) fun u hu => ?_
    refine h.addTransition (domain_eq_ok hu) ?_ known_none
    cases hprevious : view.worktrees.get previous with
    | none => exact known_none
    | some old => exact known_current hview hprevious

theorem recordRecreated_ok {worktreeId : WorktreeId} {assessment : LineageAssessment} {recreated : Option WorktreeId}
    (h : recordRecreated ids view e worktreeId assessment resolution recreated = .ok resolution') :
    resolution'.repositories = resolution.repositories ∧ resolution'.worktrees = resolution.worktrees ∧
      resolution'.snapshots = resolution.snapshots := by
  cases recreated with
  | none =>
    cases h
    exact ⟨rfl, rfl, rfl⟩
  | some previous =>
    obtain ⟨_, -, h⟩ := bind_eq_ok.mp h
    cases pure_eq_ok.mp h
    exact ⟨rfl, rfl, rfl⟩

theorem createWorktree_yields (hview : ViewOk view) (hids : Unused ids view e) (h : Growing ids view done resolution)
    (hroom : resolution.worktrees.length ≤ mostWorktrees view e) (repositoryId : RepositoryId)
    (entry : WorktreeAdminEntry) (recreated : Option WorktreeId) (assessment : LineageAssessment) :
    Yields .panic (fun p => Grown ids view done resolution p.2)
      (createWorktree ids view e resolution repositoryId entry recreated assessment) := by
  unfold createWorktree
  cases entry.gitdir with
  | none => exact ⟨h, rfl, Nat.le_succ _⟩
  | some gitdir =>
    refine (probedSnapshot_yields _ entry).bind fun snapshot _ => ?_
    refine Yields.bind_ok (domain_ne_panic _) fun u hu => ?_
    have hgrowing : Growing ids view done (snapshot.elim resolution resolution.addSnapshot) := by
      cases snapshot with
      | none => exact h
      | some snapshot => exact h.addSnapshot snapshot
    have hrepositories : (snapshot.elim resolution resolution.addSnapshot).repositories = resolution.repositories := by
      cases snapshot <;> rfl
    have hworktrees : (snapshot.elim resolution resolution.addSnapshot).worktrees = resolution.worktrees := by
      cases snapshot <;> rfl
    have hyields : Yields .panic _ (recordRecreated ids view e _ _ _ _) :=
      recordRecreated_yields hview hgrowing (ids.worktree resolution.worktrees.length) assessment
      recreated
    refine Yields.bind_ok (yields_iff.mp hyields).1 fun recorded hrecorded => ?_
    obtain ⟨hrep, hwt, hsnap⟩ := recordRecreated_ok hrecorded
    have hsame : recorded.worktrees = resolution.worktrees := hwt.trans hworktrees
    refine ⟨((yields_iff.mp hyields).2 recorded hrecorded).addCreated hids ?_ ?_ (domain_eq_ok hu) ?_, ?_, ?_⟩
    · rw [hsame]
      exact hroom
    · rw [hsame]
      rfl
    · cases snapshot with
      | none => exact known_none
      | some snapshot =>
        intro id hid
        rw [hsnap]
        exact known_addSnapshot resolution snapshot id hid
    · exact hrep.trans hrepositories
    · rw [← hsame]
      exact (length_addWorktree _ _).le

theorem next_of_valid (hvalid : worktree.validate = .ok ())
    (hrevision : worktree.worktreeRevision = old.worktreeRevision + 1)
    (hpredecessor : worktree.predecessorRevision = some old.worktreeRevision)
    (hlifecycle : lifecycleSuccessorAllowed old.lifecycle worktree.lifecycle = true) : Next old worktree := by
  have hchain := (worktree_valid_iff.mp hvalid).chain
  rw [hrevision, hpredecessor] at hchain
  exact ⟨hrevision ▸ next_of_chain hchain, hpredecessor, hlifecycle⟩

/-- A revision of a known worktree is a record of it. -/
theorem record_of_next (hold : view.worktrees.get worktree.worktreeInstanceId = some old)
    (hvalid : worktree.validate = .ok ()) (hnext : Next old worktree) : WorktreeRecord view worktree := by
  refine ⟨hvalid, fun other hother => ?_⟩
  rw [hold] at hother
  cases hother
  exact hnext

theorem lifecycle_kept (lifecycle : WorktreeLifecycle) : lifecycleSuccessorAllowed lifecycle lifecycle = true := by
  cases lifecycle <;> rfl

theorem lifecycle_active {lifecycle : WorktreeLifecycle} (hlive : lifecycle.isTerminal = false)
    (harchived : lifecycle ≠ .archived) : lifecycleSuccessorAllowed lifecycle .active = true := by
  cases lifecycle <;> simp_all [WorktreeLifecycle.isTerminal, lifecycleSuccessorAllowed]

theorem stateTransitionKind_fits {current : Option WorktreeSnapshot} {kind : TransitionKind}
    (h : stateTransitionKind current snapshot = some kind) : kind.fits true = true ∧ kind.needsSnapshot = true := by
  unfold stateTransitionKind at h
  cases current with
  | none => cases h
  | some current =>
    rw [Option.bind_some] at h
    split at h
    · cases h
      exact ⟨rfl, rfl⟩
    · split at h
      · cases h
        exact ⟨rfl, rfl⟩
      · split at h
        · cases h
          exact ⟨rfl, rfl⟩
        · cases h

/-- What the next revision of the probed worktree is, where Git lists another state. -/
theorem changedWorktree_some {entry : WorktreeAdminEntry} (h : changedWorktree old entry e = some worktree) :
    worktree.worktreeInstanceId = old.worktreeInstanceId ∧ worktree.worktreeRevision = old.worktreeRevision + 1 ∧
      worktree.predecessorRevision = some old.worktreeRevision ∧ worktree.lifecycle = .active ∧
      worktree.currentSnapshotId = old.currentSnapshotId := by
  unfold changedWorktree at h
  dsimp only at h
  split at h
  · cases h
    exact ⟨rfl, rfl, rfl, rfl, rfl⟩
  · cases h

section Candidate
variable {current : WorktreeInstance} {entry : WorktreeAdminEntry}

/-- A next revision of the probed worktree. -/
structure Succeeds (current updated : WorktreeInstance) : Prop where
  id : updated.worktreeInstanceId = current.worktreeInstanceId
  revision : updated.worktreeRevision = current.worktreeRevision + 1
  predecessor : updated.predecessorRevision = some current.worktreeRevision
  lifecycle : lifecycleSuccessorAllowed current.lifecycle updated.lifecycle = true

theorem Growing.addSuccessor (hids : Unused ids view e) (h : Growing ids view done resolution)
    (hcurrent : view.worktrees.get current.worktreeInstanceId = some current)
    (hnew : current.worktreeInstanceId ∉ done) (hsucceeds : Succeeds current worktree)
    (hvalid : worktree.validate = .ok ()) (hsnapshot : Known view resolution worktree.currentSnapshotId) :
    Growing ids view (current.worktreeInstanceId :: done) (resolution.addWorktree worktree) := by
  have hnext := next_of_valid hvalid hsucceeds.revision hsucceeds.predecessor hsucceeds.lifecycle
  have hknown : view.worktrees.get worktree.worktreeInstanceId = some current := hsucceeds.id ▸ hcurrent
  have hrecord := record_of_next hknown hvalid hnext
  rw [← hsucceeds.id]
  refine h.addRevision hids hrecord hsnapshot ?_ (hsucceeds.id ▸ hnew)
  rw [hknown]
  rfl

/-- The next revision with its snapshot, and a transition where the state differs. -/
theorem recordUpdated_yields (hview : ViewOk view) (hids : Unused ids view e) (he : EvidenceOk e)
    (h : Growing ids view done resolution)
    (hcurrent : view.worktrees.get current.worktreeInstanceId = some current)
    (hnew : current.worktreeInstanceId ∉ done) {updated : WorktreeInstance} (hsucceeds : Succeeds current updated)
    (hsnapshot : updated.currentSnapshotId = some snapshot.worktreeSnapshotId)
    (currentSnapshot : Option WorktreeSnapshot) (assessment : LineageAssessment) :
    Yields .panic (Grown ids view (current.worktreeInstanceId :: done) resolution)
      (do
        domain updated.validate
        match stateTransitionKind currentSnapshot snapshot with
        | none => return (resolution.addSnapshot snapshot).addWorktree updated
        | some kind => do
          let transition := newTransition ids resolution updated.worktreeInstanceId current.currentSnapshotId
            updated.worktreeInstanceId (some snapshot.worktreeSnapshotId) kind assessment view.frontier e
          expected transition.validate
          return ((resolution.addTransition transition).addSnapshot snapshot).addWorktree updated) := by
  refine Yields.bind_ok (domain_ne_panic _) fun u hu => ?_
  have hvalid := domain_eq_ok hu
  cases hkind : stateTransitionKind currentSnapshot snapshot with
  | none =>
    have hknown : Known view _ _ := known_addSnapshot resolution snapshot
    exact ⟨(h.addSnapshot snapshot).addSuccessor hids hcurrent hnew hsucceeds hvalid (hsnapshot ▸ hknown), rfl,
      (length_addWorktree _ _).le⟩
  | some kind =>
    obtain ⟨hfits, hneeds⟩ := stateTransitionKind_fits hkind
    have htransition : (newTransition ids resolution updated.worktreeInstanceId current.currentSnapshotId
        updated.worktreeInstanceId (some snapshot.worktreeSnapshotId) kind assessment view.frontier e).validate =
          .ok () :=
      newTransition_valid he (by rw [beq_self_eq_true]; exact hfits) hneeds
    have hknown : Known view _ _ := known_addSnapshot resolution snapshot
    -- the transition speaks of the snapshot, whichever of the two is added first
    have hgrown : Growing ids view done ((resolution.addTransition _).addSnapshot snapshot) :=
      (h.addSnapshot snapshot).addTransition htransition (known_current hview hcurrent) hknown
    exact yields_expected htransition ⟨hgrown.addSuccessor hids hcurrent hnew hsucceeds hvalid (hsnapshot ▸ hknown), rfl,
      (length_addWorktree _ _).le⟩

theorem recordSnapshot_yields (hview : ViewOk view) (hids : Unused ids view e) (he : EvidenceOk e)
    (h : Growing ids view done resolution)
    (hcurrent : view.worktrees.get current.worktreeInstanceId = some current)
    (hnew : current.worktreeInstanceId ∉ done) {successor : Option WorktreeInstance}
    (hsuccessor : ∀ value, successor = some value → Succeeds current value) (assessment : LineageAssessment) :
    Yields .panic (Grown ids view (current.worktreeInstanceId :: done) resolution)
      (recordSnapshot ids view e current successor assessment resolution) := by
  unfold recordSnapshot
  refine (snapshotFromEvidence_yields _).bind fun snapshot _ => ?_
  cases successor with
  | none =>
    have hsucceeds : Succeeds current { current with
        currentSnapshotId := some snapshot.worktreeSnapshotId
        worktreeRevision := current.worktreeRevision + 1
        predecessorRevision := some current.worktreeRevision
        recordedAtUs := e.occurredAtUs } := ⟨rfl, rfl, rfl, lifecycle_kept _⟩
    exact recordUpdated_yields hview hids he h hcurrent hnew hsucceeds rfl _ assessment
  | some value =>
    obtain ⟨hid, hrevision, hpredecessor, hlifecycle⟩ := hsuccessor value rfl
    have hsucceeds : Succeeds current { value with currentSnapshotId := some snapshot.worktreeSnapshotId } :=
      ⟨hid, hrevision, hpredecessor, hlifecycle⟩
    exact recordUpdated_yields hview hids he h hcurrent hnew hsucceeds rfl _ assessment

/-- The probed worktree in the same state, elsewhere. -/
theorem recordMove_yields (hview : ViewOk view) (hids : Unused ids view e) (he : EvidenceOk e)
    (h : Growing ids view done resolution)
    (hcurrent : view.worktrees.get current.worktreeInstanceId = some current)
    (hnew : current.worktreeInstanceId ∉ done) {value : WorktreeInstance} (hsucceeds : Succeeds current value)
    (hvalid : value.validate = .ok ()) (hsnapshot : value.currentSnapshotId = current.currentSnapshotId)
    (entry : WorktreeAdminEntry) :
    Yields .panic (Grown ids view (current.worktreeInstanceId :: done) resolution)
      (recordMove ids view e current entry value resolution) := by
  have hadded : ∀ r, Growing ids view done r → Growing ids view (current.worktreeInstanceId :: done) (r.addWorktree value) := by
    intro r hr
    exact hr.addSuccessor hids hcurrent hnew hsucceeds hvalid (hsnapshot ▸ known_current hview hcurrent)
  unfold recordMove
  dsimp only
  split
  · have htransition : ∀ repaired : Bool, (newTransition ids resolution value.worktreeInstanceId
        current.currentSnapshotId value.worktreeInstanceId none
        (if repaired then .worktreeRepaired else .pathMoved) .proven view.frontier e).validate = .ok () := by
      intro repaired
      refine newTransition_valid he ?_ ?_
      · rw [beq_self_eq_true]
        cases repaired <;> rfl
      · cases repaired <;> rfl
    exact yields_expected (htransition _)
      ⟨hadded _ (h.addTransition (htransition _) (known_current hview hcurrent) known_none), rfl,
        (length_addWorktree _ _).le⟩
  · exact ⟨hadded _ h, rfl, (length_addWorktree _ _).le⟩

/-- The probed worktree: it gets at most one revision, which may follow. -/
theorem reconcileExistingWorktree_yields (hview : ViewOk view) (hids : Unused ids view e) (he : EvidenceOk e)
    (h : Growing ids view done resolution)
    (hcurrent : view.worktrees.get current.worktreeInstanceId = some current)
    (hlive : current.lifecycle.isTerminal = false) (hnew : current.worktreeInstanceId ∉ done)
    (hsettled : current.lifecycle = .archived → changedWorktree current entry e = none)
    (assessment : LineageAssessment) :
    Yields .panic (Grown ids view (current.worktreeInstanceId :: done) resolution)
      (reconcileExistingWorktree ids view e current entry assessment resolution) := by
  have hsucceeds : ∀ value, changedWorktree current entry e = some value → Succeeds current value := by
    intro value hvalue
    obtain ⟨hid, hrevision, hpredecessor, hlifecycle, -⟩ := changedWorktree_some hvalue
    refine ⟨hid, hrevision, hpredecessor, ?_⟩
    rw [hlifecycle]
    refine lifecycle_active hlive fun harchived => ?_
    rw [hsettled harchived] at hvalue
    cases hvalue
  unfold reconcileExistingWorktree
  dsimp only
  cases hchanged : changedWorktree current entry e with
  | none =>
    split
    · exact recordSnapshot_yields hview hids he h hcurrent hnew (by intro v hv; cases hv) assessment
    · exact ⟨h.skip (by rw [hcurrent]; rfl), rfl, Nat.le_succ _⟩
  | some value =>
    refine Yields.bind_ok (domain_ne_panic _) fun u hu => ?_
    split
    · exact recordSnapshot_yields hview hids he h hcurrent hnew (by intro v hv; cases hv; exact hsucceeds value hchanged)
        assessment
    · exact recordMove_yields hview hids he h hcurrent hnew (hsucceeds value hchanged) (domain_eq_ok hu)
        (changedWorktree_some hchanged).2.2.2.2 entry

end Candidate

end EverTrace.L2.Resolver
