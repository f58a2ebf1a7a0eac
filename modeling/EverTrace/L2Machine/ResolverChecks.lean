import EverTrace.L2Machine.ResolverRecords
/-!
# What a probe of a known repository checks

The resolver makes the records of a probe one after the other and checks each. The
records do not read each other, so the checks are conditions on the view and the
evidence alone: `probeChecks` lists them in the order of the code. Most end the
resolution with an error when they fail. Those of a worktree that has gone missing,
or has ended, are expected to pass, and fail at the last revision number only
(`passiveSuccessor_some`). A record that makes an archived worktree active passes
its check and spoils the resolution.

`resolveExistingRepository_makes`: the resolver makes these checks and no others.
-/
namespace EverTrace.L2.Resolver
open EverTrace.Lib EverTrace.L1 EverTrace.L2.Repository

/-! ## The checks -/

/-- The next revision of a repository that has moved or has other remotes. -/
def repositoryChecks (e : GitProbeEvidence) (repository : RepositoryInstance) (mainRoot : String) : List Check :=
  if repository.currentPath ≠ mainRoot then [.of (movedRepository e repository mainRoot).validate.isOk]
  else if repository.remoteFingerprints ≠ e.remoteFingerprints then [.of (withRemotes e repository).validate.isOk]
  else []

/-- The snapshot of the probed state; its ids are not checked. -/
def snapshotPasses (ids : FreshIds) (e : GitProbeEvidence) : Bool :=
  (probedState ids (.empty .noDelta none) (ids.worktree 0) e).validate.isOk

/-- A worktree made from a line of the list, with its snapshot where it is the probed one. -/
def createdChecks (ids : FreshIds) (e : GitProbeEvidence) (entry : WorktreeAdminEntry) (gitdir : String) : List Check :=
  (if e.worktreeRoot = some entry.path then [.of (snapshotPasses ids e)] else [])
    ++ [.of ((validLocator entry.path).isOk && (validLocator gitdir).isOk)]

/-- The next revision of the probed worktree, where Git lists another state of it, and the one with the snapshot of a
changed state. -/
def existingChecks (ids : FreshIds) (view : RepositoryCurrentView) (e : GitProbeEvidence) (current : WorktreeInstance)
    (entry : WorktreeAdminEntry) : List Check :=
  let changed := changedWorktree current entry e
  (changed.map fun next => (⟨next.validate.isOk, false, current.lifecycle == .archived⟩ : Check)).toList
    ++ if stateChanged (current.currentSnapshotId.bind view.snapshots.get) e then
        [.of (snapshotPasses ids e), .of (changed.isSome || current.worktreeRevision != lastRevision)]
      else []

def candidateChecks (ids : FreshIds) (view : RepositoryCurrentView) (e : GitProbeEvidence) (repositoryId : RepositoryId)
    (entry : WorktreeAdminEntry) (admin : String) : List Check :=
  match candidateMatch view e repositoryId admin with
  | some current => existingChecks ids view e current entry
  | none => createdChecks ids e entry admin

/-- The next revision of a worktree that was not probed. -/
def otherChecks (view : RepositoryCurrentView) (e : GitProbeEvidence) (repositoryId : RepositoryId)
    (repositoryMoved : Bool) (worktree : WorktreeInstance) : List Check :=
  match WorktreeInstance.adminPath worktree with
  | none => []
  | some admin =>
    let expectedPath := expectedAdmin view e repositoryId repositoryMoved admin
    match passiveSuccessor e worktree admin expectedPath (listedEntry e repositoryMoved expectedPath worktree) with
    | none => []
    | some (successor, kind) =>
      if kind = .pathMoved then [⟨successor.validate.isOk, false, worktree.lifecycle == .archived⟩]
      else [⟨worktree.worktreeRevision != lastRevision, true, false⟩]

/-- The live worktrees of the repository that were not probed. -/
def otherWorktrees (view : RepositoryCurrentView) (e : GitProbeEvidence) (repositoryId : RepositoryId)
    (admin : String) : List WorktreeInstance :=
  (knownWorktrees view repositoryId).filter fun worktree => !worktree.lifecycle.isTerminal
    && some worktree.worktreeInstanceId !=
      (candidateMatch view e repositoryId admin).map WorktreeInstance.worktreeInstanceId

/-- The admin path under which a worktree was found in the list. -/
def foundAt (view : RepositoryCurrentView) (e : GitProbeEvidence) (repositoryId : RepositoryId)
    (repositoryMoved : Bool) (worktree : WorktreeInstance) : List String :=
  match WorktreeInstance.adminPath worktree with
  | none => []
  | some admin => ((listedEntry e repositoryMoved (expectedAdmin view e repositoryId repositoryMoved admin)
      worktree).map fun entry => entry.gitdir.getD "").toList

def foundAdmins (view : RepositoryCurrentView) (e : GitProbeEvidence) (repositoryId : RepositoryId)
    (repositoryMoved : Bool) (admin : String) : List String :=
  (if (candidateMatch view e repositoryId admin).isSome then [admin] else [])
    ++ (otherWorktrees view e repositoryId admin).flatMap (foundAt view e repositoryId repositoryMoved)

/-- A new worktree at a listed path where one has ended. -/
def listedChecks (ids : FreshIds) (view : RepositoryCurrentView) (e : GitProbeEvidence) (repositoryId : RepositoryId)
    (root : String) (found : List String) (entry : WorktreeAdminEntry) : List Check :=
  if entry.gitdir.isNone || found.contains (entry.gitdir.getD "")
      || (knownWorktrees view repositoryId).any (fun worktree =>
        !worktree.lifecycle.isTerminal && WorktreeInstance.adminPath worktree == entry.gitdir)
      || entry.path == root then []
  else match recreatedFrom view entry with
    | none => []
    | some _ => createdChecks ids e entry (entry.gitdir.getD "")

def worktreeChecks (ids : FreshIds) (view : RepositoryCurrentView) (e : GitProbeEvidence) (repositoryId : RepositoryId)
    (repositoryMoved : Bool) (root : String) (entry : WorktreeAdminEntry) (admin : String) : List Check :=
  candidateChecks ids view e repositoryId entry admin
    ++ ((otherWorktrees view e repositoryId admin).flatMap (otherChecks view e repositoryId repositoryMoved)
    ++ e.worktreeEntries.flatMap
      (listedChecks ids view e repositoryId root (foundAdmins view e repositoryId repositoryMoved admin)))

def probeChecks (ids : FreshIds) (view : RepositoryCurrentView) (e : GitProbeEvidence) (repository : RepositoryInstance)
    (mainRoot root : String) (entry : WorktreeAdminEntry) (admin : String) : List Check :=
  repositoryChecks e repository mainRoot
    ++ worktreeChecks ids view e repository.repositoryId (decide (repository.currentPath ≠ mainRoot)) root entry admin

/-! ## Spoilt resolutions -/

/-- A record of a worktree in a lifecycle that may not follow the one of the view. -/
def Revives (view : RepositoryCurrentView) (worktree : WorktreeInstance) : Prop :=
  ∃ old, view.worktrees.get worktree.worktreeInstanceId = some old ∧
    lifecycleSuccessorAllowed old.lifecycle worktree.lifecycle = false

def Revived (view : RepositoryCurrentView) (resolution : RepositoryResolution) : Prop :=
  ∃ worktree ∈ resolution.worktrees, Revives view worktree

variable {ids : FreshIds} {view : RepositoryCurrentView} {e : GitProbeEvidence} {repositoryId : RepositoryId}
  {resolution resolution' : RepositoryResolution} {worktree old : WorktreeInstance} {entry : WorktreeAdminEntry}
  {before : Prop}

theorem Revived.not_recordable (h : Revived view resolution) : ¬Recordable view resolution := by
  intro hrecordable
  obtain ⟨worktree, hmem, old, hold, hnot⟩ := h
  have hallowed := ((hrecordable.worktrees worktree hmem).2 old hold).lifecycle
  rw [hnot] at hallowed
  exact Bool.false_ne_true hallowed

theorem Revived.of_worktrees (h : Revived view resolution) (hsame : resolution'.worktrees = resolution.worktrees) :
    Revived view resolution' := by
  unfold Revived
  rwa [hsame]

/-- One record more: what was spoilt stays so. -/
theorem revived_add (hadded : resolution'.worktrees = resolution.worktrees ++ [worktree])
    (h : Revived view resolution ∨ Revives view worktree) : Revived view resolution' := by
  unfold Revived
  rw [hadded]
  rcases h with ⟨other, hother, hrevives⟩ | h
  · exact ⟨other, List.mem_append_left _ hother, hrevives⟩
  · exact ⟨worktree, List.mem_append_right _ (List.mem_singleton_self _), h⟩

theorem revived_addWorktree (h : Revived view resolution ∨ Revives view worktree) :
    Revived view (resolution.addWorktree worktree) := revived_add rfl h

/-! ## One check -/

section Steps
variable {α : Type} {spoilt : α → Prop} {checks : List Check} {checked : Except RepositoryError Unit}
  {next : Unit → Except RepositoryResolveError α}

theorem makes_domain {check : Check} (hpasses : check.passes = true ↔ checked = .ok ())
    (hrequired : check.required = false)
    (hnext : checked = .ok () → Makes .panic (before ∨ check.spoils = true) spoilt checks (next ())) :
    Makes .panic before spoilt (check :: checks) (domain checked >>= next) :=
  Makes.mapError hpasses (fun error => by simp [hrequired]) hnext

theorem makes_expected {check : Check} (hpasses : check.passes = true ↔ checked = .ok ())
    (hrequired : check.required = true)
    (hnext : checked = .ok () → Makes .panic (before ∨ check.spoils = true) spoilt checks (next ())) :
    Makes .panic before spoilt (check :: checks) (expected checked >>= next) :=
  Makes.mapError hpasses (fun error => by simp [hrequired]) hnext

theorem expected_bind (h : checked = .ok ()) : (expected checked >>= next) = next () := by
  rw [h]
  rfl

theorem domain_bind (h : checked = .ok ()) : (domain checked >>= next) = next () := by
  rw [h]
  rfl

/-- A check that spoils nothing. -/
theorem Makes.of_before {x : Except RepositoryResolveError α} {passes : Bool}
    (h : Makes .panic before spoilt checks x) :
    Makes .panic (before ∨ (Check.of passes).spoils = true) spoilt checks x :=
  h.weaken fun hbefore => hbefore.resolve_right Bool.false_ne_true

end Steps

/-! ## Created worktrees -/

theorem snapshotFromEvidence_makes (worktreeId : WorktreeId) {checks : List Check} {α : Type} {spoilt : α → Prop}
    {next : WorktreeSnapshot → Except RepositoryResolveError α}
    (hnext : ∀ snapshot, Makes .panic before spoilt checks (next snapshot)) :
    Makes .panic before spoilt (.of (snapshotPasses ids e) :: checks)
      (snapshotFromEvidence ids resolution worktreeId e >>= next) := by
  -- the check of the probed state reads no id
  have hsame : (probedState ids resolution worktreeId e).validate =
      (probedState ids (.empty .noDelta none) (ids.worktree 0) e).validate := rfl
  have hpasses : snapshotPasses ids e = true ↔ (probedState ids resolution worktreeId e).validate = .ok () := by
    rw [hsame]
    exact isOk_iff
  unfold snapshotFromEvidence
  rw [bind_assoc]
  exact makes_domain hpasses rfl fun _ => Makes.of_before (hnext _)

theorem newWorktree_valid_iff (he : EvidenceOk e) {worktreeId : WorktreeId} {gitdir : String}
    {snapshot : Option WorktreeSnapshot} {recreated : Option WorktreeId} (hother : recreated ≠ some worktreeId) :
    (newWorktree worktreeId e repositoryId entry gitdir snapshot recreated).validate = .ok () ↔
      validLocator entry.path = .ok () ∧ validLocator gitdir = .ok () := by
  rw [worktree_valid_iff]
  have hobservation : ∀ path, (pathObservation path e).validate = .ok () ↔ validLocator path = .ok () := by
    intro path
    obtain ⟨hne, hunique⟩ := he.refs_ok
    unfold PathObservation.validate pathObservation
    simp only [bind_eq_ok, ensure_ok, forM_validRef he, hunique, hne, he.time, decide_true, le_refl, Bool.not_false,
      Bool.and_true, and_true, exists_const]
    exact ⟨fun ⟨_, h⟩ => h, fun h => ⟨(), h⟩⟩
  constructor
  · intro h
    exact ⟨(hobservation _).mp (h.observations _ List.mem_cons_self),
      (hobservation _).mp (h.observations _ (List.mem_cons_of_mem _ List.mem_cons_self))⟩
  · intro ⟨hpath, hgitdir⟩
    refine ⟨rfl, hother, he.time, List.cons_ne_nil _ _, List.cons_ne_nil _ _, ?_, validRef_head he, nofun, ?_⟩
    · intro observation hmem
      rcases List.mem_cons.mp hmem with rfl | hmem
      · exact (hobservation _).mpr hpath
      · rw [List.mem_singleton.mp hmem]
        exact (hobservation _).mpr hgitdir
    · unfold WorktreeInstance.lifecycleOk newWorktree
      refine bind_eq_ok.mpr ⟨entry.path, rfl, bind_eq_ok.mpr ⟨(), hpath, ?_⟩⟩
      rw [ensure_ok]
      simp [pathObservation]

theorem recreatedFrom_known (hview : ViewOk view) {previous : WorktreeId} (h : recreatedFrom view entry = some previous) :
    (view.worktrees.get previous).isSome := by
  obtain ⟨terminal, hfound, rfl⟩ := Option.map_eq_some_iff.mp h
  have hmem : terminal ∈ view.worktrees.values := (List.mem_filter.mp (List.mem_of_find?_eq_some hfound)).1
  obtain ⟨id, hid⟩ := OrdMap.mem_values.mp hmem
  rw [hview.worktreeKey id terminal hid, hid]
  rfl

theorem recordRecreated_eq (hids : Unused ids view e) (he : EvidenceOk e) {recreated : Option WorktreeId}
    (hknown : ∀ previous, recreated = some previous → (view.worktrees.get previous).isSome) (n : Nat)
    (assessment : LineageAssessment) (resolution : RepositoryResolution) : ∃ recorded,
      recordRecreated ids view e (ids.worktree n) assessment resolution recreated = .ok recorded ∧
        recorded.worktrees = resolution.worktrees := by
  cases recreated with
  | none => exact ⟨resolution, rfl, rfl⟩
  | some previous =>
    have hne : previous ≠ ids.worktree n := by
      rintro rfl
      have hsome := hknown _ rfl
      rw [hids.worktree n] at hsome
      cases hsome
    have hvalid : (newTransition ids resolution previous
        ((view.worktrees.get previous).bind WorktreeInstance.currentSnapshotId) (ids.worktree n) none
        .worktreeRecreated assessment view.frontier e).validate = .ok () :=
      newTransition_valid he (by rw [beq_eq_false_iff_ne.mpr hne]; rfl) rfl
    exact ⟨resolution.addTransition _, domain_bind hvalid, rfl⟩

theorem createWorktree_makes (hids : Unused ids view e) (he : EvidenceOk e) {gitdir : String}
    (hgitdir : entry.gitdir = some gitdir) {recreated : Option WorktreeId}
    (hknown : ∀ previous, recreated = some previous → (view.worktrees.get previous).isSome)
    (assessment : LineageAssessment) (resolution : RepositoryResolution) :
    Makes .panic (Revived view resolution) (fun p => Revived view p.2) (createdChecks ids e entry gitdir)
      (createWorktree ids view e resolution repositoryId entry recreated assessment) := by
  have hother : recreated ≠ some (ids.worktree resolution.worktrees.length) := by
    rintro rfl
    have hsome := hknown _ rfl
    rw [hids.worktree] at hsome
    cases hsome
  -- the worktree and its transition, after the snapshot
  have hworktree : ∀ snapshot : Option WorktreeSnapshot, Makes .panic (Revived view resolution) (fun p => Revived view p.2)
      [.of ((validLocator entry.path).isOk && (validLocator gitdir).isOk)]
      (do
        let worktree := newWorktree (ids.worktree resolution.worktrees.length) e repositoryId entry gitdir snapshot recreated
        domain worktree.validate
        let resolution ← recordRecreated ids view e (ids.worktree resolution.worktrees.length) assessment
          (snapshot.elim resolution resolution.addSnapshot) recreated
        return (some worktree, resolution.addWorktree worktree)) := by
    intro snapshot
    refine makes_domain ?_ rfl fun _ => Makes.of_before ?_
    · rw [newWorktree_valid_iff he hother, Check.of, Bool.and_eq_true, isOk_iff, isOk_iff]
    · obtain ⟨recorded, hrecorded, hsame⟩ := recordRecreated_eq hids he hknown resolution.worktrees.length assessment
        (snapshot.elim resolution resolution.addSnapshot)
      rw [hrecorded]
      refine Makes.ok fun hrevived => revived_addWorktree (.inl (hrevived.of_worktrees ?_))
      rw [hsame]
      cases snapshot <;> rfl
  unfold createWorktree createdChecks probedSnapshot
  rw [hgitdir]
  dsimp only
  by_cases hprobed : e.worktreeRoot = some entry.path
  · rw [if_pos hprobed, if_pos hprobed]
    have hmap : ∀ (x : Except RepositoryResolveError WorktreeSnapshot)
        (f : Option WorktreeSnapshot → Except RepositoryResolveError (Option WorktreeInstance × RepositoryResolution)),
        (x.map some >>= f) = (x >>= fun snapshot => f (some snapshot)) := by
      intro x f
      cases x <;> rfl
    rw [hmap]
    exact snapshotFromEvidence_makes _ fun snapshot => hworktree (some snapshot)
  · rw [if_neg hprobed, if_neg hprobed]
    exact hworktree none

/-! ## The probed worktree -/

/-- A valid worktree stays valid at its next revision where there is one. -/
theorem revised_valid_iff (he : EvidenceOk e) (hold : WorktreeOk old) (snapshotId : Option WorktreeSnapshotId) :
    ({ old with
      currentSnapshotId := snapshotId
      worktreeRevision := old.worktreeRevision + 1
      predecessorRevision := some old.worktreeRevision
      recordedAtUs := e.occurredAtUs } : WorktreeInstance).validate = .ok () ↔ old.worktreeRevision ≠ lastRevision := by
  rw [worktree_valid_iff]
  refine ⟨fun h => ne_last_of_chain h.chain, fun hrevision => ?_⟩
  exact ⟨chain_of_ne_last hold.revision_pos hrevision, hold.other, he.time, hold.paths, hold.adminPaths,
    hold.observations, hold.created, hold.terminal, hold.lifecycle⟩

section Existing
variable {current : WorktreeInstance} {successor : Option WorktreeInstance}

theorem recordSnapshot_makes (hview : ViewOk view) (he : EvidenceOk e)
    (hcurrent : view.worktrees.get current.worktreeInstanceId = some current)
    (hsuccessor : ∀ value, successor = some value → value.validate = .ok ()) (assessment : LineageAssessment) :
    Makes .panic (Revived view resolution ∨ ∃ value, successor = some value ∧ Revives view value) (Revived view)
      [.of (snapshotPasses ids e), .of (successor.isSome || current.worktreeRevision != lastRevision)]
      (recordSnapshot ids view e current successor assessment resolution) := by
  unfold recordSnapshot
  refine snapshotFromEvidence_makes _ fun snapshot => makes_domain ?_ rfl fun _ => Makes.of_before ?_
  · cases successor with
    | none =>
      rw [revised_valid_iff he (worktree_valid_iff.mp (hview.worktreeValid _ current hcurrent))]
      simp [Check.of]
    | some value => exact ⟨fun _ => hsuccessor value rfl, fun _ => rfl⟩
  -- the record of the worktree, whichever transition comes with it
  have hrevived : ∀ r : RepositoryResolution, r.worktrees = resolution.worktrees →
      (Revived view resolution ∨ ∃ value, successor = some value ∧ Revives view value) →
      ∀ updated : WorktreeInstance, (∀ value, successor = some value → Revives view value → Revives view updated) →
        Revived view (r.addWorktree updated) := by
    intro r hsame h updated hupdated
    refine revived_addWorktree ?_
    rcases h with h | ⟨value, hvalue, hrevives⟩
    · exact .inl (h.of_worktrees hsame)
    · exact .inr (hupdated value hvalue hrevives)
  dsimp only
  cases hkind : stateTransitionKind (current.currentSnapshotId.bind view.snapshots.get) snapshot with
  | none => exact Makes.ok fun h => hrevived (resolution.addSnapshot snapshot) rfl h _ (by rintro value rfl h; exact h)
  | some kind =>
    obtain ⟨hfits, hneeds⟩ := stateTransitionKind_fits hkind
    dsimp only
    rw [expected_bind (newTransition_valid he (by rw [beq_self_eq_true]; exact hfits) hneeds)]
    exact Makes.ok fun h =>
      hrevived ((resolution.addTransition _).addSnapshot snapshot) rfl h _ (by rintro value rfl h; exact h)

theorem recordMove_eq (ids : FreshIds) (view : RepositoryCurrentView) (current : WorktreeInstance)
    (entry : WorktreeAdminEntry) (resolution : RepositoryResolution) (he : EvidenceOk e) (value : WorktreeInstance) :
    ∃ moved, recordMove ids view e current entry value resolution = .ok moved ∧
      moved.worktrees = resolution.worktrees ++ [value] := by
  unfold recordMove
  dsimp only
  split
  · refine ⟨_, expected_bind (newTransition_valid he ?_ ?_), rfl⟩
    · rw [beq_self_eq_true]
      split <;> rfl
    · split <;> rfl
  · exact ⟨_, rfl, rfl⟩

theorem reconcileExistingWorktree_makes (hview : ViewOk view) (he : EvidenceOk e)
    (hcurrent : view.worktrees.get current.worktreeInstanceId = some current) (assessment : LineageAssessment) :
    Makes .panic (Revived view resolution) (Revived view) (existingChecks ids view e current entry)
      (reconcileExistingWorktree ids view e current entry assessment resolution) := by
  unfold reconcileExistingWorktree existingChecks
  dsimp only
  cases hchanged : changedWorktree current entry e with
  | none =>
    split
    · exact (recordSnapshot_makes hview he hcurrent (by rintro _ ⟨⟩) assessment).weaken .inl
    · exact Makes.ok id
  | some value =>
    refine makes_domain isOk_iff rfl fun hvalid => ?_
    obtain ⟨hid, -, -, hactive, -⟩ := changedWorktree_some hchanged
    have hrevives : Revived view resolution ∨ (current.lifecycle == .archived) = true →
        Revived view resolution ∨ ∃ next, some value = some next ∧ Revives view next := by
      refine Or.imp_right fun harchived => ⟨value, rfl, current, by rw [hid, hcurrent], ?_⟩
      rw [beq_iff_eq.mp harchived, hactive]
      rfl
    split
    · exact (recordSnapshot_makes hview he hcurrent (by rintro _ ⟨⟩; exact hvalid) assessment).weaken hrevives
    · obtain ⟨moved, hmoved, hadded⟩ := recordMove_eq ids view current entry resolution he value
      dsimp only
      rw [hmoved]
      refine Makes.ok fun h => revived_add hadded ((hrevives h).imp_right ?_)
      rintro ⟨_, ⟨⟩, h⟩
      exact h

end Existing

/-! ## The other worktrees -/

theorem known_get (hview : ViewOk view) (h : worktree ∈ knownWorktrees view repositoryId) :
    view.worktrees.get worktree.worktreeInstanceId = some worktree := by
  obtain ⟨id, hid⟩ := OrdMap.mem_values.mp (List.mem_filter.mp h).1
  rw [hview.worktreeKey id worktree hid]
  exact hid

theorem knownWorktrees_nodup (hview : ViewOk view) :
    ((knownWorktrees view repositoryId).map WorktreeInstance.worktreeInstanceId).Nodup := by
  have hkeys : view.worktrees.values.map WorktreeInstance.worktreeInstanceId = view.worktrees.entries.map Prod.fst := by
    unfold OrdMap.values
    rw [List.map_map]
    refine List.map_congr_left fun entry hentry => ?_
    exact hview.worktreeKey entry.1 entry.2 (OrdMap.mem_entries.mp hentry)
  have hnodup : (view.worktrees.values.map WorktreeInstance.worktreeInstanceId).Nodup := hkeys ▸ view.worktrees.nodup_keys
  exact hnodup.sublist (List.Sublist.map _ List.filter_sublist)

/-- What the next revision of a worktree that was not probed is. -/
structure Passive (old worktree : WorktreeInstance) (kind : TransitionKind) : Prop where
  id : worktree.worktreeInstanceId = old.worktreeInstanceId
  revision : worktree.worktreeRevision = old.worktreeRevision + 1
  predecessor : worktree.predecessorRevision = some old.worktreeRevision
  snapshot : worktree.currentSnapshotId = old.currentSnapshotId
  fits : kind.fits true = true
  needs : kind.needsSnapshot = false
  moved : kind = .pathMoved → worktree.lifecycle = .active
  other : kind ≠ .pathMoved → lifecycleSuccessorAllowed old.lifecycle worktree.lifecycle = true ∧
    (worktree.validate = .ok () ↔ old.worktreeRevision ≠ lastRevision)

theorem passiveSuccessor_some (he : EvidenceOk e) (hold : WorktreeOk old) (hlive : old.lifecycle.isTerminal = false)
    {admin : String} {expectedPath : Option String} {listed : Option WorktreeAdminEntry} {kind : TransitionKind}
    (h : passiveSuccessor e old admin expectedPath listed = some (worktree, kind)) : Passive old worktree kind := by
  have hended : ∀ lifecycle : WorktreeLifecycle, lifecycle.isTerminal = true →
      lifecycleSuccessorAllowed old.lifecycle lifecycle = true := by
    intro lifecycle hlifecycle
    cases hlife : old.lifecycle <;> cases lifecycle <;> simp_all [WorktreeLifecycle.isTerminal, lifecycleSuccessorAllowed]
  have hchain : ∀ {lifecycle path registration terminal},
      (worktreeSuccessor old lifecycle path registration terminal e).validate = .ok () →
        old.worktreeRevision ≠ lastRevision :=
    fun hvalid => ne_last_of_chain (worktree_valid_iff.mp hvalid).chain
  unfold passiveSuccessor at h
  cases listed with
  | some entry =>
    dsimp only at h
    split at h
    · split at h
      · next hactive =>
        cases h
        refine ⟨rfl, rfl, rfl, rfl, rfl, rfl, (fun hmoved => by cases hmoved), fun _ => ⟨?_, hchain, fun hrevision => ?_⟩⟩
        · rw [hactive]
          rfl
        · exact worktree_valid_iff.mpr (missing_valid he hold hactive hrevision .prunable)
      · cases h
    · split at h
      · cases h
        exact ⟨rfl, rfl, rfl, rfl, rfl, rfl, fun _ => rfl, fun hne => absurd rfl hne⟩
      · cases h
  | none =>
    dsimp only at h
    split at h
    · split at h
      · split at h
        · cases h
        · split at h <;> cases h
          all_goals
            exact ⟨rfl, rfl, rfl, rfl, rfl, rfl, (fun hmoved => by cases hmoved), fun _ =>
              ⟨hended _ rfl, hchain, fun hrevision => worktree_valid_iff.mpr (ended_valid he hold hrevision rfl)⟩⟩
      · cases h
    · cases h

theorem reconcilePassive_makes (hview : ViewOk view) (he : EvidenceOk e) {repositoryMoved : Bool}
    (hold : view.worktrees.get old.worktreeInstanceId = some old) (hlive : old.lifecycle.isTerminal = false)
    (acc : RepositoryResolution × List String) :
    Makes .panic (Revived view acc.1) (fun acc => Revived view acc.1) (otherChecks view e repositoryId repositoryMoved old)
      (reconcilePassive ids view e repositoryId repositoryMoved acc old) := by
  unfold reconcilePassive otherChecks
  cases WorktreeInstance.adminPath old with
  | none => exact Makes.ok id
  | some admin =>
    dsimp only
    generalize hlisted : listedEntry e repositoryMoved (expectedAdmin view e repositoryId repositoryMoved admin) old = listed
    cases hsuccessor : passiveSuccessor e old admin (expectedAdmin view e repositoryId repositoryMoved admin) listed with
    | none => exact Makes.ok id
    | some found =>
      obtain ⟨successor, kind⟩ := found
      have passive := passiveSuccessor_some he (worktree_valid_iff.mp (hview.worktreeValid _ old hold)) hlive hsuccessor
      have htransition : (newTransition ids acc.1 successor.worktreeInstanceId old.currentSnapshotId
          successor.worktreeInstanceId none kind .proven view.frontier e).validate = .ok () :=
        newTransition_valid he (by rw [beq_self_eq_true]; exact passive.fits) passive.needs
      dsimp only
      split
      · next hmoved =>
        refine makes_domain isOk_iff rfl fun _ => ?_
        rw [expected_bind htransition]
        refine Makes.ok fun h => revived_add rfl (h.imp_right fun harchived => ⟨old, ?_, ?_⟩)
        · rw [passive.id, hold]
        · rw [passive.moved hmoved, beq_iff_eq.mp harchived]
          rfl
      · next hother =>
        refine makes_expected ?_ rfl fun _ => ?_
        · rw [(passive.other hother).2, bne_iff_ne]
        rw [expected_bind htransition]
        exact Makes.ok fun h => revived_add rfl (.inl (h.resolve_right Bool.false_ne_true))

/-! ## The whole probe -/

theorem recreateListed_makes (hview : ViewOk view) (hids : Unused ids view e) (he : EvidenceOk e) (root : String)
    (found : List String) (assessment : LineageAssessment) (resolution : RepositoryResolution) :
    Makes .panic (Revived view resolution) (Revived view) (listedChecks ids view e repositoryId root found entry)
      (recreateListed ids view e repositoryId (knownWorktrees view repositoryId) root found assessment resolution
        entry) := by
  unfold recreateListed listedChecks
  split
  · exact Makes.ok id
  · next hlisted =>
    cases hrecreated : recreatedFrom view entry with
    | none => exact Makes.ok id
    | some previous =>
      cases hgitdir : entry.gitdir with
      | none =>
        rw [hgitdir] at hlisted
        exact absurd rfl hlisted
      | some gitdir =>
        refine (createWorktree_makes hids he hgitdir ?_ assessment resolution).map fun _ h => h
        rintro _ ⟨⟩
        exact recreatedFrom_known hview hrecreated

theorem candidateMatch_known (hview : ViewOk view) {admin : String}
    (h : candidateMatch view e repositoryId admin = some worktree) :
    view.worktrees.get worktree.worktreeInstanceId = some worktree :=
  known_get hview (List.mem_of_find?_eq_some h)

theorem reconcileCandidate_makes (hview : ViewOk view) (hids : Unused ids view e) (he : EvidenceOk e) {admin : String}
    (hadmin : entry.gitdir = some admin) (assessment : LineageAssessment) (resolution : RepositoryResolution) :
    Makes .panic (Revived view resolution) (fun acc => Revived view acc.1)
      (candidateChecks ids view e repositoryId entry admin)
      (reconcileCandidate ids view e repositoryId assessment entry admin resolution) := by
  unfold reconcileCandidate candidateChecks
  cases hmatch : candidateMatch view e repositoryId admin with
  | some current =>
    dsimp only
    rw [← List.append_nil (existingChecks ids view e current entry)]
    exact (reconcileExistingWorktree_makes hview he (candidateMatch_known hview hmatch) assessment).bind
      fun _ _ => Makes.ok id
  | none =>
    dsimp only
    rw [← List.append_nil (createdChecks ids e entry admin)]
    exact (createWorktree_makes hids he hadmin (fun _ => recreatedFrom_known hview) assessment resolution).bind
      fun _ _ => Makes.ok id

theorem reconcileCandidate_found {admin : String} {assessment : LineageAssessment}
    {acc : RepositoryResolution × List String}
    (h : reconcileCandidate ids view e repositoryId assessment entry admin resolution = .ok acc) :
    acc.2 = if (candidateMatch view e repositoryId admin).isSome then [admin] else [] := by
  unfold reconcileCandidate at h
  cases hmatch : candidateMatch view e repositoryId admin with
  | some current =>
    rw [hmatch] at h
    obtain ⟨r, -, hr⟩ := bind_eq_ok.mp h
    cases hr
    rfl
  | none =>
    rw [hmatch] at h
    obtain ⟨p, -, hp⟩ := bind_eq_ok.mp h
    cases hp
    rfl

theorem reconcilePassive_found {repositoryMoved : Bool} {acc acc' : RepositoryResolution × List String}
    (h : reconcilePassive ids view e repositoryId repositoryMoved acc old = .ok acc') :
    acc'.2 = acc.2 ++ foundAt view e repositoryId repositoryMoved old := by
  unfold reconcilePassive at h
  unfold foundAt
  cases hadmin : WorktreeInstance.adminPath old with
  | none =>
    rw [hadmin] at h
    cases h
    exact (List.append_nil _).symm
  | some admin =>
    rw [hadmin] at h
    dsimp only at h ⊢
    split at h
    · cases h
      rfl
    · split at h
      all_goals
        obtain ⟨_, -, h⟩ := bind_eq_ok.mp h
        obtain ⟨_, -, h⟩ := bind_eq_ok.mp h
        cases h
        rfl

theorem passives_found {repositoryMoved : Bool} : ∀ {others : List WorktreeInstance}
    {acc acc' : RepositoryResolution × List String},
    others.foldlM (reconcilePassive ids view e repositoryId repositoryMoved) acc = .ok acc' →
      acc'.2 = acc.2 ++ others.flatMap (foundAt view e repositoryId repositoryMoved) := by
  intro others
  induction others with
  | nil =>
    intro acc acc' h
    cases h
    exact (List.append_nil _).symm
  | cons old rest ih =>
    intro acc acc' h
    rw [List.foldlM_cons] at h
    obtain ⟨mid, hstep, hrest⟩ := bind_eq_ok.mp h
    rw [ih hrest, reconcilePassive_found hstep, List.flatMap_cons, List.append_assoc]

theorem mem_otherWorktrees {admin : String} (h : old ∈ otherWorktrees view e repositoryId admin) :
    old ∈ knownWorktrees view repositoryId ∧ old.lifecycle.isTerminal = false ∧ some old.worktreeInstanceId ≠
      (candidateMatch view e repositoryId admin).map WorktreeInstance.worktreeInstanceId := by
  obtain ⟨hknown, hlive⟩ := List.mem_filter.mp h
  rw [Bool.and_eq_true, Bool.not_eq_true', bne_iff_ne] at hlive
  exact ⟨hknown, hlive⟩

/-- The resolver makes these checks of the worktrees, in this order. -/
theorem reconcileWorktrees_makes (hview : ViewOk view) (hids : Unused ids view e) (he : EvidenceOk e)
    {repositoryMoved : Bool} {root admin : String} (hroot : e.worktreeRoot = some root)
    (hentry : candidateEntry e root = .ok entry) (hadmin : entry.gitdir = some admin) (assessment : LineageAssessment)
    (resolution : RepositoryResolution) : Makes .panic (Revived view resolution) (Revived view)
      (worktreeChecks ids view e repositoryId repositoryMoved root entry admin)
      (reconcileWorktrees ids view e repositoryId assessment repositoryMoved resolution) := by
  unfold reconcileWorktrees worktreeChecks
  rw [hroot, okOr, ok_bind, hentry, ok_bind, hadmin, okOr, ok_bind]
  refine (reconcileCandidate_makes hview hids he hadmin assessment resolution).bind fun acc hacc => ?_
  dsimp only
  have hothers : Makes .panic (Revived view acc.1) (fun acc' => Revived view acc'.1)
      ((otherWorktrees view e repositoryId admin).flatMap (otherChecks view e repositoryId repositoryMoved))
      ((otherWorktrees view e repositoryId admin).foldlM
        (reconcilePassive ids view e repositoryId repositoryMoved) acc) := by
    refine Makes.foldlM (fun acc => Revived view acc.1) acc fun old hold acc => ?_
    obtain ⟨hknown, hlive, -⟩ := mem_otherWorktrees hold
    exact reconcilePassive_makes hview he (known_get hview hknown) hlive acc
  refine hothers.bind fun acc' hacc' => ?_
  have hfound : acc'.2 = foundAdmins view e repositoryId repositoryMoved admin := by
    rw [passives_found hacc', reconcileCandidate_found hacc]
    rfl
  rw [hfound]
  exact Makes.foldlM (Revived view) acc'.1 fun entry _ r => recreateListed_makes hview hids he root _ assessment r

/-! ## Repositories -/

theorem anchorMove_eq (ids : FreshIds) (view : RepositoryCurrentView) (repositoryId : RepositoryId) (he : EvidenceOk e)
    (resolution : RepositoryResolution) :
    ∃ anchored, anchorMove ids view e repositoryId resolution = .ok anchored ∧
      anchored.worktrees = resolution.worktrees := by
  unfold anchorMove
  cases anchorWorktree view repositoryId with
  | none => exact ⟨resolution, rfl, rfl⟩
  | some anchor =>
    exact ⟨_, domain_bind (newTransition_valid he (by rw [beq_self_eq_true]; rfl) rfl), rfl⟩

theorem Revived.finalizeKind (h : Revived view resolution) : Revived view (finalizeKind resolution) := by
  unfold Resolver.finalizeKind
  split
  · exact h
  · exact h

/-- **What is checked of a probe**: of a known repository with a proof of continuity, whose line in the list has an
admin directory. -/
theorem resolveExistingRepository_makes (hview : ViewOk view) (hids : Unused ids view e) (he : EvidenceOk e)
    {repository : RepositoryInstance} {root mainRoot admin : String} (hroot : e.worktreeRoot = some root)
    (hmain : repositoryRoot e repository root = .ok mainRoot) (hcomplete : continuityProbeComplete e = true)
    (hpositive : candidateContinuityPositive view e repository = true) (hentry : candidateEntry e root = .ok entry)
    (hadmin : entry.gitdir = some admin) :
    Makes .panic False (Revived view) (probeChecks ids view e repository mainRoot root entry admin)
      (resolveExistingRepository ids view e repository root) := by
  -- the worktrees, after the record of the repository
  have hworktrees : ∀ (moved : Bool) (assessment : LineageAssessment) (start : RepositoryResolution),
      start.worktrees = [] → Makes .panic False (Revived view)
        (worktreeChecks ids view e repository.repositoryId moved root entry admin)
        (do
          let resolution ← reconcileWorktrees ids view e repository.repositoryId assessment moved start
          return finalizeKind resolution) := by
    intro moved assessment start hnone
    rw [← List.append_nil (worktreeChecks ids view e repository.repositoryId moved root entry admin)]
    refine ((reconcileWorktrees_makes hview hids he hroot hentry hadmin assessment start).weaken False.elim).bind
      fun r _ => Makes.ok Revived.finalizeKind
  unfold resolveExistingRepository probeChecks repositoryChecks
  have hcomplete' : ¬continuityProbeComplete e = false := by
    rw [hcomplete]
    exact Bool.noConfusion
  have hpositive' : ¬candidateContinuityPositive view e repository = false := by
    rw [hpositive]
    exact Bool.noConfusion
  rw [hmain, ok_bind, if_neg hcomplete', if_neg hpositive']
  split
  · next hmoved =>
    rw [decide_eq_true hmoved]
    refine makes_domain isOk_iff rfl fun _ => Makes.of_before ?_
    obtain ⟨anchored, hanchored, hnone⟩ := anchorMove_eq ids view repository.repositoryId he
      { RepositoryResolution.empty .successor (some "repository_moved") with
        repositories := [movedRepository e repository mainRoot] }
    rw [hanchored, ok_bind]
    exact hworktrees true .proven anchored hnone
  · next hstayed =>
    rw [decide_eq_false hstayed]
    split
    · exact makes_domain isOk_iff rfl fun _ => Makes.of_before (hworktrees false _ _ rfl)
    · exact hworktrees false _ _ rfl

end EverTrace.L2.Resolver
