import EverTrace.L2Machine.ResolverChecks
/-!
# An archived worktree that comes back

An archived worktree may only end (repository.rs:84-100), but the resolver skips
the ended ones alone. A probe that finds its path missing makes it missing, and a
probe that finds it listed in another state makes it active. The rule is a debug
assertion of one helper and no part of the check that a record makes of itself.

The same helper expects its record to pass that check. A revision number that is
the last of its type makes it fail, and so does an archived worktree whose path is
not the last of its history: the resolver then panics.

`Settled` says on which probes neither happens: on those that ask for no such record,
and on those that are refused for another record. `recordable`: a resolution can be
recorded, and there is no panic, if and only if its probe is settled.
-/
namespace EverTrace.Bugs.ArchivedRevived
open EverTrace.Lib EverTrace.L1 EverTrace.L2.Repository EverTrace.L2.Resolver

/-! ## When it is kept -/

/-- A path that is missing is that of no live worktree, of one that is missing already, or of an active one that has
a revision number left. -/
def UnavailableSettled (view : RepositoryCurrentView) (e : GitProbeEvidence) (reason : ProbeUnavailableReason) : Prop :=
  reason = .pathMissing → ∀ worktree, knownAtPath view e.candidatePath = some worktree →
    worktree.lifecycle = .missing ∨ (worktree.lifecycle = .active ∧ worktree.worktreeRevision ≠ lastRevision)

/-- The probe asks for no revision that may not follow, and for none that has no number, unless a record of it is
refused. -/
def Settled (ids : FreshIds) (view : RepositoryCurrentView) (e : GitProbeEvidence) (hint : Option RepositoryId) : Prop :=
  match e.unavailableReason with
  | some reason => UnavailableSettled view e reason
  | none => ∀ root repository mainRoot entry admin, e.worktreeRoot = some root →
    identify view e hint [] root = .existing repository → repositoryRoot e repository root = .ok mainRoot →
    candidateEntry e root = .ok entry → entry.gitdir = some admin →
    Sound (probeChecks ids view e repository mainRoot root entry admin)

variable {ids : FreshIds} {view : RepositoryCurrentView} {e : GitProbeEvidence} {repositoryId : RepositoryId}
  {resolution resolution' : RepositoryResolution} {worktree old : WorktreeInstance} {done : List WorktreeId}

/-! ## The other worktrees -/

/-- All these checks pass, and none spoils the resolution. -/
def Quiet (checks : List Check) : Prop := ∀ check ∈ checks, check.passes = true ∧ check.spoils = false

theorem Quiet.append {front back : List Check} (h : Quiet (front ++ back)) : Quiet front ∧ Quiet back :=
  ⟨fun check hcheck => h check (List.mem_append_left _ hcheck), fun check hcheck => h check (List.mem_append_right _ hcheck)⟩

theorem Quiet.of_flatMap {α : Type} {checks : α → List Check} {l : List α} (h : Quiet (l.flatMap checks)) :
    ∀ a ∈ l, Quiet (checks a) :=
  fun a ha check hcheck => h check (List.mem_flatMap.mpr ⟨a, ha, hcheck⟩)

theorem reconcilePassive_yields (hview : ViewOk view) (hids : Unused ids view e) (he : EvidenceOk e)
    {repositoryMoved : Bool} {acc : RepositoryResolution × List String} (h : Growing ids view done acc.1)
    (hold : view.worktrees.get old.worktreeInstanceId = some old) (hlive : old.lifecycle.isTerminal = false)
    (hnew : old.worktreeInstanceId ∉ done) (hquiet : Quiet (otherChecks view e repositoryId repositoryMoved old)) :
    Yields .panic (fun acc' => Grown ids view (old.worktreeInstanceId :: done) acc.1 acc'.1)
      (reconcilePassive ids view e repositoryId repositoryMoved acc old) := by
  have hskip : Growing ids view (old.worktreeInstanceId :: done) acc.1 := h.skip (by rw [hold]; rfl)
  unfold otherChecks at hquiet
  unfold reconcilePassive
  cases hadmin : WorktreeInstance.adminPath old with
  | none => exact ⟨hskip, rfl, Nat.le_succ _⟩
  | some admin =>
    rw [hadmin] at hquiet
    dsimp only at hquiet ⊢
    cases hsuccessor : passiveSuccessor e old admin (expectedAdmin view e repositoryId repositoryMoved admin)
        (listedEntry e repositoryMoved (expectedAdmin view e repositoryId repositoryMoved admin) old) with
    | none => exact ⟨hskip, rfl, Nat.le_succ _⟩
    | some found =>
      obtain ⟨successor, kind⟩ := found
      rw [hsuccessor] at hquiet
      have passive := passiveSuccessor_some he (worktree_valid_iff.mp (hview.worktreeValid _ old hold)) hlive hsuccessor
      have htransition : (newTransition ids acc.1 successor.worktreeInstanceId old.currentSnapshotId
          successor.worktreeInstanceId none kind .proven view.frontier e).validate = .ok () :=
        newTransition_valid he (by rw [beq_self_eq_true]; exact passive.fits) passive.needs
      have hgrown := h.addTransition htransition (known_current hview hold) known_none
      have hadded := fun (hallowed : lifecycleSuccessorAllowed old.lifecycle successor.lifecycle = true)
          (hvalid : successor.validate = .ok ()) =>
        hgrown.addSuccessor hids hold hnew ⟨passive.id, passive.revision, passive.predecessor, hallowed⟩ hvalid
          (by rw [passive.snapshot]; exact known_current hview hold)
      dsimp only at hquiet ⊢
      split at hquiet
      · next hmoved =>
        have harchived := (hquiet _ (List.mem_singleton_self _)).2
        have hallowed : lifecycleSuccessorAllowed old.lifecycle successor.lifecycle = true := by
          rw [passive.moved hmoved]
          exact lifecycle_active hlive (beq_eq_false_iff_ne.mp harchived)
        rw [if_pos hmoved]
        exact Yields.bind_ok (domain_ne_panic _) fun u hu =>
          yields_expected htransition ⟨hadded hallowed (domain_eq_ok hu), rfl, (length_addWorktree _ _).le⟩
      · next hother =>
        obtain ⟨hallowed, hchecked⟩ := passive.other hother
        have hvalid := hchecked.mpr (bne_iff_ne.mp (hquiet _ (List.mem_singleton_self _)).1)
        rw [if_neg hother]
        exact yields_expected hvalid
          (yields_expected htransition ⟨hadded hallowed hvalid, rfl, (length_addWorktree _ _).le⟩)

/-! ## The whole probe -/

/-- The records so far, for some of the worktrees, and lines of the list that may still add one each. -/
def Made (ids : FreshIds) (view : RepositoryCurrentView) (e : GitProbeEvidence) (repositories : List RepositoryInstance)
    (rest : List WorktreeAdminEntry) (r : RepositoryResolution) : Prop :=
  r.worktrees.length + rest.length ≤ mostWorktrees view e + 1 ∧
    ∃ done, Growing ids view done r ∧ r.repositories = repositories

theorem growing_start {r : RepositoryResolution} (hworktrees : r.worktrees = []) (htransitions : r.transitions = []) :
    Growing ids view [] r := by
  constructor <;> simp [hworktrees, htransitions]

/-- The records so far, none for the worktrees that are still to come. -/
def Waiting (ids : FreshIds) (view : RepositoryCurrentView) (repositories : List RepositoryInstance)
    (rest : List WorktreeInstance) (acc : RepositoryResolution × List String) : Prop :=
  (rest.map WorktreeInstance.worktreeInstanceId).Nodup ∧
    acc.1.worktrees.length + rest.length ≤ view.worktrees.values.length + 1 ∧ ∃ done, Growing ids view done acc.1 ∧
      acc.1.repositories = repositories ∧ ∀ old ∈ rest, old.worktreeInstanceId ∉ done

theorem passives_yields (hview : ViewOk view) (hids : Unused ids view e) (he : EvidenceOk e) {repositoryMoved : Bool}
    {repositories : List RepositoryInstance} {others : List WorktreeInstance}
    (hothers : ∀ old ∈ others, view.worktrees.get old.worktreeInstanceId = some old ∧ old.lifecycle.isTerminal = false ∧
      Quiet (otherChecks view e repositoryId repositoryMoved old))
    {acc : RepositoryResolution × List String} (h : Waiting ids view repositories others acc) :
    Yields .panic (Waiting ids view repositories [])
      (others.foldlM (reconcilePassive ids view e repositoryId repositoryMoved) acc) := by
  refine Yields.foldlM h ?_
  intro old rest acc hold ⟨hnodup, hcount, done, hgrowing, hsame, hnew⟩
  obtain ⟨hknown, hlive, hquiet⟩ := hothers old hold
  rw [List.map_cons, List.nodup_cons] at hnodup
  refine (reconcilePassive_yields hview hids he hgrowing hknown hlive (hnew old List.mem_cons_self) hquiet).imp ?_
  intro acc' ⟨hgrown, hkept, hlength⟩
  rw [List.length_cons] at hcount
  refine ⟨hnodup.2, (by omega), _, hgrown, hkept.trans hsame, fun other hother hmem => ?_⟩
  rcases List.mem_cons.mp hmem with hid | hmem
  · exact hnodup.1 (hid ▸ List.mem_map_of_mem hother)
  · exact hnew other (List.mem_cons_of_mem _ hother) hmem

/-- A line of the list adds at most one worktree. -/
theorem Made.create (hview : ViewOk view) (hids : Unused ids view e) {repositories : List RepositoryInstance}
    {entry : WorktreeAdminEntry} {rest : List WorktreeAdminEntry}
    (h : Made ids view e repositories (entry :: rest) resolution) (repositoryId : RepositoryId)
    (recreated : Option WorktreeId) (assessment : LineageAssessment) :
    Yields .panic (Made ids view e repositories rest)
      ((createWorktree ids view e resolution repositoryId entry recreated assessment).map Prod.snd) := by
  obtain ⟨hcount, done, hgrowing, hsame⟩ := h
  rw [List.length_cons] at hcount
  have hroom : resolution.worktrees.length ≤ mostWorktrees view e := by omega
  refine Yields.map ((createWorktree_yields hview hids hgrowing hroom repositoryId entry recreated assessment).imp ?_)
  intro p ⟨hgrown, hkept, hlength⟩
  exact ⟨by omega, done, hgrown, hkept.trans hsame⟩

theorem Made.pass {repositories : List RepositoryInstance} {entry : WorktreeAdminEntry}
    {rest : List WorktreeAdminEntry} (h : Made ids view e repositories (entry :: rest) resolution) :
    Made ids view e repositories rest resolution := by
  obtain ⟨hcount, hgrowing⟩ := h
  rw [List.length_cons] at hcount
  exact ⟨by omega, hgrowing⟩

theorem recreated_yields (hview : ViewOk view) (hids : Unused ids view e) {repositories : List RepositoryInstance}
    (known : List WorktreeInstance) (root : String) (found : List String) (assessment : LineageAssessment)
    (h : Made ids view e repositories e.worktreeEntries resolution) :
    Yields .panic (Made ids view e repositories [])
      (e.worktreeEntries.foldlM (recreateListed ids view e repositoryId known root found assessment) resolution) := by
  refine Yields.foldlM h fun entry rest r _ hmade => ?_
  unfold recreateListed
  split
  · exact hmade.pass
  · cases recreatedFrom view entry with
    | none => exact hmade.pass
    | some terminal => exact hmade.create hview hids repositoryId _ assessment

theorem reconcileCandidate_yields (hview : ViewOk view) (hids : Unused ids view e) (he : EvidenceOk e)
    {entry : WorktreeAdminEntry} {admin : String}
    (hquiet : Quiet (candidateChecks ids view e repositoryId entry admin)) (assessment : LineageAssessment)
    (h : Growing ids view [] resolution) (hroom : resolution.worktrees.length ≤ mostWorktrees view e) :
    Yields .panic (fun acc => ∃ done, Grown ids view done resolution acc.1 ∧ ∀ id ∈ done,
      some id = (candidateMatch view e repositoryId admin).map WorktreeInstance.worktreeInstanceId)
      (reconcileCandidate ids view e repositoryId assessment entry admin resolution) := by
  unfold candidateChecks existingChecks at hquiet
  unfold reconcileCandidate
  cases hmatch : candidateMatch view e repositoryId admin with
  | none =>
    refine (createWorktree_yields hview hids h hroom repositoryId entry _ assessment).bind fun p hp => ?_
    refine ⟨[], hp, ?_⟩
    intro id hid
    cases hid
  | some current =>
    have hmem : current ∈ knownWorktrees view repositoryId := List.mem_of_find?_eq_some hmatch
    have hfound := List.find?_some hmatch
    rw [Bool.and_eq_true, Bool.not_eq_true'] at hfound
    have harchived : current.lifecycle = .archived → changedWorktree current entry e = none := by
      intro harchived
      rw [Option.eq_none_iff_forall_ne_some]
      intro next hchanged
      rw [hmatch] at hquiet
      dsimp only at hquiet
      rw [hchanged] at hquiet
      have hspoils := (hquiet _ List.mem_cons_self).2
      rw [harchived] at hspoils
      exact Bool.noConfusion hspoils
    have hyields := reconcileExistingWorktree_yields hview hids he h (known_get hview hmem) hfound.1
      List.not_mem_nil harchived assessment
    refine hyields.bind fun r hr => ⟨_, hr, fun id hid => ?_⟩
    rw [List.mem_singleton.mp hid]
    rfl

/-- **The worktrees of a repository**: the records made for them can be recorded. -/
theorem reconcileWorktrees_yields (hview : ViewOk view) (hids : Unused ids view e) (he : EvidenceOk e)
    {repositoryMoved : Bool} (hquiet : ∀ root entry admin, e.worktreeRoot = some root →
      candidateEntry e root = .ok entry → entry.gitdir = some admin →
      Quiet (worktreeChecks ids view e repositoryId repositoryMoved root entry admin))
    (assessment : LineageAssessment) (h : Growing ids view [] resolution) (hnone : resolution.worktrees = []) :
    Yields .panic (Made ids view e resolution.repositories [])
      (reconcileWorktrees ids view e repositoryId assessment repositoryMoved resolution) := by
  unfold reconcileWorktrees
  refine Yields.okOr nofun fun root hroot => ?_
  refine Yields.okOr nofun fun entry hentry => ?_
  refine Yields.okOr nofun fun admin hadmin => ?_
  have hfound : candidateEntry e root = .ok entry := okOr_ok.mpr hentry
  obtain ⟨hcandidate, hrest⟩ := (hquiet root entry admin hroot hfound hadmin).append
  have hothers := hrest.append.1.of_flatMap
  have hroom : resolution.worktrees.length ≤ mostWorktrees view e := by
    rw [hnone]
    exact Nat.zero_le _
  refine (reconcileCandidate_yields hview hids he hcandidate assessment h hroom).bind ?_
  intro acc ⟨done, ⟨hgrown, hsame, hlength⟩, hdone⟩
  rw [hnone] at hlength
  have hothersCount : ∀ p : WorktreeInstance → Bool, ((knownWorktrees view repositoryId).filter p).length ≤
      view.worktrees.values.length := fun p =>
    (List.length_filter_le _ _).trans (List.length_filter_le _ _)
  have hwaiting : Waiting ids view resolution.repositories _ acc :=
    ⟨(knownWorktrees_nodup hview).sublist (List.filter_sublist.map _), (Nat.add_le_add hlength (hothersCount _)).trans
      (Nat.add_comm _ _).le, done, hgrown, hsame, fun old hold hid => (mem_otherWorktrees hold).2.2 (hdone _ hid)⟩
  refine (passives_yields hview hids he ?_ hwaiting).bind ?_
  · intro old (hold : old ∈ otherWorktrees view e repositoryId admin)
    obtain ⟨hknown, hlive, -⟩ := mem_otherWorktrees hold
    exact ⟨known_get hview hknown, hlive, hothers old hold⟩
  · intro acc' ⟨_, hcount, done', hgrown', hsame', _⟩
    have hmade : Made ids view e resolution.repositories e.worktreeEntries acc'.1 := by
      refine ⟨?_, done', hgrown', hsame'⟩
      unfold mostWorktrees
      rw [List.length_nil] at hcount
      omega
    exact recreated_yields hview hids _ root acc'.2 assessment hmade

/-! ## Repositories -/

/-- A record of a repository: valid, and the next revision where there is one before it. -/
def RepositoryRecord (view : RepositoryCurrentView) (repository : RepositoryInstance) : Prop :=
  repository.validate = .ok () ∧ ∀ old, view.repositories.get repository.repositoryId = some old →
    repository.repositoryRevision.toNat = old.repositoryRevision.toNat + 1

theorem recordable_finalizeKind (h : Recordable view resolution) : Recordable view (finalizeKind resolution) := by
  unfold finalizeKind
  split
  · exact ⟨h.repositoriesOnce, h.repositories, h.worktreesOnce, h.worktrees, h.transitions, h.worktreeSnapshots,
      h.transitionSnapshots⟩
  · exact h

/-- With at most one record of a repository, a resolution can be recorded. -/
theorem Made.recordable_of_once {repositories : List RepositoryInstance} {rest : List WorktreeAdminEntry}
    (h : Made ids view e repositories rest resolution)
    (honce : repositories.length ≤ 1) (hvalid : ∀ repository ∈ repositories, RepositoryRecord view repository) :
    Recordable view resolution := by
  obtain ⟨-, done, hgrown, rfl⟩ := h
  have hnodup : (resolution.repositories.map RepositoryInstance.repositoryId).Nodup := by
    cases hrepositories : resolution.repositories with
    | nil => exact List.nodup_nil
    | cons repository rest =>
      rw [hrepositories, List.length_cons] at honce
      have hrest : rest = [] := List.length_eq_zero_iff.mp (by omega)
      rw [hrest]
      exact List.nodup_singleton _
  exact ⟨hnodup, hvalid, hgrown.once, hgrown.worktrees, fun t ht => (hgrown.transitions t ht).1,
    hgrown.worktreeSnapshots, fun t ht => (hgrown.transitions t ht).2⟩

theorem recordable_empty (kind : ResolutionKind) (detail : Option String) :
    Recordable view (RepositoryResolution.empty kind detail) := by
  constructor <;> simp [RepositoryResolution.empty]

theorem anchorWorktree_known (h : anchorWorktree view repositoryId = some old) :
    old ∈ knownWorktrees view repositoryId := by
  unfold anchorWorktree at h
  cases hmain : (knownWorktrees view repositoryId).find? fun worktree => worktree.kind == .main with
  | some main =>
    rw [hmain] at h
    cases h
    exact List.mem_of_find?_eq_some hmain
  | none =>
    rw [hmain] at h
    exact List.mem_of_head? h

theorem recordCopied_yields (hview : ViewOk view) {repositories : List RepositoryInstance}
    {rest : List WorktreeAdminEntry} (h : Made ids view e repositories rest resolution)
    (derivedFrom : Option RepositoryId) (main : Option WorktreeInstance) :
    Yields .panic (Made ids view e repositories rest)
      (recordCopied ids view e (derivedFrom.bind (anchorWorktree view)) main resolution) := by
  obtain ⟨hcount, done, hgrown, hsame⟩ := h
  unfold recordCopied
  cases hsource : derivedFrom.bind (anchorWorktree view) with
  | none => exact ⟨hcount, done, hgrown, hsame⟩
  | some source =>
    cases main with
    | none => exact ⟨hcount, done, hgrown, hsame⟩
    | some destination =>
      obtain ⟨derived, -, hanchor⟩ := Option.bind_eq_some_iff.mp hsource
      refine Yields.bind_ok (domain_ne_panic _) fun u hu => ?_
      have hknown := known_get hview (anchorWorktree_known hanchor)
      exact ⟨hcount, done, hgrown.addTransition (domain_eq_ok hu) (known_current hview hknown) known_none, hsame⟩

theorem createRepository_yields (hview : ViewOk view) (hids : Unused ids view e) (root : String)
    (derivedFrom : Option RepositoryId) :
    Yields .panic (Recordable view) (createRepository ids view e root derivedFrom) := by
  unfold createRepository
  refine Yields.okOr nofun fun filesystem _ => ?_
  refine Yields.okOr nofun fun format _ => ?_
  refine Yields.bind_ok (domain_ne_panic _) fun u hu => ?_
  refine Yields.okOr nofun fun entry _ => ?_
  refine (createWorktree_yields hview hids (growing_start rfl rfl) (Nat.zero_le _) ids.repository entry none
    (assessmentOf e)).bind ?_
  intro p ⟨hgrown, hsame, hlength⟩
  have hcount : p.2.worktrees.length + (e.worktreeEntries.filter fun other =>
      other.path != entry.path && other.gitdir.isSome).length ≤ mostWorktrees view e + 1 := by
    have hfilter := List.length_filter_le (fun other => other.path != entry.path && other.gitdir.isSome)
      e.worktreeEntries
    have hone : p.2.worktrees.length ≤ 1 := hlength
    unfold mostWorktrees
    omega
  refine (recordCopied_yields hview ⟨hcount, [], hgrown, hsame⟩ derivedFrom p.1).bind fun r hr => ?_
  refine (Yields.foldlM hr fun other rest r _ hmade => hmade.create hview hids ids.repository _ _).bind fun r' hr' => ?_
  refine recordable_finalizeKind (hr'.recordable_of_once (Nat.le_refl 1) ?_)
  intro repository hrepository
  rw [List.mem_singleton.mp hrepository]
  refine ⟨domain_eq_ok hu, fun old hold => ?_⟩
  have hnew : view.repositories.get ids.repository = some old := hold
  rw [hids.repository] at hnew
  cases hnew

theorem repositoryRecord_of_next {repository next : RepositoryInstance}
    (hknown : view.repositories.get repository.repositoryId = some repository)
    (hid : next.repositoryId = repository.repositoryId)
    (hrevision : next.repositoryRevision = repository.repositoryRevision + 1)
    (hpredecessor : next.predecessorRevision = some repository.repositoryRevision) (hvalid : next.validate = .ok ()) :
    RepositoryRecord view next := by
  refine ⟨hvalid, fun old hold => ?_⟩
  rw [hid, hknown] at hold
  cases hold
  unfold RepositoryInstance.validate at hvalid
  obtain ⟨_, hchain, -⟩ := bind_eq_ok.mp hvalid
  rw [ensure_ok, Bool.and_eq_true, Bool.and_eq_true, hrevision, hpredecessor] at hchain
  rw [hrevision]
  exact next_of_chain hchain.1.1

theorem anchorMove_yields (hview : ViewOk view) {repositories : List RepositoryInstance}
    (hworktrees : resolution.worktrees = []) (hrepositories : resolution.repositories = repositories)
    (htransitions : resolution.transitions = []) :
    Yields .panic (fun r => Growing ids view [] r ∧ r.repositories = repositories ∧ r.worktrees = [])
      (anchorMove ids view e repositoryId resolution) := by
  have hstart : Growing ids view [] resolution := growing_start hworktrees htransitions
  unfold anchorMove
  cases hanchor : anchorWorktree view repositoryId with
  | none => exact ⟨hstart, hrepositories, hworktrees⟩
  | some anchor =>
    refine Yields.bind_ok (domain_ne_panic _) fun u hu => ?_
    have hknown := known_get hview (anchorWorktree_known hanchor)
    exact ⟨hstart.addTransition (domain_eq_ok hu) (known_current hview hknown) known_none, hrepositories,
      hworktrees⟩

theorem resolveExistingRepository_yields (hview : ViewOk view) (hids : Unused ids view e) (he : EvidenceOk e)
    {repository : RepositoryInstance} {root : String}
    (hknown : view.repositories.get repository.repositoryId = some repository)
    (hquiet : ∀ mainRoot, repositoryRoot e repository root = .ok mainRoot → ∀ root entry admin,
      e.worktreeRoot = some root → candidateEntry e root = .ok entry → entry.gitdir = some admin →
      Quiet (worktreeChecks ids view e repository.repositoryId (decide (repository.currentPath ≠ mainRoot)) root entry
        admin)) :
    Yields .panic (Recordable view) (resolveExistingRepository ids view e repository root) := by
  have hroot : repositoryRoot e repository root ≠ .error .panic := by
    unfold repositoryRoot
    split
    · refine okOr_ne ?_ _
      exact nofun
    · exact nofun
  unfold resolveExistingRepository
  refine Yields.bind_ok hroot fun mainRoot hmain => ?_
  have hworktrees := hquiet mainRoot hmain
  split
  · exact recordable_empty _ _
  · split
    · exact createRepository_yields hview hids root _
    · split
      · next hmoved =>
        rw [decide_eq_true hmoved] at hworktrees
        refine Yields.bind_ok (domain_ne_panic _) fun u hu => ?_
        refine (anchorMove_yields hview rfl rfl rfl).bind fun r ⟨hgrown, hsame, hnone⟩ => ?_
        refine (reconcileWorktrees_yields hview hids he hworktrees _ hgrown hnone).bind fun r' hr' => ?_
        rw [hsame] at hr'
        refine recordable_finalizeKind (hr'.recordable_of_once (Nat.le_refl 1) fun next hnext => ?_)
        rw [List.mem_singleton.mp hnext]
        exact repositoryRecord_of_next hknown rfl rfl rfl (domain_eq_ok hu)
      · next hstayed =>
        rw [decide_eq_false hstayed] at hworktrees
        split
        · refine Yields.bind_ok (domain_ne_panic _) fun u hu => ?_
          refine (reconcileWorktrees_yields hview hids he hworktrees _ (growing_start rfl rfl) rfl).bind fun r' hr' => ?_
          refine recordable_finalizeKind (hr'.recordable_of_once (Nat.le_refl 1) fun next hnext => ?_)
          rw [List.mem_singleton.mp hnext]
          exact repositoryRecord_of_next hknown rfl rfl rfl (domain_eq_ok hu)
        · refine (reconcileWorktrees_yields hview hids he hworktrees _ (growing_start rfl rfl) rfl).bind fun r' hr' => ?_
          exact recordable_finalizeKind (hr'.recordable_of_once (Nat.zero_le 1) (List.forall_mem_nil _))

/-- A known repository with a proof of continuity: when its resolution can be recorded. -/
theorem resolveExistingRepository_iff (hview : ViewOk view) (hids : Unused ids view e) (he : EvidenceOk e)
    {repository : RepositoryInstance} {root : String} (hroot : e.worktreeRoot = some root)
    (hknown : view.repositories.get repository.repositoryId = some repository)
    (hcomplete : continuityProbeComplete e = true) (hpositive : candidateContinuityPositive view e repository = true) :
    Yields .panic (Recordable view) (resolveExistingRepository ids view e repository root) ↔
      ∀ mainRoot entry admin, repositoryRoot e repository root = .ok mainRoot → candidateEntry e root = .ok entry →
        entry.gitdir = some admin → Sound (probeChecks ids view e repository mainRoot root entry admin) := by
  have hiff : ∀ mainRoot entry admin, repositoryRoot e repository root = .ok mainRoot →
      candidateEntry e root = .ok entry → entry.gitdir = some admin →
      (Yields .panic (Recordable view) (resolveExistingRepository ids view e repository root) ↔
        Sound (probeChecks ids view e repository mainRoot root entry admin)) := by
    intro mainRoot entry admin hmain hentry hadmin
    have hmakes := resolveExistingRepository_makes hview hids he hroot hmain hcomplete hpositive hentry hadmin
    refine hmakes.yields_iff (fun _ => Revived.not_recordable) fun hquiet => ?_
    refine resolveExistingRepository_yields hview hids he hknown ?_
    intro mainRoot' hmain' root' entry' admin' hroot' hentry' hadmin'
    rw [hmain] at hmain'
    rw [hroot] at hroot'
    cases hmain'
    cases hroot'
    rw [hentry] at hentry'
    cases hentry'
    rw [hadmin] at hadmin'
    cases hadmin'
    exact (Quiet.append hquiet).2
  constructor
  · exact fun h mainRoot entry admin hmain hentry hadmin => (hiff mainRoot entry admin hmain hentry hadmin).mp h
  · intro h
    by_cases hfound : ∃ mainRoot entry admin, repositoryRoot e repository root = .ok mainRoot ∧
        candidateEntry e root = .ok entry ∧ entry.gitdir = some admin
    · obtain ⟨mainRoot, entry, admin, hmain, hentry, hadmin⟩ := hfound
      exact (hiff mainRoot entry admin hmain hentry hadmin).mpr (h mainRoot entry admin hmain hentry hadmin)
    · -- a probe whose line in the list is not there is refused
      refine resolveExistingRepository_yields hview hids he hknown ?_
      intro mainRoot hmain root' entry admin hroot' hentry hadmin
      rw [hroot] at hroot'
      cases hroot'
      exact absurd ⟨mainRoot, entry, admin, hmain, hentry, hadmin⟩ hfound

theorem mem_of_positiveMatches {incomplete : List RepositoryId} {filesystem : FilesystemIdentity}
    {repository : RepositoryInstance} (h : repository ∈ positiveMatches view e incomplete filesystem) :
    repository ∈ view.repositories.values ∧ continuityProbeComplete e = true ∧
      candidateContinuityPositive view e repository = true := by
  unfold positiveMatches at h
  split at h
  · next hcomplete =>
    obtain ⟨hmatch, hpositive⟩ := List.mem_filter.mp h
    exact ⟨(List.mem_filter.mp hmatch).1, hcomplete, (Bool.and_eq_true _ _ ▸ hpositive).2⟩
  · cases h

theorem identify_existing {hint : Option RepositoryId} {incomplete : List RepositoryId} {root : String}
    {repository : RepositoryInstance} (h : identify view e hint incomplete root = .existing repository) :
    repository ∈ view.repositories.values ∧ continuityProbeComplete e = true ∧
      candidateContinuityPositive view e repository = true := by
  unfold identify at h
  cases hfilesystem : e.commonDirFilesystem with
  | none =>
    rw [hfilesystem] at h
    cases h
  | some filesystem =>
    cases hformat : e.objectFormat with
    | none =>
      rw [hfilesystem, hformat] at h
      cases h
    | some format =>
      rw [hfilesystem, hformat] at h
      dsimp only at h
      split at h
      · cases h
      · split at h
        · unfold identifyNew at h
          split at h <;> cases h
        · split at h
          · next found hfound =>
            split at h
            · cases h
            · cases h
              exact mem_of_positiveMatches (hfound ▸ List.mem_singleton_self repository)
          · split at h
            · cases h
            · split at h
              · cases h
              · split at h <;> cases h
          · cases h

theorem resolveEstablished_iff (hview : ViewOk view) (hids : Unused ids view e) (he : EvidenceOk e)
    {hint : Option RepositoryId} :
    Yields .panic (Recordable view) (resolveEstablished ids view e hint []) ↔
      ∀ root repository mainRoot entry admin, e.worktreeRoot = some root →
        identify view e hint [] root = .existing repository → repositoryRoot e repository root = .ok mainRoot →
        candidateEntry e root = .ok entry → entry.gitdir = some admin →
        Sound (probeChecks ids view e repository mainRoot root entry admin) := by
  unfold resolveEstablished
  cases hroot : e.worktreeRoot with
  | none =>
    have hrefused : RepositoryResolveError.invalidEvidence ≠ .panic := nofun
    refine ⟨?_, fun _ => hrefused⟩
    rintro - _ _ _ _ _ ⟨⟩
  | some root =>
    rw [okOr, ok_bind]
    cases hidentified : identify view e hint [] root with
    | ambiguous detail =>
      refine ⟨?_, fun _ => recordable_empty _ _⟩
      rintro - _ repository mainRoot entry admin ⟨⟩ hexisting
      rw [hidentified] at hexisting
      cases hexisting
    | create derivedFrom =>
      refine ⟨?_, fun _ => createRepository_yields hview hids root derivedFrom⟩
      rintro - _ repository mainRoot entry admin ⟨⟩ hexisting
      rw [hidentified] at hexisting
      cases hexisting
    | existing repository =>
      obtain ⟨hmem, hcomplete, hpositive⟩ := identify_existing hidentified
      obtain ⟨id, hid⟩ := OrdMap.mem_values.mp hmem
      have hknown : view.repositories.get repository.repositoryId = some repository := by
        rw [hview.repositoryKey id repository hid]
        exact hid
      dsimp only
      rw [resolveExistingRepository_iff hview hids he hroot hknown hcomplete hpositive]
      refine ⟨?_, fun h mainRoot entry admin => h root repository mainRoot entry admin rfl hidentified⟩
      rintro h _ found mainRoot entry admin ⟨⟩ hexisting
      rw [hidentified] at hexisting
      cases hexisting
      exact h mainRoot entry admin

/-! ## Unavailable paths -/

theorem knownAtPath_some {path : String} (hview : ViewOk view) (h : knownAtPath view path = some old) :
    view.worktrees.get old.worktreeInstanceId = some old ∧ old.lifecycle.isTerminal = false := by
  obtain ⟨id, hid⟩ := OrdMap.mem_values.mp (List.mem_of_find?_eq_some h)
  have hfound := List.find?_some h
  rw [Bool.and_eq_true, Bool.not_eq_true'] at hfound
  refine ⟨?_, hfound.1⟩
  rw [hview.worktreeKey id old hid]
  exact hid

theorem missingTransition_valid (he : EvidenceOk e) {worktreeId : WorktreeId} {from_ : Option WorktreeSnapshotId}
    {assessment : LineageAssessment} {sourceWatermark : Nat} :
    (newTransition ids resolution worktreeId from_ worktreeId none .worktreeMissing assessment sourceWatermark
      e).validate = .ok () :=
  newTransition_valid he (by rw [beq_self_eq_true]; rfl) rfl

def missingResolution (ids : FreshIds) (view : RepositoryCurrentView) (e : GitProbeEvidence)
    (worktree : WorktreeInstance) : RepositoryResolution :=
  ((RepositoryResolution.empty .successor none).addWorktree
      (worktreeSuccessor worktree .missing worktree.currentPath (registrationForMissing worktree) none e)).addTransition
    (newTransition ids (.empty .successor none) worktree.worktreeInstanceId worktree.currentSnapshotId
      worktree.worktreeInstanceId none .worktreeMissing (assessmentOf e) view.frontier e)

/-- A worktree that is not missing yet becomes missing, or the check of its next revision fails. -/
theorem resolveUnavailable_eq (he : EvidenceOk e) (hknown : knownAtPath view e.candidatePath = some old)
    (hlifecycle : old.lifecycle ≠ .missing) : resolveUnavailable ids view e .pathMissing =
      (expected (worktreeSuccessor old .missing old.currentPath (registrationForMissing old) none e).validate >>=
        fun _ => .ok (missingResolution ids view e old)) := by
  unfold resolveUnavailable
  rw [hknown]
  dsimp only
  rw [if_neg hlifecycle]
  have htransition : (newTransition ids (.empty .successor none) old.worktreeInstanceId old.currentSnapshotId
      old.worktreeInstanceId none .worktreeMissing (assessmentOf e) view.frontier e).validate = .ok () :=
    missingTransition_valid he
  cases (worktreeSuccessor old .missing old.currentPath (registrationForMissing old) none e).validate with
  | error error => rfl
  | ok u =>
    have hexpected : expected (newTransition ids (.empty .successor none) old.worktreeInstanceId old.currentSnapshotId
        old.worktreeInstanceId none .worktreeMissing (assessmentOf e) view.frontier e).validate = .ok () := by
      rw [htransition]
      rfl
    exact bind_eq_ok.mpr ⟨_, rfl, bind_eq_ok.mpr ⟨_, hexpected, rfl⟩⟩

theorem resolveUnavailable_yields (hview : ViewOk view) (hids : Unused ids view e) (he : EvidenceOk e)
    {reason : ProbeUnavailableReason} (hsettled : UnavailableSettled view e reason) :
    Yields .panic (Recordable view) (resolveUnavailable ids view e reason) := by
  cases hknown : knownAtPath view e.candidatePath with
  | none =>
    unfold resolveUnavailable
    rw [hknown]
    unfold unavailable
    constructor <;> simp [RepositoryResolution.empty]
  | some old =>
    cases reason with
    | pathMissing =>
      by_cases hmissing : old.lifecycle = .missing
      · unfold resolveUnavailable
        rw [hknown]
        dsimp only
        rw [if_pos hmissing]
        exact recordable_empty _ _
      · obtain ⟨hactive, hrevision⟩ := (hsettled rfl old hknown).resolve_left hmissing
        obtain ⟨hold, -⟩ := knownAtPath_some hview hknown
        have hvalid := missing_valid he (worktree_valid_iff.mp (hview.worktreeValid _ old hold)) hactive hrevision
          (registrationForMissing old)
        rw [resolveUnavailable_eq he hknown hmissing]
        refine yields_expected (worktree_valid_iff.mpr hvalid) ?_
        have hstart : Growing ids view [] (RepositoryResolution.empty .successor none) := growing_start rfl rfl
        have hsucceeds : Succeeds old
            (worktreeSuccessor old .missing old.currentPath (registrationForMissing old) none e) :=
          ⟨rfl, rfl, rfl, by rw [hactive]; rfl⟩
        have hsnapshot : Known view (RepositoryResolution.empty .successor none) old.currentSnapshotId :=
          known_current hview hold
        have hadded := hstart.addSuccessor hids hold List.not_mem_nil hsucceeds (worktree_valid_iff.mpr hvalid) hsnapshot
        have hgrown : Growing ids view [old.worktreeInstanceId] (missingResolution ids view e old) :=
          hadded.addTransition (missingTransition_valid he) (known_current hview hold) known_none
        have hmade : Made ids view e [] [] (missingResolution ids view e old) :=
          ⟨Nat.le_add_left 1 _, _, hgrown, rfl⟩
        exact hmade.recordable_of_once (Nat.zero_le 1) (List.forall_mem_nil _)
    | _ =>
      unfold resolveUnavailable
      rw [hknown]
      exact recordable_empty _ _

/-- A resolution that can be recorded was made of a settled probe. -/
theorem unavailableSettled_of_yields (hview : ViewOk view) (he : EvidenceOk e) {reason : ProbeUnavailableReason}
    (h : Yields .panic (Recordable view) (resolveUnavailable ids view e reason)) : UnavailableSettled view e reason := by
  intro hreason old hknown
  subst hreason
  by_cases hmissing : old.lifecycle = .missing
  · exact .inl hmissing
  refine .inr ?_
  rw [resolveUnavailable_eq he hknown hmissing] at h
  obtain ⟨hold, hlive⟩ := knownAtPath_some hview hknown
  cases hvalid : (worktreeSuccessor old .missing old.currentPath (registrationForMissing old) none e).validate with
  | error error =>
    rw [hvalid] at h
    exact absurd rfl h
  | ok u =>
    rw [hvalid] at h
    have hnext := (h.worktrees _ (List.mem_singleton_self _)).2 old hold
    refine ⟨?_, ?_⟩
    · have hallowed := hnext.lifecycle
      have hsuccessor : (worktreeSuccessor old .missing old.currentPath (registrationForMissing old) none e).lifecycle =
          .missing := rfl
      rw [hsuccessor] at hallowed
      cases hlifecycle : old.lifecycle <;> simp_all [WorktreeLifecycle.isTerminal, lifecycleSuccessorAllowed]
    · intro hlast
      have hrevision := hnext.revision
      have hsuccessor : (worktreeSuccessor old .missing old.currentPath (registrationForMissing old) none
          e).worktreeRevision = old.worktreeRevision + 1 := rfl
      rw [hsuccessor, hlast] at hrevision
      cases hrevision

/-! ## The result -/

/-- **A resolution can be recorded, and there is no panic, if and only if the probe is settled.** -/
theorem recordable (ids : FreshIds) (view : RepositoryCurrentView) (e : GitProbeEvidence) (hint : Option RepositoryId)
    (hview : ViewOk view) (hids : Unused ids view e) (he : EvidenceOk e) :
    Yields .panic (Recordable view) (resolveRepository ids view e hint) ↔ Settled ids view e hint := by
  have hchecked : (e.probeSchemaVersion == 1 && !e.evidenceRefs.isEmpty && decide (0 ≤ e.occurredAtUs)) = true := by
    rw [he.version, List.isEmpty_eq_false_iff.mpr he.nonempty, decide_eq_true he.time]
    rfl
  unfold Settled resolveRepository resolveWithIncompleteHistory
  have hensure : ensure RepositoryResolveError.invalidEvidence
      (e.probeSchemaVersion == 1 && !e.evidenceRefs.isEmpty && decide (0 ≤ e.occurredAtUs)) = .ok () :=
    ensure_ok.mpr hchecked
  rw [hensure, ok_bind]
  cases e.unavailableReason with
  | none => exact resolveEstablished_iff hview hids he
  | some reason => exact ⟨unavailableSettled_of_yields hview he, resolveUnavailable_yields hview hids he⟩

/-! ## A run that breaks it -/

def sampleRepository : RepositoryInstance where
  repositoryId := ⟨0x70008000000000000001⟩
  repositoryRevision := 1
  predecessorRevision := none
  currentPath := "/r"
  pathHistory := [⟨"/r", 10, 10, ["event:1"]⟩]
  gitCommonDirPath := some "/r/.git"
  commonDirFilesystem := some ⟨1, 2⟩
  objectFormat := some .sha1
  remoteFingerprints := []
  derivedFrom := none
  identityEvidenceRefs := ["event:1"]
  recordedAtUs := 0
  userDisabled := false
  capabilityState := none

def sampleSnapshot : WorktreeSnapshot where
  worktreeSnapshotId := ⟨0x70008000000000000020⟩
  worktreeInstanceId := ⟨0x70008000000000000010⟩
  headOid := none
  treeOid := none
  branchRef := none
  detachedHead := false
  trackedDiffDigest := none
  indexDigest := none
  untrackedManifestDigest := none
  relevantAnchorDigests := []
  dependencyFingerprints := []
  toolchainFingerprint := none
  gitOperation := .none
  capturedAtUs := 0
  evidenceRefs := ["event:1"]
  captureStatus := .complete
  omissionReasons := []

/-- The main worktree of the repository; an archived one need not be at the last path of its history. -/
def sampleWorktree (lifecycle : WorktreeLifecycle) (path : String) : WorktreeInstance where
  worktreeInstanceId := ⟨0x70008000000000000010⟩
  worktreeRevision := 1
  predecessorRevision := none
  repositoryInstanceId := ⟨0x70008000000000000001⟩
  kind := .main
  lifecycle := lifecycle
  currentPath := some path
  pathHistory := [⟨"/r", 0, 0, ["event:1"]⟩]
  gitAdminPathHistory := [⟨"/r/.git", 0, 0, ["event:1"]⟩]
  gitRegistrationState := .registered
  currentSnapshotId := some sampleSnapshot.worktreeSnapshotId
  createdEventRef := "event:1"
  terminalEventRef := none
  recreatedFromWorktreeInstanceId := none
  recordedAtUs := 0

def sampleView (worktree : WorktreeInstance) : RepositoryCurrentView where
  frontier := 3
  repositories := OrdMap.empty.insert sampleRepository.repositoryId sampleRepository
  worktrees := OrdMap.empty.insert worktree.worktreeInstanceId worktree
  snapshots := OrdMap.empty.insert sampleSnapshot.worktreeSnapshotId sampleSnapshot
  transitions := .empty

def sampleIds : FreshIds where
  repository := ⟨0x70008000000000000002⟩
  worktree n := if n = 0 then ⟨0x70008000000000000011⟩ else if n = 1 then ⟨0x70008000000000000012⟩
    else ⟨0x70008000000000000013⟩
  snapshot _ := ⟨0x70008000000000000021⟩
  transition _ := ⟨0x70008000000000000031⟩

/-- The path is not there. -/
def sampleEvidence (path : String) : GitProbeEvidence where
  probeSchemaVersion := 1
  candidatePath := path
  occurredAtUs := 5
  evidenceRefs := ["event:2"]
  unavailableReason := some .pathMissing
  worktreeRoot := none
  gitDir := none
  commonDir := none
  commonDirFilesystem := none
  objectFormat := none
  headOid := none
  headAncestors := []
  branchRef := none
  detachedHead := none
  treeOid := none
  trackedDiffDigest := none
  indexDigest := none
  untrackedManifestDigest := none
  refTips := []
  worktreeEntries := []
  worktreeListComplete := false
  remoteFingerprints := []
  gitOperation := .none
  adminPathProbes := []
  omissions := []

/-- The repository is found at another path, before the time at which it was first observed. -/
def movedEvidence : GitProbeEvidence :=
  { sampleEvidence "/n" with
    unavailableReason := none
    worktreeRoot := some "/n"
    gitDir := some "/n/.git"
    commonDir := some "/n/.git"
    commonDirFilesystem := some ⟨1, 2⟩
    objectFormat := some .sha1
    worktreeEntries := [⟨"/n", some "/n/.git", false, false⟩]
    worktreeListComplete := true }

theorem sampleView_ok {worktree : WorktreeInstance} (hvalid : worktree.validate = .ok ())
    (hsnapshot : worktree.currentSnapshotId = some sampleSnapshot.worktreeSnapshotId) :
    ViewOk (sampleView worktree) := by
  have hrepository : ∀ id repository, (sampleView worktree).repositories.get id = some repository →
      id = sampleRepository.repositoryId ∧ repository = sampleRepository := by
    intro id repository h
    unfold sampleView at h
    rw [OrdMap.get_insert] at h
    split at h
    · next hid => exact ⟨hid, (Option.some.inj h).symm⟩
    · cases h
  have hworktree : ∀ id value, (sampleView worktree).worktrees.get id = some value →
      id = worktree.worktreeInstanceId ∧ value = worktree := by
    intro id value h
    unfold sampleView at h
    rw [OrdMap.get_insert] at h
    split at h
    · next hid => exact ⟨hid, (Option.some.inj h).symm⟩
    · cases h
  refine ⟨?_, ?_, ?_, ?_, ?_⟩
  · intro id repository h
    obtain ⟨rfl, rfl⟩ := hrepository id repository h
    rfl
  · intro id repository h
    obtain ⟨-, rfl⟩ := hrepository id repository h
    decide
  · intro id value h
    obtain ⟨rfl, rfl⟩ := hworktree id value h
    rfl
  · intro id value h
    obtain ⟨-, rfl⟩ := hworktree id value h
    exact hvalid
  · intro id value snapshotId h hcurrent
    obtain ⟨-, rfl⟩ := hworktree id value h
    rw [hsnapshot] at hcurrent
    cases hcurrent
    unfold sampleView
    rw [OrdMap.get_insert, if_pos rfl]
    rfl

theorem sampleEvidence_ok (path : String) : EvidenceOk (sampleEvidence path) := by
  have htime : (0 : Int) ≤ 5 := by decide
  refine ⟨rfl, htime, List.cons_ne_nil _ _, ?_, List.nodup_singleton _⟩
  intro reference h
  rw [List.mem_singleton.mp h]
  decide

theorem movedEvidence_ok : EvidenceOk movedEvidence := by
  have h := sampleEvidence_ok "/n"
  exact ⟨h.version, h.time, h.nonempty, h.refs, h.unique⟩

theorem sampleIds_unused (lifecycle : WorktreeLifecycle) (path : String)
    (hmost : mostWorktrees (sampleView (sampleWorktree lifecycle path)) e ≤ 2) :
    Unused sampleIds (sampleView (sampleWorktree lifecycle path)) e := by
  refine ⟨?_, ?_, ?_⟩
  · unfold sampleView
    exact OrdMap.get_insert_of_ne _ _ (by decide)
  · intro n
    have hfirst : (⟨0x70008000000000000011⟩ : WorktreeId) ≠ ⟨0x70008000000000000010⟩ := by decide
    have hsecond : (⟨0x70008000000000000012⟩ : WorktreeId) ≠ ⟨0x70008000000000000010⟩ := by decide
    have hthird : (⟨0x70008000000000000013⟩ : WorktreeId) ≠ ⟨0x70008000000000000010⟩ := by decide
    unfold sampleView sampleIds
    dsimp only
    split
    · exact OrdMap.get_insert_of_ne _ _ hfirst
    · split
      · exact OrdMap.get_insert_of_ne _ _ hsecond
      · exact OrdMap.get_insert_of_ne _ _ hthird
  · intro n hn m hm
    have hcases : (n = 1 ∧ m = 0) ∨ (n = 2 ∧ m = 0) ∨ (n = 2 ∧ m = 1) := by omega
    rcases hcases with ⟨rfl, rfl⟩ | ⟨rfl, rfl⟩ | ⟨rfl, rfl⟩ <;> decide

/-- **The archived worktree becomes missing**: the resolution returns a record that may not follow. Where the path is
not the last of its history, the resolver panics. -/
theorem archived_missing :
    (ViewOk (sampleView (sampleWorktree .archived "/r")) ∧
      Unused sampleIds (sampleView (sampleWorktree .archived "/r")) (sampleEvidence "/r") ∧
      EvidenceOk (sampleEvidence "/r") ∧
      ∃ resolution, resolveRepository sampleIds (sampleView (sampleWorktree .archived "/r")) (sampleEvidence "/r") none =
        .ok resolution ∧ ¬Recordable (sampleView (sampleWorktree .archived "/r")) resolution) ∧
    (ViewOk (sampleView (sampleWorktree .archived "/old")) ∧
      Unused sampleIds (sampleView (sampleWorktree .archived "/old")) (sampleEvidence "/old") ∧
      EvidenceOk (sampleEvidence "/old") ∧
      resolveRepository sampleIds (sampleView (sampleWorktree .archived "/old")) (sampleEvidence "/old") none =
        .error .panic) := by
  have hview : ∀ path, (sampleWorktree .archived path).validate = .ok () →
      ViewOk (sampleView (sampleWorktree .archived path)) := fun path hvalid => sampleView_ok hvalid rfl
  refine ⟨⟨hview _ (by decide), sampleIds_unused _ _ (by decide), sampleEvidence_ok _, ?_⟩,
    hview _ (by decide), sampleIds_unused _ _ (by decide), sampleEvidence_ok _, by decide⟩
  refine ⟨missingResolution sampleIds (sampleView (sampleWorktree .archived "/r")) (sampleEvidence "/r")
    (sampleWorktree .archived "/r"), by decide, fun h => ?_⟩
  have hrecord := h.worktrees _ (List.mem_singleton_self _)
  have hnext := hrecord.2 (sampleWorktree .archived "/r") (by decide)
  exact absurd hnext.lifecycle (by decide)

/-- The move is refused before the archived worktree is looked at: the condition holds, though Git lists that worktree
at another path. -/
theorem recordable_sample :
    Yields .panic (Recordable (sampleView (sampleWorktree .archived "/r")))
      (resolveRepository sampleIds (sampleView (sampleWorktree .archived "/r")) movedEvidence none) := by
  refine (recordable sampleIds (sampleView (sampleWorktree .archived "/r")) movedEvidence none
    (sampleView_ok (by decide) rfl) (sampleIds_unused _ _ (by decide)) movedEvidence_ok).mpr ?_
  rintro _ repository mainRoot entry admin ⟨⟩ hexisting hmain hentry hadmin
  have hidentified : identify (sampleView (sampleWorktree .archived "/r")) movedEvidence none [] "/n" =
      .existing sampleRepository := by decide
  rw [hidentified] at hexisting
  cases hexisting
  cases hmain
  cases hentry
  cases hadmin
  have hrefused : (movedRepository movedEvidence sampleRepository "/n").validate.isOk = false := by decide
  have hmoved : sampleRepository.currentPath ≠ "/n" := by decide
  unfold probeChecks repositoryChecks
  rw [if_pos hmoved, hrefused]
  exact sound_of_refused _

end EverTrace.Bugs.ArchivedRevived
