import EverTrace.L2Machine.SessionImport
/-!
# What a queued session may read

Every state that accepted events make is a valid one, restores from its row, and
keeps the read restrictions it once had (`session_states`). Consent only comes
from a decision.

A queued or importing session is not always readable: its prospective origin may
still wait for a record boundary (`jobs/import.rs` then finds no range to read),
and behind the fence of an open origin only the worktree of the origin counts.
`session_states` says for which sessions there is something to read.
-/
namespace EverTrace.L2.SessionImport
open EverTrace.Lib EverTrace.L1 EverTrace.L2.Store

/-! ## One event -/

def firstState (event : SessionImportEvent) (metadata : SessionMetadata) (seq : Nat) : SessionImportCurrent :=
  ⟨event.sessionId, event.sourceInstanceId, 1, metadata, none, .notImported, seq⟩

def observedState (old : SessionImportCurrent) (event : SessionImportEvent) (metadata : SessionMetadata)
    (seq : Nat) : SessionImportCurrent :=
  { old with
    revision := event.revision
    metadata := metadata
    sourceEventSeq := seq
    accessDecision := if forgetsDecision old metadata then none else old.accessDecision }

/-- What an accepted event does to a session. -/
inductive Accepted (event : SessionImportEvent) (seq : Nat) :
    Option SessionImportCurrent → SessionImportCurrent → Prop
  | first {metadata : SessionMetadata} : event.event = .metadataObserved metadata →
      (firstState event metadata seq).validate = .ok () → Accepted event seq none (firstState event metadata seq)
  | observed {old : SessionImportCurrent} {metadata : SessionMetadata} : event.event = .metadataObserved metadata →
      keepsRestrictions old.metadata metadata = true →
      prospectiveOriginTransitionIsValid old.metadata metadata
        (old.metadata.sourceRevision != metadata.sourceRevision) old.bodyState = true →
      (observedState old event metadata seq).validate = .ok () →
      Accepted event seq (some old) (observedState old event metadata seq)
  | decided {old : SessionImportCurrent} {decision : SessionAccessDecision} {refs : List String} :
      event.event = .accessDecision decision refs →
      { old with revision := event.revision, accessDecision := some decision, sourceEventSeq := seq }.validate =
        .ok () →
      Accepted event seq (some old)
        { old with revision := event.revision, accessDecision := some decision, sourceEventSeq := seq }
  | advanced {old : SessionImportCurrent} {bodyState : SessionBodyState} {reason : BodyStateReason} :
      event.event = .bodyStateAdvanced bodyState reason → bodyTransition old.bodyState bodyState = true →
      { old with revision := event.revision, bodyState := bodyState, sourceEventSeq := seq }.validate = .ok () →
      Accepted event seq (some old)
        { old with revision := event.revision, bodyState := bodyState, sourceEventSeq := seq }

variable {event : SessionImportEvent} {seq : Nat} {current : Option SessionImportCurrent}
  {next : SessionImportCurrent}

theorem applySessionEvent_accepted (h : applySessionEvent current event seq = .ok next) :
    Accepted event seq current next := by
  obtain ⟨_, -, h⟩ := bind_eq_ok.mp h
  cases current with
  | none =>
    simp only [firstObserved] at h
    split at h
    · next metadata hevent =>
      obtain ⟨_, -, h⟩ := bind_eq_ok.mp h
      obtain ⟨_, hvalid, h⟩ := bind_eq_ok.mp h
      cases pure_eq_ok.mp h
      exact .first hevent hvalid
    · cases h
  | some old =>
    obtain ⟨_, -, h⟩ := bind_eq_ok.mp h
    split at h
    · next metadata hevent =>
      simp only [observeMetadata, ensure_bind_ok] at h
      obtain ⟨hkeeps, -, horigin, -, h⟩ := h
      obtain ⟨_, hvalid, h⟩ := bind_eq_ok.mp h
      cases pure_eq_ok.mp h
      exact .observed hevent hkeeps horigin hvalid
    · next decision refs hevent =>
      simp only [decideAccess, ensure_bind_ok] at h
      obtain ⟨-, -, h⟩ := h
      obtain ⟨_, hvalid, h⟩ := bind_eq_ok.mp h
      cases pure_eq_ok.mp h
      exact .decided hevent hvalid
    · next bodyState reason hevent =>
      simp only [advanceBodyState, ensure_bind_ok] at h
      obtain ⟨htransition, -, h⟩ := h
      obtain ⟨_, hvalid, h⟩ := bind_eq_ok.mp h
      cases pure_eq_ok.mp h
      exact .advanced hevent htransition hvalid

theorem Accepted.valid (h : Accepted event seq current next) : next.validate = .ok () := by
  cases h with
  | first _ hvalid => exact hvalid
  | observed _ _ _ hvalid => exact hvalid
  | decided _ hvalid => exact hvalid
  | advanced _ _ hvalid => exact hvalid

theorem Accepted.keeps {old : SessionImportCurrent} (h : Accepted event seq (some old) next) {ids : List RepositoryId}
    (hids : old.metadata.repositoryReadRestrictions = some ids) :
    ∃ ids', next.metadata.repositoryReadRestrictions = some ids' ∧ ∀ id ∈ ids, id ∈ ids' := by
  cases h with
  | @observed _ metadata _ hkeeps _ _ =>
    simp only [observedState]
    unfold keepsRestrictions at hkeeps
    cases hnext : metadata.repositoryReadRestrictions with
    | none => simp [hnext, hids] at hkeeps
    | some ids' =>
      refine ⟨ids', rfl, fun id hid => ?_⟩
      simp only [hnext, SessionMetadata.readRestrictions, hids, Option.getD_some, List.all_append,
        Bool.and_eq_true, List.all_eq_true, List.contains_iff_mem] at hkeeps
      exact hkeeps.1 id hid
  | decided _ _ => exact ⟨ids, hids, fun _ h => h⟩
  | advanced _ _ _ => exact ⟨ids, hids, fun _ h => h⟩

theorem Accepted.approved (h : Accepted event seq current next) (hnext : next.accessDecision = some .approved) :
    (∃ refs, event.event = .accessDecision .approved refs) ∨
      ∃ old, current = some old ∧ old.accessDecision = some .approved := by
  cases h with
  | first _ _ => cases hnext
  | @observed old metadata _ _ _ _ =>
    simp only [observedState] at hnext
    split at hnext
    · cases hnext
    · exact .inr ⟨old, rfl, hnext⟩
  | @decided _ decision refs hevent _ =>
    cases hnext
    exact .inl ⟨refs, hevent⟩
  | @advanced old _ _ _ _ _ => exact .inr ⟨old, rfl, hnext⟩

/-! ## All events -/

theorem applyEvents_append {front back : List (SessionImportEvent × Nat)} {earlier : Option SessionImportCurrent}
    (h : applyEvents front = .ok earlier) : applyEvents (front ++ back) =
      back.foldlM (fun current e => do return some (← applySessionEvent current e.1 e.2)) earlier := by
  unfold applyEvents at h ⊢
  rw [List.foldlM_append, h]
  rfl

/-- Read restrictions are kept over any further events. -/
theorem restrictions_grow : ∀ {back : List (SessionImportEvent × Nat)} {earlier later : SessionImportCurrent}
    {ids : List RepositoryId}, back.foldlM (fun current e => do
      return some (← applySessionEvent current e.1 e.2)) (some earlier) = .ok (some later) →
    earlier.metadata.repositoryReadRestrictions = some ids →
    ∃ ids', later.metadata.repositoryReadRestrictions = some ids' ∧ ∀ id ∈ ids, id ∈ ids' := by
  intro back
  induction back with
  | nil =>
    intro earlier later ids h hids
    cases h
    exact ⟨ids, hids, fun _ h => h⟩
  | cons e back ih =>
    intro earlier later ids h hids
    rw [List.foldlM_cons] at h
    obtain ⟨mid, hmid, h⟩ := bind_eq_ok.mp h
    obtain ⟨next, hnext, hmid⟩ := bind_eq_ok.mp hmid
    cases pure_eq_ok.mp hmid
    obtain ⟨ids', hids', hsub⟩ := (applySessionEvent_accepted hnext).keeps hids
    obtain ⟨ids'', hids'', hsub'⟩ := ih h hids'
    exact ⟨ids'', hids'', fun id hid => hsub' id (hsub id hid)⟩

/-- A state that events make was accepted by the last of them. -/
theorem accepted_of_applyEvents {events : List (SessionImportEvent × Nat)} (h : applyEvents events = .ok (some next)) :
    ∃ front e current, events = front ++ [e] ∧ applyEvents front = .ok current ∧
      applySessionEvent current e.1 e.2 = .ok next := by
  rcases List.eq_nil_or_concat' events with rfl | ⟨front, e, rfl⟩
  · cases h
  · unfold applyEvents at h
    rw [List.foldlM_append] at h
    obtain ⟨current, hcurrent, h⟩ := bind_eq_ok.mp h
    rw [List.foldlM_cons] at h
    obtain ⟨mid, hmid, h⟩ := bind_eq_ok.mp h
    obtain ⟨_, hnext, hmid⟩ := bind_eq_ok.mp hmid
    cases pure_eq_ok.mp hmid
    cases h
    exact ⟨front, e, current, rfl, hcurrent, hnext⟩

theorem restore_of_valid {value : SessionImportCurrent} (h : value.validate = .ok ()) (generation : Nat) :
    ∃ row, currentRow value generation = .ok row ∧ restoreCurrent row = .ok (some value) := by
  unfold currentRow
  rw [h]
  refine ⟨_, rfl, ?_⟩
  unfold restoreCurrent
  simp [h, ensure, Except.mapError, bind, Except.bind, pure, Except.pure]

/-! ## What is readable -/

/-- The snapshot and the worktree of the origin, in a repository among the read restrictions. -/
def Matches (current : SessionImportCurrent) (snapshot : WorktreeSnapshot) (worktree : WorktreeInstance) : Prop :=
  ∀ origin, current.metadata.prospectiveOrigin = some origin →
    snapshot.worktreeSnapshotId = origin.snapshotRef ∧
    snapshot.worktreeInstanceId = worktree.worktreeInstanceId ∧
    ∃ ids, current.metadata.repositoryReadRestrictions = some ids ∧ worktree.repositoryInstanceId ∈ ids

/-- Some byte range may be imported. -/
def Readable (current : SessionImportCurrent) (snapshot : WorktreeSnapshot) (worktree : WorktreeInstance) : Prop :=
  ∃ range scope, range.finish < 2 ^ 64 ∧
    current.importScope range (some snapshot) (some worktree) = .ok scope

/-- The permission any session needs. -/
def Ordinary (current : SessionImportCurrent) : Prop :=
  current.metadata.workspaceResolutionKind = .repository ∨ current.accessDecision = some .approved

/-- There is no fence, or it is known; a session with no other permission needs bytes behind it. -/
def FenceKnown (current : SessionImportCurrent) : Prop :=
  ∀ origin, current.metadata.prospectiveOrigin = some origin →
    ∃ fence, origin.recordStart = some fence ∧ (Ordinary current ∨ fence + 1 < 2 ^ 64)

theorem ordinaryScope_ok {value : SessionImportCurrent} (h : Ordinary value) : ∃ scope, value.ordinaryScope = .ok scope := by
  unfold SessionImportCurrent.ordinaryScope
  by_cases hkind : value.metadata.workspaceResolutionKind = .repository
  · exact ⟨_, if_pos hkind⟩
  · rw [if_neg hkind, if_pos (h.resolve_left hkind)]
    exact ⟨_, rfl⟩

theorem ordinary_of_scope {value : SessionImportCurrent} {scope : ImportScope} (h : value.ordinaryScope = .ok scope) :
    Ordinary value := by
  unfold SessionImportCurrent.ordinaryScope at h
  split at h
  · next hkind => exact .inl hkind
  · split at h
    · next happroved => exact .inr happroved
    · cases h

theorem permission_of_valid {value : SessionImportCurrent} (h : value.validate = .ok ())
    (hbody : value.bodyState = .queued ∨ value.bodyState = .importing) :
    (value.metadata.prospectiveOrigin.isSome ∨ value.metadata.workspaceResolutionKind ≠ .repository →
      value.accessDecision ≠ some .revoked) ∧
    (value.accessDecision ≠ some .revoked →
      Ordinary value ∨ SessionImportCurrent.hasProspectiveRoute value.metadata = true) := by
  simp only [SessionImportCurrent.validate, ensure_bind_ok] at h
  obtain ⟨-, h⟩ := h
  obtain ⟨_, -, h⟩ := bind_eq_ok.mp h
  simp only [ensure_bind_ok, ensure_ok] at h
  obtain ⟨hrevoked, hrules⟩ := h
  have hreads : SessionImportCurrent.readsOrRead value.bodyState = true := by
    rcases hbody with hbody | hbody <;> rw [hbody] <;> rfl
  have hqueued : [SessionBodyState.queued, .importing].contains value.bodyState = true := by
    rcases hbody with hbody | hbody <;> rw [hbody] <;> rfl
  have harchived : [SessionBodyState.partial_, .imported].contains value.bodyState = false := by
    rcases hbody with hbody | hbody <;> rw [hbody] <;> rfl
  have hunresolved : [SessionBodyState.notImported, .blockedScopeUnresolved, .failed, .sourceReplaced].contains
      value.bodyState = false := by
    rcases hbody with hbody | hbody <;> rw [hbody] <;> rfl
  have hopen : value.metadata.prospectiveOrigin.isSome = true → value.accessDecision ≠ some .revoked := by
    intro hsome hdecision
    rw [hqueued, hsome, hdecision] at hrevoked
    exact absurd hrevoked (by decide)
  by_cases hkind : value.metadata.workspaceResolutionKind = .repository
  · exact ⟨fun h => h.elim hopen (fun hne => absurd hkind hne), fun _ => .inl (.inl hkind)⟩
  by_cases hrestricted : value.metadata.repositoryReadRestrictions.isSome = true
  · simp only [hrestricted, if_true, SessionImportCurrent.restrictedOk, hreads, harchived, Bool.and_false,
      Bool.and_true, Bool.false_or, Bool.or_eq_true, Bool.not_eq_true', bne_eq_false_iff_eq, hkind, false_or,
      Bool.or_eq_false_iff, Bool.and_eq_false_iff, beq_eq_false_iff_ne, Bool.not_eq_false'] at hrules
    refine ⟨fun _ => hrules.1, fun _ => ?_⟩
    rcases hrules.2 with happroved | hroute
    · exact .inl (.inr happroved)
    · exact .inr hroute
  · rw [if_neg hrestricted] at hrules
    unfold SessionImportCurrent.legacyOk at hrules
    split at hrules
    · next hrepository => exact absurd hrepository hkind
    · have happroved : value.accessDecision = some .approved := by simpa [hreads] using hrules
      exact ⟨fun _ => by rw [happroved]; decide, fun _ => .inl (.inr happroved)⟩
    · rw [hunresolved, Bool.and_false] at hrules
      cases hrules
    · rw [hunresolved, Bool.and_false] at hrules
      cases hrules

theorem readable_iff {value : SessionImportCurrent} {snapshot : WorktreeSnapshot} {worktree : WorktreeInstance}
    (hrevoked : value.accessDecision ≠ some .revoked)
    (hpermission : Ordinary value ∨ SessionImportCurrent.hasProspectiveRoute value.metadata = true)
    (hmatches : Matches value snapshot worktree) : Readable value snapshot worktree ↔ FenceKnown value := by
  have hdecision : (value.accessDecision != some .revoked) = true := by simpa using hrevoked
  unfold Readable SessionImportCurrent.importScope
  simp only [hdecision, Bool.and_true, ensure_bind_ok, decide_eq_true_eq]
  cases horigin : value.metadata.prospectiveOrigin with
  | none =>
    have hknown : FenceKnown value := by
      intro origin h
      rw [horigin] at h
      cases h
    refine ⟨fun _ => hknown, fun _ => ?_⟩
    have hroute : SessionImportCurrent.hasProspectiveRoute value.metadata = false := by
      simp [SessionImportCurrent.hasProspectiveRoute, horigin]
    obtain ⟨scope, hscope⟩ := ordinaryScope_ok (hpermission.resolve_right (by simp [hroute]))
    exact ⟨⟨0, 1⟩, scope, by decide, by decide, hscope⟩
  | some origin =>
    constructor
    · rintro ⟨range, scope, hfits, hrange, h⟩ other hother
      rw [horigin] at hother
      cases hother
      obtain ⟨fence, hfence, h⟩ := bind_eq_ok.mp h
      refine ⟨fence, okOr_ok.mp hfence, ?_⟩
      rw [ensure_bind_ok] at h
      obtain ⟨-, h⟩ := h
      split at h
      · next hsuffix => exact .inr (by omega)
      · exact .inl (ordinary_of_scope h)
    · intro hknown
      obtain ⟨fence, hfence, huse⟩ := hknown origin horigin
      obtain ⟨hsnapshot, hworktree, ids, hids, hmem⟩ := hmatches origin horigin
      have hprospective : prospectiveScope value.metadata origin (some snapshot) (some worktree) =
          .ok (some worktree.repositoryInstanceId, some worktree.worktreeInstanceId) := by
        simp [prospectiveScope, okOr, ensure, hsnapshot, hworktree, hids, hmem, bind, Except.bind, pure, Except.pure]
      dsimp only
      rw [hfence]
      by_cases hordinary : Ordinary value
      · obtain ⟨scope, hscope⟩ := ordinaryScope_ok hordinary
        -- the first byte is before the fence, or the fence is at the start of the file
        by_cases hsuffix : fence ≤ 0 ∧ origin.closed = false
        · refine ⟨⟨0, 1⟩, (some worktree.repositoryInstanceId, some worktree.worktreeInstanceId), by decide, by decide, ?_⟩
          have hcut : (!(decide (0 < fence) && decide (fence < 1))) = true := by simp; omega
          simp only [okOr, bind, Except.bind, hcut, ensure, if_true, if_pos hsuffix]
          exact hprospective
        · refine ⟨⟨0, 1⟩, scope, by decide, by decide, ?_⟩
          have hcut : (!(decide (0 < fence) && decide (fence < 1))) = true := by simp; omega
          simp only [okOr, bind, Except.bind, hcut, ensure, if_true, if_neg hsuffix]
          exact hscope
      · have hroute := hpermission.resolve_left hordinary
        have hfits := huse.resolve_left hordinary
        have hclosed : origin.closed = false := by
          simp [SessionImportCurrent.hasProspectiveRoute, horigin] at hroute
          exact hroute.1
        refine ⟨⟨fence, fence + 1⟩, (some worktree.repositoryInstanceId, some worktree.worktreeInstanceId), hfits,
          by simp, ?_⟩
        have hcut : (!(decide (fence < fence) && decide (fence < fence + 1))) = true := by simp
        simp only [okOr, bind, Except.bind, hcut, ensure, if_true, if_pos (And.intro (Nat.le_refl fence) hclosed)]
        exact hprospective

/-- **The sessions of the import queue.** -/
theorem session_states (events : List (SessionImportEvent × Nat)) (current : SessionImportCurrent)
    (h : applyEvents events = .ok (some current)) :
    current.validate = .ok () ∧
    (∀ generation, ∃ row, currentRow current generation = .ok row ∧ restoreCurrent row = .ok (some current)) ∧
    (∀ front back earlier ids, events = front ++ back → applyEvents front = .ok (some earlier) →
      earlier.metadata.repositoryReadRestrictions = some ids →
      ∃ ids', current.metadata.repositoryReadRestrictions = some ids' ∧ ∀ id ∈ ids, id ∈ ids') ∧
    (∀ front e earlier, events = front ++ [e] → applyEvents front = .ok earlier →
      current.accessDecision = some .approved → (∃ refs, e.1.event = .accessDecision .approved refs) ∨
        ∃ old, earlier = some old ∧ old.accessDecision = some .approved) ∧
    (current.bodyState = .queued ∨ current.bodyState = .importing →
      (current.metadata.prospectiveOrigin.isSome ∨ current.metadata.workspaceResolutionKind ≠ .repository →
        current.accessDecision ≠ some .revoked) ∧
      (current.accessDecision ≠ some .revoked → ∀ snapshot worktree, Matches current snapshot worktree →
        (Readable current snapshot worktree ↔ FenceKnown current))) := by
  obtain ⟨front, e, earlier, hevents, hfront, hlast⟩ := accepted_of_applyEvents h
  have hvalid := (applySessionEvent_accepted hlast).valid
  refine ⟨hvalid, restore_of_valid hvalid, ?_, ?_, ?_⟩
  · intro front back earlier ids hsplit hearlier hids
    rw [hsplit, applyEvents_append hearlier] at h
    exact restrictions_grow h hids
  · intro front' e' earlier' hsplit hearlier' happroved
    have hsame := hevents.symm.trans hsplit
    obtain ⟨rfl, he⟩ := List.append_inj' hsame rfl
    cases he
    rw [hfront] at hearlier'
    cases hearlier'
    exact (applySessionEvent_accepted hlast).approved happroved
  · intro hbody
    obtain ⟨hrevoked, hpermission⟩ := permission_of_valid hvalid hbody
    exact ⟨hrevoked, fun hdecision snapshot worktree hmatches =>
      readable_iff hdecision (hpermission hdecision) hmatches⟩

/-! ## A session that waits for its fence -/

def sampleId {family : Family} (n : Fin 16) : Id family := ⟨⟨0x70008000000000000000 + n.val, version7_lt n⟩⟩

def sampleMetadata (fence : Option Nat) : SessionMetadata where
  sourcePath := "/sessions/a.jsonl"
  sourceFormat := "jsonl"
  startedAtUs := none
  endedAtUs := none
  host := none
  modelProfile := none
  workspaceHint := none
  repositoryHint := none
  worktreeHint := none
  workspaceResolutionKind := .repository
  resolvedRepositoryInstanceId := some (sampleId 1)
  resolvedWorktreeInstanceId := some (sampleId 2)
  repositoryReadRestrictions := some [sampleId 1]
  prospectiveOrigin := some ⟨sampleId 3, 4, fence, false⟩
  fileSize := 10
  fileMtimeUs := 1
  sourceFingerprint := "1111111111111111111111111111111111111111111111111111111111111111"
  sourceRevision := "1111111111111111111111111111111111111111111111111111111111111111"
  parserVersion := 1
  metadataState := .indexed

def sampleEvent (revision : Nat) (event : SessionImportEventKind) : SessionImportEvent where
  sessionId := "session-a"
  sourceInstanceId := none
  revision := revision
  predecessorRevision := if revision ≤ 1 then none else some (revision - 1)
  occurredAtUs := 1
  event := event

/-- A session of a repository is observed with an origin and queued. -/
def queuedWithOrigin (fence : Option Nat) : List (SessionImportEvent × Nat) :=
  [(sampleEvent 1 (.metadataObserved (sampleMetadata fence)), 1),
    (sampleEvent 2 (.bodyStateAdvanced .queued .requested), 2)]

def queuedState (fence : Option Nat) : SessionImportCurrent :=
  ⟨"session-a", none, 2, sampleMetadata fence, none, .queued, 2⟩

/-- The record boundary of the origin is not known yet: the session is queued, and no range of it may be read. -/
theorem queued_before_fence : applyEvents (queuedWithOrigin none) = .ok (some (queuedState none)) ∧
    ∀ range snapshot worktree, (queuedState none).importScope range snapshot worktree = .error .invalidInput := by
  refine ⟨by decide +kernel, fun range snapshot worktree => ?_⟩
  unfold SessionImportCurrent.importScope
  by_cases hrange : range.start < range.finish
  · simp only [hrange, decide_true, Bool.true_and]
    rfl
  · simp only [hrange, decide_false, Bool.false_and]
    rfl

/-- With a known boundary the same session is readable. -/
theorem queued_with_fence : ∃ snapshot worktree, Readable (queuedState (some 6)) snapshot worktree := by
  have hrun : applyEvents (queuedWithOrigin (some 6)) = .ok (some (queuedState (some 6))) := by decide +kernel
  have hqueue := (session_states _ _ hrun).2.2.2.2 (.inl rfl)
  refine ⟨⟨sampleId 3, sampleId 2⟩, ⟨sampleId 2, sampleId 1⟩, (hqueue.2 (by decide) _ _ ?_).mpr ?_⟩
  · intro origin horigin
    cases horigin
    exact ⟨rfl, rfl, [sampleId 1], rfl, by simp⟩
  · intro origin horigin
    cases horigin
    exact ⟨6, rfl, .inl (.inl rfl)⟩

end EverTrace.L2.SessionImport
