import EverTrace.L2Machine.SegmentPerform
/-!
# Which steps can be committed

A step that the segmenter emits is committed by revising the episode. The
detector and the folder know no bounds, the episode does: `validate` and
`validateSuccessor` bound its lists and counters and let neither its capture
watermark nor its gaps and outages go back. `Limits` lists these bounds in terms
of the episode, the step and the pinned receipts.

Results:
* `step_committable_iff`: from every reachable state, a step with one current receipt for each lane can be
  committed exactly within the limits.
* `second_lane_uncommittable`: a lane whose receipt lies behind the episode's capture watermark.
-/
namespace EverTrace.L2.Segmentation
open EverTrace.Lib EverTrace.L1 EverTrace.L2.Work
open SegmentationDetector OperationBurstFolder IncrementalSegmenter

/-- One valid receipt for each lane of the episode and the token, the current one in the store. -/
structure Pinned (view : SegmentationCurrentView) (e : WorkEpisode) (token : ActivityToken)
    (receipts : List CaptureReceipt) : Prop where
  lanes : (receipts.map (·.executionLaneId)).Perm (expectedLaneIds e token)
  valid : ∀ r ∈ receipts, r.validate = .ok ()
  current : ∀ r ∈ receipts, ∃ lane, view.lane r.executionLaneId = some lane ∧
    lane.activeCaptureReceiptRevisionId = r.captureReceiptRevisionId ∧
    view.receipt r.captureReceiptRevisionId = some r

/-- The bounds of an episode, at the revision that a step gives it. -/
structure Limits (e : WorkEpisode) (step : IncrementalSegmentationStep) (receipts : List CaptureReceipt) : Prop where
  generation : e.revisionGeneration + 1 < 2 ^ 64
  selected : e.pendingDeltaStats.selectedTokenCount + 1 < 2 ^ 32
  meaningful : step.burst.meaningfulNew = true → e.pendingDeltaStats.meaningfulBurstCount + 1 < 2 ^ 32
  highValue : step.token.boundaryEvidence ≠ .none ∨ step.token.verifierTransition ≠ .none →
    e.pendingDeltaStats.highValueSignalCount + 1 < 2 ^ 32
  sessions : (sortUnique (e.sessionIds ++ [step.token.sessionId])).length ≤ 64
  sessionText : bounded step.token.sessionId = true
  lanes : (expectedLaneIds e step.token).length ≤ 64
  groups : (sortUnique (e.competingAttemptGroupIds ++ step.token.competingGroupId.toList)).length ≤ 64
  transitions : (sortUnique (e.worktreeTransitionRefs ++ step.token.worktreeTransitionRefs)).length ≤ 64
  bursts : (sortUnique (e.operationBurstRefs ++ [step.burst.current.operationBurstId])).length ≤ 64
  gaps : (sortUnique (receipts.flatMap (·.captureGapMarkerRefs))).length ≤ 64
  gapTexts : ∀ r ∈ receipts, ∀ gap ∈ r.captureGapMarkerRefs, bounded gap = true
  gapsKept : ∀ gap ∈ e.captureGapRefs, ∃ r ∈ receipts, gap ∈ r.captureGapMarkerRefs
  outages : (sortUnique (receipts.flatMap (·.captureOutageIntervalRefs))).length ≤ 64
  outagesKept : ∀ outage ∈ e.captureOutageRefs, ∃ r ∈ receipts, outage ∈ r.captureOutageIntervalRefs
  capture : e.captureWatermark ≤ captureWatermark receipts

/-- The commit of a step: `confirmEpisodeBoundary` if it confirms the boundary, else `saveSegmentationUpdate`. -/
def commitStep (e : WorkEpisode) (step : IncrementalSegmentationStep) (exitSnapshot : Option WorktreeSnapshotId)
    (receipts : List CaptureReceipt) : Except WorkIdentityError WorkEpisode :=
  if step.detector.boundaryStatus == .confirmed then confirmEpisodeBoundary e step exitSnapshot receipts
  else do
    let command ← saveSegmentationUpdate e step receipts
    return command.episode

/-! ## Receipts -/

section Receipts

variable {view : SegmentationCurrentView} {e : WorkEpisode} {token : ActivityToken} {receipts : List CaptureReceipt}

theorem Pinned.lane_nodup (h : Pinned view e token receipts) : (receipts.map (·.executionLaneId)).Nodup :=
  h.lanes.nodup_iff.mpr (sortUnique_nodup _)

/-- Receipts of different lanes are different revisions. -/
theorem Pinned.revision_nodup (h : Pinned view e token receipts) :
    (receipts.map (·.captureReceiptRevisionId)).Nodup := by
  refine List.Nodup.map_on (fun r hr r' hr' hid => ?_) h.lane_nodup.of_map
  obtain ⟨-, -, -, hr⟩ := h.current r hr
  obtain ⟨-, -, -, hr'⟩ := h.current r' hr'
  rw [hid, hr'] at hr
  exact (Option.some.inj hr).symm

theorem Pinned.mem_token {episodeId : WorkEpisodeId} (h : Pinned view e token receipts)
    (hcompiled : Compiled view episodeId e token) : token.captureReceipt ∈ receipts := by
  have hlane : token.executionLaneId ∈ receipts.map (·.executionLaneId) := by
    rw [h.lanes.mem_iff, expectedLaneIds, mem_sortUnique]
    simp
  obtain ⟨r, hr, hsame⟩ := List.mem_map.mp hlane
  obtain ⟨lane, hlookup, hactive, hreceipt⟩ := h.current r hr
  obtain ⟨lane', hlookup', hactive', hreceipt'⟩ := hcompiled.receiptCurrent
  rw [hsame, hlookup'] at hlookup
  obtain rfl := Option.some.inj hlookup
  rw [← hactive, hactive', hreceipt'] at hreceipt
  rw [Option.some.inj hreceipt]
  exact hr

theorem Pinned.covered {episodeId : WorkEpisodeId} (h : Pinned view e token receipts)
    (hcompiled : Compiled view episodeId e token) : receiptsMisplaced e token receipts = false := by
  have hids : (sortUnique (receipts.map (·.captureReceiptRevisionId))).length = receipts.length := by
    rw [length_sortUnique h.revision_nodup, List.length_map]
  have hlanes : (receipts.map (·.executionLaneId)).insertionSort (· ≤ ·) = expectedLaneIds e token := by
    refine List.Perm.eq_of_pairwise (fun a b _ _ hab hba => le_antisymm hab hba) (List.pairwise_insertionSort _ _)
      ((sortUnique_pairwise _).imp fun hlt => hlt.le) ?_
    exact (List.perm_insertionSort _ _).trans h.lanes
  have hlength : (expectedLaneIds e token).length = receipts.length := by
    rw [← h.lanes.length_eq, List.length_map]
  have hdup : adjacentDup id (expectedLaneIds e token) = false := by
    unfold expectedLaneIds
    rw [adjacentDup_of_pairwise id ((sortUnique_pairwise _).imp fun hlt => hlt.le), List.map_id]
    exact sortUnique_nodup _
  have hmem : token.captureReceipt.captureReceiptRevisionId ∈ receipts.map (·.captureReceiptRevisionId) :=
    List.mem_map_of_mem (h.mem_token hcompiled)
  simp only [receiptsMisplaced, hlanes, hids, hlength, hdup, bne_self_eq_false, Bool.or_self, Bool.false_or,
    Bool.not_eq_false', List.contains_iff_mem, mem_sortUnique]
  exact hmem

theorem captureWatermark_le {r : CaptureReceipt} (hr : r ∈ receipts) : captureWatermark receipts ≤ r.importWatermark := by
  unfold captureWatermark
  cases hmin : (receipts.map (·.importWatermark)).min? with
  | none => exact Nat.zero_le _
  | some least => exact (List.min?_eq_some_iff.mp hmin).2 _ (List.mem_map_of_mem hr)

end Receipts

/-! ## Counters and lists -/

theorem deltaStats_isSome_iff {stats : PendingDeltaStats} {step : IncrementalSegmentationStep}
    (hdelta : step.burst.noDelta = false) : (∃ next, deltaStats stats step = some next) ↔
      stats.selectedTokenCount + 1 < 2 ^ 32 ∧
      (step.burst.meaningfulNew = true → stats.meaningfulBurstCount + 1 < 2 ^ 32) ∧
      (step.token.boundaryEvidence ≠ .none ∨ step.token.verifierTransition ≠ .none →
        stats.highValueSignalCount + 1 < 2 ^ 32) := by
  have hsucc : ∀ n m, checkedSucc 32 n = some m ↔ n + 1 < 2 ^ 32 ∧ m = n + 1 := fun _ _ => checkedSucc_eq_some
  unfold deltaStats
  simp only [hdelta, Bool.not_false, if_true, Bool.or_eq_true, bne_iff_ne]
  by_cases hmeaningful : step.burst.meaningfulNew = true
  · by_cases hsignal : step.token.boundaryEvidence ≠ .none ∨ step.token.verifierTransition ≠ .none
    · simp [hmeaningful, hsignal, Option.bind_eq_some_iff, hsucc]
    · simp [hmeaningful, hsignal, Option.bind_eq_some_iff, hsucc]
  · by_cases hsignal : step.token.boundaryEvidence ≠ .none ∨ step.token.verifierTransition ≠ .none
    · simp [hmeaningful, hsignal, Option.bind_eq_some_iff, hsucc]
    · simp [hmeaningful, hsignal, Option.bind_eq_some_iff, hsucc]

theorem ids_sortUnique_iff {α : Type} [LinearOrder α] {l : List α} :
    ids (sortUnique l) = true ↔ (sortUnique l).length ≤ 64 := by
  rw [ids_iff]
  exact ⟨And.left, fun h => ⟨h, sortUnique_pairwise l⟩⟩

theorem refs_sortUnique_iff {l : List String} :
    refs (sortUnique l) = true ↔ (sortUnique l).length ≤ 64 ∧ ∀ value ∈ l, bounded value = true := by
  rw [refs_iff]
  refine ⟨fun h => ⟨h.1, fun value hvalue => h.2.1 value (mem_sortUnique.mpr hvalue)⟩,
    fun h => ⟨h.1, fun value hvalue => h.2 value (mem_sortUnique.mp hvalue), sortUnique_pairwise l⟩⟩

section Lists

variable {e : WorkEpisode} {step : IncrementalSegmentationStep} {receipts : List CaptureReceipt} {confirming : Bool}
  {exitSnapshot : Option WorktreeSnapshotId} {stats : PendingDeltaStats} {summary : CaptureSummary}

theorem attempts_eq (hlists : e.allLists = true) (hknown : ∀ id, step.token.attemptId = some id → id ∈ e.attemptIds) :
    sortUnique (e.attemptIds ++ step.token.attemptId.toList) = e.attemptIds := by
  simp only [WorkEpisode.allLists, List.all_cons, id, Bool.and_eq_true] at hlists
  obtain ⟨-, -, hattempts, -⟩ := hlists
  refine sortUnique_append_of_subset (ids_iff.mp hattempts).2 fun id hid => ?_
  exact hknown id (Option.mem_toList.mp hid)

/-- The lists of the successor are within bounds exactly within the limits. -/
theorem successor_lists_iff (hlists : e.allLists = true)
    (hknown : ∀ id, step.token.attemptId = some id → id ∈ e.attemptIds)
    (hfew : (sortUnique (receipts.map (·.captureReceiptRevisionId))).length ≤ (expectedLaneIds e step.token).length) :
    (successor e step receipts confirming exitSnapshot stats summary).allLists = true ↔
      (sortUnique (e.sessionIds ++ [step.token.sessionId])).length ≤ 64 ∧ bounded step.token.sessionId = true ∧
      (expectedLaneIds e step.token).length ≤ 64 ∧
      (sortUnique (e.competingAttemptGroupIds ++ step.token.competingGroupId.toList)).length ≤ 64 ∧
      (sortUnique (e.worktreeTransitionRefs ++ step.token.worktreeTransitionRefs)).length ≤ 64 ∧
      (sortUnique (e.operationBurstRefs ++ [step.burst.current.operationBurstId])).length ≤ 64 ∧
      (sortUnique (receipts.flatMap (·.captureGapMarkerRefs))).length ≤ 64 ∧
      (∀ r ∈ receipts, ∀ gap ∈ r.captureGapMarkerRefs, bounded gap = true) ∧
      (sortUnique (receipts.flatMap (·.captureOutageIntervalRefs))).length ≤ 64 := by
  have hattempts := attempts_eq hlists hknown
  simp only [WorkEpisode.allLists, List.all_cons, List.all_nil, id, Bool.and_eq_true, and_true] at hlists
  obtain ⟨hsessions, hlanes, hattemptIds, hgroups, hbursts, htransitions, hfailed, hinterrupted, hreturned, hselected,
    hfailures, hinterruptions, hcompleted, houtcomes, hverification, hloops, hcheckpoints, hdigests, hreceipts, hgaps,
    houtages, hcorrections⟩ := hlists
  have hold := (refs_iff.mp hsessions).2.1
  simp only [WorkEpisode.allLists, successor, List.all_cons, List.all_nil, id, Bool.and_eq_true, and_true,
    ids_sortUnique_iff, refs_sortUnique_iff, hattempts, hattemptIds, hfailed, hinterrupted, hreturned, hselected,
    hfailures, hinterruptions, hcompleted, houtcomes, hverification, hloops, hcheckpoints, hdigests, hcorrections,
    true_and, List.mem_flatMap, List.mem_append, List.mem_singleton]
  unfold expectedLaneIds at hfew ⊢
  constructor
  · rintro ⟨⟨hs, htext⟩, hl, hg, hb, ht, _, ⟨hgap, hgapText⟩, ho⟩
    exact ⟨hs, htext _ (.inr rfl), hl, hg, ht, hb, hgap, fun r hr gap hmem => hgapText gap ⟨r, hr, hmem⟩, ho⟩
  · rintro ⟨hs, htext, hl, hg, ht, hb, hgap, hgapText, ho⟩
    refine ⟨⟨hs, fun value hvalue => ?_⟩, hl, hg, hb, ht, by omega, ⟨hgap, fun gap hof => ?_⟩, ho⟩
    · rcases hvalue with hvalue | rfl
      · exact hold value hvalue
      · exact htext
    · obtain ⟨r, hr, hmem⟩ := hof
      exact hgapText r hr gap hmem

theorem retains_iff {α : Type} [DecidableEq α] {old new : List α} :
    WorkEpisode.retains old new = true ↔ ∀ a ∈ old, a ∈ new := by
  simp [WorkEpisode.retains]

/-- Only gaps and outages can be dropped. -/
theorem successor_retains_iff : e.retainsAll (successor e step receipts confirming exitSnapshot stats summary) = true ↔
    (∀ gap ∈ e.captureGapRefs, ∃ r ∈ receipts, gap ∈ r.captureGapMarkerRefs) ∧
      ∀ outage ∈ e.captureOutageRefs, ∃ r ∈ receipts, outage ∈ r.captureOutageIntervalRefs := by
  simp only [WorkEpisode.retainsAll, successor, Bool.and_eq_true, retains_iff, mem_sortUnique, List.mem_append,
    List.mem_flatMap]
  refine ⟨fun h => ⟨h.1.1.2, h.1.2⟩, fun ⟨hgaps, houtages⟩ => ?_⟩
  simp only [and_assoc]
  exact ⟨fun _ h => .inl h, fun _ h => .inl h, fun _ h => .inl h, fun _ h => .inl h, fun _ h => .inl h,
    fun _ h => .inl h, fun _ h => h, fun _ h => h, fun _ h => h, fun _ h => h, fun _ h => h, fun _ h => h, fun _ h => h,
    fun _ h => h, fun _ h => h, fun _ h => h, hgaps, houtages, fun _ h => h⟩

end Lists

/-! ## The step fits the episode -/

section Step

variable {s s' : IncrementalSegmenter} {p : SegmentationCurrentState} {e : WorkEpisode} {bursts : List OperationBurst}
  {operationId : OperationId} {facts : SegmentationFacts} {fresh : FreshIds} {pending : PendingTransition}
  {step : IncrementalSegmentationStep}

/-- A segmenter emits steps only for an episode that is stored under its own id. -/
theorem Inv.own_episode (h : Inv s p e bursts)
    (hobserve : s.observe p operationId facts fresh = (.ok (.delta step), s')) : s.episodeId = e.episodeId := by
  obtain ⟨episode, token, pending, -, hepisode, -, -, htoken, hprepared, -, -⟩ := observe_delta h.idle hobserve
  obtain rfl : episode = e := Option.some.inj (hepisode.symm.trans h.episode)
  have hcompiled := compileChecked_ok hepisode htoken
  have hstream : token.workstreamId = s.detector.workstreamId := hcompiled.sameWorkstream.trans h.workstream.symm
  rw [← hcompiled.sameEpisode, push_sameEpisode hstream hprepared.detected, h.episodeId]

theorem Observed.burst_watermark (h : Observed s p e fresh pending) :
    pending.step.burst.current.sourceWatermark = pending.step.token.sourceWatermark ∧
      pending.step.burst.current.validate = .ok () ∧
      memberFromToken pending.step.token ∈ pending.step.burst.current.members := by
  have hpushed := h.pushed
  have hdelta := h.delta
  generalize pending.step.burst = burst at hpushed hdelta
  generalize pending.nextFolder = folder at hpushed
  cases hpushed with
  | replayed => cases hdelta
  | extended current _ _ hsuccessor =>
    exact ⟨rfl, (OperationBurst.validateSuccessor_successor hsuccessor).validated.2,
      List.mem_append_right _ List.mem_cons_self⟩
  | first _ _ hvalid | next _ _ _ _ _ hvalid => exact ⟨rfl, hvalid, List.mem_cons_self⟩

theorem Observed.started_members (h : Observed s p e fresh pending) (hnew : pending.step.burst.startedNew = true) :
    pending.step.burst.current.members = [memberFromToken pending.step.token] := by
  have hpushed := h.pushed
  generalize pending.step.burst = burst at hpushed hnew
  generalize pending.nextFolder = folder at hpushed
  cases hpushed with
  | replayed | extended => cases hnew
  | first | next => rfl

theorem Observed.evidence (h : Observed s p e fresh pending) :
    pending.step.token.sourceObservationRefs ≠ [] ∧ pending.step.token.sourceObservationRefs.length ≤ 64 ∧
      ids pending.step.token.boundaryEvidenceRefs = true := by
  obtain ⟨-, hvalid, hmember⟩ := h.burst_watermark
  obtain ⟨hne, hlength, -⟩ := (OperationBurst.validate_valid hvalid).observations hmember
  refine ⟨hne, hlength, ids_iff.mpr ⟨?_, h.compiled.evidenceOrdered⟩⟩
  have := length_le_of_subset h.compiled.evidenceOrdered h.compiled.evidenceObserved
  have hlength' : pending.step.token.sourceObservationRefs.length ≤ 64 := hlength
  omega

theorem candidate_validate_iff {c : BoundaryCandidateState} : c.validate = .ok () ↔
    c.candidateWatermark ≠ 0 ∧ c.evidenceRefs ≠ [] ∧ ids c.evidenceRefs = true ∧ c.refinementProgress ≤ 8 := by
  unfold BoundaryCandidateState.validate
  rw [ite_error_ok]
  simp only [Bool.or_eq_true, not_or, beq_iff_eq, List.isEmpty_iff, Bool.not_eq_true', Bool.not_eq_false,
    decide_eq_true_eq, Nat.not_lt, and_assoc, ne_eq]

theorem Inv.candidate_valid (h : Inv s p e bursts) (hstep : Observed s p e fresh pending)
    {candidate : Option Candidate} {status : BoundaryStatus} {confirmation : Nat} {evidence : List SourceObservationId}
    (hsettles : Settles s.detector pending.step.token pending.step.burst candidate status confirmation evidence)
    {c : Candidate} (hc : candidate = some c) :
    c.state.validate = .ok () ∧ c.sourceWatermark ≤ max e.sourceWatermark pending.step.token.sourceWatermark := by
  obtain ⟨hobserved, hfew, hids⟩ := hstep.evidence
  have hpositive := hstep.compiled.watermark
  have hheld : ∀ held, s.detector.candidate = some held →
      held.state.validate = .ok () ∧ held.sourceWatermark ≤ e.sourceWatermark := by
    intro held hheld
    exact h.valid.candidate held.state (by rw [h.candidate, hheld]; rfl)
  cases hsettles with
  | idle | retracted | confirmed => cases hc
  | created hnone hstatus htrigger =>
    obtain rfl := Option.some.inj hc
    refine ⟨candidate_validate_iff.mpr ⟨hpositive, ?_⟩, le_max_right _ _⟩
    by_cases hsurprise : s.detector.structuredSurprise pending.step.token pending.step.burst = true
    · -- a surprise rests on all observations of the burst it starts
      have hmembers : pending.step.burst.current.members = [memberFromToken pending.step.token] := by
        simp only [structuredSurprise, Bool.and_eq_true] at hsurprise
        exact hstep.started_members hsurprise.1.1.1
      have hrefs : (s.detector.created pending.step.token pending.step.burst).evidenceRefs =
          sortUnique pending.step.token.sourceObservationRefs := by
        simp only [SegmentationDetector.created, hsurprise, if_true, hmembers, List.flatMap_singleton]
        rfl
      simp only [Candidate.state, hrefs]
      have hlength := length_sortUnique_le pending.step.token.sourceObservationRefs
      refine ⟨fun hnil => ?_, ids_sortUnique_iff.mpr (by omega), Nat.zero_le _⟩
      obtain ⟨id, hid⟩ := List.exists_mem_of_ne_nil _ hobserved
      have := mem_sortUnique.mpr hid
      rw [hnil] at this
      cases this
    · have hrefs : (s.detector.created pending.step.token pending.step.burst).evidenceRefs =
          pending.step.token.boundaryEvidenceRefs := by
        simp only [SegmentationDetector.created, hsurprise]
        rfl
      simp only [Candidate.state, hrefs]
      refine ⟨hstep.compiled.evidenceNonempty ?_, hids, Nat.zero_le _⟩
      rcases htrigger with hevidence | hphase | htrigger
      · exact .inl hevidence
      · refine .inr ?_
        unfold phaseChange at hphase
        cases hobs : pending.step.token.observedPhaseKind with
        | none => rw [hobs] at hphase; cases hphase
        | some phase => rfl
      · exact absurd htrigger hsurprise
  | upgraded held _ _ _ hevidence =>
    obtain rfl := Option.some.inj hc
    exact ⟨candidate_validate_iff.mpr
      ⟨hpositive, hstep.compiled.evidenceNonempty (.inl hevidence), hids, Nat.zero_le _⟩, le_max_right _ _⟩
  | kept held hsome =>
    obtain rfl := Option.some.inj hc
    obtain ⟨hvalid, hle⟩ := hheld held hsome
    obtain ⟨hw, hne, hrefs, hprogress⟩ := candidate_validate_iff.mp hvalid
    refine ⟨candidate_validate_iff.mpr ?_, by rw [observed_sourceWatermark]; exact hle.trans (le_max_left _ _)⟩
    simp only [Candidate.state, observed_sourceWatermark, observed_evidenceRefs]
    exact ⟨hw, hne, hrefs, observed_observations_le hprogress⟩

theorem Inv.status_next (h : Inv s p e bursts) (hopen : s.closed = false) {token : ActivityToken}
    {burst : BurstFoldUpdate} {candidate : Option Candidate} {status : BoundaryStatus} {confirmation : Nat}
    {evidence : List SourceObservationId}
    (hsettles : Settles s.detector token burst candidate status confirmation evidence) :
    (status = .candidate ↔ candidate.isSome = true) ∧
      ((status = e.boundaryStatus ∨ e.boundaryStatus = .provisional ∧ status = .candidate) ∨
        e.boundaryStatus = .candidate ∧ (status = .provisional ∨ status = .confirmed)) := by
  have hconfirmed := h.not_confirmed hopen
  have hstatus : e.boundaryStatus = .candidate ↔ s.detector.candidate.isSome = true := by
    rw [h.valid.status, h.candidate, Option.isSome_map]
  rw [h.status] at hstatus ⊢
  cases hsettles with
  | idle hnone =>
    rw [hnone] at hstatus
    exact ⟨hstatus, .inl (.inl rfl)⟩
  | created hnone =>
    rw [hnone] at hstatus
    have hprovisional : s.detector.boundaryStatus = .provisional := by
      cases hcase : s.detector.boundaryStatus with
      | provisional => rfl
      | candidate => cases hstatus.mp hcase
      | confirmed => exact absurd hcase hconfirmed
    exact ⟨by simp, .inl (.inr ⟨hprovisional, rfl⟩)⟩
  | retracted held hheld => exact ⟨by simp, .inr ⟨hstatus.mpr (by simp [hheld]), .inl rfl⟩⟩
  | upgraded held hheld | kept held hheld =>
    exact ⟨by simp [hstatus.mpr (by simp [hheld])], .inl (.inl rfl)⟩
  | confirmed held hheld => exact ⟨by simp, .inr ⟨hstatus.mpr (by simp [hheld]), .inr rfl⟩⟩

theorem boundaryOk_iff {e next : WorkEpisode} : WorkEpisode.boundaryOk e next = true ↔
    ((next.boundaryStatus = e.boundaryStatus ∨ e.boundaryStatus = .provisional ∧ next.boundaryStatus = .candidate) ∨
      e.boundaryStatus = .candidate ∧ (next.boundaryStatus = .provisional ∨ next.boundaryStatus = .confirmed)) := by
  unfold WorkEpisode.boundaryOk
  cases e.boundaryStatus <;> cases next.boundaryStatus <;> simp

theorem Observed.placed (h : Observed s p e fresh pending) (hid : s.episodeId = e.episodeId)
    (hdetector : s.detector.episodeId = e.episodeId)
    (hwatermark : e.sourceWatermark ≤ pending.step.token.sourceWatermark) :
    stepMisplaced e pending.step (pending.step.detector.boundaryStatus == .confirmed) = false := by
  obtain ⟨candidate, status, confirmation, alignment, retracted, evidence, -, hupdate, -⟩ := h.settles
  have hepisode : pending.step.detector.episodeId = e.episodeId := by
    rw [hupdate]
    exact hdetector
  have htoken : pending.step.detector.tokenWatermark = pending.step.token.sourceWatermark := by rw [hupdate]; rfl
  simp only [stepMisplaced, h.compiled.sameEpisode, hid, h.compiled.sameTask, h.compiled.sameWorkstream, hepisode, htoken,
    h.burst_watermark.1, h.openEpisode, bne_self_eq_false, Bool.or_self, Bool.or_false, Bool.false_or]
  exact decide_eq_false (Nat.not_lt.mpr hwatermark)

/-- What a step makes of the boundary fields of its episode. -/
structure BoundaryNext (e : WorkEpisode) (token : ActivityToken) (next : WorkEpisode) : Prop where
  candidate : ∀ c, next.boundaryCandidate = some c → c.validate = .ok () ∧ c.candidateWatermark ≤ token.sourceWatermark
  status : next.boundaryStatus = .candidate ↔ next.boundaryCandidate.isSome = true
  moves : WorkEpisode.boundaryOk e next = true
  ends : next.boundaryStatus = .confirmed ∧ next.lifecycleStatus = .closed ∧
      next.confirmationWatermark = token.sourceWatermark ∨
    next.boundaryStatus ≠ .confirmed ∧ next.lifecycleStatus = .open_ ∧ next.confirmationWatermark = 0 ∧
      next.exitWorktreeSnapshotId = none

theorem Inv.boundary_next {receipts : List CaptureReceipt} {exitSnapshot : Option WorktreeSnapshotId}
    {stats : PendingDeltaStats} {summary : CaptureSummary} (h : Inv s p e bursts) (hstep : Observed s p e fresh pending)
    (hwatermark : e.sourceWatermark ≤ pending.step.token.sourceWatermark) :
    BoundaryNext e pending.step.token (successor e pending.step receipts
      (pending.step.detector.boundaryStatus == .confirmed) exitSnapshot stats summary) := by
  obtain ⟨candidate, status, confirmation, alignment, retracted, evidence, hsettles, hupdate, -⟩ := hstep.settles
  obtain ⟨hcandidateStatus, hmoves⟩ := h.status_next hstep.isOpen hsettles
  have hstatus : pending.step.detector.boundaryStatus = status := by rw [hupdate]; rfl
  have hstate : pending.step.detector.candidateState = candidate.map Candidate.state := by
    rw [hupdate, candidateState_update]
    rfl
  have hnow : pending.step.detector.confirmationWatermark = confirmation := by rw [hupdate]; rfl
  have hvalid : ∀ c, candidate.map Candidate.state = some c →
      c.validate = .ok () ∧ c.candidateWatermark ≤ pending.step.token.sourceWatermark := by
    intro c hc
    obtain ⟨held, hheld, rfl⟩ := Option.map_eq_some_iff.mp hc
    obtain ⟨hvalid, hle⟩ := h.candidate_valid hstep hsettles hheld
    rw [max_eq_right hwatermark] at hle
    exact ⟨hvalid, hle⟩
  by_cases hconfirmed : status = .confirmed
  · obtain ⟨hnone, -, hat, -, -⟩ := hsettles.of_confirmed (h.not_confirmed hstep.isOpen) hconfirmed
    subst hconfirmed
    refine ⟨?_, ?_, boundaryOk_iff.mpr ?_, .inl ⟨?_, ?_, ?_⟩⟩
    · simp [successor, hstatus]
    · simp [successor, hstatus]
    · simpa [successor, hstatus] using hmoves
    · simp [successor, hstatus]
    · simp [successor, hstatus]
    · simp [successor, hstatus, hnow, hat]
  · have hzero : e.confirmationWatermark = 0 := by
      by_contra hne
      exact (h.valid.openShape hstep.openEpisode).1 (h.valid.confirmed.mpr hne)
    have hexit := (h.valid.openShape hstep.openEpisode).2
    refine ⟨?_, ?_, boundaryOk_iff.mpr ?_, .inr ⟨?_, ?_, ?_, ?_⟩⟩
    · simpa [successor, hstatus, hconfirmed, hstate] using hvalid
    · simpa [successor, hstatus, hconfirmed, hstate] using hcandidateStatus
    · simpa [successor, hstatus, hconfirmed] using hmoves
    · simp [successor, hstatus, hconfirmed]
    · simpa [successor, hstatus, hconfirmed] using hstep.openEpisode
    · simpa [successor, hstatus, hconfirmed] using hzero
    · simpa [successor, hstatus, hconfirmed] using hexit

theorem Inv.successor_checked {receipts : List CaptureReceipt} {exitSnapshot : Option WorktreeSnapshotId}
    {stats : PendingDeltaStats} {summary : CaptureSummary} {next : WorkEpisode} (h : Inv s p e bursts)
    (hstep : Observed s p e fresh pending) (hfresh : fresh.episodeRevisionId ≠ e.revisionId)
    (hwatermark : e.sourceWatermark ≤ pending.step.token.sourceWatermark) (hsummary : summary.validate = .ok ())
    (himport : captureWatermark receipts ≤ pending.step.token.sourceWatermark)
    (hnext : next = successor e pending.step receipts (pending.step.detector.boundaryStatus == .confirmed) exitSnapshot
      stats summary)
    (hlists : next.allLists = true) (hretains : e.retainsAll next = true) (hroom : e.revisionGeneration + 1 < 2 ^ 64)
    (hcapture : e.captureWatermark ≤ captureWatermark receipts) : e.Successor next := by
  have hboundary : BoundaryNext e pending.step.token next := hnext ▸ h.boundary_next hstep hwatermark
  have hsource : next.sourceWatermark = pending.step.token.sourceWatermark := by rw [hnext]; rfl
  have hsemantic : next.semanticWatermark = e.semanticWatermark := by rw [hnext]; rfl
  have hgeneration : next.revisionGeneration = e.revisionGeneration + 1 := by rw [hnext]; rfl
  have hpredecessor : next.predecessorRevisionId = some e.revisionId := by rw [hnext]; rfl
  have hcaptured : next.captureWatermark = captureWatermark receipts := by rw [hnext]; rfl
  have hpositive := hstep.compiled.watermark
  have hbelow := h.valid.semantic
  have hends := hboundary.ends
  have hpending : next.pendingOk = true := by
    rw [hnext]
    simp only [WorkEpisode.pendingOk, successor]
    by_cases hlt : e.semanticWatermark < pending.step.token.sourceWatermark
    · have hinterval : PendingSemanticInterval.validate ⟨e.semanticWatermark, pending.step.token.sourceWatermark⟩ = .ok () :=
        ite_error_ok.mpr (Nat.not_le.mpr hlt)
      simp [hlt, hinterval]
    · simp only [hlt, if_false, beq_iff_eq]
      omega
  have hvalid : next.Valid := {
    contract := by rw [hnext]; exact h.valid.contract
    summary := by rw [hnext]; exact hsummary
    generation := by rw [hgeneration]; omega
    watermark := by rw [hsource]; exact hpositive
    first := by
      rw [hgeneration, hpredecessor]
      have := h.valid.generation
      refine ⟨fun hone => ?_, fun hnone => by cases hnone⟩
      omega
    semantic := by omega
    confirmation := by
      rcases hends with ⟨-, -, hat⟩ | ⟨-, -, hzero, -⟩
      · omega
      · omega
    capture := by omega
    pending := hpending
    candidate := by rw [hsource]; exact hboundary.candidate
    status := hboundary.status
    lists := hlists
    runs := by rw [hnext]; exact h.valid.runs
    artifacts := by rw [hnext]; exact h.valid.artifacts
    openShape := by
      intro hopen
      rcases hends with ⟨-, hclosed, -⟩ | ⟨hstatus, -, -, hexit⟩
      · rw [hopen] at hclosed
        cases hclosed
      · exact ⟨hstatus, hexit⟩
    closedShape := by
      intro hclosed
      rcases hends with ⟨hstatus, -⟩ | ⟨-, hopen, -⟩
      · exact hstatus
      · exact absurd hopen hclosed
    confirmed := by
      rcases hends with ⟨hstatus, -, hat⟩ | ⟨hstatus, -, hzero, -⟩
      · simp [hstatus, hat, hpositive]
      · simp [hstatus, hzero] }
  exact {
    valid := h.valid
    nextValid := hvalid
    room := hroom
    sameEpisode := by rw [hnext]; rfl
    generation := hgeneration
    predecessor := hpredecessor
    newRevision := by
      rw [hnext]
      show pending.step.episodeSuccessorRevisionId ≠ e.revisionId
      rw [hstep.revision]
      exact hfresh
    sameTask := by rw [hnext]; rfl
    sameWorkstream := by rw [hnext]; rfl
    sameRepository := by rw [hnext]; rfl
    sameWorktree := by rw [hnext]; rfl
    sameContract := by rw [hnext]; rfl
    sameEntry := by rw [hnext]; rfl
    watermark := by omega
    semantic := by omega
    confirmation := by
      have hzero : e.confirmationWatermark = 0 := by
        by_contra hne
        exact (h.valid.openShape hstep.openEpisode).1 (h.valid.confirmed.mpr hne)
      omega
    capture := by omega
    lifecycle := by
      rcases hends with ⟨-, hclosed, -⟩ | ⟨-, hopen, -⟩
      · simp [WorkEpisode.lifecycleOk, hstep.openEpisode, hclosed]
      · simp [WorkEpisode.lifecycleOk, hstep.openEpisode, hopen]
    boundary := hboundary.moves
    live := by rw [hstep.openEpisode]; decide
    closed := by
      intro hclosed
      rw [hstep.openEpisode] at hclosed
      cases hclosed
    retained := hretains }

/-- The step's revision of the episode passes the checks exactly within the limits. -/
theorem Inv.revised_iff {receipts : List CaptureReceipt} {exitSnapshot : Option WorktreeSnapshotId}
    (h : Inv s p e bursts) (hstep : Observed s p e fresh pending) (hid : s.episodeId = e.episodeId)
    (hpinned : Pinned p.authority e pending.step.token receipts) (hfresh : fresh.episodeRevisionId ≠ e.revisionId)
    (hwatermark : e.sourceWatermark ≤ pending.step.token.sourceWatermark) :
    (∃ next, Revised e pending.step receipts (pending.step.detector.boundaryStatus == .confirmed) exitSnapshot next) ↔
      Limits e pending.step receipts := by
  have hplaced := hstep.placed hid h.episodeId hwatermark
  have hcovered := hpinned.covered hstep.compiled
  have htokenReceipt := hpinned.mem_token hstep.compiled
  obtain ⟨summary, hsummary, hsummaryValid⟩ :=
    CaptureSummary.fromReceipts_validate (List.ne_nil_of_mem htokenReceipt) hpinned.valid
  have hfew : (sortUnique (receipts.map (·.captureReceiptRevisionId))).length ≤
      (expectedLaneIds e pending.step.token).length := by
    rw [length_sortUnique hpinned.revision_nodup, List.length_map, ← hpinned.lanes.length_eq, List.length_map]
  have hcapture := captureWatermark_le htokenReceipt
  have himport := hstep.compiled.receiptWatermark
  have hstats := @deltaStats_isSome_iff e.pendingDeltaStats _ hstep.delta
  have hlists := fun stats => @successor_lists_iff e pending.step receipts
    (pending.step.detector.boundaryStatus == .confirmed) exitSnapshot stats summary h.valid.lists
    hstep.compiled.attemptKnown hfew
  have hretains := fun stats => @successor_retains_iff e pending.step receipts
    (pending.step.detector.boundaryStatus == .confirmed) exitSnapshot stats summary
  refine ⟨fun ⟨next, hrevised⟩ => ?_, fun hlimits => ?_⟩
  · obtain ⟨stats, summary', hstatsSome, hsummary', rfl⟩ := hrevised.built
    obtain rfl : summary = summary' := Except.ok.inj (hsummary.symm.trans hsummary')
    obtain ⟨hselected, hmeaningful, hhigh⟩ := hstats.mp ⟨stats, hstatsSome⟩
    obtain ⟨hsessions, hsessionText, hlanes, hgroups, htransitions, hbursts, hgaps, hgapTexts, houtages⟩ :=
      (hlists stats).mp hrevised.checked.nextValid.lists
    obtain ⟨hgapsKept, houtagesKept⟩ := (hretains stats).mp hrevised.checked.retained
    exact ⟨hrevised.checked.room, hselected, hmeaningful, hhigh, hsessions, hsessionText, hlanes, hgroups, htransitions,
      hbursts, hgaps, hgapTexts, hgapsKept, houtages, houtagesKept, hrevised.checked.capture⟩
  · obtain ⟨stats, hstatsSome⟩ := hstats.mpr ⟨hlimits.selected, hlimits.meaningful, hlimits.highValue⟩
    refine ⟨_, hplaced, hcovered, ⟨stats, summary, hstatsSome, hsummary, rfl⟩, ?_⟩
    exact h.successor_checked hstep hfresh hwatermark hsummaryValid (hcapture.trans himport) rfl ((hlists stats).mpr
      ⟨hlimits.sessions, hlimits.sessionText, hlimits.lanes, hlimits.groups, hlimits.transitions, hlimits.bursts,
        hlimits.gaps, hlimits.gapTexts, hlimits.outages⟩) ((hretains stats).mpr ⟨hlimits.gapsKept, hlimits.outagesKept⟩)
      hlimits.generation hlimits.capture

/-- A confirmed step passes the checks of `confirmEpisodeBoundary` itself. -/
theorem Inv.confirms (h : Inv s p e bursts) (hstep : Observed s p e fresh pending)
    (hconfirmed : pending.step.detector.boundaryStatus = .confirmed) (exitSnapshot : Option WorktreeSnapshotId)
    (receipts : List CaptureReceipt) : confirmEpisodeBoundary e pending.step exitSnapshot receipts =
      reviseEpisodeFromStep e pending.step receipts true exitSnapshot := by
  obtain ⟨candidate, status, confirmation, alignment, retracted, evidence, hsettles, hupdate, -⟩ := hstep.settles
  have hstatus : status = .confirmed := by rw [hupdate] at hconfirmed; exact hconfirmed
  obtain ⟨-, hevidence, hat, hrefs, hheld⟩ := hsettles.of_confirmed (h.not_confirmed hstep.isOpen) hstatus
  have hcandidate : e.boundaryStatus = .candidate := by
    rw [h.valid.status, h.candidate, Option.isSome_map]
    exact hheld
  -- a candidate is held, so a burst was committed and the episode stands at the detector's watermark
  obtain ⟨c, hc⟩ := Option.isSome_iff_exists.mp hheld
  obtain ⟨before, b, after, hsplit, -⟩ := h.placed c hc
  have hsynced := h.synced (by rw [hsplit]; simp)
  have hlater := hstep.detected.later
  have hepisode : pending.step.detector.episodeId = e.episodeId := by rw [hupdate]; exact h.episodeId
  have htoken : pending.step.detector.tokenWatermark = pending.step.detector.confirmationWatermark := by
    rw [hupdate]
    exact hat.symm
  have hnow : pending.step.detector.confirmationWatermark = pending.step.token.sourceWatermark := by
    rw [hupdate]
    exact hat
  have hnonempty : pending.step.detector.confirmationEvidenceRefs.isEmpty = false := by
    rw [hupdate]
    show evidence.isEmpty = false
    rw [hrefs, List.isEmpty_eq_false_iff]
    exact hstep.compiled.evidenceNonempty (.inl hevidence)
  have habove : ¬ pending.step.detector.confirmationWatermark ≤ e.sourceWatermark := by omega
  unfold confirmEpisodeBoundary
  rw [if_neg]
  simp [hstep.openEpisode, hcandidate, hepisode, hconfirmed, htoken, hnonempty, habove]

end Step

/-- **Within its limits an episode takes every step, and only within them.** From every reachable state, for every
step that the segmenter emits, with one current receipt for each lane of the episode and the token. The first step of
an episode is meant to lie at or above the episode's own watermark. -/
theorem step_committable_iff {episodeId : WorkEpisodeId} {s s' : IncrementalSegmenter} {p : Projection} {n : Nat}
    {e : WorkEpisode} {operationId : OperationId} {facts : SegmentationFacts} {fresh : FreshIds}
    {step : IncrementalSegmentationStep} {receipts : List CaptureReceipt}
    (hrun : Run episodeId (fun _ _ => True) s p n) (hepisode : p.current.episode episodeId = some e)
    (hobserve : s.observe p.current operationId facts fresh = (.ok (.delta step), s'))
    (hpinned : Pinned p.current.authority e step.token receipts) (hfresh : fresh.episodeRevisionId ≠ e.revisionId)
    (hfirst : e.operationBurstRefs = [] → e.sourceWatermark ≤ step.token.sourceWatermark)
    (exitSnapshot : Option WorktreeSnapshotId) :
    (commitStep e step exitSnapshot receipts).isOk = true ↔ Limits e step receipts := by
  have hkept : StepInvariant (fun _ _ => True) (fun _ _ _ => True) := ⟨fun _ _ => trivial, by intros; trivial⟩
  obtain ⟨rfl, e', bursts, hinv, -⟩ := run_inv hkept hrun
  obtain rfl : e' = e := Option.some.inj (hinv.episode.symm.trans hepisode)
  obtain ⟨pending, rfl, -, hstep⟩ := hinv.observed hobserve
  have hwatermark : e'.sourceWatermark ≤ pending.step.token.sourceWatermark := by
    by_cases hnil : bursts = []
    · refine hfirst (List.eq_nil_iff_forall_not_mem.mpr fun id hid => ?_)
      rw [hinv.refs, hnil] at hid
      cases hid
    · have hsynced := hinv.synced hnil
      have hlater := hstep.detected.later
      omega
  have hok : ∀ x : Except WorkIdentityError WorkEpisode, x.isOk = true ↔ ∃ next, x = .ok next := by
    intro x
    cases x <;> simp [Except.isOk, Except.toBool]
  have hrevised : ∀ exitSnapshot, (∃ next, Revised e' pending.step receipts
      (pending.step.detector.boundaryStatus == .confirmed) exitSnapshot next) ↔ Limits e' pending.step receipts :=
    fun _ => hinv.revised_iff hstep (hinv.own_episode hobserve) hpinned hfresh hwatermark
  rw [hok]
  unfold commitStep
  by_cases hconfirmed : pending.step.detector.boundaryStatus = .confirmed
  · rw [if_pos (by simpa using hconfirmed), hinv.confirms hstep hconfirmed, ← hrevised exitSnapshot,
      beq_iff_eq.mpr hconfirmed]
    simp only [revise_iff]
  · rw [if_neg (by simpa using hconfirmed), ← hrevised none, beq_eq_false_iff_ne.mpr hconfirmed]
    simp only [saveSegmentationUpdate, bind_eq_ok, pure_eq_ok, revise_iff]
    constructor
    · rintro ⟨_, _, ⟨next, hnext, _⟩, _⟩
      exact ⟨next, hnext⟩
    · rintro ⟨next, hnext⟩
      exact ⟨next, _, ⟨next, hnext, rfl⟩, rfl⟩

/-! ## A lane that lies behind -/

/-- What the segmenter emits for an observation, and the episode it is about. -/
def emitted (s : IncrementalSegmenter) (p : Projection) (o : Observation) :
    Option (IncrementalSegmenter × IncrementalSegmentationStep × WorkEpisode) :=
  match s.observe p.current o.operationId o.facts o.fresh, p.current.episode (sampleId 1) with
  | (.ok (.delta step), s'), some e => some (s', step, e)
  | _, _ => none

theorem emitted_some {s s' : IncrementalSegmenter} {p : Projection} {o : Observation} {step : IncrementalSegmentationStep}
    {e : WorkEpisode} (h : emitted s p o = some (s', step, e)) :
    s.observe p.current o.operationId o.facts o.fresh = (.ok (.delta step), s') ∧
      p.current.episode (sampleId 1) = some e := by
  unfold emitted at h
  split at h
  · next hobserve hepisode =>
    obtain ⟨rfl, rfl, rfl⟩ : _ ∧ _ ∧ _ := by simpa using h
    exact ⟨hobserve, hepisode⟩
  · cases h

/-- `Pinned`, as a check. -/
def pinnedCheck (view : SegmentationCurrentView) (e : WorkEpisode) (token : ActivityToken)
    (receipts : List CaptureReceipt) : Bool :=
  decide ((receipts.map (·.executionLaneId)).Perm (expectedLaneIds e token))
    && receipts.all fun r => r.validate.isOk
      && ((view.lane r.executionLaneId).map (·.activeCaptureReceiptRevisionId) == some r.captureReceiptRevisionId)
      && view.receipt r.captureReceiptRevisionId == some r

theorem pinnedCheck_pinned {view : SegmentationCurrentView} {e : WorkEpisode} {token : ActivityToken}
    {receipts : List CaptureReceipt} (h : pinnedCheck view e token receipts = true) : Pinned view e token receipts := by
  simp only [pinnedCheck, Bool.and_eq_true, decide_eq_true_eq, List.all_eq_true, isOk_iff, beq_iff_eq] at h
  refine ⟨h.1, fun r hr => (h.2 r hr).1.1, fun r hr => ?_⟩
  obtain ⟨⟨-, hlane⟩, hreceipt⟩ := h.2 r hr
  obtain ⟨lane, hlookup, hactive⟩ := Option.map_eq_some_iff.mp hlane
  exact ⟨lane, hlookup, hactive, hreceipt⟩

/-- One step on the first lane, imported up to 3. -/
def firstLaneRun : List Observation := [sampleInput 4 "family" none .none [sampleReceipt 1 3]]

/-- A step on the second lane. -/
def secondLaneInput : Observation := sampleInput 5 "family" none .none [sampleReceipt 1 3, sampleReceipt 2 1]

/-- **Counterexample**: the second lane is imported up to 1 only, so the episode's capture watermark would fall from
3 to 1, and the step cannot be committed. -/
theorem second_lane_uncommittable : ¬ ∀ (episodeId : WorkEpisodeId) (s s' : IncrementalSegmenter) (p : Projection)
    (n : Nat) (e : WorkEpisode) (operationId : OperationId) (facts : SegmentationFacts) (fresh : FreshIds)
    (step : IncrementalSegmentationStep) (receipts : List CaptureReceipt), Run episodeId (fun _ _ => True) s p n →
    p.current.episode episodeId = some e → s.observe p.current operationId facts fresh = (.ok (.delta step), s') →
    Pinned p.current.authority e step.token receipts → fresh.episodeRevisionId ≠ e.revisionId →
    (commitStep e step none receipts).isOk = true := by
  intro h
  have hfails : ((sampleRun (fun _ _ => true) [sampleId 5] 3 firstLaneRun).bind fun result =>
      (emitted result.1 result.2 secondLaneInput).map fun out =>
        (pinnedCheck result.2.current.authority out.2.2 out.2.1.token secondLaneInput.receipts,
          secondLaneInput.fresh.episodeRevisionId != out.2.2.revisionId,
          (commitStep out.2.2 out.2.1 none secondLaneInput.receipts).isOk)) = some (true, true, false) := by
    decide +kernel
  obtain ⟨⟨s, p⟩, hrun, hrest⟩ := Option.bind_eq_some_iff.mp hfails
  obtain ⟨⟨s', step, e⟩, hemitted, hflags⟩ := Option.map_eq_some_iff.mp hrest
  obtain ⟨hpinned, hfresh, hcommit⟩ : _ ∧ _ ∧ _ := by simpa only [Prod.mk.injEq] using hflags
  obtain ⟨hobserve, hepisode⟩ := emitted_some hemitted
  have hok := h _ s s' p _ e _ _ _ step _ (sampleRun_run (fun _ _ _ => trivial) hrun) hepisode hobserve
    (pinnedCheck_pinned hpinned) (by simpa using hfresh)
  rw [hok] at hcommit
  cases hcommit

/-- The same two steps with the first lane imported up to 1: the second is within the limits. -/
theorem step_committable_sample : ∃ s s' p e step, Run (sampleId 1) (fun _ _ => True) s p 1 ∧
    s.observe p.current secondLaneInput.operationId secondLaneInput.facts secondLaneInput.fresh =
      (.ok (.delta step), s') ∧ Limits e step [sampleReceipt 1 1, sampleReceipt 2 1] := by
  have hruns : ((sampleRun (fun _ _ => true) [sampleId 5] 1
      [sampleInput 4 "family" none .none [sampleReceipt 1 1]]).bind fun result =>
      (emitted result.1 result.2 secondLaneInput).map fun out =>
        (pinnedCheck result.2.current.authority out.2.2 out.2.1.token [sampleReceipt 1 1, sampleReceipt 2 1],
          secondLaneInput.fresh.episodeRevisionId != out.2.2.revisionId, out.2.2.operationBurstRefs.isEmpty,
          (commitStep out.2.2 out.2.1 none [sampleReceipt 1 1, sampleReceipt 2 1]).isOk)) =
      some (true, true, false, true) := by decide +kernel
  obtain ⟨⟨s, p⟩, hresult, hrest⟩ := Option.bind_eq_some_iff.mp hruns
  obtain ⟨⟨s', step, e⟩, hemitted, hflags⟩ := Option.map_eq_some_iff.mp hrest
  obtain ⟨hpinned, hfresh, hrefs, hcommit⟩ : _ ∧ _ ∧ _ ∧ _ := by simpa only [Prod.mk.injEq] using hflags
  obtain ⟨hobserve, hepisode⟩ := emitted_some hemitted
  have hrun : Run (sampleId 1) (fun _ _ => True) s p 1 := sampleRun_run (fun _ _ _ => trivial) hresult
  refine ⟨s, s', p, e, step, hrun, hobserve, ?_⟩
  refine (step_committable_iff hrun hepisode hobserve (pinnedCheck_pinned hpinned) (by simpa using hfresh) ?_ none).mp
    hcommit
  intro hnil
  rw [hnil] at hrefs
  cases hrefs

end EverTrace.L2.Segmentation
