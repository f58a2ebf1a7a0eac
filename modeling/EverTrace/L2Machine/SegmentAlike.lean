import EverTrace.Lib.Bisim
import EverTrace.L2Machine.SegmentRestore
/-!
# Segmenters that answer alike

A segmenter is driven by calls: `observe` and `acknowledge_committed`. It reads
of its rolling entries only the features, so two segmenters that differ in
nothing but the rest of these entries answer every call alike. `Alike` is the
bisimulation; it also lets the two stand at different frontiers and, before the
first burst, at different watermarks, as long as every call lies above both.

Results:
* `alike_bisimulation`: alike segmenters answer alike and stay alike.
* `restored_alike`: a restored segmenter whose candidate is the live one is alike to the live one.
-/
namespace EverTrace.L2.Segmentation
open EverTrace.Lib EverTrace.L1 EverTrace.L2.Work
open SegmentationDetector IncrementalSegmenter

/-! ## Calls -/

/-- A call of the segmenter, with the store it is shown and the ids that are drawn. -/
inductive Call where
  | observe (current : SegmentationCurrentState) (operationId : OperationId) (facts : SegmentationFacts)
      (fresh : FreshIds)
  | acknowledge (current : SegmentationCurrentState) (step : IncrementalSegmentationStep)

inductive Answer where
  | observed (outcome : Except DetectorError SegmentOutcome)
  | acknowledged (outcome : Except DetectorError Unit)

/-- A failed acknowledgement leaves the segmenter as it was. -/
def answerCall (s : IncrementalSegmenter) : Call → Answer × IncrementalSegmenter
  | .observe current operationId facts fresh =>
    let (outcome, s') := s.observe current operationId facts fresh
    (.observed outcome, s')
  | .acknowledge current step =>
    match s.acknowledgeCommitted current step with
    | .ok s' => (.acknowledged (.ok ()), s')
    | .error e => (.acknowledged (.error e), s)

/-- The call shows the store at or after `frontier`; what is acknowledged was committed after it. -/
def Call.Later (frontier : Nat) : Call → Prop
  | .observe current _ _ _ => frontier ≤ current.frontier
  | .acknowledge current _ => frontier < current.frontier

/-- What the call observes lies above `watermark`. -/
def Call.Above (watermark : Nat) : Call → Prop
  | .observe _ _ facts _ => watermark < facts.sourceWatermark
  | .acknowledge _ _ => True

/-! ## Detectors -/

/-- The same detector up to the rolling entries' watermarks and evidence; the detectors' own watermarks are the
same or both at most `watermark`. -/
structure AlikeDetector (watermark : Nat) (d d' : SegmentationDetector) : Prop where
  frame : d' = { d with rolling := d'.rolling, sourceWatermark := d'.sourceWatermark }
  features : d'.rolling.map (·.feature) = d.rolling.map (·.feature)
  watermarks : d'.sourceWatermark = d.sourceWatermark ∨
    d'.sourceWatermark ≤ watermark ∧ d.sourceWatermark ≤ watermark

section Detector

variable {watermark : Nat} {d d' : SegmentationDetector}

theorem AlikeDetector.last (h : AlikeDetector watermark d d') :
    d'.rolling.getLast?.map (·.feature) = d.rolling.getLast?.map (·.feature) := by
  rw [← List.getLast?_map, h.features, List.getLast?_map]

/-- Surprise is a matter of the last feature and the scores. -/
theorem isStructuredSurprise_eq (d : SegmentationDetector) (feature : BurstFeature) :
    d.isStructuredSurprise feature = (d.rolling.getLast?.map (·.feature)).any fun previous =>
      !decide (d.surpriseScores.length < 4) &&
        decide (d.surpriseScores.sum / d.surpriseScores.length + 2 * integerSqrt
          ((d.surpriseScores.map fun value =>
            ((value : Int) - ((d.surpriseScores.sum / d.surpriseScores.length : Nat) : Int)).natAbs ^ 2).sum
              / d.surpriseScores.length)
          < previous.distance feature) := by
  unfold isStructuredSurprise
  cases d.rolling.getLast? with
  | none => rfl
  | some previous =>
    by_cases hshort : d.surpriseScores.length < 4
    · simp [hshort]
    · simp [hshort]

theorem AlikeDetector.settle_eq (h : AlikeDetector watermark d d') (token : ActivityToken) (burst : BurstFoldUpdate)
    (alignment : AlignmentOutcome) : d'.settle token burst alignment = d.settle token burst alignment := by
  have hlast := h.last
  have hsurprise : ∀ feature, d'.isStructuredSurprise feature = d.isStructuredSurprise feature := by
    intro feature
    rw [isStructuredSurprise_eq, isStructuredSurprise_eq, hlast, h.frame]
  have hstructured : d'.structuredSurprise token burst = d.structuredSurprise token burst := by
    unfold structuredSurprise
    rw [hsurprise, h.frame]
    rfl
  have hcreated : d'.created token burst = d.created token burst := by
    unfold SegmentationDetector.created
    rw [hstructured, hlast, h.frame]
    rfl
  have hframe := h.frame
  unfold settle
  rw [hstructured, hcreated, hframe]
  rfl

/-- So is what recording a burst does to the scores. -/
theorem recordFeature_scores (d : SegmentationDetector) (burst : OperationBurst) :
    (d.recordFeature burst).surpriseScores =
      (d.surpriseScores ++ ((d.rolling.getLast?.map (·.feature)).map (·.distance (.fromBurst burst))).toList).drop
        ((d.surpriseScores ++ ((d.rolling.getLast?.map (·.feature)).map (·.distance (.fromBurst burst))).toList).length
          + 1 - (d.recordFeature burst).rolling.length) := by
  unfold SegmentationDetector.recordFeature
  cases d.rolling.getLast? <;> simp

theorem AlikeDetector.recordFeature (h : AlikeDetector watermark d d') (burst : OperationBurst) :
    AlikeDetector watermark (d.recordFeature burst) (d'.recordFeature burst) := by
  have hlength : d'.rolling.length = d.rolling.length := by
    have := congrArg List.length h.features
    simpa using this
  have hrolling : (d'.recordFeature burst).rolling.map (·.feature) = (d.recordFeature burst).rolling.map (·.feature) := by
    simp only [SegmentationDetector.recordFeature, List.length_append, hlength]
    split <;> simp [h.features]
  have hscores : (d'.recordFeature burst).surpriseScores = (d.recordFeature burst).surpriseScores := by
    have hold : d'.surpriseScores = d.surpriseScores := by rw [h.frame]
    have hrollingLength := congrArg List.length hrolling
    simp only [List.length_map] at hrollingLength
    rw [recordFeature_scores, recordFeature_scores d, h.last, hold, hrollingLength]
  refine ⟨?_, hrolling, h.watermarks⟩
  have hframe : d'.recordFeature burst = { d' with
      rolling := (d'.recordFeature burst).rolling
      surpriseScores := (d'.recordFeature burst).surpriseScores } := rfl
  rw [hscores] at hframe
  rw [hframe]
  exact congrArg (fun x : SegmentationDetector => { x with
    rolling := (d'.recordFeature burst).rolling
    surpriseScores := (d.recordFeature burst).surpriseScores }) h.frame

/-- Alike detectors answer a token above both watermarks alike, and stay alike. -/
theorem AlikeDetector.push (h : AlikeDetector watermark d d') {token : ActivityToken} {burst : BurstFoldUpdate}
    (habove : watermark < token.sourceWatermark) :
    Matches (fun r r' => r.1 = r'.1 ∧ AlikeDetector watermark r.2 r'.2) (d.push token burst) (d'.push token burst) := by
  have hframe := h.frame
  have hregressed : token.sourceWatermark ≤ d.sourceWatermark ↔ token.sourceWatermark ≤ d'.sourceWatermark := by
    rcases h.watermarks with hsame | hboth
    · rw [hsame]
    · omega
  have hupdate : ∀ alignment retracted evidence,
      d.update token alignment retracted evidence = d'.update token alignment retracted evidence := by
    intro alignment retracted evidence
    rw [hframe]
    rfl
  have hadvance : ∀ candidate status confirmation, AlikeDetector watermark (d.advance token candidate status confirmation)
      { d.advance token candidate status confirmation with rolling := d'.rolling } :=
    fun _ _ _ => ⟨rfl, h.features, .inl rfl⟩
  have htask : d'.taskId = d.taskId := by rw [hframe]
  have hworkstream : d'.workstreamId = d.workstreamId := by rw [hframe]
  have hepisode : d'.episodeId = d.episodeId := by rw [hframe]
  have hcontract : d'.phaseContract = d.phaseContract := by rw [hframe]
  have hsequence : d'.lastSequence = d.lastSequence := by rw [hframe]
  have hattempt : d'.lastAttemptId = d.lastAttemptId := by rw [hframe]
  have hscores : d'.surpriseScores = d.surpriseScores := by rw [hframe]
  unfold SegmentationDetector.push
  simp only [htask, hworkstream, hepisode, hcontract, hsequence, hattempt, hscores, h.settle_eq token burst]
  refine Matches.guard Iff.rfl fun _ => ?_
  split
  · exact ⟨hupdate _ _ _, h⟩
  · refine Matches.guard Iff.rfl fun _ => ?_
    refine Matches.guard ?_ fun _ => ?_
    · simp only [Bool.or_eq_true, decide_eq_true_eq, hregressed]
    · refine ⟨?_, ?_⟩
      · rfl
      · dsimp only
        split
        · exact (hadvance _ _ _).recordFeature _
        · exact hadvance _ _ _

end Detector

/-! ## Segmenters -/

/-- The same transition up to alike detectors. -/
def AlikePending (watermark : Nat) : Option PendingTransition → Option PendingTransition → Prop
  | none, none => True
  | some x, some y => y.step = x.step ∧ y.nextFolder = x.nextFolder ∧
      AlikeDetector watermark x.nextDetector y.nextDetector
  | _, _ => False

/-- The same segmenter up to what no later call can tell apart: a closed segmenter reads neither folder nor
detector, and calls at or above `frontier` do not tell committed frontiers below it apart. -/
structure Alike (frontier watermark : Nat) (s t : IncrementalSegmenter) : Prop where
  episodeId : t.episodeId = s.episodeId
  revision : t.committedEpisodeRevisionId = s.committedEpisodeRevisionId
  closed : t.closed = s.closed
  frontiers : t.committedFrontier = s.committedFrontier ∨
    t.committedFrontier ≤ frontier ∧ s.committedFrontier ≤ frontier
  pending : AlikePending watermark s.pending t.pending
  live : s.closed = false → t.folder = s.folder ∧ AlikeDetector watermark s.detector t.detector

section Alike

variable {frontier watermark : Nat} {s t : IncrementalSegmenter}

theorem Alike.prepare (h : Alike frontier watermark s t) (hopen : s.closed = false) {token : ActivityToken}
    (fresh : FreshIds) (habove : watermark < token.sourceWatermark) :
    Matches (AlikePending watermark) (s.prepare token fresh) (t.prepare token fresh) := by
  obtain ⟨hfolder, hdetector⟩ := h.live hopen
  unfold IncrementalSegmenter.prepare
  rw [hfolder]
  refine Matches.bind_same _ fun ⟨burst, nextFolder⟩ _ => ?_
  dsimp only
  split
  · trivial
  · refine (hdetector.push habove).bind fun ⟨update, next⟩ ⟨update', next'⟩ ⟨hupdate, hnext⟩ => ?_
    dsimp only at hupdate
    subst hupdate
    exact ⟨rfl, rfl, hnext⟩

theorem Alike.observation (h : Alike frontier watermark s t) {current : SegmentationCurrentState}
    (operationId : OperationId) {facts : SegmentationFacts} (fresh : FreshIds) (hlater : frontier ≤ current.frontier)
    (habove : watermark = 0 ∨ watermark < facts.sourceWatermark) :
    Matches (fun r r' => r'.1 = r.1 ∧ AlikePending watermark r.2 r'.2) (s.observation current operationId facts fresh)
      (t.observation current operationId facts fresh) := by
  have hfrontier : current.frontier < s.committedFrontier ↔ current.frontier < t.committedFrontier := by
    rcases h.frontiers with hsame | hboth
    · rw [hsame]
    · omega
  have hpending := h.pending
  unfold IncrementalSegmenter.observation
  rw [h.closed, h.episodeId]
  refine Matches.guard ?_ fun hopen => ?_
  · simp only [Bool.or_eq_true, decide_eq_true_eq, hfrontier]
  simp only [Bool.or_eq_true, not_or, Bool.not_eq_true] at hopen
  refine Matches.bind_same _ fun episode hepisode => ?_
  refine Matches.guard ?_ fun _ => ?_
  · unfold episodeMoved
    rw [h.revision]
    cases hs : s.pending <;> cases ht : t.pending <;> rw [hs, ht] at hpending
    · exact False.elim hpending
    · exact False.elim hpending
    · dsimp only
      rw [hpending.1]
  refine Matches.bind_same _ fun token htoken => ?_
  have htokenAbove : watermark < token.sourceWatermark := by
    have hpositive := (compileChecked_ok (okOr_ok.mp hepisode) htoken).watermark
    have hsame := compileChecked_watermark htoken
    omega
  cases hs : s.pending <;> cases ht : t.pending <;> rw [hs, ht] at hpending
  · refine (h.prepare hopen.1 fresh htokenAbove).bind fun pending pending' hprepared => ?_
    cases pending <;> cases pending'
    · exact ⟨rfl, hprepared⟩
    · exact hprepared.elim
    · exact hprepared.elim
    · exact ⟨by rw [hprepared.1], hprepared⟩
  · exact hpending.elim
  · exact hpending.elim
  · next x y =>
    dsimp only
    rw [hpending.1]
    split
    · exact ⟨rfl, hpending⟩
    · rfl

theorem Alike.acknowledge (h : Alike frontier watermark s t) {current : SegmentationCurrentState}
    (step : IncrementalSegmentationStep) (hlater : frontier < current.frontier) :
    Matches (Alike frontier watermark) (s.acknowledgeCommitted current step) (t.acknowledgeCommitted current step) := by
  have hfrontier : current.frontier ≤ s.committedFrontier ↔ current.frontier ≤ t.committedFrontier := by
    rcases h.frontiers with hsame | hboth
    · rw [hsame]
    · omega
  have hpending := h.pending
  unfold acknowledgeCommitted
  cases hs : s.pending <;> cases ht : t.pending <;> rw [hs, ht] at hpending
  · rfl
  · exact hpending.elim
  · exact hpending.elim
  · next x y =>
    obtain ⟨hstep, hfolder, hdetector⟩ := hpending
    have hmatches : ∀ episode, t.episodeMatches step episode = s.episodeMatches step episode := by
      intro episode
      unfold episodeMatches
      rw [h.revision]
    simp only [okOr, bind, Except.bind]
    rw [h.episodeId, hstep, hfolder]
    simp only [hmatches]
    refine Matches.guard ?_ fun _ => ?_
    · simp only [Bool.or_eq_true, decide_eq_true_eq, hfrontier]
    refine Matches.bind_same _ fun episode _ => ?_
    refine Matches.bind_same _ fun currentBurst _ => ?_
    refine Matches.guard Iff.rfl fun _ => ?_
    exact ⟨rfl, rfl, rfl, .inl rfl, trivial, fun _ => ⟨rfl, hdetector⟩⟩

end Alike

/-- **Alike segmenters answer alike and stay alike.** -/
theorem alike_bisimulation (frontier watermark : Nat) :
    Bisimulation answerCall (fun call => call.Later frontier ∧ (watermark = 0 ∨ call.Above watermark))
      (Alike frontier watermark) := by
  intro s t call h hadmitted
  cases call with
  | observe current operationId facts fresh =>
    have hmatches := h.observation operationId fresh hadmitted.1 hadmitted.2
    simp only [answerCall, observe]
    cases hs : s.observation current operationId facts fresh <;>
      cases ht : t.observation current operationId facts fresh <;> rw [hs, ht] at hmatches
    · exact ⟨by rw [show _ = _ from hmatches], h⟩
    · exact hmatches.elim
    · exact hmatches.elim
    · obtain ⟨houtcome, hpending⟩ := hmatches
      refine ⟨?_, { h with pending := hpending }⟩
      dsimp only
      rw [houtcome]
  | acknowledge current step =>
    have hmatches := h.acknowledge step hadmitted.1
    simp only [answerCall]
    cases hs : s.acknowledgeCommitted current step <;>
      cases ht : t.acknowledgeCommitted current step <;> rw [hs, ht] at hmatches
    · exact ⟨by rw [show _ = _ from hmatches], h⟩
    · exact hmatches.elim
    · exact hmatches.elim
    · exact ⟨rfl, hmatches⟩

theorem restored_alike {s : IncrementalSegmenter} {p : SegmentationCurrentState} {e : WorkEpisode}
    {bursts : List OperationBurst} {watermark : Nat} (h : Inv s p e bursts)
    (hwatermark : bursts ≠ [] ∨ e.sourceWatermark ≤ watermark) :
    Alike p.frontier watermark s (restored s p e bursts s.detector.candidate) := by
  refine ⟨rfl, rfl, rfl, .inr ⟨le_rfl, h.frontier⟩, ?_, fun hopen => ⟨?_, ?_, ?_, ?_⟩⟩
  · show AlikePending watermark s.pending s.pending
    rw [h.idle]
    trivial
  · simp only [restored, hopen, Bool.false_eq_true, if_false]
  · simp only [restored, synced, replayed, empty, ← h.task, ← h.workstream, ← h.episodeId, ← h.contract,
      ← h.window.scored, h.status, h.confirmation]
    have hsequence := h.lastSequence
    have hattempt := h.lastAttempt
    simp only [replayed] at hsequence hattempt
    rw [← hsequence, ← hattempt]
  · show (replayed e bursts).rolling.map (·.feature) = s.detector.rolling.map (·.feature)
    rw [(replayed_window e bursts).shown, h.window.shown]
  · show max e.sourceWatermark (replayed e bursts).sourceWatermark = s.detector.sourceWatermark ∨
      max e.sourceWatermark (replayed e bursts).sourceWatermark ≤ watermark ∧ s.detector.sourceWatermark ≤ watermark
    rw [← h.watermark]
    by_cases hne : bursts = []
    · -- nothing was observed yet: the live detector still stands at 0
      have hzero : s.detector.sourceWatermark = 0 := by rw [h.watermark, hne]; rfl
      have hbound := hwatermark.resolve_left (not_not.mpr hne)
      omega
    · have hsynced := h.synced hne
      omega

end EverTrace.L2.Segmentation
