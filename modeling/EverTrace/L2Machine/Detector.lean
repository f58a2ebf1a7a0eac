import EverTrace.L2Machine.BurstFolder
/-!
# Boundary detection (`evertrace-engine/src/segmentation/detector.rs`)

The detector follows the bursts of an open episode and decides when its phase
has ended. It holds at most one boundary candidate: objective evidence or a
burst that differs from its predecessors far more than usual creates it, later
tokens refine, retract, upgrade or confirm it. `restore` rebuilds the detector
from the episode and its stored bursts.

Results:
* `settle_ok`: the six things a token can do to the candidate.
* `push_ok`: everything else a token changes.
* `Window`: the rolling features are those of the bursts so far, live and restored.
-/
namespace EverTrace.L2.Segmentation
open EverTrace.Lib EverTrace.L1 EverTrace.L2.Work

/-- mirrors evertrace-engine/src/segmentation/detector.rs:18-24 -/
inductive AlignmentOutcome where
  | continueCurrentPhase
  | newAttemptSameEpisode
  | candidatePhaseTransition
  | recoverableDeviation
  | workstreamSwitch
  deriving DecidableEq, Repr

/-- mirrors evertrace-engine/src/segmentation/detector.rs:27-30 -/
inductive GrayZoneDisposition where
  | pending
  | disabled
  deriving DecidableEq, Repr

/-- mirrors evertrace-engine/src/segmentation/detector.rs:33-47 -/
structure DetectorUpdate where
  episodeId : WorkEpisodeId
  tokenWatermark : Nat
  alignment : AlignmentOutcome
  boundaryStatus : BoundaryStatus
  candidatePhaseKind : Option PhaseKind
  candidateWatermark : Option Nat
  candidateEvidenceRefs : List SourceObservationId
  candidateKind : Option BoundaryCandidateKind
  refinementProgress : Nat
  confirmationWatermark : Nat
  confirmationEvidenceRefs : List SourceObservationId
  grayZone : GrayZoneDisposition
  candidateRetracted : Bool
  deriving DecidableEq

/-- mirrors evertrace-engine/src/segmentation/detector.rs:102-110 -/
structure BurstFeature where
  operationKind : OperationKind
  targetFamily : String
  targetRefs : List String
  errorSignature : Option String
  verifier : OperationVerifierDelta
  stateDelta : OperationStateDelta
  phaseCandidate : Option PhaseKind
  deriving DecidableEq

namespace BurstFeature

/-- mirrors evertrace-engine/src/segmentation/detector.rs:113-123 -/
def fromBurst (burst : OperationBurst) : BurstFeature where
  operationKind := burst.operationKind
  targetFamily := burst.targetFamily
  targetRefs := burst.targetRefs
  errorSignature := burst.errorSignature
  verifier := burst.verifierDelta
  stateDelta := burst.stateDelta
  phaseCandidate := burst.phaseCandidate

/-- `u32::from(self.x != other.x) * weight` -/
def weigh (differs : Bool) (weight : Nat) : Nat := if differs then weight else 0

/-- mirrors evertrace-engine/src/segmentation/detector.rs:125-133 -/
def distance (f g : BurstFeature) : Nat :=
  weigh (f.operationKind != g.operationKind) 3
    + weigh (f.targetRefs != g.targetRefs) 3
    + weigh (f.targetFamily != g.targetFamily) 3
    + weigh (f.errorSignature != g.errorSignature) 3
    + weigh (f.verifier != g.verifier) 4
    + weigh (f.stateDelta != g.stateDelta) 3
    + weigh (f.phaseCandidate != g.phaseCandidate) 4

theorem distance_self (f : BurstFeature) : f.distance f = 0 := by
  simp [distance, weigh]

end BurstFeature

/-- mirrors evertrace-engine/src/segmentation/detector.rs:137-141 -/
structure RecentFeature where
  sourceWatermark : Nat
  feature : BurstFeature
  evidenceRefs : List SourceObservationId

/-- The entry recorded for a burst: `sort` and `dedup` of its members' observations.
mirrors evertrace-engine/src/segmentation/detector.rs:447-457 -/
def RecentFeature.fromBurst (burst : OperationBurst) : RecentFeature where
  sourceWatermark := burst.sourceWatermark
  feature := .fromBurst burst
  evidenceRefs := sortUnique (burst.members.flatMap (·.sourceObservationRefs))

/-- mirrors evertrace-engine/src/segmentation/detector.rs:144-153 -/
structure Candidate where
  originalPhase : PhaseKind
  proposedPhase : Option PhaseKind
  sourceWatermark : Nat
  evidenceRefs : List SourceObservationId
  kind : BoundaryCandidateKind
  observations : Nat
  feature : BurstFeature
  leftFeature : Option BurstFeature

/-- mirrors evertrace-engine/src/segmentation/detector.rs:156-169 -/
structure SegmentationDetector where
  taskId : TaskId
  workstreamId : WorkstreamId
  episodeId : WorkEpisodeId
  phaseContract : PhaseContract
  rolling : List RecentFeature
  surpriseScores : List Nat
  lastSequence : Nat
  sourceWatermark : Nat
  lastAttemptId : Option AttemptId
  candidate : Option Candidate
  boundaryStatus : BoundaryStatus
  confirmationWatermark : Nat

/-- The binary search of `integer_sqrt`; `fuel` is the width of the interval left. -/
def integerSqrtLoop (value : Nat) : Nat → Nat → Nat → Nat
  | 0, _, high => high
  | fuel + 1, low, high =>
    if low ≤ high then
      let mid := low + (high - low) / 2
      if mid * mid = value then mid
      else if mid * mid < value then integerSqrtLoop value fuel (mid + 1) high
      else integerSqrtLoop value fuel low (mid - 1)
    else high

/-- mirrors evertrace-engine/src/segmentation/detector.rs:506-521 -/
def integerSqrt (value : Nat) : Nat :=
  if value < 2 then value
  else
    let high := min value (2 ^ 32 - 1)
    integerSqrtLoop value (high + 1) 1 high

/-- mirrors evertrace-engine/src/segmentation/detector.rs:523-547 -/
def align (current : PhaseKind) (observed : Option PhaseKind) (verifier : OperationVerifierDelta)
    (attemptChanged : Bool) : AlignmentOutcome :=
  if attemptChanged && observed.all (· == current) then .newAttemptSameEpisode
  else if verifier == .failed && (observed == some .diagnose || observed == some .implement) then
    .recoverableDeviation
  else if observed == some .recover || (current == .execute && observed == some .analyze) then
    .recoverableDeviation
  else if observed.any (· != current) then .candidatePhaseTransition
  else .continueCurrentPhase

namespace SegmentationDetector

/-- mirrors evertrace-engine/src/segmentation/detector.rs:258-273 -/
def empty (episode : WorkEpisode) : SegmentationDetector where
  taskId := episode.taskId
  workstreamId := episode.workstreamId
  episodeId := episode.episodeId
  phaseContract := episode.phaseContract
  rolling := []
  surpriseScores := []
  lastSequence := 0
  sourceWatermark := 0
  lastAttemptId := none
  candidate := none
  boundaryStatus := .provisional
  confirmationWatermark := 0

/-- mirrors evertrace-engine/src/segmentation/detector.rs:172-181 -/
def new (episode : WorkEpisode) : Except DetectorError SegmentationDetector := do
  orIneligible episode.validate
  if !episode.operationBurstRefs.isEmpty || episode.boundaryCandidate.isSome
      || episode.boundaryStatus != .provisional then .error .ineligible
  else return empty episode

/-- mirrors evertrace-engine/src/segmentation/detector.rs:438-466 -/
def recordFeature (d : SegmentationDetector) (burst : OperationBurst) : SegmentationDetector :=
  let scores := match d.rolling.getLast? with
    | some previous => d.surpriseScores ++ [previous.feature.distance (.fromBurst burst)]
    | none => d.surpriseScores
  let pushed := d.rolling ++ [.fromBurst burst]
  let rolling := if 64 < pushed.length then pushed.drop 1 else pushed
  -- `while scores.len() >= rolling.len() { pop_front }`
  { d with rolling, surpriseScores := scores.drop (scores.length + 1 - rolling.length) }

/-- mirrors evertrace-engine/src/segmentation/detector.rs:208-217 -/
def restoreBurst (d : SegmentationDetector) (burst : OperationBurst) : Except DetectorError SegmentationDetector := do
  let last ← okOr .ineligible burst.members.getLast?
  return { d.recordFeature burst with
    lastSequence := last.sequence
    sourceWatermark := burst.sourceWatermark
    lastAttemptId := burst.attemptId }

/-- The stored candidate, rebuilt at a position of the rolling features.
mirrors evertrace-engine/src/segmentation/detector.rs:230-252 -/
def candidateAt (d : SegmentationDetector) (episode : WorkEpisode) (value : BoundaryCandidateState) (index : Nat) :
    Except DetectorError Candidate := do
  let item ← okOr .ineligible d.rolling[index]?
  if episode.sourceWatermark < value.candidateWatermark
      || episode.confirmationWatermark != 0
      || value.evidenceRefs.any (fun id => !item.evidenceRefs.contains id) then .error .ineligible
  else return {
    originalPhase := episode.phaseContract.phaseKind
    proposedPhase := value.candidatePhaseKind
    sourceWatermark := value.candidateWatermark
    evidenceRefs := value.evidenceRefs
    kind := value.kind
    observations := value.refinementProgress
    feature := item.feature
    leftFeature := if index = 0 then none else d.rolling[index - 1]?.map (·.feature) }

/-- mirrors evertrace-engine/src/segmentation/detector.rs:221-254 -/
def restoreCandidate (d : SegmentationDetector) (episode : WorkEpisode) (value : BoundaryCandidateState) :
    Except DetectorError Candidate := do
  let index ← okOr .ineligible
    (d.rolling.findIdx? fun item => item.sourceWatermark == value.candidateWatermark)
  d.candidateAt episode value index

/-- mirrors evertrace-engine/src/segmentation/detector.rs:183-256 -/
def restore (episode : WorkEpisode) (recentBursts : List OperationBurst) :
    Except DetectorError SegmentationDetector := do
  orIneligible episode.validate
  if 64 < recentBursts.length
      || !decide (recentBursts.map (·.operationBurstId)).Nodup
      || recentBursts.any (fun burst => !burst.validate.isOk
        || !episode.operationBurstRefs.contains burst.operationBurstId)
      || !decide (recentBursts.IsChain fun a b => a.sourceWatermark < b.sourceWatermark) then
    .error .ineligible
  else
    let replayed ← recentBursts.foldlM restoreBurst (empty episode)
    let d := { replayed with
      sourceWatermark := max episode.sourceWatermark replayed.sourceWatermark
      boundaryStatus := episode.boundaryStatus
      confirmationWatermark := episode.confirmationWatermark }
    match episode.boundaryCandidate with
    | some value => return { d with candidate := some (← d.restoreCandidate episode value) }
    | none => return { d with candidate := none }

/-- mirrors evertrace-engine/src/segmentation/detector.rs:406-436 -/
def isStructuredSurprise (d : SegmentationDetector) (feature : BurstFeature) : Bool :=
  match d.rolling.getLast? with
  | none => false
  | some previous =>
    if d.surpriseScores.length < 4 then false
    else
      let score := previous.feature.distance feature
      let count := d.surpriseScores.length
      let mean := d.surpriseScores.sum / count
      let variance := (d.surpriseScores.map fun value => ((value : Int) - mean).natAbs ^ 2).sum / count
      mean + 2 * integerSqrt variance < score

/-- mirrors evertrace-engine/src/segmentation/detector.rs:468-503 -/
def update (d : SegmentationDetector) (token : ActivityToken) (alignment : AlignmentOutcome)
    (candidateRetracted : Bool) (confirmationEvidenceRefs : List SourceObservationId) : DetectorUpdate where
  episodeId := d.episodeId
  tokenWatermark := token.sourceWatermark
  alignment
  boundaryStatus := d.boundaryStatus
  candidatePhaseKind := d.candidate.bind (·.proposedPhase)
  candidateWatermark := d.candidate.map (·.sourceWatermark)
  candidateEvidenceRefs := (d.candidate.map (·.evidenceRefs)).getD []
  candidateKind := d.candidate.map (·.kind)
  refinementProgress := (d.candidate.map (·.observations)).getD 0
  confirmationWatermark := d.confirmationWatermark
  confirmationEvidenceRefs
  grayZone := if d.candidate.isSome then .pending else .disabled
  candidateRetracted

/-- What a token has done to the candidate so far. -/
structure Settled where
  candidate : Option Candidate
  boundaryStatus : BoundaryStatus
  confirmationWatermark : Nat
  alignment : AlignmentOutcome
  retracted : Bool
  confirmationEvidence : List SourceObservationId

/-- The burst is closer to what came before the candidate than to the candidate. -/
def returnedLeft (candidate : Candidate) (feature : BurstFeature) : Bool :=
  candidate.leftFeature.any fun left => left.distance feature < candidate.feature.distance feature

/-- One more observation, up to the refinement window of 8. -/
def observed (candidate : Candidate) : Candidate :=
  if candidate.observations < 8 then { candidate with observations := candidate.observations + 1 } else candidate

/-- What the token does to a candidate that is held.
mirrors evertrace-engine/src/segmentation/detector.rs:314-349 -/
def refine (d : SegmentationDetector) (token : ActivityToken) (feature : BurstFeature)
    (alignment : AlignmentOutcome) (held : Candidate) : Settled :=
  let candidate := observed held
  if token.observedPhaseKind == some candidate.originalPhase || returnedLeft candidate feature then
    { candidate := none, boundaryStatus := .provisional, confirmationWatermark := d.confirmationWatermark
      alignment, retracted := true, confirmationEvidence := [] }
  else if candidate.kind == .structuredSurprise && token.boundaryEvidence.objective then
    { candidate := some { candidate with
        kind := .objective
        proposedPhase := token.observedPhaseKind
        sourceWatermark := token.sourceWatermark
        evidenceRefs := token.boundaryEvidenceRefs
        observations := 0
        feature }
      boundaryStatus := d.boundaryStatus, confirmationWatermark := d.confirmationWatermark
      alignment := .candidatePhaseTransition, retracted := false, confirmationEvidence := [] }
  else if candidate.kind == .objective && candidate.sourceWatermark < token.sourceWatermark
      && token.observedPhaseKind == candidate.proposedPhase && token.boundaryEvidence.objective then
    { candidate := none, boundaryStatus := .confirmed, confirmationWatermark := token.sourceWatermark
      alignment, retracted := false, confirmationEvidence := token.boundaryEvidenceRefs }
  else
    { candidate := some candidate, boundaryStatus := d.boundaryStatus
      confirmationWatermark := d.confirmationWatermark, alignment, retracted := false, confirmationEvidence := [] }

/-- The token names another phase than the episode's. -/
def phaseChange (d : SegmentationDetector) (token : ActivityToken) : Bool :=
  token.observedPhaseKind.any (· != d.phaseContract.phaseKind)

/-- mirrors evertrace-engine/src/segmentation/detector.rs:351-354 -/
def structuredSurprise (d : SegmentationDetector) (token : ActivityToken) (burst : BurstFoldUpdate) : Bool :=
  burst.startedNew && token.boundaryEvidence == .none && !d.phaseChange token
    && d.isStructuredSurprise (.fromBurst burst.current)

/-- The candidate that a token creates.
mirrors evertrace-engine/src/segmentation/detector.rs:362-386 -/
def created (d : SegmentationDetector) (token : ActivityToken) (burst : BurstFoldUpdate) : Candidate where
  originalPhase := d.phaseContract.phaseKind
  proposedPhase := token.observedPhaseKind
  sourceWatermark := token.sourceWatermark
  evidenceRefs :=
    if d.structuredSurprise token burst then
      sortUnique (burst.current.members.flatMap (·.sourceObservationRefs))
    else token.boundaryEvidenceRefs
  kind := if token.boundaryEvidence.objective || d.phaseChange token then .objective else .structuredSurprise
  observations := 0
  feature := .fromBurst burst.current
  leftFeature := d.rolling.getLast?.map (·.feature)

/-- The whole effect of a token on the candidate.
mirrors evertrace-engine/src/segmentation/detector.rs:311-391 -/
def settle (d : SegmentationDetector) (token : ActivityToken) (burst : BurstFoldUpdate)
    (alignment : AlignmentOutcome) : Settled :=
  let refined := match d.candidate with
    | some held => d.refine token (.fromBurst burst.current) alignment held
    | none => {
        candidate := none, boundaryStatus := d.boundaryStatus, confirmationWatermark := d.confirmationWatermark
        alignment, retracted := false, confirmationEvidence := [] }
  if refined.candidate.isNone && refined.boundaryStatus != .confirmed && !refined.retracted
      && (token.boundaryEvidence != .none || d.phaseChange token || d.structuredSurprise token burst) then
    { refined with
      candidate := some (d.created token burst)
      boundaryStatus := .candidate
      alignment := if refined.alignment != .recoverableDeviation then .candidatePhaseTransition
        else refined.alignment }
  else refined

/-- mirrors evertrace-engine/src/segmentation/detector.rs:275-400 -/
def push (d : SegmentationDetector) (token : ActivityToken) (burst : BurstFoldUpdate) :
    Except DetectorError (DetectorUpdate × SegmentationDetector) :=
  if burst.current.sourceWatermark != token.sourceWatermark
      || burst.current.members.all (fun member => member.operationId != token.operationId) then
    .error .ineligible
  else if token.workstreamId != d.workstreamId then
    .ok (d.update token .workstreamSwitch false [], d)
  else if token.taskId != d.taskId || token.episodeId != d.episodeId then .error .ineligible
  else if token.sequence ≤ d.lastSequence || token.sourceWatermark ≤ d.sourceWatermark then
    .error .watermarkRegression
  else
    let attemptChanged := d.lastAttemptId.isSome && token.attemptId.isSome && d.lastAttemptId != token.attemptId
    let settled := d.settle token burst
      (align d.phaseContract.phaseKind token.observedPhaseKind token.verifierTransition attemptChanged)
    let next := { d with
      candidate := settled.candidate
      boundaryStatus := settled.boundaryStatus
      confirmationWatermark := settled.confirmationWatermark
      lastSequence := token.sequence
      sourceWatermark := token.sourceWatermark
      lastAttemptId := token.attemptId }
    .ok (next.update token settled.alignment settled.retracted settled.confirmationEvidence,
      if burst.startedNew then next.recordFeature burst.current else next)

/-! ## What a token does to the candidate -/

@[simp] theorem observed_originalPhase (c : Candidate) : (observed c).originalPhase = c.originalPhase := by
  unfold observed; split <;> rfl
@[simp] theorem observed_proposedPhase (c : Candidate) : (observed c).proposedPhase = c.proposedPhase := by
  unfold observed; split <;> rfl
@[simp] theorem observed_sourceWatermark (c : Candidate) : (observed c).sourceWatermark = c.sourceWatermark := by
  unfold observed; split <;> rfl
@[simp] theorem observed_evidenceRefs (c : Candidate) : (observed c).evidenceRefs = c.evidenceRefs := by
  unfold observed; split <;> rfl
@[simp] theorem observed_kind (c : Candidate) : (observed c).kind = c.kind := by
  unfold observed; split <;> rfl
@[simp] theorem observed_feature (c : Candidate) : (observed c).feature = c.feature := by
  unfold observed; split <;> rfl
@[simp] theorem observed_leftFeature (c : Candidate) : (observed c).leftFeature = c.leftFeature := by
  unfold observed; split <;> rfl

/-- The window of refinement is never exceeded. -/
theorem observed_observations_le {c : Candidate} (h : c.observations ≤ 8) : (observed c).observations ≤ 8 := by
  unfold observed
  split
  · next hlt => exact hlt
  · exact h

/-- What the candidate becomes when objective evidence upgrades it. -/
def upgraded (token : ActivityToken) (burst : BurstFoldUpdate) (held : Candidate) : Candidate where
  originalPhase := held.originalPhase
  proposedPhase := token.observedPhaseKind
  sourceWatermark := token.sourceWatermark
  evidenceRefs := token.boundaryEvidenceRefs
  kind := .objective
  observations := 0
  feature := .fromBurst burst.current
  leftFeature := held.leftFeature

/-- The token alone is reason enough for a candidate. -/
def Triggers (d : SegmentationDetector) (token : ActivityToken) (burst : BurstFoldUpdate) : Prop :=
  token.boundaryEvidence ≠ .none ∨ d.phaseChange token = true ∨ d.structuredSurprise token burst = true

/-- The token neither names the original phase nor returns to what was left of the candidate. -/
def Upholds (token : ActivityToken) (burst : BurstFoldUpdate) (held : Candidate) : Prop :=
  token.observedPhaseKind ≠ some held.originalPhase ∧ returnedLeft held (.fromBurst burst.current) = false

/-- The six effects a token can have on the candidate: candidate, status, confirmation watermark
and confirmation evidence afterwards. -/
inductive Settles (d : SegmentationDetector) (token : ActivityToken) (burst : BurstFoldUpdate) :
    Option Candidate → BoundaryStatus → Nat → List SourceObservationId → Prop
  | idle (hnone : d.candidate = none) (hquiet : d.boundaryStatus ≠ .confirmed → ¬ d.Triggers token burst) :
    Settles d token burst none d.boundaryStatus d.confirmationWatermark []
  | created (hnone : d.candidate = none) (hstatus : d.boundaryStatus ≠ .confirmed) (htrigger : d.Triggers token burst) :
    Settles d token burst (some (d.created token burst)) .candidate d.confirmationWatermark []
  | retracted (held : Candidate) (hheld : d.candidate = some held) (hreturns : ¬ Upholds token burst held) :
    Settles d token burst none .provisional d.confirmationWatermark []
  | upgraded (held : Candidate) (hheld : d.candidate = some held) (hupholds : Upholds token burst held)
      (hkind : held.kind = .structuredSurprise) (hevidence : token.boundaryEvidence ≠ .none) :
    Settles d token burst (some (upgraded token burst held)) d.boundaryStatus d.confirmationWatermark []
  | confirmed (held : Candidate) (hheld : d.candidate = some held) (hupholds : Upholds token burst held)
      (hkind : held.kind = .objective) (hevidence : token.boundaryEvidence ≠ .none)
      (hphase : token.observedPhaseKind = held.proposedPhase) :
    Settles d token burst none .confirmed token.sourceWatermark token.boundaryEvidenceRefs
  | kept (held : Candidate) (hheld : d.candidate = some held) (hupholds : Upholds token burst held)
      (hkind : held.kind = .structuredSurprise → token.boundaryEvidence = .none) :
    Settles d token burst (some (observed held)) d.boundaryStatus d.confirmationWatermark []

theorem settle_ok (d : SegmentationDetector) (token : ActivityToken) (burst : BurstFoldUpdate)
    (alignment : AlignmentOutcome) :
    Settles d token burst (d.settle token burst alignment).candidate (d.settle token burst alignment).boundaryStatus
      (d.settle token burst alignment).confirmationWatermark
      (d.settle token burst alignment).confirmationEvidence := by
  unfold settle
  cases hheld : d.candidate with
  | none =>
    simp only [Option.isNone_none, Bool.not_false, Bool.true_and]
    split
    · next htrigger =>
      simp only [Bool.and_eq_true, bne_iff_ne, ne_eq, Bool.or_eq_true, and_true] at htrigger
      exact .created hheld htrigger.1 (or_assoc.mp htrigger.2)
    · next hquiet =>
      simp only [Bool.and_eq_true, bne_iff_ne, ne_eq, Bool.or_eq_true, and_true] at hquiet
      exact .idle hheld fun hstatus htrigger => hquiet ⟨hstatus, or_assoc.mpr htrigger⟩
  | some held =>
    have hupholds : ¬ (token.observedPhaseKind = some held.originalPhase ∨
        returnedLeft held (.fromBurst burst.current) = true) → Upholds token burst held := by
      intro h
      exact ⟨fun hphase => h (.inl hphase), by simpa using fun hleft => h (.inr hleft)⟩
    have hleft : returnedLeft (observed held) (.fromBurst burst.current) =
        returnedLeft held (.fromBurst burst.current) := by simp [returnedLeft]
    simp only [refine, observed_originalPhase, observed_kind, observed_sourceWatermark, observed_proposedPhase, hleft,
      Bool.or_eq_true, Bool.and_eq_true, beq_iff_eq, decide_eq_true_eq, BoundaryEvidence.objective, bne_iff_ne]
    split
    · next hreturns =>
      refine .retracted held hheld fun hup => ?_
      rcases hreturns with hphase | hret
      · exact hup.1 hphase
      · rw [hup.2] at hret; cases hret
    next hup =>
    have hup := hupholds hup
    split
    · next hupgrade =>
      simpa [SegmentationDetector.upgraded] using Settles.upgraded held hheld hup hupgrade.1 hupgrade.2
    next hnoupgrade =>
    split
    · next hconfirm =>
      obtain ⟨⟨⟨hkind, -⟩, hphase⟩, hevidence⟩ := hconfirm
      exact .confirmed held hheld hup hkind hevidence hphase
    · refine .kept held hheld hup fun hkind => ?_
      by_contra hevidence
      exact hnoupgrade ⟨hkind, hevidence⟩

/-- Only objective evidence confirms a boundary, and then no candidate is left. -/
theorem Settles.of_confirmed {d : SegmentationDetector} {token : ActivityToken} {burst : BurstFoldUpdate}
    {candidate : Option Candidate} {status : BoundaryStatus} {confirmation : Nat} {evidence : List SourceObservationId}
    (h : Settles d token burst candidate status confirmation evidence) (hbefore : d.boundaryStatus ≠ .confirmed)
    (hstatus : status = .confirmed) : candidate = none ∧ token.boundaryEvidence ≠ .none ∧
      confirmation = token.sourceWatermark ∧ evidence = token.boundaryEvidenceRefs ∧ d.candidate.isSome = true := by
  cases h with
  | idle | upgraded | kept => exact absurd hstatus hbefore
  | created | retracted => cases hstatus
  | confirmed held hheld _ _ hevidence => exact ⟨rfl, hevidence, rfl, rfl, by simp [hheld]⟩

theorem Settles.of_unconfirmed {d : SegmentationDetector} {token : ActivityToken} {burst : BurstFoldUpdate}
    {candidate : Option Candidate} {status : BoundaryStatus} {confirmation : Nat} {evidence : List SourceObservationId}
    (h : Settles d token burst candidate status confirmation evidence) (hstatus : status ≠ .confirmed) :
    confirmation = d.confirmationWatermark := by
  cases h with
  | confirmed => exact absurd rfl hstatus
  | _ => rfl

/-- The detector after a token, before its burst is recorded. -/
def advance (d : SegmentationDetector) (token : ActivityToken) (candidate : Option Candidate)
    (status : BoundaryStatus) (confirmation : Nat) : SegmentationDetector :=
  { d with
    candidate
    boundaryStatus := status
    confirmationWatermark := confirmation
    lastSequence := token.sequence
    sourceWatermark := token.sourceWatermark
    lastAttemptId := token.attemptId }

/-- An accepted token of the episode's own workstream. -/
structure Detected (d : SegmentationDetector) (token : ActivityToken) (burst : BurstFoldUpdate)
    (u : DetectorUpdate) (d' : SegmentationDetector) : Prop where
  sequence : d.lastSequence < token.sequence
  later : d.sourceWatermark < token.sourceWatermark
  effect : ∃ candidate status confirmation alignment retracted evidence,
    Settles d token burst candidate status confirmation evidence ∧
    u = (d.advance token candidate status confirmation).update token alignment retracted evidence ∧
    d' = if burst.startedNew then (d.advance token candidate status confirmation).recordFeature burst.current
      else d.advance token candidate status confirmation

theorem push_ok {d d' : SegmentationDetector} {token : ActivityToken} {burst : BurstFoldUpdate} {u : DetectorUpdate}
    (hstream : token.workstreamId = d.workstreamId) (h : d.push token burst = .ok (u, d')) :
    Detected d token burst u d' := by
  unfold push at h
  obtain ⟨-, h⟩ := ite_error_else.mp h
  rw [if_neg (by simp [hstream])] at h
  obtain ⟨-, h⟩ := ite_error_else.mp h
  obtain ⟨hlater, h⟩ := ite_error_else.mp h
  simp only [Bool.or_eq_true, decide_eq_true_eq, not_or, Nat.not_le] at hlater
  obtain ⟨rfl, rfl⟩ := Prod.mk.inj (Except.ok.inj h)
  exact ⟨hlater.1, hlater.2, _, _, _, _, _, _, settle_ok d token burst _, rfl, rfl⟩

/-- A token of the workstream is accepted only for the detector's own episode. -/
theorem push_sameEpisode {d d' : SegmentationDetector} {token : ActivityToken} {burst : BurstFoldUpdate}
    {u : DetectorUpdate} (hstream : token.workstreamId = d.workstreamId) (h : d.push token burst = .ok (u, d')) :
    token.episodeId = d.episodeId := by
  unfold push at h
  obtain ⟨-, h⟩ := ite_error_else.mp h
  rw [if_neg (by simp [hstream])] at h
  obtain ⟨hsame, -⟩ := ite_error_else.mp h
  simp only [Bool.or_eq_true, bne_iff_ne, ne_eq, not_or, not_not] at hsame
  exact hsame.2

/-! ## Rolling features -/

def distances (features : List BurstFeature) : List Nat := List.zipWith BurstFeature.distance features features.tail

/-- The rolling window shows exactly these features. -/
structure Window (d : SegmentationDetector) (features : List BurstFeature) : Prop where
  shown : d.rolling.map (·.feature) = features
  scored : d.surpriseScores = distances features

theorem length_distances (features : List BurstFeature) : (distances features).length = features.length - 1 := by
  simp [distances]

theorem distances_append_two (features : List BurstFeature) (f g : BurstFeature) :
    distances (features ++ [f] ++ [g]) = distances (features ++ [f]) ++ [f.distance g] := by
  induction features with
  | nil => rfl
  | cons a rest ih =>
    cases rest with
    | nil => rfl
    | cons b rest =>
      simp only [distances, List.cons_append, List.tail_cons, List.zipWith_cons_cons] at ih ⊢
      rw [ih]

/-- While there are fewer than 64 bursts, recording one only appends it. -/
theorem recordFeature_eq {d : SegmentationDetector} {features : List BurstFeature} (h : Window d features)
    (hlength : features.length < 64) (burst : OperationBurst) :
    d.recordFeature burst = { d with
      rolling := d.rolling ++ [.fromBurst burst]
      surpriseScores := distances (features ++ [.fromBurst burst]) } := by
  have hrolling : d.rolling.length = features.length := by rw [← h.shown, List.length_map]
  have hroom : ¬ 64 < (d.rolling ++ [RecentFeature.fromBurst burst]).length := by
    rw [List.length_append, List.length_singleton]
    omega
  simp only [recordFeature, if_neg hroom]
  rcases List.eq_nil_or_concat d.rolling with hnil | ⟨init, last, hlast⟩
  · have hfeatures : features = [] := by rw [← h.shown, hnil]; rfl
    have hscores : d.surpriseScores = [] := by rw [h.scored, hfeatures]; rfl
    simp only [hnil, hscores, hfeatures]
    rfl
  · rw [List.concat_eq_append] at hlast
    have hfeatures : features = init.map (·.feature) ++ [last.feature] := by
      rw [← h.shown, hlast, List.map_append, List.map_singleton]
    have hscores : d.surpriseScores ++ [last.feature.distance (.fromBurst burst)] =
        distances (features ++ [.fromBurst burst]) := by
      rw [h.scored, hfeatures, distances_append_two]
    have hlen := length_distances (features ++ [.fromBurst burst])
    rw [List.length_append, List.length_singleton] at hlen
    simp only [hlast, List.getLast?_append, List.getLast?_singleton, Option.some_or]
    rw [hscores, hlen, ← hlast, List.length_append, List.length_singleton, hrolling]
    have hzero : features.length + 1 - 1 + 1 - (features.length + 1) = 0 := by omega
    rw [hzero, List.drop_zero]

theorem recordFeature_window {d : SegmentationDetector} {features : List BurstFeature} (h : Window d features)
    (hlength : features.length < 64) (burst : OperationBurst) :
    Window (d.recordFeature burst) (features ++ [.fromBurst burst]) := by
  rw [recordFeature_eq h hlength]
  exact ⟨by simp [h.shown, RecentFeature.fromBurst], rfl⟩

/-! ## What `restore` rebuilds -/

/-- The detector that has seen these bursts and no more. -/
def replayed (episode : WorkEpisode) (bursts : List OperationBurst) : SegmentationDetector :=
  { empty episode with
    rolling := bursts.map .fromBurst
    surpriseScores := distances (bursts.map .fromBurst)
    lastSequence := (bursts.getLast?.bind (·.members.getLast?)).elim 0 (·.sequence)
    sourceWatermark := bursts.getLast?.elim 0 (·.sourceWatermark)
    lastAttemptId := bursts.getLast?.bind (·.attemptId) }

theorem replayed_window (episode : WorkEpisode) (bursts : List OperationBurst) :
    Window (replayed episode bursts) (bursts.map .fromBurst) := by
  refine ⟨?_, rfl⟩
  rw [replayed, List.map_map]
  rfl

theorem foldlM_restoreBurst (episode : WorkEpisode) {bursts : List OperationBurst}
    (hvalid : ∀ b ∈ bursts, b.Valid) (hlength : bursts.length ≤ 64) :
    bursts.foldlM restoreBurst (empty episode) = .ok (replayed episode bursts) := by
  induction bursts using List.reverseRecOn with
  | nil => rfl
  | append_singleton init b ih =>
    rw [List.length_append, List.length_singleton] at hlength
    have hinit := ih (fun x hx => hvalid x (List.mem_append_left _ hx)) (by omega)
    obtain ⟨last, hlast, -⟩ := (hvalid b (List.mem_append_right _ List.mem_cons_self)).exists_last
    have hwindow := replayed_window episode init
    rw [List.foldlM_append, hinit]
    show (replayed episode init).restoreBurst b >>= pure = _
    simp only [restoreBurst, hlast, okOr, bind_pure]
    rw [recordFeature_eq hwindow (by rw [List.length_map]; omega)]
    simp only [replayed, List.map_append, List.map_singleton, List.getLast?_append, List.getLast?_singleton,
      Option.some_or, Option.bind_some, hlast, Option.elim_some]
    rfl

/-- The candidate that `restoreCandidate` rebuilds from the burst after `before`. -/
def rebuilt (episode : WorkEpisode) (value : BoundaryCandidateState) (before : List OperationBurst)
    (burst : OperationBurst) : Candidate where
  originalPhase := episode.phaseContract.phaseKind
  proposedPhase := value.candidatePhaseKind
  sourceWatermark := value.candidateWatermark
  evidenceRefs := value.evidenceRefs
  kind := value.kind
  observations := value.refinementProgress
  feature := .fromBurst burst
  leftFeature := before.getLast?.map .fromBurst

/-- Where the position search lands. -/
theorem findIdx_watermark {bursts : List OperationBurst} {watermark i : Nat}
    (hordered : bursts.Pairwise fun a b => a.sourceWatermark < b.sourceWatermark) :
    ((bursts.map RecentFeature.fromBurst).findIdx? fun item => item.sourceWatermark == watermark) = some i ↔
      ∃ before burst after, bursts = before ++ burst :: after ∧ before.length = i ∧
        burst.sourceWatermark = watermark := by
  rw [List.findIdx?_map]
  refine ⟨fun h => ?_, fun ⟨before, burst, after, hsplit, hi, hw⟩ => ?_⟩
  · obtain ⟨hlt, hp, -⟩ := List.findIdx?_eq_some_iff_getElem.mp h
    refine ⟨bursts.take i, bursts[i], bursts.drop (i + 1), ?_, ?_, by simpa [RecentFeature.fromBurst] using hp⟩
    · rw [List.getElem_cons_drop, List.take_append_drop]
    · rw [List.length_take]
      omega
  · -- every burst before lies strictly below the watermark
    subst hsplit
    have hbefore : before.findIdx? (fun b => b.sourceWatermark == watermark) = none := by
      rw [List.findIdx?_eq_none_iff]
      intro b hb
      have hlt := (List.pairwise_append.mp hordered).2.2 b hb burst List.mem_cons_self
      rw [beq_eq_false_iff_ne]
      omega
    have hhere : (burst :: after).findIdx? (fun b => b.sourceWatermark == watermark) = some 0 := by
      rw [List.findIdx?_cons, if_pos (by simpa using hw)]
    show (before ++ burst :: after).findIdx? (fun b => b.sourceWatermark == watermark) = some i
    rw [List.findIdx?_append, hbefore, hhere, Option.none_or, Option.map_some, hi, Nat.zero_add]

theorem left_of_split {before after : List OperationBurst} {burst : OperationBurst} :
    (if before.length = 0 then none
      else ((before ++ burst :: after).map RecentFeature.fromBurst)[before.length - 1]?.map (·.feature)) =
      before.getLast?.map BurstFeature.fromBurst := by
  cases hlen : before.length with
  | zero => rw [List.length_eq_zero_iff.mp hlen]; rfl
  | succ n =>
    rw [if_neg (by omega), List.getElem?_map, List.getElem?_append_left (by omega),
      List.getLast?_eq_getElem?, hlen, Option.map_map]
    rfl

theorem candidateAt_iff {d : SegmentationDetector} {episode : WorkEpisode} {value : BoundaryCandidateState}
    {before after : List OperationBurst} {burst : OperationBurst} {candidate : Candidate}
    (hrolling : d.rolling = (before ++ burst :: after).map .fromBurst) :
    d.candidateAt episode value before.length = .ok candidate ↔
      value.candidateWatermark ≤ episode.sourceWatermark ∧ episode.confirmationWatermark = 0 ∧
        (∀ id ∈ value.evidenceRefs, ∃ m ∈ burst.members, id ∈ m.sourceObservationRefs) ∧
        candidate = rebuilt episode value before burst := by
  have hitem : d.rolling[before.length]? = some (.fromBurst burst) := by
    rw [hrolling, List.getElem?_map, List.getElem?_append_right (le_refl _)]
    simp
  unfold candidateAt
  rw [hitem, hrolling, left_of_split]
  simp only [okOr, bind, Except.bind, ite_error_else, Bool.or_eq_true, decide_eq_true_eq, bne_iff_ne, ne_eq,
    List.any_eq_true, not_or, not_exists, not_and, Nat.not_lt, not_not, Bool.not_eq_true', Bool.not_eq_false,
    List.contains_iff_mem, RecentFeature.fromBurst, mem_sortUnique, List.mem_flatMap, pure_eq_ok, and_assoc,
    eq_comm (b := candidate)]
  rfl

/-- A stored candidate is restored exactly from the burst that carries its watermark. -/
theorem restoreCandidate_iff {d : SegmentationDetector} {episode : WorkEpisode} {value : BoundaryCandidateState}
    {bursts : List OperationBurst} {candidate : Candidate} (hrolling : d.rolling = bursts.map .fromBurst)
    (hordered : bursts.Pairwise fun a b => a.sourceWatermark < b.sourceWatermark) :
    d.restoreCandidate episode value = .ok candidate ↔
      ∃ before burst after, bursts = before ++ burst :: after ∧
        burst.sourceWatermark = value.candidateWatermark ∧
        value.candidateWatermark ≤ episode.sourceWatermark ∧ episode.confirmationWatermark = 0 ∧
        (∀ id ∈ value.evidenceRefs, ∃ m ∈ burst.members, id ∈ m.sourceObservationRefs) ∧
        candidate = rebuilt episode value before burst := by
  unfold restoreCandidate
  rw [bind_eq_ok]
  simp only [okOr_ok, hrolling, findIdx_watermark hordered]
  constructor
  · rintro ⟨i, ⟨before, burst, after, hsplit, hi, hw⟩, h⟩
    subst hi hsplit
    exact ⟨before, burst, after, rfl, hw, (candidateAt_iff hrolling).mp h⟩
  · rintro ⟨before, burst, after, hsplit, hw, h⟩
    subst hsplit
    exact ⟨_, ⟨before, burst, after, rfl, rfl, hw⟩, (candidateAt_iff hrolling).mpr h⟩

/-- The stored bursts of an episode, as `restore` demands them. -/
structure Stored (episode : WorkEpisode) (bursts : List OperationBurst) : Prop where
  valid : ∀ b ∈ bursts, b.validate = .ok ()
  few : bursts.length ≤ 64
  distinct : (bursts.map (·.operationBurstId)).Nodup
  listed : ∀ b ∈ bursts, b.operationBurstId ∈ episode.operationBurstRefs
  ordered : bursts.Pairwise fun a b => a.sourceWatermark < b.sourceWatermark

/-- The restored detector, but for its candidate. -/
def synced (episode : WorkEpisode) (bursts : List OperationBurst) (candidate : Option Candidate) :
    SegmentationDetector :=
  { replayed episode bursts with
    sourceWatermark := max episode.sourceWatermark (replayed episode bursts).sourceWatermark
    boundaryStatus := episode.boundaryStatus
    confirmationWatermark := episode.confirmationWatermark
    candidate }

/-- On stored bursts only the stored candidate can make `restore` fail. -/
theorem restore_eq {episode : WorkEpisode} {bursts : List OperationBurst} (hvalid : episode.Valid)
    (hstored : Stored episode bursts) :
    restore episode bursts = match episode.boundaryCandidate with
      | some value => do
        return synced episode bursts (some (← (synced episode bursts none).restoreCandidate episode value))
      | none => .ok (synced episode bursts none) := by
  have : IsTrans OperationBurst fun a b => a.sourceWatermark < b.sourceWatermark :=
    ⟨fun _ _ _ hab hbc => hab.trans hbc⟩
  have hchecks : ¬ ((64 < bursts.length
      || !decide (bursts.map (·.operationBurstId)).Nodup
      || bursts.any (fun burst => !burst.validate.isOk
        || !episode.operationBurstRefs.contains burst.operationBurstId)
      || !decide (bursts.IsChain fun a b => a.sourceWatermark < b.sourceWatermark)) = true) := by
    have hchain := List.isChain_iff_pairwise.mpr hstored.ordered
    have hmembers : ∀ b ∈ bursts,
        b.validate = .ok () ∧ b.operationBurstId ∈ episode.operationBurstRefs :=
      fun b hb => ⟨hstored.valid b hb, hstored.listed b hb⟩
    simpa [hstored.distinct, hchain, hstored.few] using hmembers
  unfold restore
  rw [orIneligible_ok.mpr (WorkEpisode.validate_iff.mpr hvalid)]
  simp only [bind, Except.bind]
  rw [if_neg hchecks, foldlM_restoreBurst episode
    (fun b hb => OperationBurst.validate_valid (hstored.valid b hb)) hstored.few]
  cases episode.boundaryCandidate with
  | none => rfl
  | some value => rfl

end SegmentationDetector

end EverTrace.L2.Segmentation
