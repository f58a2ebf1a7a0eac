import EverTrace.L2Machine.Detector
import EverTrace.Lib.KeySort
/-!
# The incremental segmenter (`evertrace-engine/src/segmentation/incremental.rs`)

The segmenter turns one observed operation into one transition: token, burst
update and detector update together. `observe` prepares the transition and
keeps it pending; `acknowledgeCommitted` promotes it once the store shows the
committed episode and bursts. `restore` starts from the store alone.

Results:
* `observe_delta`, `acknowledge_ok`: what a prepared and a promoted transition look like.
-/
namespace EverTrace.L2.Segmentation
open EverTrace.Lib EverTrace.L1 EverTrace.L2.Work

/-- The one store error the segmenter can meet. -/
inductive StoreError where
  | storeCorrupt
  deriving DecidableEq, Repr

/-- One snapshot of the store: the authority view and the current bursts.
mirrors evertrace-store/src/projections/segmentation.rs:138-149 -/
structure SegmentationCurrentState where
  frontier : Nat
  authority : SegmentationCurrentView
  bursts : OperationBurstId → Option OperationBurst

namespace SegmentationCurrentState

/-- mirrors evertrace-store/src/projections/segmentation.rs:165-167 -/
def episode (current : SegmentationCurrentState) (id : WorkEpisodeId) : Option WorkEpisode :=
  current.authority.episode id

/-- mirrors evertrace-store/src/projections/segmentation.rs:240-260 -/
def recentBursts (current : SegmentationCurrentState) (episode : WorkEpisode) :
    Except StoreError (List OperationBurst) := do
  if 64 < episode.operationBurstRefs.length then .error .storeCorrupt
  else
    let found ← episode.operationBurstRefs.mapM fun id => okOr .storeCorrupt (current.bursts id)
    let values := sortByKey (·.sourceWatermark) found
    if ¬ values.IsChain (fun a b => a.sourceWatermark < b.sourceWatermark) then .error .storeCorrupt
    else return values

end SegmentationCurrentState

/-- mirrors evertrace-engine/src/segmentation/incremental.rs:24-29 -/
structure IncrementalSegmentationStep where
  token : ActivityToken
  burst : BurstFoldUpdate
  detector : DetectorUpdate
  episodeSuccessorRevisionId : RevisionId
  deriving DecidableEq

/-- mirrors evertrace-engine/src/segmentation/incremental.rs:17-20 -/
inductive SegmentOutcome where
  | noDelta
  | delta (step : IncrementalSegmentationStep)

/-- mirrors evertrace-engine/src/segmentation/incremental.rs:106-110 -/
structure PendingTransition where
  step : IncrementalSegmentationStep
  nextFolder : OperationBurstFolder
  nextDetector : SegmentationDetector

/-- mirrors evertrace-engine/src/segmentation/incremental.rs:94-103 -/
structure IncrementalSegmenter where
  episodeId : WorkEpisodeId
  folder : OperationBurstFolder
  detector : SegmentationDetector
  pending : Option PendingTransition
  committedEpisodeRevisionId : RevisionId
  committedFrontier : Nat
  closed : Bool

/-- The candidate as the episode stores it; the kind comes with the watermark.
mirrors evertrace-engine/src/segmentation/incremental.rs:230-240, work/episode.rs:176-187 -/
def DetectorUpdate.candidateState (update : DetectorUpdate) : Option BoundaryCandidateState :=
  match update.candidateWatermark, update.candidateKind with
  | some candidateWatermark, some kind => some {
      candidatePhaseKind := update.candidatePhaseKind
      candidateWatermark
      evidenceRefs := update.candidateEvidenceRefs
      kind
      refinementProgress := update.refinementProgress }
  | _, _ => none

namespace IncrementalSegmenter

/-- mirrors evertrace-engine/src/segmentation/incremental.rs:113-134 -/
def new (current : SegmentationCurrentState) (episodeId : WorkEpisodeId) :
    Except DetectorError IncrementalSegmenter := do
  let episode ← okOr .ineligible (current.episode episodeId)
  if episode.lifecycleStatus != .open_ || !episode.operationBurstRefs.isEmpty then .error .ineligible
  else
    let detector ← SegmentationDetector.new episode
    return {
      episodeId
      folder := .new
      detector
      pending := none
      committedEpisodeRevisionId := episode.revisionId
      committedFrontier := current.frontier
      closed := false }

/-- mirrors evertrace-engine/src/segmentation/incremental.rs:136-155 -/
def restore (current : SegmentationCurrentState) (episodeId : WorkEpisodeId) :
    Except DetectorError IncrementalSegmenter := do
  let episode ← okOr .ineligible (current.episode episodeId)
  let recentBursts ← (current.recentBursts episode).mapError fun _ => DetectorError.ineligible
  let folder ← OperationBurstFolder.restore recentBursts
  let detector ← SegmentationDetector.restore episode recentBursts
  return {
    episodeId
    folder
    detector
    pending := none
    committedEpisodeRevisionId := episode.revisionId
    committedFrontier := current.frontier
    closed := episode.lifecycleStatus != .open_ }

/-- The episode is not the revision the segmenter stands on.
mirrors evertrace-engine/src/segmentation/incremental.rs:169-179 -/
def episodeMoved (s : IncrementalSegmenter) (episode : WorkEpisode) : Bool :=
  match s.pending with
  | some pending => episode.revisionId != s.committedEpisodeRevisionId
      && episode.revisionId != pending.step.episodeSuccessorRevisionId
  | none => episode.revisionId != s.committedEpisodeRevisionId || episode.lifecycleStatus != .open_

/-- A new transition for a token, `none` if the token repeats what was seen.
mirrors evertrace-engine/src/segmentation/incremental.rs:193-211 -/
def prepare (s : IncrementalSegmenter) (token : ActivityToken) (fresh : FreshIds) :
    Except DetectorError (Option PendingTransition) := do
  let (burst, nextFolder) ← s.folder.push token fresh
  if burst.noDelta then return none
  else
    let (detector, nextDetector) ← s.detector.push token burst
    return some {
      step := { token, burst, detector, episodeSuccessorRevisionId := fresh.episodeRevisionId }
      nextFolder
      nextDetector }

/-- The outcome of an observation and the transition that is pending after it.
mirrors evertrace-engine/src/segmentation/incremental.rs:157-212 -/
def observation (s : IncrementalSegmenter) (current : SegmentationCurrentState) (operationId : OperationId)
    (facts : SegmentationFacts) (fresh : FreshIds) :
    Except DetectorError (SegmentOutcome × Option PendingTransition) := do
  if s.closed || current.frontier < s.committedFrontier then .error .ineligible
  else
    let episode ← okOr .ineligible (current.episode s.episodeId)
    if s.episodeMoved episode then .error .ineligible
    else
      let token ← ActivityToken.compileChecked current.authority operationId s.episodeId facts
      match s.pending with
      | some pending =>
        if pending.step.token = token then return (.delta pending.step, some pending)
        else .error .pendingTransition
      | none =>
        match ← s.prepare token fresh with
        | some pending => return (.delta pending.step, some pending)
        | none => return (.noDelta, none)

/-- `observe(&mut self, ..)`: a failed observation leaves the segmenter as it was. -/
def observe (s : IncrementalSegmenter) (current : SegmentationCurrentState) (operationId : OperationId)
    (facts : SegmentationFacts) (fresh : FreshIds) :
    Except DetectorError SegmentOutcome × IncrementalSegmenter :=
  match s.observation current operationId facts fresh with
  | .ok (outcome, pending) => (.ok outcome, { s with pending })
  | .error e => (.error e, s)

/-- The stored current burst is what the step produced, closed if the step confirmed the boundary.
mirrors evertrace-engine/src/segmentation/incremental.rs:245-253 -/
def currentBurstMatches (step : IncrementalSegmentationStep) (currentBurst : OperationBurst) : Bool :=
  if step.detector.boundaryStatus == .confirmed then
    currentBurst.lifecycle == .closed && (step.burst.current.validateSuccessor currentBurst).isOk
  else currentBurst == step.burst.current

/-- The stored episode is the step's successor.
mirrors evertrace-engine/src/segmentation/incremental.rs:259-274 -/
def episodeMatches (s : IncrementalSegmenter) (step : IncrementalSegmentationStep) (episode : WorkEpisode) : Bool :=
  episode.revisionId == step.episodeSuccessorRevisionId
    && episode.predecessorRevisionId == some s.committedEpisodeRevisionId
    && episode.sourceWatermark == step.token.sourceWatermark
    && episode.boundaryStatus == step.detector.boundaryStatus
    && episode.boundaryCandidate == step.detector.candidateState
    && episode.lifecycleStatus
      == (if step.detector.boundaryStatus == .confirmed then .closed else .open_)
    && episode.operationBurstRefs.contains step.burst.current.operationBurstId

/-- mirrors evertrace-engine/src/segmentation/incremental.rs:214-285 -/
def acknowledgeCommitted (s : IncrementalSegmenter) (current : SegmentationCurrentState)
    (step : IncrementalSegmentationStep) : Except DetectorError IncrementalSegmenter := do
  let pending ← okOr .pendingTransition s.pending
  if pending.step != step || current.frontier ≤ s.committedFrontier then .error .pendingTransition
  else
    let episode ← okOr .pendingTransition (current.episode s.episodeId)
    let currentBurst ← okOr .pendingTransition (current.bursts step.burst.current.operationBurstId)
    let closedBurstMatches := step.burst.closed.all fun closed =>
      current.bursts closed.operationBurstId == some closed
    if !s.episodeMatches step episode || !currentBurstMatches step currentBurst || !closedBurstMatches then
      .error .pendingTransition
    else return { s with
      folder := pending.nextFolder
      detector := pending.nextDetector
      pending := none
      committedEpisodeRevisionId := episode.revisionId
      committedFrontier := current.frontier
      closed := step.detector.boundaryStatus == .confirmed }

/-! ## What a prepared and a promoted transition look like -/

/-- A transition prepared from the segmenter's own state. -/
structure Prepared (s : IncrementalSegmenter) (token : ActivityToken) (fresh : FreshIds)
    (pending : PendingTransition) : Prop where
  folded : s.folder.push token fresh = .ok (pending.step.burst, pending.nextFolder)
  delta : pending.step.burst.noDelta = false
  detected : s.detector.push token pending.step.burst = .ok (pending.step.detector, pending.nextDetector)
  token_eq : pending.step.token = token
  revision : pending.step.episodeSuccessorRevisionId = fresh.episodeRevisionId

theorem prepare_ok {s : IncrementalSegmenter} {token : ActivityToken} {fresh : FreshIds}
    {pending : PendingTransition} (h : s.prepare token fresh = .ok (some pending)) :
    Prepared s token fresh pending := by
  unfold prepare at h
  obtain ⟨⟨burst, folder⟩, hfold, h⟩ := bind_eq_ok.mp h
  dsimp only at h
  split at h
  · cases h
  next hdelta =>
  obtain ⟨⟨update, detector⟩, hdetect, h⟩ := bind_eq_ok.mp h
  cases h
  exact ⟨hfold, by simpa using hdelta, hdetect, rfl, rfl⟩

/-- A delta observed while nothing is pending is a newly prepared transition. -/
theorem observe_delta {s s' : IncrementalSegmenter} {current : SegmentationCurrentState} {operationId : OperationId}
    {facts : SegmentationFacts} {fresh : FreshIds} {step : IncrementalSegmentationStep} (hidle : s.pending = none)
    (h : s.observe current operationId facts fresh = (.ok (.delta step), s')) :
    ∃ episode token pending, s.closed = false ∧ current.episode s.episodeId = some episode ∧
      episode.revisionId = s.committedEpisodeRevisionId ∧ episode.lifecycleStatus = .open_ ∧
      ActivityToken.compileChecked current.authority operationId s.episodeId facts = .ok token ∧
      Prepared s token fresh pending ∧ pending.step = step ∧ s' = { s with pending := some pending } := by
  unfold observe at h
  cases hobservation : s.observation current operationId facts fresh with
  | error e => rw [hobservation] at h; cases h
  | ok result =>
    obtain ⟨outcome, pending⟩ := result
    rw [hobservation] at h
    obtain ⟨hstep, rfl⟩ := Prod.mk.inj h
    cases hstep
    unfold observation at hobservation
    obtain ⟨hopen, hobservation⟩ := ite_error_else.mp hobservation
    obtain ⟨episode, hepisode, hobservation⟩ := bind_eq_ok.mp hobservation
    obtain ⟨hmoved, hobservation⟩ := ite_error_else.mp hobservation
    obtain ⟨token, htoken, hobservation⟩ := bind_eq_ok.mp hobservation
    simp only [hidle] at hobservation
    obtain ⟨prepared, hprepared, hobservation⟩ := bind_eq_ok.mp hobservation
    cases prepared with
    | none => cases hobservation
    | some prepared =>
      cases hobservation
      simp only [episodeMoved, hidle, Bool.or_eq_true, bne_iff_ne, ne_eq, not_or, not_not] at hmoved
      simp only [Bool.or_eq_true, not_or, Bool.not_eq_true] at hopen
      exact ⟨episode, token, prepared, hopen.1, okOr_ok.mp hepisode, hmoved.1, hmoved.2, htoken,
        prepare_ok hprepared, rfl, rfl⟩

/-- What the store shows when a transition is promoted, and what the segmenter becomes. -/
structure Promoted (s : IncrementalSegmenter) (current : SegmentationCurrentState)
    (pending : PendingTransition) (episode : WorkEpisode) (currentBurst : OperationBurst)
    (s' : IncrementalSegmenter) : Prop where
  wasPending : s.pending = some pending
  later : s.committedFrontier < current.frontier
  stored : current.episode s.episodeId = some episode
  storedBurst : current.bursts pending.step.burst.current.operationBurstId = some currentBurst
  episodeMatches : s.episodeMatches pending.step episode = true
  currentMatches : currentBurstMatches pending.step currentBurst = true
  closedMatches : ∀ closed, pending.step.burst.closed = some closed →
    current.bursts closed.operationBurstId = some closed
  result : s' = { s with
    folder := pending.nextFolder
    detector := pending.nextDetector
    pending := none
    committedEpisodeRevisionId := episode.revisionId
    committedFrontier := current.frontier
    closed := pending.step.detector.boundaryStatus == .confirmed }

theorem acknowledge_ok {s s' : IncrementalSegmenter} {current : SegmentationCurrentState}
    {step : IncrementalSegmentationStep} (h : s.acknowledgeCommitted current step = .ok s') :
    ∃ pending episode currentBurst, pending.step = step ∧ Promoted s current pending episode currentBurst s' := by
  unfold acknowledgeCommitted at h
  obtain ⟨pending, hpending, h⟩ := bind_eq_ok.mp h
  obtain ⟨hstep, h⟩ := ite_error_else.mp h
  obtain ⟨episode, hepisode, h⟩ := bind_eq_ok.mp h
  obtain ⟨currentBurst, hburst, h⟩ := bind_eq_ok.mp h
  obtain ⟨hmatches, h⟩ := ite_error_else.mp h
  simp only [Bool.or_eq_true, bne_iff_ne, ne_eq, decide_eq_true_eq, not_or, not_not, Nat.not_le] at hstep
  obtain ⟨rfl, hlater⟩ := hstep
  simp only [Bool.or_eq_true, Bool.not_eq_true', not_or, Bool.not_eq_false] at hmatches
  obtain ⟨⟨hepisodeMatches, hcurrentMatches⟩, hclosed⟩ := hmatches
  refine ⟨pending, episode, currentBurst, rfl, okOr_ok.mp hpending, hlater, okOr_ok.mp hepisode,
    okOr_ok.mp hburst, hepisodeMatches, hcurrentMatches, fun closed hsome => ?_, (pure_eq_ok.mp h).symm⟩
  rw [hsome] at hclosed
  simpa using hclosed

end IncrementalSegmenter

end EverTrace.L2.Segmentation
