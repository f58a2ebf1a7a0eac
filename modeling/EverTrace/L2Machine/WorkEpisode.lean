import EverTrace.L2Machine.CaptureReceipt
/-!
# Work episodes (`evertrace-domain/src/work/episode.rs`)

An episode is the stretch of a workstream in one phase. Like a burst it is a
chain of revisions: `validate` checks one, `validateSuccessor` two consecutive
ones.

`Valid` and `Successor` restate the two checks in positive form, grouped by
what they are about; `validate_iff` and `validateSuccessor_iff` are the only
places that look inside the checks.
-/
namespace EverTrace.L2.Work
open EverTrace.Lib EverTrace.L1

/-- mirrors evertrace-domain/src/work/episode.rs:38-42 -/
inductive EpisodeLifecycle where
  | open_
  | closed
  | superseded
  deriving DecidableEq, Repr

/-- mirrors evertrace-domain/src/work/episode.rs:56-60 -/
inductive BoundaryStatus where
  | provisional
  | candidate
  | confirmed
  deriving DecidableEq, Repr

/-- mirrors evertrace-domain/src/work/episode.rs:64-67 -/
inductive BoundaryCandidateKind where
  | structuredSurprise
  | objective
  deriving DecidableEq, Repr

/-- mirrors evertrace-domain/src/work/episode.rs:71-77 -/
structure BoundaryCandidateState where
  candidatePhaseKind : Option PhaseKind
  candidateWatermark : Nat
  evidenceRefs : List SourceObservationId
  kind : BoundaryCandidateKind
  refinementProgress : Nat
  deriving DecidableEq

/-- mirrors evertrace-domain/src/work/episode.rs:80-89 -/
def BoundaryCandidateState.validate (c : BoundaryCandidateState) : Except WorkError Unit :=
  if c.candidateWatermark == 0 || c.evidenceRefs.isEmpty || !ids c.evidenceRefs || 8 < c.refinementProgress then
    .error .invalidWorkIdentity
  else .ok ()

/-- mirrors evertrace-domain/src/work/episode.rs:159-163 -/
structure PendingDeltaStats where
  selectedTokenCount : Nat
  meaningfulBurstCount : Nat
  highValueSignalCount : Nat
  deriving DecidableEq

/-- mirrors evertrace-domain/src/work/episode.rs:167-170 -/
structure PendingSemanticInterval where
  afterWatermark : Nat
  throughWatermark : Nat
  deriving DecidableEq

/-- mirrors evertrace-domain/src/work/episode.rs:173-179 -/
def PendingSemanticInterval.validate (i : PendingSemanticInterval) : Except WorkError Unit :=
  if i.throughWatermark ≤ i.afterWatermark then .error .invalidWorkIdentity else .ok ()

/-- mirrors evertrace-domain/src/work/episode.rs:296-342 -/
structure WorkEpisode where
  episodeId : WorkEpisodeId
  revisionId : RevisionId
  predecessorRevisionId : Option RevisionId
  revisionGeneration : Nat
  taskId : TaskId
  workstreamId : WorkstreamId
  repositoryInstanceId : Option RepositoryId
  worktreeInstanceId : Option WorktreeId
  phaseContract : PhaseContract
  lifecycleStatus : EpisodeLifecycle
  boundaryStatus : BoundaryStatus
  sourceWatermark : Nat
  semanticWatermark : Nat
  confirmationWatermark : Nat
  captureWatermark : Nat
  entryWorktreeSnapshotId : Option WorktreeSnapshotId
  exitWorktreeSnapshotId : Option WorktreeSnapshotId
  sessionIds : List String
  executionLaneIds : List ExecutionLaneId
  attemptIds : List AttemptId
  competingAttemptGroupIds : List CompetingAttemptGroupId
  operationBurstRefs : List OperationBurstId
  worktreeTransitionRefs : List WorktreeTransitionId
  failedAttemptIds : List AttemptId
  interruptedAttemptIds : List AttemptId
  returnedButUnselectedAttemptIds : List AttemptId
  selectedAttemptIds : List AttemptId
  failureRefs : List String
  interruptionRefs : List String
  completedOutcomeRefs : List String
  selectedOutcomeRefs : List String
  verificationRefs : List String
  openLoops : List String
  checkpointRefs : List String
  captureReceiptRevisionIds : List CaptureReceiptId
  captureGapRefs : List String
  captureOutageRefs : List CaptureOutageIntervalId
  pendingDeltaStats : PendingDeltaStats
  pendingSemanticDelta : Option PendingSemanticInterval
  boundaryCandidate : Option BoundaryCandidateState
  captureSummary : CaptureSummary
  segmentationCorrectionRefs : List RevisionId
  experimentRunRefs : List ExperimentRunId
  workArtifactRefs : List WorkArtifactId
  semanticDigestRefs : List String
  deriving DecidableEq

namespace WorkEpisode

/-- The pending interval is what lies between the two watermarks.
mirrors evertrace-domain/src/work/episode.rs:348-355 -/
def pendingOk (e : WorkEpisode) : Bool :=
  match e.pendingSemanticDelta with
  | some interval =>
    interval.validate.isOk
      && interval.afterWatermark == e.semanticWatermark
      && interval.throughWatermark == e.sourceWatermark
  | none => e.semanticWatermark == e.sourceWatermark

/-- mirrors evertrace-domain/src/work/episode.rs:356-381 -/
def allLists (e : WorkEpisode) : Bool :=
  [refs e.sessionIds,
    ids e.executionLaneIds,
    ids e.attemptIds,
    ids e.competingAttemptGroupIds,
    ids e.operationBurstRefs,
    ids e.worktreeTransitionRefs,
    ids e.failedAttemptIds,
    ids e.interruptedAttemptIds,
    ids e.returnedButUnselectedAttemptIds,
    ids e.selectedAttemptIds,
    refs e.failureRefs,
    refs e.interruptionRefs,
    refs e.completedOutcomeRefs,
    refs e.selectedOutcomeRefs,
    refs e.verificationRefs,
    refs e.openLoops,
    refs e.checkpointRefs,
    refs e.semanticDigestRefs,
    ids e.captureReceiptRevisionIds,
    refs e.captureGapRefs,
    ids e.captureOutageRefs,
    ids e.segmentationCorrectionRefs].all id

/-- mirrors evertrace-domain/src/work/episode.rs:345-411 -/
def validate (e : WorkEpisode) : Except WorkError Unit := do
  e.phaseContract.validate
  e.captureSummary.validate
  if e.revisionGeneration == 0
      || e.sourceWatermark == 0
      || (e.revisionGeneration == 1) != e.predecessorRevisionId.isNone
      || e.sourceWatermark < e.semanticWatermark
      || e.sourceWatermark < e.confirmationWatermark
      || e.sourceWatermark < e.captureWatermark
      || !e.pendingOk
      || e.boundaryCandidate.any (fun candidate =>
        !candidate.validate.isOk || e.sourceWatermark < candidate.candidateWatermark)
      || (e.boundaryStatus == .candidate) != e.boundaryCandidate.isSome
      || !e.allLists
      || !e.experimentRunRefs.isEmpty
      || !e.workArtifactRefs.isEmpty
      || (e.lifecycleStatus == .open_
        && (e.boundaryStatus == .confirmed || e.exitWorktreeSnapshotId.isSome))
      || (e.lifecycleStatus != .open_ && e.boundaryStatus != .confirmed)
      || (e.boundaryStatus == .confirmed && e.confirmationWatermark == 0)
      || (e.boundaryStatus != .confirmed && e.confirmationWatermark != 0) then
    .error .invalidWorkIdentity
  else .ok ()

/-- `binary_search` in a sorted list finds what is in it.
mirrors evertrace-domain/src/work/episode.rs:536-538 -/
def retains {α : Type} [DecidableEq α] (old new : List α) : Bool := old.all fun item => new.contains item

/-- mirrors evertrace-domain/src/work/episode.rs:496-533 -/
def validateSemanticSuccessor (e next : WorkEpisode) (nextGeneration : Nat) : Except WorkError Unit :=
  let frozen := { next with
    revisionId := e.revisionId
    predecessorRevisionId := e.predecessorRevisionId
    revisionGeneration := e.revisionGeneration
    semanticWatermark := e.semanticWatermark
    pendingSemanticDelta := e.pendingSemanticDelta
    semanticDigestRefs := e.semanticDigestRefs }
  let appended := e.semanticDigestRefs.all (fun reference => next.semanticDigestRefs.contains reference)
    && next.semanticDigestRefs.length == e.semanticDigestRefs.length + 1
  let pendingOk :=
    if next.semanticWatermark == next.sourceWatermark then next.pendingSemanticDelta.isNone
    else next.pendingSemanticDelta.any fun interval =>
      interval.afterWatermark == next.semanticWatermark && interval.throughWatermark == next.sourceWatermark
  if frozen != e
      || next.revisionGeneration != nextGeneration
      || next.predecessorRevisionId != some e.revisionId
      || next.revisionId == e.revisionId
      || next.semanticWatermark ≤ e.semanticWatermark
      || e.sourceWatermark < next.semanticWatermark
      || !appended
      || !pendingOk then
    .error .invalidWorkIdentity
  else .ok ()

/-- mirrors evertrace-domain/src/work/episode.rs:425-432 -/
def lifecycleOk (e next : WorkEpisode) : Bool :=
  e.lifecycleStatus == next.lifecycleStatus
    || (e.lifecycleStatus == .open_
      && (next.lifecycleStatus == .closed || next.lifecycleStatus == .superseded))
    || (e.lifecycleStatus == .closed && next.lifecycleStatus == .superseded)

/-- mirrors evertrace-domain/src/work/episode.rs:433-439 -/
def boundaryOk (e next : WorkEpisode) : Bool :=
  e.boundaryStatus == next.boundaryStatus
    || match e.boundaryStatus, next.boundaryStatus with
      | .provisional, .candidate => true
      | .candidate, .provisional => true
      | .candidate, .confirmed => true
      | _, _ => false

/-- Nothing recorded in an earlier revision is dropped.
mirrors evertrace-domain/src/work/episode.rs:459-489 -/
def retainsAll (e next : WorkEpisode) : Bool :=
  retains e.sessionIds next.sessionIds
    && retains e.executionLaneIds next.executionLaneIds
    && retains e.attemptIds next.attemptIds
    && retains e.competingAttemptGroupIds next.competingAttemptGroupIds
    && retains e.operationBurstRefs next.operationBurstRefs
    && retains e.worktreeTransitionRefs next.worktreeTransitionRefs
    && retains e.failedAttemptIds next.failedAttemptIds
    && retains e.interruptedAttemptIds next.interruptedAttemptIds
    && retains e.returnedButUnselectedAttemptIds next.returnedButUnselectedAttemptIds
    && retains e.selectedAttemptIds next.selectedAttemptIds
    && retains e.failureRefs next.failureRefs
    && retains e.interruptionRefs next.interruptionRefs
    && retains e.completedOutcomeRefs next.completedOutcomeRefs
    && retains e.selectedOutcomeRefs next.selectedOutcomeRefs
    && retains e.verificationRefs next.verificationRefs
    && retains e.checkpointRefs next.checkpointRefs
    && retains e.captureGapRefs next.captureGapRefs
    && retains e.captureOutageRefs next.captureOutageRefs
    && retains e.segmentationCorrectionRefs next.segmentationCorrectionRefs

/-- mirrors evertrace-domain/src/work/episode.rs:413-494 -/
def validateSuccessor (e next : WorkEpisode) : Except WorkError Unit := do
  e.validate
  next.validate
  let nextGeneration ← okOr .invalidWorkIdentity (checkedSucc 64 e.revisionGeneration)
  if e.semanticWatermark != next.semanticWatermark || e.semanticDigestRefs != next.semanticDigestRefs then
    e.validateSemanticSuccessor next nextGeneration
  else if next.episodeId != e.episodeId
      || next.revisionGeneration != nextGeneration
      || next.predecessorRevisionId != some e.revisionId
      || next.revisionId == e.revisionId
      || next.taskId != e.taskId
      || next.workstreamId != e.workstreamId
      || next.repositoryInstanceId != e.repositoryInstanceId
      || next.worktreeInstanceId != e.worktreeInstanceId
      || next.phaseContract != e.phaseContract
      || next.entryWorktreeSnapshotId != e.entryWorktreeSnapshotId
      || next.sourceWatermark < e.sourceWatermark
      || next.semanticWatermark < e.semanticWatermark
      || next.confirmationWatermark < e.confirmationWatermark
      || next.captureWatermark < e.captureWatermark
      || !lifecycleOk e next
      || !boundaryOk e next
      || e.lifecycleStatus == .superseded
      || (e.lifecycleStatus == .closed && next.lifecycleStatus != .superseded)
      || !retainsAll e next then
    .error .invalidWorkIdentity
  else .ok ()

/-! ## The checks in positive form -/

/-- What `validate` demands of a revision. -/
structure Valid (e : WorkEpisode) : Prop where
  contract : e.phaseContract.validate = .ok ()
  summary : e.captureSummary.validate = .ok ()
  generation : e.revisionGeneration ≠ 0
  watermark : e.sourceWatermark ≠ 0
  first : e.revisionGeneration = 1 ↔ e.predecessorRevisionId = none
  semantic : e.semanticWatermark ≤ e.sourceWatermark
  confirmation : e.confirmationWatermark ≤ e.sourceWatermark
  capture : e.captureWatermark ≤ e.sourceWatermark
  pending : e.pendingOk = true
  candidate : ∀ c, e.boundaryCandidate = some c → c.validate = .ok () ∧ c.candidateWatermark ≤ e.sourceWatermark
  status : e.boundaryStatus = .candidate ↔ e.boundaryCandidate.isSome = true
  lists : e.allLists = true
  runs : e.experimentRunRefs = []
  artifacts : e.workArtifactRefs = []
  openShape : e.lifecycleStatus = .open_ → e.boundaryStatus ≠ .confirmed ∧ e.exitWorktreeSnapshotId = none
  closedShape : e.lifecycleStatus ≠ .open_ → e.boundaryStatus = .confirmed
  confirmed : e.boundaryStatus = .confirmed ↔ e.confirmationWatermark ≠ 0

theorem candidate_any_eq_false {e : WorkEpisode} : e.boundaryCandidate.any (fun candidate =>
      !candidate.validate.isOk || e.sourceWatermark < candidate.candidateWatermark) = false ↔
    ∀ c, e.boundaryCandidate = some c → c.validate = .ok () ∧ c.candidateWatermark ≤ e.sourceWatermark := by
  cases e.boundaryCandidate with
  | none => simp
  | some c => simp [← isOk_iff]

theorem validate_iff {e : WorkEpisode} : e.validate = .ok () ↔ e.Valid := by
  unfold validate
  simp only [bind_eq_ok, ite_error_ok, Bool.not_eq_true, Bool.or_eq_false_iff, candidate_any_eq_false,
    beq_eq_false_iff_ne, bne_eq_false_iff_eq, decide_eq_false_iff_not, Nat.not_lt, Bool.not_eq_false',
    Bool.and_eq_false_iff, List.isEmpty_iff, Option.isSome_eq_false_iff, Option.isNone_iff_eq_none, and_assoc]
  constructor
  · rintro ⟨_, hcontract, _, hsummary, hgeneration, hwatermark, hfirst, hsemantic, hconfirmation, hcapture,
      hpending, hcandidate, hstatus, hlists, hruns, hartifacts, hopen, hclosed, hzero, hnonzero⟩
    exact {
      contract := hcontract, summary := hsummary, generation := hgeneration, watermark := hwatermark
      first := by rw [← beq_iff_eq, hfirst, Option.isNone_iff_eq_none]
      semantic := hsemantic, confirmation := hconfirmation, capture := hcapture
      pending := hpending, candidate := hcandidate
      status := by rw [← beq_iff_eq, hstatus]
      lists := hlists, runs := hruns, artifacts := hartifacts
      openShape := imp_iff_not_or.mpr hopen
      closedShape := or_iff_not_imp_left.mp hclosed
      confirmed := ⟨imp_iff_not_or.mpr hzero, or_iff_not_imp_right.mp hnonzero⟩ }
  · intro v
    have hfirst : (e.revisionGeneration == 1) = e.predecessorRevisionId.isNone := by
      rw [Bool.eq_iff_iff, beq_iff_eq, Option.isNone_iff_eq_none, v.first]
    have hstatus : (e.boundaryStatus == .candidate) = e.boundaryCandidate.isSome := by
      rw [Bool.eq_iff_iff, beq_iff_eq, v.status]
    exact ⟨(), v.contract, (), v.summary, v.generation, v.watermark, hfirst, v.semantic, v.confirmation,
      v.capture, v.pending, v.candidate, hstatus, v.lists, v.runs, v.artifacts,
      imp_iff_not_or.mp v.openShape, or_iff_not_imp_left.mpr v.closedShape, imp_iff_not_or.mp v.confirmed.mp,
      or_iff_not_imp_right.mpr v.confirmed.mpr⟩

/-- What `validateSuccessor` demands of two revisions with the same semantic part. -/
structure Successor (e next : WorkEpisode) : Prop where
  valid : e.Valid
  nextValid : next.Valid
  room : e.revisionGeneration + 1 < 2 ^ 64
  sameEpisode : next.episodeId = e.episodeId
  generation : next.revisionGeneration = e.revisionGeneration + 1
  predecessor : next.predecessorRevisionId = some e.revisionId
  newRevision : next.revisionId ≠ e.revisionId
  sameTask : next.taskId = e.taskId
  sameWorkstream : next.workstreamId = e.workstreamId
  sameRepository : next.repositoryInstanceId = e.repositoryInstanceId
  sameWorktree : next.worktreeInstanceId = e.worktreeInstanceId
  sameContract : next.phaseContract = e.phaseContract
  sameEntry : next.entryWorktreeSnapshotId = e.entryWorktreeSnapshotId
  watermark : e.sourceWatermark ≤ next.sourceWatermark
  semantic : e.semanticWatermark ≤ next.semanticWatermark
  confirmation : e.confirmationWatermark ≤ next.confirmationWatermark
  capture : e.captureWatermark ≤ next.captureWatermark
  lifecycle : lifecycleOk e next = true
  boundary : boundaryOk e next = true
  live : e.lifecycleStatus ≠ .superseded
  closed : e.lifecycleStatus = .closed → next.lifecycleStatus = .superseded
  retained : retainsAll e next = true

theorem validateSuccessor_iff {e next : WorkEpisode} (hsemantic : e.semanticWatermark = next.semanticWatermark)
    (hdigests : e.semanticDigestRefs = next.semanticDigestRefs) :
    e.validateSuccessor next = .ok () ↔ e.Successor next := by
  unfold validateSuccessor
  rw [hsemantic, hdigests]
  simp only [bind_eq_ok, okOr_ok, checkedSucc_eq_some, bne_self_eq_false, Bool.or_self, Bool.false_eq_true,
    if_false, ite_error_ok, Bool.not_eq_true, Bool.or_eq_false_iff, beq_eq_false_iff_ne, bne_eq_false_iff_eq,
    decide_eq_false_iff_not, Nat.not_lt, Bool.not_eq_false', Bool.and_eq_false_iff, and_assoc]
  constructor
  · rintro ⟨_, hvalid, _, hnext, _, hroom, rfl, hepisode, hgeneration, hpredecessor, hrevision, htask, hstream,
      hrepository, hworktree, hcontract, hentry, hwatermark, hsem, hconfirmation, hcapture, hlifecycle, hboundary,
      hlive, hclosed, hretained⟩
    exact ⟨validate_iff.mp hvalid, validate_iff.mp hnext, hroom, hepisode, hgeneration, hpredecessor, hrevision, htask, hstream, hrepository,
      hworktree, hcontract, hentry, hwatermark, by omega, hconfirmation, hcapture, hlifecycle, hboundary, hlive,
      imp_iff_not_or.mpr hclosed, hretained⟩
  · intro h
    exact ⟨(), validate_iff.mpr h.valid, (), validate_iff.mpr h.nextValid, _, h.room, rfl, h.sameEpisode, h.generation, h.predecessor, h.newRevision,
      h.sameTask, h.sameWorkstream, h.sameRepository, h.sameWorktree, h.sameContract, h.sameEntry, h.watermark,
      by omega, h.confirmation, h.capture, h.lifecycle, h.boundary, h.live, imp_iff_not_or.mp h.closed, h.retained⟩

end WorkEpisode

end EverTrace.L2.Work
