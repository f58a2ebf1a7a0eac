import EverTrace.L2Machine.Attempt
import EverTrace.L2Machine.Autoresearch
import EverTrace.L2Machine.ProcedureRoute
/-!
# Procedure usages and negative evidence (`evertrace-domain/src/procedure/usage.rs`)

A usage follows one procedure from its exposure to an outcome. Where the outcome
speaks against the procedure, a piece of negative evidence is recorded, and a
chain of review events says what became of it.
-/
namespace EverTrace.L2.Procedure
open EverTrace.Lib EverTrace.L1
open EverTrace.L2.Work (blank ids)
open EverTrace.L2.Recall (hasControl strictlyIncreasing)
open EverTrace.L2.AttemptRevision (Attempt)
open EverTrace.L2.Autoresearch (ResultEvidence)

/-- mirrors evertrace-domain/src/procedure/usage.rs:18-22 -/
inductive ProcedureCorrelationState where
  | resolved
  | ambiguous
  | conflicted
  deriving DecidableEq

/-- mirrors evertrace-domain/src/procedure/usage.rs:26-31 -/
inductive ProcedureTruth where
  | false_
  | unknown
  | true_
  | ambiguous
  deriving DecidableEq

/-- mirrors evertrace-domain/src/procedure/usage.rs:35-45 -/
inductive ProcedureUsageStage where
  | eligible
  | routed
  | returned
  | claimed
  | adopted
  | stageAligned
  | action
  | completion
  | outcome
  deriving DecidableEq

instance : LinearOrder ProcedureUsageStage :=
  LinearOrder.lift' ProcedureUsageStage.ctorIdx fun a b h => by cases a <;> cases b <;> first | rfl | cases h

/-- mirrors evertrace-domain/src/procedure/usage.rs:49-52 -/
inductive ProcedureUsageRouteDecision where
  | defer_
  | apply_
  deriving DecidableEq

/-- mirrors evertrace-domain/src/procedure/usage.rs:459-461 -/
def usageText (value : String) : Bool := !blank value && value.utf8ByteSize ≤ 4096 && !hasControl value

/-- mirrors evertrace-domain/src/procedure/usage.rs:463-467 -/
def usageTexts (values : List String) : Bool :=
  values.length ≤ 64 && strictlyIncreasing values && values.all usageText

/-- mirrors evertrace-domain/src/procedure/usage.rs:75-81 -/
def ProcedureLocalContext.validate (context : ProcedureLocalContext) : Bool :=
  (context.worktreeId.isNone || context.repositoryId.isSome) && context.failureSignature.all usageText

/-- mirrors evertrace-domain/src/procedure/usage.rs:93-121 -/
structure ProcedureUsageRevision where
  procedureUsageId : ProcedureUsageId
  usageRevisionId : RevisionId
  predecessorRevisionId : Option RevisionId
  revisionGeneration : Nat
  procedureRevisionId : RevisionId
  taskId : TaskId
  workstreamId : WorkstreamId
  exposureEpisodeRevisionId : RevisionId
  decisionBoundaryRef : String
  routeDecision : ProcedureUsageRouteDecision
  stage : ProcedureUsageStage
  attemptIds : List AttemptId
  actionEpisodeRevisionIds : List RevisionId
  verificationEpisodeRevisionIds : List RevisionId
  actionOperationRefs : List OperationId
  verificationOperationRefs : List OperationId
  workBindingRevisionRefs : List WorkBindingRevisionId
  scopeEffectRefs : List ScopeEffectId
  correlationState : ProcedureCorrelationState
  eligible : ProcedureTruth
  actionAligned : ProcedureTruth
  verifierAligned : ProcedureTruth
  outcomeSupported : ProcedureTruth
  localContext : ProcedureLocalContext
  sourceWatermark : Nat
  evidenceRefs : List String
  createdAtUs : Int
  deriving DecidableEq

namespace ProcedureUsageRevision

/-- mirrors evertrace-domain/src/procedure/usage.rs:124-136 -/
def acceptsAdoptedAttempt (usage : ProcedureUsageRevision) (attempt : Attempt) : Bool :=
  attempt.taskId == usage.taskId
    && attempt.workstreamId == usage.workstreamId
    && attempt.strategyContract.searchPolicyRef == some usage.procedureRevisionId.toText
    && attempt.strategyContract.acceptanceBoundaryRef == usage.decisionBoundaryRef
    && (attempt.adoptionStatus == .selected || attempt.adoptionStatus == .partiallyIntegrated
      || attempt.adoptionStatus == .integrated)

end ProcedureUsageRevision

/-- mirrors evertrace-domain/src/procedure/usage.rs:213-217 -/
inductive ProcedureNegativeLevel where
  | ineffective
  | suspectedHarm
  | confirmedHarm
  deriving DecidableEq

/-- mirrors evertrace-domain/src/procedure/usage.rs:221-227 -/
inductive ProcedureAttributionBasis where
  | noAdditionalHarm
  | resolvedLocalized
  | contextUnbounded
  | crossContextRepeated
  | replayInvariantViolation
  deriving DecidableEq

/-- mirrors evertrace-domain/src/procedure/usage.rs:231-235 -/
inductive ProcedureNegativeDecisionSource where
  | attemptNoSupportedOutcome
  | adoptedAttemptFailed
  | typedReplayInvariant
  deriving DecidableEq

/-- mirrors evertrace-domain/src/procedure/usage.rs:290-295 -/
inductive ProcedureNegativeReviewStatus where
  | pending
  | upheld
  | dismissed
  | superseded
  deriving DecidableEq

/-- mirrors evertrace-domain/src/procedure/usage.rs:298-302 -/
inductive ProcedureNegativeFact where
  | ineffective
  | adoptedAttemptFailed
  | replayInvariantViolation
  deriving DecidableEq

/-- The result failed as a deterministic replay does. -/
def replayMismatch (result : ResultEvidence) : Bool :=
  result.failure == some (.verifier .deterministicReparseMismatch)

/-- mirrors evertrace-domain/src/procedure/usage.rs:304-363 -/
def classifyNegativeFact (usage : ProcedureUsageRevision) (attempt : Attempt) (evidenceRefs : List String)
    (results : List ResultEvidence) : Option ProcedureNegativeFact :=
  let hasVerification := evidenceRefs.any attempt.parentVerificationRefs.contains
  let hasOutcome := evidenceRefs.any attempt.outcomeRefs.contains
  let tied := hasOutcome && evidenceRefs.all fun reference =>
    attempt.parentVerificationRefs.contains reference || attempt.outcomeRefs.contains reference
  if attempt.verification == .failed && hasVerification && tied && results.all replayMismatch then
    some .replayInvariantViolation
  else if attempt.verification == .passed && usage.outcomeSupported != .true_ && tied
      && results.all (fun result => result.failure.isNone && result.passed) then
    some .ineffective
  else if attempt.verification == .failed && attempt.executionStatus != .interrupted
      && attempt.failureSignature.isSome && hasVerification && tied
      && results.all (fun result => result.failure.isNone && !result.passed) then
    some .adoptedAttemptFailed
  else none

/-- mirrors evertrace-domain/src/procedure/usage.rs:367-382 -/
structure ProcedureNegativeEvidence where
  negativeEvidenceId : ProcedureNegativeEvidenceId
  level : ProcedureNegativeLevel
  procedureRevisionId : RevisionId
  procedureUsageId : ProcedureUsageId
  taskId : TaskId
  sessionId : String
  evidenceRefs : List String
  observedEffect : String
  expectedEffect : String
  confounders : List String
  attributionBasis : ProcedureAttributionBasis
  decisionSource : ProcedureNegativeDecisionSource
  localContext : Option ProcedureLocalContext
  createdAtUs : Int
  deriving DecidableEq

namespace ProcedureNegativeEvidence

/-- mirrors evertrace-domain/src/procedure/usage.rs:397-420 -/
def levelShape (negative : ProcedureNegativeEvidence) : Bool :=
  match negative.level with
  | .ineffective => negative.attributionBasis == .noAdditionalHarm
      && negative.decisionSource == .attemptNoSupportedOutcome
      && negative.localContext.isNone
      && negative.confounders.isEmpty
  | .suspectedHarm =>
      (negative.attributionBasis == .resolvedLocalized || negative.attributionBasis == .contextUnbounded
        || negative.attributionBasis == .crossContextRepeated)
      && negative.decisionSource == .adoptedAttemptFailed
      && !negative.confounders.isEmpty
  | .confirmedHarm => negative.attributionBasis == .replayInvariantViolation
      && negative.decisionSource == .typedReplayInvariant

/-- mirrors evertrace-domain/src/procedure/usage.rs:385-423 -/
def validate (negative : ProcedureNegativeEvidence) : Bool :=
  usageText negative.sessionId
    && !negative.evidenceRefs.isEmpty
    && usageTexts negative.evidenceRefs
    && usageText negative.observedEffect
    && usageText negative.expectedEffect
    && usageTexts negative.confounders
    && 0 ≤ negative.createdAtUs
    && negative.localContext.all ProcedureLocalContext.validate
    && negative.levelShape
    && (negative.attributionBasis == .resolvedLocalized) == negative.localContext.isSome

end ProcedureNegativeEvidence

/-- mirrors evertrace-domain/src/procedure/usage.rs:428-438 -/
structure ProcedureNegativeReviewEvent where
  reviewEventId : RevisionId
  negativeEvidenceId : ProcedureNegativeEvidenceId
  predecessorReviewEventId : Option RevisionId
  reviewGeneration : Nat
  status : ProcedureNegativeReviewStatus
  successorUsageRevisionId : Option RevisionId
  reason : String
  evidenceRefs : List String
  createdAtUs : Int
  deriving DecidableEq

end EverTrace.L2.Procedure
