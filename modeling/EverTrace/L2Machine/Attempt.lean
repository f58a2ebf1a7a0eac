import EverTrace.L1Encoding.Canonical
import EverTrace.L2Machine.Work
/-!
# Attempts (`evertrace-domain/src/work/attempt.rs`, `evertrace-engine/src/work/attempt.rs`)

An attempt is a record with revisions. `validate` says what one revision looks
like and `validateSuccessor` what may follow it: the identity stays, the four
statuses move along their tables, and no list of evidence loses an entry. The
engine's operations make a successor by copying the record, changing a few
fields and calling `validate` on the result.

A new revision id is an argument, `new_v7` of the source.

**Results.** Every operation leaves the identity alone (`perform_sameWork`), and
what is left of `validateSuccessor` then is a list of conditions on the fields
that operations do change (`validateSuccessor_iff`). They hold if and only if the
operation keeps the evidence (`follows_iff`).
-/
namespace EverTrace.L2.AttemptRevision
open EverTrace.Lib EverTrace.L1 EverTrace.L2.Work

/-- mirrors evertrace-domain/src/work/attempt.rs:38-49 -/
structure StrategyContract where
  hypothesis : String
  intervention : String
  interventionFamily : String
  searchPolicyRef : Option String
  objectiveRef : Option String
  expectedEffect : String
  targetRefs : List String
  acceptanceBoundaryRef : String
  deriving DecidableEq

/-- mirrors evertrace-domain/src/work/attempt.rs:52-71 -/
def StrategyContract.validate (c : StrategyContract) : Except WorkError Unit :=
  ensure .invalidWorkIdentity
    (bounded c.hypothesis && bounded c.intervention && bounded c.interventionFamily && bounded c.expectedEffect
      && bounded c.acceptanceBoundaryRef && c.searchPolicyRef.all bounded && c.objectiveRef.all bounded
      && refs c.targetRefs)

/-- `map_or(CanonicalValue::Null, CanonicalValue::String)` -/
def optionalValue : Option String → Canonical.CanonicalValue
  | none => .null
  | some value => .string value

/-- mirrors evertrace-domain/src/work/attempt.rs:73-117 -/
def StrategyContract.fingerprint (H : Sha256) (c : StrategyContract) : Except WorkError Digest := do
  c.validate
  (Canonical.sha256 H "evertrace_attempt_strategy_contract" 1 (.map
    [("acceptance_boundary_ref", .string c.acceptanceBoundaryRef),
      ("expected_effect", .string c.expectedEffect),
      ("hypothesis", .string c.hypothesis),
      ("intervention", .string c.intervention),
      ("intervention_family", .string c.interventionFamily),
      ("objective_ref", optionalValue c.objectiveRef),
      ("search_policy_ref", optionalValue c.searchPolicyRef),
      ("target_refs", .sequence (c.targetRefs.map .string))])).mapError fun _ => .invalidWorkIdentity

/-- mirrors evertrace-domain/src/work/attempt.rs:121-129 -/
inductive AttemptExecutionStatus where
  | proposed
  | active
  | interrupted
  | completed
  | abandoned
  deriving DecidableEq

/-- mirrors evertrace-domain/src/work/attempt.rs:143-152 -/
inductive AttemptAdoptionStatus where
  | none
  | candidate
  | selected
  | partiallyIntegrated
  | integrated
  | rejected
  deriving DecidableEq

/-- mirrors evertrace-domain/src/work/attempt.rs:154-161 -/
inductive AttemptVerification where
  | unverified
  | passed
  | failed
  | inconclusive
  deriving DecidableEq

/-- mirrors evertrace-domain/src/work/attempt.rs:163-168 -/
inductive AttemptLifecycleStatus where
  | active
  | superseded
  deriving DecidableEq

/-- mirrors evertrace-domain/src/work/attempt.rs:179-184 -/
inductive AttemptOutcomeState where
  | known
  | unknown
  deriving DecidableEq

/-- mirrors evertrace-domain/src/work/attempt.rs:186-194 -/
inductive InterruptionReason where
  | timeout
  | cancelled
  | crashed
  | sourceClosedUnconfirmed
  | mixed
  deriving DecidableEq

/-- mirrors evertrace-domain/src/work/attempt.rs:196-203 -/
inductive ResumeStateAssessment where
  | compatibleSameInstance
  | compatibleLineageTransfer
  | incompatible
  | unknown
  deriving DecidableEq

/-- mirrors evertrace-domain/src/work/attempt.rs:205-247 -/
structure Attempt where
  attemptId : AttemptId
  revisionId : RevisionId
  predecessorRevisionId : Option RevisionId
  revisionGeneration : Nat
  taskId : TaskId
  workstreamId : WorkstreamId
  episodeId : Option WorkEpisodeId
  repositoryInstanceId : Option RepositoryId
  worktreeInstanceIds : List WorktreeId
  executionLaneIds : List ExecutionLaneId
  competingGroupIds : List CompetingAttemptGroupId
  experimentRunIds : List ExperimentRunId
  executionStatus : AttemptExecutionStatus
  adoptionStatus : AttemptAdoptionStatus
  verification : AttemptVerification
  lifecycleStatus : AttemptLifecycleStatus
  strategyContract : StrategyContract
  strategyContractFingerprint : Digest
  resumesFromAttemptId : Option AttemptId
  composedFromAttemptIds : List AttemptId
  resumeEventRefs : List String
  resumeStateAssessment : Option ResumeStateAssessment
  resumeSourceSnapshotId : Option WorktreeSnapshotId
  resumeTargetSnapshotId : Option WorktreeSnapshotId
  worktreeTransitionRefs : List WorktreeTransitionId
  integrationEventRefs : List IntegrationEventId
  recoveryBundleRefs : List RecoveryBundleId
  recoveryApplicationRefs : List RecoveryApplicationId
  workBindingRevisionRefs : List WorkBindingRevisionId
  localOutcomeRefs : List String
  parentVerificationRefs : List String
  outcomeRefs : List String
  outcomeState : AttemptOutcomeState
  interruptionRefs : List String
  interruptionReason : Option InterruptionReason
  explicitAbandonRefs : List String
  supersedeEvidenceRefs : List String
  failureSignature : Option String
  sourceWatermark : Nat
  deriving DecidableEq

/-! ## One revision -/

/-- mirrors `lists_ok`, attempt.rs:252-276 -/
def Attempt.listsOk (a : Attempt) : Bool :=
  ids a.worktreeInstanceIds && ids a.executionLaneIds && ids a.competingGroupIds && ids a.composedFromAttemptIds
    && ids a.worktreeTransitionRefs && ids a.integrationEventRefs && ids a.workBindingRevisionRefs
    && [a.resumeEventRefs, a.localOutcomeRefs, a.parentVerificationRefs, a.outcomeRefs, a.interruptionRefs,
      a.explicitAbandonRefs, a.supersedeEvidenceRefs].all refs

/-- mirrors `resume_shape`, attempt.rs:277-299 -/
def Attempt.resumeShape (a : Attempt) : Bool :=
  match a.resumeStateAssessment with
  | none => a.resumesFromAttemptId.isNone && a.resumeEventRefs.isEmpty && a.resumeSourceSnapshotId.isNone
      && a.resumeTargetSnapshotId.isNone
  | some .compatibleSameInstance => a.resumesFromAttemptId.isNone && !a.resumeEventRefs.isEmpty
      && a.resumeTargetSnapshotId.isSome
  | some .compatibleLineageTransfer => a.resumesFromAttemptId.isNone && !a.resumeEventRefs.isEmpty
      && a.resumeSourceSnapshotId.isSome && a.resumeTargetSnapshotId.isSome && !a.worktreeTransitionRefs.isEmpty
  | some .incompatible | some .unknown => a.resumesFromAttemptId.isSome && !a.resumeEventRefs.isEmpty

/-- mirrors `outcome_shape`, attempt.rs:300-305 -/
def Attempt.outcomeShape (a : Attempt) : Bool :=
  match a.outcomeState with
  | .known => !a.localOutcomeRefs.isEmpty || !a.outcomeRefs.isEmpty
  | .unknown => a.outcomeRefs.isEmpty

/-- mirrors attempt.rs:320-325 -/
def Attempt.lanesShape (a : Attempt) : Bool :=
  match a.executionStatus with
  | .active | .interrupted | .completed => !a.executionLaneIds.isEmpty
  | .proposed | .abandoned => true

/-- mirrors attempt.rs:327-336 -/
def Attempt.interruptionShape (a : Attempt) : Bool :=
  a.executionStatus != .interrupted
    || (!a.executionLaneIds.isEmpty && a.outcomeState == .unknown && a.outcomeRefs.isEmpty
      && !a.interruptionRefs.isEmpty && a.interruptionReason.isSome
      && (a.verification == .unverified || a.verification == .inconclusive))

/-- The checks of `validate` that need no hash. -/
def Attempt.shapeOk (a : Attempt) : Bool :=
  a.revisionGeneration != 0
    && a.sourceWatermark != 0
    && (a.revisionGeneration == 1) == a.predecessorRevisionId.isNone
    && !(a.revisionGeneration == 1 && a.episodeId.isSome)
    && a.experimentRunIds.isEmpty
    && a.recoveryBundleRefs.isEmpty
    && a.recoveryApplicationRefs.isEmpty
    && a.listsOk
    && a.resumesFromAttemptId != some a.attemptId
    && !a.composedFromAttemptIds.contains a.attemptId
    && !(!a.composedFromAttemptIds.isEmpty && a.composedFromAttemptIds.length < 2)
    && a.resumeShape
    && a.lanesShape
    && a.outcomeShape
    && a.interruptionShape
    && (a.executionStatus == .abandoned) == !a.explicitAbandonRefs.isEmpty
    && (a.verification == .passed || a.verification == .failed) == !a.parentVerificationRefs.isEmpty
    && (a.adoptionStatus == .partiallyIntegrated || a.adoptionStatus == .integrated)
      == !a.integrationEventRefs.isEmpty
    && (a.lifecycleStatus == .superseded) == !a.supersedeEvidenceRefs.isEmpty
    && a.failureSignature.all bounded

/-- All rejections are the same error, so their order does not show.
mirrors evertrace-domain/src/work/attempt.rs:250-357 -/
def Attempt.validate (H : Sha256) (a : Attempt) : Except WorkError Unit := do
  a.strategyContract.validate
  let fingerprint ← a.strategyContract.fingerprint H
  ensure .invalidWorkIdentity (a.strategyContractFingerprint == fingerprint && a.shapeOk)

/-! ## What may follow -/

/-- The table of `revise_execution`.
mirrors evertrace-engine/src/work/attempt.rs:196-213 -/
def executionAllowed : AttemptExecutionStatus → AttemptExecutionStatus → Bool
  | .proposed, .active | .proposed, .abandoned => true
  | .active, .interrupted | .active, .completed | .active, .abandoned => true
  | .interrupted, .completed | .interrupted, .abandoned => true
  | _, _ => false

/-- The table of `revise_adoption`, the same in both crates.
mirrors evertrace-engine/src/work/attempt.rs:244-263, evertrace-domain/src/work/attempt.rs:385-405 -/
def adoptionAllowed : AttemptAdoptionStatus → AttemptAdoptionStatus → Bool
  | .none, .candidate | .none, .selected | .none, .rejected => true
  | .candidate, .selected | .candidate, .rejected => true
  | .selected, .partiallyIntegrated | .selected, .integrated | .selected, .rejected => true
  | .partiallyIntegrated, .integrated | .partiallyIntegrated, .rejected => true
  | _, _ => false

/-- The table of `revise_verification`, the same in both crates.
mirrors evertrace-engine/src/work/attempt.rs:288-299, evertrace-domain/src/work/attempt.rs:406-418 -/
def verificationAllowed : AttemptVerification → AttemptVerification → Bool
  | .unverified, .inconclusive | .unverified, .passed | .unverified, .failed => true
  | .inconclusive, .passed | .inconclusive, .failed => true
  | _, _ => false

/-- mirrors evertrace-domain/src/work/attempt.rs:367-384; a resumed attempt becomes active again -/
def executionOk (old new : AttemptExecutionStatus) : Bool :=
  old == new || executionAllowed old new || (old == .interrupted && new == .active)

def adoptionOk (old new : AttemptAdoptionStatus) : Bool := old == new || adoptionAllowed old new

def verificationOk (old new : AttemptVerification) : Bool := old == new || verificationAllowed old new

/-- mirrors evertrace-domain/src/work/attempt.rs:419-421 -/
def lifecycleOk (old new : AttemptLifecycleStatus) : Bool := old == new || (old == .active && new == .superseded)

/-- `old.iter().all(|item| new.contains(item))` -/
def retains {α : Type} [DecidableEq α] (old new : List α) : Bool := old.all fun item => new.contains item

def adds {α : Type} [DecidableEq α] (old new : List α) : Bool := new.any fun item => !old.contains item

/-- mirrors `reopening`, attempt.rs:422-423 -/
def reopening (a b : Attempt) : Bool := a.executionStatus == .interrupted && b.executionStatus == .active

/-- mirrors `resume_ok`, attempt.rs:424-442 -/
def resumeOk (a b : Attempt) : Bool :=
  !reopening a b
    || (adds a.executionLaneIds b.executionLaneIds
      && adds a.resumeEventRefs b.resumeEventRefs
      && b.resumeTargetSnapshotId.isSome
      && (b.resumeStateAssessment == some .compatibleSameInstance
        || b.resumeStateAssessment == some .compatibleLineageTransfer))

/-- mirrors `worktree_growth_ok`, attempt.rs:443-447 -/
def worktreeGrowthOk (a b : Attempt) : Bool :=
  retains a.worktreeInstanceIds b.worktreeInstanceIds
    && (a.worktreeInstanceIds == b.worktreeInstanceIds || reopening a b)

/-- An episode is set once. mirrors attempt.rs:454-461 -/
def episodeOk : Option WorkEpisodeId → Option WorkEpisodeId → Bool
  | some old, some new => old == new
  | some _, none => false
  | none, _ => true

/-- mirrors evertrace-domain/src/work/attempt.rs:359-514 -/
def Attempt.validateSuccessor (H : Sha256) (a b : Attempt) : Except WorkError Unit := do
  a.validate H
  b.validate H
  let nextGeneration ← okOr .invalidWorkIdentity (checkedSucc 64 a.revisionGeneration)
  ensure .invalidWorkIdentity
    (b.attemptId == a.attemptId
      && b.revisionGeneration == nextGeneration
      && b.predecessorRevisionId == some a.revisionId
      && b.revisionId != a.revisionId
      && b.taskId == a.taskId
      && b.workstreamId == a.workstreamId
      && episodeOk a.episodeId b.episodeId
      && b.repositoryInstanceId == a.repositoryInstanceId
      && b.strategyContract == a.strategyContract
      && b.strategyContractFingerprint == a.strategyContractFingerprint
      && b.resumesFromAttemptId == a.resumesFromAttemptId
      && b.composedFromAttemptIds == a.composedFromAttemptIds
      && a.sourceWatermark < b.sourceWatermark
      && worktreeGrowthOk a b
      && retains a.executionLaneIds b.executionLaneIds
      && retains a.competingGroupIds b.competingGroupIds
      && retains a.worktreeTransitionRefs b.worktreeTransitionRefs
      && retains a.integrationEventRefs b.integrationEventRefs
      && retains a.workBindingRevisionRefs b.workBindingRevisionRefs
      && retains a.resumeEventRefs b.resumeEventRefs
      && retains a.localOutcomeRefs b.localOutcomeRefs
      && retains a.parentVerificationRefs b.parentVerificationRefs
      && retains a.outcomeRefs b.outcomeRefs
      && retains a.interruptionRefs b.interruptionRefs
      && retains a.explicitAbandonRefs b.explicitAbandonRefs
      && retains a.supersedeEvidenceRefs b.supersedeEvidenceRefs
      && executionOk a.executionStatus b.executionStatus
      && adoptionOk a.adoptionStatus b.adoptionStatus
      && verificationOk a.verification b.verification
      && lifecycleOk a.lifecycleStatus b.lifecycleStatus
      && resumeOk a b)

/-! ## The operations -/

/-- The errors the operations return.
mirrors evertrace-engine/src/work.rs:46-55 -/
inductive WorkIdentityError where
  | invalidInput
  deriving DecidableEq

/-- mirrors evertrace-engine/src/work/attempt.rs:26-30 -/
inductive AttemptResolution where
  | noDelta
  | revision (attempt : Attempt)
  deriving DecidableEq

/-- `next.validate().map_err(|_| WorkIdentityError::InvalidInput)?` and the new revision. -/
def recorded (H : Sha256) (next : Attempt) : Except WorkIdentityError AttemptResolution := do
  (next.validate H).mapError fun _ => .invalidInput
  return .revision next

/-- mirrors evertrace-engine/src/work/attempt.rs:164-177 -/
def successor (current : Attempt) (fresh : RevisionId) (sourceWatermark : Nat) : Except WorkIdentityError Attempt := do
  ensure .invalidInput (current.sourceWatermark < sourceWatermark)
  let generation ← okOr .invalidInput (checkedSucc 64 current.revisionGeneration)
  return { current with
    predecessorRevisionId := some current.revisionId
    revisionId := fresh
    revisionGeneration := generation
    sourceWatermark := sourceWatermark }

section

variable (H : Sha256) (current : Attempt) (fresh : RevisionId)

/-- mirrors evertrace-engine/src/work/attempt.rs:179-232 -/
def reviseExecution (status : AttemptExecutionStatus) (laneIds : List ExecutionLaneId) (interruptionRefs : List String)
    (interruptionReason : Option InterruptionReason) (explicitAbandonRefs : List String) (sourceWatermark : Nat) :
    Except WorkIdentityError AttemptResolution :=
  if current.executionStatus = status ∧ current.executionLaneIds = laneIds
      ∧ current.interruptionRefs = interruptionRefs ∧ current.interruptionReason = interruptionReason
      ∧ current.explicitAbandonRefs = explicitAbandonRefs then
    .ok .noDelta
  else do
    ensure .invalidInput (executionAllowed current.executionStatus status)
    let next ← successor current fresh sourceWatermark
    recorded H { next with
      executionStatus := status
      executionLaneIds := sortUnique (next.executionLaneIds ++ laneIds)
      interruptionRefs := sortUnique (next.interruptionRefs ++ interruptionRefs)
      interruptionReason := interruptionReason.or current.interruptionReason
      explicitAbandonRefs := sortUnique (next.explicitAbandonRefs ++ explicitAbandonRefs)
      outcomeState := if status = .interrupted then .unknown else next.outcomeState }

/-- mirrors evertrace-engine/src/work/attempt.rs:234-275 -/
def reviseAdoption (status : AttemptAdoptionStatus) (integrationEventRefs : List IntegrationEventId)
    (sourceWatermark : Nat) : Except WorkIdentityError AttemptResolution :=
  if current.adoptionStatus = status ∧ current.integrationEventRefs = integrationEventRefs then .ok .noDelta
  else do
    ensure .invalidInput (adoptionAllowed current.adoptionStatus status)
    let next ← successor current fresh sourceWatermark
    recorded H { next with
      adoptionStatus := status
      integrationEventRefs := sortUnique (next.integrationEventRefs ++ integrationEventRefs) }

/-- mirrors evertrace-engine/src/work/attempt.rs:277-312 -/
def reviseVerification (verification : AttemptVerification) (objectiveVerifierRefs : List String)
    (sourceWatermark : Nat) : Except WorkIdentityError AttemptResolution :=
  if current.verification = verification ∧ current.parentVerificationRefs = objectiveVerifierRefs then .ok .noDelta
  else do
    ensure .invalidInput (verificationAllowed current.verification verification)
    let next ← successor current fresh sourceWatermark
    recorded H { next with
      verification := verification
      parentVerificationRefs := sortUnique (next.parentVerificationRefs ++ objectiveVerifierRefs) }

/-- The evidence is replaced, where the other operations add to theirs.
mirrors evertrace-engine/src/work/attempt.rs:314-330 -/
def supersedeAttempt (evidenceRefs : List String) (sourceWatermark : Nat) :
    Except WorkIdentityError AttemptResolution :=
  if current.lifecycleStatus = .superseded ∧ current.supersedeEvidenceRefs = evidenceRefs then .ok .noDelta
  else do
    let next ← successor current fresh sourceWatermark
    recorded H { next with
      lifecycleStatus := .superseded
      supersedeEvidenceRefs := evidenceRefs }

/-- mirrors evertrace-engine/src/work/attempt.rs:332-372 -/
def resumeSameAttempt (newLaneId : ExecutionLaneId) (assessment : ResumeStateAssessment)
    (resumeEventRefs : List String) (sourceSnapshot : Option WorktreeSnapshotId) (targetSnapshot : WorktreeSnapshotId)
    (transitions : List WorktreeTransitionId) (sourceWatermark : Nat) :
    Except WorkIdentityError AttemptResolution := do
  ensure .invalidInput
    (current.executionStatus == .interrupted
      && current.verification != .failed
      && current.lifecycleStatus != .superseded
      && !current.executionLaneIds.contains newLaneId
      && (assessment == .compatibleSameInstance || assessment == .compatibleLineageTransfer))
  let next ← successor current fresh sourceWatermark
  recorded H { next with
    executionStatus := .active
    executionLaneIds := sortUnique (next.executionLaneIds ++ [newLaneId])
    resumeStateAssessment := some assessment
    resumeEventRefs := sortUnique (next.resumeEventRefs ++ resumeEventRefs)
    resumeSourceSnapshotId := sourceSnapshot
    resumeTargetSnapshotId := some targetSnapshot
    worktreeTransitionRefs := sortUnique (next.worktreeTransitionRefs ++ transitions) }

end

/-- An operation with its arguments, the watermark apart. -/
inductive AttemptOperation where
  | reviseExecution (status : AttemptExecutionStatus) (laneIds : List ExecutionLaneId)
      (interruptionRefs : List String) (interruptionReason : Option InterruptionReason)
      (explicitAbandonRefs : List String)
  | reviseAdoption (status : AttemptAdoptionStatus) (integrationEventRefs : List IntegrationEventId)
  | reviseVerification (verification : AttemptVerification) (objectiveVerifierRefs : List String)
  | supersede (evidenceRefs : List String)
  | resumeSame (newLaneId : ExecutionLaneId) (assessment : ResumeStateAssessment) (resumeEventRefs : List String)
      (sourceSnapshot : Option WorktreeSnapshotId) (targetSnapshot : WorktreeSnapshotId)
      (transitions : List WorktreeTransitionId)

def perform (H : Sha256) (current : Attempt) (fresh : RevisionId) (sourceWatermark : Nat) :
    AttemptOperation → Except WorkIdentityError AttemptResolution
  | .reviseExecution status lanes interruptions reason abandons =>
    reviseExecution H current fresh status lanes interruptions reason abandons sourceWatermark
  | .reviseAdoption status events => reviseAdoption H current fresh status events sourceWatermark
  | .reviseVerification verification verifiers =>
    reviseVerification H current fresh verification verifiers sourceWatermark
  | .supersede evidence => supersedeAttempt H current fresh evidence sourceWatermark
  | .resumeSame lane assessment events source target transitions =>
    resumeSameAttempt H current fresh lane assessment events source target transitions sourceWatermark

/-! ## What operations leave alone -/

/-- `b` is the next revision of the same piece of work: what no operation changes. -/
structure SameWork (a b : Attempt) : Prop where
  attempt : b.attemptId = a.attemptId
  generation : a.revisionGeneration + 1 < 2 ^ 64 ∧ b.revisionGeneration = a.revisionGeneration + 1
  predecessor : b.predecessorRevisionId = some a.revisionId
  revision : b.revisionId ≠ a.revisionId
  task : b.taskId = a.taskId
  workstream : b.workstreamId = a.workstreamId
  episode : b.episodeId = a.episodeId
  repository : b.repositoryInstanceId = a.repositoryInstanceId
  contract : b.strategyContract = a.strategyContract
  fingerprint : b.strategyContractFingerprint = a.strategyContractFingerprint
  resumesFrom : b.resumesFromAttemptId = a.resumesFromAttemptId
  composedFrom : b.composedFromAttemptIds = a.composedFromAttemptIds
  watermark : a.sourceWatermark < b.sourceWatermark
  worktrees : b.worktreeInstanceIds = a.worktreeInstanceIds
  groups : b.competingGroupIds = a.competingGroupIds
  bindings : b.workBindingRevisionRefs = a.workBindingRevisionRefs
  localOutcomes : b.localOutcomeRefs = a.localOutcomeRefs
  outcomes : b.outcomeRefs = a.outcomeRefs

/-- What `validateSuccessor` asks of the fields that operations change. -/
structure Follows (a b : Attempt) : Prop where
  lanes : retains a.executionLaneIds b.executionLaneIds = true
  transitions : retains a.worktreeTransitionRefs b.worktreeTransitionRefs = true
  integrations : retains a.integrationEventRefs b.integrationEventRefs = true
  resumeEvents : retains a.resumeEventRefs b.resumeEventRefs = true
  verifications : retains a.parentVerificationRefs b.parentVerificationRefs = true
  interruptions : retains a.interruptionRefs b.interruptionRefs = true
  abandons : retains a.explicitAbandonRefs b.explicitAbandonRefs = true
  supersedes : retains a.supersedeEvidenceRefs b.supersedeEvidenceRefs = true
  execution : executionOk a.executionStatus b.executionStatus = true
  adoption : adoptionOk a.adoptionStatus b.adoptionStatus = true
  verification : verificationOk a.verification b.verification = true
  lifecycle : lifecycleOk a.lifecycleStatus b.lifecycleStatus = true
  resume : resumeOk a b = true

@[simp] theorem retains_self {α : Type} [DecidableEq α] (l : List α) : retains l l = true := by
  simp [retains]

@[simp] theorem retains_sortUnique {α : Type} [LinearOrder α] [DecidableEq α] (l m : List α) :
    retains l (sortUnique (l ++ m)) = true := by
  simp only [retains, List.all_eq_true, List.contains_iff_mem, mem_sortUnique, List.mem_append]
  exact fun a ha => .inl ha

theorem episodeOk_self (e : Option WorkEpisodeId) : episodeOk e e = true := by
  cases e <;> simp [episodeOk]

/-- For the next revision of the same work, the successor check is about what changed. -/
theorem validateSuccessor_iff {H : Sha256} {a b : Attempt} (ha : a.validate H = .ok ()) (hb : b.validate H = .ok ())
    (h : SameWork a b) : a.validateSuccessor H b = .ok () ↔ Follows a b := by
  have hgeneration : checkedSucc 64 a.revisionGeneration = some (a.revisionGeneration + 1) :=
    checkedSucc_eq_some.mpr ⟨h.generation.1, rfl⟩
  have hgrowth : worktreeGrowthOk a b = true := by
    unfold worktreeGrowthOk
    rw [h.worktrees]
    simp
  have hrevision : (b.revisionId != a.revisionId) = true := bne_iff_ne.mpr h.revision
  unfold Attempt.validateSuccessor
  rw [ha, ok_bind, hb, ok_bind, hgeneration]
  simp only [okOr, ok_bind, ensure_ok, h.attempt, h.generation.2, h.predecessor, hrevision, h.task, h.workstream,
    h.episode, episodeOk_self, h.repository, h.contract, h.fingerprint, h.resumesFrom, h.composedFrom, h.watermark,
    hgrowth, h.groups, h.bindings, h.localOutcomes, h.outcomes, retains_self, beq_self_eq_true, decide_true,
    Bool.true_and, Bool.and_true, Bool.and_eq_true]
  constructor
  · rintro ⟨⟨⟨⟨⟨⟨⟨⟨⟨⟨⟨⟨h1, h2⟩, h3⟩, h4⟩, h5⟩, h6⟩, h7⟩, h8⟩, h9⟩, h10⟩, h11⟩, h12⟩, h13⟩
    exact ⟨h1, h2, h3, h4, h5, h6, h7, h8, h9, h10, h11, h12, h13⟩
  · rintro ⟨h1, h2, h3, h4, h5, h6, h7, h8, h9, h10, h11, h12, h13⟩
    exact ⟨⟨⟨⟨⟨⟨⟨⟨⟨⟨⟨⟨h1, h2⟩, h3⟩, h4⟩, h5⟩, h6⟩, h7⟩, h8⟩, h9⟩, h10⟩, h11⟩, h12⟩, h13⟩

/-! ## What an operation returns -/

/-- The record that `successor` starts from. -/
def nextOf (a : Attempt) (fresh : RevisionId) (sourceWatermark : Nat) : Attempt := { a with
  predecessorRevisionId := some a.revisionId
  revisionId := fresh
  revisionGeneration := a.revisionGeneration + 1
  sourceWatermark := sourceWatermark }

/-- A successor exists for a later watermark, as long as the generations last. -/
def Room (a : Attempt) (sourceWatermark : Nat) : Prop :=
  a.sourceWatermark < sourceWatermark ∧ a.revisionGeneration + 1 < 2 ^ 64

theorem successor_ok {a next : Attempt} {fresh : RevisionId} {w : Nat} :
    successor a fresh w = .ok next ↔ Room a w ∧ next = nextOf a fresh w := by
  unfold successor Room nextOf
  rw [ensure_bind_ok, decide_eq_true_eq]
  simp only [bind_eq_ok, okOr_ok, checkedSucc_eq_some, pure_eq_ok]
  constructor
  · rintro ⟨hw, _, ⟨hgen, rfl⟩, rfl⟩
    exact ⟨⟨hw, hgen⟩, rfl⟩
  · rintro ⟨⟨hw, hgen⟩, rfl⟩
    exact ⟨hw, _, ⟨hgen, rfl⟩, rfl⟩

theorem recorded_ok {H : Sha256} {next new : Attempt} :
    recorded H next = .ok (.revision new) ↔ new = next ∧ new.validate H = .ok () := by
  unfold recorded
  simp only [bind_eq_ok, mapError_ok, pure_eq_ok, AttemptResolution.revision.injEq]
  constructor
  · rintro ⟨_, hvalid, rfl⟩
    exact ⟨rfl, hvalid⟩
  · rintro ⟨rfl, hvalid⟩
    exact ⟨(), hvalid, rfl⟩

/-- The common end of the operations: change some fields of the successor and record it. -/
theorem changed_ok {H : Sha256} {a new : Attempt} {fresh : RevisionId} {w : Nat} {f : Attempt → Attempt} :
    (successor a fresh w >>= fun next => recorded H (f next)) = .ok (.revision new) ↔
      Room a w ∧ new = f (nextOf a fresh w) ∧ new.validate H = .ok () := by
  rw [bind_eq_ok]
  constructor
  · rintro ⟨next, hnext, hnew⟩
    obtain ⟨hroom, rfl⟩ := successor_ok.mp hnext
    obtain ⟨rfl, hvalid⟩ := recorded_ok.mp hnew
    exact ⟨hroom, rfl, hvalid⟩
  · rintro ⟨hroom, rfl, hvalid⟩
    exact ⟨_, successor_ok.mpr ⟨hroom, rfl⟩, recorded_ok.mpr ⟨rfl, hvalid⟩⟩

section

variable {H : Sha256} {a new : Attempt} {fresh : RevisionId} {w : Nat}

theorem reviseExecution_ok {status : AttemptExecutionStatus} {lanes : List ExecutionLaneId}
    {interruptions : List String} {reason : Option InterruptionReason} {abandons : List String}
    (h : reviseExecution H a fresh status lanes interruptions reason abandons w = .ok (.revision new)) :
    executionAllowed a.executionStatus status = true ∧ Room a w ∧ new.validate H = .ok () ∧
      new = { nextOf a fresh w with
        executionStatus := status
        executionLaneIds := sortUnique (a.executionLaneIds ++ lanes)
        interruptionRefs := sortUnique (a.interruptionRefs ++ interruptions)
        interruptionReason := reason.or a.interruptionReason
        explicitAbandonRefs := sortUnique (a.explicitAbandonRefs ++ abandons)
        outcomeState := if status = .interrupted then .unknown else a.outcomeState } := by
  unfold reviseExecution at h
  split at h
  · cases h
  · rw [ensure_bind_ok, changed_ok] at h
    exact ⟨h.1, h.2.1, h.2.2.2, h.2.2.1⟩

theorem reviseAdoption_ok {status : AttemptAdoptionStatus} {events : List IntegrationEventId}
    (h : reviseAdoption H a fresh status events w = .ok (.revision new)) :
    adoptionAllowed a.adoptionStatus status = true ∧ Room a w ∧ new.validate H = .ok () ∧
      new = { nextOf a fresh w with
        adoptionStatus := status
        integrationEventRefs := sortUnique (a.integrationEventRefs ++ events) } := by
  unfold reviseAdoption at h
  split at h
  · cases h
  · rw [ensure_bind_ok, changed_ok] at h
    exact ⟨h.1, h.2.1, h.2.2.2, h.2.2.1⟩

theorem reviseVerification_ok {verification : AttemptVerification} {verifiers : List String}
    (h : reviseVerification H a fresh verification verifiers w = .ok (.revision new)) :
    verificationAllowed a.verification verification = true ∧ Room a w ∧ new.validate H = .ok () ∧
      new = { nextOf a fresh w with
        verification := verification
        parentVerificationRefs := sortUnique (a.parentVerificationRefs ++ verifiers) } := by
  unfold reviseVerification at h
  split at h
  · cases h
  · rw [ensure_bind_ok, changed_ok] at h
    exact ⟨h.1, h.2.1, h.2.2.2, h.2.2.1⟩

theorem supersedeAttempt_ok {evidence : List String}
    (h : supersedeAttempt H a fresh evidence w = .ok (.revision new)) : Room a w ∧ new.validate H = .ok () ∧
      new = { nextOf a fresh w with
        lifecycleStatus := .superseded
        supersedeEvidenceRefs := evidence } := by
  unfold supersedeAttempt at h
  split at h
  · cases h
  · rw [changed_ok] at h
    exact ⟨h.1, h.2.2, h.2.1⟩

theorem resumeSameAttempt_ok {lane : ExecutionLaneId} {assessment : ResumeStateAssessment} {events : List String}
    {source : Option WorktreeSnapshotId} {target : WorktreeSnapshotId} {transitions : List WorktreeTransitionId}
    (h : resumeSameAttempt H a fresh lane assessment events source target transitions w = .ok (.revision new)) :
    (a.executionStatus = .interrupted ∧ lane ∉ a.executionLaneIds ∧
      (assessment = .compatibleSameInstance ∨ assessment = .compatibleLineageTransfer)) ∧
      Room a w ∧ new.validate H = .ok () ∧
      new = { nextOf a fresh w with
        executionStatus := .active
        executionLaneIds := sortUnique (a.executionLaneIds ++ [lane])
        resumeStateAssessment := some assessment
        resumeEventRefs := sortUnique (a.resumeEventRefs ++ events)
        resumeSourceSnapshotId := source
        resumeTargetSnapshotId := some target
        worktreeTransitionRefs := sortUnique (a.worktreeTransitionRefs ++ transitions) } := by
  unfold resumeSameAttempt at h
  rw [ensure_bind_ok, changed_ok] at h
  obtain ⟨hguard, hroom, hnew, hvalid⟩ := h
  simp only [Bool.and_eq_true, Bool.or_eq_true, beq_iff_eq, Bool.not_eq_true', List.contains_eq_mem,
    decide_eq_false_iff_not] at hguard
  obtain ⟨⟨⟨⟨hstatus, -⟩, -⟩, hlane⟩, hassessment⟩ := hguard
  exact ⟨⟨hstatus, hlane, hassessment⟩, hroom, hvalid, hnew⟩

theorem sameWork_of {b : Attempt} (hfresh : fresh ≠ a.revisionId) (hroom : Room a w)
    (hb : b = { nextOf a fresh w with
      executionLaneIds := b.executionLaneIds
      executionStatus := b.executionStatus
      adoptionStatus := b.adoptionStatus
      verification := b.verification
      lifecycleStatus := b.lifecycleStatus
      resumeEventRefs := b.resumeEventRefs
      resumeStateAssessment := b.resumeStateAssessment
      resumeSourceSnapshotId := b.resumeSourceSnapshotId
      resumeTargetSnapshotId := b.resumeTargetSnapshotId
      worktreeTransitionRefs := b.worktreeTransitionRefs
      integrationEventRefs := b.integrationEventRefs
      parentVerificationRefs := b.parentVerificationRefs
      outcomeState := b.outcomeState
      interruptionRefs := b.interruptionRefs
      interruptionReason := b.interruptionReason
      explicitAbandonRefs := b.explicitAbandonRefs
      supersedeEvidenceRefs := b.supersedeEvidenceRefs }) : SameWork a b := by
  obtain ⟨hw, hgen⟩ := hroom
  rw [hb]
  exact ⟨rfl, ⟨hgen, rfl⟩, rfl, hfresh, rfl, rfl, rfl, rfl, rfl, rfl, rfl, rfl, hw, rfl, rfl, rfl, rfl, rfl⟩

/-- **No operation touches the identity of the work.** -/
theorem perform_sameWork {op : AttemptOperation} (hfresh : fresh ≠ a.revisionId)
    (h : perform H a fresh w op = .ok (.revision new)) : SameWork a new ∧ new.validate H = .ok () := by
  cases op with
  | reviseExecution status lanes interruptions reason abandons =>
    obtain ⟨-, hroom, hvalid, hnew⟩ := reviseExecution_ok h
    exact ⟨sameWork_of hfresh hroom (by rw [hnew]), hvalid⟩
  | reviseAdoption status events =>
    obtain ⟨-, hroom, hvalid, hnew⟩ := reviseAdoption_ok h
    exact ⟨sameWork_of hfresh hroom (by rw [hnew]), hvalid⟩
  | reviseVerification verification verifiers =>
    obtain ⟨-, hroom, hvalid, hnew⟩ := reviseVerification_ok h
    exact ⟨sameWork_of hfresh hroom (by rw [hnew]), hvalid⟩
  | supersede evidence =>
    obtain ⟨hroom, hvalid, hnew⟩ := supersedeAttempt_ok h
    exact ⟨sameWork_of hfresh hroom (by rw [hnew]), hvalid⟩
  | resumeSame lane assessment events source target transitions =>
    obtain ⟨-, hroom, hvalid, hnew⟩ := resumeSameAttempt_ok h
    exact ⟨sameWork_of hfresh hroom (by rw [hnew]), hvalid⟩

/-! ## What may follow an operation -/

/-- The operation adds to the evidence of the attempt, and drops nothing. -/
def KeepsEvidence (current : Attempt) : AttemptOperation → Prop
  | .supersede evidence => ∀ r ∈ current.supersedeEvidenceRefs, r ∈ evidence
  | .resumeSame _ _ events _ _ _ => ∃ r ∈ events, r ∉ current.resumeEventRefs
  | .reviseExecution _ _ _ _ _ | .reviseAdoption _ _ | .reviseVerification _ _ => True

instance (current : Attempt) (op : AttemptOperation) : Decidable (KeepsEvidence current op) := by
  cases op <;> unfold KeepsEvidence <;> infer_instance

theorem adds_sortUnique {α : Type} [LinearOrder α] [DecidableEq α] {l m : List α} :
    adds l (sortUnique (l ++ m)) = true ↔ ∃ x ∈ m, x ∉ l := by
  simp only [adds, List.any_eq_true, mem_sortUnique, List.mem_append, Bool.not_eq_true', List.contains_eq_mem,
    decide_eq_false_iff_not]
  constructor
  · rintro ⟨x, hx, hnot⟩
    exact ⟨x, hx.resolve_left hnot, hnot⟩
  · rintro ⟨x, hm, hnot⟩
    exact ⟨x, .inr hm, hnot⟩

theorem reopening_of_ne {a b : Attempt} (h : b.executionStatus ≠ .active ∨ a.executionStatus ≠ .interrupted) :
    resumeOk a b = true := by
  have hno : reopening a b = false := by
    unfold reopening
    rcases h with h | h
    · simp [h]
    · simp [h]
  rw [resumeOk, hno]
  rfl

theorem executionAllowed_ne {old new : AttemptExecutionStatus} (h : executionAllowed old new = true) :
    old ≠ new ∧ (new ≠ .active ∨ old ≠ .interrupted) := by
  revert h
  cases old <;> cases new <;> simp [executionAllowed]

theorem adoptionAllowed_ne {old new : AttemptAdoptionStatus} (h : adoptionAllowed old new = true) : old ≠ new := by
  revert h
  cases old <;> cases new <;> simp [adoptionAllowed]

theorem verificationAllowed_ne {old new : AttemptVerification} (h : verificationAllowed old new = true) :
    old ≠ new := by
  revert h
  cases old <;> cases new <;> simp [verificationAllowed]

/-- Of the successor rule, only the evidence of the two operations is left to check. -/
theorem follows_iff {op : AttemptOperation} (h : perform H a fresh w op = .ok (.revision new)) :
    Follows a new ↔ KeepsEvidence a op := by
  have hstatus : ∀ s : AttemptExecutionStatus, s ≠ .active ∨ s ≠ .interrupted := by
    intro s
    cases s <;> simp
  cases op with
  | reviseExecution status lanes interruptions reason abandons =>
    obtain ⟨hallowed, -, -, hnew⟩ := reviseExecution_ok h
    subst hnew
    refine iff_of_true ?_ trivial
    have hexecution : executionOk a.executionStatus status = true := by
      unfold executionOk
      rw [hallowed, Bool.or_true, Bool.true_or]
    exact ⟨retains_sortUnique _ _, retains_self _, retains_self _, retains_self _, retains_self _,
      retains_sortUnique _ _, retains_sortUnique _ _, retains_self _, hexecution, by simp [adoptionOk, nextOf],
      by simp [verificationOk, nextOf], by simp [lifecycleOk, nextOf],
      reopening_of_ne (executionAllowed_ne hallowed).2⟩
  | reviseAdoption status events =>
    obtain ⟨hallowed, -, -, hnew⟩ := reviseAdoption_ok h
    subst hnew
    refine iff_of_true ?_ trivial
    have hadoption : adoptionOk a.adoptionStatus status = true := by
      unfold adoptionOk
      rw [hallowed, Bool.or_true]
    exact ⟨retains_self _, retains_self _, retains_sortUnique _ _, retains_self _, retains_self _, retains_self _,
      retains_self _, retains_self _, by simp [executionOk, nextOf], hadoption, by simp [verificationOk, nextOf],
      by simp [lifecycleOk, nextOf], reopening_of_ne (hstatus _)⟩
  | reviseVerification verification verifiers =>
    obtain ⟨hallowed, -, -, hnew⟩ := reviseVerification_ok h
    subst hnew
    refine iff_of_true ?_ trivial
    have hverification : verificationOk a.verification verification = true := by
      unfold verificationOk
      rw [hallowed, Bool.or_true]
    exact ⟨retains_self _, retains_self _, retains_self _, retains_self _, retains_sortUnique _ _, retains_self _,
      retains_self _, retains_self _, by simp [executionOk, nextOf], by simp [adoptionOk, nextOf], hverification,
      by simp [lifecycleOk, nextOf], reopening_of_ne (hstatus _)⟩
  | supersede evidence =>
    obtain ⟨-, -, hnew⟩ := supersedeAttempt_ok h
    subst hnew
    have hlifecycle : lifecycleOk a.lifecycleStatus .superseded = true := by
      cases a.lifecycleStatus <;> decide
    have hretains : retains a.supersedeEvidenceRefs evidence = true ↔ ∀ r ∈ a.supersedeEvidenceRefs, r ∈ evidence := by
      simp [retains]
    constructor
    · intro hfollows
      exact hretains.mp hfollows.supersedes
    · intro hkeeps
      exact ⟨retains_self _, retains_self _, retains_self _, retains_self _, retains_self _, retains_self _,
        retains_self _, hretains.mpr hkeeps, by simp [executionOk, nextOf], by simp [adoptionOk, nextOf],
        by simp [verificationOk, nextOf], hlifecycle, reopening_of_ne (hstatus _)⟩
  | resumeSame lane assessment events source target transitions =>
    obtain ⟨⟨hinterrupted, hlane, hassessment⟩, -, -, hnew⟩ := resumeSameAttempt_ok h
    subst hnew
    have hexecution : executionOk a.executionStatus .active = true := by
      rw [hinterrupted]
      decide
    have hlanes : adds a.executionLaneIds (sortUnique (a.executionLaneIds ++ [lane])) = true :=
      adds_sortUnique.mpr ⟨lane, List.mem_singleton_self lane, hlane⟩
    have hresume : resumeOk a { nextOf a fresh w with
        executionStatus := .active
        executionLaneIds := sortUnique (a.executionLaneIds ++ [lane])
        resumeStateAssessment := some assessment
        resumeEventRefs := sortUnique (a.resumeEventRefs ++ events)
        resumeSourceSnapshotId := source
        resumeTargetSnapshotId := some target
        worktreeTransitionRefs := sortUnique (a.worktreeTransitionRefs ++ transitions) } = true ↔
        ∃ r ∈ events, r ∉ a.resumeEventRefs := by
      rw [← adds_sortUnique]
      unfold resumeOk reopening
      rcases hassessment with rfl | rfl <;> simp [hinterrupted, hlanes]
    constructor
    · intro hfollows
      exact hresume.mp hfollows.resume
    · intro hkeeps
      exact ⟨retains_sortUnique _ _, retains_sortUnique _ _, retains_self _, retains_sortUnique _ _, retains_self _,
        retains_self _, retains_self _, retains_self _, hexecution, by simp [adoptionOk, nextOf],
        by simp [verificationOk, nextOf], by simp [lifecycleOk, nextOf], hresume.mpr hkeeps⟩

end

/-! ## A sample -/

def sampleContract : StrategyContract where
  hypothesis := "h"
  intervention := "i"
  interventionFamily := "f"
  searchPolicyRef := none
  objectiveRef := none
  expectedEffect := "e"
  targetRefs := []
  acceptanceBoundaryRef := "b"

/-- `strategy_contract_fingerprint` of the sample contract. -/
def sampleFingerprint (H : Sha256) : Digest := ((sampleContract.fingerprint H).toOption).getD (H.hash [])

/-- An attempt that was resumed once and interrupted again. -/
def sampleAttempt (fingerprint : Digest) : Attempt where
  attemptId := ⟨1⟩
  revisionId := ⟨2⟩
  predecessorRevisionId := some ⟨3⟩
  revisionGeneration := 4
  taskId := ⟨4⟩
  workstreamId := ⟨5⟩
  episodeId := none
  repositoryInstanceId := none
  worktreeInstanceIds := []
  executionLaneIds := [⟨6⟩]
  competingGroupIds := []
  experimentRunIds := []
  executionStatus := .interrupted
  adoptionStatus := .none
  verification := .unverified
  lifecycleStatus := .active
  strategyContract := sampleContract
  strategyContractFingerprint := fingerprint
  resumesFromAttemptId := none
  composedFromAttemptIds := []
  resumeEventRefs := ["resume:1"]
  resumeStateAssessment := some .compatibleSameInstance
  resumeSourceSnapshotId := none
  resumeTargetSnapshotId := some ⟨7⟩
  worktreeTransitionRefs := []
  integrationEventRefs := []
  recoveryBundleRefs := []
  recoveryApplicationRefs := []
  workBindingRevisionRefs := []
  localOutcomeRefs := []
  parentVerificationRefs := []
  outcomeRefs := []
  outcomeState := .unknown
  interruptionRefs := ["terminal:1"]
  interruptionReason := some .crashed
  explicitAbandonRefs := []
  supersedeEvidenceRefs := []
  failureSignature := none
  sourceWatermark := 9

theorem sampleContract_fingerprint (H : Sha256) : sampleContract.fingerprint H = .ok (sampleFingerprint H) := by
  have hencodes : ∃ e, Canonical.encode "evertrace_attempt_strategy_contract" 1 (.map
      [("acceptance_boundary_ref", .string "b"), ("expected_effect", .string "e"), ("hypothesis", .string "h"),
        ("intervention", .string "i"), ("intervention_family", .string "f"), ("objective_ref", .null),
        ("search_policy_ref", .null), ("target_refs", .sequence [])]) = .ok e := ⟨_, rfl⟩
  obtain ⟨e, he⟩ := hencodes
  have hvalid : sampleContract.validate = .ok () := by decide
  have hfp : sampleContract.fingerprint H = .ok (H.hash e) := by
    unfold StrategyContract.fingerprint
    rw [hvalid, ok_bind]
    unfold Canonical.sha256
    exact congrArg (fun x => (Except.mapError _ (x >>= fun encoded => pure (H.hash encoded)))) he
  unfold sampleFingerprint
  rw [hfp]
  rfl

/-- The hash is no obstacle: a record with the contract's fingerprint validates if its shape is right. -/
theorem validate_of_shape {H : Sha256} {a : Attempt} (hc : a.strategyContract = sampleContract)
    (hf : a.strategyContractFingerprint = sampleFingerprint H) (hs : a.shapeOk = true) : a.validate H = .ok () := by
  have hvalid : sampleContract.validate = .ok () := by decide
  unfold Attempt.validate
  rw [hc, hvalid, ok_bind, sampleContract_fingerprint, ok_bind, hf, hs, beq_self_eq_true]
  rfl

theorem sampleAttempt_valid (H : Sha256) : (sampleAttempt (sampleFingerprint H)).validate H = .ok () :=
  validate_of_shape rfl rfl rfl

end EverTrace.L2.AttemptRevision
