import EverTrace.L2Machine.OperationBurst
import EverTrace.L2Machine.WorkEpisode
/-!
# Activity tokens (`evertrace-engine/src/segmentation/token.rs`)

A token is one observed operation together with everything segmentation needs
to know about it. `compileChecked` builds it from the current records of the
store and rejects an operation whose records do not fit together.

The store's view is the set of its lookups; a record keeps the fields that
`compileChecked` reads.
-/
namespace EverTrace.L2.Segmentation
open EverTrace.Lib EverTrace.L1 EverTrace.L2.Work

/-- mirrors evertrace-domain/src/evidence.rs:1034-1049 -/
structure Operation where
  hostOccurrenceId : HostOccurrenceId
  executionLaneId : Option ExecutionLaneId
  operationKind : OperationKind
  inputSourceObservationRefs : List SourceObservationId
  resultSourceObservationRefs : List SourceObservationId
  scopeEffectIds : List ScopeEffectId
  artifactRefs : List WorkArtifactId
  operationRevision : Nat

/-- mirrors evertrace-domain/src/evidence.rs:900-918 -/
structure HostOccurrence where
  hostOccurrenceId : HostOccurrenceId
  correlationStrength : CorrelationStrength
  sourceObservationRefs : List SourceObservationId
  normalizationState : NormalizationState
  possibleDuplicateGroupId : Option DuplicateGroupId

/-- mirrors evertrace-domain/src/evidence.rs:1106-1117 -/
structure ScopeEffect where
  operationId : OperationId
  effectRole : EffectRole
  experimentRunIds : List ExperimentRunId
  artifactRefs : List WorkArtifactId
  evidenceRefs : List SourceObservationId

/-- mirrors evertrace-domain/src/work/binding.rs:98-109 -/
structure WorkBindingRevision where
  workBindingRevisionId : WorkBindingRevisionId
  operationId : OperationId
  primaryBinding : PrimaryWorkBinding
  assignmentStatus : AssignmentStatus

/-- mirrors evertrace-domain/src/work/workstream.rs:82-103 -/
structure Workstream where
  worktreeLineageRefs : List String
  activeEpisodeId : Option WorkEpisodeId

/-- mirrors evertrace-domain/src/work.rs:220-252 -/
structure ExecutionLane where
  executionLaneId : ExecutionLaneId
  hostSessionId : String
  agentId : String
  parentLaneId : Option ExecutionLaneId
  activeCaptureReceiptRevisionId : CaptureReceiptId
  operationIds : List OperationId

/-- mirrors evertrace-domain/src/work/attempt.rs:207-247 -/
structure Attempt where
  attemptId : AttemptId
  revisionId : RevisionId
  taskId : TaskId
  workstreamId : WorkstreamId
  episodeId : Option WorkEpisodeId
  executionLaneIds : List ExecutionLaneId
  competingGroupIds : List CompetingAttemptGroupId
  experimentRunIds : List ExperimentRunId
  /-- `strategy_contract.target_refs` -/
  strategyTargetRefs : List String
  strategyContractFingerprint : Digest
  worktreeTransitionRefs : List WorktreeTransitionId
  integrationEventRefs : List IntegrationEventId

/-- mirrors evertrace-domain/src/work/attempt.rs:558-578 -/
structure CompetingAttemptGroup where
  memberAttemptIds : List AttemptId
  targetRefs : List String

/-- The lookups of the store's authority view.
mirrors evertrace-store/src/projections/segmentation.rs:343-355 -/
structure SegmentationCurrentView where
  occurrence : HostOccurrenceId → Option HostOccurrence
  operation : OperationId → Option Operation
  binding : OperationId → Option WorkBindingRevision
  lane : ExecutionLaneId → Option ExecutionLane
  receipt : CaptureReceiptId → Option CaptureReceipt
  scopeEffect : ScopeEffectId → Option ScopeEffect
  attempt : AttemptId → Option Attempt
  group : CompetingAttemptGroupId → Option CompetingAttemptGroup
  episode : WorkEpisodeId → Option WorkEpisode
  workstream : WorkstreamId → Option Workstream

/-- mirrors evertrace-engine/src/segmentation/detector.rs:92-99 -/
inductive DetectorError where
  | ineligible
  | watermarkRegression
  | pendingTransition
  deriving DecidableEq, Repr

/-- mirrors evertrace-engine/src/segmentation/token.rs:25-38 -/
inductive BoundaryEvidence where
  | none
  | materialGoal
  | phaseTransition
  | targetFamily
  | acceptanceSatisfied
  | acceptanceAbandoned
  | acceptanceReplaced
  | explicitPhaseComplete
  | explicitPhaseAbandon
  | explicitSupersede
  | objectiveOutcomeClosure
  | recoverPhaseExit
  deriving DecidableEq, Repr

/-- mirrors evertrace-engine/src/segmentation/token.rs:41-43 -/
def BoundaryEvidence.objective (e : BoundaryEvidence) : Bool := e != .none

/-- mirrors evertrace-engine/src/segmentation/token.rs:47-57 -/
structure SegmentationFacts where
  sequence : Nat
  sourceWatermark : Nat
  targetFamily : String
  stateDelta : OperationStateDelta
  errorSignature : Option String
  verifierTransition : OperationVerifierDelta
  observedPhaseKind : Option PhaseKind
  boundaryEvidence : BoundaryEvidence
  evidenceRefs : List SourceObservationId

/-- mirrors evertrace-engine/src/segmentation/token.rs:60-97 -/
structure ActivityToken where
  sequence : Nat
  sourceWatermark : Nat
  operationId : OperationId
  operationRevision : Nat
  hostOccurrenceId : HostOccurrenceId
  workBindingRevisionId : WorkBindingRevisionId
  primaryBinding : PrimaryWorkBinding
  taskId : TaskId
  workstreamId : WorkstreamId
  episodeId : WorkEpisodeId
  attemptId : Option AttemptId
  attemptRevisionId : Option RevisionId
  experimentRunId : Option ExperimentRunId
  competingGroupId : Option CompetingAttemptGroupId
  executionLaneId : ExecutionLaneId
  parentLaneId : Option ExecutionLaneId
  subagentId : Option String
  operationKind : OperationKind
  targetRefs : List String
  scopeEffectRefs : List ScopeEffectId
  worktreeLineageRefs : List String
  artifactRefs : List WorkArtifactId
  sideEffects : List EffectRole
  sourceObservationRefs : List SourceObservationId
  strategyContractFingerprint : Option Digest
  worktreeTransitionRefs : List WorktreeTransitionId
  integrationEventRefs : List IntegrationEventId
  targetFamily : String
  stateDelta : OperationStateDelta
  errorSignature : Option String
  verifierTransition : OperationVerifierDelta
  observedPhaseKind : Option PhaseKind
  boundaryEvidence : BoundaryEvidence
  boundaryEvidenceRefs : List SourceObservationId
  sessionId : String
  captureReceipt : CaptureReceipt
  deriving DecidableEq

/-- mirrors evertrace-engine/src/segmentation/token.rs:387-389 -/
def validText (value : String) : Bool := boundedBy 512 value

/-- An attempt that does not belong where the operation is bound.
mirrors evertrace-engine/src/segmentation/token.rs:186-196 -/
def attemptMisplaced (episode : WorkEpisode) (episodeId : WorkEpisodeId) (laneId : ExecutionLaneId)
    (competingGroupId : Option CompetingAttemptGroupId) (experimentRunId : Option ExperimentRunId)
    (value : Attempt) : Bool :=
  value.taskId != episode.taskId
    || value.workstreamId != episode.workstreamId
    || value.episodeId != some episodeId
    || !episode.attemptIds.contains value.attemptId
    || !value.executionLaneIds.contains laneId
    || competingGroupId.any (fun id => !value.competingGroupIds.contains id)
    || experimentRunId.any (fun id => !value.experimentRunIds.contains id)
    || (!value.competingGroupIds.isEmpty && competingGroupId.isNone)
    || (!value.experimentRunIds.isEmpty && experimentRunId.isNone)

/-- A competing group the attempt is not a member of. -/
def groupMisplaced (attempt : Option Attempt) (value : CompetingAttemptGroup) : Bool :=
  match attempt with
  | some attempt => !value.memberAttemptIds.contains attempt.attemptId
  | none => true

/-- `id.map(|id| view.lookup(id).ok_or(Ineligible)).transpose()` -/
def lookupBound {ι α : Type} (lookup : ι → Option α) : Option ι → Except DetectorError (Option α)
  | some id => do return some (← okOr .ineligible (lookup id))
  | none => return none

/-- mirrors evertrace-engine/src/segmentation/token.rs:100-273 -/
def ActivityToken.compileChecked (view : SegmentationCurrentView) (operationId : OperationId)
    (episodeId : WorkEpisodeId) (facts : SegmentationFacts) : Except DetectorError ActivityToken := do
  let operation ← okOr .ineligible (view.operation operationId)
  let occurrence ← okOr .ineligible (view.occurrence operation.hostOccurrenceId)
  let binding ← okOr .ineligible (view.binding operationId)
  let episode ← okOr .ineligible (view.episode episodeId)
  let workstream ← okOr .ineligible (view.workstream episode.workstreamId)
  let laneId ← okOr .ineligible operation.executionLaneId
  let lane ← okOr .ineligible (view.lane laneId)
  let receipt ← okOr .ineligible (view.receipt lane.activeCaptureReceiptRevisionId)
  let effects ← operation.scopeEffectIds.mapM fun id => okOr .ineligible (view.scopeEffect id)
  let attempt ← lookupBound view.attempt binding.primaryBinding.attemptId
  let competingGroupId := binding.primaryBinding.competingGroupId
  let experimentRunId := binding.primaryBinding.experimentRunId
  let group ← lookupBound view.group competingGroupId
  let admissible := sortUnique (operation.inputSourceObservationRefs ++ operation.resultSourceObservationRefs
    ++ effects.flatMap (·.evidenceRefs))
  let evidenceRefs := sortUnique facts.evidenceRefs
  let claimsSemantics := facts.boundaryEvidence != .none || facts.verifierTransition != .none
    || facts.observedPhaseKind.isSome
  if occurrence.correlationStrength != .exact
      || occurrence.normalizationState == .normalizationConflicted
      || occurrence.possibleDuplicateGroupId.isSome
      || operation.executionLaneId != some lane.executionLaneId
      || !lane.operationIds.contains operationId
      || binding.operationId != operationId
      || binding.assignmentStatus != .resolved
      || binding.primaryBinding.taskId != some episode.taskId
      || binding.primaryBinding.workstreamId != some episode.workstreamId
      || binding.primaryBinding.episodeId != some episodeId
      || workstream.activeEpisodeId != some episodeId
      || lane.activeCaptureReceiptRevisionId != receipt.captureReceiptRevisionId
      || receipt.executionLaneId != laneId
      || facts.sourceWatermark < receipt.importWatermark
      || facts.sequence == 0
      || facts.sourceWatermark == 0
      || !validText facts.targetFamily
      || facts.errorSignature.any (fun value => !validText value)
      || (claimsSemantics && evidenceRefs.isEmpty)
      || evidenceRefs.any (fun reference => !admissible.contains reference)
      || effects.any (fun effect => effect.operationId != operationId)
      || attempt.any (attemptMisplaced episode episodeId laneId competingGroupId experimentRunId)
      || group.any (groupMisplaced attempt)
      || effects.any (fun effect => effect.experimentRunIds.any fun id => some id != experimentRunId) then
    .error .ineligible
  else return {
    sequence := facts.sequence
    sourceWatermark := facts.sourceWatermark
    operationId
    operationRevision := operation.operationRevision
    hostOccurrenceId := occurrence.hostOccurrenceId
    workBindingRevisionId := binding.workBindingRevisionId
    primaryBinding := binding.primaryBinding
    taskId := episode.taskId
    workstreamId := episode.workstreamId
    episodeId
    attemptId := attempt.map (·.attemptId)
    attemptRevisionId := attempt.map (·.revisionId)
    experimentRunId
    competingGroupId
    executionLaneId := laneId
    parentLaneId := lane.parentLaneId
    subagentId := lane.parentLaneId.map fun _ => lane.agentId
    operationKind := operation.operationKind
    targetRefs := sortUnique (episode.phaseContract.primaryTargets
      ++ (attempt.map (·.strategyTargetRefs)).getD [] ++ (group.map (·.targetRefs)).getD [])
    scopeEffectRefs := operation.scopeEffectIds
    worktreeLineageRefs := workstream.worktreeLineageRefs
    artifactRefs := sortUnique (operation.artifactRefs ++ effects.flatMap (·.artifactRefs))
    sideEffects := sortUnique (effects.map (·.effectRole))
    sourceObservationRefs := sortUnique (occurrence.sourceObservationRefs ++ admissible)
    strategyContractFingerprint := attempt.map (·.strategyContractFingerprint)
    worktreeTransitionRefs := (attempt.map (·.worktreeTransitionRefs)).getD []
    integrationEventRefs := (attempt.map (·.integrationEventRefs)).getD []
    targetFamily := facts.targetFamily
    stateDelta := facts.stateDelta
    errorSignature := facts.errorSignature
    verifierTransition := facts.verifierTransition
    observedPhaseKind := facts.observedPhaseKind
    boundaryEvidence := facts.boundaryEvidence
    boundaryEvidenceRefs := evidenceRefs
    sessionId := lane.hostSessionId
    captureReceipt := receipt }

/-- What an accepted operation tells about its token. -/
structure Compiled (view : SegmentationCurrentView) (episodeId : WorkEpisodeId) (episode : WorkEpisode)
    (token : ActivityToken) : Prop where
  sameEpisode : token.episodeId = episodeId
  sameTask : token.taskId = episode.taskId
  sameWorkstream : token.workstreamId = episode.workstreamId
  watermark : token.sourceWatermark ≠ 0
  evidenceOrdered : token.boundaryEvidenceRefs.Pairwise (· < ·)
  evidenceObserved : ∀ id ∈ token.boundaryEvidenceRefs, id ∈ token.sourceObservationRefs
  evidenceNonempty : token.boundaryEvidence ≠ .none ∨ token.observedPhaseKind.isSome = true →
    token.boundaryEvidenceRefs ≠ []
  attemptKnown : ∀ id, token.attemptId = some id → id ∈ episode.attemptIds
  receiptLane : token.captureReceipt.executionLaneId = token.executionLaneId
  receiptCurrent : ∃ lane, view.lane token.executionLaneId = some lane ∧
    lane.activeCaptureReceiptRevisionId = token.captureReceipt.captureReceiptRevisionId ∧
    view.receipt token.captureReceipt.captureReceiptRevisionId = some token.captureReceipt
  receiptWatermark : token.captureReceipt.importWatermark ≤ token.sourceWatermark

theorem compileChecked_ok {view : SegmentationCurrentView} {operationId : OperationId}
    {episodeId : WorkEpisodeId} {facts : SegmentationFacts} {episode : WorkEpisode} {token : ActivityToken}
    (hepisode : view.episode episodeId = some episode)
    (h : ActivityToken.compileChecked view operationId episodeId facts = .ok token) :
    Compiled view episodeId episode token := by
  unfold ActivityToken.compileChecked at h
  obtain ⟨operation, -, h⟩ := bind_eq_ok.mp h
  obtain ⟨occurrence, -, h⟩ := bind_eq_ok.mp h
  obtain ⟨binding, -, h⟩ := bind_eq_ok.mp h
  obtain ⟨found, hfound, h⟩ := bind_eq_ok.mp h
  obtain ⟨workstream, -, h⟩ := bind_eq_ok.mp h
  obtain ⟨laneId, -, h⟩ := bind_eq_ok.mp h
  obtain ⟨lane, hlane, h⟩ := bind_eq_ok.mp h
  obtain ⟨receipt, hreceipt, h⟩ := bind_eq_ok.mp h
  obtain ⟨effects, -, h⟩ := bind_eq_ok.mp h
  obtain ⟨attempt, -, h⟩ := bind_eq_ok.mp h
  obtain ⟨group, -, h⟩ := bind_eq_ok.mp h
  rw [okOr_ok] at hfound hlane hreceipt
  obtain rfl : found = episode := Option.some.inj (hfound.symm.trans hepisode)
  obtain ⟨hchecks, htoken⟩ := ite_error_else.mp h
  cases htoken
  simp only [Bool.not_eq_true, Bool.or_eq_false_iff, Bool.and_eq_false_iff, bne_eq_false_iff_eq,
    beq_eq_false_iff_ne, decide_eq_false_iff_not, Nat.not_lt, List.any_eq_false, Bool.not_eq_true',
    Bool.not_eq_false, List.contains_iff_mem, and_assoc] at hchecks
  obtain ⟨-, -, -, -, -, -, -, -, -, -, -, hactive, hlaneId, himport, -, hwatermark, -, -, hsemantics,
    hadmissible, -, hattempt, -⟩ := hchecks
  refine ⟨rfl, rfl, rfl, hwatermark, sortUnique_pairwise _, fun id hid => ?_, fun hclaims => ?_, ?_, hlaneId,
    ⟨lane, hlane, hactive, hactive ▸ hreceipt⟩, himport⟩
  · exact mem_sortUnique.mpr (List.mem_append_right _ (hadmissible id hid))
  · rcases hsemantics with hnone | hne
    · rcases hclaims with h | h
      · exact absurd hnone.1 h
      · exact absurd hnone.2.2 (by simp [h])
    · simpa using hne
  · intro id hid
    cases hcase : attempt with
    | none => rw [hcase] at hid; cases hid
    | some value =>
      rw [hcase] at hid hattempt
      obtain rfl : value.attemptId = id := Option.some.inj hid
      simp only [Option.any_some, attemptMisplaced, Bool.or_eq_false_iff, and_assoc] at hattempt
      obtain ⟨-, -, -, hmember, -⟩ := hattempt
      simpa using hmember

theorem compileChecked_watermark {view : SegmentationCurrentView} {operationId : OperationId}
    {episodeId : WorkEpisodeId} {facts : SegmentationFacts} {token : ActivityToken}
    (h : ActivityToken.compileChecked view operationId episodeId facts = .ok token) :
    token.sourceWatermark = facts.sourceWatermark := by
  unfold ActivityToken.compileChecked at h
  simp only [bind_eq_ok] at h
  obtain ⟨_, _, _, _, _, _, _, _, _, _, _, _, _, _, _, _, _, _, _, _, _, _, h⟩ := h
  obtain ⟨-, h⟩ := ite_error_else.mp h
  cases h
  rfl

end EverTrace.L2.Segmentation
