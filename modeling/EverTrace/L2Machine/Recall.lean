import EverTrace.L1Encoding.Canonical
import EverTrace.L2Machine.Work
/-!
# Recall needs and ledger events (`evertrace-domain/src/recall.rs`)

A recall need is an obligation to show something to an agent. It carries
three axes: delivery (is it presented), agent response (was it retrieved) and
obligation (is it still due). Events move them; `validate` is the predicate a
stored need must satisfy to be read back.

Timestamps are `i64`, watermarks `u64`. The need hash and the plan
fingerprint are SHA-256 digests of canonical values.
-/
namespace EverTrace.L2.Recall
open EverTrace.Lib EverTrace.L1 EverTrace.L1.Canonical EverTrace.L2.Work

def maxRecallRefs : Nat := 32

def maxRecallText : Nat := 512

/-- mirrors evertrace-domain/src/recall.rs:23-31 -/
inductive RecallDeliveryState where
  | detected
  | scheduled
  | claimedForBoundary
  | emitted
  | hostPresented
  | presentationUnknown
  | failedPreEmit
  deriving DecidableEq, Repr

/-- mirrors evertrace-domain/src/recall.rs:35-44 -/
inductive RecallAgentResponse where
  | notRetrieved
  | retrievalClaimed
  | retrievalReturned
  | retrievalUnknown
  | adopted
  | ignored
  | dismissed
  | unobservable
  deriving DecidableEq, Repr

/-- mirrors evertrace-domain/src/recall.rs:48-54 -/
inductive RecallObligationState where
  | active
  | resolved
  | superseded
  | canceled
  | expired
  deriving DecidableEq, Repr

/-- mirrors evertrace-domain/src/recall.rs:58-64 -/
inductive PresentationAttemptState where
  | claimedForBoundary
  | failedPreEmit
  | emitted
  | hostPresented
  | presentationUnknown
  deriving DecidableEq, Repr

/-- mirrors evertrace-domain/src/recall.rs:68-72 -/
inductive RetrievalOutcomeState where
  | claimed
  | returned
  | unknown
  deriving DecidableEq, Repr

/-- mirrors evertrace-domain/src/recall.rs:443-459 -/
inductive TriggerFamily where
  | explicitOrRecovery
  | prospectiveObligation
  | runtimeAnomaly
  deriving DecidableEq, Repr

def TriggerFamily.asStr : TriggerFamily → String
  | .explicitOrRecovery => "explicit_or_recovery"
  | .prospectiveObligation => "prospective_obligation"
  | .runtimeAnomaly => "runtime_anomaly"

/-- mirrors evertrace-domain/src/recall.rs:131-139 -/
structure RecallPlan where
  reason : String
  normativeConstraintRefs : List String
  relevantEpisodeRevision : Option RevisionId
  applicableProcedureRevision : Option RevisionId
  openLoops : List String
  staleDeliveredObjects : List String
  supportingEvidenceRefs : List String
  deriving DecidableEq

/-- mirrors evertrace-domain/src/recall.rs:143-150 -/
structure RecallTriggerState where
  phaseKind : PhaseKind
  verifierState : CheckpointVerifierState
  attemptIds : List AttemptId
  worktreeSnapshotId : Option WorktreeSnapshotId
  bindingRevisionId : Option WorkBindingRevisionId
  scopeEffectRefs : List ScopeEffectId
  deriving DecidableEq

/-- mirrors evertrace-domain/src/recall.rs:196-225 -/
structure RecallNeed where
  recallNeedId : RecallNeedId
  revisionId : RevisionId
  parentRevisionId : Option RevisionId
  recallNeedHash : Digest
  triggerFamily : TriggerFamily
  sourceRevisionIds : List RevisionId
  matchedContractIds : List Digest
  sessionId : String
  executionLaneId : ExecutionLaneId
  taskId : TaskId
  workstreamId : WorkstreamId
  episodeRevisionId : RevisionId
  repositoryId : Option RepositoryId
  worktreeId : Option WorktreeId
  boundaryEventRef : String
  triggerState : RecallTriggerState
  sourceWatermark : UInt64
  recallPlanFingerprint : Digest
  recallPlan : RecallPlan
  deliveryState : RecallDeliveryState
  agentResponse : RecallAgentResponse
  obligationState : RecallObligationState
  createdAtUs : Int64
  presentationExpiresAtUs : Int64
  obligationExpiresAtUs : Option Int64
  activePresentationAttemptId : Option PresentationAttemptId
  activeRetrievalRequestId : Option String
  deriving DecidableEq

/-- mirrors evertrace-domain/src/recall.rs:284-291 -/
structure RecallPresentationAttempt where
  presentationAttemptId : PresentationAttemptId
  recallNeedId : RecallNeedId
  recallNeedHash : Digest
  boundaryEventRef : String
  state : PresentationAttemptState
  occurredAtUs : Int64
  deriving DecidableEq

/-- mirrors evertrace-domain/src/recall.rs:295-301 -/
structure RecallRetrievalOutcome where
  requestId : String
  recallNeedId : RecallNeedId
  recallNeedHash : Digest
  state : RetrievalOutcomeState
  occurredAtUs : Int64
  deriving DecidableEq

/-- mirrors evertrace-domain/src/recall.rs:305-309 -/
inductive RecallLedgerEvent where
  | needRecorded (need : RecallNeed)
  | presentationAttempt (attempt : RecallPresentationAttempt)
  | retrievalOutcome (outcome : RecallRetrievalOutcome)
  deriving DecidableEq

/-! ## Validation -/

/-- `value.chars().any(char::is_control)` -/
def hasControl (value : String) : Bool := value.toList.any isControl

/-- `!value.is_empty() && value.len() <= MAX_RECALL_TEXT` -/
def boundedText (value : String) : Bool :=
  utf8 value ≠ [] && (utf8 value).length ≤ maxRecallText

/-- `values.windows(2).all(|pair| pair[0] < pair[1])` -/
def strictlyIncreasing {α : Type} [LT α] [DecidableLT α] : List α → Bool
  | a :: b :: rest => a < b && strictlyIncreasing (b :: rest)
  | _ => true

theorem strictlyIncreasing_of_pairwise {α : Type} [LT α] [DecidableLT α] : ∀ {l : List α},
    l.Pairwise (· < ·) → strictlyIncreasing l = true
  | [], _ => rfl
  | [_], _ => rfl
  | a :: b :: rest, h => by
    obtain ⟨ha, hrest⟩ := List.pairwise_cons.mp h
    rw [strictlyIncreasing, strictlyIncreasing_of_pairwise hrest, Bool.and_true, decide_eq_true_eq]
    exact ha b List.mem_cons_self

/-- Texts are compared by their bytes. -/
instance : IsTrans Bytes (· < ·) := ⟨fun _ _ _ hab hbc => List.lt_trans hab hbc⟩

theorem pairwise_of_strictlyIncreasing {α : Type} [LT α] [IsTrans α (· < ·)] [DecidableLT α] : ∀ {l : List α},
    strictlyIncreasing l = true → l.Pairwise (· < ·)
  | [], _ => .nil
  | [a], _ => List.pairwise_singleton _ a
  | a :: b :: rest, h => by
    rw [strictlyIncreasing, Bool.and_eq_true, decide_eq_true_eq] at h
    have hrest := pairwise_of_strictlyIncreasing h.2
    refine List.pairwise_cons.mpr ⟨fun x hx => ?_, hrest⟩
    rcases List.mem_cons.mp hx with rfl | hx
    · exact h.1
    · exact IsTrans.trans _ _ _ h.1 ((List.pairwise_cons.mp hrest).1 x hx)

/-- mirrors evertrace-domain/src/recall.rs:153-161 -/
def RecallTriggerState.validate (state : RecallTriggerState) : Bool :=
  state.attemptIds.length ≤ maxRecallRefs
    && strictlyIncreasing state.attemptIds
    && state.scopeEffectRefs.length ≤ maxRecallRefs
    && strictlyIncreasing state.scopeEffectRefs

/-- mirrors evertrace-domain/src/recall.rs:165-188 -/
def RecallPlan.validate (plan : RecallPlan) : Bool :=
  let lists := [plan.normativeConstraintRefs, plan.openLoops, plan.staleDeliveredObjects,
    plan.supportingEvidenceRefs]
  boundedText plan.reason
    && !hasControl plan.reason
    && lists.all (fun values =>
      values.length ≤ maxRecallRefs
        && strictlyIncreasing (values.map utf8)
        && values.all (fun value => boundedText value && !hasControl value))
    && (!plan.normativeConstraintRefs.isEmpty
      || plan.relevantEpisodeRevision.isSome
      || !plan.openLoops.isEmpty
      || !plan.staleDeliveredObjects.isEmpty)

/-- `map_or(Null, |value| String(value.to_string()))` -/
def optionalId {family : Family} : Option (Id family) → CanonicalValue
  | none => .null
  | some id => .string id.toText

def strings (values : List String) : CanonicalValue := .sequence (values.map .string)

def idTexts {family : Family} (ids : List (Id family)) : CanonicalValue :=
  .sequence (ids.map fun id => .string id.toText)

/-- mirrors evertrace-domain/src/recall.rs:366-390 -/
def planCanonical (plan : RecallPlan) : CanonicalValue :=
  .sequence
    [ .string plan.reason,
      strings plan.normativeConstraintRefs,
      optionalId plan.applicableProcedureRevision,
      optionalId plan.relevantEpisodeRevision,
      strings plan.openLoops,
      strings plan.staleDeliveredObjects,
      strings plan.supportingEvidenceRefs ]

/-- mirrors evertrace-domain/src/recall.rs:190-192 -/
def RecallPlan.fingerprint (H : Sha256) (plan : RecallPlan) : Except CanonicalError Digest :=
  sha256 H "recall_plan_v1" 1 (planCanonical plan)

def phaseText : PhaseKind → String
  | .orient => "orient"
  | .inspect => "inspect"
  | .reproduce => "reproduce"
  | .diagnose => "diagnose"
  | .design => "design"
  | .implement => "implement"
  | .verify => "verify"
  | .execute => "execute"
  | .analyze => "analyze"
  | .recover => "recover"
  | .deliver => "deliver"
  | .unknown => "unknown"

def verifierText : CheckpointVerifierState → String
  | .unverified => "unverified"
  | .passed => "passed"
  | .failed => "failed"
  | .inconclusive => "inconclusive"

/-- mirrors evertrace-domain/src/recall.rs:392-441 -/
def triggerStateCanonical (state : RecallTriggerState) : CanonicalValue :=
  .sequence
    [ .string (phaseText state.phaseKind),
      .string (verifierText state.verifierState),
      idTexts state.attemptIds,
      optionalId state.worktreeSnapshotId,
      optionalId state.bindingRevisionId,
      idTexts state.scopeEffectRefs ]

/-- mirrors evertrace-domain/src/recall.rs:329-364 -/
def recallNeedHash (H : Sha256) (need : RecallNeed) : Except CanonicalError Digest :=
  sha256 H "recall_need_v1" 1 (.sequence
    [ .string need.sessionId,
      .string need.executionLaneId.toText,
      .string need.triggerFamily.asStr,
      idTexts need.sourceRevisionIds,
      .sequence (need.matchedContractIds.map fun value => .bytes value.bytes),
      .string need.taskId.toText,
      .string need.workstreamId.toText,
      .string need.episodeRevisionId.toText,
      optionalId need.repositoryId,
      optionalId need.worktreeId,
      .string need.boundaryEventRef,
      triggerStateCanonical need.triggerState,
      .integer (BitVec.ofNat 128 need.sourceWatermark.toNat),
      .bytes need.recallPlanFingerprint.bytes ])

/-- The delivery states in which no attempt is under way or has been shown. -/
def RecallDeliveryState.claimable : RecallDeliveryState → Bool
  | .detected | .scheduled | .failedPreEmit => true
  | _ => false

/-- mirrors evertrace-domain/src/recall.rs:234-279 -/
def RecallNeed.validate (H : Sha256) (need : RecallNeed) : Bool :=
  need.sourceWatermark > 0
    && need.createdAtUs ≥ 0
    && need.presentationExpiresAtUs > need.createdAtUs
    && need.obligationExpiresAtUs.all (fun value => value > need.createdAtUs)
    && boundedText need.sessionId
    && boundedText need.boundaryEventRef
    && need.triggerState.validate
    && need.sourceRevisionIds.length ≤ maxRecallRefs
    && !need.sourceRevisionIds.isEmpty
    && strictlyIncreasing need.sourceRevisionIds
    && need.matchedContractIds.length ≤ maxRecallRefs
    && strictlyIncreasing (need.matchedContractIds.map Digest.bytes)
    && need.activeRetrievalRequestId.all (fun value => boundedText value && !hasControl value)
    && need.activePresentationAttemptId.isSome == !need.deliveryState.claimable
    && need.activeRetrievalRequestId.isSome == (need.agentResponse != .notRetrieved)
    && need.recallPlan.validate
    && (need.recallPlan.fingerprint H).toOption == some need.recallPlanFingerprint
    && (Recall.recallNeedHash H need).toOption == some need.recallNeedHash
    && (need.parentRevisionId.isNone || need.parentRevisionId != some need.revisionId)

/-- mirrors evertrace-domain/src/recall.rs:312-326 -/
def RecallLedgerEvent.validate (H : Sha256) : RecallLedgerEvent → Bool
  | .needRecorded need => need.validate H
  | .presentationAttempt attempt => boundedText attempt.boundaryEventRef && attempt.occurredAtUs ≥ 0
  | .retrievalOutcome outcome => boundedText outcome.requestId && outcome.occurredAtUs ≥ 0

end EverTrace.L2.Recall
