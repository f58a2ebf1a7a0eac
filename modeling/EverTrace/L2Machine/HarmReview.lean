import EverTrace.L1Encoding.IdOrder
import EverTrace.L2Machine.ProcedureSearch
import EverTrace.L2Machine.ProcedureUsage
import EverTrace.L2Machine.Rows
/-!
# Reviews of harm (`evertrace-engine/src/procedure/usage.rs:1380-1847, 2143-2410`)

A piece of negative evidence waits for a decision. `selectNegativeReview` looks at
all current results that came in since and offers the decisions they speak for,
each with its proof; `reviewProcedureNegative` takes a proof, checks it by its own
rules and writes the review event, with the publication state that follows from it.

The two agree in one direction only. The selector wants all results to say the
same; the reviewer looks at the ones it is given.

Results:
* `dismissed_isOk_iff`, `upheld_isOk_iff`: the proofs of a replay that the reviewer takes.
* `offered_ineffective`: what an offered resolution rests on, and that the reviewer takes it.
-/
namespace EverTrace.L2.Procedure
open EverTrace.Lib EverTrace.L1 EverTrace.L2.Store
open EverTrace.L2.Purge (ProcedurePublicationState ProcedureStateEvent ProcedureStateReason)
open EverTrace.L2.AttemptRevision (Attempt)
open EverTrace.L2.Autoresearch (ResultEvidence ExperimentRun)

/-! ## The facts -/

/-- The maps that both readers fill. A result is put in under its own revision id
(usage.rs:1217-1221), which is a field here.
mirrors evertrace-engine/src/procedure/usage.rs:1486-1516 -/
structure ReviewFacts where
  negatives : OrdMap ProcedureNegativeEvidenceId ProcedureNegativeEvidence
  negativeSeqs : OrdMap ProcedureNegativeEvidenceId Nat
  negativeReviews : OrdMap ProcedureNegativeEvidenceId ProcedureNegativeReviewEvent
  negativeReviewSeqs : OrdMap ProcedureNegativeEvidenceId Nat
  usages : OrdMap ProcedureUsageId ProcedureUsageRevision
  attempts : OrdMap AttemptId Attempt
  runs : OrdMap ExperimentRunId ExperimentRun
  results : OrdMap RevisionId ResultEvidence
  resultSeqs : OrdMap RevisionId Nat
  keyed : ∀ id result, results.get id = some result → result.revisionId = id

/-- mirrors evertrace-engine/src/procedure/usage.rs:1486-1516 -/
structure NegativeReviewInputs extends ReviewFacts where
  currentProcedure : Option RevisionId
  publication : Option ProcedurePublicationState
  currentResultIds : Option (List RevisionId)

/-- The fields of a procedure revision that a review reads. -/
structure ProcedureLineage where
  procedureId : ProcedureId
  revisionId : RevisionId
  parentRevisionId : Option RevisionId

/-- `ProcedureUsageCurrentView`, as far as reviews read it.
mirrors evertrace-engine/src/procedure/usage.rs:32-118 -/
structure UsageView extends ReviewFacts where
  procedures : OrdMap RevisionId ProcedureLineage
  currentProcedures : OrdMap ProcedureId RevisionId
  publications : OrdMap RevisionId ProcedureStateEvent

/-- mirrors evertrace-engine/src/procedure/usage.rs:1519-1538 -/
def UsageView.negativeReviewInputs (view : UsageView) (revision : RevisionId) : NegativeReviewInputs where
  toReviewFacts := view.toReviewFacts
  currentProcedure := (view.procedures.get revision).bind fun procedure => view.currentProcedures.get procedure.procedureId
  publication := (view.publications.get revision).map ProcedureStateEvent.toState
  currentResultIds := none

/-- mirrors evertrace-engine/src/procedure/usage.rs:1411-1428 -/
inductive ProcedureNegativeReviewProof where
  | ineffectiveResolved (resultRevisionIds : List RevisionId)
  | replayDismissed (resultRevisionIds : List RevisionId)
  | replayUpheld (resultRevisionIds : List RevisionId)
  | successorSuperseded (successorUsageId : ProcedureUsageId) (resultRevisionIds : List RevisionId)
  | requestRevision (procedureRevisionId : RevisionId)
  deriving DecidableEq

/-- mirrors evertrace-engine/src/procedure/usage.rs:1431-1436 -/
inductive ProcedureNegativeReviewDecision where
  | resolveAsIneffective
  | dismissAttribution
  | confirmHarm
  | requestRevision
  deriving DecidableEq

/-- mirrors evertrace-engine/src/procedure/usage.rs:1439-1444 -/
inductive ProcedureNegativeReviewAction where
  | resolveAsIneffective
  | dismissAttribution
  | confirmHarm
  | successorSuperseded
  deriving DecidableEq

/-- mirrors evertrace-engine/src/procedure/usage.rs:1447-1454 -/
def ProcedureNegativeReviewAction.reason : ProcedureNegativeReviewAction → String
  | .resolveAsIneffective => "resolve_as_ineffective"
  | .dismissAttribution => "dismiss_attribution"
  | .confirmHarm => "confirm_harm"
  | .successorSuperseded => "successor_replay_fixed"

/-- mirrors evertrace-engine/src/procedure/usage.rs:1458-1466 -/
structure ProcedureNegativeReviewSelection where
  reviewRevisionId : RevisionId
  reviewStatus : ProcedureNegativeReviewStatus
  availableDecisions : List ProcedureNegativeReviewDecision
  resolveAsIneffective : Option ProcedureNegativeReviewProof
  dismissAttribution : Option ProcedureNegativeReviewProof
  confirmHarm : Option ProcedureNegativeReviewProof
  requestRevision : Option ProcedureNegativeReviewProof

/-- mirrors evertrace-engine/src/procedure/usage.rs:1469-1481 -/
def ProcedureNegativeReviewSelection.proof (selection : ProcedureNegativeReviewSelection) :
    ProcedureNegativeReviewDecision → Option ProcedureNegativeReviewProof
  | .resolveAsIneffective => selection.resolveAsIneffective
  | .dismissAttribution => selection.dismissAttribution
  | .confirmHarm => selection.confirmHarm
  | .requestRevision => selection.requestRevision

/-! ## What results say -/

def replayPassed (result : ResultEvidence) : Bool :=
  result.completeness == .complete && result.failure.isNone && result.passed

/-- The sequence that a replay has to lie behind.
mirrors evertrace-engine/src/procedure/usage.rs:1638-1648, 2204-2214 -/
def ReviewFacts.proofAfter (facts : ReviewFacts) (id : ProcedureNegativeEvidenceId) : Option Nat := do
  let negativeSeq ← facts.negativeSeqs.get id
  let reviewSeq ← facts.negativeReviewSeqs.get id
  return max negativeSeq reviewSeq

/-- The run of the result is current, in the revision the result is about. -/
def ReviewFacts.runBound (facts : ReviewFacts) (result : ResultEvidence) : Bool :=
  (facts.runs.get result.experimentRunId).any fun run => run.revisionId == result.experimentRunRevisionId

/-- That run is one of the usage.
mirrors evertrace-engine/src/procedure/usage.rs:1752-1761, 2240-2249 -/
def ReviewFacts.tied (facts : ReviewFacts) (usage : ProcedureUsageRevision) (result : ResultEvidence) : Bool :=
  (facts.runs.get result.experimentRunId).any fun run =>
    run.revisionId == result.experimentRunRevisionId && run.attemptId.any usage.attemptIds.contains

/-- mirrors evertrace-store/src/projections.rs:2814-2821 -/
def negativeReviewResultMatches (seq proofAfter : Nat) (runAttempt : Option AttemptId) (attempts : List AttemptId) : Bool :=
  proofAfter < seq && runAttempt.any attempts.contains

/-- mirrors evertrace-store/src/projections.rs:2823-2837 -/
def negativeReviewCurrentResultHeads (results : List ResultEvidence) : Except StoreError (List ResultEvidence) := do
  let predecessors := results.filterMap ResultEvidence.parentRevisionId
  let heads ← (results.filter fun value => !predecessors.contains value.revisionId).foldlM (fun heads value => do
    ensure .storeCorrupt (heads.get value.resultEvidenceId).isNone
    return heads.insert value.resultEvidenceId value) (.empty : OrdMap ResultEvidenceId ResultEvidence)
  return heads.values

namespace NegativeReviewInputs

/-- mirrors evertrace-engine/src/procedure/usage.rs:1766-1781 -/
def currentResultHeads (inputs : NegativeReviewInputs) : Except SemanticServiceError (List ResultEvidence) :=
  match inputs.currentResultIds with
  | some ids => ids.mapM fun id => okOr .invalidInput (inputs.results.get id)
  | none => (negativeReviewCurrentResultHeads inputs.results.values).mapError fun _ => .invalidInput

/-- mirrors evertrace-engine/src/procedure/usage.rs:1783-1808 -/
def resultsForUsage (inputs : NegativeReviewInputs) (currentResults : List ResultEvidence) (usage : ProcedureUsageRevision)
    (proofAfter : Nat) : List RevisionId :=
  ((currentResults.filter fun result => (inputs.resultSeqs.get result.revisionId).any fun seq =>
    negativeReviewResultMatches seq proofAfter
      ((inputs.runs.get result.experimentRunId).bind ExperimentRun.attemptId) usage.attemptIds).map
    ResultEvidence.revisionId).take (maxCandidates + 1)

/-- All results say the same. -/
def uniform (inputs : NegativeReviewInputs) (holds : ResultEvidence → Bool) (resultIds : List RevisionId) : Bool :=
  !resultIds.isEmpty && resultIds.length ≤ maxCandidates && resultIds.all fun id =>
    (inputs.results.get id).any fun result => holds result && inputs.runBound result

/-- mirrors evertrace-engine/src/procedure/usage.rs:1810-1829 -/
def uniformPassed (inputs : NegativeReviewInputs) : List RevisionId → Bool := inputs.uniform replayPassed

/-- mirrors evertrace-engine/src/procedure/usage.rs:1831-1846 -/
def uniformMismatch (inputs : NegativeReviewInputs) : List RevisionId → Bool := inputs.uniform replayMismatch

/-- mirrors evertrace-engine/src/procedure/usage.rs:1739-1764 -/
def negativeResultRevisions (inputs : NegativeReviewInputs) (negative : ProcedureNegativeEvidence)
    (usage : ProcedureUsageRevision) : Option (List RevisionId) := do
  let resultRevisionIds ← negative.evidenceRefs.mapM fun reference => (Id.fromStr reference : Option RevisionId)
  if !resultRevisionIds.isEmpty && resultRevisionIds.length ≤ maxCandidates
      && resultRevisionIds.all fun id => (inputs.results.get id).any (inputs.tied usage) then
    some resultRevisionIds
  else none

/-- mirrors evertrace-engine/src/procedure/usage.rs:1702-1728 -/
def ineffectiveProof (inputs : NegativeReviewInputs) (negative : ProcedureNegativeEvidence)
    (usage : ProcedureUsageRevision) : Option ProcedureNegativeReviewProof := do
  let resultRevisionIds ← inputs.negativeResultRevisions negative usage
  match usage.attemptIds with
  | [attemptId] => do
    let attempt ← (inputs.attempts.get attemptId).filter usage.acceptsAdoptedAttempt
    let results ← resultRevisionIds.mapM inputs.results.get
    if classifyNegativeFact usage attempt negative.evidenceRefs results == some .ineffective then
      some (.ineffectiveResolved resultRevisionIds)
    else none
  | _ => none

/-- mirrors evertrace-engine/src/procedure/usage.rs:1730-1737 -/
def revisionRequestReady (inputs : NegativeReviewInputs) (negative : ProcedureNegativeEvidence)
    (usage : ProcedureUsageRevision) : Bool :=
  inputs.currentProcedure == some negative.procedureRevisionId && (inputs.negativeResultRevisions negative usage).isSome

/-- The offered proofs, and the decisions they stand for, in their order.
mirrors evertrace-engine/src/procedure/usage.rs:1651-1699 -/
def offer (inputs : NegativeReviewInputs) (review : ProcedureNegativeReviewEvent) (negative : ProcedureNegativeEvidence)
    (usage : ProcedureUsageRevision) (resultIds : List RevisionId) : ProcedureNegativeReviewSelection :=
  let pending := review.status == .pending
  let resolveAsIneffective := if pending && negative.level == .ineffective then inputs.ineffectiveProof negative usage else none
  let dismissAttribution := if pending && negative.level == .suspectedHarm && inputs.uniformPassed resultIds then
    some (.replayDismissed resultIds) else none
  let confirmHarm := if pending && negative.level == .suspectedHarm && negative.localContext.isNone
      && inputs.uniformMismatch resultIds && inputs.publication == some .reviewHold then
    some (.replayUpheld resultIds) else none
  let requestRevision := if pending && inputs.revisionRequestReady negative usage then
    some (.requestRevision negative.procedureRevisionId) else none
  { reviewRevisionId := review.reviewEventId
    reviewStatus := review.status
    availableDecisions :=
      (if resolveAsIneffective.isSome then [.resolveAsIneffective] else [])
        ++ (if dismissAttribution.isSome then [.dismissAttribution] else [])
        ++ (if confirmHarm.isSome then [.confirmHarm] else [])
        ++ (if requestRevision.isSome then [.requestRevision] else [])
    resolveAsIneffective := resolveAsIneffective
    dismissAttribution := dismissAttribution
    confirmHarm := confirmHarm
    requestRevision := requestRevision }

/-- mirrors evertrace-engine/src/procedure/usage.rs:1600-1700 -/
def selectNegativeReview (inputs : NegativeReviewInputs) (id : ProcedureNegativeEvidenceId) :
    Except SemanticServiceError ProcedureNegativeReviewSelection := do
  let negative ← okOr .invalidInput (inputs.negatives.get id)
  let review ← okOr .invalidInput (inputs.negativeReviews.get id)
  if review.status == .upheld || review.status == .dismissed || review.status == .superseded then
    return ⟨review.reviewEventId, review.status, [], none, none, none, none⟩
  else do
    let usage ← okOr .invalidInput (inputs.usages.get negative.procedureUsageId)
    ensure .invalidInput (negative.validate && usage.procedureRevisionId == negative.procedureRevisionId
      && usage.taskId == negative.taskId)
    let proofAfter ← okOr .invalidInput (inputs.proofAfter id)
    let currentResults ← inputs.currentResultHeads
    return inputs.offer review negative usage (inputs.resultsForUsage currentResults usage proofAfter)

end NegativeReviewInputs

/-- mirrors evertrace-engine/src/procedure/usage.rs:1540-1551 -/
def UsageView.selectNegativeReview (view : UsageView) (id : ProcedureNegativeEvidenceId) :
    Except SemanticServiceError ProcedureNegativeReviewSelection := do
  let negative ← okOr .invalidInput (view.negatives.get id)
  (view.negativeReviewInputs negative.procedureRevisionId).selectNegativeReview id

/-! ## The review -/

/-- The time of the command and the ids it would generate. -/
structure ReviewContext where
  occurredAtUs : Int
  reviewEventId : RevisionId
  stateEventId : RevisionId

inductive ReviewPayload where
  | procedureNegativeReviewRecorded (event : ProcedureNegativeReviewEvent)
  | procedureStateRecorded (event : ProcedureStateEvent)
  deriving DecidableEq

/-- What a proof claims: the action, the status it leads to, the results and the usage of a successor.
mirrors evertrace-engine/src/procedure/usage.rs:2161-2198 -/
def ProcedureNegativeReviewProof.parts : ProcedureNegativeReviewProof → Except SemanticServiceError
    (ProcedureNegativeReviewAction × ProcedureNegativeReviewStatus × List RevisionId × Option ProcedureUsageId)
  | .ineffectiveResolved ids => .ok (.resolveAsIneffective, .dismissed, ids, none)
  | .replayDismissed ids => .ok (.dismissAttribution, .dismissed, ids, none)
  | .replayUpheld ids => .ok (.confirmHarm, .upheld, ids, none)
  | .successorSuperseded usageId ids => .ok (.successorSuperseded, .superseded, ids, some usageId)
  | .requestRevision _ => .error .unsupportedTarget

/-- Whether the results prove what the action says.
mirrors evertrace-engine/src/procedure/usage.rs:2250-2326 -/
def UsageView.proofValid (view : UsageView) (action : ProcedureNegativeReviewAction)
    (current : ProcedureNegativeReviewEvent) (negative : ProcedureNegativeEvidence) (usage proofUsage : ProcedureUsageRevision)
    (resultRevisionIds : List RevisionId) (results : List ResultEvidence) : Except SemanticServiceError Bool :=
  match action with
  | .resolveAsIneffective =>
    .ok (current.status == .pending
      && negative.level == .ineffective
      && resultRevisionIds.map Id.toText == negative.evidenceRefs
      && (view.negativeReviewInputs negative.procedureRevisionId).ineffectiveProof negative usage
        == some (.ineffectiveResolved resultRevisionIds))
  | .dismissAttribution =>
    .ok (current.status == .pending && negative.level == .suspectedHarm && results.all replayPassed)
  | .confirmHarm =>
    .ok (current.status == .pending
      && negative.level == .suspectedHarm
      && negative.localContext.isNone
      && results.all replayMismatch
      && (view.publications.get negative.procedureRevisionId).any fun state => state.toState == .reviewHold)
  | .successorSuperseded => do
    let old ← okOr .invalidInput (view.procedures.get negative.procedureRevisionId)
    let successor ← okOr .invalidInput (view.procedures.get proofUsage.procedureRevisionId)
    return (proofUsage.procedureUsageId != usage.procedureUsageId
      && proofUsage.outcomeSupported == .true_
      && proofUsage.localContext.compatible usage.localContext
      && successor.procedureId == old.procedureId
      && successor.parentRevisionId == some old.revisionId
      && (resultRevisionIds.all fun id => proofUsage.evidenceRefs.contains id.toText)
      && results.all fun result => result.failure.isNone && result.passed)

/-- The states a hold may be lifted to.
mirrors evertrace-engine/src/procedure/usage.rs:2381-2391 -/
def resumable (state : ProcedureStateEvent) : Option ProcedurePublicationState :=
  state.resumeState.filter fun resume => resume == .activeProbationary || resume == .activeStable

/-- The event that takes a hold to another state. -/
def leaveHold (context : ReviewContext) (negative : ProcedureNegativeEvidence) (toState : ProcedurePublicationState)
    (reason : ProcedureStateReason) : ReviewPayload :=
  .procedureStateRecorded
    { stateEventId := context.stateEventId
      procedureRevisionId := negative.procedureRevisionId
      fromState := some .reviewHold
      toState := toState
      reason := reason
      resumeState := none
      evidenceRefs := [negative.negativeEvidenceId.toText]
      createdAtUs := context.occurredAtUs }

/-- What becomes of the publication.
mirrors evertrace-engine/src/procedure/usage.rs:2350-2408 -/
def UsageView.publicationEvents (view : UsageView) (context : ReviewContext) (action : ProcedureNegativeReviewAction)
    (negative : ProcedureNegativeEvidence) : Except SemanticServiceError (List ReviewPayload) :=
  if action == .confirmHarm then do
    let _ ← okOr SemanticServiceError.invalidInput
      ((view.publications.get negative.procedureRevisionId).filter fun state => state.toState == .reviewHold)
    return [leaveHold context negative .suspended .confirmedHarm]
  else if (action == .dismissAttribution || action == .successorSuperseded) && negative.localContext.isNone then do
    let current ← okOr .invalidInput (view.publications.get negative.procedureRevisionId)
    if current.toState == .reviewHold then do
      let resume ← okOr .invalidInput (resumable current)
      return [leaveHold context negative resume .manual]
    else return []
  else return []

/-- The generation is a `u32` that wraps.
mirrors evertrace-engine/src/procedure/usage.rs:2143-2410 -/
def UsageView.reviewProcedureNegative (view : UsageView) (context : ReviewContext) (id : ProcedureNegativeEvidenceId)
    (proof : ProcedureNegativeReviewProof) : Except SemanticServiceError (List ReviewPayload) := do
  let current ← okOr .invalidInput (view.negativeReviews.get id)
  let negative ← okOr .invalidInput (view.negatives.get id)
  let usage ← okOr .invalidInput (view.usages.get negative.procedureUsageId)
  let (action, status, ids, successorUsageId) ← proof.parts
  let resultRevisionIds := sortUnique ids
  ensure .invalidInput !resultRevisionIds.isEmpty
  let proofAfter ← okOr .invalidInput (view.proofAfter id)
  ensure .invalidInput (action == .resolveAsIneffective
    || resultRevisionIds.all fun id => (view.resultSeqs.get id).any fun seq => proofAfter < seq)
  let results ← resultRevisionIds.mapM fun id => okOr .invalidInput (view.results.get id)
  let proofUsage ← match successorUsageId with
    | some usageId => okOr .invalidInput (view.usages.get usageId)
    | none => .ok usage
  let valid ← view.proofValid action current negative usage proofUsage resultRevisionIds results
  ensure .invalidInput (current.createdAtUs ≤ context.occurredAtUs && results.all (view.tied proofUsage) && valid)
  let events ← view.publicationEvents context action negative
  return .procedureNegativeReviewRecorded
    { reviewEventId := context.reviewEventId
      negativeEvidenceId := id
      predecessorReviewEventId := some current.reviewEventId
      reviewGeneration := (current.reviewGeneration + 1) % 2 ^ 32
      status := status
      successorUsageRevisionId := successorUsageId.map fun _ => proofUsage.usageRevisionId
      reason := action.reason
      evidenceRefs := resultRevisionIds.map Id.toText
      createdAtUs := context.occurredAtUs } :: events

/-! ## What the reviewer takes -/

/-- The records that a review of the evidence starts from. -/
structure UnderReview (view : UsageView) (id : ProcedureNegativeEvidenceId) (current : ProcedureNegativeReviewEvent)
    (negative : ProcedureNegativeEvidence) (usage : ProcedureUsageRevision) (proofAfter : Nat) : Prop where
  reviewed : view.negativeReviews.get id = some current
  recorded : view.negatives.get id = some negative
  used : view.usages.get negative.procedureUsageId = some usage
  since : view.proofAfter id = some proofAfter

/-- The result was recorded since, belongs to the usage, and says so. -/
def Replays (view : UsageView) (usage : ProcedureUsageRevision) (proofAfter : Nat) (holds : ResultEvidence → Bool)
    (resultId : RevisionId) : Prop :=
  ∃ result seq, view.results.get resultId = some result ∧ view.resultSeqs.get resultId = some seq ∧ proofAfter < seq
    ∧ view.tied usage result = true ∧ holds result = true

/-- The publication is known, and where it is on hold, it says what to resume. -/
def Liftable (view : UsageView) (negative : ProcedureNegativeEvidence) : Prop :=
  ∃ state, view.publications.get negative.procedureRevisionId = some state
    ∧ (state.toState = .reviewHold → (resumable state).isSome = true)

def OnHold (view : UsageView) (negative : ProcedureNegativeEvidence) : Prop :=
  ∃ state, view.publications.get negative.procedureRevisionId = some state ∧ state.toState = .reviewHold

section Reviewer
variable {view : UsageView} {context : ReviewContext} {id : ProcedureNegativeEvidenceId}
  {current : ProcedureNegativeReviewEvent} {negative : ProcedureNegativeEvidence} {usage : ProcedureUsageRevision}
  {proofAfter : Nat} {ids : List RevisionId} {proof : ProcedureNegativeReviewProof}
  {action : ProcedureNegativeReviewAction} {status : ProcedureNegativeReviewStatus}

theorem sortUnique_isEmpty : (sortUnique ids).isEmpty = ids.isEmpty := by
  rw [Bool.eq_iff_iff, List.isEmpty_iff, List.isEmpty_iff, List.eq_nil_iff_forall_not_mem, List.eq_nil_iff_forall_not_mem]
  simp

/-- A proof without a successor, check by check. -/
theorem review_isOk_iff (hu : UnderReview view id current negative usage proofAfter)
    (hparts : proof.parts = .ok (action, status, ids, none)) :
    (view.reviewProcedureNegative context id proof).isOk = true ↔
      ids ≠ [] ∧ (action = .resolveAsIneffective ∨ ∀ r ∈ ids, ∃ seq, view.resultSeqs.get r = some seq ∧ proofAfter < seq)
      ∧ current.createdAtUs ≤ context.occurredAtUs
      ∧ (∃ results, (sortUnique ids).mapM (fun r => okOr SemanticServiceError.invalidInput (view.results.get r)) = .ok results
        ∧ (∀ result ∈ results, view.tied usage result = true)
        ∧ view.proofValid action current negative usage usage (sortUnique ids) results = .ok true)
      ∧ (view.publicationEvents context action negative).isOk = true := by
  have hempty : (!(sortUnique ids).isEmpty) = true ↔ ids ≠ [] := by
    rw [sortUnique_isEmpty, Bool.not_eq_true', List.isEmpty_eq_false_iff]
  have hfresh : (action == .resolveAsIneffective
        || (sortUnique ids).all fun r => (view.resultSeqs.get r).any fun seq => proofAfter < seq) = true ↔
      (action = .resolveAsIneffective ∨ ∀ r ∈ ids, ∃ seq, view.resultSeqs.get r = some seq ∧ proofAfter < seq) := by
    rw [Bool.or_eq_true, beq_iff_eq, List.all_eq_true]
    simp only [mem_sortUnique, Option.any_eq_true, decide_eq_true_eq]
  have hcurrent := (okOr_ok (e := SemanticServiceError.invalidInput)).mpr hu.reviewed
  have hnegative := (okOr_ok (e := SemanticServiceError.invalidInput)).mpr hu.recorded
  have husage := (okOr_ok (e := SemanticServiceError.invalidInput)).mpr hu.used
  have hsince := (okOr_ok (e := SemanticServiceError.invalidInput)).mpr hu.since
  unfold UsageView.reviewProcedureNegative
  rw [hcurrent, ok_bind, hnegative, ok_bind, husage, ok_bind, hparts, ok_bind]
  dsimp only
  rw [hsince]
  simp only [ok_bind]
  constructor
  · intro h
    obtain ⟨events, h⟩ := exists_of_isOk h
    obtain ⟨hne, h⟩ := ensure_bind_ok.mp h
    obtain ⟨hafter, h⟩ := ensure_bind_ok.mp h
    obtain ⟨results, hresults, h⟩ := bind_eq_ok.mp h
    obtain ⟨valid, hvalid, h⟩ := bind_eq_ok.mp h
    obtain ⟨hchecks, h⟩ := ensure_bind_ok.mp h
    obtain ⟨rest, hrest, -⟩ := bind_eq_ok.mp h
    rw [Bool.and_eq_true, Bool.and_eq_true, decide_eq_true_eq, List.all_eq_true] at hchecks
    obtain ⟨⟨htime, htied⟩, rfl⟩ := hchecks
    exact ⟨hempty.mp hne, hfresh.mp hafter, htime, ⟨results, hresults, htied, hvalid⟩, by rw [hrest]; rfl⟩
  · rintro ⟨hne, hafter, htime, ⟨results, hresults, htied, hvalid⟩, hevents⟩
    obtain ⟨rest, hrest⟩ := exists_of_isOk hevents
    have hchecks : (decide (current.createdAtUs ≤ context.occurredAtUs) && results.all (view.tied usage) && true) = true := by
      rw [Bool.and_eq_true, Bool.and_eq_true, decide_eq_true_eq, List.all_eq_true]
      exact ⟨⟨htime, htied⟩, rfl⟩
    have hnonempty : ensure SemanticServiceError.invalidInput (!(sortUnique ids).isEmpty) = .ok () :=
      ensure_ok.mpr (hempty.mpr hne)
    have hlater : ensure SemanticServiceError.invalidInput (action == .resolveAsIneffective
        || (sortUnique ids).all fun r => (view.resultSeqs.get r).any fun seq => proofAfter < seq) = .ok () :=
      ensure_ok.mpr (hfresh.mpr hafter)
    have hensure : ensure SemanticServiceError.invalidInput
        (decide (current.createdAtUs ≤ context.occurredAtUs) && results.all (view.tied usage) && true) = .ok () :=
      ensure_ok.mpr hchecks
    rw [hnonempty, ok_bind, hlater, ok_bind, hresults, ok_bind, hvalid, ok_bind, hensure, ok_bind, hrest, ok_bind]
    rfl

theorem underReview_of_isOk (h : (view.reviewProcedureNegative context id proof).isOk = true) :
    ∃ current negative usage proofAfter, UnderReview view id current negative usage proofAfter := by
  obtain ⟨events, h⟩ := exists_of_isOk h
  obtain ⟨current, hcurrent, h⟩ := bind_eq_ok.mp h
  obtain ⟨negative, hnegative, h⟩ := bind_eq_ok.mp h
  obtain ⟨usage, husage, h⟩ := bind_eq_ok.mp h
  obtain ⟨⟨action, status, ids, successor⟩, -, h⟩ := bind_eq_ok.mp h
  obtain ⟨-, h⟩ := ensure_bind_ok.mp h
  obtain ⟨proofAfter, hafter, -⟩ := bind_eq_ok.mp h
  exact ⟨current, negative, usage, proofAfter, okOr_ok.mp hcurrent, okOr_ok.mp hnegative, okOr_ok.mp husage, okOr_ok.mp hafter⟩

theorem exists_results {P : ResultEvidence → Prop} :
    (∃ results, (sortUnique ids).mapM (fun r => okOr SemanticServiceError.invalidInput (view.results.get r)) = .ok results
      ∧ ∀ result ∈ results, P result) ↔ ∀ r ∈ ids, ∃ result, view.results.get r = some result ∧ P result := by
  constructor
  · rintro ⟨results, hresults, hall⟩ r hr
    have hr : r ∈ sortUnique ids := mem_sortUnique.mpr hr
    obtain ⟨result, hresult⟩ := exists_mapM_ok.mp ⟨results, hresults⟩ r hr
    exact ⟨result, okOr_ok.mp hresult, hall result ((mem_mapM_ok hresults).mpr ⟨r, hr, hresult⟩)⟩
  · intro h
    obtain ⟨results, hresults⟩ := exists_mapM_ok.mpr fun r (hr : r ∈ sortUnique ids) => by
      obtain ⟨result, hresult, -⟩ := h r (mem_sortUnique.mp hr)
      exact ⟨result, (okOr_ok (e := SemanticServiceError.invalidInput)).mpr hresult⟩
    refine ⟨results, hresults, fun result hmem => ?_⟩
    obtain ⟨r, hr, hget⟩ := (mem_mapM_ok hresults).mp hmem
    obtain ⟨result', hresult', hP⟩ := h r (mem_sortUnique.mp hr)
    rw [okOr_ok.mp hget] at hresult'
    cases hresult'
    exact hP

/-- The results of the ids, tied to the usage and recorded since, are replays that say so. -/
theorem replays_iff {holds : ResultEvidence → Bool} :
    ((∀ r ∈ ids, ∃ seq, view.resultSeqs.get r = some seq ∧ proofAfter < seq)
      ∧ ∃ results, (sortUnique ids).mapM (fun r => okOr SemanticServiceError.invalidInput (view.results.get r)) = .ok results
        ∧ (∀ result ∈ results, view.tied usage result = true) ∧ ∀ result ∈ results, holds result = true)
      ↔ ∀ r ∈ ids, Replays view usage proofAfter holds r := by
  have hboth := @exists_results view ids fun result => view.tied usage result = true ∧ holds result = true
  constructor
  · rintro ⟨hafter, results, hresults, htied, hholds⟩ r hr
    obtain ⟨seq, hseq, hlt⟩ := hafter r hr
    obtain ⟨result, hresult, htied, hholds⟩ :=
      hboth.mp ⟨results, hresults, fun result h => ⟨htied result h, hholds result h⟩⟩ r hr
    exact ⟨result, seq, hresult, hseq, hlt, htied, hholds⟩
  · intro h
    obtain ⟨results, hresults, hall⟩ := hboth.mpr fun r hr => by
      obtain ⟨result, -, hresult, -, -, htied, hholds⟩ := h r hr
      exact ⟨result, hresult, htied, hholds⟩
    refine ⟨fun r hr => ?_, results, hresults, fun result h => (hall result h).1, fun result h => (hall result h).2⟩
    obtain ⟨-, seq, -, hseq, hlt, -⟩ := h r hr
    exact ⟨seq, hseq, hlt⟩

theorem publicationEvents_dismiss : (view.publicationEvents context .dismissAttribution negative).isOk = true ↔
    (negative.localContext = none → Liftable view negative) := by
  unfold UsageView.publicationEvents Liftable
  cases hcontext : negative.localContext with
  | some value => simp [Except.isOk, Except.toBool, pure, Except.pure]
  | none =>
    cases hstate : view.publications.get negative.procedureRevisionId with
    | none => simp [okOr, bind, Except.bind, Except.isOk, Except.toBool]
    | some state =>
      by_cases hhold : state.toState = .reviewHold
      · cases hresume : resumable state <;>
          simp [hhold, hresume, okOr, bind, Except.bind, Except.isOk, Except.toBool, pure, Except.pure]
      · simp [hhold, okOr, bind, Except.bind, Except.isOk, Except.toBool, pure, Except.pure]

theorem publicationEvents_confirm : (view.publicationEvents context .confirmHarm negative).isOk = true ↔
    OnHold view negative := by
  unfold UsageView.publicationEvents OnHold
  cases hstate : view.publications.get negative.procedureRevisionId with
  | none => simp [okOr, bind, Except.bind, Except.isOk, Except.toBool]
  | some state =>
    by_cases hhold : state.toState = .reviewHold <;>
      simp [Option.filter_some, hhold, okOr, bind, Except.bind, Except.isOk, Except.toBool, pure, Except.pure]

theorem publicationEvents_resolve : (view.publicationEvents context .resolveAsIneffective negative).isOk = true := rfl

/-- **A dismissal is taken if its results are passed replays of the usage, each recorded since.** -/
theorem dismissed_isOk_iff (hu : UnderReview view id current negative usage proofAfter) :
    (view.reviewProcedureNegative context id (.replayDismissed ids)).isOk = true ↔
      (current.status = .pending ∧ negative.level = .suspectedHarm) ∧ ids ≠ []
      ∧ (∀ r ∈ ids, Replays view usage proofAfter replayPassed r) ∧ current.createdAtUs ≤ context.occurredAtUs
      ∧ (negative.localContext = none → Liftable view negative) := by
  have hvalid : ∀ results, view.proofValid .dismissAttribution current negative usage usage (sortUnique ids) results = .ok true ↔
      (current.status = .pending ∧ negative.level = .suspectedHarm) ∧ ∀ result ∈ results, replayPassed result = true := by
    intro results
    unfold UsageView.proofValid
    simp only [Except.ok.injEq, Bool.and_eq_true, beq_iff_eq, List.all_eq_true]
  rw [review_isOk_iff hu rfl, publicationEvents_dismiss, ← replays_iff]
  simp only [hvalid, reduceCtorEq, false_or]
  constructor
  · rintro ⟨hne, hafter, htime, ⟨results, hresults, htied, hpending, hpassed⟩, hpublication⟩
    exact ⟨hpending, hne, ⟨hafter, results, hresults, htied, hpassed⟩, htime, hpublication⟩
  · rintro ⟨hpending, hne, ⟨hafter, results, hresults, htied, hpassed⟩, htime, hpublication⟩
    exact ⟨hne, hafter, htime, ⟨results, hresults, htied, hpending, hpassed⟩, hpublication⟩

/-- **A confirmation is taken if its results are failed replays of the usage, each recorded since, and the procedure
is on hold.** -/
theorem upheld_isOk_iff (hu : UnderReview view id current negative usage proofAfter) :
    (view.reviewProcedureNegative context id (.replayUpheld ids)).isOk = true ↔
      (current.status = .pending ∧ negative.level = .suspectedHarm) ∧ ids ≠ []
      ∧ (∀ r ∈ ids, Replays view usage proofAfter replayMismatch r) ∧ current.createdAtUs ≤ context.occurredAtUs
      ∧ negative.localContext = none ∧ OnHold view negative := by
  have hvalid : ∀ results, view.proofValid .confirmHarm current negative usage usage (sortUnique ids) results = .ok true ↔
      ((current.status = .pending ∧ negative.level = .suspectedHarm) ∧ ∀ result ∈ results, replayMismatch result = true)
        ∧ negative.localContext = none ∧ OnHold view negative := by
    intro results
    unfold UsageView.proofValid OnHold
    simp only [Except.ok.injEq, Bool.and_eq_true, beq_iff_eq, List.all_eq_true, Option.any_eq_true, Option.isNone_iff_eq_none]
    tauto
  rw [review_isOk_iff hu rfl, publicationEvents_confirm, ← replays_iff]
  simp only [hvalid, reduceCtorEq, false_or]
  constructor
  · rintro ⟨hne, hafter, htime, ⟨results, hresults, htied, ⟨hpending, hfailed⟩, hcontext, -⟩, hhold⟩
    exact ⟨hpending, hne, ⟨hafter, results, hresults, htied, hfailed⟩, htime, hcontext, hhold⟩
  · rintro ⟨hpending, hne, ⟨hafter, results, hresults, htied, hfailed⟩, htime, hcontext, hhold⟩
    exact ⟨hne, hafter, htime, ⟨results, hresults, htied, ⟨hpending, hfailed⟩, hcontext, hhold⟩, hhold⟩

end Reviewer

/-! ## What the selector offers -/

theorem mem_of_mem_heads {results heads : List ResultEvidence} (h : negativeReviewCurrentResultHeads results = .ok heads)
    {head : ResultEvidence} (hhead : head ∈ heads) : head ∈ results := by
  unfold negativeReviewCurrentResultHeads at h
  obtain ⟨map, hmap, h⟩ := bind_eq_ok.mp h
  cases pure_eq_ok.mp h
  obtain ⟨id, hget⟩ := OrdMap.mem_values.mp hhead
  refine foldlM_inv (P := fun heads => ∀ id head, heads.get id = some head → head ∈ results) hmap ?_ ?_ id head hget
  · intro id head hget
    cases hget
  · intro value hvalue heads heads' hstep ih id head hget
    obtain ⟨-, hstep⟩ := ensure_bind_ok.mp hstep
    cases pure_eq_ok.mp hstep
    rw [OrdMap.get_insert] at hget
    split at hget
    · cases hget
      exact List.mem_of_mem_filter hvalue
    · exact ih id head hget

section Selector
variable {view : UsageView} {context : ReviewContext} {id : ProcedureNegativeEvidenceId}
  {current : ProcedureNegativeReviewEvent} {negative : ProcedureNegativeEvidence} {usage : ProcedureUsageRevision}
  {proofAfter : Nat} {heads : List ResultEvidence} {revision : RevisionId} {proof : ProcedureNegativeReviewProof}

/-- The evidence is valid and its usage is the one it speaks of. -/
def Matching (negative : ProcedureNegativeEvidence) (usage : ProcedureUsageRevision) : Prop :=
  negative.validate = true ∧ usage.procedureRevisionId = negative.procedureRevisionId ∧ usage.taskId = negative.taskId

theorem replays_of_uniform {holds : ResultEvidence → Bool}
    (hheads : (view.negativeReviewInputs revision).currentResultHeads = .ok heads)
    (h : (view.negativeReviewInputs revision).uniform holds
      ((view.negativeReviewInputs revision).resultsForUsage heads usage proofAfter) = true) :
    (view.negativeReviewInputs revision).resultsForUsage heads usage proofAfter ≠ []
      ∧ ∀ r ∈ (view.negativeReviewInputs revision).resultsForUsage heads usage proofAfter,
        Replays view usage proofAfter holds r := by
  unfold NegativeReviewInputs.uniform at h
  rw [Bool.and_eq_true, Bool.and_eq_true, Bool.not_eq_true', List.isEmpty_eq_false_iff, List.all_eq_true] at h
  refine ⟨h.1.1, fun r hr => ?_⟩
  have hsays := h.2 r hr
  rw [Option.any_eq_true] at hsays
  obtain ⟨result, hresult, hsays⟩ := hsays
  rw [Bool.and_eq_true] at hsays
  unfold NegativeReviewInputs.resultsForUsage at hr
  obtain ⟨head, hhead, rfl⟩ := List.mem_map.mp (List.mem_of_mem_take hr)
  obtain ⟨hhead, hmatches⟩ := List.mem_filter.mp hhead
  -- the current result is the one that is stored under its revision id
  have hstored : view.results.get head.revisionId = some head := by
    obtain ⟨key, hkey⟩ := OrdMap.mem_values.mp (mem_of_mem_heads (mapError_ok.mp hheads) hhead)
    rw [view.keyed key head hkey]
    exact hkey
  cases hresult.symm.trans hstored
  rw [Option.any_eq_true] at hmatches
  obtain ⟨seq, hseq, hmatches⟩ := hmatches
  unfold negativeReviewResultMatches at hmatches
  rw [Bool.and_eq_true, decide_eq_true_eq] at hmatches
  refine ⟨result, seq, hstored, hseq, hmatches.1, ?_, hsays.1⟩
  have hrun := hsays.2
  unfold ReviewFacts.runBound at hrun
  unfold ReviewFacts.tied
  have hattempt : ((view.runs.get result.experimentRunId).bind ExperimentRun.attemptId).any usage.attemptIds.contains = true :=
    hmatches.2
  change (view.runs.get result.experimentRunId).any _ = true at hrun
  cases hget : view.runs.get result.experimentRunId with
  | none =>
    rw [hget] at hrun
    cases hrun
  | some run =>
    rw [hget] at hrun hattempt
    exact Bool.and_eq_true_iff.mpr ⟨hrun, hattempt⟩

/-- **An offered resolution is taken.** -/
theorem offered_ineffective (hu : UnderReview view id current negative usage proofAfter) (hmatching : Matching negative usage)
    (hpending : current.status = .pending) (hlevel : negative.level = .ineffective)
    (h : (view.negativeReviewInputs negative.procedureRevisionId).ineffectiveProof negative usage = some proof)
    (htime : current.createdAtUs ≤ context.occurredAtUs) : (view.reviewProcedureNegative context id proof).isOk = true := by
  have hproof := h
  unfold NegativeReviewInputs.ineffectiveProof at h
  obtain ⟨ids, hids, h⟩ := Option.bind_eq_some_iff.mp h
  obtain rfl : proof = .ineffectiveResolved ids := by
    split at h
    · obtain ⟨attempt, -, h⟩ := Option.bind_eq_some_iff.mp h
      obtain ⟨results, -, h⟩ := Option.bind_eq_some_iff.mp h
      split at h
      · exact (Option.some.inj h).symm
      · cases h
    · cases h
  unfold NegativeReviewInputs.negativeResultRevisions at hids
  obtain ⟨parsed, hparsed, hids⟩ := Option.bind_eq_some_iff.mp hids
  split at hids
  case isFalse => cases hids
  case isTrue hchecks =>
  cases hids
  rw [Bool.and_eq_true, Bool.and_eq_true, Bool.not_eq_true', List.isEmpty_eq_false_iff, List.all_eq_true] at hchecks
  obtain ⟨⟨hne, -⟩, htied⟩ := hchecks
  -- the references are sorted, so the ids they read as are
  have htexts : ids.map Id.toText = negative.evidenceRefs := map_toText_of_fromStr hparsed
  have hsorted : sortUnique ids = ids := by
    refine sortUnique_eq_self (pairwise_of_toText ?_)
    have hvalid := hmatching.1
    unfold ProcedureNegativeEvidence.validate usageTexts at hvalid
    simp only [Bool.and_eq_true] at hvalid
    rw [htexts]
    exact L2.Recall.pairwise_of_strictlyIncreasing hvalid.1.1.1.1.1.1.1.2.1.2
  refine (review_isOk_iff hu rfl).mpr ⟨hne, .inl rfl, htime, ?_, publicationEvents_resolve⟩
  obtain ⟨results, hresults, hall⟩ := exists_results.mpr fun r hr => by
    have hr := htied r hr
    rw [Option.any_eq_true] at hr
    exact hr
  refine ⟨results, hresults, hall, ?_⟩
  unfold UsageView.proofValid
  rw [hsorted, htexts, hproof, hpending, hlevel]
  simp

/-- What is selected while the evidence is pending. -/
theorem selectNegativeReview_eq (hu : UnderReview view id current negative usage proofAfter)
    (hpending : current.status = .pending) (hmatching : Matching negative usage)
    (hheads : (view.negativeReviewInputs negative.procedureRevisionId).currentResultHeads = .ok heads) :
    view.selectNegativeReview id = .ok ((view.negativeReviewInputs negative.procedureRevisionId).offer current negative usage
      ((view.negativeReviewInputs negative.procedureRevisionId).resultsForUsage heads usage proofAfter)) := by
  have hnegative := (okOr_ok (e := SemanticServiceError.invalidInput)).mpr hu.recorded
  have hcurrent := (okOr_ok (e := SemanticServiceError.invalidInput)).mpr hu.reviewed
  have husage := (okOr_ok (e := SemanticServiceError.invalidInput)).mpr hu.used
  have hsince := (okOr_ok (e := SemanticServiceError.invalidInput)).mpr hu.since
  have hmatches : ensure SemanticServiceError.invalidInput (negative.validate
      && usage.procedureRevisionId == negative.procedureRevisionId && usage.taskId == negative.taskId) = .ok () := by
    rw [ensure_ok, hmatching.1, hmatching.2.1, hmatching.2.2]
    simp
  unfold UsageView.selectNegativeReview
  rw [hnegative, ok_bind]
  unfold NegativeReviewInputs.selectNegativeReview
  change (okOr SemanticServiceError.invalidInput (view.negatives.get id) >>= _) = _
  rw [hnegative, ok_bind]
  change (okOr SemanticServiceError.invalidInput (view.negativeReviews.get id) >>= _) = _
  rw [hcurrent, ok_bind, hpending, if_neg (by decide)]
  change (okOr SemanticServiceError.invalidInput (view.usages.get negative.procedureUsageId) >>= _) = _
  rw [husage, ok_bind, hmatches, ok_bind]
  change (okOr SemanticServiceError.invalidInput (view.proofAfter id) >>= _) = _
  rw [hsince, ok_bind, hheads, ok_bind]
  rfl

theorem of_selected {selection : ProcedureNegativeReviewSelection} (h : view.selectNegativeReview id = .ok selection)
    (hcurrent : view.negativeReviews.get id = some current) (hpending : current.status = .pending) :
    ∃ negative usage proofAfter heads, UnderReview view id current negative usage proofAfter ∧ Matching negative usage
      ∧ (view.negativeReviewInputs negative.procedureRevisionId).currentResultHeads = .ok heads
      ∧ selection = (view.negativeReviewInputs negative.procedureRevisionId).offer current negative usage
        ((view.negativeReviewInputs negative.procedureRevisionId).resultsForUsage heads usage proofAfter) := by
  obtain ⟨negative, hnegative, h⟩ := bind_eq_ok.mp h
  obtain ⟨negative', hnegative', h⟩ := bind_eq_ok.mp h
  have hnegative : view.negatives.get id = some negative := okOr_ok.mp hnegative
  have hnegative' : view.negatives.get id = some negative' := okOr_ok.mp hnegative'
  cases hnegative.symm.trans hnegative'
  obtain ⟨review, hreview, h⟩ := bind_eq_ok.mp h
  have hreview : view.negativeReviews.get id = some review := okOr_ok.mp hreview
  cases hcurrent.symm.trans hreview
  rw [hpending, if_neg (by decide)] at h
  obtain ⟨usage, husage, h⟩ := bind_eq_ok.mp h
  obtain ⟨hmatches, h⟩ := ensure_bind_ok.mp h
  obtain ⟨proofAfter, hsince, h⟩ := bind_eq_ok.mp h
  obtain ⟨heads, hheads, h⟩ := bind_eq_ok.mp h
  rw [Bool.and_eq_true, Bool.and_eq_true, beq_iff_eq, beq_iff_eq] at hmatches
  exact ⟨negative, usage, proofAfter, heads, ⟨hcurrent, hnegative, okOr_ok.mp husage, okOr_ok.mp hsince⟩,
    ⟨hmatches.1.1, hmatches.1.2, hmatches.2⟩, hheads, (pure_eq_ok.mp h).symm⟩

end Selector

end EverTrace.L2.Procedure
