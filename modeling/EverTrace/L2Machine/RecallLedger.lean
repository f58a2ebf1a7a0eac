import EverTrace.L2Machine.Recall
import EverTrace.Lib.OrdMap
import EverTrace.Lib.Trace
import Mathlib.Data.Finset.Insert
/-!
# The recall ledger (`evertrace-store/src/projections/recall_ledger.rs`)

The ledger is the projection of the recall events of the journal. `apply`
checks one event against the current needs and either rejects it or advances
one need; it is modelled with its state threaded explicitly, so that what a
rejected event leaves behind is part of the model. `rows` writes the needs
out and `restore` reads one row back after a restart.

A row keeps its payload as the decoded event: the JSON text is not modelled.
-/
namespace EverTrace.L2.Recall
open EverTrace.Lib EverTrace.L1

inductive StoreError where
  | storeCorrupt
  deriving DecidableEq, Repr

/-- mirrors evertrace-store/src/projections/recall_ledger.rs:18-24 -/
structure RecallLedgerState where
  needs : OrdMap RecallNeedId (RecallNeed × UInt64)
  presentationAttempts : Finset PresentationAttemptId
  lastPresentationAttempts : OrdMap RecallNeedId PresentationAttemptId

def RecallLedgerState.empty : RecallLedgerState := ⟨.empty, ∅, .empty⟩

/-- mirrors evertrace-store/src/projections/recall_ledger.rs:244-256 -/
def sameNeedIdentity (current next : RecallNeed) : Bool :=
  current.recallNeedId == next.recallNeedId
    && current.sessionId == next.sessionId
    && current.executionLaneId == next.executionLaneId
    && current.taskId == next.taskId
    && current.workstreamId == next.workstreamId
    && current.episodeRevisionId == next.episodeRevisionId
    && current.repositoryId == next.repositoryId
    && current.worktreeId == next.worktreeId
    && current.boundaryEventRef == next.boundaryEventRef
    && current.createdAtUs == next.createdAtUs
    && current.obligationExpiresAtUs == next.obligationExpiresAtUs

/-- mirrors evertrace-store/src/projections/recall_ledger.rs:258-263 -/
def sameDeliveryAndAgentAxes (current next : RecallNeed) : Bool :=
  current.deliveryState == next.deliveryState
    && current.agentResponse == next.agentResponse
    && current.activePresentationAttemptId == next.activePresentationAttemptId
    && current.activeRetrievalRequestId == next.activeRetrievalRequestId

/-- The plan fields that a successor with the same plan must repeat. -/
def samePlan (current next : RecallNeed) : Bool :=
  current.recallNeedHash == next.recallNeedHash
    && current.recallPlanFingerprint == next.recallPlanFingerprint
    && current.triggerFamily == next.triggerFamily
    && current.sourceRevisionIds == next.sourceRevisionIds
    && current.matchedContractIds == next.matchedContractIds
    && current.triggerState == next.triggerState
    && current.sourceWatermark == next.sourceWatermark
    && current.recallPlan == next.recallPlan

/-- mirrors evertrace-store/src/projections/recall_ledger.rs:265-305 -/
def legalObligationSuccessor (current next : RecallNeed) : Bool :=
  if current.obligationState ≠ .active then false
  else if next.obligationState = .active then
    let mutablePlan := current.deliveryState.claimable
      && (current.recallNeedHash != next.recallNeedHash
        || current.recallPlanFingerprint != next.recallPlanFingerprint)
      && current.presentationExpiresAtUs == next.presentationExpiresAtUs
    let rearm := current.deliveryState.claimable
      && current.activePresentationAttemptId.isNone
      && samePlan current next
      && next.presentationExpiresAtUs > current.presentationExpiresAtUs
    mutablePlan || rearm
  else samePlan current next && current.presentationExpiresAtUs == next.presentationExpiresAtUs

/-- mirrors evertrace-store/src/projections/recall_ledger.rs:136-156 -/
def recordNeed (s : RecallLedgerState) (need : RecallNeed) (seq : UInt64) :
    Except StoreError Unit × RecallLedgerState :=
  let refused : Bool := match s.needs.get need.recallNeedId with
    | some (current, _) =>
      need.parentRevisionId != some current.revisionId
        || !sameNeedIdentity current need
        || !sameDeliveryAndAgentAxes current need
        || !legalObligationSuccessor current need
    | none =>
      need.parentRevisionId.isSome
        || need.deliveryState != .detected
        || need.agentResponse != .notRetrieved
        || need.obligationState != .active
        || need.activePresentationAttemptId.isSome
        || need.activeRetrievalRequestId.isSome
  if refused then (.error .storeCorrupt, s)
  else (.ok (), { s with needs := s.needs.insert need.recallNeedId (need, seq) })

/-- The delivery state an attempt outcome leads to. -/
def PresentationAttemptState.delivery : PresentationAttemptState → RecallDeliveryState
  | .claimedForBoundary => .claimedForBoundary
  | .failedPreEmit => .failedPreEmit
  | .emitted => .emitted
  | .hostPresented => .hostPresented
  | .presentationUnknown => .presentationUnknown

/-- mirrors evertrace-store/src/projections/recall_ledger.rs:33-95 -/
def applyAttempt (s : RecallLedgerState) (attempt : RecallPresentationAttempt) (seq : UInt64) :
    Except StoreError Unit × RecallLedgerState :=
  match s.needs.get attempt.recallNeedId with
  | none => (.error .storeCorrupt, s)
  | some (need, _) =>
    if need.recallNeedHash ≠ attempt.recallNeedHash
        ∨ need.boundaryEventRef ≠ attempt.boundaryEventRef
        ∨ need.obligationState ≠ .active then (.error .storeCorrupt, s)
    else if attempt.state = .claimedForBoundary then
      if attempt.presentationAttemptId ∈ s.presentationAttempts ∨ !need.deliveryState.claimable then
        (.error .storeCorrupt, s)
      else
        let need := { need with
          activePresentationAttemptId := some attempt.presentationAttemptId
          deliveryState := .claimedForBoundary }
        (.ok (), {
          needs := s.needs.insert attempt.recallNeedId (need, seq)
          presentationAttempts := insert attempt.presentationAttemptId s.presentationAttempts
          lastPresentationAttempts :=
            s.lastPresentationAttempts.insert attempt.recallNeedId attempt.presentationAttemptId })
    else if attempt.presentationAttemptId ∉ s.presentationAttempts
        ∨ need.activePresentationAttemptId ≠ some attempt.presentationAttemptId
        ∨ need.deliveryState ≠ .claimedForBoundary then (.error .storeCorrupt, s)
    else
      let need := { need with
        deliveryState := attempt.state.delivery
        activePresentationAttemptId :=
          if attempt.state = .failedPreEmit then none else need.activePresentationAttemptId }
      (.ok (), { s with needs := s.needs.insert attempt.recallNeedId (need, seq) })

/-- mirrors evertrace-store/src/projections/recall_ledger.rs:96-132 -/
def applyOutcome (s : RecallLedgerState) (outcome : RecallRetrievalOutcome) (seq : UInt64) :
    Except StoreError Unit × RecallLedgerState :=
  match s.needs.get outcome.recallNeedId with
  | none => (.error .storeCorrupt, s)
  | some (need, _) =>
    if need.recallNeedHash ≠ outcome.recallNeedHash ∨ need.obligationState ≠ .active then
      (.error .storeCorrupt, s)
    else if outcome.state = .claimed then
      if need.agentResponse ≠ .notRetrieved ∨ need.activeRetrievalRequestId.isSome then
        (.error .storeCorrupt, s)
      else
        let need := { need with
          activeRetrievalRequestId := some outcome.requestId
          agentResponse := .retrievalClaimed }
        (.ok (), { s with needs := s.needs.insert outcome.recallNeedId (need, seq) })
    else if need.agentResponse ≠ .retrievalClaimed
        ∨ need.activeRetrievalRequestId ≠ some outcome.requestId then (.error .storeCorrupt, s)
    else
      let need := { need with
        agentResponse := if outcome.state = .returned then .retrievalReturned else .retrievalUnknown }
      (.ok (), { s with needs := s.needs.insert outcome.recallNeedId (need, seq) })

/-- mirrors evertrace-store/src/projections/recall_ledger.rs:27-134 -/
def apply (H : Sha256) (s : RecallLedgerState) (event : RecallLedgerEvent) (seq : UInt64) :
    Except StoreError Unit × RecallLedgerState :=
  if !event.validate H then (.error .storeCorrupt, s)
  else match event with
    | .needRecorded need => recordNeed s need seq
    | .presentationAttempt attempt => applyAttempt s attempt seq
    | .retrievalOutcome outcome => applyOutcome s outcome seq

/-! ## Rows -/

inductive ObjectRowKind where
  | data
  | checkpoint
  deriving DecidableEq, Repr

inductive ObjectRowClass where
  | object
  | runtime
  | projection
  deriving DecidableEq, Repr

inductive ObjectFamily where
  | evidence
  | work
  | atom
  | procedure
  | revisionProposal
  deriving DecidableEq, Repr

/-- mirrors evertrace-store/src/objects.rs:256-278; `payload` is the decoded `payload_json` -/
structure ObjectRow where
  rowId : String
  rowKind : ObjectRowKind
  rowClass : Option ObjectRowClass
  objectFamily : Option ObjectFamily
  objectKind : Option String
  objectId : Option String
  currentRevisionId : Option String
  lifecycle : Option String
  epistemic : Option String
  authority : Option String
  publicationState : Option String
  supportState : Option String
  projectId : Option String
  repositoryId : Option String
  worktreeId : Option String
  taskId : Option String
  workstreamId : Option String
  sessionId : Option String
  payload : Option RecallLedgerEvent
  sourceEventSeq : UInt64
  projectionGeneration : UInt64
  deriving DecidableEq

def recallNeedKind : String := "recall_need"

def needRowId (id : RecallNeedId) : String := "runtime:recall_need:" ++ id.toText

/-- mirrors evertrace-store/src/projections/recall_ledger.rs:188-225 -/
def needRow (generation : UInt64) (need : RecallNeed) (sourceEventSeq : UInt64) : ObjectRow where
  rowId := needRowId need.recallNeedId
  rowKind := .data
  rowClass := some .runtime
  objectFamily := none
  objectKind := some recallNeedKind
  objectId := none
  currentRevisionId := some need.revisionId.toText
  lifecycle := some (if need.obligationState = .active then "active" else "inactive")
  epistemic := some "runtime_ledger"
  authority := some "none"
  publicationState := none
  supportState := none
  projectId := none
  repositoryId := need.repositoryId.map Id.toText
  worktreeId := need.worktreeId.map Id.toText
  taskId := some need.taskId.toText
  workstreamId := some need.workstreamId.toText
  sessionId := some need.sessionId
  payload := some (.needRecorded need)
  sourceEventSeq := sourceEventSeq
  projectionGeneration := generation

def entryRow (generation : UInt64) (entry : RecallNeedId × RecallNeed × UInt64) : ObjectRow :=
  needRow generation entry.2.1 entry.2.2

/-- mirrors evertrace-store/src/projections/recall_ledger.rs:184-228 -/
def rows (s : RecallLedgerState) (generation : UInt64) : List ObjectRow :=
  s.needs.entries.map (entryRow generation)

/-- mirrors evertrace-store/src/projections/recall_ledger.rs:158-182 -/
def restore (H : Sha256) (s : RecallLedgerState) (row : ObjectRow) (need : RecallNeed) :
    Except StoreError Unit × RecallLedgerState :=
  if row.rowKind ≠ .data
      ∨ row.rowClass ≠ some .runtime
      ∨ row.objectFamily.isSome
      ∨ row.objectKind ≠ some recallNeedKind
      ∨ row.objectId.isSome
      ∨ row.currentRevisionId ≠ some need.revisionId.toText
      ∨ row.rowId ≠ needRowId need.recallNeedId
      ∨ !need.validate H
      ∨ (s.needs.get need.recallNeedId).isSome then (.error .storeCorrupt, s)
  else match need.activePresentationAttemptId with
    | none => (.ok (), { s with needs := s.needs.insert need.recallNeedId (need, row.sourceEventSeq) })
    | some attemptId =>
      if attemptId ∈ s.presentationAttempts then (.error .storeCorrupt, s)
      else
        (.ok (), {
          needs := s.needs.insert need.recallNeedId (need, row.sourceEventSeq)
          presentationAttempts := insert attemptId s.presentationAttempts
          lastPresentationAttempts := s.lastPresentationAttempts.insert need.recallNeedId attemptId })

/-- mirrors evertrace-store/src/projections/recall_ledger.rs:307-330 -/
def needOfRow (H : Sha256) (row : ObjectRow) : Except StoreError (Option RecallNeed) :=
  if row.objectKind ≠ some recallNeedKind then .ok none
  else match row.payload with
    | some (.needRecorded need) => if !need.validate H then .error .storeCorrupt else .ok (some need)
    | _ => .error .storeCorrupt

/-- The reading of the recall rows after a restart, one after another.
mirrors evertrace-store/src/projections.rs:13887-13890 -/
def restoreRows (H : Sha256) : RecallLedgerState → List ObjectRow → Except StoreError RecallLedgerState
  | s, [] => .ok s
  | s, row :: rest =>
    match needOfRow H row with
    | .error e => .error e
    | .ok none => restoreRows H s rest
    | .ok (some need) =>
      match restore H s row need with
      | (.error e, _) => .error e
      | (.ok (), s') => restoreRows H s' rest

/-! ## What one event does -/

def RecallLedgerEvent.needId : RecallLedgerEvent → RecallNeedId
  | .needRecorded need => need.recallNeedId
  | .presentationAttempt attempt => attempt.recallNeedId
  | .retrievalOutcome outcome => outcome.recallNeedId

/-- What an accepted event found and did, one constructor for each way of being accepted. -/
inductive Step (H : Sha256) (s : RecallLedgerState) (seq : UInt64) :
    RecallLedgerEvent → RecallLedgerState → Prop
  | recordFirst {need : RecallNeed} (valid : need.validate H = true)
      (absent : s.needs.get need.recallNeedId = none)
      (delivery : need.deliveryState = .detected) (response : need.agentResponse = .notRetrieved)
      (obligation : need.obligationState = .active) (attempt : need.activePresentationAttemptId = none)
      (request : need.activeRetrievalRequestId = none) :
      Step H s seq (.needRecorded need)
        { s with needs := s.needs.insert need.recallNeedId (need, seq) }
  | recordNext {need current : RecallNeed} {q : UInt64} (valid : need.validate H = true)
      (found : s.needs.get need.recallNeedId = some (current, q))
      (identity : sameNeedIdentity current need = true)
      (axes : sameDeliveryAndAgentAxes current need = true)
      (legal : legalObligationSuccessor current need = true) :
      Step H s seq (.needRecorded need)
        { s with needs := s.needs.insert need.recallNeedId (need, seq) }
  | claim {attempt : RecallPresentationAttempt} {need : RecallNeed} {q : UInt64}
      (found : s.needs.get attempt.recallNeedId = some (need, q))
      (active : need.obligationState = .active) (state : attempt.state = .claimedForBoundary)
      (fresh : attempt.presentationAttemptId ∉ s.presentationAttempts)
      (claimable : need.deliveryState.claimable = true) :
      Step H s seq (.presentationAttempt attempt)
        { needs := s.needs.insert attempt.recallNeedId ({ need with
            activePresentationAttemptId := some attempt.presentationAttemptId
            deliveryState := .claimedForBoundary }, seq)
          presentationAttempts := insert attempt.presentationAttemptId s.presentationAttempts
          lastPresentationAttempts :=
            s.lastPresentationAttempts.insert attempt.recallNeedId attempt.presentationAttemptId }
  | finish {attempt : RecallPresentationAttempt} {need : RecallNeed} {q : UInt64}
      (found : s.needs.get attempt.recallNeedId = some (need, q))
      (active : need.obligationState = .active) (state : attempt.state ≠ .claimedForBoundary)
      (own : need.activePresentationAttemptId = some attempt.presentationAttemptId)
      (claimed : need.deliveryState = .claimedForBoundary) :
      Step H s seq (.presentationAttempt attempt)
        { s with needs := s.needs.insert attempt.recallNeedId ({ need with
            deliveryState := attempt.state.delivery
            activePresentationAttemptId :=
              if attempt.state = .failedPreEmit then none else need.activePresentationAttemptId }, seq) }
  | retrieve {outcome : RecallRetrievalOutcome} {need : RecallNeed} {q : UInt64}
      (text : boundedText outcome.requestId = true)
      (found : s.needs.get outcome.recallNeedId = some (need, q))
      (active : need.obligationState = .active) (state : outcome.state = .claimed)
      (response : need.agentResponse = .notRetrieved) (free : need.activeRetrievalRequestId = none) :
      Step H s seq (.retrievalOutcome outcome)
        { s with needs := s.needs.insert outcome.recallNeedId ({ need with
            activeRetrievalRequestId := some outcome.requestId
            agentResponse := .retrievalClaimed }, seq) }
  | retrieved {outcome : RecallRetrievalOutcome} {need : RecallNeed} {q : UInt64}
      (found : s.needs.get outcome.recallNeedId = some (need, q))
      (active : need.obligationState = .active) (state : outcome.state ≠ .claimed)
      (response : need.agentResponse = .retrievalClaimed)
      (own : need.activeRetrievalRequestId = some outcome.requestId) :
      Step H s seq (.retrievalOutcome outcome)
        { s with needs := s.needs.insert outcome.recallNeedId ({ need with
            agentResponse :=
              if outcome.state = .returned then .retrievalReturned else .retrievalUnknown }, seq) }

/-- `event` was accepted with result `r`, or refused and the ledger left as it was. -/
def Outcome (H : Sha256) (s : RecallLedgerState) (event : RecallLedgerEvent) (seq : UInt64)
    (r : Except StoreError Unit × RecallLedgerState) : Prop :=
  (r.1 = .ok () ∧ Step H s seq event r.2) ∨ (r.1 = .error .storeCorrupt ∧ r.2 = s)

theorem recordNeed_outcome {H : Sha256} {s : RecallLedgerState} {need : RecallNeed} {seq : UInt64}
    (valid : need.validate H = true) : Outcome H s (.needRecorded need) seq (recordNeed s need seq) := by
  unfold recordNeed
  cases found : s.needs.get need.recallNeedId with
  | none =>
    dsimp only
    split
    · exact .inr ⟨rfl, rfl⟩
    · next h =>
      simp only [Bool.or_eq_true, bne_iff_ne, Option.isSome_iff_ne_none, not_or, not_not] at h
      exact .inl ⟨rfl, .recordFirst valid found h.1.1.1.1.2 h.1.1.1.2 h.1.1.2 h.1.2 h.2⟩
  | some p =>
    obtain ⟨current, q⟩ := p
    dsimp only
    split
    · exact .inr ⟨rfl, rfl⟩
    · next h =>
      simp only [Bool.or_eq_true, Bool.not_eq_true', not_or, Bool.not_eq_false] at h
      exact .inl ⟨rfl, .recordNext valid found h.1.1.2 h.1.2 h.2⟩

theorem applyAttempt_outcome {H : Sha256} {s : RecallLedgerState} {attempt : RecallPresentationAttempt}
    {seq : UInt64} : Outcome H s (.presentationAttempt attempt) seq (applyAttempt s attempt seq) := by
  unfold applyAttempt
  cases found : s.needs.get attempt.recallNeedId with
  | none => exact .inr ⟨rfl, rfl⟩
  | some p =>
    obtain ⟨need, q⟩ := p
    dsimp only
    split
    · exact .inr ⟨rfl, rfl⟩
    next hbound =>
    simp only [not_or, not_not] at hbound
    split
    · next hstate =>
      split
      · exact .inr ⟨rfl, rfl⟩
      · next hfree =>
        simp only [not_or, Bool.not_eq_true', Bool.not_eq_false] at hfree
        exact .inl ⟨rfl, .claim found hbound.2.2 hstate hfree.1 hfree.2⟩
    · next hstate =>
      split
      · exact .inr ⟨rfl, rfl⟩
      · next hown =>
        simp only [not_or, not_not] at hown
        exact .inl ⟨rfl, .finish found hbound.2.2 hstate hown.2.1 hown.2.2⟩

theorem applyOutcome_outcome {H : Sha256} {s : RecallLedgerState} {outcome : RecallRetrievalOutcome}
    {seq : UInt64} (text : boundedText outcome.requestId = true) :
    Outcome H s (.retrievalOutcome outcome) seq (applyOutcome s outcome seq) := by
  unfold applyOutcome
  cases found : s.needs.get outcome.recallNeedId with
  | none => exact .inr ⟨rfl, rfl⟩
  | some p =>
    obtain ⟨need, q⟩ := p
    dsimp only
    split
    · exact .inr ⟨rfl, rfl⟩
    next hbound =>
    simp only [not_or, not_not] at hbound
    split
    · next hstate =>
      split
      · exact .inr ⟨rfl, rfl⟩
      · next hfree =>
        simp only [not_or, not_not, Bool.not_eq_true, Option.isSome_eq_false_iff,
          Option.isNone_iff_eq_none] at hfree
        exact .inl ⟨rfl, .retrieve text found hbound.2 hstate hfree.1 hfree.2⟩
    · next hstate =>
      split
      · exact .inr ⟨rfl, rfl⟩
      · next hown =>
        simp only [not_or, not_not] at hown
        exact .inl ⟨rfl, .retrieved found hbound.2 hstate hown.1 hown.2⟩

/-- Every call of `apply` takes one `Step`, or is refused and changes nothing. -/
theorem apply_outcome (H : Sha256) (s : RecallLedgerState) (event : RecallLedgerEvent) (seq : UInt64) :
    Outcome H s event seq (apply H s event seq) := by
  unfold apply
  split
  · exact .inr ⟨rfl, rfl⟩
  next hvalid =>
  simp only [Bool.not_eq_true', Bool.not_eq_false] at hvalid
  cases event with
  | needRecorded need => exact recordNeed_outcome hvalid
  | presentationAttempt attempt => exact applyAttempt_outcome
  | retrievalOutcome outcome =>
    simp only [RecallLedgerEvent.validate, Bool.and_eq_true] at hvalid
    exact applyOutcome_outcome hvalid.1

end EverTrace.L2.Recall
