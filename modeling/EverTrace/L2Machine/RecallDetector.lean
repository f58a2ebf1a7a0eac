import EverTrace.L2Machine.Constraint
import EverTrace.L2Machine.RecallLedger
import Mathlib.Data.Prod.Lex
/-!
# The recall worker (`evertrace-engine/src/recall/`)

For every open episode and lane the worker reads a context from the store: the
latest checkpoint, the current binding and the active recall needs. For each
need it decides whether it still holds (`currentNeedValidity`) and ends, re-arms
or abandons it; when no need was ended or re-armed it looks for a new one
(`detectCurrentContext`). What it decides is written as one journal command of
ledger events (`contextEvents` gives those of one context).

Ids drawn by `new_v7` are arguments. Of the lane, task, workstream, episode and
binding only the fields the worker reads are kept.
-/
namespace EverTrace.L2.Recall
open EverTrace.Lib EverTrace.L1 EverTrace.L1.Canonical EverTrace.L2.Work EverTrace.L2.Semantic

/-! ## The trigger index -/

/-- mirrors evertrace-domain/src/semantic/atom.rs:129-141 -/
inductive AtomScope where
  | task (taskId : TaskId)
  | worktree (repositoryInstanceId : RepositoryId) (worktreeInstanceId : WorktreeId)
  | repository (repositoryInstanceId : RepositoryId)
  | global
  deriving DecidableEq

/-- mirrors evertrace-domain/src/recall.rs:477-491, the fields the worker reads -/
structure FutureCueContract where
  futureCueContractId : Digest
  sourceRevisionId : RevisionId
  matchExpr : ConstraintExpr
  suppressExpr : ConstraintExpr
  resolveExpr : ConstraintExpr

/-- mirrors evertrace-engine/src/recall.rs:101-105 -/
structure RecallTriggerEntry where
  contract : FutureCueContract
  scope : AtomScope

/-- Both constructors of the source put the entries in the order of their contract ids, each id once.
mirrors evertrace-engine/src/recall.rs:107-113 -/
structure RecallTriggerIndex where
  entries : List RecallTriggerEntry
  sorted : entries.Pairwise fun a b =>
    a.contract.futureCueContractId.bytes < b.contract.futureCueContractId.bytes

/-- mirrors evertrace-engine/src/recall.rs:252-257 -/
structure FutureCueCandidateCondition where
  futureCueContractId : Digest
  matchTruth : ConstraintTruth
  suppressTruth : ConstraintTruth
  resolveTruth : ConstraintTruth

/-- The fields an entry is indexed under.
mirrors evertrace-engine/src/recall.rs:240-247 -/
def RecallTriggerEntry.fields (entry : RecallTriggerEntry) : List ConstraintField :=
  entry.contract.matchExpr.referencedFields ++ entry.contract.suppressExpr.referencedFields
    ++ entry.contract.resolveExpr.referencedFields

namespace RecallTriggerIndex

/-- mirrors evertrace-engine/src/recall.rs:199-203 -/
def entry (index : RecallTriggerIndex) (contractId : Digest) : Option RecallTriggerEntry :=
  index.entries.find? fun entry => entry.contract.futureCueContractId = contractId

/-- The entries indexed under a bound field, in order.
mirrors evertrace-engine/src/recall.rs:205-235 -/
def evaluate (index : RecallTriggerIndex) (current : ConstraintState) (previous : Option ConstraintState) :
    List FutureCueCandidateCondition :=
  if current.validate.toOption.isNone ∨ previous.any (fun state => state.validate.toOption.isNone) then []
  else
    let bindings := current.bindings ++ (previous.map ConstraintState.bindings).getD []
    let candidates := index.entries.filter fun entry =>
      bindings.any fun binding => entry.fields.contains binding.field
    candidates.map fun entry =>
      { futureCueContractId := entry.contract.futureCueContractId
        matchTruth := entry.contract.matchExpr.evaluate current previous
        suppressTruth := entry.contract.suppressExpr.evaluate current previous
        resolveTruth := entry.contract.resolveExpr.evaluate current previous }

end RecallTriggerIndex

/-! ## Checkpoints and contexts -/

/-- mirrors evertrace-domain/src/work/episode.rs:541-549 -/
inductive CheckpointReason where
  | stop
  | sessionEnd
  | compact
  | idle
  | phaseCandidate
  | manual
  deriving DecidableEq, Repr

/-- mirrors evertrace-domain/src/work/episode.rs:552-561 -/
def CheckpointReason.asStr : CheckpointReason → String
  | .stop => "stop"
  | .sessionEnd => "session_end"
  | .compact => "compact"
  | .idle => "idle"
  | .phaseCandidate => "phase_candidate"
  | .manual => "manual"

/-- mirrors evertrace-domain/src/work/episode.rs:580-601; `pending_delta_stats` is not read -/
structure WorkCheckpoint where
  episodeId : WorkEpisodeId
  episodeRevisionId : RevisionId
  sourceWatermark : UInt64
  activeAttemptIds : List AttemptId
  attemptRevisionRefs : List (AttemptId ×ₗ RevisionId)
  phaseContract : PhaseContract
  openLoops : List String
  verifierState : CheckpointVerifierState
  verifierRefs : List String
  currentWorktreeSnapshotId : Option WorktreeSnapshotId
  createdReason : CheckpointReason
  continuationCandidate : Bool
  activeLineageRefs : List String
  captureReceiptRevisionIds : List CaptureReceiptId
  captureGapRefs : List String
  captureOutageRefs : List CaptureOutageIntervalId
  algorithmRevision : UInt32

namespace WorkCheckpoint

/-- mirrors evertrace-domain/src/work/episode.rs:604-612 -/
def stableKey (c : WorkCheckpoint) : String :=
  c.episodeId.toText ++ ":" ++ toString c.sourceWatermark.toNat ++ ":" ++ c.createdReason.asStr ++ ":"
    ++ toString c.algorithmRevision.toNat

/-- mirrors evertrace-domain/src/work/episode.rs:614-630 -/
def validate (c : WorkCheckpoint) : Except WorkError Unit := do
  c.phaseContract.validate
  ensure .invalidWorkIdentity (c.sourceWatermark != 0 && c.algorithmRevision != 0 && ids c.activeAttemptIds
    && ids c.attemptRevisionRefs && refs c.openLoops && refs c.verifierRefs && refs c.activeLineageRefs
    && ids c.captureReceiptRevisionIds && refs c.captureGapRefs && ids c.captureOutageRefs)

/-- The key of a checkpoint is a text that a need can carry. -/
theorem boundedText_stableKey (c : WorkCheckpoint) : boundedText c.stableKey = true := by
  have hid := length_toText_le c.episodeId
  have hwatermark : (toString c.sourceWatermark.toNat).length ≤ 20 := by
    refine (Nat.length_repr_le_iff (by omega)).mpr ?_
    have := c.sourceWatermark.toNat_lt
    omega
  have halgorithm : (toString c.algorithmRevision.toNat).length ≤ 10 := by
    refine (Nat.length_repr_le_iff (by omega)).mpr ?_
    have := c.algorithmRevision.toNat_lt
    omega
  have hreason : c.createdReason.asStr.length ≤ 15 := by cases c.createdReason <;> decide
  have hcolon : ":".length = 1 := rfl
  have hlength : c.stableKey.length ≤ 93 ∧ 0 < c.stableKey.length := by
    unfold stableKey
    simp only [String.length_append]
    omega
  have hbytes := length_utf8_le c.stableKey
  have hne : utf8 c.stableKey ≠ [] := by
    intro h
    rw [utf8_eq_nil.mp h] at hlength
    simp at hlength
  unfold boundedText maxRecallText
  simp only [ne_eq, Bool.and_eq_true, decide_eq_true_eq]
  exact ⟨hne, by omega⟩

end WorkCheckpoint

/-- mirrors evertrace-store/src/projections.rs:235-249, the fields the worker reads: `hostSessionId` and
`executionLaneId` of the lane, the repository and worktree of the workstream -/
structure RecallCurrentContext where
  taskId : TaskId
  workstreamId : WorkstreamId
  repositoryInstanceId : Option RepositoryId
  activeWorktreeInstanceId : Option WorktreeId
  hostSessionId : String
  executionLaneId : ExecutionLaneId
  episodeRevisionId : RevisionId
  checkpoint : WorkCheckpoint
  previousCheckpoint : Option WorkCheckpoint
  workBindingRevisionId : WorkBindingRevisionId
  scopeEffectRefs : List ScopeEffectId
  needs : List RecallNeed

/-- mirrors evertrace-engine/src/recall/detector.rs:578-603; `phase_kind` there is `phaseText` -/
def checkpointState (checkpoint : WorkCheckpoint) : ConstraintState where
  bindings := sortByKey (fun binding => binding.field)
    [ ⟨.phaseKind, .text (phaseText checkpoint.phaseContract.phaseKind)⟩,
      ⟨.phase, .text checkpoint.phaseContract.phaseLabel⟩,
      ⟨.verifierState, .text (verifierText checkpoint.verifierState)⟩ ]

/-- mirrors evertrace-engine/src/recall/detector.rs:622-637 -/
def scopeMatches (context : RecallCurrentContext) : AtomScope → Bool
  | .task taskId => taskId == context.taskId
  | .repository repositoryInstanceId => some repositoryInstanceId == context.repositoryInstanceId
  | .worktree repositoryInstanceId worktreeInstanceId =>
    some repositoryInstanceId == context.repositoryInstanceId
      && some worktreeInstanceId == context.activeWorktreeInstanceId
  | .global => false

/-- mirrors evertrace-engine/src/recall/detector.rs:224-229 -/
def runtimeAnomaly (previous : Option WorkCheckpoint) (current : WorkCheckpoint) : Bool :=
  previous.any fun value => value.verifierState == .passed && current.verifierState == .failed

/-- The state a need of this context is triggered by. -/
def RecallCurrentContext.triggerState (context : RecallCurrentContext) : RecallTriggerState where
  phaseKind := context.checkpoint.phaseContract.phaseKind
  verifierState := context.checkpoint.verifierState
  attemptIds := context.checkpoint.activeAttemptIds
  worktreeSnapshotId := context.checkpoint.currentWorktreeSnapshotId
  bindingRevisionId := some context.workBindingRevisionId
  scopeEffectRefs := context.scopeEffectRefs

/-- An agent is to be reminded after a compaction that left something open. -/
def explicitRecovery (checkpoint : WorkCheckpoint) : Bool :=
  checkpoint.createdReason == .compact && checkpoint.continuationCandidate
    && (!checkpoint.openLoops.isEmpty || !checkpoint.activeAttemptIds.isEmpty)

/-- The plan for a trigger family and the contracts that matched. -/
def planFor (context : RecallCurrentContext) (family : TriggerFamily) (contracts : List FutureCueContract) :
    RecallPlan where
  reason := family.asStr
  normativeConstraintRefs := contracts.map fun contract => contract.sourceRevisionId.toText
  relevantEpisodeRevision := some context.episodeRevisionId
  applicableProcedureRevision := none
  openLoops := context.checkpoint.openLoops
  staleDeliveredObjects := []
  supportingEvidenceRefs := context.checkpoint.verifierRefs

/-- The revisions a need rests on: those of its contracts and the episode's. -/
def sourceRevisionsFor (context : RecallCurrentContext) (contracts : List FutureCueContract) : List RevisionId :=
  sortUnique (contracts.map FutureCueContract.sourceRevisionId ++ [context.episodeRevisionId])

/-! ## Validity of a need -/

/-- The errors of `StoreError` that the worker returns. -/
inductive DetectError where
  | storeCorrupt
  | serialization
  | invalidInput
  deriving DecidableEq, Repr

/-- mirrors evertrace-engine/src/recall/validation.rs:4-9 -/
inductive RecallNeedValidity where
  | valid
  | terminal (state : RecallObligationState)
  | unavailable
  deriving DecidableEq, Repr

/-- The loop over the matched contracts: the contracts of the index, or what the need has become.
mirrors evertrace-engine/src/recall/validation.rs:196-228 -/
def matchedContracts (context : RecallCurrentContext) (index : RecallTriggerIndex)
    (conditions : List FutureCueCandidateCondition) :
    List Digest → Except RecallNeedValidity (List FutureCueContract)
  | [] => .ok []
  | contractId :: rest =>
    match conditions.find? (fun value => value.futureCueContractId = contractId) with
    | none => .error (.terminal .superseded)
    | some condition =>
      if condition.resolveTruth = .true_ then .error (.terminal .resolved)
      else if condition.suppressTruth = .true_ then .error (.terminal .canceled)
      else if condition.matchTruth ≠ .true_ ∨ condition.suppressTruth ≠ .false_
          ∨ condition.resolveTruth ≠ .false_ then .error .unavailable
      else match (index.entry contractId).filter (fun entry => scopeMatches context entry.scope) with
        | none => .error .unavailable
        | some entry => (matchedContracts context index conditions rest).map (entry.contract :: ·)

/-- The contracts a need still rests on, `none` when its trigger is gone.
mirrors evertrace-engine/src/recall/validation.rs:183-231 -/
def expectedContracts (context : RecallCurrentContext) (index : RecallTriggerIndex) (need : RecallNeed) :
    Except RecallNeedValidity (Option (List FutureCueContract)) :=
  match need.triggerFamily with
  | .explicitOrRecovery => .ok (if explicitRecovery context.checkpoint then some [] else none)
  | .runtimeAnomaly =>
    .ok (if runtimeAnomaly context.previousCheckpoint context.checkpoint then some [] else none)
  | .prospectiveObligation =>
    (matchedContracts context index (index.evaluate (checkpointState context.checkpoint) none)
      need.matchedContractIds).map fun contracts => if contracts.isEmpty then none else some contracts

/-- The need was recorded for this very context.
mirrors evertrace-engine/src/recall/validation.rs:168-177 -/
def sameContext (context : RecallCurrentContext) (need : RecallNeed) : Bool :=
  need.sessionId == context.hostSessionId
    && need.executionLaneId == context.executionLaneId
    && need.taskId == context.taskId
    && need.workstreamId == context.workstreamId
    && need.episodeRevisionId == context.episodeRevisionId
    && need.repositoryId == context.repositoryInstanceId
    && need.worktreeId == context.activeWorktreeInstanceId
    && need.sourceWatermark == context.checkpoint.sourceWatermark
    && need.boundaryEventRef == context.checkpoint.stableKey
    && need.triggerState == context.triggerState

/-- mirrors evertrace-engine/src/recall/validation.rs:150-268, detector.rs:190-220 -/
def currentNeedValidity (H : Sha256) (context : RecallCurrentContext) (need : RecallNeed)
    (index : RecallTriggerIndex) (nowUs : Int64) : Except DetectError RecallNeedValidity :=
  if !need.validate H ∨ need.obligationState ≠ .active then .ok .unavailable
  else if need.obligationExpiresAtUs.any (fun expiry => expiry ≤ nowUs) then .ok (.terminal .expired)
  else if !sameContext context need then .ok (.terminal .superseded)
  else match expectedContracts context index need with
    | .error validity => .ok validity
    | .ok none => .ok (.terminal .superseded)
    | .ok (some contracts) =>
      let plan := planFor context need.triggerFamily contracts
      if need.sourceRevisionIds ≠ sourceRevisionsFor context contracts ∨ need.recallPlan ≠ plan then
        .ok (.terminal .superseded)
      else match plan.fingerprint H with
        | .error _ => .error .serialization
        | .ok fingerprint =>
          if need.recallPlanFingerprint ≠ fingerprint then .ok (.terminal .superseded) else .ok .valid

/-! ## Events -/

/-- The ids drawn by `new_v7`: for a new need, for its first revision, and for the next revision of a
need. -/
structure FreshIds where
  recallNeedId : RecallNeedId
  revisionId : RevisionId
  successor : RecallNeedId → RevisionId

/-- mirrors evertrace-domain/src/recall.rs:228-232 -/
def RecallNeed.seal (H : Sha256) (need : RecallNeed) : Except CanonicalError RecallNeed := do
  let fingerprint ← need.recallPlan.fingerprint H
  let need := { need with recallPlanFingerprint := fingerprint }
  let hash ← Recall.recallNeedHash H need
  return { need with recallNeedHash := hash }

/-- mirrors evertrace-engine/src/recall/validation.rs:11-28 -/
def terminalNeedEvent (H : Sha256) (fresh : FreshIds) (need : RecallNeed) (state : RecallObligationState) :
    Except DetectError RecallLedgerEvent := do
  ensure .invalidInput (need.obligationState == .active && state != .active)
  let successor ← ({ need with
    parentRevisionId := some need.revisionId
    revisionId := fresh.successor need.recallNeedId
    obligationState := state }.seal H).mapError fun _ => .serialization
  return .needRecorded successor

/-- `i64::saturating_add` -/
def saturatingAdd (a b : Int64) : Int64 := Int64.ofInt (max (-2 ^ 63) (min (2 ^ 63 - 1) (a.toInt + b.toInt)))

/-- mirrors evertrace-engine/src/recall/detector.rs:358-368 -/
def rearmEvent (H : Sha256) (fresh : FreshIds) (need : RecallNeed) (nowUs : Int64) :
    Except DetectError RecallLedgerEvent := do
  let successor ← ({ need with
    parentRevisionId := some need.revisionId
    revisionId := fresh.successor need.recallNeedId
    presentationExpiresAtUs := saturatingAdd nowUs 30000000 }.seal H).mapError fun _ => .storeCorrupt
  return .needRecorded successor

/-- What is done about one active need. -/
inductive NeedAction where
  | none
  | terminal (state : RecallObligationState)
  | rearm
  | abandon (attemptId : PresentationAttemptId)
  deriving DecidableEq

/-- mirrors evertrace-engine/src/recall/detector.rs:335-387 -/
def needAction (H : Sha256) (context : RecallCurrentContext) (index : RecallTriggerIndex) (nowUs : Int64)
    (abandonClaims : Bool) (need : RecallNeed) : Except DetectError NeedAction := do
  match ← currentNeedValidity H context need index nowUs with
  | .terminal state => return .terminal state
  | .unavailable => return .none
  | .valid =>
    if need.presentationExpiresAtUs ≤ nowUs ∧ need.activePresentationAttemptId = Option.none
        ∧ need.deliveryState.claimable then return .rearm
    else if need.deliveryState = .claimedForBoundary ∧ (abandonClaims ∨ need.presentationExpiresAtUs ≤ nowUs) then
      match need.activePresentationAttemptId with
      | some attemptId => return .abandon attemptId
      | Option.none => return .none
    else return .none

/-- The event of an action, and whether it ends the search for a new need.
mirrors evertrace-engine/src/recall/detector.rs:337-386 -/
def actionEvent (H : Sha256) (fresh : FreshIds) (need : RecallNeed) (nowUs : Int64) :
    NeedAction → Except DetectError (List RecallLedgerEvent × Bool)
  | .none => return ([], false)
  | .terminal state => do return ([← terminalNeedEvent H fresh need state], true)
  | .rearm => do return ([← rearmEvent H fresh need nowUs], true)
  | .abandon attemptId =>
    return ([.presentationAttempt
      { presentationAttemptId := attemptId
        recallNeedId := need.recallNeedId
        recallNeedHash := need.recallNeedHash
        boundaryEventRef := need.boundaryEventRef
        state := .presentationUnknown
        occurredAtUs := nowUs }], false)

/-! ## Detection -/

/-- The contracts whose condition holds and whose scope covers the context, by contract id.
mirrors evertrace-engine/src/recall/detector.rs:69-83 -/
def contractsFor (context : RecallCurrentContext) (index : RecallTriggerIndex)
    (conditions : List FutureCueCandidateCondition) : List FutureCueContract :=
  let held := conditions.filter fun condition => condition.matchTruth == .true_
    && condition.suppressTruth == .false_ && condition.resolveTruth == .false_
  sortByKey (fun contract => contract.futureCueContractId.bytes) (held.filterMap fun condition =>
    ((index.entry condition.futureCueContractId).filter fun entry => scopeMatches context entry.scope).map
      RecallTriggerEntry.contract)

/-- mirrors evertrace-engine/src/recall/detector.rs:84-96 -/
def triggerFamilyFor (context : RecallCurrentContext) (contracts : List FutureCueContract) : Option TriggerFamily :=
  if !contracts.isEmpty then some .prospectiveObligation
  else if runtimeAnomaly context.previousCheckpoint context.checkpoint then some .runtimeAnomaly
  else if explicitRecovery context.checkpoint then some .explicitOrRecovery
  else none

/-- What the conditions of its contracts have made of a prospective need.
mirrors evertrace-engine/src/recall/detector.rs:48-64 -/
def endedBy (conditions : List FutureCueCandidateCondition) (need : RecallNeed) : Option RecallObligationState :=
  if need.triggerFamily ≠ .prospectiveObligation then none
  else
    let matched := conditions.filter fun condition =>
      need.matchedContractIds.contains condition.futureCueContractId
    matched.foldl (fun terminal condition =>
      if condition.resolveTruth = .true_ then some .resolved
      else if condition.suppressTruth = .true_ then some .canceled
      else terminal) none

/-- What detection has decided, before the need is built. -/
inductive Detection where
  | none
  | ended (need : RecallNeed) (state : RecallObligationState)
  | record (family : TriggerFamily) (contracts : List FutureCueContract) (current : Option RecallNeed)

/-- mirrors evertrace-engine/src/recall/detector.rs:14-130 -/
def detection (context : RecallCurrentContext) (index : RecallTriggerIndex) (nowUs : Int64) :
    Except DetectError Detection :=
  let checkpoint := context.checkpoint
  if nowUs < 0 ∨ checkpoint.validate.toOption.isNone ∨ checkpoint.captureGapRefs ≠ []
      ∨ checkpoint.captureOutageRefs ≠ [] ∨ checkpoint.verifierState = .inconclusive then .ok .none
  else
    let existing := context.needs.filter fun need => need.boundaryEventRef = checkpoint.stableKey
    if existing.length > 1 then .error .storeCorrupt
    else
      let conditions := index.evaluate (checkpointState checkpoint) Option.none
      match existing.head?.bind fun need => (endedBy conditions need).map fun state => (need, state) with
      | some (need, state) => .ok (.ended need state)
      | Option.none =>
        let contracts := contractsFor context index conditions
        match triggerFamilyFor context contracts with
        | Option.none => .ok .none
        | some family =>
          if !(planFor context family contracts).validate then .ok .none
          else if existing.head?.any (fun need =>
              need.obligationState != .active || !need.deliveryState.claimable) then .ok .none
          else .ok (.record family contracts existing.head?)

/-- mirrors evertrace-engine/src/recall/detector.rs:131-184 -/
def detectedNeed (context : RecallCurrentContext) (nowUs : Int64) (fresh : FreshIds) (family : TriggerFamily)
    (contracts : List FutureCueContract) (current : Option RecallNeed) : RecallNeed where
  recallNeedId := (current.map RecallNeed.recallNeedId).getD fresh.recallNeedId
  revisionId := (current.map fun need => fresh.successor need.recallNeedId).getD fresh.revisionId
  parentRevisionId := current.map RecallNeed.revisionId
  recallNeedHash := ⟨List.replicate 32 0, length_zeros⟩
  triggerFamily := family
  sourceRevisionIds := sourceRevisionsFor context contracts
  matchedContractIds := contracts.map FutureCueContract.futureCueContractId
  sessionId := context.hostSessionId
  executionLaneId := context.executionLaneId
  taskId := context.taskId
  workstreamId := context.workstreamId
  episodeRevisionId := context.episodeRevisionId
  repositoryId := context.repositoryInstanceId
  worktreeId := context.activeWorktreeInstanceId
  boundaryEventRef := context.checkpoint.stableKey
  triggerState := context.triggerState
  sourceWatermark := context.checkpoint.sourceWatermark
  recallPlanFingerprint := ⟨List.replicate 32 0, length_zeros⟩
  recallPlan := planFor context family contracts
  deliveryState := (current.map RecallNeed.deliveryState).getD .detected
  agentResponse := (current.map RecallNeed.agentResponse).getD .notRetrieved
  obligationState := .active
  createdAtUs := (current.map RecallNeed.createdAtUs).getD nowUs
  presentationExpiresAtUs :=
    (current.map RecallNeed.presentationExpiresAtUs).getD (saturatingAdd nowUs 30000000)
  obligationExpiresAtUs := current.bind RecallNeed.obligationExpiresAtUs
  activePresentationAttemptId := current.bind RecallNeed.activePresentationAttemptId
  activeRetrievalRequestId := current.bind RecallNeed.activeRetrievalRequestId

/-- mirrors evertrace-engine/src/recall/detector.rs:14-188 -/
def detectCurrentContext (H : Sha256) (context : RecallCurrentContext) (index : RecallTriggerIndex)
    (nowUs : Int64) (fresh : FreshIds) : Except DetectError (Option RecallLedgerEvent) := do
  match ← detection context index nowUs with
  | .none => return none
  | .ended need state => do return some (← terminalNeedEvent H fresh need state)
  | .record family contracts current =>
    let need ← ((detectedNeed context nowUs fresh family contracts current).seal H).mapError fun _ => .serialization
    if current.any fun current => current.recallNeedHash = need.recallNeedHash then return none
    else return some (.needRecorded need)

/-- The events for the needs of a context, and whether one of them was ended or re-armed.
mirrors evertrace-engine/src/recall/detector.rs:333-387 -/
def needsEvents (H : Sha256) (context : RecallCurrentContext) (index : RecallTriggerIndex) (nowUs : Int64)
    (abandonClaims : Bool) (fresh : FreshIds) : List RecallNeed → Except DetectError (List RecallLedgerEvent × Bool)
  | [] => return ([], false)
  | need :: rest => do
    let action ← needAction H context index nowUs abandonClaims need
    let (events, terminalized) ← actionEvent H fresh need nowUs action
    let (later, terminalized') ← needsEvents H context index nowUs abandonClaims fresh rest
    return (events ++ later, terminalized || terminalized')

/-- The ledger events of one context, in the order they are written.
mirrors evertrace-engine/src/recall/detector.rs:325-394 -/
def contextEvents (H : Sha256) (context : RecallCurrentContext) (index : RecallTriggerIndex) (nowUs : Int64)
    (abandonClaims : Bool) (fresh : FreshIds) : Except DetectError (List RecallLedgerEvent) := do
  let (events, terminalized) ← needsEvents H context index nowUs abandonClaims fresh context.needs
  if terminalized then return events
  else
    let detected ← detectCurrentContext H context index nowUs fresh
    return events ++ detected.toList

end EverTrace.L2.Recall
