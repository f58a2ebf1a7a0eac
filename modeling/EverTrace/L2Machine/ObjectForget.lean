import EverTrace.L2Machine.Admission
import EverTrace.L2Machine.Evidence
import EverTrace.L2Machine.Purge
import EverTrace.L2Machine.ScenarioCore
import EverTrace.Lib.KeySort
import EverTrace.Lib.SortedSet
import Mathlib.Data.List.ReduceOption
/-!
# Forgetting an object (`evertrace-store/src/purge.rs`, `query/derive.rs`)

A deletion is shown before it is made: the preview collects the object's
revisions, four digests that stand for its content, and the hashes under which
its sources are kept out of later retrievals. `pending_object_deletion` turns a
preview into the ledger event and the job that deletes, `purged_object_deletion`
ends both.
-/
namespace EverTrace.L2.Purge
open EverTrace.Lib EverTrace.L1 EverTrace.L1.Canonical EverTrace.L1.Protect EverTrace.L2.Store EverTrace.L2.Work

/-! ## Jobs -/

/-- mirrors evertrace-store/src/command.rs:164-169 -/
inductive JobStatus where
  | queued
  | leased
  | succeeded
  | failed
  deriving DecidableEq

/-- mirrors evertrace-store/src/command.rs:173-180 -/
structure JobBudget where
  maxItems : Nat
  maxBytes : Option Nat
  maxInputTokens : Option Nat
  maxOutputTokens : Option Nat
  maxCalls : Option Nat
  maxWallTimeMs : Nat
  deriving DecidableEq

/-- mirrors evertrace-store/src/command.rs:184-187 -/
inductive JobTerminalOutcome where
  | succeeded
  | failed
  deriving DecidableEq

/-- mirrors evertrace-store/src/command.rs:191-200 -/
inductive JobTerminalReason where
  | completed
  | staleGeneration
  | budgetExhausted
  | sourceUnavailable
  | unsupported
  | sourceReplaced
  | revoked
  | integrityFailure
  deriving DecidableEq

/-- mirrors evertrace-store/src/command.rs:204-208 -/
structure JobTerminalAudit where
  outcome : JobTerminalOutcome
  reason : JobTerminalReason
  resultRef : Option String
  deriving DecidableEq

/-- mirrors evertrace-store/src/command.rs:275-292 -/
structure DurableJob where
  jobId : JobId
  idempotencyKey : String
  targetRevision : String
  targetWatermark : Nat
  targetGeneration : Nat
  kind : String
  algorithmRevision : String
  modelId : Option String
  priority : Int
  state : JobStatus
  attempt : Nat
  backoffUntilUs : Option Int
  configHash : Bytes
  budget : JobBudget
  terminal : Option JobTerminalAudit
  leaseUntilUs : Option Int
  deriving DecidableEq

/-- mirrors evertrace-store/src/command.rs:296-301 -/
structure JobLease where
  jobId : JobId
  targetGeneration : Nat
  attempt : Nat
  leaseUntilUs : Int
  deriving DecidableEq

/-! ## What a preview is made of -/

/-- mirrors evertrace-domain/src/purge.rs:40-46 -/
def ObjectDeletionTarget.kindName : ObjectDeletionTarget → String
  | .atom _ => "atom"
  | .procedure _ => "procedure"
  | .coreMembership _ => "core_membership"

/-- mirrors evertrace-domain/src/purge.rs:170-175 -/
structure ObjectDeletionGuards where
  semanticKindHash : String
  canonicalPayloadHash : String
  scopeIdentityHash : String
  sourceDerivationGuardHash : String
  deriving DecidableEq

/-- mirrors evertrace-domain/src/purge.rs:384-386 -/
def digest (H : Sha256) (domain : String) (value : CanonicalValue) : Option String :=
  (Canonical.sha256 H domain 1 value).toOption.map fun value => hex value.bytes

def strings (values : List String) : CanonicalValue := .sequence (values.map .string)

/-- mirrors evertrace-domain/src/purge.rs:179-235 -/
def ObjectDeletionGuards.derive (H : Sha256) (target : ObjectDeletionTarget) (semanticKind : String)
    (canonicalPayloads : List String) (scopeIdentity : String) (sourceDerivationRefs : List String) :
    Option ObjectDeletionGuards := do
  if semanticKind.isEmpty || canonicalPayloads.isEmpty || canonicalPayloads.any String.isEmpty || scopeIdentity.isEmpty
      || !strictlySorted sourceDerivationRefs then none
  else
    let semanticKindHash ← digest H "object_deletion_semantic_kind" (strings [target.kindName, semanticKind])
    let canonicalPayloadHash ← digest H "object_deletion_canonical_payload" (strings canonicalPayloads)
    let scopeIdentityHash ← digest H "object_deletion_scope_identity" (strings [target.kindName, scopeIdentity])
    let sourceDerivationGuardHash ← digest H "object_deletion_source_derivation_guard"
      (.sequence [.string target.kindName, .string semanticKind, .string scopeIdentity, strings sourceDerivationRefs])
    some { semanticKindHash, canonicalPayloadHash, scopeIdentityHash, sourceDerivationGuardHash }

/-- mirrors evertrace-store/src/purge.rs:77-84 -/
structure ObjectDeletionRevisionFact where
  revisionId : RevisionId
  canonicalPayload : String
  semanticKind : String
  scopeIdentity : String
  sourceDerivationRefs : List String
  current : Bool
  deriving DecidableEq

/-- mirrors evertrace-store/src/purge.rs:94-97 -/
structure ObjectDeletionSupportImpact where
  currentValidation : Semantic.GlobalSupportValidationEvent
  triggerRefs : List String
  deriving DecidableEq

/-- mirrors evertrace-domain/src/procedure.rs:297-304 -/
inductive ProcedurePublicationState where
  | activeProbationary
  | reviewHold
  | activeStable
  | suspended
  | rolledBack
  | superseded
  deriving DecidableEq

/-- mirrors evertrace-domain/src/procedure.rs:308-321 -/
inductive ProcedureStateReason where
  | accepted
  | supportPending
  | supportRestored
  | objectiveSuccesses
  | irConflict
  | suspectedHarm
  | confirmedHarm
  | evidenceInvalidated
  | contractInvalidated
  | manual
  | replaced
  | rollback
  deriving DecidableEq

/-- mirrors evertrace-domain/src/procedure.rs:325-334 -/
structure ProcedureStateEvent where
  stateEventId : RevisionId
  procedureRevisionId : RevisionId
  fromState : Option ProcedurePublicationState
  toState : ProcedurePublicationState
  reason : ProcedureStateReason
  resumeState : Option ProcedurePublicationState
  evidenceRefs : List String
  createdAtUs : Int
  deriving DecidableEq

namespace ProcedureStateEvent

/-- The moves between publication states.
mirrors evertrace-domain/src/procedure.rs:357-373 -/
def allowed : ProcedurePublicationState → ProcedurePublicationState → Bool
  | .activeProbationary, .reviewHold | .activeProbationary, .activeStable | .activeProbationary, .suspended
  | .activeProbationary, .rolledBack | .activeProbationary, .superseded => true
  | .activeStable, .reviewHold | .activeStable, .suspended | .activeStable, .rolledBack
  | .activeStable, .superseded => true
  | .reviewHold, .activeProbationary | .reviewHold, .suspended | .reviewHold, .superseded => true
  | .suspended, .activeProbationary | .suspended, .rolledBack | .suspended, .superseded => true
  | .rolledBack, .superseded => true
  | .superseded, .activeProbationary => true
  | _, _ => false

/-- mirrors evertrace-domain/src/procedure.rs:351-383 -/
def transitionAllowed (e : ProcedureStateEvent) : Bool :=
  match e.fromState with
  | none => e.resumeState.isNone
  | some source =>
    allowed source e.toState
      && (if e.toState = .reviewHold then e.resumeState == some source else e.resumeState.isNone)
      && (source != .superseded || e.toState != .activeProbationary || e.reason == .rollback)

/-- mirrors evertrace-domain/src/procedure.rs:337-349 -/
def validate (e : ProcedureStateEvent) : Bool :=
  !(e.createdAtUs < 0
    || e.evidenceRefs.isEmpty
    || !Semantic.sortedText e.evidenceRefs
    || (e.fromState.isNone && e.toState != .activeProbationary)
    || (e.fromState.isNone && e.reason != .accepted)
    || !e.transitionAllowed)

end ProcedureStateEvent

/-- mirrors evertrace-store/src/purge.rs:100-103 -/
structure ObjectDeletionProcedureImpact where
  currentState : ProcedureStateEvent
  triggerRefs : List String
  deriving DecidableEq

/-! ## Sources kept out of retrieval -/

/-- The fields of a surface that its check and its suppression read; the instruction
authority has one value and nothing to check.
mirrors evertrace-domain/src/evidence.rs:1261-1277 -/
structure EvidenceSurface where
  sourceObservationRevisionRef : SourceObservationId
  eventTimeUs : Int
  recordedAtUs : Int
  canonicalizationVersion : Nat
  spanHash : String
  projectionGeneration : Nat
  protectedText : String
  deriving DecidableEq

/-- mirrors evertrace-domain/src/evidence.rs:1422-1452 -/
def evidenceSpanHash (H : Sha256) (sourceObservationId : SourceObservationId) (canonicalizationVersion : Nat)
    (protectedText : String) : Option Digest :=
  if canonicalizationVersion = 0 || protectedText.isEmpty || (utf8 protectedText).length > 16384 then none
  else
    (Canonical.sha256 H "evidence_surface_span" 1 (.map
      [("source_observation_revision_ref", .string sourceObservationId.toText),
        ("canonicalization_version", .integer (BitVec.ofNat 128 canonicalizationVersion)),
        ("protected_text", .string protectedText)])).toOption

/-- mirrors evertrace-domain/src/evidence.rs:1299-1321 -/
def EvidenceSurface.validate (H : Sha256) (s : EvidenceSurface) : Bool :=
  !(s.eventTimeUs < 0 || s.recordedAtUs < 0 || s.eventTimeUs > s.recordedAtUs || s.canonicalizationVersion = 0
    || s.projectionGeneration = 0 || s.protectedText.isEmpty || (utf8 s.protectedText).length > 16384)
  && (Evidence.validateDigest s.spanHash).isOk
  && match evidenceSpanHash H s.sourceObservationRevisionRef s.canonicalizationVersion s.protectedText with
    | some expected => s.spanHash == hex expected.bytes
    | none => false

/-- mirrors evertrace-domain/src/evidence.rs:1391-1420, without a secret digest -/
def payloadFingerprint (H : Sha256) (canonicalizationVersion : Nat) (protectedPayload : Bytes) : Option Digest :=
  if canonicalizationVersion = 0 || protectedPayload.isEmpty then none
  else
    (Canonical.sha256 H "source_payload_fingerprint" 1 (.map
      [("canonicalization_version", .integer (BitVec.ofNat 128 canonicalizationVersion)),
        ("protected_payload", .bytes protectedPayload),
        ("protected_secret_digest", .null)])).toOption

/-- How the deletion reads a source receipt. A receipt is a record of forty fields
that checks itself; nothing here depends on more of it than these five answers. -/
structure ReceiptFields (ρ : Type) where
  validate : ρ → Bool
  sourceObservationId : ρ → SourceObservationId
  sourceKind : ρ → Admission.EvidenceSourceKind
  identityDomain : ρ → String
  sourceRecordIdentity : ρ → String

/-- mirrors evertrace-store/src/query/derive.rs:10-14 -/
inductive DefaultRetrievalSuppressionGeneration where
  | observationSpanV1
  | contentSpanV2
  deriving DecidableEq

/-- mirrors evertrace-store/src/query/derive.rs:416-424 -/
def sourceKindName : Admission.EvidenceSourceKind → String
  | .codexHook => "codex_hook"
  | .codexExecJsonl => "codex_exec_jsonl"
  | .codexSessionJsonl => "codex_session_jsonl"
  | .hermesSession => "hermes_session"
  | .other => "other"

section

variable {ρ : Type} (H : Sha256) (R : ReceiptFields ρ)

/-- The version of a suppression hash and what it says of the text.
mirrors evertrace-store/src/query/derive.rs:26-37 -/
def spanIdentity (surface : EvidenceSurface) : DefaultRetrievalSuppressionGeneration → Except StoreError (UInt32 × String)
  | .observationSpanV1 => .ok (1, surface.spanHash)
  | .contentSpanV2 => do
    let fingerprint ← okOr .storeCorrupt
      (payloadFingerprint H surface.canonicalizationVersion (utf8 surface.protectedText))
    .ok (2, hex fingerprint.bytes)

/-- mirrors evertrace-store/src/query/derive.rs:16-51 -/
def defaultRetrievalSuppressionRefHash (surface : EvidenceSurface) (receipt : ρ)
    (generation : DefaultRetrievalSuppressionGeneration) : Except StoreError String := do
  ensure .storeCorrupt (surface.validate H)
  ensure .storeCorrupt (R.validate receipt)
  ensure .storeCorrupt (R.sourceObservationId receipt == surface.sourceObservationRevisionRef)
  let (version, identity) ← spanIdentity H surface generation
  let hash ← okOr .storeCorrupt (Canonical.sha256 H "evertrace_default_retrieval_suppression_ref" version (.sequence
    [.string (sourceKindName (R.sourceKind receipt)), .string (R.identityDomain receipt),
      .string (R.sourceRecordIdentity receipt), .integer (BitVec.ofNat 128 surface.canonicalizationVersion),
      .string identity])).toOption
  .ok (hex hash.bytes)

end

/-- mirrors evertrace-store/src/purge.rs:86-91; each fact stands with the number of its event -/
structure ObjectDeletionSourceContext (ρ : Type) where
  otherLiveSourceRefs : List SourceObservationId
  sourceObservations : OrdMap SourceObservationId (Evidence.SourceObservation × Nat)
  sourceReceipts : OrdMap SourceReceiptId (ρ × Nat)
  evidenceSurfaces : OrdMap SourceObservationId (EvidenceSurface × Nat)

/-! ## The preview -/

/-- The arguments of the preview.
mirrors evertrace-store/src/purge.rs:391-399 -/
structure ObjectDeletionFacts (ρ : Type) where
  target : ObjectDeletionTarget
  revisions : List ObjectDeletionRevisionFact
  currentGuardSourceRefs : List String
  sourceContext : ObjectDeletionSourceContext ρ
  downstreamSupportImpacts : List ObjectDeletionSupportImpact
  dependentProcedureImpacts : List ObjectDeletionProcedureImpact
  deletionGeneration : Nat

/-- mirrors evertrace-store/src/purge.rs:35-47 -/
structure ObjectDeletionPreview where
  target : ObjectDeletionTarget
  currentRevisionId : RevisionId
  exactRevisionIds : List RevisionId
  guards : ObjectDeletionGuards
  defaultRetrievalSuppressionRefHashes : List String
  deletionGeneration : Nat
  sharedSourceCount : Nat
  suppressedSourceCount : Nat
  suppressionRefCount : Nat
  downstreamSupportImpacts : List ObjectDeletionSupportImpact
  dependentProcedureImpacts : List ObjectDeletionProcedureImpact
  deriving DecidableEq

/-- mirrors evertrace-store/src/purge.rs:528-535 -/
def historicalSourceDerivationRefs (revisions : List ObjectDeletionRevisionFact) : List String :=
  sortUnique (revisions.flatMap ObjectDeletionRevisionFact.sourceDerivationRefs)

/-- The checks of the impact lists.
mirrors evertrace-store/src/purge.rs:433-448 -/
def impactsValid (support : List ObjectDeletionSupportImpact) (procedures : List ObjectDeletionProcedureImpact) : Bool :=
  strictlySorted (support.map fun impact => impact.currentValidation.supportContractRef)
    && support.all (fun impact => !impact.triggerRefs.isEmpty && strictlySorted impact.triggerRefs
      && impact.currentValidation.validate.isOk)
    && strictlySorted (procedures.map fun impact => impact.currentState.procedureRevisionId)
    && procedures.all fun impact => !impact.triggerRefs.isEmpty && strictlySorted impact.triggerRefs
      && impact.currentState.validate

section

variable {ρ : Type} (H : Sha256) (R : ReceiptFields ρ)

/-- The source a derivation reference stands for.
mirrors evertrace-store/src/purge.rs:462-474 -/
def sourceOfRef (context : ObjectDeletionSourceContext ρ) (reference : String) : Option SourceObservationId :=
  match (DigestId.fromStr reference : Option SourceObservationId).filter
      fun id => (context.sourceObservations.get id).isSome with
  | some id => some id
  | none => do
    let id ← (DigestId.fromStr reference : Option SourceReceiptId)
    let (receipt, _) ← context.sourceReceipts.get id
    some (R.sourceObservationId receipt)

/-- mirrors evertrace-store/src/purge.rs:460-475 -/
def targetSourceIds (context : ObjectDeletionSourceContext ρ) (references : List String) : List SourceObservationId :=
  sortUnique (references.filterMap (sourceOfRef R context))

/-- One turn of the suppression loop: the two hashes of a source with a surface.
mirrors evertrace-store/src/purge.rs:484-509 -/
def suppressSource (context : ObjectDeletionSourceContext ρ) (observationId : SourceObservationId) :
    Except StoreError (Option (List String)) :=
  match context.evidenceSurfaces.get observationId with
  | none => .ok none
  | some (surface, _) => do
    let (observation, _) ← okOr .storeCorrupt (context.sourceObservations.get observationId)
    let (receipt, _) ← okOr .storeCorrupt ((context.sourceReceipts.get observation.sourceReceiptRef).filter
      fun entry => R.sourceObservationId entry.1 == observationId)
    let first ← defaultRetrievalSuppressionRefHash H R surface receipt .observationSpanV1
    let second ← defaultRetrievalSuppressionRefHash H R surface receipt .contentSpanV2
    .ok (some [first, second])

/-- The revisions by their ids.
mirrors evertrace-store/src/purge.rs:410-422 -/
def currentRevision (revisions : List ObjectDeletionRevisionFact) : Except StoreError ObjectDeletionRevisionFact := do
  ensure .storeCorrupt (!adjacentDup ObjectDeletionRevisionFact.revisionId revisions)
  match revisions.filter ObjectDeletionRevisionFact.current with
  | [current] => .ok current
  | _ => .error .storeCorrupt

/-- mirrors evertrace-store/src/purge.rs:391-526 -/
def deriveObjectDeletionPreview (facts : ObjectDeletionFacts ρ) : Except StoreError ObjectDeletionPreview := do
  ensure .invalidInput (!(facts.revisions.isEmpty || facts.deletionGeneration == 0))
  let revisions := sortByKey ObjectDeletionRevisionFact.revisionId facts.revisions
  let current ← currentRevision revisions
  let guards ← okOr .storeCorrupt (ObjectDeletionGuards.derive H facts.target current.semanticKind
    [current.canonicalPayload] current.scopeIdentity facts.currentGuardSourceRefs)
  ensure .storeCorrupt (impactsValid facts.downstreamSupportImpacts facts.dependentProcedureImpacts)
  ensure .invalidInput
    (2 + facts.downstreamSupportImpacts.length * 4 + facts.dependentProcedureImpacts.length < 2 ^ 16)
  let targetSourceIds := targetSourceIds R facts.sourceContext (historicalSourceDerivationRefs revisions)
  let sharedSourceCount := (targetSourceIds.filter facts.sourceContext.otherLiveSourceRefs.contains).length
  ensure .invalidInput (sharedSourceCount < 2 ^ 32)
  let suppressed ← (targetSourceIds.filter fun id => !facts.sourceContext.otherLiveSourceRefs.contains id).mapM
    (suppressSource H R facts.sourceContext)
  let suppressedSourceCount := suppressed.reduceOption.length
  ensure .invalidInput (suppressedSourceCount < 2 ^ 32)
  let hashes := sortUnique suppressed.reduceOption.flatten
  ensure .invalidInput (hashes.length < 2 ^ 32)
  .ok
    { target := facts.target
      currentRevisionId := current.revisionId
      exactRevisionIds := revisions.map ObjectDeletionRevisionFact.revisionId
      guards := guards
      defaultRetrievalSuppressionRefHashes := hashes
      deletionGeneration := facts.deletionGeneration
      sharedSourceCount := sharedSourceCount
      suppressedSourceCount := suppressedSourceCount
      suppressionRefCount := hashes.length
      downstreamSupportImpacts := facts.downstreamSupportImpacts
      dependentProcedureImpacts := facts.dependentProcedureImpacts }

end

/-! ## The two steps -/

def objectDeletionJobKind : String := "object_forget_v1"

def objectDeletionAlgorithmRevision : String := "s32-object-forget-v1"

def objectDeletionLeaseUs : Int := 30000000

/-- mirrors evertrace-store/src/purge.rs:290-306 -/
def pendingEvent (preview : ObjectDeletionPreview) (purgeJobId : JobId) (recordedAtUs : Int) :
    ObjectDeletionLedgerEvent where
  schemaVersion := 1
  target := preview.target
  phase := .pending
  exactRevisionIds := preview.exactRevisionIds
  semanticKindHash := preview.guards.semanticKindHash
  canonicalPayloadHash := preview.guards.canonicalPayloadHash
  scopeIdentityHash := preview.guards.scopeIdentityHash
  sourceDerivationGuardHash := preview.guards.sourceDerivationGuardHash
  defaultRetrievalSuppressionRefHashes := preview.defaultRetrievalSuppressionRefHashes
  deletionGeneration := preview.deletionGeneration
  recordedAtUs := recordedAtUs
  purgeJobId := purgeJobId
  purgeJobAuditRef := none

/-- mirrors evertrace-store/src/purge.rs:307-336 -/
def pendingJob (preview : ObjectDeletionPreview) (purgeJobId : JobId) (sourceWatermark : Nat)
    (effectiveConfigHash : Bytes) : DurableJob where
  jobId := purgeJobId
  idempotencyKey := "object-forget:" ++ preview.target.objectRef ++ ":" ++ toString preview.deletionGeneration
  targetRevision := preview.target.objectRef
  targetWatermark := sourceWatermark
  targetGeneration := preview.deletionGeneration
  kind := objectDeletionJobKind
  algorithmRevision := objectDeletionAlgorithmRevision
  modelId := none
  priority := 0
  state := .queued
  attempt := 1
  backoffUntilUs := none
  configHash := effectiveConfigHash
  budget :=
    { maxItems := preview.exactRevisionIds.length, maxBytes := none, maxInputTokens := none, maxOutputTokens := none,
      maxCalls := none, maxWallTimeMs := 30000 }
  terminal := none
  leaseUntilUs := none

/-- mirrors evertrace-store/src/purge.rs:283-343 -/
def pendingObjectDeletion (preview : ObjectDeletionPreview) (purgeJobId : JobId) (recordedAtUs : Int)
    (sourceWatermark : Nat) (effectiveConfigHash : Bytes) :
    Except StoreError (ObjectDeletionLedgerEvent × DurableJob) := do
  let event := pendingEvent preview purgeJobId recordedAtUs
  ensure .invalidInput (preview.exactRevisionIds.length < 2 ^ 32)
  let job := pendingJob preview purgeJobId sourceWatermark effectiveConfigHash
  ensure .invalidInput (event.validate && event.exactRevisionIds.length == job.budget.maxItems)
  .ok (event, job)

/-- mirrors evertrace-store/src/purge.rs:345-389 -/
def purgedObjectDeletion (pending : ObjectDeletionLedgerEvent) (queuedJob : DurableJob) (recordedAtUs : Int) :
    Except StoreError (ObjectDeletionLedgerEvent × JobLease × DurableJob) := do
  ensure .invalidInput (!(pending.phase != .pending || queuedJob.jobId != pending.purgeJobId
    || queuedJob.state != .queued || queuedJob.kind != objectDeletionJobKind
    || queuedJob.targetGeneration != pending.deletionGeneration
    || queuedJob.targetRevision != pending.target.objectRef))
  ensure .invalidInput (queuedJob.attempt + 1 < 2 ^ 32)
  let attempt := queuedJob.attempt + 1
  ensure .invalidInput (recordedAtUs + objectDeletionLeaseUs < 2 ^ 63)
  let lease : JobLease :=
    { jobId := queuedJob.jobId, targetGeneration := queuedJob.targetGeneration, attempt := attempt,
      leaseUntilUs := recordedAtUs + objectDeletionLeaseUs }
  let terminal : DurableJob :=
    { queuedJob with
      state := .succeeded, attempt := attempt, leaseUntilUs := none,
      terminal := some
        { outcome := .succeeded, reason := .completed, resultRef := some queuedJob.jobId.toText } }
  let event : ObjectDeletionLedgerEvent :=
    { pending with
      phase := .purged, recordedAtUs := recordedAtUs, purgeJobAuditRef := some queuedJob.jobId.toText }
  ensure .invalidInput (pending.validateSuccessor event)
  .ok (event, lease, terminal)

/-! ## What a preview holds -/

theorem strictlySorted_iff {α : Type} [LinearOrder α] {values : List α} :
    strictlySorted values = true ↔ values.Pairwise (· < ·) := by
  rw [strictlySorted, decide_eq_true_eq, List.isChain_iff_pairwise]

theorem digestText_hex (d : Digest) : digestText (hex d.bytes) = true := by
  obtain ⟨hlen, hall⟩ := hex_utf8 d.bytes
  rw [d.length_eq] at hlen
  simp only [digestText, hlen, Bool.and_eq_true, List.all_eq_true]
  refine ⟨rfl, fun b hb => ?_⟩
  have hb := hall b hb
  simp only [Frame.isLowerHex, Bool.or_eq_true, Bool.and_eq_true, decide_eq_true_eq] at hb ⊢
  rcases hb with hb | hb
  · exact .inl (.inl hb)
  · exact .inr hb

theorem digestText_digest {H : Sha256} {domain : String} {value : CanonicalValue} {text : String}
    (h : digest H domain value = some text) : digestText text = true := by
  obtain ⟨d, -, rfl⟩ := Option.map_eq_some_iff.mp h
  exact digestText_hex d

theorem ObjectDeletionGuards.digests {H : Sha256} {target : ObjectDeletionTarget} {semanticKind scopeIdentity : String}
    {payloads refs : List String} {g : ObjectDeletionGuards}
    (h : ObjectDeletionGuards.derive H target semanticKind payloads scopeIdentity refs = some g) :
    digestText g.semanticKindHash = true ∧ digestText g.canonicalPayloadHash = true ∧
      digestText g.scopeIdentityHash = true ∧ digestText g.sourceDerivationGuardHash = true := by
  unfold ObjectDeletionGuards.derive at h
  split at h
  · cases h
  · simp only [Option.bind_eq_bind, Option.bind_eq_some_iff] at h
    obtain ⟨_, hkind, _, hpayload, _, hscope, _, hguard, h⟩ := h
    cases h
    exact ⟨digestText_digest hkind, digestText_digest hpayload, digestText_digest hscope, digestText_digest hguard⟩

section

variable {ρ : Type} (H : Sha256) (R : ReceiptFields ρ)

/-- A source of the object, of any revision, that no other object still uses. -/
def SuppressedSource (facts : ObjectDeletionFacts ρ) (id : SourceObservationId) : Prop :=
  (∃ fact ∈ facts.revisions, ∃ reference ∈ fact.sourceDerivationRefs,
    sourceOfRef R facts.sourceContext reference = some id) ∧ id ∉ facts.sourceContext.otherLiveSourceRefs

/-- A hash under which a source with a surface is kept out of retrieval, of either generation. -/
def HashOf (context : ObjectDeletionSourceContext ρ) (id : SourceObservationId) (hash : String) : Prop :=
  ∃ surface observation receipt,
    (∃ n, context.evidenceSurfaces.get id = some (surface, n)) ∧
    (∃ n, context.sourceObservations.get id = some (observation, n)) ∧
    (∃ n, context.sourceReceipts.get observation.sourceReceiptRef = some (receipt, n)) ∧
    ∃ generation, defaultRetrievalSuppressionRefHash H R surface receipt generation = .ok hash

def SuppressionHash (facts : ObjectDeletionFacts ρ) (hash : String) : Prop :=
  ∃ id, SuppressedSource R facts id ∧ HashOf H R facts.sourceContext id hash

variable {H R}

theorem digestText_suppression {surface : EvidenceSurface} {receipt : ρ}
    {generation : DefaultRetrievalSuppressionGeneration} {hash : String}
    (h : defaultRetrievalSuppressionRefHash H R surface receipt generation = .ok hash) : digestText hash = true := by
  unfold defaultRetrievalSuppressionRefHash at h
  obtain ⟨_, -, h⟩ := bind_eq_ok.mp h
  obtain ⟨_, -, h⟩ := bind_eq_ok.mp h
  obtain ⟨_, -, h⟩ := bind_eq_ok.mp h
  obtain ⟨⟨version, identity⟩, -, h⟩ := bind_eq_ok.mp h
  obtain ⟨d, -, h⟩ := bind_eq_ok.mp h
  cases h
  exact digestText_hex d

theorem SuppressionHash.digestText {facts : ObjectDeletionFacts ρ} {hash : String}
    (h : SuppressionHash H R facts hash) : Purge.digestText hash = true := by
  obtain ⟨_, -, _, _, _, -, -, -, _, h⟩ := h
  exact digestText_suppression h

theorem mem_targetSourceIds {facts : ObjectDeletionFacts ρ} {id : SourceObservationId} :
    id ∈ targetSourceIds R facts.sourceContext
      (historicalSourceDerivationRefs (sortByKey ObjectDeletionRevisionFact.revisionId facts.revisions)) ↔
      ∃ fact ∈ facts.revisions, ∃ reference ∈ fact.sourceDerivationRefs,
        sourceOfRef R facts.sourceContext reference = some id := by
  simp only [targetSourceIds, historicalSourceDerivationRefs, mem_sortUnique, List.mem_filterMap, List.mem_flatMap,
    (sortByKey_perm ObjectDeletionRevisionFact.revisionId facts.revisions).mem_iff]
  constructor
  · rintro ⟨reference, ⟨fact, hfact, href⟩, h⟩
    exact ⟨fact, hfact, reference, href, h⟩
  · rintro ⟨fact, hfact, reference, href, h⟩
    exact ⟨reference, ⟨fact, hfact, href⟩, h⟩

/-- A source gives its two hashes or, without a surface, none. -/
theorem suppressSource_ok {context : ObjectDeletionSourceContext ρ} {id : SourceObservationId}
    {found : Option (List String)} (h : suppressSource H R context id = .ok found) {hash : String} :
    (∃ hashes, found = some hashes ∧ hash ∈ hashes) ↔ HashOf H R context id hash := by
  unfold suppressSource at h
  unfold HashOf
  cases hsurface : context.evidenceSurfaces.get id with
  | none =>
    rw [hsurface] at h
    cases h
    simp
  | some entry =>
    obtain ⟨surface, seq⟩ := entry
    rw [hsurface] at h
    obtain ⟨⟨observation, _⟩, hobservation, h⟩ := bind_eq_ok.mp h
    obtain ⟨⟨receipt, _⟩, hreceipt, h⟩ := bind_eq_ok.mp h
    obtain ⟨first, hfirst, h⟩ := bind_eq_ok.mp h
    obtain ⟨second, hsecond, h⟩ := bind_eq_ok.mp h
    cases h
    have hobservation := okOr_ok.mp hobservation
    have hreceipt := (Option.filter_eq_some_iff.mp (okOr_ok.mp hreceipt)).1
    constructor
    · rintro ⟨hashes, heq, hmem⟩
      cases heq
      refine ⟨surface, observation, receipt, ⟨_, rfl⟩, ⟨_, hobservation⟩, ⟨_, hreceipt⟩, ?_⟩
      rcases List.mem_cons.mp hmem with rfl | hmem
      · exact ⟨_, hfirst⟩
      · rw [List.mem_singleton.mp hmem]
        exact ⟨_, hsecond⟩
    · rintro ⟨surface', observation', receipt', ⟨_, hs⟩, ⟨_, ho⟩, ⟨_, hr⟩, generation, hgeneration⟩
      obtain rfl : surface = surface' := (Prod.mk.inj (Option.some.inj hs)).1
      obtain rfl : observation = observation' := (Prod.mk.inj (Option.some.inj (hobservation.symm.trans ho))).1
      obtain rfl : receipt = receipt' := (Prod.mk.inj (Option.some.inj (hreceipt.symm.trans hr))).1
      refine ⟨_, rfl, ?_⟩
      cases generation with
      | observationSpanV1 => simp [Except.ok.inj (hfirst.symm.trans hgeneration)]
      | contentSpanV2 => simp [Except.ok.inj (hsecond.symm.trans hgeneration)]

/-- What every preview holds: the ids of all revisions in order, digests as guards,
and the suppression hashes of the sources, each once and in order. -/
structure PreviewOf (H : Sha256) (R : ReceiptFields ρ) (facts : ObjectDeletionFacts ρ)
    (preview : ObjectDeletionPreview) : Prop where
  ids_perm : preview.exactRevisionIds.Perm (facts.revisions.map ObjectDeletionRevisionFact.revisionId)
  ids_sorted : preview.exactRevisionIds.Pairwise (· < ·)
  ids_ne_nil : preview.exactRevisionIds ≠ []
  guards : digestText preview.guards.semanticKindHash = true ∧ digestText preview.guards.canonicalPayloadHash = true ∧
    digestText preview.guards.scopeIdentityHash = true ∧ digestText preview.guards.sourceDerivationGuardHash = true
  hashes_sorted : preview.defaultRetrievalSuppressionRefHashes.Pairwise (· < ·)
  mem_hashes : ∀ hash, hash ∈ preview.defaultRetrievalSuppressionRefHashes ↔ SuppressionHash H R facts hash
  generation : 0 < preview.deletionGeneration

theorem previewOf_derive {facts : ObjectDeletionFacts ρ} {preview : ObjectDeletionPreview}
    (h : deriveObjectDeletionPreview H R facts = .ok preview) : PreviewOf H R facts preview := by
  unfold deriveObjectDeletionPreview at h
  obtain ⟨_, hshape, h⟩ := bind_eq_ok.mp h
  obtain ⟨current, hcurrent, h⟩ := bind_eq_ok.mp h
  obtain ⟨guards, hguards, h⟩ := bind_eq_ok.mp h
  obtain ⟨_, -, h⟩ := bind_eq_ok.mp h
  obtain ⟨_, -, h⟩ := bind_eq_ok.mp h
  obtain ⟨_, -, h⟩ := bind_eq_ok.mp h
  obtain ⟨suppressed, hsuppressed, h⟩ := bind_eq_ok.mp h
  obtain ⟨_, -, h⟩ := bind_eq_ok.mp h
  obtain ⟨_, -, h⟩ := bind_eq_ok.mp h
  cases h
  simp only [Bool.not_eq_true', Bool.or_eq_false_iff, List.isEmpty_eq_false_iff, beq_eq_false_iff_ne, ensure_ok] at hshape
  have hdup : adjacentDup ObjectDeletionRevisionFact.revisionId
      (sortByKey ObjectDeletionRevisionFact.revisionId facts.revisions) = false := by
    obtain ⟨_, hdup, -⟩ := bind_eq_ok.mp hcurrent
    simpa using hdup
  have hnodup := (adjacentDup_sortByKey _ _).mp hdup
  have hperm := sortByKey_perm ObjectDeletionRevisionFact.revisionId facts.revisions
  refine ⟨hperm.map _, ?_, ?_, ObjectDeletionGuards.digests (okOr_ok.mp hguards), sortUnique_pairwise _, ?_, ?_⟩
  · have hle := List.pairwise_map.mpr (sortByKey_pairwise ObjectDeletionRevisionFact.revisionId facts.revisions)
    have hne := (hperm.map ObjectDeletionRevisionFact.revisionId).nodup_iff.mpr hnodup
    exact (hle.and hne).imp fun h => lt_of_le_of_ne h.1 h.2
  · intro hnil
    have hlen := hperm.length_eq
    rw [List.map_eq_nil_iff.mp hnil] at hlen
    exact hshape.1 (List.length_eq_zero_iff.mp hlen.symm)
  · intro hash
    rw [mem_sortUnique, List.mem_flatten]
    constructor
    · rintro ⟨hashes, hhashes, hhash⟩
      obtain ⟨id, hid, hsuppress⟩ := (mem_mapM_ok hsuppressed).mp (List.reduceOption_mem_iff.mp hhashes)
      obtain ⟨hid, hlive⟩ := List.mem_filter.mp hid
      exact ⟨id, ⟨mem_targetSourceIds.mp hid, by simpa using hlive⟩, (suppressSource_ok hsuppress).mp ⟨hashes, rfl, hhash⟩⟩
    · rintro ⟨id, ⟨hid, hlive⟩, hhash⟩
      have hkept : id ∈ (targetSourceIds R facts.sourceContext (historicalSourceDerivationRefs
          (sortByKey ObjectDeletionRevisionFact.revisionId facts.revisions))).filter
          fun id => !facts.sourceContext.otherLiveSourceRefs.contains id :=
        List.mem_filter.mpr ⟨mem_targetSourceIds.mpr hid, by simpa using hlive⟩
      obtain ⟨found, hfound⟩ := exists_mapM_ok.mp ⟨_, hsuppressed⟩ id hkept
      obtain ⟨hashes, rfl, hmem⟩ := (suppressSource_ok hfound).mpr hhash
      exact ⟨hashes, List.reduceOption_mem_iff.mpr ((mem_mapM_ok hsuppressed).mpr ⟨id, hkept, hfound⟩), hmem⟩
  · exact Nat.pos_of_ne_zero hshape.2

end

end EverTrace.L2.Purge
