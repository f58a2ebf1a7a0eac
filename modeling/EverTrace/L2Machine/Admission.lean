import EverTrace.L1Encoding.Redaction
import EverTrace.L2Machine.CaptureReceipt
import EverTrace.L2Machine.Evidence
import EverTrace.L2Machine.GapSlots
import EverTrace.L2Machine.SessionImport
/-!
# Capture admission (`evertrace-capture/src/admission.rs`, `frame.rs`)

`capture` checks an input (`validateInput`), settles its identity and protects
its payload; it stores the protected payload in the content-addressed store and
then builds the capture record, which has a check of its own
(`CaptureRecordBody.validate`), encodes it and appends it to the spool. When the
store or the spool does not take it, a gap marker is written instead.

The record body is serialized as JSON (`serialize`, a parameter). `CaptureWorld`
holds what the calls to clock, key store, store and spool answer. `capture`
passes no recovery preflight and no isolated segment; the `pending` argument is
not modelled, the record's field for it is.
-/
namespace EverTrace.L2.Admission
open EverTrace.Lib EverTrace.L1 EverTrace.L1.Frame EverTrace.L1.Protect
open EverTrace.L2.Evidence EverTrace.L2.Capture
open EverTrace.L2.SessionImport (EvidenceByteRange)
open EverTrace.L2.Work (TerminalKind ReasoningVisibility WorkError validRef)

/-- mirrors evertrace-capture/src/admission.rs:523-542 -/
inductive CaptureError where
  | invalidInput
  | snapshot
  | key
  | protection
  | cas
  | spool
  | serialization
  | clock
  | recoveryIncomplete
  deriving DecidableEq, Repr

/-- mirrors evertrace-capture/src/admission.rs:30-35 -/
inductive CaptureAdmissionState where
  | normal
  | pressure
  | unavailable
  | recovering
  deriving DecidableEq, Repr

/-! ## The input -/

/-- mirrors evertrace-domain/src/evidence.rs:272-278 -/
inductive SourceRole where
  | user
  | assistant
  | tool
  | host
  | imported
  deriving DecidableEq, Repr

/-- mirrors evertrace-domain/src/evidence.rs:282-288 -/
inductive EvidenceSourceKind where
  | codexHook
  | codexExecJsonl
  | codexSessionJsonl
  | hermesSession
  | other
  deriving DecidableEq, Repr

/-- mirrors evertrace-domain/src/evidence.rs:292-297 -/
inductive UnsupportedRecordClassification where
  | unknownRecordType
  | reasoning
  | binary
  | unboundedToolOutput
  deriving DecidableEq, Repr

/-- mirrors evertrace-domain/src/evidence.rs:301-307 -/
inductive ContentTrust where
  | userStatement
  | observed
  | agentClaim
  | importedClaim
  | untrustedSourceContent
  deriving DecidableEq, Repr

/-- mirrors evertrace-domain/src/evidence.rs:325-328 -/
inductive SourceRevisionMode where
  | append
  | replacement
  deriving DecidableEq, Repr

/-- mirrors evertrace-domain/src/work.rs:58-62 -/
inductive LivenessState where
  | live
  | absent
  | unknown
  deriving DecidableEq, Repr

/-- mirrors evertrace-domain/src/work.rs:145-169 -/
structure LaneLifecycleEvidence where
  hostSessionId : String
  agentId : String
  incarnationRef : Option String
  childSessionId : Option String
  hostLaneKey : String
  parentHostLaneKey : Option String
  spawnEventRef : Option String
  terminalEventRef : Option String
  terminalKind : Option TerminalKind
  hostFinalReturn : Bool
  sourceCloseRef : Option String
  parentSessionEndRef : Option String
  livenessProbeRef : Option String
  livenessState : LivenessState
  laneSequence : Nat
  adapterManifestRef : String
  eligibleEventManifestRef : String
  delegatedGoalRef : Option String
  delegatedTargetRefs : List String
  delegatedAcceptanceRefs : List String
  reasoningVisibility : List ReasoningVisibility
  deriving DecidableEq

/-- mirrors evertrace-domain/src/work.rs:172-215 -/
def LaneLifecycleEvidence.validate (e : LaneLifecycleEvidence) : Except WorkError Unit := do
  [e.hostSessionId, e.agentId, e.hostLaneKey, e.adapterManifestRef, e.eligibleEventManifestRef].forM validRef
  [e.incarnationRef, e.parentHostLaneKey, e.childSessionId, e.spawnEventRef, e.terminalEventRef, e.sourceCloseRef,
    e.parentSessionEndRef, e.livenessProbeRef, e.delegatedGoalRef].reduceOption.forM validRef
  (e.delegatedTargetRefs ++ e.delegatedAcceptanceRefs).forM validRef
  Work.requireUnique e.delegatedTargetRefs
  Work.requireUnique e.delegatedAcceptanceRefs
  Work.requireUnique e.reasoningVisibility
  ensure .invalidLifecycle (!(e.terminalKind.isSome != e.terminalEventRef.isSome
    || (e.hostFinalReturn && e.terminalKind != some .normal)
    || e.terminalKind == some .sourceClosedUnconfirmed))

/-- mirrors evertrace-capture/src/admission.rs:43-82 -/
structure CaptureRecordInput where
  spoolRecordId : Option String
  sourceObservationIdHint : Option String
  sourceInstanceId : String
  sourceRevision : String
  sourceRecordIdentity : Option String
  identityStrength : Option IdentityStrength
  sourceKind : EvidenceSourceKind
  identityDomain : String
  sourceRef : String
  sessionRef : String
  turnRef : Option String
  toolRef : Option String
  sourceSequence : Nat
  sourceSequenceOrigin : Option Nat
  taskId : Option String
  repositoryInstanceId : Option String
  worktreeInstanceId : Option String
  sourceByteRange : Option EvidenceByteRange
  sourceRevisionMode : SourceRevisionMode
  previousSourceRevision : Option String
  closeWatermark : Option Nat
  observationRole : ObservationRole
  correlation : HostCorrelationEvidence
  scopeEffectClaims : List ScopeEffectClaim
  sourceLocalEvidence : Option SourceLocalEvidence
  lifecycle : Option LaneLifecycleEvidence
  unsupportedRecordClassification : Option UnsupportedRecordClassification
  sourceRole : SourceRole
  contentTrust : ContentTrust
  captureCompleteness : CaptureCompleteness
  surfaceEligible : Bool
  adapterRevision : UInt32
  adapterManifestRef : String
  eligibleEventManifestRef : String
  parserRevision : UInt32
  canonicalizationRevision : UInt32
  eventTimeUs : Option Int
  rawPayload : Bytes
  deriving DecidableEq

/-- mirrors evertrace-capture/src/admission.rs:644-650 -/
def validInputText (value : String) : Bool :=
  utf8 value ≠ [] && (utf8 value).length ≤ 256 &&
    (utf8 value).all fun byte => byte ≠ 0 && !(byte < 0x20 || byte = 0x7f)

/-- The lifecycle of an observation is valid and speaks of its session and manifests.
mirrors evertrace-capture/src/admission.rs:629-641, frame.rs:225-234 -/
def validateLifecycle {ε : Type} (e : ε) (lifecycle : Option LaneLifecycleEvidence)
    (sessionRef adapterManifestRef eligibleEventManifestRef : String) : Except ε Unit :=
  match lifecycle with
  | none => .ok ()
  | some lifecycle => do
    lifecycle.validate.mapError fun _ => e
    ensure e (!(lifecycle.incarnationRef.isNone || lifecycle.hostSessionId != sessionRef
      || lifecycle.adapterManifestRef != adapterManifestRef
      || lifecycle.eligibleEventManifestRef != eligibleEventManifestRef))

/-- The first condition of `validate_input`.
mirrors evertrace-capture/src/admission.rs:581-611 -/
def CaptureRecordInput.fieldsValid (input : CaptureRecordInput) : Bool :=
  !(input.spoolRecordId.any (!validInputText ·)
    || !validInputText input.sourceInstanceId
    || !validInputText input.sourceRevision
    || !validInputText input.sourceRef
    || !validInputText input.identityDomain
    || !validInputText input.sessionRef
    || input.turnRef.any (!validInputText ·)
    || input.toolRef.any (!validInputText ·)
    || input.rawPayload.isEmpty
    || maxRecordBody < input.rawPayload.length
    || input.adapterRevision == 0
    || !validInputText input.adapterManifestRef
    || !validInputText input.eligibleEventManifestRef
    || input.parserRevision == 0
    || input.canonicalizationRevision == 0
    || input.eventTimeUs.any (· < 0)
    || input.sourceSequenceOrigin.any (input.sourceSequence < ·)
    || input.closeWatermark.any (· < input.sourceSequence)
    || (input.unsupportedRecordClassification.isSome && input.surfaceEligible)
    || (input.sourceRecordIdentity.isNone && input.captureCompleteness == .complete)
    || (input.sourceRevisionMode == .replacement && input.previousSourceRevision.isNone)
    || (input.sourceRevisionMode == .append && input.previousSourceRevision.isSome))

/-- mirrors evertrace-capture/src/admission.rs:580-642 -/
def validateInput (input : CaptureRecordInput) : Except CaptureError Unit := do
  ensure .invalidInput input.fieldsValid
  input.correlation.validate.mapError fun _ => .invalidInput
  input.scopeEffectClaims.forM fun claim => claim.validate.mapError fun _ => CaptureError.invalidInput
  validateLifecycle .invalidInput input.lifecycle input.sessionRef input.adapterManifestRef
    input.eligibleEventManifestRef

/-! ## The record -/

/-- What the record's check reads of a recovery preflight.
mirrors evertrace-capture/src/frame.rs:105-112 -/
structure RecoveryPreflightCandidate where
  pendingCommandId : CommandId
  observedCwd : String
  classifierRevision : UInt32
  adapterManifestId : String
  deriving DecidableEq

/-- The redaction fields are grouped in `redaction`.
mirrors evertrace-capture/src/frame.rs:48-101 -/
structure CaptureRecordBody where
  bodyVersion : UInt16
  commandId : CommandId
  sourceInstanceId : String
  sourceRevision : String
  sourceRecordIdentity : String
  identityStrength : IdentityStrength
  sourceObservationIdHint : Option SourceObservationId
  sourceKind : EvidenceSourceKind
  identityDomain : String
  sourceRef : String
  sourceSessionRef : String
  sourceSequence : Nat
  sourceSequenceOrigin : Option Nat
  taskId : Option TaskId
  repositoryInstanceId : Option RepositoryId
  worktreeInstanceId : Option WorktreeId
  sourceByteRange : Option EvidenceByteRange
  sourceRevisionMode : SourceRevisionMode
  previousSourceRevision : Option String
  closeWatermark : Option Nat
  observationRole : ObservationRole
  correlation : HostCorrelationEvidence
  scopeEffectClaims : List ScopeEffectClaim
  sourceLocalEvidence : Option SourceLocalEvidence
  lifecycle : Option LaneLifecycleEvidence
  unsupportedRecordClassification : Option UnsupportedRecordClassification
  sourceRole : SourceRole
  contentTrust : ContentTrust
  captureCompleteness : CaptureCompleteness
  surfaceEligible : Bool
  casRef : String
  protectedLength : Nat
  redaction : RecordRedaction
  adapterRevision : UInt32
  adapterManifestRef : String
  eligibleEventManifestRef : String
  parserRevision : UInt32
  canonicalizationRevision : UInt32
  detectorRevision : UInt32
  redactionRevision : UInt32
  protectionKeyGeneration : UInt64
  eventTimeUs : Int
  recordedAtUs : Int
  recoveryPreflight : Option RecoveryPreflightCandidate
  deriving DecidableEq

def captureRecordBodyVersion : UInt16 := 9

/-- mirrors evertrace-capture/src/frame.rs:159-168 -/
def validateSourceLocal (evidence : Option SourceLocalEvidence) (role : ObservationRole)
    (sourceKind : EvidenceSourceKind) (identityDomain : String) : Except SpoolFrameError Unit :=
  match evidence with
  | none => .ok ()
  | some evidence => do
    (evidence.validate role).mapError fun _ => .invalid
    ensure .invalid (!(sourceKind != .codexHook || identityDomain != "native-hook-delivery-v1"))

/-- mirrors evertrace-domain/src/evidence.rs:345-350 -/
def validateByteRange (range : EvidenceByteRange) : Except SpoolFrameError Unit :=
  ensure .invalid (!decide (range.finish ≤ range.start))

/-- mirrors evertrace-capture/src/frame.rs:266-277 -/
def CaptureRecordBody.preflightAgrees (body : CaptureRecordBody) (intent : RecoveryPreflightCandidate) : Bool :=
  !(intent.pendingCommandId == body.commandId
    || body.repositoryInstanceId.isNone
    || body.worktreeInstanceId.isNone
    || intent.adapterManifestId != body.adapterManifestRef
    || intent.classifierRevision == 0
    || (utf8 intent.observedCwd).head? != some 0x2f
    || 4096 < (utf8 intent.observedCwd).length
    || intent.observedCwd.toList.any Work.isControl)

/-- The long condition of `CaptureRecordBody::validate`.
mirrors evertrace-capture/src/frame.rs:170-206 -/
def CaptureRecordBody.fieldsValid (body : CaptureRecordBody) (observationId : SourceObservationId) : Bool :=
  !(body.bodyVersion != captureRecordBodyVersion
    || body.sourceObservationIdHint.any (· != observationId)
    || !validText body.sourceRef
    || !validText body.identityDomain
    || !validText body.sourceSessionRef
    || !validText body.adapterManifestRef
    || !validText body.eligibleEventManifestRef
    || !validDigest body.casRef
    || body.protectedLength == 0
    || body.redaction.originalLength == 0
    || body.adapterRevision == 0
    || body.parserRevision == 0
    || body.canonicalizationRevision == 0
    || body.detectorRevision == 0
    || body.redactionRevision == 0
    || body.protectionKeyGeneration == 0
    || body.eventTimeUs < 0
    || body.recordedAtUs < 0
    || body.recordedAtUs < body.eventTimeUs
    || body.sourceSequenceOrigin.any (body.sourceSequence < ·)
    || body.closeWatermark.any (· < body.sourceSequence)
    || (body.identityStrength == .synthesizedBestEffort && body.captureCompleteness == .complete)
    || (body.unsupportedRecordClassification.isSome && body.surfaceEligible)
    || body.correlation.pairingRole != body.observationRole
    || body.correlation.adapterRevision != body.adapterRevision
    || body.correlation.adapterManifestRef != body.adapterManifestRef)

/-- mirrors evertrace-capture/src/frame.rs:158-279 -/
def CaptureRecordBody.validate (H : Sha256) (body : CaptureRecordBody) : Except SpoolFrameError Unit := do
  validateSourceLocal body.sourceLocalEvidence body.observationRole body.sourceKind body.identityDomain
  let observationId ← (sourceObservationId H body.sourceInstanceId body.sourceRevision
    body.sourceRecordIdentity).mapError fun _ => .invalid
  ensure .invalid (body.fieldsValid observationId)
  ensure .invalid (!(body.sourceRevisionMode == .replacement && body.previousSourceRevision.isNone))
  ensure .invalid (!(body.sourceRevisionMode == .append && body.previousSourceRevision.isSome))
  body.sourceByteRange.toList.forM validateByteRange
  body.correlation.validate.mapError fun _ => .invalid
  body.scopeEffectClaims.forM fun claim => claim.validate.mapError fun _ => SpoolFrameError.invalid
  validateLifecycle .invalid body.lifecycle body.sourceSessionRef body.adapterManifestRef
    body.eligibleEventManifestRef
  body.redaction.validate
  ensure .invalid (body.recoveryPreflight.all body.preflightAgrees)

/-- mirrors evertrace-capture/src/frame.rs:296-307 -/
def encodeRecordBody (H : Sha256) (serialize : CaptureRecordBody → Bytes) (body : CaptureRecordBody) :
    Except SpoolFrameError Bytes := do
  body.validate H
  let json := serialize body
  ensure .oversize (!decide (maxRecordBody < json.length + 2))
  return be16 captureRecordBodyVersion ++ json

/-! ## Before the store -/

/-- What the calls answer while one capture runs. -/
structure CaptureWorld where
  /-- microseconds since the epoch, unless the clock is before it -/
  sinceEpoch : Option Nat
  commandId : CommandId
  recordUuid : Uuid
  /-- the key file, when it is there and has its form -/
  storedKey : Option DeviceKey
  /-- the maintenance fence is taken -/
  fence : Bool
  /-- `cas.put` returns `Ok` -/
  casPut : Bool
  spoolGeneration : UInt64
  /-- `spool.append` -/
  append : Except SpoolError DurableWrite
  limits : SpoolLimits
  emergency : Emergency
  /-- how the writing of a gap marker fails, if it is called -/
  markerFault : WriteFault
  lastDurableWatermark : UInt64

/-- mirrors evertrace-capture/src/admission.rs:652-658 -/
def nowUs (sinceEpoch : Option Nat) : Except CaptureError Int := do
  let micros ← okOr .clock sinceEpoch
  ensure .clock (micros < 2 ^ 63)
  return (micros : Int)

/-- mirrors evertrace-capture/src/key.rs:180-190 -/
def loadKey (storedKey : Option DeviceKey) : Except CaptureError DeviceKey := do
  let key ← okOr .key storedKey
  ensure .key (key.generation != 0)
  return key

/-- `SourceInstanceId::parse`, `SourceRevision::parse` and `SourceRecordIdentity::parse`.
mirrors evertrace-domain/src/evidence.rs:23-27 -/
def parseIdentifier (value : String) : Except CaptureError String := do
  (validateIdentifier value).mapError fun _ => .invalidInput
  return value

/-- `value.map(parse).transpose()` -/
def parseOptional {α : Type} (parse : String → Option α) : Option String → Except CaptureError (Option α)
  | none => return none
  | some value => do
    let a ← okOr .invalidInput (parse value)
    return some a

structure RecordIdentity where
  identity : String
  strength : IdentityStrength

/-- mirrors evertrace-capture/src/admission.rs:268-288 -/
def recordIdentity (input : CaptureRecordInput) (spoolRecordId : String) : Except CaptureError RecordIdentity :=
  match input.sourceRecordIdentity, input.identityStrength with
  | some identity, some .stableNative => do
    let identity ← parseIdentifier identity
    return ⟨identity, .stableNative⟩
  | some identity, some .stableSourceSequence => do
    let identity ← parseIdentifier identity
    return ⟨identity, .stableSourceSequence⟩
  | none, none | none, some .synthesizedBestEffort => do
    let identity ← parseIdentifier spoolRecordId
    return ⟨identity, .synthesizedBestEffort⟩
  | _, _ => .error .invalidInput

/-- What is settled before the store is touched. -/
structure Admitted where
  recordedAtUs : Int
  spoolRecordId : String
  identity : RecordIdentity
  observationId : SourceObservationId
  observationHint : Option SourceObservationId
  payload : ProtectedPayload

/-- mirrors evertrace-capture/src/admission.rs:255-305 -/
def admitInput (H : Sha256) (M : HmacSha256) (w : CaptureWorld) (input : CaptureRecordInput) :
    Except CaptureError Admitted := do
  validateInput input
  let recordedAtUs ← nowUs w.sinceEpoch
  let spoolRecordId := input.spoolRecordId.getD (String.ofList w.recordUuid.hyphenated)
  let sourceInstanceId ← parseIdentifier input.sourceInstanceId
  let sourceRevision ← parseIdentifier input.sourceRevision
  let identity ← recordIdentity input spoolRecordId
  let observationId ← (sourceObservationId H sourceInstanceId sourceRevision identity.identity).mapError
    fun _ => .invalidInput
  let observationHint ← parseOptional DigestId.fromStr input.sourceObservationIdHint
  ensure .invalidInput (!observationHint.any (· != observationId))
  let key ← loadKey w.storedKey
  let payload ← (protect M input.rawPayload key).mapError fun _ => .protection
  return { recordedAtUs, spoolRecordId, identity, observationId, observationHint, payload }

/-! ## After the store -/

/-- `CasDigest::for_protected_bytes`
mirrors evertrace-capture/src/cas.rs:32-38 -/
def casDigest (H : Sha256) (payload : ProtectedPayload) : Digest := H.hash payload.protectedBytes

/-- The record of an admitted input, with the ids that were read from its texts.
mirrors evertrace-capture/src/admission.rs:335-426 -/
def recordOf (H : Sha256) (w : CaptureWorld) (input : CaptureRecordInput) (a : Admitted) (taskId : Option TaskId)
    (repositoryInstanceId : Option RepositoryId) (worktreeInstanceId : Option WorktreeId) : CaptureRecordBody where
  bodyVersion := captureRecordBodyVersion
  commandId := w.commandId
  sourceInstanceId := input.sourceInstanceId
  sourceRevision := input.sourceRevision
  sourceRecordIdentity := a.identity.identity
  identityStrength := a.identity.strength
  sourceObservationIdHint := a.observationHint
  sourceKind := input.sourceKind
  identityDomain := input.identityDomain
  sourceRef := input.sourceRef
  sourceSessionRef := input.sessionRef
  sourceSequence := input.sourceSequence
  sourceSequenceOrigin := input.sourceSequenceOrigin
  taskId := taskId
  repositoryInstanceId := repositoryInstanceId
  worktreeInstanceId := worktreeInstanceId
  sourceByteRange := input.sourceByteRange
  sourceRevisionMode := input.sourceRevisionMode
  previousSourceRevision := input.previousSourceRevision
  closeWatermark := input.closeWatermark
  observationRole := input.observationRole
  correlation := input.correlation
  scopeEffectClaims := input.scopeEffectClaims
  sourceLocalEvidence := input.sourceLocalEvidence
  lifecycle := input.lifecycle
  unsupportedRecordClassification := input.unsupportedRecordClassification
  sourceRole := input.sourceRole
  contentTrust := input.contentTrust
  captureCompleteness := input.captureCompleteness
  surfaceEligible := input.surfaceEligible
  casRef := hex (casDigest H a.payload).bytes
  protectedLength := a.payload.protectedBytes.length
  redaction := a.payload.recordRedaction
  adapterRevision := input.adapterRevision
  adapterManifestRef := input.adapterManifestRef
  eligibleEventManifestRef := input.eligibleEventManifestRef
  parserRevision := input.parserRevision
  canonicalizationRevision := input.canonicalizationRevision
  detectorRevision := a.payload.detectorRevision
  redactionRevision := a.payload.redactionRevision
  protectionKeyGeneration := a.payload.keyGeneration
  eventTimeUs := input.eventTimeUs.getD a.recordedAtUs
  recordedAtUs := a.recordedAtUs
  recoveryPreflight := none

/-- The ids are read from their texts here, after the payload is stored.
mirrors evertrace-capture/src/admission.rs:335-418 -/
def recordBody (H : Sha256) (serialize : CaptureRecordBody → Bytes) (w : CaptureWorld) (input : CaptureRecordInput)
    (a : Admitted) : Except CaptureError Bytes := do
  let taskId ← parseOptional Id.fromStr input.taskId
  let repositoryInstanceId ← parseOptional Id.fromStr input.repositoryInstanceId
  let worktreeInstanceId ← parseOptional Id.fromStr input.worktreeInstanceId
  let _ ← parseOptional (fun value => (parseIdentifier value).toOption) input.previousSourceRevision
  (encodeRecordBody H serialize
    (recordOf H w input a taskId repositoryInstanceId worktreeInstanceId)).mapError fun _ => .serialization

/-- mirrors evertrace-capture/src/admission.rs:96-113 -/
inductive CaptureOutcome where
  | durable (commandId : CommandId) (spoolRecordId : String) (casDigest : String) (endWatermark : Nat)
  | gapRecorded (slot : Nat)
  | completenessLost
  deriving DecidableEq

/-- What one capture did: what it returned, the state it left, the emergency directory, and the payload
that `cas.put` stored. -/
structure CaptureRun where
  result : Except CaptureError CaptureOutcome
  state : CaptureAdmissionState
  emergency : Emergency
  published : Option Digest

/-- mirrors evertrace-capture/src/admission.rs:496-519 -/
def recordGap (H : Sha256) (w : CaptureWorld) (input : CaptureRecordInput) (spoolRecordId redactedFingerprint : String)
    (reason : GapReason) : CaptureOutcome × Emergency :=
  let marker : CaptureGapMarker :=
    { markerId := "gap:" ++ spoolRecordId
      sourceRef := input.sourceRef
      sessionRef := input.sessionRef
      turnRef := input.turnRef
      toolRef := input.toolRef
      failureReason := reason
      redactedFingerprint := redactedFingerprint
      attemptedBytes := UInt64.ofNat input.rawPayload.length
      lastDurableWatermark := w.lastDurableWatermark }
  match writeGapMarker H w.limits marker w.markerFault w.emergency with
  | (.ok slot, emergency) => (.gapRecorded slot, emergency)
  | (.error _, emergency) => (.completenessLost, emergency)

/-- mirrors evertrace-capture/src/admission.rs:448-483 -/
def appendRecord (H : Sha256) (state : CaptureAdmissionState) (w : CaptureWorld) (input : CaptureRecordInput)
    (a : Admitted) : CaptureRun :=
  let digest := casDigest H a.payload
  match w.append with
  | .ok written =>
    ⟨.ok (.durable w.commandId a.spoolRecordId (hex digest.bytes) written.endWatermark),
      if state != .recovering then .normal else state, w.emergency, some digest⟩
  | .error .pressure =>
    let (outcome, emergency) := recordGap H w input a.spoolRecordId (hex digest.bytes) .mainPressure
    ⟨.ok outcome, .pressure, emergency, some digest⟩
  | .error _ =>
    let (outcome, emergency) := recordGap H w input a.spoolRecordId (hex digest.bytes) .mainUnavailable
    ⟨.ok outcome, .unavailable, emergency, some digest⟩

/-- mirrors evertrace-capture/src/admission.rs:248-484 -/
def capture (H : Sha256) (M : HmacSha256) (serialize : CaptureRecordBody → Bytes) (state : CaptureAdmissionState)
    (w : CaptureWorld) (input : CaptureRecordInput) : CaptureRun :=
  match admitInput H M w input with
  | .error e => ⟨.error e, state, w.emergency, none⟩
  | .ok a =>
    let digest := casDigest H a.payload
    if !w.fence || !w.casPut then
      let (outcome, emergency) := recordGap H w input a.spoolRecordId (hex digest.bytes) .mainUnavailable
      ⟨.ok outcome, .unavailable, emergency, none⟩
    else
      match recordBody H serialize w input a with
      | .error e => ⟨.error e, state, w.emergency, some digest⟩
      | .ok _ => appendRecord H state w input a

end EverTrace.L2.Admission
