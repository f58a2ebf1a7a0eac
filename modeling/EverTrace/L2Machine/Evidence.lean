import EverTrace.Lib.OrdMap
import EverTrace.L1Encoding.Canonical
import EverTrace.L2Machine.Work
import Mathlib.Data.List.Lex
import Mathlib.Data.Prod.Lex
/-!
# Source observations and physical records (`evertrace-domain/src/evidence.rs`)

A source observation is one record of one source, with what that source knows
of the host execution behind it (`HostCorrelationEvidence`) and of its effects
(`ScopeEffectClaim`). Normalization turns observations into host occurrences,
operations and scope effects; each of these records checks itself.

A `u32` is a `UInt32`, so a revision counter wraps as it does in the code.
-/
namespace EverTrace.L2.Evidence
open EverTrace.Lib EverTrace.L1 EverTrace.L1.Canonical EverTrace.L2.Work

/-- The evidence errors these checks answer with.
mirrors evertrace-domain/src/evidence.rs:1577-1603 -/
inductive EvidenceError where
  | invalid
  | invalidIdentifier
  | invalidDigest
  | invalidCorrelation
  | invalidOccurrence
  | invalidOperation
  | invalidScopeEffect
  | canonical
  deriving DecidableEq, Repr

/-! ## Enumerations -/

/-- mirrors evertrace-domain/src/evidence.rs:47-51 -/
inductive IdentityStrength where
  | stableNative
  | stableSourceSequence
  | synthesizedBestEffort
  deriving DecidableEq, Repr

/-- mirrors evertrace-domain/src/evidence.rs:55-63 -/
inductive ObservationRole where
  | intent
  | result
  | message
  | lifecycle
  | stateProbe
  | artifact
  | other
  deriving DecidableEq, Repr

/-- mirrors evertrace-domain/src/evidence.rs:67-79 -/
inductive CanonicalEventFamily where
  | read
  | search
  | mutate
  | verify
  | build
  | launch
  | observe
  | integrate
  | otherExecutable
  | message
  | lifecycle
  deriving DecidableEq, Repr

/-- mirrors evertrace-domain/src/evidence.rs:83-96 -/
def CanonicalEventFamily.operationKind : CanonicalEventFamily → Option OperationKind
  | .read => some .read
  | .search => some .search
  | .mutate => some .mutate
  | .verify => some .verify
  | .build => some .build
  | .launch => some .launch
  | .observe => some .observe
  | .integrate => some .integrate
  | .otherExecutable => some .other
  | .message | .lifecycle => none

/-- mirrors evertrace-domain/src/evidence.rs:1500-1514 -/
def eventFamilyName : CanonicalEventFamily → String
  | .read => "read"
  | .search => "search"
  | .mutate => "mutate"
  | .verify => "verify"
  | .build => "build"
  | .launch => "launch"
  | .observe => "observe"
  | .integrate => "integrate"
  | .otherExecutable => "other_executable"
  | .message => "message"
  | .lifecycle => "lifecycle"

/-- mirrors evertrace-domain/src/evidence.rs:1516-1523 -/
def correlationStrengthName : CorrelationStrength → String
  | .exact => "exact"
  | .ambiguous => "ambiguous"
  | .conflicted => "conflicted"
  | .unavailable => "unavailable"

/-- mirrors evertrace-domain/src/evidence.rs:100-107 -/
inductive CorrelationField where
  | hostInstanceId
  | hostTraceLineageId
  | hostLaneKey
  | canonicalEventFamily
  | nativeRequestId
  | physicalExecutionOrdinal
  deriving DecidableEq, Repr

/-- mirrors evertrace-domain/src/evidence.rs:111-116 -/
inductive CorrelationAdmission where
  | exactCapable
  | ambiguous
  | conflicted
  | unavailable
  deriving DecidableEq, Repr

/-- mirrors evertrace-domain/src/evidence.rs:317-321 -/
inductive CaptureCompleteness where
  | complete
  | partial_
  | opaque_
  deriving DecidableEq, Repr

/-- mirrors evertrace-domain/src/evidence.rs:856-862 -/
inductive PairingState where
  | notApplicable
  | unmatchedIntent
  | unmatchedResult
  | paired
  | conflicted
  deriving DecidableEq, Repr

/-! ## Small checks -/

/-- `u8::is_ascii_control` -/
def isAsciiControl (byte : UInt8) : Bool := byte < 0x20 || byte == 0x7f

/-- mirrors evertrace-domain/src/evidence.rs:1475-1485 -/
def validateIdentifier (value : String) : Except EvidenceError Unit :=
  if value.isEmpty || 256 < (utf8 value).length || (utf8 value).any (fun byte => byte == 0 || isAsciiControl byte) then
    .error .invalidIdentifier
  else .ok ()

/-- mirrors evertrace-domain/src/evidence.rs:1487-1498 -/
def requireUnique {α : Type} [DecidableEq α] (values : List α) : Except EvidenceError Unit :=
  if ¬ values.Nodup then .error .invalid else .ok ()

/-- mirrors evertrace-domain/src/evidence.rs:1525-1534 -/
def validateDigest (value : String) : Except EvidenceError Unit :=
  if (utf8 value).length != 64 || !(utf8 value).all (fun byte => (0x30 ≤ byte && byte ≤ 0x39) || (0x61 ≤ byte && byte ≤ 0x66)) then
    .error .invalidDigest
  else .ok ()

/-- mirrors evertrace-domain/src/evidence.rs:1454-1473 -/
def sourceIdentityDigest (H : Sha256) (schemaTag sourceInstanceId sourceRevision sourceRecordIdentity : String) :
    Except EvidenceError Digest := do
  validateIdentifier sourceInstanceId
  validateIdentifier sourceRevision
  validateIdentifier sourceRecordIdentity
  (sha256 H schemaTag 1
    (.sequence [.string sourceInstanceId, .string sourceRevision, .string sourceRecordIdentity])).mapError
      fun _ => .canonical

/-- mirrors evertrace-domain/src/evidence.rs:1324-1335 -/
def sourceObservationId (H : Sha256) (sourceInstanceId sourceRevision sourceRecordIdentity : String) :
    Except EvidenceError SourceObservationId :=
  (sourceIdentityDigest H "source_observation_id" sourceInstanceId sourceRevision sourceRecordIdentity).map
    DigestId.fromDigest

/-- mirrors evertrace-domain/src/evidence.rs:1337-1348 -/
def sourceReceiptId (H : Sha256) (sourceInstanceId sourceRevision sourceRecordIdentity : String) :
    Except EvidenceError SourceReceiptId :=
  (sourceIdentityDigest H "source_receipt_id" sourceInstanceId sourceRevision sourceRecordIdentity).map
    DigestId.fromDigest

/-- The fields that are there, in the order of `CorrelationField`. -/
def presentFields (hostInstanceId hostTraceLineageId hostLaneKey : Option String)
    (canonicalEventFamily : Option CanonicalEventFamily) (nativeRequestId : Option String)
    (physicalExecutionOrdinal : Option UInt32) : List CorrelationField :=
  [(CorrelationField.hostInstanceId, hostInstanceId.isSome),
    (.hostTraceLineageId, hostTraceLineageId.isSome),
    (.hostLaneKey, hostLaneKey.isSome),
    (.canonicalEventFamily, canonicalEventFamily.isSome),
    (.nativeRequestId, nativeRequestId.isSome),
    (.physicalExecutionOrdinal, physicalExecutionOrdinal.isSome)].filterMap
      fun entry => if entry.2 then some entry.1 else none

/-- Two lists have the same elements (equality of `BTreeSet`s). -/
def sameElements {α : Type} [DecidableEq α] (a b : List α) : Bool := a.all (· ∈ b) && b.all (· ∈ a)

/-! ## Correlation evidence -/

/-- mirrors evertrace-domain/src/evidence.rs:809-817 -/
structure HostOccurrenceExactKey where
  occurrenceSchemaVersion : UInt32
  hostInstanceId : String
  hostTraceLineageId : String
  hostLaneKey : String
  canonicalEventFamily : CanonicalEventFamily
  nativeRequestId : String
  physicalExecutionOrdinal : UInt32
  deriving DecidableEq

/-- mirrors evertrace-domain/src/evidence.rs:820-833 -/
def HostOccurrenceExactKey.validate (key : HostOccurrenceExactKey) : Except EvidenceError Unit := do
  ensure .invalidCorrelation (!(key.occurrenceSchemaVersion == 0 || key.physicalExecutionOrdinal == 0))
  [key.hostInstanceId, key.hostTraceLineageId, key.hostLaneKey, key.nativeRequestId].forM validateIdentifier

/-- mirrors evertrace-domain/src/evidence.rs:1350-1369 -/
def hostOccurrenceIdForExact (H : Sha256) (key : HostOccurrenceExactKey) :
    Except EvidenceError HostOccurrenceId := do
  key.validate
  ((sha256 H "host_occurrence_exact_key" key.occurrenceSchemaVersion
    (.sequence [
      .string key.hostInstanceId,
      .string key.hostTraceLineageId,
      .string key.hostLaneKey,
      .string (eventFamilyName key.canonicalEventFamily),
      .string key.nativeRequestId,
      .integer (BitVec.ofNat 128 key.physicalExecutionOrdinal.toNat)])).mapError
        fun _ => EvidenceError.canonical).map DigestId.fromDigest

/-- mirrors evertrace-domain/src/evidence.rs:1371-1389 -/
def hostOccurrenceIdForNonexact (H : Sha256) (observationId : SourceObservationId)
    (strength : CorrelationStrength) : Except EvidenceError HostOccurrenceId := do
  ensure .invalidOccurrence (strength != .exact)
  ((sha256 H "host_occurrence_nonexact" 1
    (.sequence [.string observationId.toText, .string (correlationStrengthName strength)])).mapError
        fun _ => EvidenceError.canonical).map DigestId.fromDigest

/-- mirrors evertrace-domain/src/evidence.rs:121-125 -/
structure CorrelationFieldClaim where
  field : CorrelationField
  sourceRef : String
  evidenceRef : String
  deriving DecidableEq

/-- mirrors evertrace-domain/src/evidence.rs:128-144 -/
structure HostCorrelationEvidence where
  occurrenceSchemaVersion : UInt32
  hostInstanceId : Option String
  hostTraceLineageId : Option String
  hostLaneKey : Option String
  canonicalEventFamily : Option CanonicalEventFamily
  nativeRequestId : Option String
  physicalExecutionOrdinal : Option UInt32
  pairingRole : ObservationRole
  fieldProvenance : List CorrelationFieldClaim
  adapterManifestRef : String
  adapterRevision : UInt32
  strongGateReceiptRef : Option String
  admission : CorrelationAdmission
  partialCorrelationRef : Option String
  possibleDuplicateGroupId : Option DuplicateGroupId
  deriving DecidableEq

namespace HostCorrelationEvidence

/-- mirrors evertrace-domain/src/evidence.rs:215-236 -/
def presentFields (c : HostCorrelationEvidence) : List CorrelationField :=
  Evidence.presentFields c.hostInstanceId c.hostTraceLineageId c.hostLaneKey c.canonicalEventFamily
    c.nativeRequestId c.physicalExecutionOrdinal

/-- mirrors evertrace-domain/src/evidence.rs:198-213 -/
def exactKey (c : HostCorrelationEvidence) : Option HostOccurrenceExactKey :=
  if c.admission != .exactCapable || c.strongGateReceiptRef.isNone then none
  else do
    let hostInstanceId ← c.hostInstanceId
    let hostTraceLineageId ← c.hostTraceLineageId
    let hostLaneKey ← c.hostLaneKey
    let canonicalEventFamily ← c.canonicalEventFamily
    let nativeRequestId ← c.nativeRequestId
    let physicalExecutionOrdinal ← c.physicalExecutionOrdinal
    return {
      occurrenceSchemaVersion := c.occurrenceSchemaVersion
      hostInstanceId, hostTraceLineageId, hostLaneKey, canonicalEventFamily, nativeRequestId
      physicalExecutionOrdinal }

/-- The loop over the provenance claims: each names an expected field, none twice. -/
def observeFields (expected : List CorrelationField) : List CorrelationField → List CorrelationFieldClaim →
    Except EvidenceError (List CorrelationField)
  | observed, [] => .ok observed
  | observed, claim :: rest => do
    validateIdentifier claim.sourceRef
    validateIdentifier claim.evidenceRef
    ensure .invalidCorrelation (!(!expected.contains claim.field || observed.contains claim.field))
    observeFields expected (claim.field :: observed) rest

/-- mirrors evertrace-domain/src/evidence.rs:148-196 -/
def validate (c : HostCorrelationEvidence) : Except EvidenceError Unit := do
  ensure .invalidCorrelation (!(c.occurrenceSchemaVersion == 0 || c.adapterRevision == 0))
  validateIdentifier c.adapterManifestRef
  [c.hostInstanceId, c.hostTraceLineageId, c.hostLaneKey, c.nativeRequestId, c.strongGateReceiptRef,
    c.partialCorrelationRef].reduceOption.forM validateIdentifier
  ensure .invalidCorrelation (c.physicalExecutionOrdinal != some 0)
  let observed ← observeFields c.presentFields [] c.fieldProvenance
  ensure .invalidCorrelation (sameElements observed c.presentFields)
  ensure .invalidCorrelation
    (!(c.admission == .exactCapable && (c.exactKey.isNone || c.strongGateReceiptRef.isNone)))
  ensure .invalidCorrelation (!(c.admission != .exactCapable && c.strongGateReceiptRef.isSome))
  ensure .invalidCorrelation (!(c.possibleDuplicateGroupId.isSome && c.partialCorrelationRef.isNone))

end HostCorrelationEvidence

/-! ## Scope effect claims -/

/-- mirrors evertrace-domain/src/evidence.rs:241-250 -/
structure ScopeEffectClaim where
  effectRole : EffectRole
  repositoryInstanceId : Option RepositoryId
  worktreeInstanceId : Option WorktreeId
  preSnapshotId : Option WorktreeSnapshotId
  postSnapshotId : Option WorktreeSnapshotId
  experimentRunIds : List ExperimentRunId
  artifactRefs : List WorkArtifactId
  evidenceRefs : List SourceObservationId
  deriving DecidableEq

/-- mirrors evertrace-domain/src/evidence.rs:253-267 -/
def ScopeEffectClaim.validate (claim : ScopeEffectClaim) : Except EvidenceError Unit := do
  ensure .invalidScopeEffect
    (!(claim.repositoryInstanceId.isNone && claim.worktreeInstanceId.isNone && claim.preSnapshotId.isNone
      && claim.postSnapshotId.isNone && claim.experimentRunIds.isEmpty && claim.artifactRefs.isEmpty
      && claim.evidenceRefs.isEmpty))
  requireUnique claim.experimentRunIds
  requireUnique claim.artifactRefs
  requireUnique claim.evidenceRefs

/-! ## Source-local evidence -/

/-- mirrors evertrace-domain/src/evidence.rs:561-563 -/
inductive SourceLocalProfile where
  | nativeHookV1
  deriving DecidableEq, Repr

/-- mirrors evertrace-domain/src/evidence.rs:567-572 -/
structure SourceLocalNamespace where
  profile : SourceLocalProfile
  rootSession : String
  thread : String
  rollout : String
  deriving DecidableEq

/-- `Uuid::parse_str(value)` succeeds and prints as `value`: the form that `hyphenated` prints (`Ids`). -/
def isCanonicalUuid (value : String) : Bool :=
  let lowerHex : Char → Bool := fun c => ('0' ≤ c && c ≤ '9') || ('a' ≤ c && c ≤ 'f')
  let chars := value.toList
  chars.length == 36 && (chars.zipIdx.all fun entry =>
    if entry.2 == 8 || entry.2 == 13 || entry.2 == 18 || entry.2 == 23 then entry.1 == '-' else lowerHex entry.1)

/-- mirrors evertrace-domain/src/evidence.rs:577-585 -/
def SourceLocalNamespace.validate (ns : SourceLocalNamespace) : Except EvidenceError Unit :=
  [ns.rootSession, ns.thread, ns.rollout].forM fun value => ensure .invalid (isCanonicalUuid value)

/-- mirrors evertrace-domain/src/evidence.rs:702-710 -/
def validateSourceLocator (value : String) : Except EvidenceError Unit :=
  ensure .invalid (!(4096 < (utf8 value).length || (utf8 value).head? != some 0x2f || (utf8 value).any isAsciiControl))

/-- mirrors evertrace-domain/src/evidence.rs:588-597 -/
structure SourceLocalNamespaceWitness where
  namespace_ : SourceLocalNamespace
  transcriptPath : String
  filesystemInode : Nat
  observedFileLength : Nat
  metadataLength : Nat
  deriving DecidableEq

/-- mirrors evertrace-domain/src/evidence.rs:601-612 -/
def SourceLocalNamespaceWitness.validate (w : SourceLocalNamespaceWitness) : Except EvidenceError Unit := do
  w.namespace_.validate
  validateSourceLocator w.transcriptPath
  ensure .invalid (!(w.filesystemInode == 0 || w.metadataLength == 0 || 64 * 1024 < w.metadataLength
    || w.observedFileLength ≤ w.metadataLength))

/-- mirrors evertrace-domain/src/evidence.rs:617-625 -/
structure SourceLocalNativeCall where
  sessionId : String
  agentId : Option String
  transcriptPath : Option String
  requestId : String
  turnId : String
  toolName : String
  namespaceWitness : Option SourceLocalNamespaceWitness
  deriving DecidableEq

/-- mirrors evertrace-domain/src/evidence.rs:628-636 -/
def SourceLocalNativeCall.acceptsWitness (call : SourceLocalNativeCall) (witness : SourceLocalNamespaceWitness) : Bool :=
  witness.validate.isOk && witness.namespace_.rootSession == call.sessionId
    && call.agentId.all (· == witness.namespace_.thread)
    && call.transcriptPath == some witness.transcriptPath

/-- mirrors evertrace-domain/src/evidence.rs:641-648 -/
inductive SourceLocalEvidence where
  | nativeCall (call : SourceLocalNativeCall)
  | namespaceWitness (witness : SourceLocalNamespaceWitness) (supportedCall : SourceLocalNativeCall)
      (supportedObservationRefs : List SourceObservationId)
  deriving DecidableEq

/-- The native call case of `SourceLocalEvidence::validate`.
mirrors evertrace-domain/src/evidence.rs:653-680 -/
def SourceLocalNativeCall.validate (call : SourceLocalNativeCall) (role : ObservationRole) :
    Except EvidenceError Unit := do
  ensure .invalid (role == .intent || role == .result)
  [call.sessionId, call.requestId, call.turnId, call.toolName].forM validateIdentifier
  call.agentId.toList.forM validateIdentifier
  call.transcriptPath.toList.forM validateSourceLocator
  ensure .invalid (call.namespaceWitness.all call.acceptsWitness)

/-- mirrors evertrace-domain/src/evidence.rs:651-699 -/
def SourceLocalEvidence.validate (e : SourceLocalEvidence) (role : ObservationRole) : Except EvidenceError Unit :=
  match e with
  | .nativeCall call => call.validate role
  | .namespaceWitness witness supportedCall supportedObservationRefs => do
    ensure .invalid (!(role != .stateProbe || supportedObservationRefs.isEmpty
      || 256 < supportedObservationRefs.length))
    witness.validate
    supportedCall.validate .intent
    ensure .invalid (supportedCall.acceptsWitness witness)
    requireUnique supportedObservationRefs

/-- mirrors evertrace-domain/src/evidence.rs:714-717 -/
inductive SourceLocalPairingState where
  | sourcePaired
  | conflicted
  deriving DecidableEq, Repr

/-- mirrors evertrace-domain/src/evidence.rs:721-728 -/
structure SourceLocalPairing where
  namespace_ : SourceLocalNamespace
  requestId : String
  intentObservationRefs : List SourceObservationId
  resultObservationRefs : List SourceObservationId
  namespaceWitnessRefs : List SourceObservationId
  state : SourceLocalPairingState
  deriving DecidableEq

/-- mirrors evertrace-domain/src/evidence.rs:731-757 -/
def SourceLocalPairing.validate (p : SourceLocalPairing) : Except EvidenceError Unit := do
  p.namespace_.validate
  validateIdentifier p.requestId
  [p.intentObservationRefs, p.resultObservationRefs, p.namespaceWitnessRefs].forM fun refs => do
    requireUnique refs
    ensure .invalidOperation (refs.length ≤ 256)
  ensure .invalidOperation (!(p.resultObservationRefs.isEmpty || p.namespaceWitnessRefs.isEmpty
    || p.intentObservationRefs.any (p.resultObservationRefs.contains ·)
    || (p.state == .sourcePaired
      && (p.intentObservationRefs.length != 1 || p.resultObservationRefs.length != 1))))

/-! ## Source observations -/

/-- mirrors evertrace-domain/src/evidence.rs:538-559 -/
structure SourceObservation where
  sourceObservationId : SourceObservationId
  sourceInstanceId : String
  sourceRevision : String
  sourceRecordIdentity : String
  observationRole : ObservationRole
  identityStrength : IdentityStrength
  payloadFingerprint : String
  sourceReceiptRef : SourceReceiptId
  captureCompleteness : CaptureCompleteness
  adapterRevision : UInt32
  parserRevision : UInt32
  canonicalizationRevision : UInt32
  detectorRevision : UInt32
  redactionRevision : UInt32
  correlation : HostCorrelationEvidence
  scopeEffectClaims : List ScopeEffectClaim
  sourceLocalEvidence : Option SourceLocalEvidence
  deriving DecidableEq

/-- The first block of `validate`: the source-local evidence fits the observation. -/
def SourceObservation.validateLocal (o : SourceObservation) : Except EvidenceError Unit :=
  match o.sourceLocalEvidence with
  | none => .ok ()
  | some evidence => do
    evidence.validate o.observationRole
    match evidence with
    | .nativeCall call =>
      ensure .invalidCorrelation
        (!(o.correlation.nativeRequestId != some call.requestId || o.correlation.exactKey.isSome))
    | .namespaceWitness .. => .ok ()

/-- mirrors evertrace-domain/src/evidence.rs:775-804 -/
def SourceObservation.validate (H : Sha256) (o : SourceObservation) : Except EvidenceError Unit := do
  o.validateLocal
  validateDigest o.payloadFingerprint
  let observationId ← Evidence.sourceObservationId H o.sourceInstanceId o.sourceRevision o.sourceRecordIdentity
  ensure .invalid (o.sourceObservationId == observationId)
  let receiptId ← sourceReceiptId H o.sourceInstanceId o.sourceRevision o.sourceRecordIdentity
  ensure .invalid (!(o.sourceReceiptRef != receiptId || o.adapterRevision == 0 || o.parserRevision == 0
    || o.canonicalizationRevision == 0 || o.detectorRevision == 0 || o.redactionRevision == 0
    || (o.identityStrength == .synthesizedBestEffort && o.captureCompleteness == .complete)))
  o.correlation.validate
  ensure .invalidCorrelation (!(o.correlation.pairingRole != o.observationRole
    || o.correlation.adapterRevision != o.adapterRevision))
  o.scopeEffectClaims.forM ScopeEffectClaim.validate

/-! ## Physical records -/

/-- mirrors evertrace-domain/src/evidence.rs:889-896 -/
structure FieldProvenanceEntry where
  field : CorrelationField
  sourceObservationRef : SourceObservationId
  sourceRef : String
  evidenceRef : String
  deriving DecidableEq

/-- mirrors evertrace-domain/src/evidence.rs:898-918 -/
structure HostOccurrence where
  hostOccurrenceId : HostOccurrenceId
  exactKey : Option HostOccurrenceExactKey
  hostInstanceId : Option String
  hostTraceLineageId : Option String
  hostLaneKey : Option String
  canonicalEventFamily : Option CanonicalEventFamily
  nativeRequestId : Option String
  physicalExecutionOrdinal : Option UInt32
  correlationStrength : CorrelationStrength
  sourceObservationRefs : List SourceObservationId
  fieldProvenance : List FieldProvenanceEntry
  normalizationState : NormalizationState
  pairingState : PairingState
  possibleDuplicateGroupId : Option DuplicateGroupId
  correlationResolverVersion : UInt32
  normalizationRevision : UInt32
  previousNormalizationRevision : Option UInt32
  deriving DecidableEq

namespace HostOccurrence

/-- The `match` on the correlation strength: the id belongs to the key, or to the one observation. -/
def validateIdentity (H : Sha256) (o : HostOccurrence) : Except EvidenceError Unit :=
  match o.correlationStrength with
  | .exact => do
    let key ← okOr .invalidOccurrence o.exactKey
    key.validate
    let id ← hostOccurrenceIdForExact H key
    ensure .invalidOccurrence (!(o.hostOccurrenceId != id
      || o.hostInstanceId != some key.hostInstanceId
      || o.hostTraceLineageId != some key.hostTraceLineageId
      || o.hostLaneKey != some key.hostLaneKey
      || o.canonicalEventFamily != some key.canonicalEventFamily
      || o.nativeRequestId != some key.nativeRequestId
      || o.physicalExecutionOrdinal != some key.physicalExecutionOrdinal
      || o.possibleDuplicateGroupId.isSome))
  | strength =>
    match o.exactKey, o.sourceObservationRefs with
    | none, [observation] => do
      let id ← hostOccurrenceIdForNonexact H observation strength
      ensure .invalidOccurrence (o.hostOccurrenceId == id)
    | _, _ => .error .invalidOccurrence

/-- The loop over the provenance entries: each is of a member, no field of one member twice. -/
def validateProvenance (refs : List SourceObservationId) : List (CorrelationField × SourceObservationId) →
    List FieldProvenanceEntry → Except EvidenceError Unit
  | _, [] => .ok ()
  | seen, entry :: rest => do
    ensure .invalidOccurrence (!(!refs.contains entry.sourceObservationRef
      || seen.contains (entry.field, entry.sourceObservationRef)))
    validateIdentifier entry.sourceRef
    validateIdentifier entry.evidenceRef
    validateProvenance refs ((entry.field, entry.sourceObservationRef) :: seen) rest

/-- mirrors evertrace-domain/src/evidence.rs:921-1029 -/
def validate (H : Sha256) (o : HostOccurrence) : Except EvidenceError Unit := do
  ensure .invalidOccurrence (!(o.sourceObservationRefs.isEmpty || o.correlationResolverVersion == 0
    || o.normalizationRevision == 0
    || o.previousNormalizationRevision.any (fun previous => previous == 0 || previous + 1 != o.normalizationRevision)
    || (o.normalizationRevision == 1 && o.previousNormalizationRevision.isSome)))
  requireUnique o.sourceObservationRefs
  o.validateIdentity H
  validateProvenance o.sourceObservationRefs [] o.fieldProvenance
  let expectedFields := presentFields o.hostInstanceId o.hostTraceLineageId o.hostLaneKey o.canonicalEventFamily
    o.nativeRequestId o.physicalExecutionOrdinal
  o.sourceObservationRefs.forM fun source =>
    ensure .invalidOccurrence (sameElements
      ((o.fieldProvenance.filter (·.sourceObservationRef == source)).map (·.field)) expectedFields)
  ensure .invalidOccurrence
    (!((o.sourceObservationRefs.length == 1
        && !(o.normalizationState == .singleSource || o.normalizationState == .normalizationConflicted))
      || (1 < o.sourceObservationRefs.length && o.normalizationState == .singleSource)
      || (o.correlationStrength == .conflicted && o.normalizationState != .normalizationConflicted)))

end HostOccurrence

/-- mirrors evertrace-domain/src/evidence.rs:1032-1049 -/
structure Operation where
  operationId : OperationId
  hostOccurrenceId : HostOccurrenceId
  executionLaneId : Option ExecutionLaneId
  operationKind : OperationKind
  inputSourceObservationRefs : List SourceObservationId
  resultSourceObservationRefs : List SourceObservationId
  pairingState : PairingState
  scopeEffectIds : List ScopeEffectId
  artifactRefs : List WorkArtifactId
  operationResolverVersion : UInt32
  operationRevision : UInt32
  previousOperationRevision : Option UInt32
  sourceLocalPairing : Option SourceLocalPairing
  deriving DecidableEq

namespace Operation

/-- The pairing state asks for something else than the input and result lists hold. -/
def contradictsPairing (o : Operation) : Bool :=
  match o.pairingState with
  | .paired => o.inputSourceObservationRefs.isEmpty || o.resultSourceObservationRefs.isEmpty
  | .unmatchedIntent => o.inputSourceObservationRefs.isEmpty || !o.resultSourceObservationRefs.isEmpty
  | .unmatchedResult => !o.inputSourceObservationRefs.isEmpty || o.resultSourceObservationRefs.isEmpty
  | .conflicted => o.inputSourceObservationRefs.length ≤ 1 && o.resultSourceObservationRefs.length ≤ 1
  | .notApplicable => false

/-- `u32::checked_add(1)` -/
def checkedSucc (n : UInt32) : Option UInt32 := if n = UInt32.ofNat (2 ^ 32 - 1) then none else some (n + 1)

/-- mirrors evertrace-domain/src/evidence.rs:1052-1101 -/
def validate (o : Operation) : Except EvidenceError Unit := do
  o.sourceLocalPairing.toList.forM SourceLocalPairing.validate
  ensure .invalidOperation (!(o.operationResolverVersion == 0 || o.operationRevision == 0
    || o.previousOperationRevision.any (fun previous => previous == 0 || checkedSucc previous != some o.operationRevision)
    || (o.operationRevision == 1 && o.previousOperationRevision.isSome)))
  requireUnique o.inputSourceObservationRefs
  requireUnique o.resultSourceObservationRefs
  requireUnique o.scopeEffectIds
  requireUnique o.artifactRefs
  ensure .invalidOperation (!(o.inputSourceObservationRefs.any (o.resultSourceObservationRefs.contains ·)
    || o.contradictsPairing))
  ensure .invalidOperation (!(o.inputSourceObservationRefs.isEmpty && o.resultSourceObservationRefs.isEmpty))

end Operation

/-- mirrors evertrace-domain/src/evidence.rs:1104-1117 -/
structure ScopeEffect where
  scopeEffectId : ScopeEffectId
  operationId : OperationId
  effectRole : EffectRole
  repositoryInstanceId : Option RepositoryId
  worktreeInstanceId : Option WorktreeId
  preSnapshotId : Option WorktreeSnapshotId
  postSnapshotId : Option WorktreeSnapshotId
  experimentRunIds : List ExperimentRunId
  artifactRefs : List WorkArtifactId
  evidenceRefs : List SourceObservationId
  deriving DecidableEq

/-- mirrors evertrace-domain/src/evidence.rs:1244-1256 -/
def ScopeEffect.validate (e : ScopeEffect) : Except EvidenceError Unit :=
  ScopeEffectClaim.validate {
    effectRole := e.effectRole
    repositoryInstanceId := e.repositoryInstanceId
    worktreeInstanceId := e.worktreeInstanceId
    preSnapshotId := e.preSnapshotId
    postSnapshotId := e.postSnapshotId
    experimentRunIds := e.experimentRunIds
    artifactRefs := e.artifactRefs
    evidenceRefs := e.evidenceRefs }

end EverTrace.L2.Evidence
