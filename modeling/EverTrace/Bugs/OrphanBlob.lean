import EverTrace.L2Machine.Admission
/-!
# A capture that stores its payload and then gives up

`capture_inner` (evertrace-capture/src/admission.rs:248-484) stores the payload
before it builds the record. `CaptureRecordBody::validate` (frame.rs:158-279)
asks for more than `validate_input` did, and the task, repository and worktree
ids and the previous revision are parsed only now: a refusal here is returned as
an error (lines 363-375, 383, 418). The payload stays in the store, and neither
a record nor a gap marker says that an event is lost. Every other failure from
the fence on writes a gap marker, and the observation id, which comes as a text
like the others, is parsed and compared before.

Counterexample: an event time one microsecond after the clock.

`capture_settles_iff` says exactly which inputs are recorded or leave a marker:
those that meet the rules which only the record's check has, `recordable`, and
whose record fits.
-/
namespace EverTrace.Bugs.OrphanBlob
open EverTrace.Lib EverTrace.L1 EverTrace.L1.Frame EverTrace.L1.Protect
open EverTrace.L2.Evidence EverTrace.L2.Capture EverTrace.L2.Admission

/-! ## The condition -/

/-- The rules of the record that `validate_input` does not check. -/
def recordable (input : CaptureRecordInput) (recordedAtUs : Int) : Bool :=
  input.taskId.all (fun value => (Id.fromStr value : Option TaskId).isSome)
    && input.repositoryInstanceId.all (fun value => (Id.fromStr value : Option RepositoryId).isSome)
    && input.worktreeInstanceId.all (fun value => (Id.fromStr value : Option WorktreeId).isSome)
    && input.previousSourceRevision.all (fun value => (validateIdentifier value).isOk)
    && input.eventTimeUs.all (fun eventTimeUs => eventTimeUs ≤ recordedAtUs)
    && input.correlation.pairingRole == input.observationRole
    && input.correlation.adapterRevision == input.adapterRevision
    && input.correlation.adapterManifestRef == input.adapterManifestRef
    && (validateSourceLocal input.sourceLocalEvidence input.observationRole input.sourceKind
      input.identityDomain).isOk
    && input.sourceByteRange.all (fun range => range.start < range.finish)

/-- The record of an admitted input, with the ids its texts spell. -/
def admittedRecord (H : Sha256) (w : CaptureWorld) (input : CaptureRecordInput) (a : Admitted) : CaptureRecordBody :=
  recordOf H w input a (input.taskId.bind Id.fromStr) (input.repositoryInstanceId.bind Id.fromStr)
    (input.worktreeInstanceId.bind Id.fromStr)

/-- The serialized record and its version fit a record body. -/
def Fits (serialize : CaptureRecordBody → Bytes) (body : CaptureRecordBody) : Prop :=
  (serialize body).length + 2 ≤ maxRecordBody

/-- A payload that was stored is followed by a record or a gap marker, or by the loss of completeness. -/
def Settles (run : CaptureRun) : Prop := run.published.isSome = true → ∃ outcome, run.result = .ok outcome

/-! ## The defect -/

def sampleWorld : CaptureWorld where
  sinceEpoch := some 1000
  commandId := ⟨0x70008000000000000001⟩
  recordUuid := 0x70008000000000000002
  storedKey := some ⟨1, ⟨List.replicate 32 7, length_sevens⟩⟩
  fence := true
  casPut := true
  spoolGeneration := 1
  append := .ok ⟨4096, 512⟩
  limits := sampleLimits
  emergency := .empty
  markerFault := .none
  lastDurableWatermark := 0

/-- A message whose source says that it happened at `eventTimeUs`. -/
def messageAt (eventTimeUs : Int) : CaptureRecordInput where
  spoolRecordId := none
  sourceObservationIdHint := none
  sourceInstanceId := "instance"
  sourceRevision := "r1"
  sourceRecordIdentity := some "record"
  identityStrength := some .stableNative
  sourceKind := .codexHook
  identityDomain := "hook"
  sourceRef := "hook"
  sessionRef := "session"
  turnRef := none
  toolRef := none
  sourceSequence := 1
  sourceSequenceOrigin := none
  taskId := none
  repositoryInstanceId := none
  worktreeInstanceId := none
  sourceByteRange := none
  sourceRevisionMode := .append
  previousSourceRevision := none
  closeWatermark := none
  observationRole := .message
  correlation :=
    { occurrenceSchemaVersion := 1
      hostInstanceId := none
      hostTraceLineageId := none
      hostLaneKey := none
      canonicalEventFamily := none
      nativeRequestId := none
      physicalExecutionOrdinal := none
      pairingRole := .message
      fieldProvenance := []
      adapterManifestRef := "manifest"
      adapterRevision := 1
      strongGateReceiptRef := none
      admission := .unavailable
      partialCorrelationRef := none
      possibleDuplicateGroupId := none }
  scopeEffectClaims := []
  sourceLocalEvidence := none
  lifecycle := none
  unsupportedRecordClassification := none
  sourceRole := .user
  contentTrust := .observed
  captureCompleteness := .complete
  surfaceEligible := true
  adapterRevision := 1
  adapterManifestRef := "manifest"
  eligibleEventManifestRef := "events"
  parserRevision := 1
  canonicalizationRevision := 1
  eventTimeUs := some eventTimeUs
  rawPayload := utf8 "hello"

/-- The clock reads 1000, the event says 1001: the payload is stored, and the capture ends in an error. -/
theorem late_clock_orphans :
    (capture zeroSha passwordMac (fun _ => utf8 "\x7b\x7d") .normal sampleWorld (messageAt 1001)).published.isSome = true ∧
      ¬ Settles (capture zeroSha passwordMac (fun _ => utf8 "\x7b\x7d") .normal sampleWorld (messageAt 1001)) := by
  have hstored : (capture zeroSha passwordMac (fun _ => utf8 "\x7b\x7d") .normal sampleWorld
      (messageAt 1001)).published.isSome = true := by decide +kernel
  have herror : (match (capture zeroSha passwordMac (fun _ => utf8 "\x7b\x7d") .normal sampleWorld
      (messageAt 1001)).result with | .error e => some e | .ok _ => none) = some .serialization := by decide +kernel
  refine ⟨hstored, fun hsettles => ?_⟩
  obtain ⟨outcome, houtcome⟩ := hsettles hstored
  rw [houtcome] at herror
  cases herror

/-! ## What an admitted input has passed -/

theorem parseOptional_ok {α : Type} {parse : String → Option α} {value : Option String} {o : Option α} :
    parseOptional parse value = .ok o ↔ value.all (fun text => (parse text).isSome) = true ∧ o = value.bind parse := by
  cases value with
  | none => simp [parseOptional, pure, Except.pure, eq_comm]
  | some text =>
    rw [parseOptional, bind_eq_ok]
    simp only [okOr_ok, pure_eq_ok, Option.all_some, Option.bind_some, Option.isSome_iff_exists]
    constructor
    · rintro ⟨a, ha, rfl⟩
      exact ⟨⟨a, ha⟩, ha.symm⟩
    · rintro ⟨⟨a, ha⟩, rfl⟩
      exact ⟨a, ha, ha.symm⟩

structure Passed (H : Sha256) (M : HmacSha256) (input : CaptureRecordInput) (a : Admitted) : Prop where
  valid : validateInput input = .ok ()
  recorded : 0 ≤ a.recordedAtUs
  strength : a.identity.strength = .synthesizedBestEffort → input.sourceRecordIdentity = none
  observation : sourceObservationId H input.sourceInstanceId input.sourceRevision a.identity.identity =
    .ok a.observationId
  hint : a.observationHint.any (· != a.observationId) = false
  payload : ∃ key : DeviceKey, key.generation ≠ 0 ∧ protect M input.rawPayload key = .ok a.payload

theorem recordIdentity_strength {input : CaptureRecordInput} {spoolRecordId : String} {identity : RecordIdentity}
    (h : recordIdentity input spoolRecordId = .ok identity) (hs : identity.strength = .synthesizedBestEffort) :
    input.sourceRecordIdentity = none := by
  unfold recordIdentity at h
  split at h
  · obtain ⟨_, -, h⟩ := bind_eq_ok.mp h
    rw [pure_eq_ok] at h
    rw [← h] at hs
    cases hs
  · obtain ⟨_, -, h⟩ := bind_eq_ok.mp h
    rw [pure_eq_ok] at h
    rw [← h] at hs
    cases hs
  · next hnone _ => exact hnone
  · next hnone _ => exact hnone
  · cases h

theorem passed_of_admitInput {H : Sha256} {M : HmacSha256} {w : CaptureWorld} {input : CaptureRecordInput} {a : Admitted}
    (h : admitInput H M w input = .ok a) : Passed H M input a := by
  simp only [admitInput, parseIdentifier, loadKey, nowUs, bind_eq_ok, pure_eq_ok, mapError_ok, ensure_ok, okOr_ok] at h
  obtain ⟨_, hinput, recordedAtUs, ⟨micros, -, _, -, hrecorded⟩, _, ⟨_, -, rfl⟩, _, ⟨_, -, rfl⟩, identity, hidentity,
    observationId, hobservation, hint, -, _, hhint, key, ⟨_, -, _, hkey, rfl⟩, payload, hpayload, rfl⟩ := h
  refine ⟨hinput, ?_, recordIdentity_strength hidentity, hobservation, ?_, _, ?_, hpayload⟩
  · dsimp only
    omega
  · simpa using hhint
  · simpa using hkey

/-! ## The redacted payload -/

theorem protectedBytes_ne_nil {M : HmacSha256} {input : Bytes} {key : DeviceKey} {payload : ProtectedPayload}
    (hinput : input ≠ []) (h : protect M input key = .ok payload) : payload.protectedBytes ≠ [] := by
  obtain ⟨-, -, hbytes, -⟩ := protect_inv h
  rw [hbytes, redact]
  cases payload.spans with
  | nil => exact hinput
  | cons span rest =>
    intro hnil
    have htoken : redactionToken = [] := (List.append_eq_nil_iff.mp (List.append_eq_nil_iff.mp hnil).1).2
    exact absurd htoken (by decide)

theorem protect_revisions {M : HmacSha256} {input : Bytes} {key : DeviceKey} {payload : ProtectedPayload}
    (h : protect M input key = .ok payload) :
    payload.detectorRevision ≠ 0 ∧ payload.redactionRevision ≠ 0 ∧ payload.keyGeneration = key.generation := by
  simp only [protect, bind_eq_ok, pure_eq_ok] at h
  obtain ⟨-, -, digest, -, rfl⟩ := h
  exact ⟨(by decide : detectorRevision ≠ 0), (by decide : redactionRevision ≠ 0), rfl⟩

theorem redaction_validate {M : HmacSha256} {input : Bytes} {key : DeviceKey} {payload : ProtectedPayload}
    (h : protect M input key = .ok payload) : payload.recordRedaction.validate = .ok () := by
  obtain ⟨hspans, hraw, -, hdigest⟩ := protect_inv h
  refine recordRedaction_validate ?_ hdigest
  rw [hraw, hspans]
  exact spansFrom_resolved input

/-! ## The record's check -/

theorem recordOf_fieldsValid {H : Sha256} {M : HmacSha256} {w : CaptureWorld} {input : CaptureRecordInput}
    {a : Admitted} (h : Passed H M input a) (taskId : Option TaskId) (repositoryId : Option RepositoryId)
    (worktreeId : Option WorktreeId) :
    (recordOf H w input a taskId repositoryId worktreeId).fieldsValid a.observationId = true ↔
      input.eventTimeUs.all (fun eventTimeUs => eventTimeUs ≤ a.recordedAtUs) = true ∧
        input.correlation.pairingRole = input.observationRole ∧
        input.correlation.adapterRevision = input.adapterRevision ∧
        input.correlation.adapterManifestRef = input.adapterManifestRef := by
  obtain ⟨key, hgeneration, hprotect⟩ := h.payload
  obtain ⟨-, hraw, -, -⟩ := protect_inv hprotect
  obtain ⟨hdetector, hredaction, hkey⟩ := protect_revisions hprotect
  obtain ⟨hguard, -⟩ := ensure_bind_ok.mp h.valid
  simp only [CaptureRecordInput.fieldsValid, Bool.not_or, Bool.and_eq_true, Bool.not_eq_true', Bool.not_eq_false',
    and_assoc] at hguard
  obtain ⟨-, -, -, hsource, hdomain, hsession, -, -, hpayload, -, hadapterRevision, hadapter, heligible, hparser,
    hcanonical, htime, horigin, hclose, hunsupported, hcomplete, -, -⟩ := hguard
  have hcas := validDigest_hex (casDigest H a.payload)
  have hnonempty : input.rawPayload ≠ [] := fun hnil => by simp [hnil] at hpayload
  have hlength : a.payload.protectedBytes.length ≠ 0 :=
    fun hzero => protectedBytes_ne_nil hnonempty hprotect (List.length_eq_zero_iff.mp hzero)
  have hraw : a.payload.recordRedaction.originalLength ≠ 0 := by
    rw [show a.payload.recordRedaction.originalLength = a.payload.rawLength from rfl, hraw]
    exact fun hzero => hnonempty (List.length_eq_zero_iff.mp hzero)
  have hstrength : (a.identity.strength == .synthesizedBestEffort && input.captureCompleteness == .complete) = false := by
    rw [Bool.and_eq_false_iff, beq_eq_false_iff_ne]
    by_cases hs : a.identity.strength = .synthesizedBestEffort
    · rw [h.strength hs, Option.isNone_none, Bool.true_and] at hcomplete
      exact .inr hcomplete
    · exact .inl hs
  have hrecorded := h.recorded
  have hevent : decide (input.eventTimeUs.getD a.recordedAtUs < 0) = false ∧
      (decide (a.recordedAtUs < input.eventTimeUs.getD a.recordedAtUs) = false ↔
        input.eventTimeUs.all (fun eventTimeUs => eventTimeUs ≤ a.recordedAtUs) = true) := by
    cases hevent : input.eventTimeUs with
    | none => simp [hrecorded]
    | some eventTimeUs =>
      rw [hevent] at htime
      simp only [Option.any_some, decide_eq_false_iff_not] at htime
      simp [htime]
  simp only [CaptureRecordBody.fieldsValid, recordOf, Bool.not_or, Bool.and_eq_true, Bool.not_eq_true',
    Bool.not_eq_false', and_assoc, beq_eq_false_iff_ne, bne_eq_false_iff_eq]
  constructor
  · rintro ⟨-, -, -, -, -, -, -, -, -, -, -, -, -, -, -, -, -, -, hlate, -, -, -, -, hpairing, hrevision, hmanifest⟩
    exact ⟨hevent.2.mp hlate, hpairing, hrevision, hmanifest⟩
  · rintro ⟨hlate, hpairing, hrevision, hmanifest⟩
    simp only [beq_eq_false_iff_ne] at hadapterRevision hparser hcanonical
    rw [← hkey] at hgeneration
    exact ⟨trivial, h.hint, hsource, hdomain, hsession, hadapter, heligible, hcas, hlength, hraw, hadapterRevision, hparser,
      hcanonical, hdetector, hredaction, hgeneration, hevent.1, decide_eq_false (by omega), hevent.2.mpr hlate, horigin, hclose, hstrength,
      hunsupported, hpairing, hrevision, hmanifest⟩

theorem validateLifecycle_error {ε ε' : Type} {e : ε} {e' : ε'} {lifecycle : Option LaneLifecycleEvidence}
    {sessionRef adapterManifestRef eligibleEventManifestRef : String} :
    validateLifecycle e lifecycle sessionRef adapterManifestRef eligibleEventManifestRef = .ok () ↔
      validateLifecycle e' lifecycle sessionRef adapterManifestRef eligibleEventManifestRef = .ok () := by
  cases lifecycle with
  | none => exact ⟨fun _ => rfl, fun _ => rfl⟩
  | some lifecycle => simp only [validateLifecycle, bind_eq_ok, mapError_ok, ensure_ok]

theorem byteRange_ok {range : Option EverTrace.L2.SessionImport.EvidenceByteRange} :
    range.toList.forM validateByteRange = .ok () ↔ range.all (fun range => range.start < range.finish) = true := by
  cases range with
  | none => exact ⟨fun _ => rfl, fun _ => rfl⟩
  | some range => simp [validateByteRange]

/-- The record's check comes down to the rules that `validate_input` does not have. -/
theorem recordOf_validate {H : Sha256} {M : HmacSha256} {w : CaptureWorld} {input : CaptureRecordInput} {a : Admitted}
    (h : Passed H M input a) (taskId : Option TaskId) (repositoryId : Option RepositoryId)
    (worktreeId : Option WorktreeId) :
    (recordOf H w input a taskId repositoryId worktreeId).validate H = .ok () ↔
      (validateSourceLocal input.sourceLocalEvidence input.observationRole input.sourceKind
          input.identityDomain).isOk = true ∧
        (input.eventTimeUs.all (fun eventTimeUs => eventTimeUs ≤ a.recordedAtUs) = true ∧
          input.correlation.pairingRole = input.observationRole ∧
          input.correlation.adapterRevision = input.adapterRevision ∧
          input.correlation.adapterManifestRef = input.adapterManifestRef) ∧
        input.sourceByteRange.all (fun range => range.start < range.finish) = true := by
  obtain ⟨key, -, hprotect⟩ := h.payload
  obtain ⟨hguard, hvalid⟩ := ensure_bind_ok.mp h.valid
  obtain ⟨_, hcorrelation, hvalid⟩ := bind_eq_ok.mp hvalid
  obtain ⟨_, hclaims, hlifecycle⟩ := bind_eq_ok.mp hvalid
  rw [mapError_ok] at hcorrelation
  simp only [CaptureRecordInput.fieldsValid, Bool.not_or, Bool.and_eq_true, and_assoc] at hguard
  obtain ⟨-, -, -, -, -, -, -, -, -, -, -, -, -, -, -, -, -, -, -, -, hreplacement, happend⟩ := hguard
  have hforM : (input.scopeEffectClaims.forM fun claim =>
      claim.validate.mapError fun _ => SpoolFrameError.invalid) = .ok () :=
    forM_eq_ok.mpr fun claim hclaim => mapError_ok.mpr (mapError_ok.mp (forM_eq_ok.mp hclaims claim hclaim))
  have hobservation : sourceObservationId H (recordOf H w input a taskId repositoryId worktreeId).sourceInstanceId
      (recordOf H w input a taskId repositoryId worktreeId).sourceRevision
      (recordOf H w input a taskId repositoryId worktreeId).sourceRecordIdentity = .ok a.observationId :=
    h.observation
  rw [← recordOf_fieldsValid h taskId repositoryId worktreeId, ← byteRange_ok, isOk_iff]
  unfold CaptureRecordBody.validate
  rw [hobservation]
  simp only [bind_eq_ok, mapError_ok, ensure_ok]
  constructor
  · rintro ⟨_, hlocal, _, hid, _, hfields, _, -, _, -, _, hrange, -⟩
    cases hid
    exact ⟨hlocal, hfields, hrange⟩
  · rintro ⟨hlocal, hfields, hrange⟩
    exact ⟨(), hlocal, _, rfl, (), hfields, (), hreplacement, (), happend, (), hrange, (), hcorrelation, (), hforM,
      (), validateLifecycle_error.mp hlifecycle, (), redaction_validate hprotect, rfl⟩

/-! ## When a stored payload is settled -/

theorem encodeRecordBody_ok {H : Sha256} {serialize : CaptureRecordBody → Bytes} {body : CaptureRecordBody} :
    (∃ bytes, encodeRecordBody H serialize body = .ok bytes) ↔ body.validate H = .ok () ∧ Fits serialize body := by
  simp only [encodeRecordBody, bind_eq_ok, ensure_ok, pure_eq_ok, Fits, Bool.not_eq_true', decide_eq_false_iff_not,
    Nat.not_lt]
  constructor
  · rintro ⟨_, _, hvalid, _, hsize, -⟩
    exact ⟨hvalid, hsize⟩
  · rintro ⟨hvalid, hsize⟩
    exact ⟨_, (), hvalid, (), hsize, rfl⟩

theorem recordBody_ok {H : Sha256} {M : HmacSha256} {serialize : CaptureRecordBody → Bytes} {w : CaptureWorld}
    {input : CaptureRecordInput} {a : Admitted} (h : Passed H M input a) :
    (∃ bytes, recordBody H serialize w input a = .ok bytes) ↔
      recordable input a.recordedAtUs = true ∧ Fits serialize (admittedRecord H w input a) := by
  have hrecord := recordOf_validate (w := w) h (input.taskId.bind Id.fromStr) (input.repositoryInstanceId.bind Id.fromStr)
    (input.worktreeInstanceId.bind Id.fromStr)
  have hencode := @encodeRecordBody_ok H serialize (admittedRecord H w input a)
  have hprevious : input.previousSourceRevision.all (fun value => (parseIdentifier value).toOption.isSome) =
      input.previousSourceRevision.all fun value => (validateIdentifier value).isOk := by
    cases input.previousSourceRevision with
    | none => rfl
    | some value =>
      rw [Option.all_some, Option.all_some, parseIdentifier]
      cases validateIdentifier value <;> rfl
  simp only [recordable, Bool.and_eq_true, beq_iff_eq, and_assoc, ← hprevious]
  simp only [recordBody, bind_eq_ok, parseOptional_ok, mapError_ok]
  constructor
  · rintro ⟨bytes, _, ⟨htask, rfl⟩, _, ⟨hrepository, rfl⟩, _, ⟨hworktree, rfl⟩, _, ⟨hprev, -⟩, hbytes⟩
    obtain ⟨hvalid, hfits⟩ := hencode.mp ⟨bytes, hbytes⟩
    obtain ⟨hlocal, ⟨htime, hpairing, hrevision, hmanifest⟩, hrange⟩ := hrecord.mp hvalid
    exact ⟨htask, hrepository, hworktree, hprev, htime, hpairing, hrevision, hmanifest, hlocal, hrange, hfits⟩
  · rintro ⟨htask, hrepository, hworktree, hprev, htime, hpairing, hrevision, hmanifest, hlocal, hrange, hfits⟩
    have hvalid := hrecord.mpr ⟨hlocal, ⟨htime, hpairing, hrevision, hmanifest⟩, hrange⟩
    obtain ⟨bytes, hbytes⟩ := hencode.mpr ⟨hvalid, hfits⟩
    exact ⟨bytes, _, ⟨htask, rfl⟩, _, ⟨hrepository, rfl⟩, _, ⟨hworktree, rfl⟩, _, ⟨hprev, rfl⟩, hbytes⟩

theorem appendRecord_ok (H : Sha256) (state : CaptureAdmissionState) (w : CaptureWorld) (input : CaptureRecordInput)
    (a : Admitted) : ∃ outcome, (appendRecord H state w input a).result = .ok outcome := by
  unfold appendRecord
  dsimp only
  split
  · exact ⟨_, rfl⟩
  · exact ⟨_, rfl⟩
  · exact ⟨_, rfl⟩

/-- **Which captures settle what they stored.** A capture whose payload was stored returns `Durable`,
`GapRecorded` or `CompletenessLost` if and only if its input, with the clock's reading, meets the rules
that only the record's check has, and the serialized record fits a record body. -/
theorem capture_settles_iff (H : Sha256) (M : HmacSha256) (serialize : CaptureRecordBody → Bytes)
    (state : CaptureAdmissionState) (w : CaptureWorld) (input : CaptureRecordInput) :
    Settles (capture H M serialize state w input) ↔
      ∀ a, admitInput H M w input = .ok a → w.fence = true → w.casPut = true →
        recordable input a.recordedAtUs = true ∧ Fits serialize (admittedRecord H w input a) := by
  unfold Settles capture
  cases hadmit : admitInput H M w input with
  | error e => exact ⟨fun _ a h => (by cases h), fun _ h => (by cases h)⟩
  | ok a =>
    have hrecord := @recordBody_ok H M serialize w input a (passed_of_admitInput hadmit)
    dsimp only
    by_cases hput : (!w.fence || !w.casPut) = true
    · rw [if_pos hput]
      refine ⟨fun _ a' _ hfence hcas => ?_, fun _ h => (by cases h)⟩
      rw [hfence, hcas] at hput
      cases hput
    · rw [if_neg hput]
      simp only [Bool.not_eq_true, Bool.or_eq_false_iff, Bool.not_eq_false'] at hput
      cases hbody : recordBody H serialize w input a with
      | error e =>
        rw [hbody] at hrecord
        constructor
        · intro h
          obtain ⟨outcome, houtcome⟩ := h rfl
          cases houtcome
        · intro h
          obtain ⟨bytes, hbytes⟩ := hrecord.mpr (h a rfl hput.1 hput.2)
          cases hbytes
      | ok bytes =>
        rw [hbody] at hrecord
        refine ⟨fun _ a' ha' _ _ => ?_, fun _ _ => appendRecord_ok H state w input a⟩
        cases ha'
        exact hrecord.mp ⟨bytes, rfl⟩

/-- The same message, one microsecond earlier, is recorded. -/
example : Settles (capture zeroSha passwordMac (fun _ => utf8 "\x7b\x7d") .normal sampleWorld (messageAt 1000)) :=
  fun _ => ⟨_, rfl⟩

end EverTrace.Bugs.OrphanBlob
