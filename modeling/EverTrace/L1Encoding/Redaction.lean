import EverTrace.L1Encoding.Frame
import EverTrace.L1Encoding.Ids
import EverTrace.L1Encoding.Protect
/-!
# What redaction keeps (`protect.rs`, `frame.rs`)

The spans of a payload cut the input into gaps and secrets. The protected bytes
are the gaps with a token for each secret, and the gaps with the secrets put
back are the input (`weave`). The capture record carries the spans and the
digest of the secrets; `CaptureRecordBody::validate` checks them again before
the record is encoded.

Result: `protect_exact`.
-/
namespace EverTrace.L1.Protect
open EverTrace.Lib EverTrace.L1.Frame

/-! ## The redaction fields of a capture record -/

/-- mirrors evertrace-capture/src/protect.rs:15-20 -/
inductive ArchiveMode where
  | exact
  | redacted
  deriving DecidableEq, Repr

/-- mirrors evertrace-domain/src/evidence.rs:355-359 -/
structure EvidenceRedactionSpan where
  start : Nat
  stop : Nat
  kind : String
  deriving DecidableEq

/-- The fields of `CaptureRecordBody` that say what was redacted.
mirrors evertrace-capture/src/frame.rs:84-88 -/
structure RecordRedaction where
  archiveMode : ArchiveMode
  originalLength : Nat
  protectedSecretDigest : Option String
  redactionSpans : List EvidenceRedactionSpan
  deriving DecidableEq

/-- mirrors evertrace-capture/src/frame.rs:576-582 -/
def validText (value : String) : Bool :=
  utf8 value ≠ [] && (utf8 value).length ≤ 256 &&
    (utf8 value).all fun byte => byte ≠ 0 && !(byte < 0x20 || byte = 0x7f)

/-- mirrors evertrace-capture/src/frame.rs:584-589 -/
def validDigest (value : String) : Bool := (utf8 value).length = 64 && (utf8 value).all isLowerHex

/-- The loop over the spans; `previousEnd` is where the span before ended. -/
def validateSpans (originalLength : Nat) : Nat → List EvidenceRedactionSpan → Except SpoolFrameError Unit
  | _, [] => return ()
  | previousEnd, span :: rest => do
    ensure .invalid (!(span.start ≥ span.stop || span.stop > originalLength || span.start < previousEnd
      || !validText span.kind))
    validateSpans originalLength span.stop rest

/-- mirrors evertrace-capture/src/frame.rs:235-247 -/
def RecordRedaction.modeAgrees (record : RecordRedaction) : Bool :=
  match record.archiveMode with
  | .exact => !(record.protectedSecretDigest.isSome || !record.redactionSpans.isEmpty)
  | .redacted => !(record.protectedSecretDigest.isNone || record.redactionSpans.isEmpty)

/-- The redaction checks of `CaptureRecordBody::validate`.
mirrors evertrace-capture/src/frame.rs:235-265 -/
def RecordRedaction.validate (record : RecordRedaction) : Except SpoolFrameError Unit := do
  ensure .invalid record.modeAgrees
  ensure .invalid (record.protectedSecretDigest.all validDigest)
  validateSpans record.originalLength 0 record.redactionSpans

/-- mirrors evertrace-capture/src/protect.rs:103-110 -/
def ProtectedPayload.archiveMode (payload : ProtectedPayload) : ArchiveMode :=
  if payload.spans.isEmpty then .exact else .redacted

/-- mirrors evertrace-capture/src/key.rs:274-282 -/
def hex (bytes : Bytes) : String := String.ofList (hexBytes bytes)

/-- How a capture fills the redaction fields.
mirrors evertrace-capture/src/admission.rs:335-347, 407 -/
def ProtectedPayload.recordRedaction (payload : ProtectedPayload) : RecordRedaction where
  archiveMode := payload.archiveMode
  originalLength := payload.rawLength
  protectedSecretDigest := payload.protectedSecretDigest.map fun digest => hex digest.bytes
  redactionSpans := payload.spans.map fun span => ⟨span.start, span.stop, span.kind.asStr⟩

/-! ## Gaps and secrets -/

/-- The gaps with the pieces between them; there is one gap more. -/
def weave : List Bytes → List Bytes → Bytes
  | [], _ => []
  | gap :: gaps, [] => gap ++ weave gaps []
  | gap :: gaps, piece :: pieces => gap ++ piece ++ weave gaps pieces

/-- The bytes before, between and after the spans, from `cursor` on. -/
def gapsFrom (input : Bytes) : Nat → List RedactionSpan → List Bytes
  | cursor, [] => [input.drop cursor]
  | cursor, span :: rest => (input.drop cursor).take (span.start - cursor) :: gapsFrom input span.stop rest

/-- `input[span.start..span.end]` -/
def RedactionSpan.slice (input : Bytes) (span : RedactionSpan) : Bytes :=
  (input.drop span.start).take (span.stop - span.start)

theorem redactFrom_weave (input : Bytes) (spans : List RedactionSpan) : ∀ cursor : Nat,
    redactFrom input cursor spans = weave (gapsFrom input cursor spans) (spans.map fun _ => redactionToken) := by
  induction spans with
  | nil => intro cursor; simp [redactFrom, gapsFrom, weave]
  | cons span rest ih => intro cursor; rw [redactFrom, ih]; rfl

/-- The gaps with the secrets put back are the input. -/
theorem weave_slices (input : Bytes) : ∀ {spans : List RedactionSpan} {cursor : Nat},
    SpansFrom input.length cursor spans →
    weave (gapsFrom input cursor spans) (spans.map (RedactionSpan.slice input)) = input.drop cursor := by
  intro spans
  induction spans with
  | nil => intro cursor _; simp [gapsFrom, weave]
  | cons span rest ih =>
    intro cursor h
    obtain ⟨hstart, hstop, hle, hrest⟩ := h
    have hgap : input.drop span.start = (input.drop cursor).drop (span.start - cursor) := by
      rw [List.drop_drop]
      congr 1
      omega
    have hslice : input.drop span.stop = (input.drop span.start).drop (span.stop - span.start) := by
      rw [List.drop_drop]
      congr 1
      omega
    rw [List.map_cons, gapsFrom, weave, ih hrest, RedactionSpan.slice, List.append_assoc, hslice,
      List.take_append_drop, hgap, List.take_append_drop]

/-- Each span takes its bytes out and puts a token in. -/
theorem length_redactFrom (input : Bytes) : ∀ {spans : List RedactionSpan} {cursor : Nat},
    SpansFrom input.length cursor spans →
    (redactFrom input cursor spans).length + (spans.map fun span => span.stop - span.start).sum + cursor =
      input.length + 10 * spans.length := by
  have htoken : redactionToken.length = 10 := rfl
  intro spans
  induction spans with
  | nil =>
    intro cursor h
    simp only [SpansFrom] at h
    simp only [redactFrom, List.length_drop, List.map_nil, List.sum_nil, List.length_nil]
    omega
  | cons span rest ih =>
    intro cursor h
    obtain ⟨hstart, hstop, hle, hrest⟩ := h
    have hnext := ih hrest
    simp only [redactFrom, List.length_append, List.length_take, List.length_drop, htoken, List.map_cons,
      List.sum_cons, List.length_cons]
    omega

theorem SpansFrom.inside {n : Nat} : ∀ {spans : List RedactionSpan} {cursor : Nat}, SpansFrom n cursor spans →
    ∀ span ∈ spans, cursor ≤ span.start ∧ span.start < span.stop ∧ span.stop ≤ n := by
  intro spans
  induction spans with
  | nil => intro cursor _ span hspan; cases hspan
  | cons first rest ih =>
    intro cursor h span hspan
    obtain ⟨hstart, hstop, hle, hrest⟩ := h
    rcases List.mem_cons.mp hspan with rfl | hspan
    · exact ⟨hstart, hstop, hle⟩
    · obtain ⟨h₁, h₂, h₃⟩ := ih hrest span hspan
      exact ⟨by omega, h₂, h₃⟩

theorem SpansFrom.pairwise {n : Nat} : ∀ {spans : List RedactionSpan} {cursor : Nat}, SpansFrom n cursor spans →
    spans.Pairwise fun a b => a.start < b.start ∧ a.stop ≤ b.start := by
  intro spans
  induction spans with
  | nil => intro cursor _; exact .nil
  | cons first rest ih =>
    intro cursor h
    obtain ⟨hstart, hstop, hle, hrest⟩ := h
    refine List.pairwise_cons.mpr ⟨fun span hspan => ?_, ih hrest⟩
    have := (hrest.inside span hspan).1
    omega

/-! ## The record passes its check -/

theorem utf8_ofList (chars : List Char) : utf8 (String.ofList chars) = chars.flatMap String.utf8EncodeChar := by
  simp [utf8, List.utf8Encode]

set_option maxRecDepth 2000 in
theorem hexDigit_utf8 : ∀ n : Fin 16, (String.utf8EncodeChar (hexDigit n)).length = 1 ∧
    ∀ b ∈ String.utf8EncodeChar (hexDigit n), isLowerHex b = true := by
  decide

theorem hexBytes_cons (x : UInt8) (bytes : Bytes) :
    hexBytes (x :: bytes) = hexDigit (x.toNat / 16) :: hexDigit (x.toNat % 16) :: hexBytes bytes := by
  simp [hexBytes]

theorem hex_utf8 (bytes : Bytes) :
    (utf8 (hex bytes)).length = 2 * bytes.length ∧ ∀ b ∈ utf8 (hex bytes), isLowerHex b = true := by
  rw [hex, utf8_ofList]
  induction bytes with
  | nil => exact ⟨rfl, fun b hb => by cases hb⟩
  | cons x bytes ih =>
    obtain ⟨hhigh, hhighHex⟩ := hexDigit_utf8 ⟨x.toNat / 16, by have := x.toNat_lt; omega⟩
    obtain ⟨hlow, hlowHex⟩ := hexDigit_utf8 ⟨x.toNat % 16, by omega⟩
    rw [hexBytes_cons, List.flatMap_cons, List.flatMap_cons]
    refine ⟨?_, fun b hb => ?_⟩
    · rw [List.length_append, List.length_append, hhigh, hlow, ih.1, List.length_cons]
      omega
    · rcases List.mem_append.mp hb with hb | hb
      · exact hhighHex b hb
      rcases List.mem_append.mp hb with hb | hb
      · exact hlowHex b hb
      · exact ih.2 b hb

theorem validDigest_hex (digest : Digest) : validDigest (hex digest.bytes) = true := by
  obtain ⟨hlen, hall⟩ := hex_utf8 digest.bytes
  rw [digest.length_eq] at hlen
  simp only [validDigest, hlen, Bool.and_eq_true, decide_true, true_and]
  exact List.all_eq_true.mpr hall

theorem validText_kind (kind : SecretKind) : validText kind.asStr = true := by
  cases kind <;> decide

theorem validateSpans_ok {n : Nat} : ∀ {spans : List RedactionSpan} {cursor : Nat}, SpansFrom n cursor spans →
    validateSpans n cursor (spans.map fun span => ⟨span.start, span.stop, span.kind.asStr⟩) = .ok () := by
  intro spans
  induction spans with
  | nil => intro cursor _; rfl
  | cons span rest ih =>
    intro cursor h
    obtain ⟨hstart, hstop, hle, hrest⟩ := h
    rw [List.map_cons, validateSpans, ensure_bind_ok]
    refine ⟨?_, ih hrest⟩
    simp only [validText_kind, Bool.not_true, Bool.or_false, Bool.not_eq_true', Bool.or_eq_false_iff,
      decide_eq_false_iff_not]
    omega

theorem secretDigest_isSome {M : HmacSha256} {input : Bytes} {key : DeviceKey} {spans : List RedactionSpan}
    {digest : Option Digest} (h : secretDigest M input key spans = .ok digest) :
    digest.isSome = !spans.isEmpty := by
  unfold secretDigest at h
  split at h
  · next hempty =>
    cases h
    rw [hempty]
    rfl
  · next hne =>
    split at h
    · cases h
      simpa using hne
    · cases h

theorem protect_inv {M : HmacSha256} {input : Bytes} {key : DeviceKey} {payload : ProtectedPayload}
    (h : protect M input key = .ok payload) :
    payload.spans = (resolveOverlaps (detectCandidates input)).map Candidate.span ∧
      payload.rawLength = input.length ∧ payload.protectedBytes = redact input payload.spans ∧
      payload.protectedSecretDigest.isSome = !payload.spans.isEmpty := by
  simp only [protect, bind_eq_ok, pure_eq_ok] at h
  obtain ⟨-, -, digest, hdigest, rfl⟩ := h
  refine ⟨rfl, rfl, ?_, secretDigest_isSome hdigest⟩
  dsimp only
  split
  · next hempty =>
    rw [List.isEmpty_iff.mp hempty]
    rfl
  · rfl

/-- The redaction fields of a record made from a payload pass the record's check. -/
theorem recordRedaction_validate {payload : ProtectedPayload}
    (hspans : SpansFrom payload.rawLength 0 payload.spans)
    (hdigest : payload.protectedSecretDigest.isSome = !payload.spans.isEmpty) :
    payload.recordRedaction.validate = .ok () := by
  have hall : (payload.protectedSecretDigest.map fun digest => hex digest.bytes).all validDigest = true := by
    cases payload.protectedSecretDigest with
    | none => rfl
    | some digest => exact validDigest_hex digest
  have hmode : payload.recordRedaction.modeAgrees = true := by
    unfold RecordRedaction.modeAgrees ProtectedPayload.recordRedaction ProtectedPayload.archiveMode
    cases hempty : payload.spans.isEmpty with
    | true => simp [hempty, hdigest]
    | false => simp [hempty, hdigest, ← Option.not_isSome]
  simp only [RecordRedaction.validate, ensure_bind_ok]
  exact ⟨hmode, hall, validateSpans_ok hspans⟩

/-! ## Exact outside the spans -/

/-- **Redaction is exact outside its spans.** `protect` succeeds on every input in memory. Its spans
are strictly increasing, disjoint, non-empty and inside the input; the protected bytes are the gaps
with a token in place of each span, the gaps with the spans' own bytes are the input; the lengths add
up; and the record made from the payload passes its redaction checks. -/
theorem protect_exact (M : HmacSha256) (input : Bytes) (key : DeviceKey) (hlen : input.length < 2 ^ 64) :
    ∃ payload, protect M input key = .ok payload ∧ payload.rawLength = input.length ∧
      (payload.spans.Pairwise fun a b => a.start < b.start ∧ a.stop ≤ b.start) ∧
      (∀ span ∈ payload.spans, span.start < span.stop ∧ span.stop ≤ input.length) ∧
      payload.protectedBytes =
        weave (gapsFrom input 0 payload.spans) (payload.spans.map fun _ => redactionToken) ∧
      weave (gapsFrom input 0 payload.spans) (payload.spans.map (RedactionSpan.slice input)) = input ∧
      payload.protectedBytes.length + (payload.spans.map fun span => span.stop - span.start).sum =
        payload.rawLength + 10 * payload.spans.length ∧
      payload.recordRedaction.validate = .ok () ∧
      (payload.protectedSecretDigest.isSome = true ↔ payload.archiveMode = .redacted) := by
  obtain ⟨payload, hok, -⟩ := protect_ok M input key hlen
  obtain ⟨hspans, hraw, hbytes, hdigest⟩ := protect_inv hok
  have hfrom : SpansFrom input.length 0 payload.spans := by
    rw [hspans]
    exact spansFrom_resolved input
  refine ⟨payload, hok, hraw, hfrom.pairwise, fun span hspan => (hfrom.inside span hspan).2, ?_, ?_, ?_, ?_, ?_⟩
  · rw [hbytes]
    exact redactFrom_weave input payload.spans 0
  · exact weave_slices input hfrom
  · have h := length_redactFrom input hfrom
    rw [hbytes, hraw]
    exact h
  · exact recordRedaction_validate (hraw ▸ hfrom) hdigest
  · rw [hdigest, ProtectedPayload.archiveMode]
    cases payload.spans.isEmpty with
    | true => simp
    | false => simp

/-- A payload with one secret, and the HMAC-SHA-256 value of its digest under a key of 32 sevens. -/
def passwordInput : Bytes := utf8 "password=hunter2hunter2"

def passwordMac : HmacSha256 where
  mac _ _ := [0xe6, 0x44, 0xdb, 0x60, 0x9e, 0x82, 0x0d, 0x74, 0x75, 0xd5, 0x67, 0x03, 0x61, 0x42, 0xdc, 0xba,
    0x4f, 0xed, 0xe9, 0xdc, 0xbc, 0x50, 0x20, 0xa8, 0x18, 0xcc, 0x0e, 0xbb, 0x76, 0xc0, 0xeb, 0x9f]
  mac_length _ _ := rfl

/-- The one secret is `[9, 23)`, fourteen bytes. -/
theorem protect_exact_password :
    ∃ payload, protect passwordMac passwordInput ⟨1, ⟨List.replicate 32 7, rfl⟩⟩ = .ok payload ∧
      payload.spans = [⟨9, 23, .credential⟩] ∧ payload.protectedBytes.length = 19 ∧
      payload.recordRedaction.validate = .ok () := by
  obtain ⟨payload, hok, hraw, -, -, -, -, hlength, hvalid, -⟩ :=
    protect_exact passwordMac passwordInput ⟨1, ⟨List.replicate 32 7, rfl⟩⟩ (by decide)
  have hspans : payload.spans = [⟨9, 23, .credential⟩] := by
    rw [(protect_inv hok).1]
    decide +kernel
  have hinput : passwordInput.length = 23 := by decide
  rw [hraw, hspans, hinput] at hlength
  simp only [List.map_cons, List.map_nil, List.sum_cons, List.sum_nil, List.length_cons, List.length_nil] at hlength
  exact ⟨payload, hok, hspans, by omega, hvalid⟩

end EverTrace.L1.Protect
