import EverTrace.L2Machine.Spool
/-!
# Gap markers (`evertrace-capture/src/spool.rs`)

A capture that cannot reach the spool leaves a marker in an emergency slot: what
was lost, why, and a digest of the payload. The file is a version, the length of
the body, the body and a SHA-256 checksum of the body. The body is three
strings, two optional strings, a reason byte, the 64 digits of the digest and
two `u64`s.

Results:
* `decodeMarker_ok`: the decoder accepts exactly what the encoder writes, and
  returns the marker it was written for.
* `gapMarker_roundTrip`: both directions of the round trip.
-/
namespace EverTrace.L2.Capture
open EverTrace.Lib EverTrace.L1 EverTrace.L1.Frame

/-- mirrors evertrace-capture/src/spool.rs:47-59 -/
structure CaptureGapMarker where
  markerId : String
  sourceRef : String
  sessionRef : String
  turnRef : Option String
  toolRef : Option String
  failureReason : GapReason
  redactedFingerprint : String
  attemptedBytes : UInt64
  lastDurableWatermark : UInt64
  deriving DecidableEq, Repr

def markerVersion : UInt16 := 1

/-- mirrors evertrace-capture/src/spool.rs:1814-1827 -/
def validateMarker (marker : CaptureGapMarker) : Except SpoolError Unit :=
  ensure .frame (!(marker.markerId.isEmpty || marker.sourceRef.isEmpty || marker.sessionRef.isEmpty
    || (utf8 marker.redactedFingerprint).length != 64 || !(utf8 marker.redactedFingerprint).all isLowerHex))

/-! ## Writing -/

/-- mirrors evertrace-capture/src/spool.rs:1904-1909 -/
def putMarkerString (output : Bytes) (value : String) : Except SpoolError Bytes := do
  ensure .serialization ((utf8 value).length < 2 ^ 16)
  return output ++ beBytes 2 (utf8 value).length ++ utf8 value

/-- mirrors evertrace-capture/src/spool.rs:1911-1922 -/
def putOptionalMarkerString (output : Bytes) : Option String → Except SpoolError Bytes
  | some value => putMarkerString (output ++ [1]) value
  | none => return output ++ [0]

def GapReason.byte : GapReason → UInt8
  | .mainPressure => 0
  | .mainUnavailable => 1
  | .corruptSegment => 2
  | .recoveryUnavailable => 3

/-- mirrors evertrace-capture/src/spool.rs:1850-1867 -/
def encodeMarkerBody (marker : CaptureGapMarker) : Except SpoolError Bytes := do
  let body ← putMarkerString [] marker.markerId
  let body ← putMarkerString body marker.sourceRef
  let body ← putMarkerString body marker.sessionRef
  let body ← putOptionalMarkerString body marker.turnRef
  let body ← putOptionalMarkerString body marker.toolRef
  return body ++ [marker.failureReason.byte] ++ utf8 marker.redactedFingerprint
    ++ be64 marker.attemptedBytes ++ be64 marker.lastDurableWatermark

def markerChecksum (H : Sha256) (body : Bytes) : Bytes := H.digest (utf8 "evertrace.capture.gap.v1" ++ body)

/-- The bytes `write_gap_marker` writes into the slot.
mirrors evertrace-capture/src/spool.rs:1112-1121 -/
def encodeMarker (H : Sha256) (marker : CaptureGapMarker) : Except SpoolError Bytes := do
  validateMarker marker
  let body ← encodeMarkerBody marker
  return be16 markerVersion ++ be32 (UInt32.ofNat body.length) ++ body ++ markerChecksum H body

/-! ## Reading -/

def GapReason.ofByte : UInt8 → Option GapReason
  | 0 => some .mainPressure
  | 1 => some .mainUnavailable
  | 2 => some .corruptSegment
  | 3 => some .recoveryUnavailable
  | _ => none

/-- `MarkerCursor::optional_string`
mirrors evertrace-capture/src/spool.rs:1961-1967 -/
def optionalString : Cursor SpoolError (Option String) := Cursor.optional .corrupt (Cursor.string .corrupt)

/-- mirrors evertrace-capture/src/spool.rs:1876-1882 -/
def failureReason : Cursor SpoolError GapReason := do
  let code ← Cursor.byte .corrupt
  match GapReason.ofByte code with
  | some reason => return reason
  | none => throw .corrupt

/-- The fields of the body, read in order.
mirrors evertrace-capture/src/spool.rs:1870-1887 -/
def markerFields : Cursor SpoolError CaptureGapMarker := do
  let markerId ← Cursor.string .corrupt
  let sourceRef ← Cursor.string .corrupt
  let sessionRef ← Cursor.string .corrupt
  let turnRef ← optionalString
  let toolRef ← optionalString
  let failureReason ← failureReason
  let redactedFingerprint ← Cursor.text .corrupt 64
  let attemptedBytes ← Cursor.u64 .corrupt
  let lastDurableWatermark ← Cursor.u64 .corrupt
  return { markerId, sourceRef, sessionRef, turnRef, toolRef, failureReason, redactedFingerprint, attemptedBytes
           lastDurableWatermark }

/-- mirrors evertrace-capture/src/spool.rs:1869-1902 -/
def decodeMarkerBody (body : Bytes) : Except SpoolError CaptureGapMarker := do
  let (marker, remaining) ← markerFields.run body
  ensure .corrupt remaining.isEmpty
  return marker

/-- mirrors evertrace-capture/src/spool.rs:1829-1848 -/
def decodeMarker (H : Sha256) (bytes : Bytes) : Except SpoolError CaptureGapMarker := do
  ensure .corrupt (!(bytes.length < 2 + 4 + 32 || UInt16.ofNat (beNat (bytes.take 2)) != markerVersion))
  let length := beNat ((bytes.drop 2).take 4)
  ensure .corrupt (bytes.length == 6 + length + 32)
  let body := (bytes.drop 6).take length
  ensure .corrupt (bytes.drop (6 + length) == markerChecksum H body)
  let marker ← decodeMarkerBody body
  validateMarker marker
  return marker

/-! ## The layout -/

/-- The strings of a marker fit their length fields. -/
def CaptureGapMarker.TextsFit (m : CaptureGapMarker) : Prop :=
  (utf8 m.markerId).length < 2 ^ 16 ∧ (utf8 m.sourceRef).length < 2 ^ 16 ∧ (utf8 m.sessionRef).length < 2 ^ 16 ∧
    (∀ value ∈ m.turnRef, (utf8 value).length < 2 ^ 16) ∧ ∀ value ∈ m.toolRef, (utf8 value).length < 2 ^ 16

def optionalBytes (value : Option String) : Bytes :=
  match value with
  | none => [0]
  | some value => 1 :: stringBytes value

def bodyBytes (m : CaptureGapMarker) : Bytes :=
  stringBytes m.markerId ++ (stringBytes m.sourceRef ++ (stringBytes m.sessionRef ++
    (optionalBytes m.turnRef ++ (optionalBytes m.toolRef ++ (m.failureReason.byte ::
      (utf8 m.redactedFingerprint ++ (be64 m.attemptedBytes ++ be64 m.lastDurableWatermark)))))))

def fileBytes (H : Sha256) (body : Bytes) : Bytes :=
  be16 markerVersion ++ (beBytes 4 body.length ++ (body ++ markerChecksum H body))

theorem validateMarker_fingerprint {m : CaptureGapMarker} (h : validateMarker m = .ok ()) :
    (utf8 m.redactedFingerprint).length = 64 := by
  unfold validateMarker at h
  rw [ensure_ok] at h
  simp only [Bool.not_or, Bool.and_eq_true, Bool.not_eq_true', bne_eq_false_iff_eq] at h
  exact h.1.2

theorem length_optionalBytes {value : Option String} (h : ∀ v ∈ value, (utf8 v).length < 2 ^ 16) :
    (optionalBytes value).length < 2 ^ 16 + 3 := by
  cases value with
  | none => decide
  | some v =>
    have hv := h v rfl
    simp only [optionalBytes, List.length_cons, length_stringBytes]
    omega

/-- A body whose strings fit is far below the `u32` of its length field. -/
theorem length_bodyBytes {m : CaptureGapMarker} (hfit : m.TextsFit)
    (hdigest : (utf8 m.redactedFingerprint).length = 64) : (bodyBytes m).length < 2 ^ 32 := by
  obtain ⟨hid, hsource, hsession, hturn, htool⟩ := hfit
  have h₁ := length_optionalBytes hturn
  have h₂ := length_optionalBytes htool
  simp only [bodyBytes, List.length_append, List.length_cons, length_stringBytes, length_be64, hdigest]
  omega

/-! ## What the encoder writes -/

theorem putMarkerString_ok {output r : Bytes} {value : String} :
    putMarkerString output value = .ok r ↔ (utf8 value).length < 2 ^ 16 ∧ r = output ++ stringBytes value := by
  unfold putMarkerString
  rw [ensure_bind_ok, pure_eq_ok, decide_eq_true_eq, stringBytes, List.append_assoc]
  exact and_congr_right fun _ => eq_comm

theorem putOptionalMarkerString_ok {output r : Bytes} {value : Option String} :
    putOptionalMarkerString output value = .ok r ↔
      (∀ v ∈ value, (utf8 v).length < 2 ^ 16) ∧ r = output ++ optionalBytes value := by
  cases value with
  | none =>
    rw [putOptionalMarkerString, pure_eq_ok, eq_comm]
    simp [optionalBytes]
  | some v => simp [putOptionalMarkerString, putMarkerString_ok, optionalBytes]

theorem encodeMarkerBody_ok {m : CaptureGapMarker} {body : Bytes} :
    encodeMarkerBody m = .ok body ↔ m.TextsFit ∧ body = bodyBytes m := by
  simp only [encodeMarkerBody, bind_eq_ok, putMarkerString_ok, putOptionalMarkerString_ok, pure_eq_ok]
  constructor
  · rintro ⟨_, ⟨hid, rfl⟩, _, ⟨hsource, rfl⟩, _, ⟨hsession, rfl⟩, _, ⟨hturn, rfl⟩, _, ⟨htool, rfl⟩, rfl⟩
    refine ⟨⟨hid, hsource, hsession, hturn, htool⟩, ?_⟩
    simp [bodyBytes]
  · rintro ⟨⟨hid, hsource, hsession, hturn, htool⟩, rfl⟩
    refine ⟨_, ⟨hid, rfl⟩, _, ⟨hsource, rfl⟩, _, ⟨hsession, rfl⟩, _, ⟨hturn, rfl⟩, _, ⟨htool, rfl⟩, ?_⟩
    simp [bodyBytes]

theorem encodeMarker_ok {H : Sha256} {m : CaptureGapMarker} {b : Bytes} :
    encodeMarker H m = .ok b ↔ validateMarker m = .ok () ∧ m.TextsFit ∧ b = fileBytes H (bodyBytes m) := by
  simp only [encodeMarker, bind_eq_ok, encodeMarkerBody_ok, pure_eq_ok]
  have hlength (hvalid : validateMarker m = .ok ()) (hfit : m.TextsFit) :
      be32 (UInt32.ofNat (bodyBytes m).length) = beBytes 4 (bodyBytes m).length := by
    have hlt := length_bodyBytes hfit (validateMarker_fingerprint hvalid)
    rw [be32, UInt32.toNat_ofNat', Nat.mod_eq_of_lt hlt]
  constructor
  · rintro ⟨_, hvalid, _, ⟨hfit, rfl⟩, rfl⟩
    refine ⟨hvalid, hfit, ?_⟩
    rw [hlength hvalid hfit, fileBytes, List.append_assoc, List.append_assoc]
  · rintro ⟨hvalid, hfit, rfl⟩
    refine ⟨(), hvalid, _, ⟨hfit, rfl⟩, ?_⟩
    rw [hlength hvalid hfit, fileBytes, List.append_assoc, List.append_assoc]

/-! ## What the decoder accepts -/

theorem ofByte_eq_some {code : UInt8} {reason : GapReason} :
    GapReason.ofByte code = some reason ↔ code = reason.byte := by
  constructor
  · intro h
    unfold GapReason.ofByte at h
    split at h <;> cases h <;> rfl
  · rintro rfl
    cases reason <;> rfl

theorem optionalString_ok {b rest : Bytes} {value : Option String} : optionalString.run b = .ok (value, rest) ↔
    (∀ v ∈ value, (utf8 v).length < 2 ^ 16) ∧ b = optionalBytes value ++ rest := by
  have h := @Cursor.optional_ok SpoolError String .corrupt (Cursor.string .corrupt) stringBytes
    (fun s => (utf8 s).length < 2 ^ 16) (fun b x rest => Cursor.string_ok) b rest value
  rw [optionalString, h]
  cases value <;> rfl

theorem failureReason_ok {b rest : Bytes} {reason : GapReason} :
    failureReason.run b = .ok (reason, rest) ↔ b = reason.byte :: rest := by
  unfold failureReason
  simp only [Cursor.bind_ok, Cursor.byte_ok]
  constructor
  · rintro ⟨code, mid, rfl, h⟩
    split at h
    · next hcode =>
      obtain ⟨rfl, rfl⟩ := Cursor.pure_ok.mp h
      rw [ofByte_eq_some.mp hcode]
    · exact absurd h Cursor.throw_ne
  · rintro rfl
    refine ⟨reason.byte, rest, rfl, ?_⟩
    rw [ofByte_eq_some.mpr rfl]
    exact Cursor.pure_ok.mpr ⟨rfl, rfl⟩

theorem decodeMarkerBody_ok {m : CaptureGapMarker} {body : Bytes} : decodeMarkerBody body = .ok m ↔
    m.TextsFit ∧ (utf8 m.redactedFingerprint).length = 64 ∧ body = bodyBytes m := by
  simp only [decodeMarkerBody, markerFields, bind_eq_ok, ensure_ok, pure_eq_ok, Prod.exists, Cursor.bind_ok,
    Cursor.string_ok, optionalString_ok, failureReason_ok, Cursor.text_ok, Cursor.u64_ok, Cursor.pure_ok]
  constructor
  · rintro ⟨_, rest, ⟨id, _, ⟨hid, rfl⟩, source, _, ⟨hsource, rfl⟩, session, _, ⟨hsession, rfl⟩, turn, _,
      ⟨hturn, rfl⟩, tool, _, ⟨htool, rfl⟩, reason, _, rfl, digest, _, ⟨hdigest, rfl⟩, attempted, _, rfl,
      watermark, _, rfl, rfl, rfl⟩, _, hrest, rfl⟩
    obtain rfl := List.isEmpty_iff.mp hrest
    refine ⟨⟨hid, hsource, hsession, hturn, htool⟩, hdigest, ?_⟩
    rw [List.append_nil]
    rfl
  · rintro ⟨⟨hid, hsource, hsession, hturn, htool⟩, hdigest, rfl⟩
    refine ⟨m, [], ⟨m.markerId, _, ⟨hid, rfl⟩, m.sourceRef, _, ⟨hsource, rfl⟩, m.sessionRef, _,
      ⟨hsession, rfl⟩, m.turnRef, _, ⟨hturn, rfl⟩, m.toolRef, _, ⟨htool, rfl⟩, m.failureReason, _, rfl,
      m.redactedFingerprint, _, ⟨hdigest, rfl⟩, m.attemptedBytes, _, rfl, m.lastDurableWatermark, [],
      (List.append_nil _).symm, rfl, rfl⟩, (), rfl, rfl⟩

/-- A file with the right version, length and checksum is the file of its body. -/
theorem eq_fileBytes {H : Sha256} {b : Bytes} {length : Nat} (hversion : UInt16.ofNat (beNat (b.take 2)) = markerVersion)
    (hlength : beNat ((b.drop 2).take 4) = length) (hall : b.length = 6 + length + 32)
    (hsum : b.drop (6 + length) = markerChecksum H ((b.drop 6).take length)) :
    b = fileBytes H ((b.drop 6).take length) := by
  have htwo : be16 markerVersion = b.take 2 := by
    rw [← hversion, be16_ofNat_beNat (by rw [List.length_take]; omega)]
  have hbody : ((b.drop 6).take length).length = length := by
    rw [List.length_take, List.length_drop]
    omega
  have hfour : beBytes 4 length = (b.drop 2).take 4 := by
    have h := beBytes_beNat ((b.drop 2).take 4)
    rw [hlength, List.length_take, List.length_drop, Nat.min_eq_left (by omega)] at h
    exact h
  have hsix : b.drop 6 = (b.drop 2).drop 4 := by rw [List.drop_drop]
  have hrest : b.drop (6 + length) = (b.drop 6).drop length := by rw [List.drop_drop]
  rw [fileBytes, hbody, htwo, hfour, ← hsum, hrest, List.take_append_drop, hsix, List.take_append_drop,
    List.take_append_drop]

theorem fileBytes_fields {H : Sha256} {body : Bytes} (hlt : body.length < 2 ^ 32) :
    UInt16.ofNat (beNat ((fileBytes H body).take 2)) = markerVersion ∧
      beNat (((fileBytes H body).drop 2).take 4) = body.length ∧
      (fileBytes H body).length = 6 + body.length + 32 ∧ ((fileBytes H body).drop 6).take body.length = body ∧
      (fileBytes H body).drop (6 + body.length) = markerChecksum H body := by
  have htwo : (be16 markerVersion).length = 2 := length_be16 _
  have hfour : (beBytes 4 body.length).length = 4 := length_beBytes _ _
  have hsum : (markerChecksum H body).length = 32 := H.digest_length _
  have hdrop : (fileBytes H body).drop 2 = beBytes 4 body.length ++ (body ++ markerChecksum H body) :=
    List.drop_left' htwo
  have hsix : (fileBytes H body).drop 6 = body ++ markerChecksum H body := by
    rw [show (fileBytes H body).drop 6 = ((fileBytes H body).drop 2).drop 4 by rw [List.drop_drop], hdrop,
      List.drop_left' hfour]
  refine ⟨?_, ?_, ?_, ?_, ?_⟩
  · rw [fileBytes, take_field htwo, ofNat_beNat_be16]
  · rw [hdrop, take_field hfour, beNat_beBytes 4 _ (by simpa using hlt)]
  · simp only [fileBytes, List.length_append, htwo, hfour, hsum]
    omega
  · rw [hsix, List.take_left]
  · rw [← List.drop_drop, hsix, List.drop_left]

/-- The decoder accepts the files of the markers that check, and no others. -/
theorem decodeMarker_ok {H : Sha256} {b : Bytes} {m : CaptureGapMarker} : decodeMarker H b = .ok m ↔
    validateMarker m = .ok () ∧ m.TextsFit ∧ b = fileBytes H (bodyBytes m) := by
  unfold decodeMarker
  dsimp only
  rw [ensure_bind_ok, ensure_bind_ok, ensure_bind_ok]
  simp only [bind_eq_ok, decodeMarkerBody_ok, pure_eq_ok, Bool.not_or, Bool.and_eq_true, Bool.not_eq_true',
    decide_eq_false_iff_not, Nat.not_lt, bne_eq_false_iff_eq, beq_iff_eq]
  constructor
  · rintro ⟨⟨-, hversion⟩, hall, hsum, _, ⟨hfit, -, hbody⟩, _, hvalid, rfl⟩
    refine ⟨hvalid, hfit, ?_⟩
    have h := eq_fileBytes hversion rfl hall hsum
    rwa [hbody] at h
  · rintro ⟨hvalid, hfit, rfl⟩
    have hdigest := validateMarker_fingerprint hvalid
    obtain ⟨hversion, hlength, hall, hbody, hsum⟩ := fileBytes_fields (H := H) (length_bodyBytes hfit hdigest)
    rw [hlength, hbody]
    exact ⟨⟨by omega, hversion⟩, hall, hsum, m, ⟨hfit, hdigest, rfl⟩, (), hvalid, rfl⟩

/-- **The gap-marker format round-trips.** A marker that checks and whose strings fit their length
fields is written, and read back from what was written; and a file the decoder accepts is, byte for
byte, the file that is written for the marker it returns. -/
theorem gapMarker_roundTrip (H : Sha256) :
    (∀ m, validateMarker m = .ok () → m.TextsFit → ∃ b, encodeMarker H m = .ok b ∧ decodeMarker H b = .ok m) ∧
      ∀ b m, decodeMarker H b = .ok m → encodeMarker H m = .ok b := by
  refine ⟨fun m hvalid hfit => ?_, fun b m h => ?_⟩
  · exact ⟨_, encodeMarker_ok.mpr ⟨hvalid, hfit, rfl⟩, decodeMarker_ok.mpr ⟨hvalid, hfit, rfl⟩⟩
  · exact encodeMarker_ok.mpr (decodeMarker_ok.mp h)

end EverTrace.L2.Capture
