import EverTrace.Lib.Cursor
import EverTrace.Lib.Guard
import EverTrace.L1Encoding.Digest
/-!
# Spool frames (`evertrace-capture/src/frame.rs`)

A durable spool segment is a sequence of frames. A frame is an 8-byte magic,
a fixed prefix (version, header length, body length, checksum), a header
(version again, generation, two length-prefixed ids, the 64-byte CAS
references, body length again), the record body, and an 8-byte commit
trailer. `encodeFrame` writes one, `scanFrames` reads a whole segment and
tells a torn tail (a frame cut by a crash) from corruption.

`usize` is 64 bits wide; lengths are `Nat`.
-/
namespace EverTrace.L1.Frame
open EverTrace.Lib

/-- mirrors evertrace-capture/src/frame.rs:283-294 -/
inductive SpoolFrameError where
  | invalid
  | corrupt
  | oversize
  | serialization
  | legacyUnsupported
  deriving DecidableEq, Repr

/-- `b"ETSPL001"` -/
def magic : Bytes := [0x45, 0x54, 0x53, 0x50, 0x4c, 0x30, 0x30, 0x31]

/-- `b"ETCOMMIT"` -/
def commitTrailer : Bytes := [0x45, 0x54, 0x43, 0x4f, 0x4d, 0x4d, 0x49, 0x54]

def spoolFrameVersion : UInt16 := 1

def maxRecordBody : Nat := 1048576

def prefixLength : Nat := 8 + 2 + 4 + 8 + 32

/-- mirrors evertrace-capture/src/frame.rs:25-33 -/
structure SpoolRecord where
  spoolGeneration : UInt64
  spoolRecordId : String
  sourceObservationId : String
  casRefs : List String
  recordBody : Bytes
  deriving DecidableEq, Repr

/-- mirrors evertrace-capture/src/frame.rs:35-39 -/
structure DecodedFrame where
  record : SpoolRecord
  frameLength : Nat
  deriving DecidableEq, Repr

/-- mirrors evertrace-capture/src/frame.rs:41-46 -/
structure FrameScan where
  frames : List DecodedFrame
  completeLength : Nat
  incompleteTail : Bool
  deriving DecidableEq, Repr

/-- `byte.is_ascii_digit() || (b'a'..=b'f').contains(&byte)` -/
def isLowerHex (byte : UInt8) : Bool :=
  (48 ≤ byte && byte ≤ 57) || (97 ≤ byte && byte ≤ 102)

/-- mirrors evertrace-capture/src/frame.rs:556-574 -/
def validateRecord (record : SpoolRecord) : Except SpoolFrameError Unit :=
  if record.spoolGeneration = 0
      || utf8 record.spoolRecordId = []
      || (utf8 record.spoolRecordId).length > 256
      || utf8 record.sourceObservationId = []
      || (utf8 record.sourceObservationId).length > 256
      || record.recordBody.length > maxRecordBody
      || !record.casRefs.Nodup
      || record.casRefs.any (fun value => (utf8 value).length ≠ 64 || !(utf8 value).all isLowerHex)
  then .error .invalid
  else .ok ()

/-- mirrors evertrace-capture/src/frame.rs:591-599 -/
def checksum (H : Sha256) (header body : Bytes) : Bytes :=
  H.digest (utf8 "evertrace.spool.frame.v1" ++ beBytes 8 header.length ++ header ++
    beBytes 8 body.length ++ body)

/-- mirrors evertrace-capture/src/frame.rs:470-475 -/
def putString (output : Bytes) (value : String) : Except SpoolFrameError Bytes := do
  ensure .oversize ((utf8 value).length < 2 ^ 16)
  return output ++ beBytes 2 (utf8 value).length ++ utf8 value

/-- mirrors evertrace-capture/src/frame.rs:346-375 -/
def encodeFrame (H : Sha256) (record : SpoolRecord) : Except SpoolFrameError Bytes := do
  validateRecord record
  let payloadLength := record.recordBody.length
  ensure .oversize (payloadLength < 2 ^ 64)
  let header := be16 spoolFrameVersion ++ be64 record.spoolGeneration
  let header ← putString header record.spoolRecordId
  let header ← putString header record.sourceObservationId
  ensure .oversize (record.casRefs.length < 2 ^ 16)
  let header := header ++ beBytes 2 record.casRefs.length
  let header := record.casRefs.foldl (fun out reference => out ++ utf8 reference) header
  let header := header ++ beBytes 8 payloadLength
  ensure .oversize (header.length < 2 ^ 32)
  return magic ++ be16 spoolFrameVersion ++ beBytes 4 header.length ++ beBytes 8 payloadLength ++
    checksum H header record.recordBody ++ header ++ record.recordBody ++ commitTrailer

/-- The tuple `decode_header` returns. -/
structure Header where
  protocolVersion : UInt16
  spoolGeneration : UInt64
  spoolRecordId : String
  sourceObservationId : String
  casRefs : List String
  payloadLength : UInt64
  deriving DecidableEq, Repr

/-- The fields of the header, read in order.
mirrors evertrace-capture/src/frame.rs:482-496 -/
def headerFields : Cursor SpoolFrameError Header := do
  let protocolVersion ← Cursor.u16 .corrupt
  let spoolGeneration ← Cursor.u64 .corrupt
  let spoolRecordId ← Cursor.string .corrupt
  let sourceObservationId ← Cursor.string .corrupt
  let refCount ← Cursor.u16 .corrupt
  let casRefs ← Cursor.times refCount.toNat (Cursor.text .corrupt 64)
  let payloadLength ← Cursor.u64 .corrupt
  return ⟨protocolVersion, spoolGeneration, spoolRecordId, sourceObservationId, casRefs, payloadLength⟩

/-- mirrors evertrace-capture/src/frame.rs:478-508 -/
def decodeHeader (bytes : Bytes) : Except SpoolFrameError Header := do
  let (header, remaining) ← headerFields.run bytes
  ensure .corrupt remaining.isEmpty
  return header

/-- The frame of `frameLength = PREFIX + headerLength + bodyLength + 8` bytes at the head of
`remaining`, once all of it is there.
mirrors evertrace-capture/src/frame.rs:426-460 -/
def completeFrame (H : Sha256) (remaining : Bytes) (headerLength bodyLength : Nat) :
    Except SpoolFrameError DecodedFrame := do
  let headerBytes := (remaining.drop prefixLength).take headerLength
  let body := (remaining.drop (prefixLength + headerLength)).take bodyLength
  let trailer := (remaining.drop (prefixLength + headerLength + bodyLength)).take commitTrailer.length
  ensure .corrupt (trailer = commitTrailer && (remaining.drop 22).take 32 = checksum H headerBytes body)
  let header ← decodeHeader headerBytes
  let record : SpoolRecord :=
    { spoolGeneration := header.spoolGeneration
      spoolRecordId := header.spoolRecordId
      sourceObservationId := header.sourceObservationId
      casRefs := header.casRefs
      recordBody := body }
  ensure .corrupt (header.protocolVersion = spoolFrameVersion
    && header.payloadLength.toNat = bodyLength
    && (validateRecord record).isOk)
  return { record, frameLength := prefixLength + headerLength + bodyLength + commitTrailer.length }

/-- One turn of the `while` loop of `scan_frames` on `remaining = &bytes[offset..]`:
`none` is the early return with `incomplete_tail: true`.
mirrors evertrace-capture/src/frame.rs:381-425 -/
def scanFrame (H : Sha256) (remaining : Bytes) : Except SpoolFrameError (Option DecodedFrame) :=
  if remaining.length < prefixLength then
    if (remaining.take (min remaining.length magic.length)).isPrefixOf magic then .ok none
    else .error .corrupt
  else if remaining.take 8 ≠ magic then .error .corrupt
  else if UInt16.ofNat (beNat ((remaining.drop 8).take 2)) ≠ spoolFrameVersion then .error .corrupt
  else
    let headerLength := beNat ((remaining.drop 10).take 4)
    let bodyLength := beNat ((remaining.drop 14).take 8)
    if bodyLength > maxRecordBody then .error .oversize
    else
      let frameLength := prefixLength + headerLength + bodyLength + commitTrailer.length
      if 2 ^ 64 ≤ frameLength then .error .oversize
      else if remaining.length < frameLength then .ok none
      else (completeFrame H remaining headerLength bodyLength).map some

theorem completeFrame_length {H : Sha256} {remaining : Bytes} {hl bl : Nat} {f : DecodedFrame}
    (h : completeFrame H remaining hl bl = .ok f) :
    f.frameLength = prefixLength + hl + bl + commitTrailer.length := by
  simp only [completeFrame, bind_eq_ok, pure_eq_ok] at h
  obtain ⟨_, -, _, -, _, -, rfl⟩ := h
  rfl

theorem map_some_ok {ε α : Type} {x : Except ε α} {a : α} (h : x.map some = .ok (some a)) :
    x = .ok a := by
  cases x <;> simp_all [Except.map]

/-- A decoded frame is never empty, so the scan advances. -/
theorem scanFrame_length_pos {H : Sha256} {remaining : Bytes} {f : DecodedFrame}
    (h : scanFrame H remaining = .ok (some f)) : 0 < f.frameLength := by
  unfold scanFrame at h
  dsimp only at h
  repeat' split at h
  all_goals first
    | cases h
    | rw [completeFrame_length (map_some_ok h)]; simp only [prefixLength]; omega

/-- The `while` loop of `scan_frames` from `offset` on, with the frames read so far. -/
def scanFrom (H : Sha256) (bytes : Bytes) (offset : Nat) (frames : List DecodedFrame) :
    Except SpoolFrameError FrameScan :=
  if offset < bytes.length then
    match _hm : scanFrame H (bytes.drop offset) with
    | .error e => .error e
    | .ok none => .ok { frames, completeLength := offset, incompleteTail := true }
    | .ok (some frame) => scanFrom H bytes (offset + frame.frameLength) (frames ++ [frame])
  else .ok { frames, completeLength := offset, incompleteTail := false }
termination_by bytes.length - offset
decreasing_by
  have := scanFrame_length_pos _hm
  omega

/-- mirrors evertrace-capture/src/frame.rs:377-468 -/
def scanFrames (H : Sha256) (bytes : Bytes) : Except SpoolFrameError FrameScan :=
  scanFrom H bytes 0 []

end EverTrace.L1.Frame
