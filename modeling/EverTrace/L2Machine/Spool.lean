import EverTrace.L1Encoding.FrameScan
import EverTrace.Lib.Command
import EverTrace.Lib.OrdMap
import Mathlib.Data.String.Basic
/-!
# The durable spool (`evertrace-capture/src/spool.rs`)

Captured records are appended as frames to `active.open`. Sealing renames the
active file; a reader claims sealed files page by page and acknowledges a file,
which removes it, once a page reached its end. A file that does not scan is
renamed into the quarantine directory. `recover` runs when the spool is opened.

The model keeps the files (`active`, `sealed`, `quarantined`), the claims and
cursors handed out, and a `history` of what happened. Code on files may fail at
any system call: `World.io` lists the outcomes of the calls to come, and a
failure leaves what was done before it. Calls in a row that change nothing are
one `io`. `write_all` may write any part of its buffer before it fails.

* A file is its inode number, its bytes and a stamp (`mtime` and `ctime`).
  Inode numbers are not given out twice; nothing is assumed about stamps. There
  is one device.
* An operation holds the directory lock, so it is one step; `Busy` is a failing
  call. The re-checks of a file's identity inside one operation then compare a
  file with itself and are left out. So are owner, mode and file type.
  `claimed_segments_inner` drops the lock before it reads (spool.rs:890-902), but
  the files it claimed stay locked and nothing writes a sealed file, so it reads
  the bytes that it claimed.
* A segment held by a client holds the lock on its file.
* `decode_validated_record_body` reads JSON; the budget of a page needs only the
  `protected_length` it returns, a parameter (`protectedLength`).
-/
namespace EverTrace.L2.Capture
open EverTrace.Lib EverTrace.L1 EverTrace.L1.Frame

/-- mirrors evertrace-capture/src/spool.rs:1582-1617 -/
inductive SpoolError where
  | busy
  | recoveryRequired
  | invalidConfiguration
  | frame
  | pressure
  | unavailable
  | emergencyExhausted
  | resourceExhausted
  | invalidAcknowledgement
  | identityChanged
  | duplicateRecord
  | invalidType
  | wrongOwner
  | invalidPermissions
  | corrupt
  | serialization
  | io
  deriving DecidableEq, Repr

/-- mirrors evertrace-capture/src/spool.rs:1619-1629 -/
def SpoolError.ofFrame : SpoolFrameError → SpoolError
  | .oversize => .resourceExhausted
  | .corrupt => .corrupt
  | .invalid | .serialization | .legacyUnsupported => .frame

/-- mirrors evertrace-capture/src/spool.rs:25-31 -/
structure SpoolLimits where
  highWatermarkBytes : UInt64
  lowWatermarkBytes : UInt64
  maxMainFiles : UInt32
  emergencySlots : UInt16

/-- mirrors evertrace-capture/src/spool.rs:34-44 -/
def SpoolLimits.validate (limits : SpoolLimits) : Except SpoolError SpoolLimits := do
  ensure .invalidConfiguration (!(limits.lowWatermarkBytes = 0
    || limits.highWatermarkBytes < limits.lowWatermarkBytes
    || limits.maxMainFiles = 0
    || limits.emergencySlots = 0
    || limits.emergencySlots > 64))
  return limits

def sampleLimits : SpoolLimits := ⟨1048576, 524288, 16, 4⟩

/-! ## Files -/

structure File where
  inode : Nat
  bytes : Bytes
  stamp : Nat
  deriving DecidableEq

/-- mirrors evertrace-capture/src/spool.rs:2044-2054 -/
structure Identity where
  inode : Nat
  length : Nat
  stamp : Nat
  deriving DecidableEq

def File.identity (file : File) : Identity := ⟨file.inode, file.bytes.length, file.stamp⟩

/-- mirrors evertrace-capture/src/spool.rs:149-154 -/
structure SealedFrame where
  record : SpoolRecord
  byteStart : Nat
  byteEnd : Nat
  deriving DecidableEq

/-- The open file is its inode.
mirrors evertrace-capture/src/spool.rs:156-166 -/
structure SealedSegment where
  path : String
  inode : Nat
  length : Nat
  frames : List SealedFrame
  endOffset : Nat
  identity : Identity
  deriving DecidableEq

/-- mirrors evertrace-capture/src/spool.rs:168-174 -/
structure SpoolReadCursor where
  path : String
  identity : Identity
  offset : Nat
  deriving DecidableEq

/-- mirrors evertrace-capture/src/spool.rs:240-242 -/
def SealedSegment.complete (segment : SealedSegment) : Bool := segment.endOffset = segment.length

/-- mirrors evertrace-capture/src/spool.rs:229-238 -/
def SealedSegment.continuation (segment : SealedSegment) : Option SpoolReadCursor :=
  if segment.endOffset = segment.length then none
  else some ⟨segment.path, segment.identity, segment.endOffset⟩

/-- mirrors evertrace-capture/src/spool.rs:143-147 -/
structure DurableWrite where
  endWatermark : Nat
  frameBytes : Nat

/-- mirrors evertrace-capture/src/spool.rs:63-68 -/
inductive GapReason where
  | mainPressure
  | mainUnavailable
  | corruptSegment
  | recoveryUnavailable
  deriving DecidableEq, Repr

/-- mirrors evertrace-capture/src/spool.rs:71-74 -/
structure GapEvidence where
  quarantinedFile : String
  reason : GapReason

/-- mirrors evertrace-capture/src/spool.rs:77-80 -/
structure RecoveryReport where
  repairedTailBytes : Nat
  gaps : List GapEvidence

/-- What happened, in order. -/
inductive Event where
  /-- An append returned: the frame of `record` is in the file `inode` and ends at `stop`. -/
  | appended (record : SpoolRecord) (inode stop : Nat)
  /-- A page was returned to a reader. -/
  | claimed (segment : SealedSegment)
  /-- An acknowledgement removed a sealed file. -/
  | removed (path : String) (file : File)
  /-- Recovery cut the active file to `length` bytes. -/
  | truncated (inode length : Nat)
  deriving DecidableEq

structure Spool where
  active : Option File
  sealed : OrdMap String File
  quarantined : OrdMap String File
  nextInode : Nat
  lastWatermark : Nat
  /-- segments returned and not yet dropped -/
  claims : List SealedSegment
  /-- cursors taken from returned segments -/
  cursors : List SpoolReadCursor
  history : List Event

def Spool.empty : Spool := ⟨none, .empty, .empty, 0, 0, [], [], []⟩

/-! ## System calls -/

/-- How a call ends: the time it leaves on the file, and its failure if it fails; a write that fails
has written `written` bytes. -/
structure Outcome where
  stamp : Nat
  failure : Option SpoolError
  written : Nat

structure World where
  spool : Spool
  io : List Outcome

abbrev SpoolM := Command World SpoolError

/-- The outcome of the next call; calls after the last listed one succeed. -/
def World.next (w : World) : Outcome := w.io.headD ⟨0, none, 0⟩

def World.set (w : World) (spool : Spool) : World := ⟨spool, w.io⟩

/-- System calls that change nothing the model holds, or the start of one that does. -/
def io : SpoolM Nat := fun w =>
  match w.next.failure with
  | none => (.ok w.next.stamp, ⟨w.spool, w.io.tail⟩)
  | some error => (.error error, ⟨w.spool, w.io.tail⟩)

/-- `write_all`: `extend bytes stamp` is the spool after `bytes` went to the end of the file. -/
def writeAll (extend : Spool → Bytes → Nat → Spool) (bytes : Bytes) : SpoolM Unit := fun w =>
  match w.next.failure with
  | none => (.ok (), ⟨extend w.spool bytes w.next.stamp, w.io.tail⟩)
  | some error => (.error error, ⟨extend w.spool (bytes.take w.next.written) w.next.stamp, w.io.tail⟩)

def spool : SpoolM Spool := Command.read World.spool

def change (f : Spool → Spool) : SpoolM Unit := Command.change fun w => w.set (f w.spool)

def Spool.record (s : Spool) (event : Event) : Spool := { s with history := s.history ++ [event] }

/-- Segments go to a reader. -/
def Spool.handOut (s : Spool) (segments : List SealedSegment) : Spool :=
  { s with claims := s.claims ++ segments, history := s.history ++ segments.map .claimed }

/-- Open the active file, creating it when there is none. -/
def Spool.openActive (s : Spool) (stamp : Nat) : Spool :=
  match s.active with
  | some _ => s
  | none => { s with active := some ⟨s.nextInode, [], stamp⟩, nextInode := s.nextInode + 1 }

def Spool.extendActive (s : Spool) (bytes : Bytes) (stamp : Nat) : Spool :=
  { s with active := s.active.map fun file => { file with bytes := file.bytes ++ bytes, stamp } }

/-- `set_len` on the active file. -/
def Spool.truncateActive (s : Spool) (length stamp : Nat) : Spool :=
  { s with active := s.active.map fun file => { file with bytes := file.bytes.take length, stamp } }

def Spool.createSealed (s : Spool) (name : String) (stamp : Nat) : Spool :=
  { s with sealed := s.sealed.insert name ⟨s.nextInode, [], stamp⟩, nextInode := s.nextInode + 1 }

def Spool.extendSealed (name : String) (s : Spool) (bytes : Bytes) (stamp : Nat) : Spool :=
  match s.sealed.get name with
  | some file =>
    { s with sealed := s.sealed.insert name { file with bytes := file.bytes ++ bytes, stamp } }
  | none => s

def Spool.removeSealed (s : Spool) (name : String) : Spool := { s with sealed := s.sealed.erase name }

/-- `rename` within the main directory: a file of the new name is replaced. -/
def Spool.renameActive (s : Spool) (name : String) (stamp : Nat) : Spool :=
  match s.active with
  | some file => { s with active := none, sealed := s.sealed.insert name { file with stamp } }
  | none => s

/-- A file of the main directory. -/
inductive Carrier where
  | active
  | sealed (name : String)

/-- `rename` into the quarantine directory. -/
def Spool.moveToQuarantine (s : Spool) (source : Carrier) (name : String) (stamp : Nat) : Spool :=
  match source with
  | .active =>
    match s.active with
    | some file => { s with active := none, quarantined := s.quarantined.insert name { file with stamp } }
    | none => s
  | .sealed path =>
    match s.sealed.get path with
    | some file =>
      { s with
        sealed := s.sealed.erase path
        quarantined := s.quarantined.insert name { file with stamp } }
    | none => s

/-! ## Names -/

/-- `{index:04}` -/
def pad4 (index : Nat) : String := "".pushn '0' (4 - (toString index).length) ++ toString index

/-- mirrors evertrace-capture/src/spool.rs:1970-1978 -/
@[irreducible] def uniquePath (taken : String → Bool) (stem suffix : String) : Except SpoolError String :=
  okOr .resourceExhausted
    (((List.range 1024).map fun index => stem ++ "-" ++ pad4 index ++ suffix).find? fun path => !taken path)

def isolatedStem : String := "isolated-"

/-- `path.extension() == Some(extension)` for an extension without dots. -/
def hasExtension (extension name : String) : Bool :=
  name.endsWith ("." ++ extension) && name ≠ "." ++ extension

/-! ## Appending -/

/-- mirrors evertrace-capture/src/spool.rs:1576-1579 -/
structure Usage where
  bytes : Nat
  files : Nat

def saturatingAdd (a b : Nat) : Nat := min (a + b) (2 ^ 64 - 1)

/-- mirrors evertrace-capture/src/spool.rs:1468-1478 -/
def Spool.mainUsage (s : Spool) : Usage :=
  let files := s.active.toList ++ s.sealed.entries.map Prod.snd
  ⟨files.foldl (fun bytes file => saturatingAdd bytes file.bytes.length) 0, files.length⟩

def maxPending : Nat := 8 * 1024 * 1024

def chunkLength : Nat := 64 * 1024

/-- The loop of `validate_active_file`: read a chunk, drop the whole frames, keep the rest. -/
def scanChunks (H : Sha256) (pending rest : Bytes) : Except SpoolError Bytes :=
  if rest = [] then .ok pending
  else
    match scanFrames H (pending ++ rest.take chunkLength) with
    | .error e => .error (.ofFrame e)
    | .ok scan =>
      let pending' := (pending ++ rest.take chunkLength).drop scan.completeLength
      if pending'.length > maxPending then .error .resourceExhausted
      else scanChunks H pending' (rest.drop chunkLength)
termination_by rest.length
decreasing_by
  have : 0 < rest.length := List.length_pos_of_ne_nil (by assumption)
  simp only [List.length_drop, chunkLength]
  omega

/-- mirrors evertrace-capture/src/spool.rs:2001-2034 -/
def validateActiveFile (H : Sha256) (bytes : Bytes) (maxBytes : Nat) : Except SpoolError Unit := do
  ensure .resourceExhausted (bytes.length ≤ maxBytes)
  let pending ← scanChunks H [] bytes
  ensure .corrupt pending.isEmpty

/-- Write a frame at the end of the active file, and sync it.
mirrors evertrace-capture/src/spool.rs:512-523 -/
def writeFrame (record : SpoolRecord) (frame : Bytes) : SpoolM DurableWrite := do
  writeAll Spool.extendActive frame
  let _ ← io
  let s ← spool
  match s.active with
  | none => Command.fail .io
  | some file =>
    change fun s => { s with lastWatermark := file.bytes.length }
    change (·.record (.appended record file.inode file.bytes.length))
    return ⟨file.bytes.length, frame.length⟩

/-- mirrors evertrace-capture/src/spool.rs:486-524 -/
def append (H : Sha256) (limits : SpoolLimits) (record : SpoolRecord) : SpoolM DurableWrite := do
  let _ ← io
  let frame ← Command.lift ((encodeFrame H record).mapError .ofFrame)
  let _ ← io
  let s ← spool
  let usage := s.mainUsage
  Command.check .pressure
    (!((s.active.isNone && usage.files ≥ limits.maxMainFiles.toNat)
      || saturatingAdd usage.bytes frame.length > limits.highWatermarkBytes.toNat))
  let stamp ← io
  change (·.openActive stamp)
  let _ ← io
  match s.active with
  | some file => Command.lift (validateActiveFile H file.bytes limits.highWatermarkBytes.toNat)
  | none => pure ()
  writeFrame record frame

/-- `byte.is_ascii_alphanumeric() || byte == b'-'` -/
def isRoutingByte (byte : UInt8) : Bool :=
  (48 ≤ byte && byte ≤ 57) || (65 ≤ byte && byte ≤ 90) || (97 ≤ byte && byte ≤ 122) || byte = 45

/-- Create, write and sync an isolated segment.
mirrors evertrace-capture/src/spool.rs:569-585 -/
def publish (destination : String) (frame : Bytes) : SpoolM File := do
  let stamp ← io
  change (·.createSealed destination stamp)
  writeAll (Spool.extendSealed destination) frame
  let _ ← io
  let s ← spool
  Command.lift (okOr .io (s.sealed.get destination))

/-- mirrors evertrace-capture/src/spool.rs:528-608 -/
def appendIsolatedSealed (H : Sha256) (limits : SpoolLimits) (record : SpoolRecord)
    (routingHint : String) : SpoolM SealedSegment := do
  Command.check .invalidConfiguration
    (!(routingHint = "" || (utf8 routingHint).length > 96 || !(utf8 routingHint).all isRoutingByte))
  let _ ← io
  let frame ← Command.lift ((encodeFrame H record).mapError .ofFrame)
  let _ ← io
  let s ← spool
  Command.check .duplicateRecord
    (!s.sealed.entries.any fun entry => entry.1.startsWith (isolatedStem ++ routingHint ++ "-"))
  let usage := s.mainUsage
  Command.check .pressure
    (!(usage.files ≥ limits.maxMainFiles.toNat
      || saturatingAdd usage.bytes frame.length > limits.highWatermarkBytes.toNat))
  let destination ← Command.lift
    (uniquePath (fun path => (s.sealed.get path).isSome) (isolatedStem ++ routingHint) ".sealed")
  let published ← Command.attempt (publish destination frame)
  match published with
  | .ok file =>
    let segment : SealedSegment :=
      { path := destination
        inode := file.inode
        length := file.bytes.length
        endOffset := file.bytes.length
        identity := file.identity
        frames := [⟨record, 0, frame.length⟩] }
    change (·.record (.appended record file.inode frame.length))
    change (·.handOut [segment])
    return segment
  | .error error =>
    -- the clean-up may fail too, and nobody looks
    let _ ← Command.attempt do
      let _ ← io
      change (·.removeSealed destination)
    Command.fail error

/-! ## Sealing, claiming and acknowledging -/

/-- mirrors evertrace-capture/src/spool.rs:760-781 -/
def sealActive (generation : UInt64) : SpoolM (Option String) := do
  let _ ← io
  let s ← spool
  match s.active with
  | none => return none
  | some file =>
    if file.bytes.length = 0 then return none
    else
      let destination ← Command.lift
        (uniquePath (fun path => (s.sealed.get path).isSome) ("segment-" ++ toString generation) ".sealed")
      let stamp ← io
      change (·.renameActive destination stamp)
      let _ ← io
      change fun s => { s with lastWatermark := 0 }
      return some destination

/-- mirrors evertrace-capture/src/spool.rs:1443-1454 -/
def quarantine (source : Carrier) : SpoolM String := do
  let s ← spool
  let destination ← Command.lift
    (uniquePath (fun path => (s.quarantined.get path).isSome) "corrupt" ".spool")
  let stamp ← io
  change (·.moveToQuarantine source destination stamp)
  let _ ← io
  return destination

/-- The sealed files a claim looks at: ordinary or isolated ones, only the cursor's if there is one.
mirrors evertrace-capture/src/spool.rs:833-863 -/
def claimPaths (limits : SpoolLimits) (s : Spool) (isolated : Bool) (page : Option (Option SpoolReadCursor)) :
    Except SpoolError (List (String × File)) := do
  let paths := s.sealed.entries.filter fun entry => entry.1.startsWith isolatedStem == isolated
  ensure .corrupt (paths.all fun entry => hasExtension "sealed" entry.1)
  ensure .resourceExhausted (paths.length ≤ limits.maxMainFiles.toNat)
  match page with
  | some (some cursor) =>
    ensure .identityChanged (paths.any fun entry => entry.1 = cursor.path)
    return paths.filter fun entry => entry.1 = cursor.path
  | _ => return paths

/-- The loop that takes the file locks, up to `limit` files.
mirrors evertrace-capture/src/spool.rs:864-888 -/
def claimFiles (limits : SpoolLimits) (locked : Nat → Bool) (page : Option (Option SpoolReadCursor)) :
    Nat → List (String × File) → Except SpoolError (List (String × File))
  | _, [] => return []
  | 0, _ :: _ => return []
  | limit + 1, (path, file) :: rest => do
    ensure .corrupt (!(file.bytes.length = 0 || file.bytes.length > limits.highWatermarkBytes.toNat))
    if locked file.inode then claimFiles limits locked page (limit + 1) rest
    else
      ensure .identityChanged (page.join.all fun cursor => file.identity = cursor.identity)
      let claimed ← claimFiles limits locked page limit rest
      return (path, file) :: claimed

def pageBytes : Nat := 8 * 1024 * 1024

def pageFrames : Nat := 256

def pageBudget : Nat := 60 * 1024 * 1024

/-- The `take_while` of a page: stop at the first frame whose payload no longer fits. -/
def withinBudget (protectedLength : SpoolRecord → Option Nat) : Nat → List DecodedFrame → List DecodedFrame
  | _, [] => []
  | remaining, frame :: rest =>
    match protectedLength frame.record with
    | none => frame :: withinBudget protectedLength remaining rest
    | some length =>
      let needed := saturatingAdd length 4096
      if needed > remaining then [] else frame :: withinBudget protectedLength (remaining - needed) rest

/-- The frames with their places in the file, and the offset after the last. -/
def placeFrames : Nat → List DecodedFrame → Except SpoolError (List SealedFrame × Nat)
  | offset, [] => return ([], offset)
  | offset, frame :: rest => do
    ensure .resourceExhausted (offset + frame.frameLength < 2 ^ 64)
    let (frames, stop) ← placeFrames (offset + frame.frameLength) rest
    return (⟨frame.record, offset, offset + frame.frameLength⟩ :: frames, stop)

/-- `page.flatten().map_or(0, |cursor| cursor.offset)` -/
def pageStart (page : Option (Option SpoolReadCursor)) : Nat :=
  match page.join with
  | some cursor => cursor.offset
  | none => 0

/-- The frames of a scan that go into the page. -/
def pageTaken (protectedLength : SpoolRecord → Option Nat) (page : Option (Option SpoolReadCursor))
    (frames : List DecodedFrame) : List DecodedFrame :=
  if page.isSome then withinBudget protectedLength pageBudget (frames.take pageFrames) else frames

/-- Read one claimed file, or one page of it.
mirrors evertrace-capture/src/spool.rs:892-987 -/
def readSegment (H : Sha256) (protectedLength : SpoolRecord → Option Nat)
    (page : Option (Option SpoolReadCursor)) (preserveCorruption : Bool) (claim : String × File) :
    SpoolM SealedSegment := do
  let (path, file) := claim
  let start := pageStart page
  Command.check .corrupt (start ≤ file.bytes.length)
  let available := file.bytes.length - start
  let readLength := if page.isSome then min available pageBytes else available
  let _ ← io
  let scan := scanFrames H ((file.bytes.drop start).take readLength)
  let invalid := match scan with
    | .ok scan => (readLength = available && scan.incompleteTail) || scan.frames.isEmpty
    | .error _ => true
  if preserveCorruption && invalid then
    let _ ← io
    let _ ← quarantine (.sealed path)
    Command.fail .recoveryRequired
  else
    let scan ← Command.lift (scan.mapError .ofFrame)
    Command.check .corrupt !invalid
    let (frames, stop) ← Command.lift (placeFrames start (pageTaken protectedLength page scan.frames))
    Command.check .resourceExhausted !frames.isEmpty
    let _ ← io
    return {
      path := path
      inode := file.inode
      length := file.bytes.length
      frames := frames
      endOffset := stop
      identity := file.identity }

/-- mirrors evertrace-capture/src/spool.rs:817-989 -/
def claimedSegmentsInner (H : Sha256) (limits : SpoolLimits) (protectedLength : SpoolRecord → Option Nat)
    (limit : Nat) (isolated : Bool) (page : Option (Option SpoolReadCursor)) (preserveCorruption : Bool) :
    SpoolM (List SealedSegment) := do
  Command.check .invalidConfiguration (!(limit = 0 || limit > max limits.maxMainFiles.toNat 64))
  let _ ← io
  let s ← spool
  let paths ← Command.lift (claimPaths limits s isolated page)
  let claimed ← Command.lift
    (claimFiles limits (fun inode => s.claims.any fun held => held.inode = inode) page limit paths)
  let segments ← Command.collect (readSegment H protectedLength page preserveCorruption) claimed
  change (·.handOut segments)
  return segments

/-- mirrors evertrace-capture/src/spool.rs:991-1020 -/
def acknowledgeSegment (segment : SealedSegment) (committedFrames : Nat) : SpoolM Unit := do
  Command.check .invalidAcknowledgement
    (!(!segment.complete || committedFrames ≠ segment.frames.length || committedFrames = 0))
  let _ ← io
  let s ← spool
  -- the open file has the inode of the segment: with equal inodes both metadata are the same
  let file ← Command.lift (okOr .io (s.sealed.get segment.path))
  Command.check .identityChanged
    (!(file.inode ≠ segment.inode || file.bytes.length ≠ segment.length || file.identity ≠ segment.identity))
  let _ ← io
  change fun s => (s.removeSealed segment.path).record (.removed segment.path file)
  let _ ← io

/-! ## Recovery -/

/-- A sealed file that recovery moves to quarantine. -/
def invalidCarrier (H : Sha256) (bytes : Bytes) : Bool :=
  match scanFrames H bytes with
  | .ok scan => scan.incompleteTail || scan.frames.isEmpty
  | .error _ => true

/-- The body of the loop of `recover` over the sealed files. -/
def recoverSealed (H : Sha256) (path : String) : SpoolM Unit := do
  let _ ← io
  let s ← spool
  let file ← Command.lift (okOr .io (s.sealed.get path))
  if invalidCarrier H file.bytes then
    let _ ← quarantine (.sealed path)
    return ()
  else return ()

/-- The active file in `recover`: cut a torn tail, move a corrupt file away.
Returns the bytes cut off.
mirrors evertrace-capture/src/spool.rs:1053-1085 -/
def recoverActive (H : Sha256) : SpoolM Nat := do
  let _ ← io
  let s ← spool
  match s.active with
  | none => return 0
  | some file =>
    match scanFrames H file.bytes with
    | .ok scan =>
      if scan.incompleteTail then
        let stamp ← io
        change fun s => (s.truncateActive scan.completeLength stamp).record
          (.truncated file.inode scan.completeLength)
        let _ ← io
        change fun s => { s with lastWatermark := scan.completeLength }
        return file.bytes.length - scan.completeLength
      else
        change fun s => { s with lastWatermark := scan.completeLength }
        return 0
    | .error _ =>
      let _ ← quarantine .active
      change fun s => { s with lastWatermark := 0 }
      return 0

/-- mirrors evertrace-capture/src/spool.rs:1480-1499 -/
def quarantineEvidence : SpoolM (List GapEvidence) := do
  let _ ← io
  let s ← spool
  Command.check .corrupt (s.quarantined.entries.all fun entry => hasExtension "spool" entry.1)
  return s.quarantined.entries.map fun entry => ⟨entry.1, .corruptSegment⟩

/-- mirrors evertrace-capture/src/spool.rs:1022-1088 -/
def recover (H : Sha256) : SpoolM RecoveryReport := do
  let _ ← io
  let s ← spool
  Command.check .corrupt (s.sealed.entries.all fun entry => hasExtension "sealed" entry.1)
  Command.forEach (fun entry => recoverSealed H entry.1) s.sealed.entries
  let repairedTailBytes ← recoverActive H
  let gaps ← quarantineEvidence
  return ⟨repairedTailBytes, gaps⟩

/-! ## The operations of a run -/

/-- What a client of the spool can do. -/
inductive Op where
  | append (record : SpoolRecord)
  | appendIsolatedSealed (record : SpoolRecord) (routingHint : String)
  | sealActive (generation : UInt64)
  | sealedSegments (limit : Nat)
  | isolatedSegments (limit : Nat)
  | sealedPage (cursor : Option SpoolReadCursor)
  | ingestPage (cursor : Option SpoolReadCursor)
  /-- take the cursor of a held segment -/
  | continuation (segment : SealedSegment)
  /-- drop a held segment, and its lock -/
  | release (segment : SealedSegment)
  | acknowledgeSegment (segment : SealedSegment) (committedFrames : Nat)
  | recover
  /-- a new process: claims and cursors are gone, and `open` recovers -/
  | restart

/-- Segments and cursors are the client's own values: an operation on one that it was not given is
no operation. -/
def Op.Possible (s : Spool) : Op → Prop
  | .sealedPage (some cursor) | .ingestPage (some cursor) => cursor ∈ s.cursors
  | .continuation segment | .release segment | .acknowledgeSegment segment _ => segment ∈ s.claims
  | _ => True

instance (s : Spool) : (op : Op) → Decidable (op.Possible s)
  | .sealedPage (some cursor) | .ingestPage (some cursor) => inferInstanceAs (Decidable (cursor ∈ s.cursors))
  | .continuation segment | .release segment | .acknowledgeSegment segment _ =>
    inferInstanceAs (Decidable (segment ∈ s.claims))
  | .append _ | .appendIsolatedSealed _ _ | .sealActive _ | .sealedSegments _ | .isolatedSegments _
  | .sealedPage none | .ingestPage none | .recover | .restart => inferInstanceAs (Decidable True)

def Spool.drop (s : Spool) (segment : SealedSegment) : Spool :=
  { s with claims := s.claims.filter fun held => held ≠ segment }

section Run
variable (H : Sha256) (limits : SpoolLimits) (protectedLength : SpoolRecord → Option Nat)

/-- One operation; what it returns is in the history. -/
def perform : Op → SpoolM Unit
  | .append record => do let _ ← append H limits record
  | .appendIsolatedSealed record hint => do let _ ← appendIsolatedSealed H limits record hint
  | .sealActive generation => do let _ ← sealActive generation
  | .sealedSegments limit => do
    let _ ← claimedSegmentsInner H limits protectedLength limit false none false
  | .isolatedSegments limit => do
    let _ ← claimedSegmentsInner H limits protectedLength limit true none false
  | .sealedPage cursor => do
    let _ ← claimedSegmentsInner H limits protectedLength 1 false (some cursor) false
  | .ingestPage cursor => do
    let _ ← claimedSegmentsInner H limits protectedLength 1 false (some cursor) true
  | .continuation segment => change fun s => { s with cursors := s.cursors ++ segment.continuation.toList }
  | .release segment => change (·.drop segment)
  | .acknowledgeSegment segment committedFrames => do
    let acknowledged ← Command.attempt (acknowledgeSegment segment committedFrames)
    -- the segment is consumed either way
    change (·.drop segment)
    Command.lift acknowledged
  | .recover => do let _ ← recover H
  | .restart => do
    change fun s => { s with claims := [], cursors := [], lastWatermark := 0 }
    let _ ← Command.lift limits.validate
    let _ ← recover H

/-- One operation of a run, with the outcomes of its system calls. -/
def step (s : Spool) (op : Op × List Outcome) : Spool :=
  if op.1.Possible s then (perform H limits protectedLength op.1 ⟨s, op.2⟩).2.spool else s

def runOps (ops : List (Op × List Outcome)) : Spool := ops.foldl (step H limits protectedLength) .empty

end Run

end EverTrace.L2.Capture
