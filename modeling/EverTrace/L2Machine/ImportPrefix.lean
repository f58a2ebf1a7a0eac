import EverTrace.L2Machine.SessionImport
import Mathlib.Data.Prod.Lex
/-!
# Prefix digests of imported sources (`evertrace-engine/src/ingest.rs`)

The records of an imported file are committed in order. The watermark of a
source revision says how far: the end of the last record and a digest chained
over all of them. A fence divides the file into two chains, an earlier prefix
and the rest, which advance independently; the watermark then carries both.

A drain keeps the chain ends of a source revision while it works
(`ConfirmedPrefixState`), starting from the committed watermark. A record that
was committed before is recognised by its range: in this drain by what the drain
added (`local_exact`), else by chaining all stored receipts once more
(`projected_exact_prefixes`).

The store keeps a command for each committed record, with its receipt and its
watermark, and the last watermark of each source revision; the row of a
watermark is found by the length-prefixed pair of its source and revision. Of a
frame, the command id and the receipt are kept; a body and its receipt agree.
-/
namespace EverTrace.L2.Ingest
open EverTrace.Lib EverTrace.L1 EverTrace.L1.Canonical EverTrace.L2.SessionImport

/-- The errors of this part of the ingest.
mirrors evertrace-engine/src/ingest.rs:1325-1370 -/
inductive IngestError where
  | invalidRecord
  | storeCorrupt
  | idempotencyConflict
  deriving DecidableEq, Repr

/-- mirrors evertrace-domain/src/evidence.rs:372-416 -/
structure SourceReceipt where
  sourceReceiptId : DigestId .sourceReceipt
  sourceInstanceId : String
  sourceRevision : String
  sourceSequence : Nat
  sourceByteRange : Option EvidenceByteRange
  casRef : String
  deriving DecidableEq

/-- A verified frame of the spool. -/
structure VerifiedCapture where
  commandId : CommandId
  receipt : SourceReceipt
  deriving DecidableEq

/-- mirrors evertrace-store/src/command.rs:374-379 -/
structure SourceImportEarlierPrefix where
  fenceByte : Nat
  throughByte : Nat
  digest : Option String
  deriving DecidableEq

/-- mirrors evertrace-store/src/command.rs:391-399 -/
structure SourceIngestWatermark where
  sourceInstanceId : String
  sourceRevision : String
  sourceSequence : Nat
  confirmedPrefixDigest : Option String
  earlierPrefix : Option SourceImportEarlierPrefix
  deriving DecidableEq

/-- mirrors evertrace-engine/src/ingest.rs:1275-1297 -/
def confirmedPrefixDigest (H : Sha256) (sourceInstance sourceRevision : String) (range : EvidenceByteRange)
    (previous : Option String) (casRef : String) : Except IngestError String := do
  let digest ← (sha256 H "session_import_confirmed_prefix" 1 (.sequence
    [ .string sourceInstance,
      .string sourceRevision,
      .integer (BitVec.ofNat 128 range.start),
      .integer (BitVec.ofNat 128 range.finish),
      (match previous with
        | some previous => .string previous
        | none => .null),
      .string casRef ])).mapError fun _ => .invalidRecord
  return String.ofList (hexBytes digest.bytes)

/-! ## The store -/

/-- A committed record. -/
structure Command where
  capture : VerifiedCapture
  watermark : SourceIngestWatermark
  deriving DecidableEq

/-- What the ingest reads of the store. -/
structure Store where
  commands : List Command
  watermarks : OrdMap (String ×ₗ String) SourceIngestWatermark

namespace Store

def receipts (store : Store) : List SourceReceipt := store.commands.map fun command => command.capture.receipt

/-- `committed_command` -/
def committedCommand (store : Store) (id : CommandId) : Option Command :=
  store.commands.find? fun command => command.capture.commandId = id

def watermark (store : Store) (sourceInstance sourceRevision : String) : Option SourceIngestWatermark :=
  store.watermarks.get (toLex (sourceInstance, sourceRevision))

def commit (store : Store) (capture : VerifiedCapture) (watermark : SourceIngestWatermark) : Store where
  commands := store.commands ++ [⟨capture, watermark⟩]
  watermarks := store.watermarks.insert (toLex (watermark.sourceInstanceId, watermark.sourceRevision)) watermark

end Store

/-! ## The state of a drain -/

/-- mirrors evertrace-engine/src/ingest.rs:1058-1064 -/
structure ProjectedExactPrefix where
  start : Nat
  finish : Nat
  casRef : String
  digest : String
  deriving DecidableEq

/-- mirrors evertrace-engine/src/ingest.rs:989-998 -/
structure ConfirmedPrefixState where
  originFence : Option Nat
  committedWatermark : Option SourceIngestWatermark
  exact_ : Option (OrdMap Nat ProjectedExactPrefix)
  localExact : OrdMap Nat ProjectedExactPrefix
  localEnd : Nat
  localDigest : Option String
  prefixEnd : Nat
  prefixDigest : Option String

namespace ConfirmedPrefixState

/-- mirrors evertrace-engine/src/ingest.rs:1042-1054 -/
def watermark (state : ConfirmedPrefixState) (receipt : SourceReceipt) : SourceIngestWatermark where
  sourceInstanceId := receipt.sourceInstanceId
  sourceRevision := receipt.sourceRevision
  sourceSequence := state.localEnd
  confirmedPrefixDigest := state.localDigest
  earlierPrefix := state.originFence.map fun fence => ⟨fence, state.prefixEnd, state.prefixDigest⟩

/-- The next digest of a chain that ends where the record starts.
mirrors evertrace-engine/src/ingest.rs:1020-1030 -/
def extend (H : Sha256) (receipt : SourceReceipt) (range : EvidenceByteRange) (finish : Nat)
    (previous : Option String) : Except IngestError String := do
  ensure .invalidRecord (range.start == finish)
  confirmedPrefixDigest H receipt.sourceInstanceId receipt.sourceRevision range previous receipt.casRef

/-- mirrors evertrace-engine/src/ingest.rs:1001-1055 -/
def advance (H : Sha256) (state : ConfirmedPrefixState) (receipt : SourceReceipt) :
    Except IngestError (SourceIngestWatermark × ConfirmedPrefixState) := do
  let range ← okOr .invalidRecord receipt.sourceByteRange
  ensure .invalidRecord (!(state.originFence.any fun fence => range.start < fence && fence < range.finish))
  let next ←
    if state.originFence.any (fun fence => range.finish ≤ fence) then do
      let digest ← extend H receipt range state.prefixEnd state.prefixDigest
      pure { state with
        prefixEnd := range.finish
        prefixDigest := some digest
        localExact := state.localExact.insert range.finish ⟨range.start, range.finish, receipt.casRef, digest⟩ }
    else do
      let digest ← extend H receipt range state.localEnd state.localDigest
      pure { state with
        localEnd := range.finish
        localDigest := some digest
        localExact := state.localExact.insert range.finish ⟨range.start, range.finish, receipt.casRef, digest⟩ }
  return (next.watermark receipt, next)

end ConfirmedPrefixState

/-! ## Starting from the committed watermark -/

/-- The fence the committed records were divided at stays in force.
mirrors evertrace-engine/src/ingest.rs:1106-1114 -/
def persistedFence (watermark : SourceIngestWatermark) (originFence : Option Nat) : Except IngestError (Option Nat) :=
  match watermark.earlierPrefix, originFence with
  | some earlier, some fence => if earlier.fenceByte ≠ fence then .error .storeCorrupt else .ok (some earlier.fenceByte)
  | some earlier, none => .ok (some earlier.fenceByte)
  | none, value => .ok value

/-- The ends and digests of the two chains: the main one, then the earlier prefix.
mirrors evertrace-engine/src/ingest.rs:1115-1151 -/
def chainEnds (watermark : SourceIngestWatermark) : Option Nat →
    Except IngestError (Nat × Option String × Nat × Option String)
  | some fence => do
    let earlier ← okOr .storeCorrupt (watermark.earlierPrefix.filter fun earlier => earlier.fenceByte == fence)
    if watermark.confirmedPrefixDigest.isSome then do
      ensure .storeCorrupt (fence < watermark.sourceSequence)
      return (watermark.sourceSequence, watermark.confirmedPrefixDigest, earlier.throughByte, earlier.digest)
    else do
      ensure .storeCorrupt (watermark.sourceSequence == fence)
      return (fence, watermark.confirmedPrefixDigest, earlier.throughByte, earlier.digest)
  | none => do
    ensure .storeCorrupt (watermark.earlierPrefix.isNone && watermark.confirmedPrefixDigest.isSome)
    return (watermark.sourceSequence, watermark.confirmedPrefixDigest, 0, none)

/-- mirrors evertrace-engine/src/ingest.rs:1066-1162 -/
def projectedConfirmedPrefix (store : Store) (sourceInstance sourceRevision : String) (originFence : Option Nat) :
    Except IngestError ConfirmedPrefixState :=
  match store.watermark sourceInstance sourceRevision with
  | none => .ok {
      originFence := originFence
      committedWatermark := none
      exact_ := none
      localExact := .empty
      localEnd := originFence.getD 0
      localDigest := none
      prefixEnd := 0
      prefixDigest := none }
  | some watermark => do
    ensure .storeCorrupt
      (watermark.sourceInstanceId == sourceInstance && watermark.sourceRevision == sourceRevision)
    let originFence ← persistedFence watermark originFence
    let (localEnd, localDigest, prefixEnd, prefixDigest) ← chainEnds watermark originFence
    return {
      originFence := originFence
      committedWatermark := some watermark
      exact_ := none
      localExact := .empty
      localEnd := localEnd
      localDigest := localDigest
      prefixEnd := prefixEnd
      prefixDigest := prefixDigest }

/-! ## Chaining the stored receipts -/

/-- mirrors evertrace-engine/src/ingest.rs:1190-1197 -/
def receiptRange (receipt : SourceReceipt) : Except IngestError (EvidenceByteRange × String) := do
  let range ← okOr .storeCorrupt receipt.sourceByteRange
  ensure .storeCorrupt (range.finish == receipt.sourceSequence && range.start < range.finish)
  return (range, receipt.casRef)

/-- The cursors of the two chains and the records found. -/
structure ExactChains where
  prefixCursor : Nat
  prefixDigest : Option String
  mainCursor : Nat
  mainDigest : Option String
  exact_ : OrdMap Nat ProjectedExactPrefix

/-- `exact.insert(end, …)`, which must be new. -/
def insertExact (exact_ : OrdMap Nat ProjectedExactPrefix) (found : ProjectedExactPrefix) :
    Except IngestError (OrdMap Nat ProjectedExactPrefix) := do
  ensure .storeCorrupt (exact_.get found.finish).isNone
  return exact_.insert found.finish found

/-- One receipt of the earlier prefix.
mirrors evertrace-engine/src/ingest.rs:1210, 1216-1242 -/
def ExactChains.onPrefix (H : Sha256) (sourceInstance sourceRevision : String) (chains : ExactChains)
    (range : EvidenceByteRange) (casRef : String) : Except IngestError ExactChains := do
  ensure .storeCorrupt (range.start == chains.prefixCursor)
  let digest ← confirmedPrefixDigest H sourceInstance sourceRevision range chains.prefixDigest casRef
  let exact_ ← insertExact chains.exact_ ⟨range.start, range.finish, casRef, digest⟩
  return { chains with prefixCursor := range.finish, prefixDigest := some digest, exact_ := exact_ }

/-- One receipt of the main chain.
mirrors evertrace-engine/src/ingest.rs:1211-1242 -/
def ExactChains.onMain (H : Sha256) (sourceInstance sourceRevision : String) (chains : ExactChains)
    (range : EvidenceByteRange) (casRef : String) : Except IngestError ExactChains := do
  ensure .storeCorrupt (range.start == chains.mainCursor)
  let digest ← confirmedPrefixDigest H sourceInstance sourceRevision range chains.mainDigest casRef
  let exact_ ← insertExact chains.exact_ ⟨range.start, range.finish, casRef, digest⟩
  return { chains with mainCursor := range.finish, mainDigest := some digest, exact_ := exact_ }

/-- One receipt.
mirrors evertrace-engine/src/ingest.rs:1209-1242 -/
def chainReceipt (H : Sha256) (sourceInstance sourceRevision : String) (originFence : Option Nat)
    (watermark : SourceIngestWatermark) (chains : ExactChains) (entry : EvidenceByteRange × String) :
    Except IngestError ExactChains :=
  match originFence with
  | some fence =>
    if entry.1.finish ≤ fence then chains.onPrefix H sourceInstance sourceRevision entry.1 entry.2
    else if fence ≤ entry.1.start then chains.onMain H sourceInstance sourceRevision entry.1 entry.2
    else .error .storeCorrupt
  | none =>
    if entry.1.finish ≤ watermark.sourceSequence then chains.onMain H sourceInstance sourceRevision entry.1 entry.2
    else .error .storeCorrupt

/-- The chains end where the watermark says.
mirrors evertrace-engine/src/ingest.rs:1244-1271 -/
def checkChains (originFence : Option Nat) (watermark : SourceIngestWatermark) (chains : ExactChains) :
    Except IngestError Unit :=
  match originFence with
  | some fence => do
    let earlier ← okOr .storeCorrupt (watermark.earlierPrefix.filter fun earlier => earlier.fenceByte == fence)
    let suffixEnd := if watermark.confirmedPrefixDigest.isSome then watermark.sourceSequence else fence
    ensure .storeCorrupt (chains.prefixCursor == earlier.throughByte
      && chains.prefixDigest == earlier.digest
      && chains.mainCursor == suffixEnd
      && chains.mainDigest == watermark.confirmedPrefixDigest)
  | none => ensure .storeCorrupt (chains.mainCursor == watermark.sourceSequence
      && chains.mainDigest == watermark.confirmedPrefixDigest)

/-- mirrors evertrace-engine/src/ingest.rs:1164-1273 -/
def projectedExactPrefixes (H : Sha256) (store : Store) (sourceInstance sourceRevision : String)
    (originFence : Option Nat) (watermark : SourceIngestWatermark) :
    Except IngestError (OrdMap Nat ProjectedExactPrefix) := do
  let receipts ← (store.receipts.filter fun receipt => receipt.sourceInstanceId == sourceInstance
    && receipt.sourceRevision == sourceRevision).mapM receiptRange
  ensure .storeCorrupt (!receipts.isEmpty)
  let sorted := sortByKey
    (fun entry : EvidenceByteRange × String => (toLex (entry.1.finish, entry.1.start) : Nat ×ₗ Nat)) receipts
  let chains ← sorted.foldlM (chainReceipt H sourceInstance sourceRevision originFence watermark)
    ⟨0, none, originFence.getD 0, none, .empty⟩
  checkChains originFence watermark chains
  return chains.exact_

/-! ## One frame -/

/-- A drain over the records of one source revision: the store, the snapshot of it that was read first, and the
state of the source revision. -/
structure Drain where
  store : Store
  projection : Option Store
  state : Option ConfirmedPrefixState

def Drain.restart (d : Drain) : Drain := ⟨d.store, none, none⟩

/-- mirrors evertrace-engine/src/ingest.rs:551-584 -/
def Drain.load (d : Drain) (originFence : Option Nat) (receipt : SourceReceipt) :
    Except IngestError (Option Store × ConfirmedPrefixState) :=
  match d.state with
  | some state => .ok (d.projection, state)
  | none => do
    let projection := d.projection.getD d.store
    let state ← projectedConfirmedPrefix projection receipt.sourceInstanceId receipt.sourceRevision originFence
    return (some projection, state)

/-- mirrors evertrace-engine/src/ingest.rs:587-600 -/
def isCommitted (watermark : Option SourceIngestWatermark) (range : EvidenceByteRange) : Bool :=
  watermark.any fun value =>
    match value.earlierPrefix with
    | some earlier =>
      if range.finish ≤ earlier.fenceByte then range.finish ≤ earlier.throughByte
      else earlier.fenceByte ≤ range.start && value.confirmedPrefixDigest.isSome
        && range.finish ≤ value.sourceSequence
    | none => range.finish ≤ value.sourceSequence

/-- mirrors evertrace-engine/src/ingest.rs:602-607, 634-639 -/
def checkExact (found : ProjectedExactPrefix) (range : EvidenceByteRange) (casRef : String) : Except IngestError Unit :=
  ensure .storeCorrupt (found.start == range.start && found.finish == range.finish && found.casRef == casRef)

/-- The chained receipts, once computed.
mirrors evertrace-engine/src/ingest.rs:610-628 -/
def exactPrefixes (H : Sha256) (projection : Option Store) (state : ConfirmedPrefixState) (receipt : SourceReceipt) :
    Except IngestError (OrdMap Nat ProjectedExactPrefix) :=
  match state.exact_ with
  | some found => .ok found
  | none => do
    let watermark ← okOr .storeCorrupt state.committedWatermark
    let projection ← okOr .storeCorrupt projection
    projectedExactPrefixes H projection receipt.sourceInstanceId receipt.sourceRevision state.originFence watermark

/-- The digest of the record and, for a new one, the watermark to commit.
mirrors evertrace-engine/src/ingest.rs:586-647 -/
def classify (H : Sha256) (projection : Option Store) (state : ConfirmedPrefixState) (receipt : SourceReceipt)
    (range : EvidenceByteRange) :
    Except IngestError (Option String × Option SourceIngestWatermark × ConfirmedPrefixState) :=
  match state.localExact.get range.finish with
  | some found => do
    checkExact found range receipt.casRef
    return (some found.digest, none, state)
  | none =>
    if isCommitted state.committedWatermark range then do
      let chained ← exactPrefixes H projection state receipt
      let found ← okOr .storeCorrupt (chained.get range.finish)
      checkExact found range receipt.casRef
      return (some found.digest, none, { state with exact_ := some chained })
    else do
      let (next, state) ← state.advance H receipt
      return (next.confirmedPrefixDigest, some next, state)

/-- A committed command is verified against the frame, a new one committed. The watermark of a committed command is
taken over as it is.
mirrors evertrace-engine/src/ingest.rs:651-758, 873-948 -/
def commitOrReplay (store : Store) (capture : VerifiedCapture) (digest : Option String)
    (watermark : Option SourceIngestWatermark) : Except IngestError Store :=
  let ofSource := fun watermark : SourceIngestWatermark =>
    watermark.sourceInstanceId == capture.receipt.sourceInstanceId
      && watermark.sourceRevision == capture.receipt.sourceRevision
  match store.committedCommand capture.commandId with
  | some command => do
    ensure .invalidRecord (ofSource command.watermark)
    ensure .idempotencyConflict (command.capture == capture)
    return store
  | none => do
    let watermark := watermark.getD ⟨capture.receipt.sourceInstanceId, capture.receipt.sourceRevision,
      capture.receipt.sourceSequence, digest, none⟩
    ensure .invalidRecord (ofSource watermark)
    return store.commit capture watermark

/-- One frame of an imported source.
mirrors evertrace-engine/src/ingest.rs:537-758 -/
def Drain.present (H : Sha256) (originFence : Option Nat) (d : Drain) (capture : VerifiedCapture) :
    Except IngestError Drain := do
  let range ← okOr .invalidRecord capture.receipt.sourceByteRange
  ensure .invalidRecord (range.finish == capture.receipt.sourceSequence && range.start < range.finish)
  let (projection, state) ← d.load originFence capture.receipt
  let (digest, watermark, state) ← classify H projection state capture.receipt range
  let store ← commitOrReplay d.store capture digest watermark
  return ⟨store, projection, some state⟩

end EverTrace.L2.Ingest
