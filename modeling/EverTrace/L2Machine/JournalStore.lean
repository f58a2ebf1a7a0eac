import EverTrace.Lib.Command
import EverTrace.Lib.Transaction
import EverTrace.L2Machine.JournalRows
/-!
# The journal writer (`evertrace-store/src/writer.rs`, `sqlite_state.rs`)

One writer owns the journal table. A commit prepares its command, answers it
from the rows that are there already, or checks its condition, reserves
sequence numbers and appends one row for each event in one transaction.

Everything outside the writer is an input: what the file system and the database
refuse (`CommitFaults`), when the writer is opened again, and what other
connections commit to the same file. The state of admission, which decides what
a command may say, is the parameter `Admission`.
-/
namespace EverTrace.L2.Journal
open EverTrace.Lib EverTrace.Lib.Transaction EverTrace.L1

/-! ## The table -/

/-- `INSERT_EVENT` under the constraints of `CREATE_JOURNAL_TABLE`: `seq`, `event_id` and
`(command_id, ordinal)` are unique.
mirrors evertrace-store/src/sqlite_state.rs:54-86, 135-142, 1485-1494 -/
def insertEvent (table : List JournalRow) (row : JournalRow) : Except StoreError (List JournalRow) := do
  ensure .storeCorrupt (table.all fun stored => stored.seq != row.seq && stored.eventId != row.eventId &&
    !(stored.commandId == row.commandId && stored.ordinal == row.ordinal))
  return table ++ [row]

/-- mirrors evertrace-store/src/sqlite_state.rs:129 -/
def selectAllRows (table : List JournalRow) : List JournalRow := sortByKey JournalRow.seq table

/-- mirrors evertrace-store/src/sqlite_state.rs:128 -/
def selectCommandRows (commandId : CommandId) (table : List JournalRow) : List JournalRow :=
  sortByKey JournalRow.seq (table.filter fun row => row.commandId = commandId)

/-- mirrors evertrace-store/src/sqlite_state.rs:130 -/
def persistedFrontier (table : List JournalRow) : Nat := ((selectAllRows table).getLast?.map JournalRow.seq).getD 0

/-! ## The writer -/

/-- The part of the state that the journal uses.
mirrors evertrace-store/src/sqlite_state.rs:205-227 -/
structure SqliteState where
  handle : Handle
  journalEpoch : Nat
  frontier : Nat

/-- mirrors evertrace-store/src/writer.rs:632-652 -/
structure JournalWriter (α : Type) where
  sqlite : SqliteState
  nextSeq : Nat
  admission : α

/-- The database file and the writer on it. -/
structure Store (α : Type) where
  file : File (List JournalRow)
  writer : JournalWriter α

/-- What the writer uses of the admission state (`JournalAdmissionState`): a command is applied before
it is written, and read back from its rows when the store is opened. -/
structure Admission (π Γ α : Type) where
  initial : α
  applyCommand : JournalCommand π → Nat → α → Except StoreError α
  applyRowBatch : List JournalRow → α → Except StoreError α
  sourceObservationCommandMatches : JournalCommand π → Γ → Bool
  sourceObservationGuardMatches : Γ → α → Except StoreError Bool

/-- mirrors evertrace-store/src/writer.rs:531-534 -/
inductive CommitCondition (Γ : Type) where
  | frontier (expected : Nat)
  | sourceObservation (guard : Γ)

/-- What goes wrong during one commit, and what other connections do meanwhile. -/
structure CommitFaults where
  stamp : Option StoreError
  rows : Option StoreError
  stamps : Option StoreError
  between : Option (List JournalRow)
  append : Faults (List JournalRow) StoreError
  lock : Option StoreError

def CommitFaults.none : CommitFaults := ⟨.none, .none, .none, .none, Faults.none, .none⟩

/-- No other connection commits meanwhile. -/
def CommitFaults.Quiet (f : CommitFaults) : Prop :=
  f.between = .none ∧ f.append.foreignBefore = .none ∧ f.append.foreignAfter = .none

def storeErrors : Errors StoreError := ⟨.io, .storeCorrupt⟩

/-- mirrors evertrace-store/src/restore.rs:1639 -/
def ledgerRevision : String := "offline_restore_ledger_v1"

section Commit

variable {π Γ α : Type}

def Store.setHandle (s : Store α) (handle : Handle) : Store α :=
  { s with writer := { s.writer with sqlite := { s.writer.sqlite with handle } } }

/-- mirrors evertrace-store/src/sqlite_state.rs:465-480 -/
def physicalStamp (fails : Option StoreError) : Command (Store α) StoreError Nat := fun s =>
  match enter storeErrors fails s.file s.writer.sqlite.handle with
  | (.error e, handle) => (.error e, s.setHandle handle)
  | (.ok (), handle) => (.ok s.writer.sqlite.frontier, s.setHandle handle)

/-- mirrors evertrace-store/src/sqlite_state.rs:514-531 -/
def existingCommandRows (fails : Option StoreError) (commandId : CommandId) :
    Command (Store α) StoreError (List JournalRow) := fun s =>
  (query storeErrors fails (fun table => .ok (selectCommandRows commandId table)) s.file s.writer.sqlite.handle, s)

/-- The rows of one append have consecutive sequence numbers.
mirrors evertrace-store/src/sqlite_state.rs:579-589 -/
def checkRange (rows : List JournalRow) : Except StoreError Unit := do
  ensure .invalidInput (!rows.isEmpty)
  let last ← okOr .storeCorrupt rows.getLast?
  let first ← okOr .storeCorrupt rows.head?
  ensure .storeCorrupt (first.seq + (rows.length - 1) < 2 ^ 64 && first.seq + (rows.length - 1) == last.seq &&
    (rows.map JournalRow.seq).IsChain (· < ·))

/-- The statements inside the transaction.
mirrors evertrace-store/src/sqlite_state.rs:618-665 -/
def insertRows (rows table : List JournalRow) : Except StoreError (List JournalRow × Bool) := do
  let table ← rows.foldlM insertEvent table
  return (table, true)

/-- mirrors evertrace-store/src/sqlite_state.rs:575-699 -/
def appendCommandRows (f : Faults (List JournalRow) StoreError) (rows : List JournalRow) :
    Command (Store α) StoreError Unit := fun s =>
  match transact storeErrors f (checkRange rows) (insertRows rows) s.file s.writer.sqlite.handle with
  | (.error e, file, handle) => (.error e, { (s.setHandle handle) with file })
  | (.ok _, file, handle) =>
    let sqlite := s.writer.sqlite
    (.ok (), { file, writer := { s.writer with sqlite := {
      handle
      journalEpoch := min (sqlite.journalEpoch + 1) (2 ^ 64 - 1)
      frontier := (rows.getLast?.map JournalRow.seq).getD sqlite.frontier } } })

/-- mirrors evertrace-store/src/writer.rs:2552-2561 -/
def reserve (count : Nat) : Command (Store α) StoreError Nat := fun s =>
  match reserveRange s.writer.nextSeq count with
  | .error e => (.error e, s)
  | .ok (first, nextSeq) => (.ok first, { s with writer := { s.writer with nextSeq } })

variable (H : Sha256) (C : PayloadCodec π) (A : Admission π Γ α)

/-- mirrors evertrace-store/src/writer.rs:1305-1309 -/
def sourceMatches (command : JournalCommand π) : Option (CommitCondition Γ) → Bool
  | some (.sourceObservation guard) => A.sourceObservationCommandMatches command guard
  | _ => true

/-- mirrors evertrace-store/src/writer.rs:1318-1331 -/
def checkCondition (condition : Option (CommitCondition Γ)) (frontier : Nat) (admission : α) : Except StoreError Unit :=
  match condition with
  | some (.frontier expected) => ensure .staleFrontier (frontier == expected)
  | some (.sourceObservation guard) => do
    let matched ← A.sourceObservationGuardMatches guard admission
    ensure .staleFrontier matched
  | none => .ok ()

/-- A command that the journal does not hold yet.
mirrors evertrace-store/src/writer.rs:1318-1384 -/
def commitNew (command : JournalCommand π) (prepared : PreparedCommand π) (ingestedAtUs : Int)
    (condition : Option (CommitCondition Γ)) (frontier : Nat) (f : CommitFaults) :
    Command (Store α) StoreError CommitOutcome := do
  let writer ← Command.read Store.writer
  Command.lift (checkCondition A condition frontier writer.admission)
  let nextAdmission ← Command.lift (A.applyCommand command writer.nextSeq writer.admission)
  let firstSeq ← reserve prepared.eventCount
  let rows ← Command.lift (rowsForAppend prepared firstSeq ingestedAtUs)
  let last ← Command.lift (okOr .storeCorrupt rows.getLast?)
  Command.lift (fault f.stamps)
  Command.change fun s => { s with file := s.file.foreign f.between }
  appendCommandRows f.append rows
  Command.lift (fault f.lock)
  Command.change fun s => { s with writer := { s.writer with admission := nextAdmission } }
  return {
    commandId := prepared.commandId
    firstSeq
    lastSeq := last.seq
    eventIds := rows.map JournalRow.eventId
    replayed := false }

/-- mirrors evertrace-store/src/writer.rs:1290-1384 -/
def commitInner (command : JournalCommand π) (ingestedAtUs : Int) (condition : Option (CommitCondition Γ))
    (f : CommitFaults) : Command (Store α) StoreError CommitOutcome := do
  Command.check .invalidInput (!(ingestedAtUs < 0 ||
    command.events.any fun event => event.algorithmRevision == ledgerRevision))
  let prepared ← Command.lift (prepareCommand H C command)
  Command.check .invalidInput (sourceMatches A command condition)
  let frontier ← physicalStamp f.stamp
  let existing ← existingCommandRows f.rows prepared.commandId
  let replayed ← Command.lift (replayOutcome H C existing prepared)
  match replayed with
  | some outcome => return outcome
  | none => commitNew A command prepared ingestedAtUs condition frontier f

/-- Opening the store reads the whole journal, checks it and applies its commands in order. The journal has its
migration markers: the first open, which appends those of L0001 and L0002, is not modelled.
mirrors evertrace-store/src/sqlite_state.rs:410-448, writer.rs:863-917, projections.rs:9543-9549 -/
def openOnConnection (fails : Option StoreError) (file : File (List JournalRow)) :
    Except StoreError (JournalWriter α) := do
  fault fails
  let rows := selectAllRows file.contents
  validateJournalRows H C rows
  let batches ← orderedCommandBatches H C rows
  let admission ← batches.foldlM (fun admission batch => A.applyRowBatch batch admission) A.initial
  let frontier := persistedFrontier file.contents
  ensure .storeCorrupt (frontier + 1 < 2 ^ 64)
  return {
    sqlite := ⟨⟨true, file.version, true, false⟩, if rows.isEmpty then 0 else 1, frontier⟩
    nextSeq := frontier + 1
    admission }

/-! ## Runs -/

/-- What happens to the store, one thing after the other. -/
inductive Input (π Γ : Type) where
  | commit (command : JournalCommand π) (ingestedAtUs : Int) (condition : Option (CommitCondition Γ)) (f : CommitFaults)
  /-- The process ends, at any time, and the store is opened again. -/
  | restart (fails : Option StoreError)
  | foreign (contents : List JournalRow)

/-- The file, and the writer if one is open. -/
structure Service (α : Type) where
  file : File (List JournalRow)
  writer : Option (JournalWriter α)

def Service.commit (s : Service α) (command : JournalCommand π) (ingestedAtUs : Int)
    (condition : Option (CommitCondition Γ)) (f : CommitFaults) : Except StoreError CommitOutcome × Service α :=
  match s.writer with
  | none => (.error .io, s)
  | some writer =>
    let (r, s') := commitInner H C A command ingestedAtUs condition f ⟨s.file, writer⟩
    (r, ⟨s'.file, some s'.writer⟩)

def Service.step (s : Service α) : Input π Γ → Service α
  | .commit command ingestedAtUs condition f => (s.commit H C A command ingestedAtUs condition f).2
  | .restart fails => { s with writer := (openOnConnection H C A fails s.file).toOption }
  | .foreign contents => { s with file := s.file.foreign (some contents) }

def Service.run (s : Service α) (inputs : List (Input π Γ)) : Service α := inputs.foldl (Service.step H C A) s

end Commit

end EverTrace.L2.Journal
