import EverTrace.Lib.Blocks
import EverTrace.Lib.Guard
import EverTrace.L1Encoding.Canonical
import EverTrace.L1Encoding.Ids
/-!
# Commands and their journal rows (`evertrace-store/src/command.rs`, `journal.rs`)

A writer hands the store a command: an id and the events that belong together.
The store prepares it, which fixes a hash over the whole command and an id for
each event, and writes one row for each event at consecutive sequence numbers.
Reading goes the other way: the rows of a command are complete only if they
can be prepared again to the hash and the ids that they carry.

A payload is any of some fifty kinds of records. The journal uses its names, its
encodings and its checks, which are the parameter `PayloadCodec`; that the JSON
of a payload reads back as the payload is `PayloadCodec.Faithful`.
-/
namespace EverTrace.L2.Journal
open EverTrace.Lib EverTrace.L1 EverTrace.L1.Canonical

/-- mirrors evertrace-store/src/command.rs:2061-2096, the errors used here -/
inductive StoreError where
  | invalidInput
  | idempotencyConflict
  | staleFrontier
  | storeCorrupt
  | projection
  | serialization
  | io
  deriving DecidableEq

/-- mirrors evertrace-store/src/command.rs:42-46 -/
inductive RecordClass where
  | objectEvent
  | runtimeEvent
  | projectionControl
  deriving DecidableEq

/-- mirrors evertrace-store/src/command.rs:69-75 -/
inductive ObjectFamily where
  | evidence
  | work
  | atom
  | procedure
  | revisionProposal
  deriving DecidableEq

/-- mirrors evertrace-store/src/command.rs:102-109 -/
inductive SourceKind where
  | hook
  | session
  | manual
  | import_
  | system
  | model
  deriving DecidableEq

/-- mirrors evertrace-store/src/command.rs:112-121 -/
def SourceKind.asStr : SourceKind → String
  | .hook => "hook"
  | .session => "session"
  | .manual => "manual"
  | .import_ => "import"
  | .system => "system"
  | .model => "model"

/-- mirrors evertrace-store/src/command.rs:230-238 -/
structure EventScope where
  projectId : Option String
  repositoryId : Option String
  worktreeId : Option String
  taskId : Option String
  workstreamId : Option String
  sessionId : Option String
  executionLaneId : Option String
  deriving DecidableEq

/-- mirrors evertrace-store/src/command.rs:1311-1320 -/
structure JournalEventDraft (π : Type) where
  occurredAtUs : Int
  sourceKind : SourceKind
  scope : EventScope
  causationId : Option String
  correlationId : Option String
  effectiveConfigHash : Digest
  algorithmRevision : String
  payload : π

/-- mirrors evertrace-store/src/command.rs:1389-1392 -/
structure JournalCommand (π : Type) where
  commandId : CommandId
  events : List (JournalEventDraft π)

/-- What the journal uses of a payload. `validateCommand` is the checks that `prepare_command`
makes across the events of a command. -/
structure PayloadCodec (π : Type) where
  eventType : π → String
  recordClass : π → RecordClass
  validate : π → Except StoreError Unit
  canonicalValue : π → CanonicalValue
  canonicalJson : π → Except StoreError String
  fromJson : String → Except StoreError π
  validateCommand : List (JournalEventDraft π) → Except StoreError Unit

/-- The JSON of a payload reads back as the payload. -/
def PayloadCodec.Faithful {π : Type} (C : PayloadCodec π) : Prop :=
  ∀ payload json, C.canonicalJson payload = .ok json → C.fromJson json = .ok payload

/-! ## Preparing a command -/

/-- mirrors evertrace-store/src/command.rs:2178-2188 -/
def validateIdentifier (value : String) : Except StoreError Unit :=
  ensure .invalidInput (!((utf8 value).isEmpty || 256 < (utf8 value).length ||
    (utf8 value).any fun byte => byte < 32 || byte == 127))

/-- mirrors evertrace-store/src/command.rs:2190-2192 -/
def validateOptionalIdentifier : Option String → Except StoreError Unit
  | none => .ok ()
  | some value => validateIdentifier value

def text (value : String) : CanonicalValue := .string value

def optionalText : Option String → CanonicalValue
  | some value => .string value
  | none => .null

/-- mirrors evertrace-store/src/command.rs:2528-2556 -/
def scopeValue (value : EventScope) : CanonicalValue := .map
  [ ("project_id", optionalText value.projectId),
    ("repository_id", optionalText value.repositoryId),
    ("worktree_id", optionalText value.worktreeId),
    ("task_id", optionalText value.taskId),
    ("workstream_id", optionalText value.workstreamId),
    ("session_id", optionalText value.sessionId),
    ("execution_lane_id", optionalText value.executionLaneId) ]

/-- `hex` -/
def hex (hash : Digest) : String := String.ofList (hexBytes hash.bytes)

def journalPayloadSchema : Nat := 1

/-- mirrors evertrace-store/src/command.rs:1421-1429 -/
structure PreparedEvent (π : Type) where
  eventId : String
  ordinal : Nat
  eventType : String
  recordClass : RecordClass
  payloadJson : String
  contentHash : Digest
  draft : JournalEventDraft π

/-- mirrors evertrace-store/src/command.rs:1432-1437 -/
structure PreparedCommand (π : Type) where
  commandId : CommandId
  commandHash : Digest
  eventCount : Nat
  events : List (PreparedEvent π)

section Prepare

variable {π : Type} (H : Sha256) (C : PayloadCodec π)

/-- mirrors evertrace-store/src/command.rs:1341-1360 -/
def JournalEventDraft.validate (draft : JournalEventDraft π) : Except StoreError Unit := do
  ensure .invalidInput (0 ≤ draft.occurredAtUs)
  validateIdentifier draft.algorithmRevision
  validateOptionalIdentifier draft.causationId
  validateOptionalIdentifier draft.correlationId
  [draft.scope.projectId, draft.scope.repositoryId, draft.scope.worktreeId, draft.scope.taskId,
    draft.scope.workstreamId, draft.scope.sessionId, draft.scope.executionLaneId].forM validateOptionalIdentifier
  C.validate draft.payload

/-- mirrors evertrace-store/src/command.rs:1362-1385 -/
def JournalEventDraft.canonicalValue (draft : JournalEventDraft π) : CanonicalValue := .map
  [ ("occurred_at_us", .integer (BitVec.ofInt 128 draft.occurredAtUs)),
    ("source_kind", text draft.sourceKind.asStr),
    ("scope", scopeValue draft.scope),
    ("causation_id", optionalText draft.causationId),
    ("correlation_id", optionalText draft.correlationId),
    ("effective_config_hash", .bytes draft.effectiveConfigHash.bytes),
    ("algorithm_revision", text draft.algorithmRevision),
    ("payload", C.canonicalValue draft.payload) ]

/-- mirrors evertrace-store/src/command.rs:1395-1400 -/
def JournalCommand.new (commandId : CommandId) (events : List (JournalEventDraft π)) :
    Except StoreError (JournalCommand π) := do
  ensure .invalidInput (!(events.isEmpty || 65536 ≤ events.length))
  return ⟨commandId, events⟩

/-- The id of an event depends on the command and on its place in it.
mirrors evertrace-store/src/command.rs:2026-2034 -/
def eventHash (commandId : CommandId) (ordinal : Nat) : Except StoreError Digest :=
  (sha256 H "journal_event_v1" 1 (.sequence [text commandId.toText, .integer (BitVec.ofNat 128 ordinal)])).mapError
    fun _ => .serialization

/-- mirrors evertrace-store/src/command.rs:2024-2051 -/
def prepareEvent (commandId : CommandId) (draft : JournalEventDraft π) (index : Nat) :
    Except StoreError (PreparedEvent π) := do
  ensure .invalidInput (index < 65536)
  let hash ← eventHash H commandId index
  let contentHash ← (sha256 H "journal_payload_v1" (UInt32.ofNat journalPayloadSchema)
    (C.canonicalValue draft.payload)).mapError fun _ => .serialization
  let payloadJson ← C.canonicalJson draft.payload
  return {
    eventId := hex hash
    ordinal := index
    eventType := C.eventType draft.payload
    recordClass := C.recordClass draft.payload
    payloadJson
    contentHash
    draft }

/-- mirrors evertrace-store/src/command.rs:2008-2020 -/
def commandValue (command : JournalCommand π) : CanonicalValue := .map
  [ ("command_id", text command.commandId.toText),
    ("events", .sequence (command.events.map (JournalEventDraft.canonicalValue C))) ]

/-- mirrors evertrace-store/src/command.rs:1980-2058 -/
def prepareCommand (command : JournalCommand π) : Except StoreError (PreparedCommand π) := do
  ensure .invalidInput (command.events.length < 65536)
  ensure .invalidInput (command.events.length ≠ 0)
  command.events.forM (JournalEventDraft.validate C)
  C.validateCommand command.events
  let commandHash ← (sha256 H "journal_command_v1" 1 (commandValue C command)).mapError fun _ => .serialization
  let events ← command.events.zipIdx.mapM fun entry => prepareEvent H C command.commandId entry.1 entry.2
  return ⟨command.commandId, commandHash, command.events.length, events⟩

end Prepare

/-! ## Rows -/

/-- mirrors evertrace-store/src/journal.rs:18-42 -/
structure JournalRow where
  eventId : String
  commandId : CommandId
  commandHash : Digest
  ordinal : Nat
  commandEventCount : Nat
  seq : Nat
  eventType : String
  recordClass : RecordClass
  objectFamily : Option ObjectFamily
  objectId : Option String
  revisionId : Option String
  scope : EventScope
  occurredAtUs : Int
  ingestedAtUs : Int
  sourceKind : SourceKind
  sourceRefJson : Option String
  payloadSchema : Nat
  payloadJson : String
  contentHash : Digest
  causationId : Option String
  correlationId : Option String
  effectiveConfigHash : Digest
  algorithmRevision : String

/-- mirrors evertrace-store/src/command.rs:1412-1418 -/
structure CommitOutcome where
  commandId : CommandId
  firstSeq : Nat
  lastSeq : Nat
  eventIds : List String
  replayed : Bool

section Rows

variable {π : Type} (H : Sha256) (C : PayloadCodec π)

/-- mirrors evertrace-store/src/journal.rs:358-389 -/
def rowFromPrepared (command : PreparedCommand π) (event : PreparedEvent π) (seq : Nat) (ingestedAtUs : Int) :
    JournalRow where
  eventId := event.eventId
  commandId := command.commandId
  commandHash := command.commandHash
  ordinal := event.ordinal
  commandEventCount := command.eventCount
  seq
  eventType := event.eventType
  recordClass := event.recordClass
  objectFamily := none
  objectId := none
  revisionId := none
  scope := event.draft.scope
  occurredAtUs := event.draft.occurredAtUs
  ingestedAtUs
  sourceKind := event.draft.sourceKind
  sourceRefJson := none
  payloadSchema := journalPayloadSchema
  payloadJson := event.payloadJson
  contentHash := event.contentHash
  causationId := event.draft.causationId
  correlationId := event.draft.correlationId
  effectiveConfigHash := event.draft.effectiveConfigHash
  algorithmRevision := event.draft.algorithmRevision

/-- mirrors evertrace-store/src/journal.rs:336-356 -/
def rowsForAppend (prepared : PreparedCommand π) (firstSeq : Nat) (ingestedAtUs : Int) :
    Except StoreError (List JournalRow) := do
  ensure .invalidInput (0 ≤ ingestedAtUs)
  prepared.events.zipIdx.mapM fun entry => do
    ensure .invalidInput (firstSeq + entry.2 < 2 ^ 64)
    return rowFromPrepared prepared entry.1 (firstSeq + entry.2) ingestedAtUs

/-- mirrors evertrace-store/src/writer.rs:2552-2561 -/
def reserveRange (nextSeq count : Nat) : Except StoreError (Nat × Nat) := do
  ensure .invalidInput (count ≠ 0)
  ensure .storeCorrupt (nextSeq + count < 2 ^ 64)
  return (nextSeq, nextSeq + count)

/-- mirrors evertrace-store/src/journal.rs:50-68 -/
def JournalRow.draft (row : JournalRow) : Except StoreError (JournalEventDraft π) := do
  ensure .storeCorrupt (!(row.objectFamily.isSome || row.objectId.isSome || row.revisionId.isSome ||
    row.sourceRefJson.isSome))
  let payload ← C.fromJson row.payloadJson
  return {
    occurredAtUs := row.occurredAtUs
    sourceKind := row.sourceKind
    scope := row.scope
    causationId := row.causationId
    correlationId := row.correlationId
    effectiveConfigHash := row.effectiveConfigHash
    algorithmRevision := row.algorithmRevision
    payload }

/-- The row is what preparing the command again gives at its place. -/
def JournalRow.agrees (row : JournalRow) (expected : PreparedEvent π) : Bool :=
  row.eventId == expected.eventId && row.eventType == expected.eventType &&
    row.recordClass == expected.recordClass && row.payloadJson == expected.payloadJson &&
    row.contentHash == expected.contentHash

/-- mirrors evertrace-store/src/journal.rs:142-188 -/
def validateCompleteCommandRefs (rows : List JournalRow) : Except StoreError (List JournalRow) := do
  let first ← okOr .storeCorrupt rows.head?
  let expectedCount := first.commandEventCount
  ensure .storeCorrupt (expectedCount != 0 && rows.length == expectedCount)
  let ordered := sortByKey JournalRow.ordinal rows
  ensure .storeCorrupt (ordered.zipIdx.all fun entry =>
    entry.1.commandId == first.commandId && entry.1.commandEventCount == expectedCount &&
      entry.1.ordinal == entry.2 && entry.1.payloadSchema == journalPayloadSchema)
  let drafts ← ordered.mapM (JournalRow.draft C)
  let command ← JournalCommand.new first.commandId drafts
  let prepared ← prepareCommand H C command
  ensure .storeCorrupt (ordered.all fun row => row.commandHash == prepared.commandHash)
  ensure .storeCorrupt ((ordered.zip prepared.events).all fun entry => entry.1.agrees entry.2)
  return ordered

/-- The rows of each command, commands in the order of their ids. -/
def commandGroups (rows : List JournalRow) : List (List JournalRow) :=
  (OrdMap.groupBy (fun _ => true) JournalRow.commandId id rows).values

/-- mirrors evertrace-store/src/journal.rs:120-136 -/
def validateJournalRows (rows : List JournalRow) : Except StoreError Unit := do
  ensure .storeCorrupt (((sortByKey JournalRow.seq rows).map JournalRow.seq).IsChain (· < ·))
  (commandGroups rows).forM fun group => do
    let _ ← validateCompleteCommandRefs H C group
    return ()

/-- mirrors evertrace-store/src/journal.rs:190-228 -/
def replayOutcome (rows : List JournalRow) (prepared : PreparedCommand π) :
    Except StoreError (Option CommitOutcome) :=
  if rows.isEmpty then return none
  else do
    let ordered ← validateCompleteCommandRefs H C rows
    ensure .idempotencyConflict (rows.all fun row => row.commandHash == prepared.commandHash)
    ensure .idempotencyConflict (rows.length == prepared.eventCount)
    ensure .storeCorrupt (ordered.zipIdx.all fun entry =>
      entry.1.ordinal == entry.2 && entry.1.commandEventCount == prepared.eventCount)
    ensure .storeCorrupt ((ordered.zip prepared.events).all fun entry => entry.1.eventId == entry.2.eventId)
    let first ← okOr .storeCorrupt ordered.head?
    let last ← okOr .storeCorrupt ordered.getLast?
    return some ⟨prepared.commandId, first.seq, last.seq, ordered.map JournalRow.eventId, true⟩

/-- One command of the journal: its rows in order, behind the first sequence number.
mirrors evertrace-store/src/projections.rs:11429-11441 -/
def commandBatch (group : List JournalRow) : Except StoreError (Nat × List JournalRow) := do
  let batch := sortByKey JournalRow.ordinal group
  let firstSeq ← okOr .storeCorrupt (batch.head?.map JournalRow.seq)
  ensure .storeCorrupt (batch.zipIdx.all fun entry => entry.1.seq == min (firstSeq + entry.2) (2 ^ 64 - 1))
  return (firstSeq, batch)

/-- mirrors evertrace-store/src/projections.rs:11417-11446 -/
def orderedCommandBatches (rows : List JournalRow) : Except StoreError (List (List JournalRow)) := do
  validateJournalRows H C rows
  let batches ← (commandGroups rows).mapM commandBatch
  return (sortByKey Prod.fst batches).map Prod.snd

end Rows

/-! ## Preparing, and preparing again -/

section Laws

variable {π : Type} {H : Sha256} {C : PayloadCodec π} {command : JournalCommand π} {prepared : PreparedCommand π}

theorem prepareEvent_ok {commandId : CommandId} {draft : JournalEventDraft π} {index : Nat} {event : PreparedEvent π}
    (h : prepareEvent H C commandId draft index = .ok event) :
    event.ordinal = index ∧ event.draft = draft ∧ C.canonicalJson draft.payload = .ok event.payloadJson ∧
      ∃ hash, eventHash H commandId index = .ok hash ∧ event.eventId = hex hash := by
  unfold prepareEvent at h
  obtain ⟨-, h⟩ := ensure_bind_ok.mp h
  obtain ⟨hash, hhash, h⟩ := bind_eq_ok.mp h
  obtain ⟨contentHash, -, h⟩ := bind_eq_ok.mp h
  obtain ⟨json, hjson, h⟩ := bind_eq_ok.mp h
  cases h
  exact ⟨rfl, rfl, hjson, hash, hhash, rfl⟩

/-- What preparing a command establishes of its events. -/
structure Prepares (H : Sha256) (C : PayloadCodec π) (command : JournalCommand π) (prepared : PreparedCommand π) :
    Prop where
  commandId : prepared.commandId = command.commandId
  eventCount : prepared.eventCount = command.events.length
  nonempty : prepared.eventCount ≠ 0
  bounded : prepared.eventCount < 65536
  drafts : prepared.events.map PreparedEvent.draft = command.events
  event : ∀ {i : Nat} {event : PreparedEvent π}, prepared.events[i]? = some event → event.ordinal = i ∧
    C.canonicalJson event.draft.payload = .ok event.payloadJson ∧
      ∃ hash, eventHash H prepared.commandId i = .ok hash ∧ event.eventId = hex hash

theorem prepareCommand_ok (h : prepareCommand H C command = .ok prepared) : Prepares H C command prepared := by
  unfold prepareCommand at h
  obtain ⟨hlt, h⟩ := ensure_bind_ok.mp h
  obtain ⟨hne, h⟩ := ensure_bind_ok.mp h
  obtain ⟨-, -, h⟩ := bind_eq_ok.mp h
  obtain ⟨-, -, h⟩ := bind_eq_ok.mp h
  obtain ⟨hash, -, h⟩ := bind_eq_ok.mp h
  obtain ⟨events, hevents, h⟩ := bind_eq_ok.mp h
  cases h
  have hdraft := map_mapM_ok (g := PreparedEvent.draft) (k := Prod.fst) hevents
    fun entry _ event hok => (prepareEvent_ok hok).2.1
  have hordinal := map_mapM_ok (g := PreparedEvent.ordinal) (k := Prod.snd) hevents
    fun entry _ event hok => (prepareEvent_ok hok).1
  refine ⟨rfl, rfl, of_decide_eq_true hne, of_decide_eq_true hlt, ?_, fun {i event} hget => ?_⟩
  · rw [hdraft, List.zipIdx_map_fst]
  · have hi : event.ordinal = i := by
      have hmap : (events.map PreparedEvent.ordinal)[i]? = some event.ordinal := by rw [List.getElem?_map, hget]; rfl
      rw [hordinal, List.getElem?_map, List.getElem?_zipIdx, Option.map_map] at hmap
      obtain ⟨_, -, heq⟩ := Option.map_eq_some_iff.mp hmap
      simpa using heq.symm
    obtain ⟨entry, -, hok⟩ := (mem_mapM_ok hevents).mp (List.mem_of_getElem? hget)
    obtain ⟨ho, hdr, hjson, hid⟩ := prepareEvent_ok hok
    rw [← ho, hi] at hid
    rw [hdr]
    exact ⟨hi, hjson, hid⟩

theorem Prepares.length_events (h : Prepares H C command prepared) : prepared.events.length = prepared.eventCount := by
  rw [h.eventCount, ← h.drafts, List.length_map]

/-! ### The rows of a prepared command -/

def PreparedCommand.rows (prepared : PreparedCommand π) (firstSeq : Nat) (ingestedAtUs : Int) : List JournalRow :=
  prepared.events.zipIdx.map fun entry => rowFromPrepared prepared entry.1 (firstSeq + entry.2) ingestedAtUs

variable {firstSeq : Nat} {ingestedAtUs : Int}

theorem rowsForAppend_ok {rows : List JournalRow} (h : rowsForAppend prepared firstSeq ingestedAtUs = .ok rows) :
    rows = prepared.rows firstSeq ingestedAtUs := by
  unfold rowsForAppend at h
  obtain ⟨-, h⟩ := ensure_bind_ok.mp h
  have hmap := map_mapM_ok (g := id)
    (k := fun entry => rowFromPrepared prepared entry.1 (firstSeq + entry.2) ingestedAtUs) h
    fun entry _ row hok => by
      obtain ⟨-, hok⟩ := ensure_bind_ok.mp hok
      exact (pure_eq_ok.mp hok).symm
  rwa [List.map_id] at hmap

@[simp] theorem PreparedCommand.length_rows : (prepared.rows firstSeq ingestedAtUs).length = prepared.events.length := by
  simp [rows]

theorem PreparedCommand.getElem?_rows (i : Nat) : (prepared.rows firstSeq ingestedAtUs)[i]? =
    prepared.events[i]?.map fun event => rowFromPrepared prepared event (firstSeq + i) ingestedAtUs := by
  simp [rows, List.getElem?_zipIdx, Function.comp_def]

/-- A row stands at its place and is made from the event of that place. -/
theorem PreparedCommand.row_at {row : JournalRow} {i : Nat} (h : (prepared.rows firstSeq ingestedAtUs)[i]? = some row) :
    ∃ event, prepared.events[i]? = some event ∧ row = rowFromPrepared prepared event (firstSeq + i) ingestedAtUs := by
  rw [getElem?_rows] at h
  obtain ⟨event, hevent, rfl⟩ := Option.map_eq_some_iff.mp h
  exact ⟨event, hevent, rfl⟩

theorem PreparedCommand.mem_rows {row : JournalRow} (h : row ∈ prepared.rows firstSeq ingestedAtUs) :
    ∃ i event, prepared.events[i]? = some event ∧ row = rowFromPrepared prepared event (firstSeq + i) ingestedAtUs := by
  obtain ⟨i, hi⟩ := List.mem_iff_getElem?.mp h
  obtain ⟨event, hevent, hrow⟩ := row_at hi
  exact ⟨i, event, hevent, hrow⟩

theorem PreparedCommand.commandId_of_mem {row : JournalRow} (h : row ∈ prepared.rows firstSeq ingestedAtUs) :
    row.commandId = prepared.commandId := by
  obtain ⟨i, event, -, rfl⟩ := mem_rows h
  rfl

theorem PreparedCommand.seq_mem {row : JournalRow} (h : row ∈ prepared.rows firstSeq ingestedAtUs) :
    firstSeq ≤ row.seq ∧ row.seq < firstSeq + prepared.events.length := by
  obtain ⟨i, event, hevent, rfl⟩ := mem_rows h
  have hi := (List.getElem?_eq_some_iff.mp hevent).1
  show firstSeq ≤ firstSeq + i ∧ firstSeq + i < _
  omega

/-- Sequence numbers rise along the rows. -/
theorem PreparedCommand.rows_pairwise : (prepared.rows firstSeq ingestedAtUs).Pairwise (fun a b => a.seq < b.seq) := by
  refine List.pairwise_iff_getElem.mpr fun i j hi hj hij => ?_
  have hrow : ∀ k (hk : k < (prepared.rows firstSeq ingestedAtUs).length),
      ((prepared.rows firstSeq ingestedAtUs)[k]).seq = firstSeq + k := by
    intro k hk
    obtain ⟨event, -, heq⟩ := row_at (List.getElem?_eq_getElem hk)
    rw [heq]
    rfl
  rw [hrow i hi, hrow j hj]
  omega

/-- So do the ordinals. -/
theorem Prepares.ordinals_pairwise (h : Prepares H C command prepared) :
    (prepared.rows firstSeq ingestedAtUs).Pairwise (fun a b => a.ordinal < b.ordinal) := by
  refine List.pairwise_iff_getElem.mpr fun i j hi hj hij => ?_
  have hrow : ∀ k (hk : k < (prepared.rows firstSeq ingestedAtUs).length),
      ((prepared.rows firstSeq ingestedAtUs)[k]).ordinal = k := by
    intro k hk
    obtain ⟨event, hevent, heq⟩ := PreparedCommand.row_at (List.getElem?_eq_getElem hk)
    rw [heq]
    exact (h.event hevent).1
  rw [hrow i hi, hrow j hj]
  exact hij

theorem Prepares.sort_rows (h : Prepares H C command prepared) :
    sortByKey JournalRow.ordinal (prepared.rows firstSeq ingestedAtUs) = prepared.rows firstSeq ingestedAtUs :=
  sortByKey_self (h.ordinals_pairwise.imp Nat.le_of_lt)

theorem Prepares.rows_ne_nil (h : Prepares H C command prepared) : prepared.rows firstSeq ingestedAtUs ≠ [] := by
  intro hnil
  have hlen : (prepared.rows firstSeq ingestedAtUs).length = prepared.eventCount := by
    rw [PreparedCommand.length_rows, h.length_events]
  rw [hnil] at hlen
  exact h.nonempty hlen.symm

theorem Prepares.decode (h : Prepares H C command prepared) (hC : C.Faithful) :
    (prepared.rows firstSeq ingestedAtUs).mapM (JournalRow.draft C) = .ok command.events := by
  unfold PreparedCommand.rows
  rw [List.mapM_map, mapM_ok_of_forall (g := fun entry => entry.1.draft), ← h.drafts]
  · rw [← List.zipIdx_map_fst 0 prepared.events, List.map_map]
    simp [Function.comp_def]
  · intro entry hentry
    have hjson := (h.event (List.mem_zipIdx_iff_getElem?.mp hentry)).2.1
    show JournalRow.draft C (rowFromPrepared prepared entry.1 _ _) = _
    simp only [JournalRow.draft, rowFromPrepared, hC _ _ hjson, ensure, Option.isSome_none, Bool.or_self, Bool.not_false,
      if_true, ok_bind]
    rfl

/-- **Rows are read back as the command they were written for.** -/
theorem validate_rows (hC : C.Faithful) (h : prepareCommand H C command = .ok prepared) :
    validateCompleteCommandRefs H C (prepared.rows firstSeq ingestedAtUs) =
      .ok (prepared.rows firstSeq ingestedAtUs) := by
  have hp := prepareCommand_ok h
  generalize hrows : prepared.rows firstSeq ingestedAtUs = rows
  have hmem : ∀ row ∈ rows, row.commandId = prepared.commandId ∧ row.commandEventCount = prepared.eventCount ∧
      row.commandHash = prepared.commandHash ∧ row.payloadSchema = journalPayloadSchema := by
    intro row hrow
    obtain ⟨i, event, -, rfl⟩ := PreparedCommand.mem_rows (hrows ▸ hrow)
    exact ⟨rfl, rfl, rfl, rfl⟩
  have hlen : rows.length = prepared.eventCount := by rw [← hrows, PreparedCommand.length_rows, hp.length_events]
  obtain ⟨first, hfirst⟩ : ∃ first, rows.head? = some first :=
    Option.isSome_iff_exists.mp (List.isSome_head?.mpr (hrows ▸ hp.rows_ne_nil))
  obtain ⟨hid, hcount, -, -⟩ := hmem first (List.mem_of_mem_head? hfirst)
  have hordered : rows.zipIdx.all (fun entry => entry.1.commandId == first.commandId &&
      entry.1.commandEventCount == first.commandEventCount && entry.1.ordinal == entry.2 &&
      entry.1.payloadSchema == journalPayloadSchema) = true := by
    refine List.all_eq_true.mpr fun entry hentry => ?_
    have hget := List.mem_zipIdx_iff_getElem?.mp hentry
    obtain ⟨hid', hcount', -, hschema⟩ := hmem entry.1 (List.mem_of_getElem? hget)
    obtain ⟨event, hevent, hrow⟩ := PreparedCommand.row_at (hrows ▸ hget)
    have hordinal : entry.1.ordinal = entry.2 := by rw [hrow]; exact (hp.event hevent).1
    simp [hid', hid, hcount', hcount, hordinal, hschema]
  have hnew : JournalCommand.new first.commandId command.events = .ok command := by
    have hbound : command.events.isEmpty = false := by
      rw [List.isEmpty_eq_false_iff]
      intro hnil
      exact hp.nonempty (by rw [hp.eventCount, hnil]; rfl)
    have hle : ¬ 65536 ≤ command.events.length := by
      have := hp.bounded
      have := hp.eventCount
      omega
    rw [hid, hp.commandId, JournalCommand.new, hbound, decide_eq_false hle]
    rfl
  have hhash : rows.all (fun row => row.commandHash == prepared.commandHash) = true :=
    List.all_eq_true.mpr fun row hrow => beq_iff_eq.mpr (hmem row hrow).2.2.1
  have hagree : (rows.zip prepared.events).all (fun entry => entry.1.agrees entry.2) = true := by
    refine List.all_eq_true.mpr fun entry hentry => ?_
    obtain ⟨i, hi⟩ := List.mem_iff_getElem?.mp hentry
    obtain ⟨hrow, hevent⟩ := List.getElem?_zip_eq_some.mp hi
    obtain ⟨event, hevent', heq⟩ := PreparedCommand.row_at (hrows ▸ hrow)
    cases Option.some.inj (hevent.symm.trans hevent')
    rw [heq]
    simp [JournalRow.agrees, rowFromPrepared]
  have hne : (first.commandEventCount != 0 && rows.length == first.commandEventCount) = true := by
    rw [hcount, hlen]
    simpa using hp.nonempty
  have hsort : sortByKey JournalRow.ordinal rows = rows := by
    rw [← hrows]
    exact hp.sort_rows
  have hdecode : rows.mapM (JournalRow.draft C) = .ok command.events := by
    rw [← hrows]
    exact hp.decode hC
  unfold validateCompleteCommandRefs
  simp only [hfirst, okOr, ok_bind, hsort, hne, hordered, hdecode, hnew, h, hhash, hagree, ensure, if_true]
  rfl

end Laws

end EverTrace.L2.Journal
