import EverTrace.Lib.CommandLog
import EverTrace.L2Machine.JournalStore
/-!
# The journal as a log of commands

The rows of the table are those of the committed commands, one block after the
other in the order of commit (`Journals`). A commit either finds its command in
the log and answers with the receipt of then, or puts it behind the others, or
changes nothing (`Commits`); that is a step of the idempotent log of
`Lib/CommandLog`, whatever fails around it.

* `commitInner_commits`: one commit is such a step, and the writer keeps its frontier.
-/
namespace EverTrace.L2.Journal
open EverTrace.Lib EverTrace.Lib.Transaction EverTrace.L1

variable {π Γ α : Type} {H : Sha256} {C : PayloadCodec π} {A : Admission π Γ α}

/-! ## The log -/

/-- A command that is in the journal. -/
structure Committed (H : Sha256) (C : PayloadCodec π) where
  command : JournalCommand π
  prepared : PreparedCommand π
  prepares : prepareCommand H C command = .ok prepared
  firstSeq : Nat
  ingestedAtUs : Int

/-- What a client keeps of an answer. -/
structure Receipt where
  firstSeq : Nat
  lastSeq : Nat
  eventIds : List String

def CommitOutcome.receipt (o : CommitOutcome) : Receipt := ⟨o.firstSeq, o.lastSeq, o.eventIds⟩

/-- What a command says, as far as the journal tells commands apart: its hash and the number of its events. -/
abbrev Content := Option (Digest × Nat)

def contentOf (H : Sha256) (C : PayloadCodec π) (command : JournalCommand π) : Content :=
  (prepareCommand H C command).toOption.map fun prepared => (prepared.commandHash, prepared.eventCount)

namespace Committed

variable (c : Committed H C)

def id : CommandId := c.command.commandId

def rows : List JournalRow := c.prepared.rows c.firstSeq c.ingestedAtUs

def lastSeq : Nat := c.firstSeq + (c.prepared.eventCount - 1)

def outcome (replayed : Bool) : CommitOutcome where
  commandId := c.id
  firstSeq := c.firstSeq
  lastSeq := c.lastSeq
  eventIds := c.prepared.events.map PreparedEvent.eventId
  replayed := replayed

def entry : CommandLog.Entry CommandId Content Receipt :=
  ⟨c.id, contentOf H C c.command, (c.outcome false).receipt⟩

theorem prepared_id : c.prepared.commandId = c.id := (prepareCommand_ok c.prepares).commandId

theorem content : contentOf H C c.command = some (c.prepared.commandHash, c.prepared.eventCount) := by
  rw [contentOf, c.prepares]
  rfl

theorem rows_ne_nil : c.rows ≠ [] := (prepareCommand_ok c.prepares).rows_ne_nil

theorem length_rows : c.rows.length = c.prepared.eventCount := by
  rw [rows, PreparedCommand.length_rows, (prepareCommand_ok c.prepares).length_events]

theorem count_pos : 0 < c.prepared.eventCount := Nat.pos_of_ne_zero (prepareCommand_ok c.prepares).nonempty

theorem commandId_of_mem {row : JournalRow} (h : row ∈ c.rows) : row.commandId = c.id := by
  rw [PreparedCommand.commandId_of_mem h, c.prepared_id]

theorem seq_of_mem {row : JournalRow} (h : row ∈ c.rows) : c.firstSeq ≤ row.seq ∧ row.seq ≤ c.lastSeq := by
  have hseq := PreparedCommand.seq_mem h
  have hlen := (prepareCommand_ok c.prepares).length_events
  have hpos := c.count_pos
  unfold lastSeq
  omega

theorem getElem?_seq {i : Nat} {row : JournalRow} (h : c.rows[i]? = some row) : row.seq = c.firstSeq + i := by
  obtain ⟨event, -, rfl⟩ := PreparedCommand.row_at h
  rfl

theorem head_seq {row : JournalRow} (h : c.rows.head? = some row) : row.seq = c.firstSeq := by
  rw [List.head?_eq_getElem?] at h
  exact c.getElem?_seq h

theorem getLast_seq {row : JournalRow} (h : c.rows.getLast? = some row) : row.seq = c.lastSeq := by
  rw [List.getLast?_eq_getElem?] at h
  rw [c.getElem?_seq h, c.length_rows, lastSeq]

theorem eventIds_rows : c.rows.map JournalRow.eventId = c.prepared.events.map PreparedEvent.eventId := by
  unfold rows PreparedCommand.rows
  rw [List.map_map, ← List.zipIdx_map_fst 0 c.prepared.events, List.map_map]
  simp [Function.comp_def, rowFromPrepared]

theorem rows_ordered : c.rows.Pairwise fun a b => a.seq < b.seq := PreparedCommand.rows_pairwise

end Committed

/-! ### Reading one command back -/

/-- The rows of a command answer a command with its id: with the receipt of then, if it says the same. -/
theorem replay_rows (hC : C.Faithful) (c : Committed H C) {command : JournalCommand π} {prepared : PreparedCommand π}
    (hp : prepareCommand H C command = .ok prepared) (hid : command.commandId = c.id) {found : Option CommitOutcome}
    (h : replayOutcome H C c.rows prepared = .ok found) :
    found = some (c.outcome true) ∧ contentOf H C command = contentOf H C c.command := by
  unfold replayOutcome at h
  rw [if_neg (by simpa using c.rows_ne_nil), show c.rows = c.prepared.rows c.firstSeq c.ingestedAtUs from rfl,
    validate_rows hC c.prepares, ok_bind] at h
  obtain ⟨hhash, h⟩ := ensure_bind_ok.mp h
  obtain ⟨hcount, h⟩ := ensure_bind_ok.mp h
  obtain ⟨-, h⟩ := ensure_bind_ok.mp h
  obtain ⟨-, h⟩ := ensure_bind_ok.mp h
  obtain ⟨first, hfirst, h⟩ := bind_eq_ok.mp h
  obtain ⟨last, hlast, h⟩ := bind_eq_ok.mp h
  rw [okOr_ok] at hfirst hlast
  cases h
  have hsame : c.prepared.commandHash = prepared.commandHash := by
    have hrow := List.all_eq_true.mp hhash first (List.mem_of_mem_head? hfirst)
    obtain ⟨i, event, -, rfl⟩ := PreparedCommand.mem_rows (List.mem_of_mem_head? hfirst)
    exact beq_iff_eq.mp hrow
  have hlen : c.prepared.eventCount = prepared.eventCount := by
    rw [← c.length_rows]
    exact beq_iff_eq.mp hcount
  refine ⟨?_, ?_⟩
  · rw [c.head_seq hfirst, c.getLast_seq hlast]
    show some (CommitOutcome.mk prepared.commandId _ _ (c.rows.map JournalRow.eventId) true) = _
    rw [c.eventIds_rows, (prepareCommand_ok hp).commandId, hid]
    rfl
  · rw [c.content, contentOf, hp, hsame, hlen]
    rfl

/-- The ids of the events depend on the command's id and their number alone. -/
theorem eventId_eq {c : Committed H C} {command : JournalCommand π} {prepared : PreparedCommand π}
    (hp : prepareCommand H C command = .ok prepared) (hid : command.commandId = c.id) {i : Nat}
    {event stored : PreparedEvent π} (hevent : prepared.events[i]? = some event)
    (hstored : c.prepared.events[i]? = some stored) : stored.eventId = event.eventId := by
  obtain ⟨-, -, hash, hhash, heq⟩ := (prepareCommand_ok hp).event hevent
  obtain ⟨-, -, hash', hhash', heq'⟩ := (prepareCommand_ok c.prepares).event hstored
  rw [(prepareCommand_ok hp).commandId, hid] at hhash
  rw [c.prepared_id, hhash] at hhash'
  cases hhash'
  rw [heq, heq']

theorem replay_again (hC : C.Faithful) (c : Committed H C) {command : JournalCommand π} {prepared : PreparedCommand π}
    (hp : prepareCommand H C command = .ok prepared) (hid : command.commandId = c.id)
    (hcontent : contentOf H C command = contentOf H C c.command) :
    replayOutcome H C c.rows prepared = .ok (some (c.outcome true)) := by
  obtain ⟨hhash, hcount⟩ : prepared.commandHash = c.prepared.commandHash ∧
      prepared.eventCount = c.prepared.eventCount := by
    rw [c.content, contentOf, hp] at hcontent
    exact Prod.mk.inj (Option.some.inj hcontent)
  have hat : ∀ entry ∈ c.rows.zipIdx, ∃ event, c.prepared.events[entry.2]? = some event ∧
      entry.1 = rowFromPrepared c.prepared event (c.firstSeq + entry.2) c.ingestedAtUs :=
    fun entry hentry => PreparedCommand.row_at (List.mem_zipIdx_iff_getElem?.mp hentry)
  have hhashes : c.rows.all (fun row => row.commandHash == prepared.commandHash) = true := by
    refine List.all_eq_true.mpr fun row hrow => ?_
    obtain ⟨i, event, -, rfl⟩ := PreparedCommand.mem_rows hrow
    rw [hhash]
    exact beq_self_eq_true _
  have hplace : c.rows.zipIdx.all (fun entry => entry.1.ordinal == entry.2 &&
      entry.1.commandEventCount == c.prepared.eventCount) = true := by
    refine List.all_eq_true.mpr fun entry hentry => ?_
    obtain ⟨event, hevent, hrow⟩ := hat entry hentry
    have hordinal := ((prepareCommand_ok c.prepares).event hevent).1
    rw [hrow]
    simp [rowFromPrepared, hordinal]
  have hids : (c.rows.zip prepared.events).all (fun entry => entry.1.eventId == entry.2.eventId) = true := by
    refine List.all_eq_true.mpr fun entry hentry => ?_
    obtain ⟨i, hi⟩ := List.mem_iff_getElem?.mp hentry
    obtain ⟨hrow, hevent⟩ := List.getElem?_zip_eq_some.mp hi
    obtain ⟨stored, hstored, heq⟩ := PreparedCommand.row_at hrow
    rw [heq]
    exact beq_iff_eq.mpr (eventId_eq hp hid hevent hstored)
  obtain ⟨first, hfirst⟩ := Option.isSome_iff_exists.mp (List.isSome_head?.mpr c.rows_ne_nil)
  obtain ⟨last, hlast⟩ := Option.isSome_iff_exists.mp (List.getLast?_isSome.mpr c.rows_ne_nil)
  have hvalid : validateCompleteCommandRefs H C c.rows = .ok c.rows := validate_rows hC c.prepares
  unfold replayOutcome
  rw [if_neg (by simpa using c.rows_ne_nil)]
  simp only [hvalid, ok_bind, hhashes, hcount, hplace, hids, c.length_rows, beq_self_eq_true, ensure, if_true, okOr,
    hfirst, hlast, c.head_seq hfirst, c.getLast_seq hlast, c.eventIds_rows, (prepareCommand_ok hp).commandId, hid]
  rfl

/-! ## The table -/

def tableOf (log : List (Committed H C)) : List JournalRow := log.flatMap Committed.rows

/-- The table holds the rows of the log. -/
structure Journals (table : List JournalRow) (log : List (Committed H C)) : Prop where
  rows : table = tableOf log
  distinct : CommandLog.Distinct (log.map Committed.entry)
  ordered : table.Pairwise fun a b => a.seq < b.seq
  room : ∀ c ∈ log, c.lastSeq < 2 ^ 64
  positive : ∀ row ∈ table, 0 < row.seq

namespace Journals

variable {table : List JournalRow} {log : List (Committed H C)}

theorem nil : Journals [] ([] : List (Committed H C)) :=
  ⟨rfl, List.nodup_nil, .nil, fun _ hc => (by cases hc), fun _ hrow => (by cases hrow)⟩

theorem ids (h : Journals table log) : (log.map Committed.id).Nodup := by
  have hd := h.distinct
  rw [CommandLog.Distinct, List.map_map] at hd
  exact hd

theorem blocks (h : Journals table log) : Blocks JournalRow.commandId Committed.rows Committed.id log where
  named c _ _ hrow := c.commandId_of_mem hrow
  distinct := h.ids
  nonempty c _ := c.rows_ne_nil

theorem select_all (h : Journals table log) : selectAllRows table = table :=
  sortByKey_self (h.ordered.imp Nat.le_of_lt)

theorem select_command (h : Journals table log) {c : Committed H C} (hc : c ∈ log) :
    selectCommandRows c.id table = c.rows := by
  unfold selectCommandRows
  rw [h.rows, tableOf, h.blocks.filter hc]
  exact sortByKey_self (c.rows_ordered.imp Nat.le_of_lt)

theorem select_fresh (h : Journals table log) {id : CommandId} (hid : ∀ c ∈ log, c.id ≠ id) :
    selectCommandRows id table = [] := by
  have hno : id ∉ log.map Committed.id := fun hmem => by
    obtain ⟨c, hc, heq⟩ := List.mem_map.mp hmem
    exact hid c hc heq
  unfold selectCommandRows
  rw [h.rows, tableOf, filter_flatMap_of_notMem h.blocks.named hno]
  rfl

theorem frontier_eq (h : Journals table log) : persistedFrontier table = (table.getLast?.map JournalRow.seq).getD 0 := by
  rw [persistedFrontier, h.select_all]

/-- The frontier is the last sequence number. -/
theorem seq_le (h : Journals table log) {row : JournalRow} (hrow : row ∈ table) : row.seq ≤ persistedFrontier table := by
  rw [h.frontier_eq]
  obtain ⟨last, hlast⟩ := Option.isSome_iff_exists.mp (List.getLast?_isSome.mpr (List.ne_nil_of_mem hrow))
  rw [hlast]
  show row.seq ≤ last.seq
  have hsplit := List.dropLast_append_getLast? last hlast
  have hordered := h.ordered
  rw [← hsplit] at hrow hordered
  rcases List.mem_append.mp hrow with hrow | hrow
  · exact Nat.le_of_lt ((List.pairwise_append.mp hordered).2.2 row hrow last (List.mem_singleton.mpr rfl))
  · rw [List.mem_singleton.mp hrow]

theorem concat (h : Journals table log) {c : Committed H C} (fresh : ∀ c' ∈ log, c'.id ≠ c.id)
    (hseq : persistedFrontier table < c.firstSeq) (hroom : c.lastSeq < 2 ^ 64) : Journals (table ++ c.rows) (log ++ [c]) where
  rows := by rw [h.rows, tableOf, tableOf, List.flatMap_append, List.flatMap_singleton]
  distinct := by
    rw [List.map_append]
    refine h.distinct.concat fun e he => ?_
    obtain ⟨c', hc', rfl⟩ := List.mem_map.mp he
    exact fresh c' hc'
  ordered := by
    refine List.pairwise_append.mpr ⟨h.ordered, c.rows_ordered, fun a ha b hb => ?_⟩
    have hle := h.seq_le ha
    have hfirst := (c.seq_of_mem hb).1
    omega
  room c' hc' := by
    rcases List.mem_append.mp hc' with hc' | hc'
    · exact h.room c' hc'
    · rw [List.mem_singleton.mp hc']
      exact hroom
  positive row hrow := by
    rcases List.mem_append.mp hrow with hrow | hrow
    · exact h.positive row hrow
    · have hfirst := (c.seq_of_mem hrow).1
      omega

/-- A command that was committed earlier has smaller sequence numbers. -/
theorem firstSeq_pairwise (h : Journals table log) : log.Pairwise fun a b => a.firstSeq < b.firstSeq := by
  have hordered := h.ordered
  rw [h.rows, tableOf, List.pairwise_flatMap] at hordered
  refine hordered.2.imp fun {a b} hlt => ?_
  obtain ⟨first, hfirst⟩ := Option.isSome_iff_exists.mp (List.isSome_head?.mpr a.rows_ne_nil)
  obtain ⟨next, hnext⟩ := Option.isSome_iff_exists.mp (List.isSome_head?.mpr b.rows_ne_nil)
  rw [← a.head_seq hfirst, ← b.head_seq hnext]
  exact hlt first (List.mem_of_mem_head? hfirst) next (List.mem_of_mem_head? hnext)

theorem frontier_concat {c : Committed H C} {log' : List (Committed H C)} (h : Journals (table ++ c.rows) log') :
    persistedFrontier (table ++ c.rows) = c.lastSeq := by
  obtain ⟨last, hlast⟩ := Option.isSome_iff_exists.mp (List.getLast?_isSome.mpr c.rows_ne_nil)
  rw [h.frontier_eq, List.getLast?_append, hlast]
  exact c.getLast_seq hlast

end Journals

/-! ## One commit -/

/-- What one commit may do to the log, and what it answers. -/
inductive Commits (log : List (Committed H C)) (command : JournalCommand π) (condition : Option (CommitCondition Γ)) :
    Except StoreError CommitOutcome → List (Committed H C) → Prop where
  /-- The command is new and was written; the answer may be lost. -/
  | appended {c r} (said : c.command = command) (fresh : ∀ c' ∈ log, c'.id ≠ c.id)
      (guarded : ∀ n, condition = some (.frontier n) → persistedFrontier (tableOf log) = n)
      (behind : persistedFrontier (tableOf log) < c.firstSeq) (answer : ∀ o, r = .ok o → o = c.outcome false) :
      Commits log command condition r (log ++ [c])
  /-- The command was written before. -/
  | replayed {c} (mem : c ∈ log) (same : c.id = command.commandId) (content : contentOf H C command = contentOf H C c.command) :
      Commits log command condition (.ok (c.outcome true)) log
  | refused {e} : Commits log command condition (.error e) log

/-- The writer and the table agree. -/
structure Writes (log : List (Committed H C)) (s : Store α) : Prop where
  journal : Journals s.file.contents log
  below : persistedFrontier s.file.contents < s.writer.nextSeq
  frontier : s.writer.sqlite.handle.poisoned = false → s.writer.sqlite.frontier = persistedFrontier s.file.contents

section Steps

variable {log : List (Committed H C)} {command : JournalCommand π} {prepared : PreparedCommand π}
  {condition : Option (CommitCondition Γ)} {f : CommitFaults} {ingestedAtUs : Int}

theorem Writes.setHandle {s : Store α} (h : Writes log s) {handle : Handle}
    (hh : handle = s.writer.sqlite.handle ∨ handle.poisoned = true) : Writes log (s.setHandle handle) where
  journal := h.journal
  below := h.below
  frontier hlive := by
    rcases hh with rfl | hp
    · exact h.frontier hlive
    · rw [show handle.poisoned = false from hlive] at hp
      cases hp

def Ready (log : List (Committed H C)) (s : Store α) : Prop := Writes log s ∧ Current s.file s.writer.sqlite.handle

theorem physicalStamp_spec (fails : Option StoreError) :
    Command.Triple (Writes log) (physicalStamp fails : Command (Store α) StoreError Nat)
      (fun n s => Ready log s ∧ n = persistedFrontier (tableOf log)) (Writes log) := by
  intro s hs
  unfold physicalStamp
  cases henter : enter storeErrors fails s.file s.writer.sqlite.handle with
  | mk r handle =>
    cases r with
    | error e => exact hs.setHandle (enter_error henter)
    | ok _ =>
      have hcurrent := enter_ok henter
      have hwrites : Writes log (s.setHandle handle) := ⟨hs.journal, hs.below, fun _ => hs.frontier (enter_live henter)⟩
      exact ⟨⟨hwrites, hcurrent⟩, (hwrites.frontier hcurrent.live).trans (by rw [← hs.journal.rows]; rfl)⟩

theorem existingCommandRows_spec (fails : Option StoreError) (id : CommandId) :
    Command.Triple (Ready log) (existingCommandRows fails id : Command (Store α) StoreError (List JournalRow))
      (fun rows s => Ready log s ∧ rows = selectCommandRows id (tableOf log)) (Writes log) := by
  intro s hs
  unfold existingCommandRows
  split
  · next heq =>
    obtain ⟨hquery, rfl⟩ := Prod.mk.inj heq
    refine ⟨hs, ?_⟩
    rw [← hs.1.journal.rows]
    exact (Except.ok.inj (query_ok hquery).2).symm
  · next heq =>
    obtain ⟨-, rfl⟩ := Prod.mk.inj heq
    exact hs.1

/-- Sequence numbers are set aside for the command. -/
structure Reserved (log : List (Committed H C)) (c : Committed H C) (s : Store α) : Prop where
  journal : Journals s.file.contents log
  frontier : s.writer.sqlite.frontier = persistedFrontier s.file.contents
  before : persistedFrontier s.file.contents < c.firstSeq
  room : c.lastSeq < s.writer.nextSeq
  limit : c.lastSeq < 2 ^ 64

theorem Reserved.writes {c : Committed H C} {s : Store α} (h : Reserved log c s) {handle : Handle} :
    Writes log (s.setHandle handle) where
  journal := h.journal
  below := by
    have hpos := h.before
    have hroom := h.room
    show persistedFrontier s.file.contents < s.writer.nextSeq
    unfold Committed.lastSeq at hroom
    omega
  frontier _ := h.frontier

theorem reserve_spec {c : Committed H C} {count : Nat} (hcount : count = c.prepared.eventCount) (first : Nat) :
    Command.Triple (fun s => Ready log s ∧ s.writer.nextSeq = first) (reserve count : Command (Store α) StoreError Nat)
      (fun n s => n = first ∧ (c.firstSeq = first → Reserved log c s)) (Writes log) := by
  rintro s ⟨⟨hs, hcurrent⟩, hfirst⟩
  unfold reserve reserveRange
  subst hcount
  by_cases hroom : s.writer.nextSeq + c.prepared.eventCount < 2 ^ 64
  · rw [decide_eq_true hroom, decide_eq_true (show c.prepared.eventCount ≠ 0 by have := c.count_pos; omega)]
    have hpos := c.count_pos
    refine ⟨hfirst, fun hc => ⟨hs.journal, hs.frontier hcurrent.live, ?_, ?_, ?_⟩⟩
    · rw [hc, ← hfirst]
      exact hs.below
    · show c.lastSeq < s.writer.nextSeq + c.prepared.eventCount
      rw [Committed.lastSeq, hc, ← hfirst]
      omega
    · rw [Committed.lastSeq, hc, ← hfirst]
      omega
  · rw [decide_eq_false hroom, decide_eq_true (show c.prepared.eventCount ≠ 0 by have := c.count_pos; omega)]
    exact hs

theorem insertEvents_ok : ∀ {rows table table' : List JournalRow}, rows.foldlM insertEvent table = .ok table' →
    table' = table ++ rows := by
  intro rows
  induction rows with
  | nil =>
    intro table table' h
    cases h
    exact (List.append_nil table).symm
  | cons row rest ih =>
    intro table table' h
    rw [List.foldlM_cons] at h
    obtain ⟨mid, hmid, h⟩ := bind_eq_ok.mp h
    unfold insertEvent at hmid
    obtain ⟨-, hmid⟩ := ensure_bind_ok.mp hmid
    cases hmid
    rw [ih h, List.append_assoc]
    rfl

/-- The command is written whole or not at all; if that is uncertain, the writer is closed. -/
theorem appendCommandRows_spec {c : Committed H C} {faults : Faults (List JournalRow) StoreError}
    (hbefore : faults.foreignBefore = .none) (hafter : faults.foreignAfter = .none) (fresh : ∀ c' ∈ log, c'.id ≠ c.id) :
    Command.Triple (Reserved log c) (appendCommandRows faults c.rows : Command (Store α) StoreError Unit)
      (fun _ => Writes (log ++ [c])) (fun s => Writes log s ∨ Writes (log ++ [c]) s) := by
  intro s hs
  have heffect := transact_effect storeErrors (checkRange c.rows) (insertRows c.rows) s.file s.writer.sqlite.handle
    hbefore hafter
  -- what was written is the table with the rows behind it
  have hwritten : ∀ {contents changed}, insertRows c.rows s.file.contents = .ok (contents, changed) →
      changed = true ∧ contents = s.file.contents ++ c.rows := by
    intro contents changed hrun
    obtain ⟨table, htable, hrun⟩ := bind_eq_ok.mp hrun
    cases hrun
    exact ⟨rfl, insertEvents_ok htable⟩
  have hjournal := hs.journal.concat fresh hs.before hs.limit
  have hfrontier := hjournal.frontier_concat
  unfold appendCommandRows
  generalize transact storeErrors faults (checkRange c.rows) _ s.file s.writer.sqlite.handle = result at heffect ⊢
  obtain ⟨r, file, handle⟩ := result
  dsimp only at heffect ⊢
  cases heffect with
  | failed => exact .inl hs.writes
  | unchanged run => cases (hwritten run).1
  | written run _ =>
    obtain ⟨-, rfl⟩ := hwritten run
    obtain ⟨last, hlast⟩ := Option.isSome_iff_exists.mp (List.getLast?_isSome.mpr c.rows_ne_nil)
    refine ⟨hjournal, ?_, fun _ => ?_⟩
    · show persistedFrontier (s.file.contents ++ c.rows) < s.writer.nextSeq
      rw [hfrontier]
      exact hs.room
    · show (c.rows.getLast?.map JournalRow.seq).getD _ = persistedFrontier (s.file.contents ++ c.rows)
      rw [hlast, hfrontier]
      exact c.getLast_seq hlast
  | uncertain run =>
    obtain ⟨-, rfl⟩ := hwritten run
    refine .inr ⟨hjournal, ?_, fun hlive => (by cases hlive)⟩
    show persistedFrontier (s.file.contents ++ c.rows) < s.writer.nextSeq
    rw [hfrontier]
    exact hs.room

/-- The log after a commit, whatever it answers. -/
def Outcome (log : List (Committed H C)) (command : JournalCommand π) (condition : Option (CommitCondition Γ))
    (r : Except StoreError CommitOutcome) (s : Store α) : Prop :=
  ∃ log', Writes log' s ∧ Commits log command condition r log'

theorem outcome_of_writes {s : Store α} (h : Writes log s) : ∀ e, Outcome log command condition (.error e) s :=
  fun _ => ⟨log, h, .refused⟩

theorem checkCondition_ok {frontier : Nat} {admission : α} {u : Unit}
    (h : checkCondition A condition frontier admission = .ok u) : ∀ n, condition = some (.frontier n) → frontier = n := by
  intro n hn
  subst hn
  exact beq_iff_eq.mp (ensure_ok.mp h)

theorem commitNew_spec (hp : prepareCommand H C command = .ok prepared) (hf : f.Quiet)
    (fresh : ∀ c ∈ log, c.id ≠ command.commandId) {frontier : Nat} (hfrontier : frontier = persistedFrontier (tableOf log)) :
    Command.Triple (Ready log) (commitNew A command prepared ingestedAtUs condition frontier f)
      (fun o => Outcome log command condition (.ok o)) (fun s => ∀ e, Outcome log command condition (.error e) s) := by
  unfold commitNew
  refine Command.Triple.bind_read fun writer => ?_
  refine Command.Triple.bind_lift (fun s hs => outcome_of_writes hs.1.1) fun _ hcondition => ?_
  refine Command.Triple.bind_lift (fun s hs => outcome_of_writes hs.1.1) fun nextAdmission _ => ?_
  -- the command as it will be in the log
  let c : Committed H C := ⟨command, prepared, hp, writer.nextSeq, ingestedAtUs⟩
  have happended : persistedFrontier (tableOf log) < c.firstSeq → ∀ {r} {s : Store α}, Writes (log ++ [c]) s →
      (∀ o, r = .ok o → o = c.outcome false) → Outcome log command condition r s := fun hbehind _ _ hs hr =>
    ⟨_, hs, .appended rfl fresh (fun n hn => hfrontier ▸ checkCondition_ok hcondition n hn) hbehind hr⟩
  refine Command.Triple.bind (Q := fun n s => Reserved log c s ∧
    (n = writer.nextSeq ∧ persistedFrontier (tableOf log) < c.firstSeq)) ?_ fun firstSeq => ?_
  · refine (reserve_spec (c := c) rfl writer.nextSeq).weaken ?_ ?_ fun s hs => outcome_of_writes hs
    · rintro s ⟨hs, rfl⟩
      exact ⟨hs, rfl⟩
    · rintro n s ⟨rfl, hs⟩
      exact ⟨hs rfl, rfl, (hs rfl).journal.rows ▸ (hs rfl).before⟩
  refine Command.Triple.assume fun hfirst => ?_
  obtain ⟨rfl, hbehind⟩ := hfirst
  refine Command.Triple.bind_lift (fun s hs => outcome_of_writes hs.writes) fun rows hrows => ?_
  obtain rfl : rows = c.rows := rowsForAppend_ok hrows
  refine Command.Triple.bind_lift (fun s hs => outcome_of_writes hs.writes) fun last hlast => ?_
  refine Command.Triple.bind_lift (fun s hs => outcome_of_writes hs.writes) fun _ _ => ?_
  refine Command.Triple.bind (Q := fun _ => Reserved log c) (Command.Triple.change fun s hs => ?_) fun _ => ?_
  · rw [hf.1, File.foreign_none]
    exact hs
  refine Command.Triple.bind (Q := fun _ => Writes (log ++ [c])) ?_ fun _ => ?_
  · refine (appendCommandRows_spec hf.2.1 hf.2.2 fresh).weaken (fun _ hs => hs) (fun _ _ hs => hs) ?_
    rintro s (hs | hs)
    · exact outcome_of_writes hs
    · exact fun e => happended hbehind hs fun o ho => by cases ho
  refine Command.Triple.bind_lift (fun s hs e => happended hbehind hs fun o ho => by cases ho) fun _ _ => ?_
  refine Command.Triple.bind (Q := fun _ => Writes (log ++ [c])) (Command.Triple.change fun s hs => ?_) fun _ => ?_
  · exact ⟨hs.journal, hs.below, hs.frontier⟩
  refine Command.Triple.pure fun s hs => happended hbehind hs fun o ho => ?_
  cases ho
  rw [c.getLast_seq (okOr_ok.mp hlast), c.eventIds_rows, c.prepared_id]
  rfl

variable (A command ingestedAtUs condition) in
/-- **One commit is one step of the log**, whatever fails around it, as long as no other connection commits. -/
theorem commitInner_commits (hC : C.Faithful) (hf : f.Quiet) {s : Store α} (hs : Writes log s) :
    Outcome log command condition (commitInner H C A command ingestedAtUs condition f s).1
      (commitInner H C A command ingestedAtUs condition f s).2 := by
  have hspec : Command.Triple (Writes log) (commitInner H C A command ingestedAtUs condition f)
      (fun o => Outcome log command condition (.ok o)) (fun s => ∀ e, Outcome log command condition (.error e) s) := by
    unfold commitInner
    refine Command.Triple.bind_check (fun s hs => outcome_of_writes hs) fun _ => ?_
    refine Command.Triple.bind_lift (fun s hs => outcome_of_writes hs) fun prepared hp => ?_
    refine Command.Triple.bind_check (fun s hs => outcome_of_writes hs) fun _ => ?_
    refine Command.Triple.bind ((physicalStamp_spec f.stamp).weaken (fun _ hs => hs) (fun _ _ hs => hs)
      fun s hs => outcome_of_writes hs) fun frontier => ?_
    refine Command.Triple.assume fun hfrontier => ?_
    refine Command.Triple.bind ((existingCommandRows_spec f.rows prepared.commandId).weaken (fun _ hs => hs)
      (fun _ _ hs => hs) fun s hs => outcome_of_writes hs) fun existing => ?_
    refine Command.Triple.assume fun hexisting => ?_
    refine Command.Triple.bind_lift (fun s hs => outcome_of_writes hs.1) fun found hfound => ?_
    have hid : prepared.commandId = command.commandId := (prepareCommand_ok hp).commandId
    by_cases hmem : ∃ c ∈ log, c.id = command.commandId
    · -- it is in the log: answered from its rows
      obtain ⟨c, hc, hsame⟩ := hmem
      refine fun s hs => ?_
      rw [hexisting, hid, ← hsame, ← hs.1.journal.rows, hs.1.journal.select_command hc] at hfound
      obtain ⟨rfl, hcontent⟩ := replay_rows hC c hp hsame.symm hfound
      exact ⟨log, hs.1, .replayed hc hsame hcontent⟩
    · have fresh : ∀ c ∈ log, c.id ≠ command.commandId := fun c hc heq => hmem ⟨c, hc, heq⟩
      refine fun s hs => ?_
      rw [hexisting, hid, ← hs.1.journal.rows, hs.1.journal.select_fresh fresh] at hfound
      cases hfound
      exact commitNew_spec hp hf fresh hfrontier s hs
  rcases hspec.result hs with ⟨o, ho, hlog⟩ | ⟨e, he, hlog⟩
  · rw [ho]
    exact hlog
  · rw [he]
    exact hlog e

end Steps

end EverTrace.L2.Journal
