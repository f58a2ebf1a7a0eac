import EverTrace.L2Machine.JournalLog
/-!
# Runs of the journal store

A run is any list of commits, restarts and commits of other connections, each
with whatever fails in it. As long as the other connections stay away the run is
one of the idempotent command log:

* `run_refines`: the answers are those of a command log, across faults and restarts.
* `receipts_agree`: a command is written once at most, and acknowledged alike every time.
* `resubmit`: a command that was acknowledged is acknowledged again after any restart.
* `replay_in_order`: a restart reads exactly the committed commands, in the order of commit.
* `landings_increase`: every expected frontier admits one command at most.

When another connection does commit, the open writer is cut off (`foreign_commit_cuts_off`):
it answers nothing but errors and writes nothing until the store is opened again.
-/
namespace EverTrace.L2.Journal
open EverTrace.Lib EverTrace.Lib.Transaction EverTrace.L1

variable {π Γ α : Type} {H : Sha256} {C : PayloadCodec π} {A : Admission π Γ α}

/-! ## What clients see -/

/-- What a client hears of a commit. -/
def answerOf : Except StoreError CommitOutcome → CommandLog.Answer Receipt
  | .ok outcome => if outcome.replayed then .repeated outcome.receipt else .taken outcome.receipt
  | .error _ => .refused

abbrev Exchange := CommandLog.Exchange CommandId Content Receipt

section Service

variable (H : Sha256) (C : PayloadCodec π) (A : Admission π Γ α)

def Service.exchange (s : Service α) : Input π Γ → Option Exchange
  | .commit command ingestedAtUs condition f =>
    some ⟨command.commandId, contentOf H C command, answerOf (s.commit H C A command ingestedAtUs condition f).1⟩
  | _ => none

/-- The commits of a run and their answers. -/
def Service.exchanges (s : Service α) : List (Input π Γ) → List Exchange
  | [] => []
  | input :: rest => (s.exchange H C A input).toList ++ (s.step H C A input).exchanges rest

def Input.expected : Input π Γ → Option Nat
  | .commit _ _ (some (.frontier expected)) _ => some expected
  | _ => none

/-- The expected frontiers of the commits that wrote something, acknowledged or not. -/
def Service.landings (s : Service α) : List (Input π Γ) → List Nat
  | [] => []
  | input :: rest =>
    (if s.file.contents.length < (s.step H C A input).file.contents.length then input.expected.toList else []) ++
      (s.step H C A input).landings rest

end Service

section Written

variable (H : Sha256) (C : PayloadCodec π) (A : Admission π Γ α)

/-- The command id of a commit after which the table is longer, acknowledged or not. -/
def Service.writes (s : Service α) (input : Input π Γ) : List CommandId :=
  if s.file.contents.length < (s.step H C A input).file.contents.length then
    match input with
    | .commit command _ _ _ => [command.commandId]
    | _ => []
  else []

def Service.written (s : Service α) : List (Input π Γ) → List CommandId
  | [] => []
  | input :: rest => s.writes H C A input ++ (s.step H C A input).written rest

end Written

/-- No other connection commits. -/
def Input.Quiet : Input π Γ → Prop
  | .commit _ _ _ f => f.Quiet
  | .restart _ => True
  | .foreign _ => False

/-- The table is that of a log, and an open writer agrees with it. -/
structure Consistent (log : List (Committed H C)) (s : Service α) : Prop where
  journal : Journals s.file.contents log
  writer : ∀ w, s.writer = some w → Writes log ⟨s.file, w⟩

theorem consistent_empty (version : Nat) : Consistent ([] : List (Committed H C)) (⟨⟨[], version⟩, none⟩ : Service α) :=
  ⟨.nil, fun _ h => by cases h⟩

section Runs

variable {log : List (Committed H C)} {s : Service α} {inputs : List (Input π Γ)} {input : Input π Γ}
  {command : JournalCommand π} {condition : Option (CommitCondition Γ)} {f : CommitFaults} {ingestedAtUs : Int}

/-! ## One input -/

theorem Writes.consistent {w : JournalWriter α} {file : File (List JournalRow)} (h : Writes log ⟨file, w⟩) :
    Consistent log (⟨file, some w⟩ : Service α) :=
  ⟨h.journal, fun _ hw => Option.some.inj hw ▸ h⟩

variable (A command ingestedAtUs condition) in
theorem commit_commits (hC : C.Faithful) (h : Consistent log s) (hf : f.Quiet) :
    ∃ log', Consistent log' (s.commit H C A command ingestedAtUs condition f).2 ∧
      Commits log command condition (s.commit H C A command ingestedAtUs condition f).1 log' := by
  unfold Service.commit
  cases hw : s.writer with
  | none => exact ⟨log, h, .refused⟩
  | some w =>
    obtain ⟨log', hwrites, hcommits⟩ := commitInner_commits A command condition ingestedAtUs hC hf (h.writer w hw)
    exact ⟨log', hwrites.consistent, hcommits⟩

/-- The writer of a store that was opened knows the file as it is. -/
theorem openOnConnection_ok {w : JournalWriter α} {fails : Option StoreError}
    (hopen : openOnConnection H C A fails s.file = .ok w) : Current s.file w.sqlite.handle ∧
      w.nextSeq = w.sqlite.frontier + 1 ∧ w.sqlite.frontier = persistedFrontier s.file.contents := by
  unfold openOnConnection at hopen
  obtain ⟨_, -, hopen⟩ := bind_eq_ok.mp hopen
  obtain ⟨_, -, hopen⟩ := bind_eq_ok.mp hopen
  obtain ⟨batches, -, hopen⟩ := bind_eq_ok.mp hopen
  obtain ⟨admission, -, hopen⟩ := bind_eq_ok.mp hopen
  obtain ⟨-, hopen⟩ := ensure_bind_ok.mp hopen
  cases hopen
  exact ⟨⟨rfl, rfl, rfl, rfl⟩, rfl, rfl⟩

theorem openOnConnection_writes {w : JournalWriter α} {fails : Option StoreError} (h : Journals s.file.contents log)
    (hopen : openOnConnection H C A fails s.file = .ok w) : Writes log ⟨s.file, w⟩ := by
  obtain ⟨-, hnext, hfrontier⟩ := openOnConnection_ok hopen
  refine ⟨h, ?_, fun _ => hfrontier⟩
  rw [← hfrontier, hnext]
  exact Nat.lt_succ_self _

/-- Restarts leave the table alone. -/
theorem restart_consistent (h : Consistent log s) (fails : Option StoreError) :
    Consistent log (s.step H C A (.restart fails : Input π Γ)) := by
  refine ⟨h.journal, fun w hw => ?_⟩
  exact openOnConnection_writes h.journal (toOption_eq_some.mp hw)

theorem step_commits (hC : C.Faithful) (h : Consistent log s) (hq : input.Quiet) :
    ∃ log', Consistent log' (s.step H C A input) ∧ (log' = log ∧ s.exchange H C A input = none ∨
      ∃ command ingestedAtUs condition f, input = .commit command ingestedAtUs condition f ∧
        Commits log command condition (s.commit H C A command ingestedAtUs condition f).1 log') := by
  cases input with
  | commit command ingestedAtUs condition f =>
    obtain ⟨log', hc, hcommits⟩ := commit_commits A command condition ingestedAtUs hC h hq
    exact ⟨log', hc, .inr ⟨command, ingestedAtUs, condition, f, rfl, hcommits⟩⟩
  | restart fails => exact ⟨log, restart_consistent h fails, .inl ⟨rfl, rfl⟩⟩
  | foreign contents => cases hq

/-- What an input writes is what it adds to the log. -/
theorem step_written (hC : C.Faithful) (h : Consistent log s) (hq : input.Quiet) :
    ∃ log', Consistent log' (s.step H C A input) ∧ log'.map Committed.id = log.map Committed.id ++ s.writes H C A input ∧
      (log' = log ∧ s.exchange H C A input = none ∨
        ∃ command ingestedAtUs condition f, input = .commit command ingestedAtUs condition f ∧
          Commits log command condition (s.commit H C A command ingestedAtUs condition f).1 log') := by
  obtain ⟨log', hlast, hstep⟩ := step_commits (A := A) hC h hq
  refine ⟨log', hlast, ?_, hstep⟩
  have hsame : log' = log → log'.map Committed.id = log.map Committed.id ++ s.writes H C A input := by
    rintro rfl
    unfold Service.writes
    rw [hlast.journal.rows, h.journal.rows, if_neg (Nat.lt_irrefl _), List.append_nil]
  obtain ⟨hlog, -⟩ | ⟨command, ingestedAtUs, condition, f, rfl, hcommits⟩ := hstep
  · exact hsame hlog
  · generalize (s.commit H C A command ingestedAtUs condition f).1 = r at hcommits
    cases hcommits with
    | @appended c _ said fresh guarded behind answer =>
      have hlonger : s.file.contents.length <
          (s.step H C A (.commit command ingestedAtUs condition f)).file.contents.length := by
        have hpos := List.length_pos_iff.mpr c.rows_ne_nil
        rw [hlast.journal.rows, h.journal.rows, tableOf, tableOf, List.flatMap_append, List.flatMap_singleton,
          List.length_append]
        omega
      unfold Service.writes
      rw [if_pos hlonger, List.map_append, List.map_singleton, Committed.id, said]
    | replayed _ _ _ => exact hsame rfl
    | refused => exact hsame rfl

/-! ## Refinement -/

theorem Commits.step {r : Except StoreError CommitOutcome} {log' : List (Committed H C)}
    (h : Commits log command condition r log') :
    CommandLog.Step (log.map Committed.entry) command.commandId (contentOf H C command) (answerOf r)
      (log'.map Committed.entry) := by
  cases h with
  | @appended c r said fresh guarded behind answer =>
    have hfresh : ∀ e ∈ log.map Committed.entry, e.key ≠ command.commandId := by
      intro e he
      obtain ⟨c', hc', rfl⟩ := List.mem_map.mp he
      rw [← said]
      exact fresh c' hc'
    rw [List.map_append, List.map_singleton, Committed.entry, Committed.id, said]
    cases r with
    | ok o =>
      rw [answer o rfl]
      exact .taken hfresh
    | error e => exact .lost hfresh
  | @replayed c mem same content =>
    refine .repeated (List.mem_map.mpr ⟨c, mem, ?_⟩)
    rw [Committed.entry, same, ← content]
    rfl
  | refused => exact .refused

/-- The log after a run: the one before it, and each command that was written. -/
theorem run_log (hC : C.Faithful) : ∀ {inputs : List (Input π Γ)} {s : Service α} {log : List (Committed H C)},
    Consistent log s → (∀ input ∈ inputs, input.Quiet) → ∃ log' : List (Committed H C), Consistent log' (s.run H C A inputs) ∧
      CommandLog.Run (log.map Committed.entry) (s.exchanges H C A inputs) (log'.map Committed.entry) ∧
      log'.map Committed.id = log.map Committed.id ++ s.written H C A inputs := by
  intro inputs
  induction inputs with
  | nil =>
    intro s log h _
    exact ⟨log, h, .nil, (List.append_nil _).symm⟩
  | cons input rest ih =>
    intro s log h hq
    obtain ⟨mid, hmid, hwrites, hstep⟩ := step_written (A := A) hC h (hq input List.mem_cons_self)
    obtain ⟨last, hlast, hrun, hwritten⟩ := ih hmid fun i hi => hq i (List.mem_cons_of_mem _ hi)
    refine ⟨last, hlast, ?_, by rw [hwritten, hwrites, List.append_assoc]; rfl⟩
    show CommandLog.Run _ ((s.exchange H C A input).toList ++ _) _
    rcases hstep with ⟨rfl, hnone⟩ | ⟨command, ingestedAtUs, condition, f, rfl, hcommits⟩
    · rw [hnone]
      exact hrun
    · exact .cons hcommits.step hrun

/-- **A run is a run of the command log**, whatever fails in it and however often the store is opened again, and what
was acknowledged is in the log. -/
theorem run_refines (hC : C.Faithful) (h : Consistent log s) (hq : ∀ input ∈ inputs, input.Quiet) :
    ∃ log' : List (Committed H C), Consistent log' (s.run H C A inputs) ∧
      CommandLog.Run (log.map Committed.entry) (s.exchanges H C A inputs) (log'.map Committed.entry) ∧
      ∀ x ∈ s.exchanges H C A inputs, ∀ r, x.answer.receipt? = some r →
        ⟨x.key, x.content, r⟩ ∈ log'.map Committed.entry := by
  obtain ⟨log', hlast, hrun, -⟩ := run_log (A := A) hC h hq
  exact ⟨log', hlast, hrun, fun x hx r hr => hrun.receipt_stays hx hr⟩

/-- **Exactly once.** The commands of the log are those of before and the written ones, acknowledged or not, and no
command id is there twice: a command is written once at most. Two acknowledgements under one command id are about the
same command and give the same receipt, and one of them at most says that the command is new. -/
theorem receipts_agree (hC : C.Faithful) (h : Consistent log s) (hq : ∀ input ∈ inputs, input.Quiet) :
    ∃ log' : List (Committed H C), Consistent log' (s.run H C A inputs) ∧
      log'.map Committed.id = log.map Committed.id ++ s.written H C A inputs ∧ (log'.map Committed.id).Nodup ∧
      (∀ x ∈ s.exchanges H C A inputs, ∀ y ∈ s.exchanges H C A inputs, x.key = y.key →
        ∀ r r', x.answer.receipt? = some r → y.answer.receipt? = some r' → x.content = y.content ∧ r = r') ∧
      ∀ key, (s.exchanges H C A inputs).countP (CommandLog.takes key) ≤ 1 := by
  obtain ⟨log', hlast, hrun, hwritten⟩ := run_log (A := A) hC h hq
  refine ⟨log', hlast, hwritten, hlast.journal.ids, ?_, hrun.taken_once⟩
  intro x hx y hy hkey r r' hr hr'
  exact hrun.acknowledged_alike h.journal.distinct hx hy hkey hr hr'

/-! ## After a restart -/

/-- The part of a commit in front of the table passes. -/
structure Acceptable (A : Admission π Γ α) (command : JournalCommand π) (ingestedAtUs : Int)
    (condition : Option (CommitCondition Γ)) : Prop where
  time : 0 ≤ ingestedAtUs
  revision : ∀ event ∈ command.events, event.algorithmRevision ≠ ledgerRevision
  source : sourceMatches A command condition = true

/-- A command of the log is answered with its receipt, under whatever condition it is sent. -/
theorem commitInner_again (hC : C.Faithful) {w : JournalWriter α} (h : Writes log ⟨s.file, w⟩)
    (hcurrent : Current s.file w.sqlite.handle) {c : Committed H C} (hc : c ∈ log) (hid : command.commandId = c.id)
    (hcontent : contentOf H C command = contentOf H C c.command)
    (hcommand : Acceptable A command ingestedAtUs condition) :
    (commitInner H C A command ingestedAtUs condition .none ⟨s.file, w⟩).1 = .ok (c.outcome true) := by
  obtain ⟨prepared, hp⟩ : ∃ prepared, prepareCommand H C command = .ok prepared := by
    rw [c.content, contentOf] at hcontent
    obtain ⟨prepared, hprepared, -⟩ := Option.map_eq_some_iff.mp hcontent
    exact ⟨prepared, toOption_eq_some.mp hprepared⟩
  have hfirst : (!(decide (ingestedAtUs < 0) ||
      command.events.any fun event => event.algorithmRevision == ledgerRevision)) = true := by
    have htime := hcommand.time
    have hrevision : (command.events.any fun event => event.algorithmRevision == ledgerRevision) = false :=
      List.any_eq_false.mpr fun event he => by simpa using hcommand.revision event he
    rw [hrevision, decide_eq_false (by omega)]
    rfl
  have hstamp : (physicalStamp (CommitFaults.none).stamp : Command (Store α) StoreError Nat) ⟨s.file, w⟩ =
      (.ok w.sqlite.frontier, ⟨s.file, w⟩) := by
    unfold physicalStamp
    rw [show (CommitFaults.none).stamp = .none from rfl, hcurrent.enter]
    rfl
  have hrows : (existingCommandRows (CommitFaults.none).rows prepared.commandId :
      Command (Store α) StoreError (List JournalRow)) ⟨s.file, w⟩ = (.ok c.rows, ⟨s.file, w⟩) := by
    unfold existingCommandRows
    rw [show (CommitFaults.none).rows = .none from rfl, hcurrent.query, (prepareCommand_ok hp).commandId, hid,
      h.journal.select_command hc]
  have hreplay := replay_again hC c hp hid hcontent
  unfold commitInner
  rw [hfirst, hcommand.source, hp]
  show (Command.andThen (physicalStamp _) _ (⟨s.file, w⟩ : Store α)).1 = _
  rw [Command.andThen, hstamp]
  show (Command.andThen (existingCommandRows _ _) _ (⟨s.file, w⟩ : Store α)).1 = _
  rw [Command.andThen, hrows]
  show (Command.andThen (Command.lift (replayOutcome H C c.rows prepared)) _ (⟨s.file, w⟩ : Store α)).1 = _
  rw [Command.andThen, Command.lift, hreplay]
  rfl

/-- **A receipt outlives the process.** What was acknowledged in a run is acknowledged again with the same
receipt by the store opened after it, under whatever condition the command is sent again. -/
theorem resubmit (hC : C.Faithful) (h : Consistent log s) (hq : ∀ input ∈ inputs, input.Quiet)
    {x : Exchange} (hx : x ∈ s.exchanges H C A inputs) {r : Receipt} (hr : x.answer.receipt? = some r)
    {w : JournalWriter α} (hopen : openOnConnection H C A none (s.run H C A inputs).file = .ok w)
    (hid : command.commandId = x.key) (hcontent : contentOf H C command = x.content)
    (hcommand : Acceptable A command ingestedAtUs condition) :
    (commitInner H C A command ingestedAtUs condition .none ⟨(s.run H C A inputs).file, w⟩).1 =
      .ok ⟨command.commandId, r.firstSeq, r.lastSeq, r.eventIds, true⟩ := by
  obtain ⟨log', hlast, hrun, -⟩ := run_log (A := A) hC h hq
  obtain ⟨c, hc, hentry⟩ := List.mem_map.mp (hrun.receipt_stays hx hr)
  obtain ⟨hkey, hsame, hreceipt⟩ := CommandLog.Entry.mk.inj hentry
  rw [← hkey] at hid
  rw [← hsame] at hcontent
  rw [commitInner_again hC (openOnConnection_writes hlast.journal hopen) (openOnConnection_ok hopen).1 hc hid
    hcontent hcommand, ← hreceipt, hid]
  rfl

/-! ### Reading the journal -/

/-- A block is a batch, at its first sequence number. -/
theorem commandBatch_rows (c : Committed H C) (hroom : c.lastSeq < 2 ^ 64) :
    commandBatch c.rows = .ok (c.firstSeq, c.rows) := by
  obtain ⟨first, hfirst⟩ := Option.isSome_iff_exists.mp (List.isSome_head?.mpr c.rows_ne_nil)
  have hsort : sortByKey JournalRow.ordinal c.rows = c.rows := (prepareCommand_ok c.prepares).sort_rows
  have hplace : c.rows.zipIdx.all (fun entry => entry.1.seq == min (c.firstSeq + entry.2) (2 ^ 64 - 1)) = true := by
    refine List.all_eq_true.mpr fun entry hentry => beq_iff_eq.mpr ?_
    have hget := List.mem_zipIdx_iff_getElem?.mp hentry
    have hseq := c.getElem?_seq hget
    have hle := (c.seq_of_mem (List.mem_of_getElem? hget)).2
    omega
  unfold commandBatch
  simp only [hsort, hfirst, Option.map_some, okOr, ok_bind, c.head_seq hfirst, hplace, ensure, if_true]
  rfl

theorem Journals.groups_perm {table : List JournalRow} (h : Journals table log) :
    (commandGroups table).Perm (log.map Committed.rows) := by
  unfold commandGroups
  rw [h.rows, tableOf]
  exact h.blocks.groupBy_flatMap_perm

/-- **The journal reads back as the log**: the rows of the committed commands, command by command, in the order
of commit. -/
theorem Journals.batches (hC : C.Faithful) {table : List JournalRow} (h : Journals table log) :
    orderedCommandBatches H C (selectAllRows table) = .ok (log.map Committed.rows) := by
  have hperm := h.groups_perm
  have hgroup : ∀ group ∈ commandGroups table, ∃ c ∈ log, group = c.rows := by
    intro group hmem
    obtain ⟨c, hc, heq⟩ := List.mem_map.mp (hperm.mem_iff.mp hmem)
    exact ⟨c, hc, heq.symm⟩
  have hvalid : validateJournalRows H C table = .ok () := by
    have hchain : ((sortByKey JournalRow.seq table).map JournalRow.seq).IsChain (· < ·) := by
      rw [show sortByKey JournalRow.seq table = table from h.select_all]
      exact (List.pairwise_map.mpr h.ordered).isChain
    unfold validateJournalRows
    rw [decide_eq_true hchain]
    refine forM_eq_ok.mpr fun group hmem => ?_
    obtain ⟨c, -, rfl⟩ := hgroup group hmem
    rw [show validateCompleteCommandRefs H C c.rows = .ok c.rows from validate_rows hC c.prepares]
    rfl
  -- a batch is its rows behind their first sequence number
  let batch : List JournalRow → Nat × List JournalRow := fun group => ((group.head?.map JournalRow.seq).getD 0, group)
  have hfirst : ∀ c : Committed H C, batch c.rows = (c.firstSeq, c.rows) := by
    intro c
    obtain ⟨first, hfirst⟩ := Option.isSome_iff_exists.mp (List.isSome_head?.mpr c.rows_ne_nil)
    simp [batch, hfirst, c.head_seq hfirst]
  have hbatches : (commandGroups table).mapM commandBatch = .ok ((commandGroups table).map batch) := by
    refine mapM_ok_of_forall fun group hmem => ?_
    obtain ⟨c, hc, rfl⟩ := hgroup group hmem
    rw [commandBatch_rows c (h.room c hc), hfirst]
  have hsorted : sortByKey Prod.fst ((commandGroups table).map batch) = (log.map Committed.rows).map batch := by
    refine sortByKey_of_perm (hperm.map batch) ?_
    rw [List.map_map, List.pairwise_map]
    refine h.firstSeq_pairwise.imp fun {a b} hlt => ?_
    rw [Function.comp_apply, Function.comp_apply, hfirst, hfirst]
    exact hlt
  unfold orderedCommandBatches
  rw [h.select_all, hvalid, ok_bind, hbatches, ok_bind, hsorted, List.map_map]
  exact congrArg Except.ok (List.map_id _)

/-- **A restart reads what was committed.** After any run the journal is valid, and what is applied when the
store is opened is the log, command by command: every acknowledged command is in it, under its receipt, and
each batch decodes to the command it was written for. -/
theorem replay_in_order (hC : C.Faithful) (h : Consistent log s) (hq : ∀ input ∈ inputs, input.Quiet) :
    ∃ log' : List (Committed H C),
      CommandLog.Run (log.map Committed.entry) (s.exchanges H C A inputs) (log'.map Committed.entry) ∧
      orderedCommandBatches H C (selectAllRows (s.run H C A inputs).file.contents) = .ok (log'.map Committed.rows) ∧
      ∀ c ∈ log', c.rows.mapM (JournalRow.draft C) = .ok c.command.events := by
  obtain ⟨log', hlast, hrun, -⟩ := run_log (A := A) hC h hq
  exact ⟨log', hrun, hlast.journal.batches hC, fun c _ => (prepareCommand_ok c.prepares).decode hC⟩

/-! ## Expected frontiers -/

/-- The frontier rises when something is written, and an expected frontier was the one before. -/
theorem step_landing (hC : C.Faithful) (h : Consistent log s) (hq : input.Quiet) :
    persistedFrontier s.file.contents ≤ persistedFrontier (s.step H C A input).file.contents ∧
      (s.file.contents.length < (s.step H C A input).file.contents.length → ∀ n, input.expected = some n →
        n = persistedFrontier s.file.contents ∧
          persistedFrontier s.file.contents < persistedFrontier (s.step H C A input).file.contents) := by
  obtain ⟨log', hlast, ⟨rfl, -⟩ | ⟨command, ingestedAtUs, condition, f, rfl, hcommits⟩⟩ := step_commits (A := A) hC h hq
  · rw [hlast.journal.rows, ← h.journal.rows]
    exact ⟨Nat.le_refl _, fun hlt => absurd hlt (Nat.lt_irrefl _)⟩
  · have hsame : ∀ {log'}, log' = log → Consistent log' (s.step H C A (.commit command ingestedAtUs condition f)) →
        (s.step H C A (.commit command ingestedAtUs condition f)).file.contents = s.file.contents := by
      rintro _ rfl hlast
      rw [hlast.journal.rows, ← h.journal.rows]
    generalize (s.commit H C A command ingestedAtUs condition f).1 = r at hcommits
    cases hcommits with
    | @appended c _ said fresh guarded behind answer =>
      have htable : (s.step H C A (.commit command ingestedAtUs condition f)).file.contents =
          s.file.contents ++ c.rows := by
        rw [hlast.journal.rows, h.journal.rows, tableOf, tableOf, List.flatMap_append, List.flatMap_singleton]
      have hfrontier := (htable ▸ hlast.journal).frontier_concat
      rw [← h.journal.rows] at guarded behind
      have hpos := c.count_pos
      rw [htable, hfrontier]
      have hlt : persistedFrontier s.file.contents < c.lastSeq := by
        rw [Committed.lastSeq]
        omega
      refine ⟨Nat.le_of_lt hlt, fun _ n hn => ⟨?_, hlt⟩⟩
      cases condition with
      | none => cases hn
      | some condition =>
        cases condition with
        | frontier expected =>
          obtain rfl : expected = n := Option.some.inj hn
          exact (guarded expected rfl).symm
        | sourceObservation guard => cases hn
    | replayed _ _ _ =>
      rw [hsame rfl hlast]
      exact ⟨Nat.le_refl _, fun hlt => absurd hlt (Nat.lt_irrefl _)⟩
    | refused =>
      rw [hsame rfl hlast]
      exact ⟨Nat.le_refl _, fun hlt => absurd hlt (Nat.lt_irrefl _)⟩

theorem landings_from (hC : C.Faithful) : ∀ {inputs : List (Input π Γ)} {s : Service α} {log : List (Committed H C)},
    Consistent log s → (∀ input ∈ inputs, input.Quiet) → (s.landings H C A inputs).Pairwise (· < ·) ∧
      ∀ n ∈ s.landings H C A inputs, persistedFrontier s.file.contents ≤ n := by
  intro inputs
  induction inputs with
  | nil =>
    intro s log _ _
    exact ⟨.nil, fun n hn => by cases hn⟩
  | cons input rest ih =>
    intro s log h hq
    have hinput := hq input List.mem_cons_self
    obtain ⟨hle, hlands⟩ := step_landing (A := A) hC h hinput
    obtain ⟨mid, hmid, -⟩ := step_commits (A := A) hC h hinput
    obtain ⟨hpairwise, hbound⟩ := ih hmid fun i hi => hq i (List.mem_cons_of_mem _ hi)
    unfold Service.landings
    split
    · next hgrew =>
      cases hexpected : input.expected with
      | none => exact ⟨hpairwise, fun n hn => Nat.le_trans hle (hbound n hn)⟩
      | some n =>
        obtain ⟨rfl, hlt⟩ := hlands hgrew n hexpected
        refine ⟨List.pairwise_cons.mpr ⟨fun m hm => Nat.lt_of_lt_of_le hlt (hbound m hm), hpairwise⟩, fun m hm => ?_⟩
        rcases List.mem_cons.mp hm with rfl | hm
        · exact Nat.le_refl _
        · exact Nat.le_trans hle (hbound m hm)
    · exact ⟨hpairwise, fun n hn => Nat.le_trans hle (hbound n hn)⟩

/-- **An expected frontier admits one command.** The expected frontiers of the commits that wrote, acknowledged
or not, rise along a run. -/
theorem landings_increase (hC : C.Faithful) (h : Consistent log s) (hq : ∀ input ∈ inputs, input.Quiet) :
    (s.landings H C A inputs).Pairwise (· < ·) := (landings_from hC h hq).1

/-! ## Another connection -/

/-- The open writer is closed or knows the commits of others up to `v`, and there are as many at least. -/
def Knows (v : Nat) (s : Store α) : Prop := s.writer.sqlite.handle.Knows v ∧ v ≤ s.file.version

theorem physicalStamp_knows (v : Nat) (fails : Option StoreError) :
    Command.Triple (Knows v) (physicalStamp fails : Command (Store α) StoreError Nat) (fun _ => Knows v) (Knows v) := by
  intro s hs
  have hknows := enter_knows storeErrors s.file hs.1 fails
  unfold physicalStamp
  cases henter : enter storeErrors fails s.file s.writer.sqlite.handle with
  | mk r handle =>
    rw [henter] at hknows
    cases r with
    | error e => exact ⟨hknows, hs.2⟩
    | ok _ => exact ⟨hknows, hs.2⟩

theorem appendCommandRows_knows (v : Nat) (faults : Faults (List JournalRow) StoreError) (rows : List JournalRow) :
    Command.Triple (Knows v) (appendCommandRows faults rows : Command (Store α) StoreError Unit) (fun _ => Knows v)
      (Knows v) := by
  intro s hs
  unfold appendCommandRows
  have hknows := transact_knows storeErrors faults (checkRange rows) (insertRows rows) s.file hs.1
  have hversion := version_le_transact storeErrors faults (checkRange rows) (insertRows rows) s.file s.writer.sqlite.handle
  generalize transact storeErrors faults (checkRange rows) (insertRows rows) s.file s.writer.sqlite.handle = result
    at hknows hversion ⊢
  obtain ⟨r, file, handle⟩ := result
  have hle : v ≤ file.version := Nat.le_trans hs.2 hversion
  cases r with
  | error e => exact ⟨hknows, hle⟩
  | ok changed => exact ⟨hknows, hle⟩

theorem commitInner_knows (v : Nat) : Command.Triple (Knows v) (commitInner H C A command ingestedAtUs condition f)
    (fun _ => Knows v) (Knows v) := by
  unfold commitInner
  refine Command.Triple.bind_check (fun _ hs => hs) fun _ => ?_
  refine Command.Triple.bind_lift (fun _ hs => hs) fun prepared _ => ?_
  refine Command.Triple.bind_check (fun _ hs => hs) fun _ => ?_
  refine Command.Triple.bind (physicalStamp_knows v f.stamp) fun frontier => ?_
  refine Command.Triple.bind (Q := fun _ => Knows v) ?_ fun existing => ?_
  · intro s hs
    unfold existingCommandRows
    split
    · next heq => exact (Prod.mk.inj heq).2 ▸ hs
    · next heq => exact (Prod.mk.inj heq).2 ▸ hs
  refine Command.Triple.bind_lift (fun _ hs => hs) fun found _ => ?_
  cases found with
  | some outcome => exact Command.Triple.pure fun _ hs => hs
  | none =>
    unfold commitNew
    refine Command.Triple.bind_read fun writer => ?_
    refine Command.Triple.bind_lift (fun _ hs => hs.1) fun _ _ => ?_
    refine Command.Triple.bind_lift (fun _ hs => hs.1) fun nextAdmission _ => ?_
    refine Command.Triple.bind (Q := fun _ => Knows v) ?_ fun firstSeq => ?_
    · intro s hs
      unfold reserve
      split
      · next heq =>
        split at heq
        · cases heq
        · obtain ⟨-, rfl⟩ := Prod.mk.inj heq
          exact hs.1
      · next heq =>
        split at heq
        · obtain ⟨-, rfl⟩ := Prod.mk.inj heq
          exact hs.1
        · cases heq
    refine Command.Triple.bind_lift (fun _ hs => hs) fun rows _ => ?_
    refine Command.Triple.bind_lift (fun _ hs => hs) fun last _ => ?_
    refine Command.Triple.bind_lift (fun _ hs => hs) fun _ _ => ?_
    refine Command.Triple.bind (Q := fun _ => Knows v) (Command.Triple.change fun s hs => ?_) fun _ => ?_
    · exact ⟨hs.1, Nat.le_trans hs.2 (File.version_le_foreign _ _)⟩
    refine Command.Triple.bind (appendCommandRows_knows v f.append rows) fun _ => ?_
    refine Command.Triple.bind_lift (fun _ hs => hs) fun _ _ => ?_
    refine Command.Triple.bind (Q := fun _ => Knows v) (Command.Triple.change fun _ hs => hs) fun _ => ?_
    exact Command.Triple.pure fun _ hs => hs

variable (H C A command ingestedAtUs condition f) in
/-- A writer that missed a commit of another connection answers with an error and writes nothing. -/
theorem commitInner_stale {s : Store α} (h : Stale s.file s.writer.sqlite.handle) :
    ∃ e, (commitInner H C A command ingestedAtUs condition f s).1 = .error e ∧
      (commitInner H C A command ingestedAtUs condition f s).2.file = s.file := by
  have hspec : Command.Triple (fun t => t = s) (commitInner H C A command ingestedAtUs condition f)
      (fun _ _ => False) (fun t => t.file = s.file) := by
    unfold commitInner
    refine Command.Triple.bind_check (fun _ hs => hs ▸ rfl) fun _ => ?_
    refine Command.Triple.bind_lift (fun _ hs => hs ▸ rfl) fun prepared _ => ?_
    refine Command.Triple.bind_check (fun _ hs => hs ▸ rfl) fun _ => ?_
    refine Command.Triple.bind (Q := fun _ _ => False) ?_ fun _ _ hs => hs.elim
    rintro t rfl
    unfold physicalStamp
    obtain ⟨e, he | he⟩ := h.enter (E := storeErrors) f.stamp
    · rw [he]
      rfl
    · rw [he]
      rfl
  rcases hspec.result rfl with ⟨_, -, hfalse⟩ | hdone
  · exact hfalse.elim
  · exact hdone

/-- The open writer, if there is one, knows `v`. -/
def Service.Knows (s : Service α) (v : Nat) : Prop := ∀ w, s.writer = some w → Journal.Knows v ⟨s.file, w⟩

theorem step_knows {v : Nat} (h : s.Knows v) (hopen : ∀ fails, input ≠ .restart fails) :
    (s.step H C A input).Knows v := by
  cases input with
  | commit command ingestedAtUs condition f =>
    intro w' hw'
    unfold Service.step Service.commit at hw' ⊢
    dsimp only at hw' ⊢
    cases hw : s.writer with
    | none =>
      rw [hw] at hw'
      cases hw.symm.trans hw'
    | some w =>
      rw [hw] at hw'
      obtain rfl := Option.some.inj hw'
      exact (commitInner_knows v).after (h w hw)
  | restart fails => exact absurd rfl (hopen fails)
  | foreign contents =>
    intro w hw
    obtain ⟨hknows, hle⟩ := h w hw
    exact ⟨hknows, Nat.le_succ_of_le hle⟩

theorem run_knows {v : Nat} : ∀ {inputs : List (Input π Γ)} {s : Service α}, s.Knows v →
    (∀ input ∈ inputs, ∀ fails, input ≠ .restart fails) → (s.run H C A inputs).Knows v := by
  intro inputs
  induction inputs with
  | nil => exact fun h _ => h
  | cons input rest ih =>
    intro s h hopen
    exact ih (step_knows h (hopen input List.mem_cons_self)) fun i hi => hopen i (List.mem_cons_of_mem _ hi)

/-- **No lost update.** As soon as another connection has committed, between two commits or inside one, the
writer that was open acknowledges nothing and writes nothing until the store is opened again. -/
theorem foreign_commit_cuts_off {w : JournalWriter α} (hw : s.writer = some w) (hcurrent : Current s.file w.sqlite.handle)
    (hopen : ∀ input ∈ inputs, ∀ fails, input ≠ .restart fails)
    (hforeign : (s.run H C A inputs).file.version ≠ s.file.version) :
    (∃ e, ((s.run H C A inputs).commit H C A command ingestedAtUs condition f).1 = .error e) ∧
      ((s.run H C A inputs).commit H C A command ingestedAtUs condition f).2.file = (s.run H C A inputs).file := by
  have hstart : s.Knows s.file.version := by
    intro w' hw'
    obtain rfl := Option.some.inj (hw.symm.trans hw')
    exact ⟨.inr ⟨hcurrent.known, hcurrent.version⟩, Nat.le_refl _⟩
  have hlast := run_knows (H := H) (C := C) (A := A) hstart hopen
  generalize s.run H C A inputs = t at hlast hforeign ⊢
  unfold Service.commit
  cases ht : t.writer with
  | none => exact ⟨⟨.io, rfl⟩, rfl⟩
  | some w' =>
    obtain ⟨hknows, hle⟩ := hlast w' ht
    have hle : s.file.version ≤ t.file.version := hle
    have hlt : s.file.version < t.file.version := by omega
    obtain ⟨e, he, hfile⟩ := commitInner_stale H C A command condition f ingestedAtUs (s := ⟨t.file, w'⟩) (hknows.stale hlt)
    exact ⟨⟨e, he⟩, hfile⟩

end Runs

/-! ## A migration whose acknowledgement is lost -/

inductive Migration where
  | l0001
  | l0002
  deriving DecidableEq

def Migration.migrationId : Migration → String
  | .l0001 => "L0001"
  | .l0002 => "L0002"

/-- `MigrationApplied` as a payload.
mirrors evertrace-store/src/command.rs:585-592, 657, 722, 1021-1024, 1241-1243 -/
def migrationCodec : PayloadCodec Migration where
  eventType _ := "migration_applied_v1"
  recordClass _ := .projectionControl
  validate m := validateIdentifier m.migrationId
  canonicalValue m := .map
    [("kind", text "migration_applied"), ("value", .map [("migration_id", text m.migrationId)])]
  canonicalJson m := .ok ("\x7b\"kind\":\"migration_applied\",\"value\":\x7b\"migration_id\":\"" ++ m.migrationId ++
    "\"\x7d\x7d")
  fromJson json :=
    if json = "\x7b\"kind\":\"migration_applied\",\"value\":\x7b\"migration_id\":\"L0001\"\x7d\x7d" then .ok .l0001
    else if json = "\x7b\"kind\":\"migration_applied\",\"value\":\x7b\"migration_id\":\"L0002\"\x7d\x7d" then .ok .l0002
    else .error .storeCorrupt
  validateCommand _ := .ok ()

theorem migrationCodec_faithful : migrationCodec.Faithful := by
  intro m json h
  cases m <;> cases h <;> decide

/-- An admission that takes every command. -/
def openAdmission : Admission Migration Unit Unit where
  initial := ()
  applyCommand _ _ _ := .ok ()
  applyRowBatch _ _ := .ok ()
  sourceObservationCommandMatches _ _ := true
  sourceObservationGuardMatches _ _ := .ok true

def migrationCommand : JournalCommand Migration where
  commandId := ⟨0x01890f476a4a7cc198b901890f476a4a⟩
  events := [{
    occurredAtUs := 0
    sourceKind := .system
    scope := ⟨none, none, none, none, none, none, none⟩
    causationId := none
    correlationId := none
    effectiveConfigHash := ⟨List.replicate 32 0, length_zeros⟩
    algorithmRevision := "l0001"
    payload := .l0001 }]

def secondCommand : JournalCommand Migration where
  commandId := ⟨0x01890f476a4a7cc198b901890f476a4b⟩
  events := migrationCommand.events.map fun event => { event with causationId := some "l0001" }

/-- SHA-256 on the encodings of the two commands, told apart by their lengths and the last digit of the command id. -/
def migrationSha : Sha256 where
  digest b := beBytes 32 (
    if b.length = 649 then 0xac3a94eaa6f5c25a12b8f1a5e17e1a59a3bf59775ae72b9ab421af7697eea30d
    else if b.length = 662 then 0xff2a436f5ea7a6094e52ff5a8f84aebf47310cdf71abe272a40ff74586c0a1fc
    else if b.length = 103 then
      if b[85]? = some 0x62 then 0x1311ce74525fc3784d3d6af34bc0752783a423aebdb94d4e9765adc6d5ae25e8
      else 0xea572077bee5c5f895d7a4e3bfef210d5abfff04a83e6e111144c9bac4dadf82
    else 0x4f7de5e3ba5b7663b63d771dc1aebd0c2445f937e60881069804936ebf00ff0f)
  digest_length _ := length_beBytes 32 _

/-- The commit reaches the file, and its acknowledgement does not reach the client. -/
def lostAck : CommitFaults := { CommitFaults.none with append := { Faults.none with commit := .failed true } }

/-- A command whose acknowledgement is lost, and the command again after a restart. -/
def lostRun : List (Input Migration Unit) :=
  [.restart none, .commit migrationCommand 7 none lostAck, .restart none, .commit migrationCommand 9 none .none]

/-- Two commands under the frontiers they expect, and the first of them again under one that is long past. -/
def resentRun : List (Input Migration Unit) :=
  [.restart none, .commit migrationCommand 7 (some (.frontier 0)) .none,
    .commit secondCommand 8 (some (.frontier 1)) .none, .commit migrationCommand 9 (some (.frontier 77)) .none]

def emptyService : Service Unit := ⟨⟨[], 0⟩, none⟩

theorem lostRun_quiet : ∀ input ∈ lostRun, input.Quiet := by
  simp [lostRun, Input.Quiet, CommitFaults.Quiet, lostAck, CommitFaults.none, Faults.none]

theorem resentRun_quiet : ∀ input ∈ resentRun, input.Quiet := by
  simp [resentRun, Input.Quiet, CommitFaults.Quiet, CommitFaults.none, Faults.none]

def resentExchanges : List Exchange := emptyService.exchanges migrationSha migrationCodec openAdmission resentRun

/-- Both commands are answered as new, and the first of them then as known. -/
theorem resent_told : resentExchanges.map (fun x => (x.answer.receipt?.isSome, x.answer.isTaken)) =
    [(true, true), (true, true), (true, false)] := by decide +kernel

/-- The two answers to the first command. -/
theorem resent_pair : ∃ x y, x ∈ resentExchanges ∧ y ∈ resentExchanges ∧ x.key = y.key ∧ x.answer.isTaken = true ∧
    y.answer.isTaken = false ∧ (∃ r, x.answer.receipt? = some r) ∧ ∃ r, y.answer.receipt? = some r := by
  have hkeys : resentExchanges.map CommandLog.Exchange.key =
      [migrationCommand.commandId, secondCommand.commandId, migrationCommand.commandId] := rfl
  have htold := resent_told
  generalize resentExchanges = exchanges at hkeys htold
  obtain ⟨x, rest, rfl, hx, hrest⟩ := List.map_eq_cons_iff.mp hkeys
  obtain ⟨y, rest, rfl, hy, hrest⟩ := List.map_eq_cons_iff.mp hrest
  obtain ⟨z, rest, rfl, hz, -⟩ := List.map_eq_cons_iff.mp hrest
  simp only [List.map_cons, List.cons.injEq, Prod.mk.injEq, Option.isSome_iff_exists] at htold
  obtain ⟨⟨hr, hnew⟩, -, ⟨hr', hknown⟩, -⟩ := htold
  exact ⟨x, z, by simp, by simp, hx.trans hz.symm, hnew, hknown, hr, hr'⟩

theorem length_resent {log : List (Committed migrationSha migrationCodec)}
    (h : CommandLog.Run [] resentExchanges (log.map Committed.entry)) : log.length = 2 := by
  have hall : (resentExchanges.map fun x => (x.answer.receipt?.isSome, x.answer.isTaken)).all Prod.fst = true := by
    rw [resent_told]
    rfl
  have hcount : (resentExchanges.map fun x => (x.answer.receipt?.isSome, x.answer.isTaken)).countP Prod.snd = 2 := by
    rw [resent_told]
    rfl
  rw [List.all_map, List.all_eq_true] at hall
  rw [List.countP_map] at hcount
  have hlength := h.length_of_acknowledged hall
  rw [List.length_map, List.length_nil, Nat.zero_add] at hlength
  exact hlength.trans hcount

theorem run_refines_resent : ∃ log : List (Committed migrationSha migrationCodec), log.length = 2 ∧
    Consistent log (emptyService.run migrationSha migrationCodec openAdmission resentRun) ∧
    CommandLog.Run [] resentExchanges (log.map Committed.entry) ∧
    ∀ x ∈ resentExchanges, ∀ r, x.answer.receipt? = some r → ⟨x.key, x.content, r⟩ ∈ log.map Committed.entry := by
  obtain ⟨log, hlast, hrun, hreceipts⟩ :=
    run_refines (H := migrationSha) (A := openAdmission) (s := emptyService) migrationCodec_faithful
      (consistent_empty 0) resentRun_quiet
  exact ⟨log, length_resent hrun, hlast, hrun, hreceipts⟩

theorem replay_in_order_resent : ∃ log : List (Committed migrationSha migrationCodec), log.length = 2 ∧
    orderedCommandBatches migrationSha migrationCodec
      (selectAllRows (emptyService.run migrationSha migrationCodec openAdmission resentRun).file.contents) =
        .ok (log.map Committed.rows) ∧
    ∀ c ∈ log, c.rows.mapM (JournalRow.draft migrationCodec) = .ok c.command.events := by
  obtain ⟨log, hrun, hbatches, hdecode⟩ :=
    replay_in_order (H := migrationSha) (A := openAdmission) (s := emptyService) migrationCodec_faithful
      (consistent_empty 0) resentRun_quiet
  exact ⟨log, length_resent hrun, hbatches, hdecode⟩

theorem lostRun_written : emptyService.written migrationSha migrationCodec openAdmission lostRun =
    [migrationCommand.commandId] := by decide +kernel

/-- The command whose acknowledgement was lost is sent again and is in the log once; the one that is sent again after
its acknowledgement gets the same receipt. -/
theorem receipts_agree_resent :
    (∃ log : List (Committed migrationSha migrationCodec),
      Consistent log (emptyService.run migrationSha migrationCodec openAdmission lostRun) ∧
      log.map Committed.id = [migrationCommand.commandId]) ∧
    ∃ x ∈ resentExchanges, ∃ y ∈ resentExchanges, ∃ r, x.answer.isTaken = true ∧ y.answer.isTaken = false ∧
      x.answer.receipt? = some r ∧ y.answer.receipt? = some r := by
  constructor
  · obtain ⟨log, hlast, hwritten, -⟩ :=
      receipts_agree (H := migrationSha) (A := openAdmission) (s := emptyService)
      migrationCodec_faithful (consistent_empty 0) lostRun_quiet
    exact ⟨log, hlast, hwritten.trans lostRun_written⟩
  · obtain ⟨-, -, -, -, halike, -⟩ := receipts_agree (H := migrationSha) (A := openAdmission) (s := emptyService)
      migrationCodec_faithful (consistent_empty 0) resentRun_quiet
    obtain ⟨x, y, hx, hy, hkey, hnew, hknown, ⟨r, hr⟩, r', hr'⟩ := resent_pair
    obtain ⟨-, rfl⟩ := halike x hx y hy hkey r r' hr hr'
    exact ⟨x, hx, y, hy, r, hnew, hknown, hr, hr'⟩

theorem landings_increase_resent :
    emptyService.landings migrationSha migrationCodec openAdmission resentRun = [0, 1] ∧
      (emptyService.landings migrationSha migrationCodec openAdmission resentRun).Pairwise (· < ·) :=
  ⟨by decide +kernel, landings_increase migrationCodec_faithful (consistent_empty 0) resentRun_quiet⟩

def openedService : Service Unit := emptyService.run migrationSha migrationCodec openAdmission
  [.restart none, .commit migrationCommand 7 none .none]

theorem openedService_current : (openedService.writer.map fun w => (w.sqlite.handle.poisoned, w.sqlite.handle.connected,
    w.sqlite.handle.known, w.sqlite.handle.version == openedService.file.version)) = some (false, true, true, true) := by
  decide +kernel

/-- Another connection commits the second command. -/
def foreignRun : List (Input Migration Unit) :=
  [.foreign (openedService.file.contents ++
    (prepareCommand migrationSha migrationCodec secondCommand).toOption.elim [] fun prepared => prepared.rows 2 8)]

theorem foreign_commit_cuts_off_opened :
    (∃ e, ((openedService.run migrationSha migrationCodec openAdmission foreignRun).commit migrationSha migrationCodec
      openAdmission secondCommand 9 none .none).1 = .error e) ∧
    ((openedService.run migrationSha migrationCodec openAdmission foreignRun).commit migrationSha migrationCodec
      openAdmission secondCommand 9 none .none).2.file =
      (openedService.run migrationSha migrationCodec openAdmission foreignRun).file := by
  obtain ⟨w, hw, hflags⟩ := Option.map_eq_some_iff.mp openedService_current
  simp only [Prod.mk.injEq, beq_iff_eq] at hflags
  obtain ⟨hlive, hconnected, hknown, hversion⟩ := hflags
  refine foreign_commit_cuts_off hw ⟨hlive, hconnected, hknown, hversion⟩ ?_ ?_
  · simp [foreignRun]
  · exact Nat.succ_ne_self openedService.file.version

end EverTrace.L2.Journal
