import EverTrace.Lib.OrdMap
import EverTrace.L2Machine.Proposal
import EverTrace.L2Machine.Rows
import Mathlib.Data.List.Chain
/-!
# The proposal maps (`evertrace-store/src/projections/semantic.rs`)

The projection keeps every revision of every proposal and, for each proposal,
the current one. `recordProposal` takes the next revision of the journal:
besides the proposal's own chain it checks that no other proposal with the same
fingerprint is in the way. `rebuildProposals` computes the current revisions
again from all revisions, one proposal after another in the order of their ids.

Results:
* `recordProposal_ok`: exactly when a revision is accepted.
* `Log`, `recordAll_log`: what the maps hold after a list of revisions.
-/
namespace EverTrace.L2.Semantic
open EverTrace.Lib EverTrace.L1 EverTrace.L2.Store

/-- A revision and the journal sequence it was recorded at. -/
abbrev Entry := RevisionProposal × Nat

structure ProposalMaps where
  current : OrdMap RevisionProposalId Entry
  revisions : OrdMap RevisionId Entry

def ProposalMaps.empty : ProposalMaps := ⟨.empty, .empty⟩

/-- mirrors evertrace-store/src/projections/semantic.rs:228-233 -/
def isUnfinishedProposal (value : RevisionProposal) : Bool :=
  value.status == .pending || value.status == .validating || value.status == .deferred

/-- mirrors evertrace-store/src/projections/semantic.rs:235-237 -/
def blocksNewUnfinishedProposal (value : RevisionProposal) : Bool :=
  isUnfinishedProposal value || value.status == .accepted

/-- Another current proposal with the same fingerprint is in the way of an unfinished one.
mirrors evertrace-store/src/projections/semantic.rs:193-198 -/
def clashes (current : OrdMap RevisionProposalId Entry) (value : RevisionProposal) : Bool :=
  isUnfinishedProposal value && current.values.any fun existing =>
    existing.1.proposalId != value.proposalId
      && blocksNewUnfinishedProposal existing.1
      && existing.1.fingerprint == value.fingerprint

/-- A root must be the first of its proposal; any other revision must follow the current one.
mirrors evertrace-store/src/projections/semantic.rs:202-222 -/
def checkPlace (P : ProposalHashing) (st : ProposalMaps) (value : RevisionProposal) (seq : Nat)
    (error : StoreError) : Except StoreError Unit :=
  match value.parentProposalRevisionId with
  | none => ensure error (st.current.get value.proposalId).isNone
  | some parentId => do
    let parent ← okOr error (st.revisions.get parentId)
    ensure error (parent.2 ≤ seq)
    ensure error ((st.current.get value.proposalId).any fun current => current.1.proposalRevisionId == parentId)
    (parent.1.validateSuccessor P value).mapError fun _ => error

/-- mirrors evertrace-store/src/projections/semantic.rs:182-226 -/
def recordProposal (P : ProposalHashing) (st : ProposalMaps) (value : RevisionProposal) (seq : Nat)
    (error : StoreError) : Except StoreError ProposalMaps := do
  (value.validate P).mapError fun _ => error
  ensure error (st.revisions.get value.proposalRevisionId).isNone
  ensure error !clashes st.current value
  checkPlace P st value seq error
  .ok { current := st.current.insert value.proposalId (value, seq)
        revisions := st.revisions.insert value.proposalRevisionId (value, seq) }

/-- Revisions recorded one after another, each of them accepted. -/
def recordAll (P : ProposalHashing) (st : ProposalMaps) (entries : List Entry) : Except StoreError ProposalMaps :=
  entries.foldlM (fun st e => recordProposal P st e.1 e.2 .storeCorrupt) st

/-! ## Rebuilding -/

/-- `chains.entry(..).or_default().insert(..)`. A chain is a `BTreeMap` keyed by the parent revision; here it is a
list whose entries have different parents.
mirrors evertrace-store/src/projections/semantic.rs:287-294 -/
def addToChain (chains : OrdMap RevisionProposalId (List Entry)) (v : Entry) :
    Except StoreError (OrdMap RevisionProposalId (List Entry)) :=
  let chain := (chains.get v.1.proposalId).getD []
  if chain.any fun other => other.1.parentProposalRevisionId == v.1.parentProposalRevisionId then
    .error .storeCorrupt
  else .ok (chains.insert v.1.proposalId (chain ++ [v]))

/-- The revisions of each proposal.
mirrors evertrace-store/src/projections/semantic.rs:283-295 -/
def groupChains (values : List Entry) : Except StoreError (OrdMap RevisionProposalId (List Entry)) :=
  values.foldlM addToChain .empty

/-- `chain.remove(&parent)` -/
def takeChild (parent : Option RevisionId) (chain : List Entry) : Option (Entry × List Entry) :=
  (chain.find? fun v => v.1.parentProposalRevisionId = parent).map fun v =>
    (v, chain.filter fun v => v.1.parentProposalRevisionId ≠ parent)

/-- The `while` loop over one chain. Each round takes one revision out, so as many rounds as the chain is long are
enough.
mirrors evertrace-store/src/projections/semantic.rs:299-309 -/
def replayChain (P : ProposalHashing) (proposalId : RevisionProposalId) :
    Nat → List Entry → ProposalMaps → Except StoreError ProposalMaps
  | 0, _, st => .ok st
  | rounds + 1, chain, st =>
    if chain.isEmpty then .ok st
    else do
      let current ← okOr .storeCorrupt (st.current.get proposalId)
      let taken ← okOr .storeCorrupt (takeChild (some current.1.proposalRevisionId) chain)
      let st ← recordProposal P st taken.1.1 taken.1.2 .storeCorrupt
      replayChain P proposalId rounds taken.2 st

/-- One proposal of the rebuild: the root, then the rest of its chain.
mirrors evertrace-store/src/projections/semantic.rs:297-309 -/
def replayProposal (P : ProposalHashing) (st : ProposalMaps) (proposalId : RevisionProposalId)
    (chain : List Entry) : Except StoreError ProposalMaps := do
  let taken ← okOr .storeCorrupt (takeChild none chain)
  let st ← recordProposal P st taken.1.1 taken.1.2 .storeCorrupt
  replayChain P proposalId taken.2.length taken.2 st

/-- mirrors evertrace-store/src/projections/semantic.rs:277-315 -/
def rebuildProposals (P : ProposalHashing) (revisions : OrdMap RevisionId Entry) :
    Except StoreError (OrdMap RevisionProposalId Entry) := do
  let chains ← groupChains revisions.values
  let replayed ← chains.entries.foldlM (fun st e => replayProposal P st e.1 e.2) ProposalMaps.empty
  ensure .storeCorrupt (replayed.revisions.entries == revisions.entries)
  .ok replayed.current

/-! ## Rows -/

/-- mirrors evertrace-domain/src/semantic/proposal.rs:276-285 -/
def ProposalStatus.asStr : ProposalStatus → String
  | .pending => "pending"
  | .validating => "validating"
  | .accepted => "accepted"
  | .rejected => "rejected"
  | .deferred => "deferred"
  | .superseded => "superseded"

/-- mirrors evertrace-store/src/projections.rs:16260-16291 -/
def semanticProposalRow (proposal : RevisionProposal) (sourceEventSeq : Nat) : ObjectRow RevisionProposal where
  rowId := "object:revision_proposal:revision_proposal_revision:" ++ proposal.proposalRevisionId.toText
  rowKind := .data
  rowClass := some .object
  objectFamily := some "revision_proposal"
  objectKind := some "revision_proposal_revision"
  objectId := some proposal.proposalId.toText
  currentRevisionId := some proposal.proposalRevisionId.toText
  lifecycle := some proposal.status.asStr
  authority := some "none"
  repositoryId := none
  payload := proposal
  sourceEventSeq := sourceEventSeq
  projectionGeneration := 1

/-- One proposal row read back: its identity columns must name its payload, and no revision comes twice.
mirrors evertrace-store/src/projections/semantic.rs:63-71, 87-102, 132-143 -/
def readProposalRow (revisions : OrdMap RevisionId Entry) (row : ObjectRow RevisionProposal) :
    Except StoreError (OrdMap RevisionId Entry) := do
  ensure .storeCorrupt (row.rowClass == some .object)
  ensure .storeCorrupt (row.objectId == some row.payload.proposalId.toText
    && row.currentRevisionId == some row.payload.proposalRevisionId.toText)
  ensure .storeCorrupt (revisions.get row.payload.proposalRevisionId).isNone
  .ok (revisions.insert row.payload.proposalRevisionId (row.payload, row.sourceEventSeq))

/-- The proposals of `SemanticCurrentView::from_rows`; the atoms are read and rebuilt apart from them.
mirrors evertrace-store/src/projections/semantic.rs:50-129 -/
def proposalsFromRows (P : ProposalHashing) (rows : List (ObjectRow RevisionProposal)) :
    Except StoreError (OrdMap RevisionProposalId Entry) := do
  let revisions ← (rows.filter fun row =>
    row.rowKind == .data && row.objectKind == some "revision_proposal_revision").foldlM readProposalRow .empty
  rebuildProposals P revisions

/-! ## One revision -/

variable {P : ProposalHashing} {st st' : ProposalMaps} {value : RevisionProposal} {seq : Nat} {error : StoreError}

/-- The place a revision takes in its proposal's chain: it starts one, or follows the current revision. -/
def Placed (P : ProposalHashing) (st : ProposalMaps) (value : RevisionProposal) (seq : Nat) : Prop :=
  (value.parentProposalRevisionId = none ∧ st.current.get value.proposalId = none) ∨
    ∃ parent current : Entry, value.parentProposalRevisionId = some current.1.proposalRevisionId ∧
      st.revisions.get current.1.proposalRevisionId = some parent ∧ parent.2 ≤ seq ∧
      st.current.get value.proposalId = some current ∧ parent.1.validateSuccessor P value = .ok ()

theorem checkPlace_ok : checkPlace P st value seq error = .ok () ↔ Placed P st value seq := by
  unfold checkPlace Placed
  cases hparent : value.parentProposalRevisionId with
  | none => simp
  | some parentId =>
    refine ⟨fun h => .inr ?_, fun h => ?_⟩
    · obtain ⟨parent, hget, h⟩ := bind_eq_ok.mp h
      obtain ⟨_, hle, h⟩ := bind_eq_ok.mp h
      obtain ⟨_, hcurrent, hsucc⟩ := bind_eq_ok.mp h
      have hcurrent := ensure_ok.mp hcurrent
      cases hc : st.current.get value.proposalId with
      | none =>
        rw [hc] at hcurrent
        cases hcurrent
      | some current =>
        rw [hc, Option.any_some, beq_iff_eq] at hcurrent
        refine ⟨parent, current, by rw [hcurrent], by rw [hcurrent]; exact okOr_ok.mp hget, ?_, rfl,
          mapError_ok.mp hsucc⟩
        simpa using hle
    · rcases h with ⟨h, _⟩ | ⟨parent, current, hid, hget, hle, hcurrent, hsucc⟩
      · cases h
      · have hid : parentId = current.1.proposalRevisionId := Option.some.inj hid
        rw [← hid] at hget
        refine bind_eq_ok.mpr ⟨parent, okOr_ok.mpr hget, ?_⟩
        refine bind_eq_ok.mpr ⟨(), ensure_ok.mpr (by simpa using hle), ?_⟩
        refine bind_eq_ok.mpr ⟨(), ensure_ok.mpr ?_, mapError_ok.mpr hsucc⟩
        rw [hcurrent, Option.any_some, beq_iff_eq, hid]

/-- **Exactly when a revision is accepted, and what is stored then.** -/
theorem recordProposal_ok : recordProposal P st value seq error = .ok st' ↔
    value.validate P = .ok () ∧ st.revisions.get value.proposalRevisionId = none ∧
      clashes st.current value = false ∧ Placed P st value seq ∧
      st' = ⟨st.current.insert value.proposalId (value, seq),
        st.revisions.insert value.proposalRevisionId (value, seq)⟩ := by
  unfold recordProposal
  refine ⟨fun h => ?_, fun ⟨hvalid, hfresh, hclear, hplaced, hst⟩ => ?_⟩
  · obtain ⟨_, hvalid, h⟩ := bind_eq_ok.mp h
    obtain ⟨_, hfresh, h⟩ := bind_eq_ok.mp h
    obtain ⟨_, hclear, h⟩ := bind_eq_ok.mp h
    obtain ⟨_, hplaced, h⟩ := bind_eq_ok.mp h
    refine ⟨mapError_ok.mp hvalid, by simpa using hfresh, by simpa using hclear, checkPlace_ok.mp hplaced, ?_⟩
    exact (Except.ok.inj h).symm
  · refine bind_eq_ok.mpr ⟨(), mapError_ok.mpr hvalid, ?_⟩
    refine bind_eq_ok.mpr ⟨(), ensure_ok.mpr (by rw [hfresh]; rfl), ?_⟩
    refine bind_eq_ok.mpr ⟨(), ensure_ok.mpr (by rw [hclear]; rfl), ?_⟩
    refine bind_eq_ok.mpr ⟨(), checkPlace_ok.mpr hplaced, ?_⟩
    rw [hst]

theorem clashes_iff {current : OrdMap RevisionProposalId Entry} : clashes current value = true ↔
    isUnfinishedProposal value = true ∧ ∃ id e, current.get id = some e ∧ e.1.proposalId ≠ value.proposalId ∧
      blocksNewUnfinishedProposal e.1 = true ∧ e.1.fingerprint = value.fingerprint := by
  unfold clashes
  rw [Bool.and_eq_true, List.any_eq_true]
  refine and_congr_right fun _ => ⟨fun ⟨e, he, h⟩ => ?_, fun ⟨id, e, he, hne, hblocks, hsame⟩ => ?_⟩
  · obtain ⟨id, hid⟩ := OrdMap.mem_values.mp he
    simp only [Bool.and_eq_true, bne_iff_ne, beq_iff_eq, and_assoc] at h
    exact ⟨id, e, hid, h⟩
  · refine ⟨e, OrdMap.mem_values.mpr ⟨id, he⟩, ?_⟩
    simp only [Bool.and_eq_true, bne_iff_ne, beq_iff_eq, and_assoc]
    exact ⟨hne, hblocks, hsame⟩

/-! ## The maps after a list of revisions -/

def Links (P : ProposalHashing) (a b : Entry) : Prop :=
  b.1.parentProposalRevisionId = some a.1.proposalRevisionId ∧ a.1.validateSuccessor P b.1 = .ok () ∧ a.2 ≤ b.2

/-- An entry continues a chain that ends in `last`: it is the root of an empty one. -/
def Continues (P : ProposalHashing) (last : Option Entry) (e : Entry) : Prop :=
  match last with
  | none => e.1.parentProposalRevisionId = none
  | some a => Links P a e

/-- The entries of one proposal, in the order they were recorded. -/
def chainOf (entries : List Entry) (proposalId : RevisionProposalId) : List Entry :=
  entries.filter fun e => e.1.proposalId = proposalId

/-- The maps hold exactly these revisions: each proposal's form a chain from a root, and its last one is current. -/
structure Log (P : ProposalHashing) (entries : List Entry) (st : ProposalMaps) : Prop where
  valid : ∀ e ∈ entries, e.1.validate P = .ok ()
  distinct : (entries.map fun e => e.1.proposalRevisionId).Nodup
  linked : ∀ id, (chainOf entries id).IsChain (Links P)
  rooted : ∀ id e, (chainOf entries id).head? = some e → e.1.parentProposalRevisionId = none
  current : ∀ id, st.current.get id = (chainOf entries id).getLast?
  revisions : ∀ id e, st.revisions.get id = some e ↔ e ∈ entries ∧ e.1.proposalRevisionId = id

theorem mem_chainOf {entries : List Entry} {id : RevisionProposalId} {e : Entry} :
    e ∈ chainOf entries id ↔ e ∈ entries ∧ e.1.proposalId = id := by
  unfold chainOf
  rw [List.mem_filter, decide_eq_true_eq]

theorem chainOf_append (es fs : List Entry) (id : RevisionProposalId) :
    chainOf (es ++ fs) id = chainOf es id ++ chainOf fs id := List.filter_append ..

theorem chainOf_cons_self (e : Entry) (es : List Entry) :
    chainOf (e :: es) e.1.proposalId = e :: chainOf es e.1.proposalId := by
  unfold chainOf
  rw [List.filter_cons_of_pos (by simp)]

theorem chainOf_cons_of_ne {e : Entry} {id : RevisionProposalId} (h : e.1.proposalId ≠ id) (es : List Entry) :
    chainOf (e :: es) id = chainOf es id := by
  unfold chainOf
  rw [List.filter_cons_of_neg (by simpa using h)]

theorem log_empty : Log P [] .empty where
  valid := fun _ h => by cases h
  distinct := List.nodup_nil
  linked := fun _ => List.IsChain.nil
  rooted := fun _ _ h => by cases h
  current := fun _ => rfl
  revisions := fun _ _ => ⟨fun h => (by cases h), fun h => (by cases h.1)⟩

theorem Log.current_id {entries : List Entry} (log : Log P entries st) {id : RevisionProposalId} {e : Entry}
    (h : st.current.get id = some e) : e ∈ entries ∧ e.1.proposalId = id := by
  rw [log.current] at h
  exact mem_chainOf.mp (List.mem_of_getLast? h)

/-- In a logged state a revision has a place exactly when it continues its proposal's chain. -/
theorem Log.placed_iff {entries : List Entry} (log : Log P entries st) :
    Placed P st value seq ↔ Continues P (chainOf entries value.proposalId).getLast? (value, seq) := by
  unfold Placed Continues
  rw [log.current]
  cases hlast : (chainOf entries value.proposalId).getLast? with
  | none => simp
  | some a =>
    have hmem : a ∈ entries := (mem_chainOf.mp (List.mem_of_getLast? hlast)).1
    have hget : st.revisions.get a.1.proposalRevisionId = some a := (log.revisions _ _).mpr ⟨hmem, rfl⟩
    refine ⟨fun h => ?_, fun ⟨hid, hsucc, hle⟩ => .inr ⟨a, a, hid, hget, hle, rfl, hsucc⟩⟩
    rcases h with ⟨_, h⟩ | ⟨parent, current, hid, hparent, hle, hcurrent, hsucc⟩
    · cases h
    · have hcurrent : a = current := Option.some.inj hcurrent
      rw [← hcurrent] at hid hparent
      rw [hget] at hparent
      have hparent : a = parent := Option.some.inj hparent
      rw [← hparent] at hsucc hle
      exact ⟨hid, hsucc, hle⟩

/-- A chain grows at its end. -/
theorem continues_append {l : List Entry} {e : Entry} (hlinked : l.IsChain (Links P))
    (hrooted : ∀ a, l.head? = some a → a.1.parentProposalRevisionId = none) (h : Continues P l.getLast? e) :
    (l ++ [e]).IsChain (Links P) ∧
      ∀ a, (l ++ [e]).head? = some a → a.1.parentProposalRevisionId = none := by
  unfold Continues at h
  cases hlast : l.getLast? with
  | none =>
    rw [hlast] at h
    rw [List.getLast?_eq_none_iff.mp hlast]
    refine ⟨List.IsChain.singleton _, fun a ha => ?_⟩
    rw [← Option.some.inj ha]
    exact h
  | some b =>
    rw [hlast] at h
    have hne : l ≠ [] := fun hnil => by rw [hnil] at hlast; cases hlast
    refine ⟨List.isChain_append.mpr ⟨hlinked, List.IsChain.singleton _, fun x hx y hy => ?_⟩, fun a ha => ?_⟩
    · rw [hlast] at hx
      rw [← Option.some.inj hx, ← Option.some.inj hy]
      exact h
    · rw [List.head?_append_of_ne_nil _ hne] at ha
      exact hrooted a ha

/-- What one accepted revision adds to the log. -/
theorem Log.step {entries : List Entry} (log : Log P entries st)
    (h : recordProposal P st value seq error = .ok st') : Log P (entries ++ [(value, seq)]) st' := by
  obtain ⟨hvalid, hfresh, _, hplaced, rfl⟩ := recordProposal_ok.mp h
  have hcontinues := log.placed_iff.mp hplaced
  have hchain : ∀ id, chainOf (entries ++ [(value, seq)]) id =
      if id = value.proposalId then chainOf entries id ++ [(value, seq)] else chainOf entries id := by
    intro id
    rw [chainOf_append]
    split
    · next hid => rw [hid, chainOf_cons_self]; rfl
    · next hid => rw [chainOf_cons_of_ne (Ne.symm hid)]; exact List.append_nil _
  have hgrown := continues_append (log.linked value.proposalId) (log.rooted value.proposalId) hcontinues
  have hnew : ∀ e ∈ entries, e.1.proposalRevisionId ≠ value.proposalRevisionId := fun e he heq => by
    have hget := (log.revisions value.proposalRevisionId e).mpr ⟨he, heq⟩
    rw [hfresh] at hget
    cases hget
  refine ⟨fun e he => ?_, ?_, fun id => ?_, fun id e he => ?_, fun id => ?_, fun id e => ?_⟩
  · rcases List.mem_append.mp he with he | he
    · exact log.valid e he
    · rw [List.mem_singleton.mp he]
      exact hvalid
  · rw [List.map_append, List.nodup_append]
    refine ⟨log.distinct, List.nodup_singleton _, fun a ha b hb => ?_⟩
    obtain ⟨e, he, rfl⟩ := List.mem_map.mp ha
    rw [List.mem_singleton.mp hb]
    exact hnew e he
  · rw [hchain]
    split
    · next hid => rw [hid]; exact hgrown.1
    · exact log.linked id
  · rw [hchain] at he
    split at he
    · next hid => rw [hid] at he; exact hgrown.2 e he
    · exact log.rooted id e he
  · rw [hchain, OrdMap.get_insert]
    split
    · exact List.getLast?_concat.symm
    · exact log.current id
  · rw [OrdMap.get_insert, List.mem_append, List.mem_singleton]
    split
    · next hid =>
      refine ⟨fun h => ⟨.inr (Option.some.inj h).symm, by rw [← Option.some.inj h, hid]⟩, fun ⟨hmem, heq⟩ => ?_⟩
      rcases hmem with hmem | rfl
      · exact absurd (heq.trans hid) (hnew e hmem)
      · rfl
    · next hid =>
      rw [log.revisions]
      refine ⟨fun ⟨hmem, heq⟩ => ⟨.inl hmem, heq⟩, fun ⟨hmem, heq⟩ => ⟨hmem.resolve_right fun h => ?_, heq⟩⟩
      rw [h] at heq
      exact hid heq.symm

theorem recordAll_append {pre post : List Entry} :
    recordAll P st (pre ++ post) = .ok st' ↔ ∃ mid, recordAll P st pre = .ok mid ∧ recordAll P mid post = .ok st' := by
  unfold recordAll
  rw [List.foldlM_append, bind_eq_ok]

/-- **What the maps hold after revisions accepted one after another.** -/
theorem recordAll_log : ∀ {es pre : List Entry} {st st' : ProposalMaps}, Log P pre st →
    recordAll P st es = .ok st' → Log P (pre ++ es) st' := by
  intro es
  induction es with
  | nil =>
    intro pre st st' log h
    rw [List.append_nil, ← Except.ok.inj h]
    exact log
  | cons e rest ih =>
    intro pre st st' log h
    obtain ⟨mid, hmid, h⟩ := bind_eq_ok.mp h
    have hlog := ih (log.step hmid) h
    rw [List.append_assoc] at hlog
    exact hlog

end EverTrace.L2.Semantic
