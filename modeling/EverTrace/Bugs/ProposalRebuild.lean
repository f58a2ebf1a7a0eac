import EverTrace.L2Machine.ProposalStore
/-!
# Bug: a rebuild refuses a history the journal accepted

`recordProposal` lets an unfinished revision in when no other proposal with its
fingerprint is unfinished or accepted at that moment of the journal.
`rebuildProposals` replays one proposal after another, so each revision is
checked again against the last revisions of the proposals with smaller ids,
whatever they were when it was recorded.

A proposal recorded with a fingerprint, then rejected, leaves the fingerprint free;
when an older proposal comes back from deferral on a new base and takes it, the
journal accepts that, and from then on every read of the rows reports
`StoreCorrupt`.

* `rebuild_iff`: the rebuild gives the current revisions exactly when no unfinished
  revision has the fingerprint of the last, blocking revision of a smaller id.
* `reopened_proposal_corrupts`: five revisions the journal accepts and the rebuild refuses.
-/
namespace EverTrace.Bugs.ProposalRebuild
open EverTrace.Lib EverTrace.L1 EverTrace.L2.Store EverTrace.L2.Semantic

variable {P : ProposalHashing} {st st' : ProposalMaps}

/-- Some proposal with a smaller id ends in a revision that is in the way of this one. -/
def Obstructed (es : List Entry) (e : Entry) : Prop :=
  isUnfinishedProposal e.1 = true ∧ ∃ id last, id < e.1.proposalId ∧ (chainOf es id).getLast? = some last ∧
    blocksNewUnfinishedProposal last.1 = true ∧ last.1.fingerprint = e.1.fingerprint

def Unobstructed (es : List Entry) : Prop := ∀ e ∈ es, ¬ Obstructed es e

theorem obstructed_iff {es : List Entry} {e : Entry} : Obstructed es e ↔
    isUnfinishedProposal e.1 = true ∧ ∃ last ∈ es, last.1.proposalId < e.1.proposalId ∧
      (chainOf es last.1.proposalId).getLast? = some last ∧ blocksNewUnfinishedProposal last.1 = true ∧
      last.1.fingerprint = e.1.fingerprint := by
  refine and_congr_right fun _ => ⟨fun ⟨id, last, hlt, hlast, hrest⟩ => ?_, fun ⟨last, _, hlt, hlast, hrest⟩ => ?_⟩
  · obtain ⟨hmem, hid⟩ := mem_chainOf.mp (List.mem_of_getLast? hlast)
    rw [← hid] at hlt hlast
    exact ⟨last, hmem, hlt, hlast, hrest⟩
  · exact ⟨_, last, hlt, hlast, hrest⟩

instance (es : List Entry) (e : Entry) : Decidable (Obstructed es e) := decidable_of_iff _ obstructed_iff.symm

instance (es : List Entry) : Decidable (Unobstructed es) := inferInstanceAs (Decidable (∀ e ∈ es, ¬ Obstructed es e))

/-! ## Replaying in another order -/

/-- `gs` has the entries of `es`, proposal after proposal in the order of ids. -/
structure Grouped (es gs : List Entry) : Prop where
  same : ∀ id, chainOf gs id = chainOf es id
  sorted : gs.Pairwise fun a b => a.1.proposalId ≤ b.1.proposalId

theorem Grouped.perm {es gs : List Entry} (h : Grouped es gs) : gs.Perm es := by
  refine List.perm_iff_count.mpr fun e => ?_
  have hcount : ∀ l : List Entry, List.count e (chainOf l e.1.proposalId) = List.count e l := fun l =>
    List.count_filter (by simp)
  rw [← hcount gs, ← hcount es, h.same]

/-- Where a revision stands in the grouped order, its chain so far ends in the revision it continues. -/
theorem Grouped.continues {es gs : List Entry} (h : Grouped es gs) (log : Log P es st) {pre post : List Entry}
    {e : Entry} (hsplit : gs = pre ++ e :: post) : Continues P (chainOf pre e.1.proposalId).getLast? e := by
  have hchain : chainOf es e.1.proposalId =
      chainOf pre e.1.proposalId ++ e :: chainOf post e.1.proposalId := by
    rw [← h.same, hsplit, chainOf_append, chainOf_cons_self]
  have hlinked := log.linked e.1.proposalId
  have hrooted := log.rooted e.1.proposalId
  rw [hchain] at hlinked hrooted
  unfold Continues
  cases hlast : (chainOf pre e.1.proposalId).getLast? with
  | none =>
    rw [List.getLast?_eq_none_iff.mp hlast] at hrooted
    exact hrooted e rfl
  | some a =>
    obtain ⟨front, hfront⟩ := List.getLast?_eq_some_iff.mp hlast
    rw [hfront, List.append_assoc] at hlinked
    exact (List.isChain_append_cons_cons.mp hlinked).2.1

/-- Before a revision in the grouped order stand all entries of smaller ids and none of larger ones. -/
theorem Grouped.before {es gs : List Entry} (h : Grouped es gs) {pre post : List Entry} {e : Entry}
    (hsplit : gs = pre ++ e :: post) {id : RevisionProposalId} (hne : id ≠ e.1.proposalId) :
    chainOf pre id = if id < e.1.proposalId then chainOf es id else [] := by
  have hsorted := h.sorted
  rw [hsplit, List.pairwise_append, List.pairwise_cons] at hsorted
  obtain ⟨_, ⟨hafter, _⟩, hbefore⟩ := hsorted
  have hsame := h.same id
  rw [hsplit, chainOf_append, chainOf_cons_of_ne (Ne.symm hne)] at hsame
  by_cases hlt : id < e.1.proposalId
  · have hpost : chainOf post id = [] := List.filter_eq_nil_iff.mpr fun x hx hid => by
      have hle := hafter x hx
      rw [of_decide_eq_true hid] at hle
      exact absurd hlt (not_lt.mpr hle)
    rw [hpost, List.append_nil] at hsame
    rw [if_pos hlt, hsame]
  · rw [if_neg hlt]
    refine List.filter_eq_nil_iff.mpr fun x hx hid => hlt ?_
    have hle := hbefore x hx e List.mem_cons_self
    rw [of_decide_eq_true hid] at hle
    exact lt_of_le_of_ne hle hne

/-- In the grouped order a revision clashes exactly when it is obstructed. -/
theorem Grouped.clashes_iff {es gs : List Entry} (h : Grouped es gs) {pre post : List Entry} {e : Entry}
    (hsplit : gs = pre ++ e :: post) (log : Log P pre st) :
    clashes st.current e.1 = true ↔ Obstructed es e := by
  rw [EverTrace.L2.Semantic.clashes_iff]
  refine and_congr_right fun _ => ⟨fun ⟨id, last, hget, hne, hblocks, hsame⟩ => ?_,
    fun ⟨id, last, hlt, hlast, hblocks, hsame⟩ => ?_⟩
  · have hid := (log.current_id hget).2
    rw [hid] at hne
    rw [log.current, h.before hsplit hne] at hget
    by_cases hlt : id < e.1.proposalId
    · rw [if_pos hlt] at hget
      exact ⟨id, last, hlt, hget, hblocks, hsame⟩
    · rw [if_neg hlt] at hget
      cases hget
  · have hget : st.current.get id = some last := by
      rw [log.current, h.before hsplit (ne_of_lt hlt), if_pos hlt]
      exact hlast
    refine ⟨id, last, hget, ?_, hblocks, hsame⟩
    rw [(log.current_id hget).2]
    exact ne_of_lt hlt

/-- **Replayed in the grouped order, the revisions are accepted exactly when none is obstructed.** -/
theorem Grouped.recordAll_iff {es gs : List Entry} (h : Grouped es gs) (log : Log P es st) :
    ∀ {post pre : List Entry} {mid : ProposalMaps}, gs = pre ++ post → Log P pre mid →
      ((∃ done, recordAll P mid post = .ok done) ↔ ∀ e ∈ post, ¬ Obstructed es e) := by
  intro post
  induction post with
  | nil => exact fun _ _ => ⟨fun _ _ he => (by cases he), fun _ => ⟨_, rfl⟩⟩
  | cons e rest ih =>
    intro pre mid hsplit hlog
    have hmem : e ∈ es := h.perm.mem_iff.mp (by rw [hsplit]; exact List.mem_append_right _ List.mem_cons_self)
    have hfresh : mid.revisions.get e.1.proposalRevisionId = none := by
      cases hget : mid.revisions.get e.1.proposalRevisionId with
      | none => rfl
      | some x =>
        -- the same revision id would stand twice in the history
        obtain ⟨hx, hid⟩ := (hlog.revisions _ _).mp hget
        have hnodup := (h.perm.map fun e => e.1.proposalRevisionId).nodup_iff.mpr log.distinct
        rw [hsplit, List.map_append, List.nodup_append] at hnodup
        exact absurd hid (hnodup.2.2 _ (List.mem_map_of_mem hx) _ (List.mem_map_of_mem List.mem_cons_self))
    have hplaced := hlog.placed_iff.mpr (h.continues log hsplit)
    have hsplit' : gs = (pre ++ [e]) ++ rest := by rw [hsplit, List.append_assoc]; rfl
    refine ⟨fun ⟨done, hdone⟩ => ?_, fun hclear => ?_⟩
    · obtain ⟨next, hnext, hrest⟩ := bind_eq_ok.mp hdone
      have hnot := (recordProposal_ok.mp hnext).2.2.1
      refine List.forall_mem_cons.mpr ⟨fun hobstructed => ?_, (ih hsplit' (hlog.step hnext)).mp ⟨done, hrest⟩⟩
      rw [(h.clashes_iff hsplit hlog).mpr hobstructed] at hnot
      cases hnot
    · obtain ⟨hclear, hrest⟩ := List.forall_mem_cons.mp hclear
      have hnot : clashes mid.current e.1 = false := by
        rw [Bool.eq_false_iff]
        exact fun hclash => hclear ((h.clashes_iff hsplit hlog).mp hclash)
      have hnext : recordProposal P mid e.1 e.2 .storeCorrupt = .ok _ :=
        recordProposal_ok.mpr ⟨log.valid e hmem, hfresh, hnot, hplaced, rfl⟩
      obtain ⟨done, hdone⟩ := (ih hsplit' (hlog.step hnext)).mpr hrest
      exact ⟨done, bind_eq_ok.mpr ⟨_, hnext, hdone⟩⟩

theorem Grouped.maps_eq {es gs : List Entry} (h : Grouped es gs) (log : Log P es st) (log' : Log P gs st') :
    st'.current = st.current ∧ st'.revisions = st.revisions := by
  refine ⟨OrdMap.ext_get fun id => ?_, OrdMap.ext_get fun id => Option.ext fun e => ?_⟩
  · rw [log.current, log'.current, h.same]
  · rw [log.revisions, log'.revisions, h.perm.mem_iff]

/-! ## The rebuild replays in that order -/

theorem parents_nodup : ∀ {l : List Entry}, l.IsChain (Links P) →
    (∀ e, l.head? = some e → e.1.parentProposalRevisionId = none) →
    (l.map fun e => e.1.proposalRevisionId).Nodup → (l.map fun e => e.1.parentProposalRevisionId).Nodup := by
  intro l hlinked hrooted hnodup
  -- after the root, the parents are the revisions themselves without the last
  have htail : ∀ {l : List Entry} {a : Entry}, (a :: l).IsChain (Links P) →
      l.map (fun e => e.1.parentProposalRevisionId) =
        ((a :: l).dropLast.map fun e => e.1.proposalRevisionId).map some := by
    intro l
    induction l with
    | nil => intro a _; rfl
    | cons b rest ih =>
      intro a hlinked
      obtain ⟨hlink, hrest⟩ := List.isChain_cons_cons.mp hlinked
      rw [List.map_cons, hlink.1, ih hrest]
      rfl
  cases l with
  | nil => exact List.nodup_nil
  | cons a rest =>
    rw [List.map_cons, hrooted a rfl, htail hlinked, List.nodup_cons]
    refine ⟨fun hmem => ?_, ?_⟩
    · obtain ⟨_, _, h⟩ := List.mem_map.mp hmem
      cases h
    · refine List.Nodup.map (fun _ _ h => Option.some.inj h) ?_
      exact hnodup.sublist ((List.dropLast_sublist _).map _)

/-- With different parents, grouping keeps each proposal's revisions in one chain. -/
theorem groupChains_eq : ∀ {values seen : List Entry} {chains : OrdMap RevisionProposalId (List Entry)},
    (∀ id, ((chainOf (seen ++ values) id).map fun e => e.1.parentProposalRevisionId).Nodup) →
    (∀ id, chains.get id = if chainOf seen id = [] then none else some (chainOf seen id)) →
    ∃ grouped, values.foldlM addToChain chains = .ok grouped ∧
      ∀ id, grouped.get id =
        if chainOf (seen ++ values) id = [] then none else some (chainOf (seen ++ values) id) := by
  intro values
  induction values with
  | nil =>
    intro seen chains _ hchains
    refine ⟨chains, rfl, fun id => ?_⟩
    rw [List.append_nil]
    exact hchains id
  | cons v rest ih =>
    intro seen chains hnodup hchains
    have hchain : (chains.get v.1.proposalId).getD [] = chainOf seen v.1.proposalId := by
      rw [hchains]
      split
      · next h => rw [h]; rfl
      · rfl
    have hseen : seen ++ v :: rest = (seen ++ [v]) ++ rest := by rw [List.append_assoc]; rfl
    have hnew : ¬ ((chainOf seen v.1.proposalId).any fun other =>
        other.1.parentProposalRevisionId == v.1.parentProposalRevisionId) = true := by
      intro hany
      obtain ⟨other, hother, hsame⟩ := List.any_eq_true.mp hany
      have h := hnodup v.1.proposalId
      rw [chainOf_append, chainOf_cons_self, List.map_append, List.map_cons, List.nodup_append] at h
      exact h.2.2 _ (List.mem_map_of_mem hother) _ List.mem_cons_self (by simpa using hsame)
    rw [hseen] at hnodup ⊢
    have hadd : addToChain chains v = .ok (chains.insert v.1.proposalId (chainOf seen v.1.proposalId ++ [v])) := by
      unfold addToChain
      rw [hchain]
      exact if_neg hnew
    have hadded : ∀ id, (chains.insert v.1.proposalId (chainOf seen v.1.proposalId ++ [v])).get id =
        if chainOf (seen ++ [v]) id = [] then none else some (chainOf (seen ++ [v]) id) := by
      intro id
      rw [OrdMap.get_insert, chainOf_append]
      split
      · next hid =>
        rw [hid, chainOf_cons_self]
        exact (if_neg (List.append_ne_nil_of_right_ne_nil _ (List.cons_ne_nil _ _))).symm
      · next hid =>
        rw [chainOf_cons_of_ne (Ne.symm hid), hchains, show chainOf [] id = [] from rfl, List.append_nil]
    obtain ⟨grouped, hgrouped, hget⟩ := ih hnodup hadded
    exact ⟨grouped, bind_eq_ok.mpr ⟨_, hadd, hgrouped⟩, hget⟩

theorem groupChains_ok {values : List Entry}
    (h : ∀ id, ((chainOf values id).map fun e => e.1.parentProposalRevisionId).Nodup) :
    ∃ grouped, groupChains values = .ok grouped ∧
      ∀ id, grouped.get id = if chainOf values id = [] then none else some (chainOf values id) :=
  @groupChains_eq values [] .empty h fun _ => rfl

theorem takeChild_eq {chain rest : List Entry} {e : Entry} (hperm : chain.Perm (e :: rest))
    (hnodup : ((e :: rest).map fun e => e.1.parentProposalRevisionId).Nodup) :
    ∃ left, takeChild e.1.parentProposalRevisionId chain = some (e, left) ∧ left.Perm rest := by
  have honly : ∀ x ∈ chain, x.1.parentProposalRevisionId = e.1.parentProposalRevisionId → x = e := fun x hx hsame =>
    List.inj_on_of_nodup_map hnodup (hperm.mem_iff.mp hx) List.mem_cons_self hsame
  have hmem : e ∈ chain := hperm.mem_iff.mpr List.mem_cons_self
  have hfind : chain.find? (fun v => v.1.parentProposalRevisionId = e.1.parentProposalRevisionId) = some e := by
    cases hfound : chain.find? (fun v => v.1.parentProposalRevisionId = e.1.parentProposalRevisionId) with
    | none => exact absurd (decide_eq_true rfl) (List.find?_eq_none.mp hfound e hmem)
    | some x =>
      have hx := List.find?_some hfound
      rw [honly x (List.mem_of_find?_eq_some hfound) (of_decide_eq_true hx)]
  refine ⟨chain.filter fun v => v.1.parentProposalRevisionId ≠ e.1.parentProposalRevisionId, ?_, ?_⟩
  · unfold takeChild
    rw [hfind]
    rfl
  · refine (hperm.filter _).trans (List.Perm.of_eq ?_)
    rw [List.filter_cons_of_neg (by simp), List.filter_eq_self]
    rw [List.map_cons, List.nodup_cons] at hnodup
    refine fun x hx => decide_eq_true fun hsame => hnodup.1 ?_
    rw [← hsame]
    exact List.mem_map_of_mem hx

theorem replayChain_round {id : RevisionProposalId} {rounds : Nat} {chain left : List Entry} {last e : Entry}
    (hne : chain ≠ []) (hcurrent : st.current.get id = some last)
    (htake : takeChild (some last.1.proposalRevisionId) chain = some (e, left)) :
    replayChain P id (rounds + 1) chain st =
      recordProposal P st e.1 e.2 .storeCorrupt >>= replayChain P id rounds left := by
  have hempty : ¬ chain.isEmpty = true := fun h => hne (List.isEmpty_iff.mp h)
  rw [replayChain, if_neg hempty, hcurrent]
  change (okOr StoreError.storeCorrupt (takeChild (some last.1.proposalRevisionId) chain) >>= _) = _
  rw [htake]
  rfl

theorem replayChain_eq {id : RevisionProposalId} : ∀ {rest chain : List Entry} {last : Entry} {st : ProposalMaps},
    chain.Perm rest → (last :: rest).IsChain (Links P) →
    (rest.map fun e => e.1.parentProposalRevisionId).Nodup → (∀ e ∈ rest, e.1.proposalId = id) →
    st.current.get id = some last →
    replayChain P id rest.length chain st = recordAll P st rest := by
  intro rest
  induction rest with
  | nil => intro chain last st _ _ _ _ _; rfl
  | cons e rest ih =>
    intro chain last st hperm hlinked hnodup hids hcurrent
    obtain ⟨hlink, hrest⟩ := List.isChain_cons_cons.mp hlinked
    obtain ⟨left, htake, hleft⟩ := takeChild_eq hperm hnodup
    have hne : chain ≠ [] := fun hnil => by rw [hnil] at hperm; cases hperm.length_eq
    rw [hlink.1] at htake
    rw [List.length_cons, replayChain_round hne hcurrent htake]
    cases hnext : recordProposal P st e.1 e.2 .storeCorrupt with
    | error err =>
      unfold recordAll
      rw [List.foldlM_cons, hnext]
      rfl
    | ok next =>
      have hafter : next.current.get id = some e := by
        obtain ⟨_, _, _, _, rfl⟩ := recordProposal_ok.mp hnext
        rw [← hids e List.mem_cons_self]
        exact OrdMap.get_insert_self _ _ _
      have hloop := ih hleft hrest (List.nodup_cons.mp hnodup).2
        (fun x hx => hids x (List.mem_cons_of_mem _ hx)) hafter
      unfold recordAll at hloop ⊢
      rw [List.foldlM_cons, hnext]
      exact hloop

theorem replayProposal_eq {id : RevisionProposalId} {chain l : List Entry} {st : ProposalMaps}
    (hperm : chain.Perm l) (hne : l ≠ []) (hlinked : l.IsChain (Links P))
    (hrooted : ∀ e, l.head? = some e → e.1.parentProposalRevisionId = none)
    (hnodup : (l.map fun e => e.1.parentProposalRevisionId).Nodup) (hids : ∀ e ∈ l, e.1.proposalId = id) :
    replayProposal P st id chain = recordAll P st l := by
  cases l with
  | nil => exact absurd rfl hne
  | cons root rest =>
    obtain ⟨left, htake, hleft⟩ := takeChild_eq hperm hnodup
    rw [hrooted root rfl] at htake
    unfold replayProposal
    rw [htake]
    change (recordProposal P st root.1 root.2 .storeCorrupt >>= fun st => replayChain P id left.length left st) = _
    unfold recordAll
    rw [List.foldlM_cons, hleft.length_eq]
    cases hnext : recordProposal P st root.1 root.2 .storeCorrupt with
    | error err => rfl
    | ok next =>
      have hafter : next.current.get id = some root := by
        obtain ⟨_, _, _, _, rfl⟩ := recordProposal_ok.mp hnext
        rw [← hids root List.mem_cons_self]
        exact OrdMap.get_insert_self _ _ _
      exact replayChain_eq hleft hlinked (List.nodup_cons.mp hnodup).2
        (fun x hx => hids x (List.mem_cons_of_mem _ hx)) hafter

theorem chainOf_chainOf (es : List Entry) (id id' : RevisionProposalId) :
    chainOf (chainOf es id) id' = if id = id' then chainOf es id' else [] := by
  split
  · next h => rw [h, chainOf, List.filter_eq_self]; exact fun e he => decide_eq_true (mem_chainOf.mp he).2
  · next h =>
    refine List.filter_eq_nil_iff.mpr fun e he hid => h ?_
    rw [← (mem_chainOf.mp he).2, of_decide_eq_true hid]

theorem flatMap_single {part : List Entry} {id : RevisionProposalId} :
    ∀ {keys : List RevisionProposalId}, keys.Nodup →
      keys.flatMap (fun k => if k = id then part else []) = if id ∈ keys then part else [] := by
  intro keys
  induction keys with
  | nil => intro _; rfl
  | cons k rest ih =>
    intro hnodup
    obtain ⟨hnot, hrest⟩ := List.nodup_cons.mp hnodup
    rw [List.flatMap_cons, ih hrest]
    by_cases hk : k = id
    · rw [if_pos hk, if_neg (hk ▸ hnot), if_pos (by rw [hk]; exact List.mem_cons_self), List.append_nil]
    · rw [if_neg hk, List.nil_append]
      simp only [List.mem_cons, Ne.symm hk, false_or]

/-- The chains of the proposals, in the order of distinct ids that name them all, are the history grouped. -/
theorem grouped_of_keys {es : List Entry} {keys : List RevisionProposalId} (hsorted : keys.Pairwise (· < ·))
    (hall : ∀ id, chainOf es id ≠ [] → id ∈ keys) : Grouped es (keys.flatMap fun id => chainOf es id) := by
  refine ⟨fun id => ?_, ?_⟩
  · have hparts : chainOf (keys.flatMap fun id => chainOf es id) id =
        keys.flatMap fun k => if k = id then chainOf es id else [] := by
      unfold chainOf
      rw [List.filter_flatMap]
      exact congrArg (fun f => keys.flatMap f) (funext fun k => chainOf_chainOf es k id)
    rw [hparts, flatMap_single (hsorted.imp fun h => h.ne)]
    split
    · rfl
    · next hnot => exact (not_not.mp (mt (hall id) hnot)).symm
  · refine List.pairwise_flatMap.mpr ⟨fun id _ => ?_, hsorted.imp fun hlt a ha b hb => ?_⟩
    · refine List.pairwise_of_forall_mem_list fun a ha b hb => ?_
      rw [(mem_chainOf.mp ha).2, (mem_chainOf.mp hb).2]
    · rw [(mem_chainOf.mp ha).2, (mem_chainOf.mp hb).2]
      exact hlt.le

theorem recordAll_flatMap (part : RevisionProposalId → List Entry) : ∀ (keys : List RevisionProposalId)
    (st : ProposalMaps), recordAll P st (keys.flatMap part) =
      keys.foldlM (fun st k => recordAll P st (part k)) st := by
  intro keys
  induction keys with
  | nil => intro st; rfl
  | cons k rest ih =>
    intro st
    rw [List.flatMap_cons, List.foldlM_cons]
    unfold recordAll
    rw [List.foldlM_append]
    exact congrArg (fun f => recordAll P st (part k) >>= f) (funext ih)

theorem values_perm {es : List Entry} (log : Log P es st) : st.revisions.values.Perm es := by
  have hids : st.revisions.values.map (fun e => e.1.proposalRevisionId) = st.revisions.entries.map Prod.fst := by
    unfold OrdMap.values
    rw [List.map_map]
    refine List.map_congr_left fun x hx => ?_
    exact ((log.revisions x.1 x.2).mp (OrdMap.mem_entries.mp hx)).2
  have hnodup : st.revisions.values.Nodup := by
    refine List.Nodup.of_map (fun e => e.1.proposalRevisionId) ?_
    rw [hids]
    exact st.revisions.nodup_keys
  refine (List.perm_ext_iff_of_nodup hnodup (List.Nodup.of_map _ log.distinct)).mpr fun e => ?_
  rw [OrdMap.mem_values]
  refine ⟨fun ⟨id, hid⟩ => ((log.revisions id e).mp hid).1, fun he => ⟨_, (log.revisions _ e).mpr ⟨he, rfl⟩⟩⟩

/-- **The rebuild is the history replayed in the grouped order.** -/
theorem rebuild_eq {es : List Entry} (log : Log P es st) : ∃ gs, Grouped es gs ∧
    rebuildProposals P st.revisions = (do
      let replayed ← recordAll P .empty gs
      ensure .storeCorrupt (replayed.revisions.entries == st.revisions.entries)
      .ok replayed.current) := by
  have hchains : ∀ id, (chainOf st.revisions.values id).Perm (chainOf es id) := fun id =>
    (values_perm log).filter _
  have hparents : ∀ id, ((chainOf es id).map fun e => e.1.parentProposalRevisionId).Nodup := fun id =>
    parents_nodup (log.linked id) (log.rooted id) (log.distinct.sublist (List.filter_sublist.map _))
  obtain ⟨chains, hgroup, hget⟩ := groupChains_ok fun id => ((hchains id).map _).nodup_iff.mpr (hparents id)
  have hkeys : ∀ id, chainOf es id ≠ [] → id ∈ chains.entries.map Prod.fst := fun id hne => by
    have hvalues : chainOf st.revisions.values id ≠ [] := fun hnil => by
      have hperm := hchains id
      rw [hnil] at hperm
      exact hne hperm.symm.eq_nil
    exact List.mem_map_of_mem (f := Prod.fst) (OrdMap.mem_entries.mpr ((hget id).trans (if_neg hvalues)))
  have hreplay : ∀ e ∈ chains.entries, ∀ st : ProposalMaps,
      replayProposal P st e.1 e.2 = recordAll P st (chainOf es e.1) := fun e he st => by
    have hchain := hget e.1
    rw [OrdMap.mem_entries.mp (show (e.1, e.2) ∈ chains.entries from he)] at hchain
    split at hchain
    · cases hchain
    · next hne =>
      have hperm : e.2.Perm (chainOf es e.1) := by rw [Option.some.inj hchain]; exact hchains e.1
      refine replayProposal_eq hperm (fun hnil => hne ?_) (log.linked e.1) (log.rooted e.1) (hparents e.1)
        fun x hx => (mem_chainOf.mp hx).2
      rw [hnil, Option.some.inj hchain] at hperm
      exact hperm.eq_nil
  have hsorted : (chains.entries.map Prod.fst).Pairwise (· < ·) := List.pairwise_map.mpr chains.sorted
  refine ⟨(chains.entries.map Prod.fst).flatMap fun id => chainOf es id, grouped_of_keys hsorted hkeys, ?_⟩
  have hfold : chains.entries.foldlM (fun st e => replayProposal P st e.1 e.2) ProposalMaps.empty =
      recordAll P .empty ((chains.entries.map Prod.fst).flatMap fun id => chainOf es id) := by
    rw [recordAll_flatMap, List.foldlM_map]
    exact foldlM_congr hreplay _
  unfold rebuildProposals
  rw [hgroup]
  change (chains.entries.foldlM (fun st e => replayProposal P st e.1 e.2) ProposalMaps.empty >>= _) = _
  rw [hfold]

/-- **The rebuild gives the current revisions exactly when no revision is obstructed.** -/
theorem rebuild_ok_iff {es : List Entry} (log : Log P es st) :
    rebuildProposals P st.revisions = .ok st.current ↔ Unobstructed es := by
  obtain ⟨gs, hgrouped, heq⟩ := rebuild_eq log
  have hiff : (∃ done, recordAll P .empty gs = .ok done) ↔ Unobstructed es := by
    rw [hgrouped.recordAll_iff log (List.nil_append gs).symm log_empty]
    exact forall_congr' fun e => by rw [hgrouped.perm.mem_iff]
  rw [heq, ← hiff]
  refine ⟨fun h => ?_, fun ⟨done, hdone⟩ => ?_⟩
  · obtain ⟨done, hdone, _⟩ := bind_eq_ok.mp h
    exact ⟨done, hdone⟩
  · have hlog : Log P gs done := recordAll_log log_empty hdone
    obtain ⟨hcurrent, hrevisions⟩ := hgrouped.maps_eq log hlog
    refine bind_eq_ok.mpr ⟨done, hdone, bind_eq_ok.mpr ⟨(), ensure_ok.mpr ?_, congrArg Except.ok hcurrent⟩⟩
    rw [hrevisions, beq_self_eq_true]

/-! ## Reading the rows -/

theorem readRows_eq : ∀ {l : List Entry} {m : OrdMap RevisionId Entry},
    (l.map fun e => e.1.proposalRevisionId).Nodup → (∀ e ∈ l, m.get e.1.proposalRevisionId = none) →
    (l.map fun e => semanticProposalRow e.1 e.2).foldlM readProposalRow m =
      .ok (m.insertAll (l.map fun e => (e.1.proposalRevisionId, e))) := by
  intro l
  induction l with
  | nil => intro m _ _; rfl
  | cons e rest ih =>
    intro m hnodup hfresh
    obtain ⟨hnot, hrest⟩ := List.nodup_cons.mp hnodup
    have hread : readProposalRow m (semanticProposalRow e.1 e.2) = .ok (m.insert e.1.proposalRevisionId e) := by
      unfold readProposalRow semanticProposalRow
      dsimp only
      rw [hfresh e List.mem_cons_self]
      simp only [beq_self_eq_true, Bool.and_self, Option.isNone_none]
      rfl
    refine bind_eq_ok.mpr ⟨_, hread, ih hrest fun x hx => ?_⟩
    have hne : x.1.proposalRevisionId ≠ e.1.proposalRevisionId := fun hsame =>
      hnot (List.mem_map.mpr ⟨x, hx, hsame⟩)
    rw [OrdMap.get_insert_of_ne _ _ hne]
    exact hfresh x (List.mem_cons_of_mem _ hx)

/-- The rows of the stored revisions, in any order, give the rebuild of the stored revisions. -/
theorem proposalsFromRows_eq {es : List Entry} (log : Log P es st) {rows : List (ObjectRow RevisionProposal)}
    (hrows : rows.Perm (st.revisions.values.map fun e => semanticProposalRow e.1 e.2)) :
    proposalsFromRows P rows = rebuildProposals P st.revisions := by
  -- the rows are those of some order of the revisions
  let entries : List Entry := rows.map fun row => (row.payload, row.sourceEventSeq)
  have hentries : entries.Perm st.revisions.values := by
    have h := hrows.map fun row => (row.payload, row.sourceEventSeq)
    rw [List.map_map] at h
    exact h.trans (List.Perm.of_eq (List.map_id _))
  have hmap : entries.map (fun e => semanticProposalRow e.1 e.2) = rows := by
    rw [List.map_map]
    refine (List.map_congr_left fun x hx => ?_).trans (List.map_id _)
    obtain ⟨v, _, rfl⟩ := List.mem_map.mp (hrows.mem_iff.mp hx)
    rfl
  have hkeyed : (entries.map fun e => (e.1.proposalRevisionId, e)).Perm st.revisions.entries := by
    refine (hentries.map _).trans (List.Perm.of_eq ?_)
    unfold OrdMap.values
    rw [List.map_map]
    refine (List.map_congr_left fun x hx => ?_).trans (List.map_id _)
    exact Prod.ext ((log.revisions x.1 x.2).mp (OrdMap.mem_entries.mp hx)).2 rfl
  have hnodup : (entries.map fun e => e.1.proposalRevisionId).Nodup := by
    have h := (hkeyed.map Prod.fst).nodup_iff.mpr st.revisions.nodup_keys
    rw [List.map_map] at h
    exact h
  have hfilter : rows.filter (fun row =>
      row.rowKind == .data && row.objectKind == some "revision_proposal_revision") = rows := by
    refine List.filter_eq_self.mpr fun x hx => ?_
    obtain ⟨v, _, rfl⟩ := List.mem_map.mp (hrows.mem_iff.mp hx)
    unfold semanticProposalRow
    dsimp only
    simp only [beq_self_eq_true, Bool.and_self]
  unfold proposalsFromRows
  rw [hfilter, ← hmap, readRows_eq hnodup fun _ _ => rfl, OrdMap.insertAll_eq_of_perm hkeyed]
  rfl

/-- **Rebuilding equals replaying exactly when no unfinished revision has the
fingerprint of the last, unfinished or accepted, revision of a proposal with a smaller
id.** -/
theorem rebuild_iff (P : ProposalHashing) (es : List Entry) (st : ProposalMaps)
    (h : recordAll P .empty es = .ok st) :
    (rebuildProposals P st.revisions = .ok st.current ∧
      ∀ rows : List (ObjectRow RevisionProposal),
        rows.Perm (st.revisions.values.map fun e => semanticProposalRow e.1 e.2) →
        proposalsFromRows P rows = .ok st.current) ↔ Unobstructed es := by
  have log : Log P es st := recordAll_log log_empty h
  refine ⟨fun hrebuild => (rebuild_ok_iff log).mp hrebuild.1, fun hclear => ?_⟩
  have hrebuild := (rebuild_ok_iff log).mpr hclear
  exact ⟨hrebuild, fun rows hrows => by rw [proposalsFromRows_eq log hrows, hrebuild]⟩

/-! ## The defect -/

/-- The SHA-256 value of the canonical encoding of the one cohort reference. -/
def cohortBytes : Bytes :=
  [0x89, 0x49, 0x89, 0x27, 0x48, 0xdd, 0x27, 0xea, 0x2a, 0x8f, 0x34, 0x94, 0x6a, 0x8b, 0x9a, 0xaa,
   0x36, 0x7c, 0xb0, 0x93, 0x78, 0x7c, 0xf4, 0x0a, 0x05, 0x69, 0x38, 0xe6, 0x4d, 0xa0, 0x87, 0x52]

theorem cohortBytes_length : cohortBytes.length = 32 := rfl

def cohortHash : Digest := ⟨cohortBytes, cohortBytes_length⟩

/-- The SHA-256 values of the canonical encodings of the same change on the first and on the second base. -/
def firstFingerprint : Digest where
  bytes := [0xdc, 0x81, 0x14, 0x4f, 0xc8, 0x3c, 0x81, 0xa2, 0x26, 0xb1, 0x3c, 0xa9, 0xda, 0xdb, 0x1d, 0x7a,
    0xed, 0x56, 0x73, 0x40, 0xb4, 0x3a, 0x6a, 0x4f, 0xd6, 0xe4, 0xa7, 0x94, 0xbb, 0xbd, 0x81, 0xfd]
  length_eq := rfl

def secondFingerprint : Digest where
  bytes := [0x15, 0xd4, 0xfb, 0x3d, 0xf8, 0x7e, 0x58, 0x45, 0x63, 0x50, 0xf2, 0xbc, 0x8a, 0xc7, 0x0a, 0x62,
    0xca, 0x09, 0x0a, 0x66, 0xba, 0x9a, 0xe6, 0x00, 0x77, 0xc2, 0x4f, 0x6d, 0x82, 0x13, 0x23, 0xd7]
  length_eq := rfl

/-- SHA-256 on the three encodings: byte 125 is the last digit of the base revision. The TOML is the payload's. -/
def hashing : ProposalHashing where
  sha :=
    { digest := fun b => if b.length = 73 then cohortHash.bytes
        else if b.getD 125 0 = 0x31 then firstFingerprint.bytes else secondFingerprint.bytes
      digest_length := fun b => by
        split
        · rfl
        · split <;> rfl }
  toml := fun _ => some "kind = \"reserved_target\"\n\n[value]\nschema_version = 1\nsummary = \"s\"\n"

def sampleUuid (n : Nat) : Uuid := Fin.ofNat _ (0x70008000000000000000 + n)

/-- Revisions of two proposals to change one core membership. -/
def change (proposal revision : Nat) (parent : Option Nat) (base : Nat) (fingerprint : Digest)
    (status : ProposalStatus) (waitingOn : List ProposalWaitingOn) (reviewedAtUs : Option Int) : RevisionProposal where
  proposalId := ⟨sampleUuid proposal⟩
  proposalRevisionId := ⟨sampleUuid revision⟩
  parentProposalRevisionId := parent.map fun n => ⟨sampleUuid n⟩
  targetKind := .coreMembership
  targetId := some (.coreMembership ⟨sampleUuid 5⟩)
  baseRevisionId := some ⟨sampleUuid base⟩
  operation := .replace
  payload := .reservedTarget 1 "s"
  evidenceRefs := ["obs:1"]
  sourceCohortRefs := ["obs:1"]
  sourceCohortHash := cohortHash
  fingerprint := fingerprint
  eligibility := .manualRequired
  status := status
  waitingOn := waitingOn
  reviewReason := none
  createdBy := .user
  acceptance := none
  createdAtUs := 10
  reviewedAtUs := reviewedAtUs

/-- The older proposal waits for the second base, the newer one is proposed on it and rejected, and the older one
comes back on it. -/
def reopenedHistory : List Entry :=
  [(change 3 0x11 none 1 firstFingerprint .pending [] none, 1),
    (change 3 0x12 (some 0x11) 1 firstFingerprint .deferred [.targetRevisionChange] (some 20), 2),
    (change 4 0x21 none 2 secondFingerprint .pending [] none, 3),
    (change 4 0x22 (some 0x21) 2 secondFingerprint .rejected [] (some 30), 4),
    (change 3 0x13 (some 0x12) 2 secondFingerprint .pending [] none, 5)]

/-- What a rebuild of the accepted history answers. -/
def rebuildError (es : List Entry) : Option (Option StoreError) :=
  match recordAll hashing .empty es with
  | .error _ => none
  | .ok st =>
    match rebuildProposals hashing st.revisions with
    | .error e => some (some e)
    | .ok _ => some none

/-- The journal accepts the history; the rebuild reports a corrupt store. -/
theorem reopened_proposal_corrupts : ∃ st, recordAll hashing .empty reopenedHistory = .ok st ∧
    reopenedHistory.Pairwise (fun a b => a.2 < b.2) ∧
    rebuildProposals hashing st.revisions = .error .storeCorrupt := by
  have hrun : rebuildError reopenedHistory = some (some .storeCorrupt) := by decide +kernel
  unfold rebuildError at hrun
  cases hst : recordAll hashing .empty reopenedHistory with
  | error e =>
    rw [hst] at hrun
    cases hrun
  | ok st =>
    rw [hst] at hrun
    dsimp only at hrun
    refine ⟨st, rfl, by decide, ?_⟩
    cases hrebuild : rebuildProposals hashing st.revisions with
    | ok current =>
      rw [hrebuild] at hrun
      cases hrun
    | error e =>
      rw [hrebuild] at hrun
      rw [Option.some.inj (Option.some.inj hrun)]

/-- The first four revisions of the same history rebuild. -/
theorem rebuild_before_reopening : ∃ st, recordAll hashing .empty (reopenedHistory.take 4) = .ok st ∧
    rebuildProposals hashing st.revisions = .ok st.current := by
  have hok : (recordAll hashing .empty (reopenedHistory.take 4)).isOk = true := by decide +kernel
  obtain ⟨st, hst⟩ := exists_of_isOk hok
  have hclear : Unobstructed (reopenedHistory.take 4) := by decide +kernel
  exact ⟨st, hst, ((rebuild_iff hashing _ st hst).mpr hclear).1⟩

end EverTrace.Bugs.ProposalRebuild
