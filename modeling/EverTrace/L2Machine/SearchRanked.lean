import EverTrace.L2Machine.Search
import EverTrace.Lib.Shortlist
import Mathlib.Algebra.Order.BigOperators.Group.List
/-!
# What the search selects

Where the suppression list is current the selection is a shortlist of the rows
that match: of the rows of one candidate the first one counts (`fresh`), and of
these the longest part is taken that the budget affords (`selectLoop_ok`). The
sort that follows does not move anything (`ordered_rows`), so that a prefix of
the same rows is returned (`select_ok`).
-/
namespace EverTrace.L2.Search
open EverTrace.Lib EverTrace.L1

variable {context : SearchContext} {fetched : Fetched} {ranks : OrdMap String Nat} {row : SearchProjectionRow}

/-- The list of what must not be shown was read. -/
def Current (context : SearchContext) : Prop :=
  ∃ generation refHashes, context.suppression = .current generation refHashes

def Shown (context : SearchContext) (row : SearchProjectionRow) : Prop := hardCompatible row context = .ok true

instance : Decidable (Shown context row) := inferInstanceAs (Decidable (_ = _))

/-- Exactly, or as one of the rows of the full-text answer. -/
def Found (context : SearchContext) (fts : List SearchProjectionRow) (row : SearchProjectionRow) : Prop :=
  matchesExactly context row ∨ isStable context row ∨ ∃ found ∈ fts, found.rowId = row.rowId

/-- The row belongs to a candidate, may be shown and is found. -/
def Matches (context : SearchContext) (fts : List SearchProjectionRow) (row : SearchProjectionRow) : Prop :=
  row.candidateId.isSome ∧ Shown context row ∧ Found context fts row

instance {fts : List SearchProjectionRow} : Decidable (Matches context fts row) :=
  inferInstanceAs (Decidable (_ ∧ _ ∧ (_ ∨ _ ∨ _)))

/-! ## The order of rows -/

theorem order_injective : Function.Injective SearchProjectionRow.order := by
  intro a b h
  have hlist : ∀ {x y : Option String}, x.toList = y.toList → x = y := fun {x y} => by
    cases x <;> cases y <;> simp
  unfold SearchProjectionRow.order at h
  simp only [toLex_inj, Prod.mk.injEq, List.cons.injEq, and_true] at h
  obtain ⟨⟨h1, h2, h3, h4, h5, h6, h7, h8, h9, h10, h11, h12, h13, h14, h15, h16, h17, h18⟩, h19, h20, h21,
    ⟨h22, h23, h24⟩, h25, h26⟩ := h
  cases a
  cases b
  simp only [SearchProjectionRow.mk.injEq]
  exact ⟨h1, h2, hlist h3, hlist h4, hlist h5, h6, hlist h7, hlist h8, hlist h9, h10, hlist h11, hlist h12,
    hlist h13, hlist h14, hlist h15, hlist h16, hlist h17, hlist h18, h19, h20, h21, h22, h23, hlist h24, h25, h26⟩

theorem rowId_le_of_order_le {a b : SearchProjectionRow} (h : a.order ≤ b.order) : a.rowId ≤ b.rowId := by
  unfold SearchProjectionRow.order at h
  by_contra hlt
  rw [not_le] at hlt
  refine absurd h (not_le.mpr ?_)
  rw [Prod.Lex.toLex_lt_toLex]
  exact .inl (List.Lex.rel (List.Lex.rel hlt))

/-- The rows that are left after the repetitions are removed: of one row id the least row. -/
theorem mem_mergeRows {structured fts : List SearchProjectionRow} : row ∈ mergeRows structured fts ↔
    row ∈ structured ++ fts ∧ ∀ other ∈ structured ++ fts, other.rowId = row.rowId → row.order ≤ other.order := by
  have hsorted := sortByKey_pairwise SearchProjectionRow.order (structured ++ fts)
  have hmem : ∀ r, r ∈ sortByKey SearchProjectionRow.order (structured ++ fts) ↔ r ∈ structured ++ fts :=
    fun r => (sortByKey_perm _ _).mem_iff
  unfold mergeRows
  rw [destutter_eq_fresh (hsorted.imp rowId_le_of_order_le), mem_fresh order_injective hsorted, hmem]
  simp only [hmem, true_and]

theorem mergeRows_sorted (structured fts : List SearchProjectionRow) :
    (mergeRows structured fts).Pairwise fun a b => a.order ≤ b.order :=
  (sortByKey_pairwise _ _).sublist (List.destutter_sublist _ _)

/-! ## What may be shown -/

theorem hardCompatible_ok (h : Current context) (row : SearchProjectionRow) :
    ∃ shown, hardCompatible row context = .ok shown := by
  obtain ⟨generation, refHashes, hcurrent⟩ := h
  have hsuppresses : ∀ reference, context.suppression.suppresses reference = .ok (decide (reference ∈ refHashes)) := by
    intro reference
    rw [hcurrent]
    rfl
  have hhash : ∃ hashed, hashSuppressed row context = .ok hashed := by
    unfold hashSuppressed
    cases row.suppressionRefHash with
    | none => exact ⟨false, rfl⟩
    | some hash => exact ⟨_, hsuppresses hash⟩
  obtain ⟨hashed, hhashed⟩ := hhash
  unfold hardCompatible
  rw [hhashed, hsuppresses, hsuppresses, ok_bind]
  split
  · exact ⟨false, rfl⟩
  · rw [ok_bind]
    split
    · exact ⟨false, rfl⟩
    · exact ⟨_, rfl⟩

theorem facetsCompatible_of_shown (h : Shown context row) : facetsCompatible row context = true := by
  unfold Shown hardCompatible at h
  obtain ⟨hashed, -, h⟩ := bind_eq_ok.mp h
  by_contra hfacets
  rw [Bool.not_eq_true] at hfacets
  rw [hfacets, if_pos (by simp)] at h
  cases h

theorem variantOf_of_shown (h : Shown context row) : ∃ variant, variantOf row = some variant := by
  have hfacets := facetsCompatible_of_shown h
  have hsource : sourceCompatible row context.queryFacets.sourceBoundary = true := by
    simp only [facetsCompatible, Bool.and_eq_true] at hfacets
    exact hfacets.1.1.1.1.1.2
  unfold sourceCompatible at hsource
  unfold variantOf
  by_cases hsurface : row.rowVariant = "evidence_surface"
  · exact ⟨.evidenceSurface, by rw [hsurface]; rfl⟩
  · rw [if_neg hsurface] at hsource
    by_cases hobject : row.rowVariant = "object"
    · exact ⟨.object, if_pos hobject⟩
    · rw [if_neg hobject] at hsource
      cases hsource

theorem temporalCompatible_of_shown (h : Shown context row) : temporalCompatible row context = true := by
  have hfacets := facetsCompatible_of_shown h
  unfold facetsCompatible at hfacets
  exact (Bool.and_eq_true _ _ ▸ hfacets).2

/-! ## The ranked rows -/

/-- The class of a row that matches. -/
def classOf (context : SearchContext) (row : SearchProjectionRow) : Nat :=
  if matchesExactly context row || isStable context row then 0 else 3

/-- The order of the ranked rows: class, position and candidate. -/
def rowKey (context : SearchContext) (ranks : OrdMap String Nat) (row : SearchProjectionRow) :
    Nat ×ₗ Nat ×ₗ List String :=
  rankedKey ((rankOf context ranks row).getD (0, 0), row)

def rankedRows (context : SearchContext) (fetched : Fetched) : List SearchProjectionRow :=
  sortByKey (rowKey context (ftsRanks fetched.fts.list))
    ((mergeRows fetched.structured fetched.fts.list).filter fun row => Matches context fetched.fts.list row)

theorem ftsRanks_keys (fts : List SearchProjectionRow) :
    (fts.zipIdx.map fun entry => (entry.1.rowId, entry.2)).map Prod.fst = fts.map (·.rowId) :=
  calc (fts.zipIdx.map fun entry => (entry.1.rowId, entry.2)).map Prod.fst
    _ = (fts.zipIdx.map Prod.fst).map (·.rowId) := by rw [List.map_map, List.map_map]; rfl
    _ = fts.map (·.rowId) := by rw [List.zipIdx_map_fst]

/-- A row has a position exactly if the full-text answer has a row of its id. -/
theorem ftsRanks_isSome {fts : List SearchProjectionRow} :
    ((ftsRanks fts).get row.rowId).isSome ↔ ∃ found ∈ fts, found.rowId = row.rowId := by
  unfold ftsRanks
  rw [OrdMap.isSome_get_insertAll, ftsRanks_keys, List.mem_map]
  simp

theorem rankOf_isSome {fts : List SearchProjectionRow} :
    (rankOf context (ftsRanks fts) row).isSome ↔ Found context fts row := by
  unfold rankOf Found
  by_cases h : (matchesExactly context row || isStable context row) = true
  · rw [if_pos h]
    rw [Bool.or_eq_true] at h
    simp only [Option.isSome_some, true_iff]
    tauto
  · rw [if_neg h, Option.isSome_map, ftsRanks_isSome]
    rw [Bool.or_eq_true, not_or] at h
    tauto

theorem rankOf_fst {rank : Nat × Nat} (h : rankOf context ranks row = some rank) : rank.1 = classOf context row := by
  unfold rankOf at h
  unfold classOf
  by_cases hexact : (matchesExactly context row || isStable context row) = true
  · rw [if_pos hexact] at h ⊢
    cases h
    rfl
  · rw [if_neg hexact] at h ⊢
    obtain ⟨position, -, rfl⟩ := Option.map_eq_some_iff.mp h
    rfl

/-- What a row of the ranking loop comes to. -/
theorem rankRow_ok (h : Current context) {fts : List SearchProjectionRow} (row : SearchProjectionRow) :
    rankRow context (ftsRanks fts) row = .ok
      (if Matches context fts row then some ((rankOf context (ftsRanks fts) row).getD (0, 0), row) else none) := by
  unfold rankRow
  by_cases hid : row.candidateId.isNone = true
  · have hno : ¬ Matches context fts row := fun hm => by simpa [Option.isNone_iff_eq_none.mp hid] using hm.1
    rw [if_pos hid, if_neg hno]
  · have hsome : row.candidateId.isSome := Option.isSome_iff_ne_none.mpr fun hn => hid (by rw [hn]; rfl)
    obtain ⟨shown, hshown⟩ := hardCompatible_ok h row
    rw [if_neg hid, hshown, ok_bind]
    cases shown with
    | false =>
      have hno : ¬ Matches context fts row := fun hm => by simpa [Shown, hshown] using hm.2.1
      rw [if_neg Bool.false_ne_true, if_neg hno]
      rfl
    | true =>
      have hfound := @rankOf_isSome context row fts
      rw [if_pos rfl]
      cases hrank : rankOf context (ftsRanks fts) row with
      | none =>
        rw [hrank] at hfound
        rw [if_neg fun hm => by cases hfound.mpr hm.2.2]
        rfl
      | some rank =>
        rw [hrank] at hfound
        rw [if_pos ⟨hsome, hshown, hfound.mp rfl⟩]
        rfl

/-- The loop over the merged rows and the sort. -/
theorem rankRows_ok (h : Current context) (fetched : Fetched) :
    rankRows context (ftsRanks fetched.fts.list) (mergeRows fetched.structured fetched.fts.list) = .ok
      ((rankedRows context fetched).map fun row =>
        ((rankOf context (ftsRanks fetched.fts.list) row).getD (0, 0), row)) := by
  unfold rankRows rankedRows
  rw [mapM_ok_of_forall fun row _ => rankRow_ok h row, ok_bind]
  generalize mergeRows fetched.structured fetched.fts.list = rows
  have hkept : (rows.map fun row => if Matches context fetched.fts.list row then
      some ((rankOf context (ftsRanks fetched.fts.list) row).getD (0, 0), row) else none).reduceOption =
      (rows.filter fun row => Matches context fetched.fts.list row).map fun row =>
        ((rankOf context (ftsRanks fetched.fts.list) row).getD (0, 0), row) := by
    induction rows with
    | nil => rfl
    | cons row rows ih =>
      by_cases hm : Matches context fetched.fts.list row
      · simp [hm, ih]
      · simp [hm, ih]
  rw [hkept, sortByKey_map]
  rfl

theorem mem_rankedRows : row ∈ rankedRows context fetched ↔
    row ∈ mergeRows fetched.structured fetched.fts.list ∧ Matches context fetched.fts.list row := by
  unfold rankedRows
  rw [(sortByKey_perm _ _).mem_iff, List.mem_filter, decide_eq_true_iff]

/-- Rows of one rank stand in the order of the rows. -/
theorem rankedRows_sorted (context : SearchContext) (fetched : Fetched) :
    (rankedRows context fetched).Pairwise fun a b =>
      toLex (rowKey context (ftsRanks fetched.fts.list) a, a.order) ≤
        toLex (rowKey context (ftsRanks fetched.fts.list) b, b.order) := by
  have hsorted := (mergeRows_sorted fetched.structured fetched.fts.list).filter
    fun row => Matches context fetched.fts.list row
  unfold rankedRows
  generalize (mergeRows fetched.structured fetched.fts.list).filter
    (fun row => Matches context fetched.fts.list row) = rows at hsorted
  have hboth : sortByKey (rowKey context (ftsRanks fetched.fts.list)) rows =
      sortByKey (fun row => toLex (rowKey context (ftsRanks fetched.fts.list) row, row.order)) rows := by
    refine sortByKey_congr (hsorted.imp fun {a b} hab => ?_)
    rw [Prod.Lex.toLex_le_toLex]
    constructor
    · intro hle
      rcases lt_or_eq_of_le hle with hlt | heq
      · exact .inl hlt
      · exact .inr ⟨heq, hab⟩
    · intro hle
      rcases hle with hlt | ⟨heq, -⟩
      · exact hlt.le
      · exact heq.le
  rw [hboth]
  exact sortByKey_pairwise _ _

/-! ## What the budget affords -/

def cost (row : SearchProjectionRow) : Option Nat := textTokens (utf8 row.text).length

/-- The budget has the candidates and the tokens for the rows. -/
structure Affords (budget : RetrievalBudget) (rows : List SearchProjectionRow) : Prop where
  candidates : rows.length ≤ budget.candidatesRemaining
  counted : ∀ row ∈ rows, (cost row).isSome
  tokens : (rows.map fun row => (cost row).getD 0).sum ≤ budget.tokensRemaining

theorem Affords.nil (budget : RetrievalBudget) : Affords budget [] :=
  ⟨Nat.zero_le _, (by intro row h; cases h), Nat.zero_le _⟩

theorem Affords.sublist {budget : RetrievalBudget} {rows rows' : List SearchProjectionRow} (h : rows.Sublist rows')
    (ha : Affords budget rows') : Affords budget rows := by
  refine ⟨h.length_le.trans ha.candidates, fun row hrow => ha.counted row (h.subset hrow), le_trans ?_ ha.tokens⟩
  exact (h.map _).sum_le_sum fun _ _ => Nat.zero_le _

theorem consume_fits {budget budget' : RetrievalBudget}
    (h : budget.consumeCandidateText (utf8 row.text).length = (budget', true)) : ∃ tokens,
      budget.candidatesRemaining ≠ 0 ∧ cost row = some tokens ∧ tokens ≤ budget.tokensRemaining ∧
      budget' = { budget with
        candidatesRemaining := budget.candidatesRemaining - 1
        tokensRemaining := budget.tokensRemaining - tokens } := by
  unfold RetrievalBudget.consumeCandidateText at h
  by_cases hnone : budget.candidatesRemaining = 0
  · rw [if_pos hnone] at h
    cases h
  · rw [if_neg hnone] at h
    unfold cost
    cases htokens : textTokens (utf8 row.text).length with
    | none => simp [htokens] at h
    | some tokens =>
      rw [htokens] at h
      dsimp only at h
      split at h
      · next hle =>
        cases h
        exact ⟨tokens, hnone, rfl, hle, rfl⟩
      · cases h

theorem affords_cons {budget budget' : RetrievalBudget}
    (h : budget.consumeCandidateText (utf8 row.text).length = (budget', true)) (rows : List SearchProjectionRow) :
    Affords budget (row :: rows) ↔ Affords budget' rows := by
  obtain ⟨tokens, hcandidates, hcost, htokens, rfl⟩ := consume_fits h
  constructor
  · intro ha
    have hlength := ha.candidates
    have hsum := ha.tokens
    rw [List.length_cons] at hlength
    rw [List.map_cons, List.sum_cons, hcost, Option.getD_some] at hsum
    exact ⟨by dsimp only; omega, fun r hr => ha.counted r (List.mem_cons_of_mem row hr), by dsimp only; omega⟩
  · intro ha
    have hlength := ha.candidates
    have hsum := ha.tokens
    dsimp only at hlength hsum
    refine ⟨by rw [List.length_cons]; omega, fun r hr => ?_, ?_⟩
    · rcases List.mem_cons.mp hr with rfl | hr
      · rw [hcost]
        rfl
      · exact ha.counted r hr
    · rw [List.map_cons, List.sum_cons, hcost, Option.getD_some]
      omega

theorem not_affords {budget budget' : RetrievalBudget}
    (h : budget.consumeCandidateText (utf8 row.text).length = (budget', false)) : ¬ Affords budget [row] := by
  intro ha
  have hlength := ha.candidates
  have hcounted := ha.counted row List.mem_cons_self
  have hsum := ha.tokens
  unfold cost at hcounted hsum
  unfold RetrievalBudget.consumeCandidateText at h
  rw [List.length_singleton] at hlength
  rw [if_neg (by omega)] at h
  cases htokens : textTokens (utf8 row.text).length with
  | none =>
    rw [htokens] at hcounted
    cases hcounted
  | some tokens =>
    rw [htokens] at h
    simp only [List.map_cons, List.map_nil, List.sum_cons, List.sum_nil, htokens, Option.getD_some] at hsum
    dsimp only at h
    rw [if_pos (by omega)] at h
    cases h

/-! ## The loop -/

/-- The candidate was built from the row; what it was found by may have been added to since. -/
structure Supplied (context : SearchContext) (p : Picked) (row : SearchProjectionRow) : Prop where
  row_eq : p.row = row
  class_eq : p.class_ = classOf context row
  candidate_eq : ∃ id variant origins, row.candidateId = some id ∧ variantOf row = some variant ∧
    p.candidate = candidateOf row id variant origins

/-- The selected candidates are those of the rows. -/
structure Holds (context : SearchContext) (selected : OrdMap String Picked) (rows : List SearchProjectionRow) :
    Prop where
  supplied : ∀ id p, selected.get id = some p → ∃ row ∈ rows, row.candidateId = some id ∧ Supplied context p row
  present : ∀ row ∈ rows, ∀ id, row.candidateId = some id → (selected.get id).isSome

def seenIn (selected : OrdMap String Picked) (id : Option String) : Bool := id.any fun id => (selected.get id).isSome

theorem Holds.addOrigins {selected : OrdMap String Picked} {rows : List SearchProjectionRow} {id : String} {p : Picked}
    (h : Holds context selected rows) (hp : selected.get id = some p) (origins : Finset String) :
    Holds context (selected.insert id (p.addOrigins origins)) rows := by
  constructor
  · intro id' p' hp'
    rw [OrdMap.get_insert] at hp'
    split at hp'
    · next heq =>
      cases hp'
      obtain ⟨row, hrow, hid, hsupplied⟩ := h.supplied id p hp
      obtain ⟨id₀, variant, found, hid₀, hvariant, hcandidate⟩ := hsupplied.candidate_eq
      refine ⟨row, hrow, heq ▸ hid, hsupplied.row_eq, hsupplied.class_eq, id₀, variant, found ∪ origins, hid₀,
        hvariant, ?_⟩
      unfold Picked.addOrigins
      rw [hcandidate]
      rfl
    · exact h.supplied id' p' hp'
  · intro row hrow id' hid'
    rw [OrdMap.get_insert]
    split
    · rfl
    · exact h.present row hrow id' hid'

theorem Holds.insert {selected : OrdMap String Picked} {rows : List SearchProjectionRow} {id : String}
    {variant : SearchCandidateVariant} (h : Holds context selected rows) (hid : row.candidateId = some id)
    (hvariant : variantOf row = some variant) (origins : Finset String) :
    Holds context (selected.insert id ⟨classOf context row, candidateOf row id variant origins, row⟩)
      (rows ++ [row]) := by
  constructor
  · intro id' p' hp'
    rw [OrdMap.get_insert] at hp'
    split at hp'
    · next heq =>
      cases hp'
      exact ⟨row, List.mem_append_right _ (List.mem_singleton_self row), heq ▸ hid, rfl, rfl, id, variant, origins,
        hid, hvariant, rfl⟩
    · obtain ⟨row', hrow', hrest⟩ := h.supplied id' p' hp'
      exact ⟨row', List.mem_append_left _ hrow', hrest⟩
  · intro row' hrow' id' hid'
    rw [OrdMap.get_insert]
    split
    · rfl
    · next hne =>
      rcases List.mem_append.mp hrow' with hrow' | hrow'
      · exact h.present row' hrow' id' hid'
      · rw [List.mem_singleton.mp hrow', hid] at hid'
        exact absurd (Option.some.inj hid').symm hne

def Buildable (row : SearchProjectionRow) : Prop := row.candidateId.isSome ∧ (variantOf row).isSome

/-- What the loop leaves: the longest part of the first rows that the budget affords, and the ids of the others. -/
structure Looped (context : SearchContext) (s s' : Selection) (rows done kept left : List SearchProjectionRow) :
    Prop where
  longest : LongestPrefix (Affords s.budget) (fresh SearchProjectionRow.candidateId (seenIn s.selected) rows) kept left
  holds : Holds context s'.selected (done ++ kept)
  omitted : ∀ id, id ∈ s'.omitted ↔ id ∈ s.omitted ∨ some id ∈ left.map SearchProjectionRow.candidateId
  latency : s'.budget.latencyUsRemaining = s.budget.latencyUsRemaining

section Turn
variable {s : Selection} {id : String} {class_ : Nat} {rest : List (Nat × SearchProjectionRow)}

theorem selectLoop_again {p : Picked} (hid : row.candidateId = some id) (hp : s.selected.get id = some p) :
    selectLoop ranks ((class_, row) :: rest) s = selectLoop ranks rest
      { s with selected := s.selected.insert id (p.addOrigins (originsOf ranks class_ row)) } := by
  conv => lhs; unfold selectLoop
  simp only [hid, okOr, ok_bind, hp]

theorem selectLoop_take {variant : SearchCandidateVariant} {budget : RetrievalBudget} (hid : row.candidateId = some id)
    (hnew : s.selected.get id = none) (hvariant : variantOf row = some variant)
    (hfits : s.budget.consumeCandidateText (utf8 row.text).length = (budget, true)) :
    selectLoop ranks ((class_, row) :: rest) s = selectLoop ranks rest { s with
      selected := s.selected.insert id ⟨class_, candidateOf row id variant (originsOf ranks class_ row), row⟩
      budget := budget } := by
  conv => lhs; unfold selectLoop
  simp only [hid, okOr, ok_bind, hnew, hfits, hvariant, if_true]

theorem selectLoop_stop {budget : RetrievalBudget} (hid : row.candidateId = some id)
    (hnew : s.selected.get id = none)
    (hfits : s.budget.consumeCandidateText (utf8 row.text).length = (budget, false)) :
    selectLoop ranks ((class_, row) :: rest) s = .ok { s with
      omitted := s.omitted ∪ notSelected s.selected ((class_, row) :: rest)
      budget := budget } := by
  conv => lhs; unfold selectLoop
  simp only [hid, okOr, ok_bind, hnew, hfits, Bool.false_eq_true, if_false]

end Turn

theorem consume_latency (budget : RetrievalBudget) (bytes : Nat) :
    (budget.consumeCandidateText bytes).1.latencyUsRemaining = budget.latencyUsRemaining := by
  unfold RetrievalBudget.consumeCandidateText
  split
  · rfl
  · dsimp only
    split
    · rfl
    · split <;> rfl

/-- What is omitted at a stop are the ids that were not selected. -/
theorem mem_notSelected {selected : OrdMap String Picked} {rows : List SearchProjectionRow} {id : String} :
    id ∈ notSelected selected (rows.map fun row => (classOf context row, row)) ↔
      some id ∈ (fresh SearchProjectionRow.candidateId (seenIn selected) rows).map SearchProjectionRow.candidateId := by
  rw [mem_map_fresh]
  simp [notSelected, seenIn, and_comm]

/-- **The selection loop takes the longest part that the budget affords.** -/
theorem selectLoop_ok (ranks : OrdMap String Nat) {rows : List SearchProjectionRow} (hrows : ∀ row ∈ rows, Buildable row)
    {s : Selection} {done : List SearchProjectionRow} (h : Holds context s.selected done) :
    ∃ s' kept left, selectLoop ranks (rows.map fun row => (classOf context row, row)) s = .ok s' ∧
      Looped context s s' rows done kept left := by
  induction rows generalizing s done with
  | nil =>
    refine ⟨s, [], [], rfl, .nil (Affords.nil _), ?_, fun id => by simp, rfl⟩
    rw [List.append_nil]
    exact h
  | cons row rows ih =>
    obtain ⟨hid, hvariant⟩ := hrows row List.mem_cons_self
    obtain ⟨id, hid⟩ := Option.isSome_iff_exists.mp hid
    obtain ⟨variant, hvariant⟩ := Option.isSome_iff_exists.mp hvariant
    have htail := fun r hr => hrows r (List.mem_cons_of_mem row hr)
    rw [List.map_cons]
    cases hget : s.selected.get id with
    | some p =>
      -- the candidate is there already: only its origins change
      have hseen : seenIn s.selected row.candidateId = true := by simp [seenIn, hid, hget]
      obtain ⟨s', kept, left, hloop, hlooped⟩ := ih htail
        (s := { s with selected := s.selected.insert id (p.addOrigins (originsOf ranks (classOf context row) row)) })
        (h.addOrigins hget _)
      refine ⟨s', kept, left, (selectLoop_again hid hget).trans hloop, ?_, hlooped.holds, hlooped.omitted,
        hlooped.latency⟩
      have hsame : ∀ k, seenIn (s.selected.insert id (p.addOrigins (originsOf ranks (classOf context row) row))) k =
          seenIn s.selected k := by
        intro k
        cases k with
        | none => rfl
        | some k =>
          by_cases hk : k = id
          · simp [seenIn, hk, hget]
          · simp [seenIn, OrdMap.get_insert_of_ne _ _ hk]
      rw [fresh, if_pos hseen, ← fresh_congr fun r _ => hsame r.candidateId]
      exact hlooped.longest
    | none =>
      have hnew : ¬ seenIn s.selected row.candidateId = true := by simp [seenIn, hid, hget]
      cases hspend : s.budget.consumeCandidateText (utf8 row.text).length with
      | mk budget fits =>
        cases fits with
        | false =>
          refine ⟨_, [], row :: fresh SearchProjectionRow.candidateId
            (fun k => decide (k = row.candidateId) || seenIn s.selected k) rows, selectLoop_stop hid hget hspend, ?_, ?_, ?_, ?_⟩
          · rw [fresh, if_neg hnew]
            exact .stop (Affords.nil _) (not_affords hspend)
          · rw [List.append_nil]
            exact h
          · intro id'
            rw [Finset.mem_union, ← List.map_cons (f := fun row => (classOf context row, row)), mem_notSelected, fresh,
              if_neg hnew]
          · have := consume_latency s.budget (utf8 row.text).length
            rw [hspend] at this
            exact this
        | true =>
          obtain ⟨s', kept, left, hloop, hlooped⟩ := ih htail
            (s := { s with
              selected := s.selected.insert id ⟨classOf context row, candidateOf row id variant
                (originsOf ranks (classOf context row) row), row⟩
              budget := budget })
            (h.insert hid hvariant _)
          refine ⟨s', row :: kept, left, (selectLoop_take hid hget hvariant hspend).trans hloop, ?_, ?_,
            hlooped.omitted, ?_⟩
          · have hsame : ∀ k, seenIn (s.selected.insert id ⟨classOf context row, candidateOf row id variant
                (originsOf ranks (classOf context row) row), row⟩) k =
                (decide (k = row.candidateId) || seenIn s.selected k) := by
              intro k
              rw [hid]
              cases k with
              | none => rfl
              | some k =>
                by_cases hk : k = id
                · simp [seenIn, hk]
                · simp [seenIn, OrdMap.get_insert_of_ne _ _ hk, hk]
            rw [fresh, if_neg hnew, ← fresh_congr fun r _ => hsame r.candidateId]
            exact hlooped.longest.cons (affords_cons hspend)
          · have hholds := hlooped.holds
            rw [List.append_assoc] at hholds
            exact hholds
          · have hlatency := consume_latency s.budget (utf8 row.text).length
            rw [hspend] at hlatency
            exact hlooped.latency.trans hlatency

/-! ## The leading rows -/

def leadingRows (context : SearchContext) (fetched : Fetched) : List SearchProjectionRow :=
  fresh SearchProjectionRow.candidateId (fun _ => false) (rankedRows context fetched)

theorem mem_leadingRows : row ∈ leadingRows context fetched ↔ row ∈ rankedRows context fetched ∧
    ∀ other ∈ rankedRows context fetched, other.candidateId = row.candidateId →
      toLex (rowKey context (ftsRanks fetched.fts.list) row, row.order) ≤
        toLex (rowKey context (ftsRanks fetched.fts.list) other, other.order) := by
  have hinj : Function.Injective fun row : SearchProjectionRow =>
      toLex (rowKey context (ftsRanks fetched.fts.list) row, row.order) := by
    intro a b h
    exact order_injective (congrArg Prod.snd (toLex_inj.mp h))
  unfold leadingRows
  rw [mem_fresh hinj (rankedRows_sorted context fetched)]
  simp only [true_and]

theorem leadingRows_matches (h : row ∈ leadingRows context fetched) : Matches context fetched.fts.list row :=
  (mem_rankedRows.mp (mem_leadingRows.mp h).1).2

theorem nodup_leadingIds (context : SearchContext) (fetched : Fetched) :
    ((leadingRows context fetched).map SearchProjectionRow.candidateId).Nodup :=
  nodup_map_fresh _ _

theorem mem_leadingIds {id : Option String} :
    id ∈ (leadingRows context fetched).map SearchProjectionRow.candidateId ↔
      id ∈ (rankedRows context fetched).map SearchProjectionRow.candidateId := by
  unfold leadingRows
  rw [mem_map_fresh]
  exact and_iff_right rfl

theorem candidateId_of_rowKey_eq {a b : SearchProjectionRow} (h : rowKey context ranks a = rowKey context ranks b) :
    a.candidateId = b.candidateId := by
  have hids := congrArg (fun key => (ofLex (ofLex key).2).2) h
  have hlist : a.candidateId.toList = b.candidateId.toList := hids
  cases ha : a.candidateId <;> cases hb : b.candidateId <;> simp_all

theorem leadingRows_sorted (context : SearchContext) (fetched : Fetched) : (leadingRows context fetched).Pairwise
    fun a b => rowKey context (ftsRanks fetched.fts.list) a < rowKey context (ftsRanks fetched.fts.list) b := by
  have hsorted := (rankedRows_sorted context fetched).sublist
    (@fresh_sublist _ _ _ SearchProjectionRow.candidateId (fun _ => false) _)
  have hdistinct := List.pairwise_map.mp (nodup_leadingIds context fetched)
  refine (hsorted.and hdistinct).imp fun {a b} ⟨hle, hne⟩ => ?_
  rw [Prod.Lex.toLex_le_toLex] at hle
  rcases hle with hlt | ⟨heq, -⟩
  · exact hlt
  · exact absurd (candidateId_of_rowKey_eq heq) hne

/-- The loop starts with nothing selected. -/
def start (context : SearchContext) (fts : FtsOutcome) : Selection := ⟨.empty, ∅, startBudget context fts⟩

/-- **The search concludes from the longest part of the leading rows that the budget affords.** -/
theorem select_ok (h : Current context) (fetched : Fetched) : ∃ s kept left,
    select context fetched = .ok (conclude context fetched (ftsRanks fetched.fts.list) s) ∧
    selectLoop (ftsRanks fetched.fts.list) ((rankedRows context fetched).map fun row => (classOf context row, row))
      (start context fetched.fts) = .ok s ∧
    Looped context (start context fetched.fts) s (rankedRows context fetched) [] kept left := by
  have hbuildable : ∀ row ∈ rankedRows context fetched, Buildable row := by
    intro row hrow
    obtain ⟨-, hid, hshown, -⟩ := mem_rankedRows.mp hrow
    obtain ⟨variant, hvariant⟩ := variantOf_of_shown hshown
    exact ⟨hid, by rw [hvariant]; rfl⟩
  have hempty : Holds context (start context fetched.fts).selected [] := by
    constructor
    · intro id p hp
      cases hp
    · intro row hrow
      cases hrow
  obtain ⟨s, kept, left, hloop, hlooped⟩ := selectLoop_ok (ftsRanks fetched.fts.list) hbuildable hempty
  refine ⟨s, kept, left, ?_, hloop, hlooped⟩
  have hentries : (((rankedRows context fetched).map fun row =>
      ((rankOf context (ftsRanks fetched.fts.list) row).getD (0, 0), row)).map fun entry => (entry.1.1, entry.2)) =
      (rankedRows context fetched).map fun row => (classOf context row, row) := by
    rw [List.map_map]
    refine List.map_congr_left fun row hrow => ?_
    obtain ⟨rank, hrank⟩ := Option.isSome_iff_exists.mp (rankOf_isSome.mpr (mem_rankedRows.mp hrow).2.2.2)
    rw [Function.comp_apply, hrank, ← rankOf_fst hrank]
    rfl
  unfold select
  dsimp only
  rw [rankRows_ok h fetched]
  dsimp only [Except.mapError, bind, Except.bind]
  rw [hentries]
  unfold start at hloop
  rw [hloop]
  rfl

/-! ## The order of the candidates -/

theorem singleton_lt_singleton {α : Type} [LinearOrder α] {a b : α} : [a] < [b] ↔ a < b := by
  constructor
  · intro h
    cases h with
    | rel hlt => exact hlt
    | cons hnil => cases hnil
  · intro h
    exact List.Lex.rel h

theorem singleton_le_singleton {α : Type} [LinearOrder α] {a b : α} : [a] ≤ [b] ↔ a ≤ b := by
  rw [← not_lt, ← not_lt, singleton_lt_singleton]

/-- The place of a matching row, by its class. -/
theorem rowKey_cases {fts : List SearchProjectionRow} (h : Matches context fts row) : ∃ id,
    row.candidateId = some id ∧
    ((classOf context row = 0 ∧ rowKey context (ftsRanks fts) row = toLex (0, toLex (0, [id]))) ∨
      ∃ position, classOf context row = 3 ∧ (ftsRanks fts).get row.rowId = some position ∧
        rowKey context (ftsRanks fts) row = toLex (3, toLex (position, [id]))) := by
  obtain ⟨id, hid⟩ := Option.isSome_iff_exists.mp h.1
  refine ⟨id, hid, ?_⟩
  obtain ⟨rank, hrank⟩ := Option.isSome_iff_exists.mp (rankOf_isSome.mpr h.2.2)
  unfold rowKey rankedKey
  rw [hrank, hid, ← rankOf_fst hrank]
  unfold rankOf at hrank
  split at hrank
  · cases hrank
    exact .inl ⟨rfl, rfl⟩
  · obtain ⟨position, hposition, rfl⟩ := Option.map_eq_some_iff.mp hrank
    exact .inr ⟨position, rfl, hposition, rfl⟩

/-- Candidates are compared like the rows that supply them. -/
theorem pickedKey_le {fts : List SearchProjectionRow} {p q : Picked} {a b : SearchProjectionRow}
    (hp : Supplied context p a) (hq : Supplied context q b) (ha : Matches context fts a) (hb : Matches context fts b) :
    pickedKey (ftsRanks fts) p ≤ pickedKey (ftsRanks fts) q ↔
      rowKey context (ftsRanks fts) a ≤ rowKey context (ftsRanks fts) b := by
  have hkey : ∀ {r : Picked} {c : SearchProjectionRow} {id : String}, Supplied context r c → c.candidateId = some id →
      pickedKey (ftsRanks fts) r = toLex (classOf context c,
        toLex (if classOf context c = 3 then ((ftsRanks fts).get c.rowId).toList else [], id)) := by
    intro r c id hr hid
    obtain ⟨id', variant, origins, hid', -, hcandidate⟩ := hr.candidate_eq
    rw [hid] at hid'
    unfold pickedKey
    rw [hr.row_eq, hr.class_eq, hcandidate, Option.some.inj hid']
    rfl
  obtain ⟨ida, hida, hcasea⟩ := rowKey_cases ha
  obtain ⟨idb, hidb, hcaseb⟩ := rowKey_cases hb
  rw [hkey hp hida, hkey hq hidb]
  rcases hcasea with ⟨hclassa, hrowa⟩ | ⟨posa, hclassa, hgeta, hrowa⟩ <;>
    rcases hcaseb with ⟨hclassb, hrowb⟩ | ⟨posb, hclassb, hgetb, hrowb⟩
  · rw [hclassa, hclassb, hrowa, hrowb]
    simp [Prod.Lex.toLex_le_toLex, singleton_le_singleton]
  · rw [hclassa, hclassb, hrowa, hrowb]
    simp [Prod.Lex.toLex_le_toLex]
  · rw [hclassa, hclassb, hrowa, hrowb]
    simp [Prod.Lex.toLex_le_toLex]
  · rw [hclassa, hclassb, hgeta, hgetb, hrowa, hrowb]
    simp [Prod.Lex.toLex_le_toLex, singleton_lt_singleton, singleton_le_singleton]

section Ordered
variable {selected : OrdMap String Picked} {kept : List SearchProjectionRow}

theorem Holds.supplied_row (h : Holds context selected kept) {p : Picked} (hp : p ∈ selected.values) :
    p.row ∈ kept ∧ Supplied context p p.row := by
  obtain ⟨id, hget⟩ := OrdMap.mem_values.mp hp
  obtain ⟨row, hrow, -, hsupplied⟩ := h.supplied id p hget
  have heq := hsupplied.row_eq
  subst heq
  exact ⟨hrow, hsupplied⟩

theorem Holds.perm (h : Holds context selected kept) (hids : ∀ row ∈ kept, row.candidateId.isSome)
    (hnodup : (kept.map SearchProjectionRow.candidateId).Nodup) : (selected.values.map (·.row)).Perm kept := by
  have hkeys : (selected.values.map (·.row)).map SearchProjectionRow.candidateId =
      selected.entries.map fun entry => some entry.1 := by
    unfold OrdMap.values
    rw [List.map_map, List.map_map]
    refine List.map_congr_left fun entry hentry => ?_
    obtain ⟨row, -, hid, hsupplied⟩ := h.supplied entry.1 entry.2 (OrdMap.mem_entries.mp hentry)
    rw [Function.comp_apply, Function.comp_apply, hsupplied.row_eq, hid]
  have hvalues : (selected.values.map (·.row)).Nodup := by
    refine List.Nodup.of_map SearchProjectionRow.candidateId ?_
    rw [hkeys]
    have hfst := selected.nodup_keys.map (Option.some_injective String)
    rw [List.map_map] at hfst
    exact hfst
  rw [List.perm_ext_iff_of_nodup hvalues (List.Nodup.of_map _ hnodup)]
  intro row
  constructor
  · intro hrow
    obtain ⟨p, hp, rfl⟩ := List.mem_map.mp hrow
    exact (h.supplied_row hp).1
  · intro hrow
    obtain ⟨id, hid⟩ := Option.isSome_iff_exists.mp (hids row hrow)
    obtain ⟨p, hp⟩ := Option.isSome_iff_exists.mp (h.present row hrow id hid)
    obtain ⟨row', hrow', hid', hsupplied⟩ := h.supplied id p hp
    -- one row of each candidate
    obtain rfl : row' = row := List.inj_on_of_nodup_map hnodup hrow' hrow (hid'.trans hid.symm)
    exact List.mem_map.mpr ⟨p, OrdMap.mem_values.mpr ⟨id, hp⟩, hsupplied.row_eq⟩

/-- **The sort of the candidates leaves them in the order of the ranked rows.** -/
theorem ordered_rows (h : Holds context selected kept) (hkept : kept.Sublist (leadingRows context fetched)) :
    (sortByKey (pickedKey (ftsRanks fetched.fts.list)) selected.values).map (·.row) = kept := by
  have hmatches : ∀ row ∈ kept, Matches context fetched.fts.list row := fun row hrow =>
    leadingRows_matches (hkept.subset hrow)
  have hnodup := (nodup_leadingIds context fetched).sublist (hkept.map _)
  have hsorted := (leadingRows_sorted context fetched).sublist hkept
  have hperm := h.perm (fun row hrow => (hmatches row hrow).1) hnodup
  have hcompare : sortByKey (pickedKey (ftsRanks fetched.fts.list)) selected.values =
      sortByKey (fun p => rowKey context (ftsRanks fetched.fts.list) p.row) selected.values := by
    refine sortByKey_congr (List.pairwise_of_forall_mem_list fun p hp q hq => ?_)
    obtain ⟨hprow, hp⟩ := h.supplied_row hp
    obtain ⟨hqrow, hq⟩ := h.supplied_row hq
    exact pickedKey_le hp hq (hmatches _ hprow) (hmatches _ hqrow)
  rw [hcompare, ← sortByKey_map (rowKey context (ftsRanks fetched.fts.list))]
  have hkeys : ((selected.values.map (·.row)).map (rowKey context (ftsRanks fetched.fts.list))).Nodup := by
    rw [(hperm.map _).nodup_iff]
    exact List.pairwise_map.mpr (hsorted.imp fun hlt => hlt.ne)
  rw [sortByKey_eq_of_perm _ hperm hkeys]
  exact List.Pairwise.insertionSort_eq (hsorted.imp fun hlt => hlt.le)

end Ordered

/-! ## The result -/

/-- The candidate without its conflict flag. -/
def Picked.unmarked (p : Picked) : Picked := { p with candidate := { p.candidate with conflicted := false } }

theorem conflictOn_unmarked (candidates : List Picked) (identifier : String) :
    conflictOn (candidates.map Picked.unmarked) identifier = conflictOn candidates identifier := by
  simp [conflictOn, Picked.unmarked, List.filter_map, Function.comp_def]

theorem markConflict_unmarked (state : List Picked × Bool) (identifier : String) :
    (markConflict state identifier).1.map Picked.unmarked = state.1.map Picked.unmarked := by
  unfold markConflict
  split
  · rw [List.map_map]
    refine List.map_congr_left fun p _ => ?_
    rw [Function.comp_apply]
    split <;> rfl
  · rfl

theorem markConflict_snd (state : List Picked × Bool) (identifier : String) :
    (markConflict state identifier).2 = (state.2 || conflictOn state.1 identifier) := by
  unfold markConflict
  split
  · next h => rw [h, Bool.or_true]
  · next h =>
    rw [Bool.not_eq_true] at h
    rw [h, Bool.or_false]

/-- The marks are all that changes, and there is one exactly if the unmarked candidates conflict. -/
theorem foldl_markConflict (identifiers : List String) (state : List Picked × Bool) :
    (identifiers.foldl markConflict state).1.map Picked.unmarked = state.1.map Picked.unmarked ∧
      (identifiers.foldl markConflict state).2 = (state.2 || identifiers.any (conflictOn state.1)) := by
  induction identifiers generalizing state with
  | nil => exact ⟨rfl, (Bool.or_false _).symm⟩
  | cons identifier rest ih =>
    obtain ⟨hmap, hflag⟩ := ih (markConflict state identifier)
    have hsame : ∀ other, conflictOn (markConflict state identifier).1 other = conflictOn state.1 other := by
      intro other
      rw [← conflictOn_unmarked, markConflict_unmarked, conflictOn_unmarked]
    rw [List.foldl_cons]
    refine ⟨hmap.trans (markConflict_unmarked state identifier), ?_⟩
    rw [hflag, markConflict_snd, funext hsame, List.any_cons, Bool.or_assoc]

/-- The candidate shows the row. -/
def Shows (row : SearchProjectionRow) (candidate : SearchCandidate) : Prop :=
  ∃ id variant origins conflicted, row.candidateId = some id ∧ variantOf row = some variant ∧
    candidate = { candidateOf row id variant origins with conflicted := conflicted }

theorem Shows.candidateId {candidate : SearchCandidate} (h : Shows row candidate) :
    row.candidateId = some candidate.candidateId := by
  obtain ⟨id, variant, origins, conflicted, hid, -, rfl⟩ := h
  exact hid

theorem Shows.ids {rows : List SearchProjectionRow} {candidates : List SearchCandidate}
    (h : List.Forall₂ Shows rows candidates) :
    (candidates.map fun candidate => some candidate.candidateId) = rows.map SearchProjectionRow.candidateId := by
  induction h with
  | nil => rfl
  | cons hshows _ ih => rw [List.map_cons, List.map_cons, ih, hshows.candidateId]

section Conclude
variable {s : Selection} {kept left : List SearchProjectionRow}

/-- The candidates before they are marked. -/
def chosen (context : SearchContext) (fetched : Fetched) (s : Selection) : List Picked :=
  (sortByKey (pickedKey (ftsRanks fetched.fts.list)) s.selected.values).take (limitOf context)

theorem mem_chosen {p : Picked} (h : p ∈ chosen context fetched s) : p ∈ s.selected.values :=
  (sortByKey_perm _ _).mem_iff.mp (List.mem_of_mem_take h)

theorem Looped.sublist (h : Looped context (start context fetched.fts) s (rankedRows context fetched) [] kept left) :
    kept ++ left = leadingRows context fetched := by
  rw [h.longest.append]
  exact fresh_congr fun row _ => by cases row.candidateId <;> rfl

theorem Looped.shown (h : Looped context (start context fetched.fts) s (rankedRows context fetched) [] kept left) :
    Holds context s.selected kept := h.holds

theorem chosen_rows (h : Looped context (start context fetched.fts) s (rankedRows context fetched) [] kept left) :
    (chosen context fetched s).map (·.row) = kept.take (limitOf context) := by
  have hkept : kept.Sublist (leadingRows context fetched) := h.sublist ▸ List.sublist_append_left kept left
  unfold chosen
  rw [List.map_take, ordered_rows h.shown hkept]

/-- **The candidates show the kept rows, up to the limit.** -/
theorem conclude_candidates
    (h : Looped context (start context fetched.fts) s (rankedRows context fetched) [] kept left) :
    List.Forall₂ Shows (kept.take (limitOf context))
      (conclude context fetched (ftsRanks fetched.fts.list) s).candidates := by
  have hmarked := (foldl_markConflict context.queryFacets.exactIdentifiers (chosen context fetched s, false)).1
  have hshows : ∀ p ∈ chosen context fetched s, ∀ q : Picked, q.unmarked = p.unmarked → Shows p.row q.candidate := by
    intro p hp q hq
    obtain ⟨id, variant, origins, hid, hvariant, hcandidate⟩ := (h.holds.supplied_row (mem_chosen hp)).2.candidate_eq
    refine ⟨id, variant, origins, q.candidate.conflicted, hid, hvariant, ?_⟩
    have hcand := congrArg Picked.candidate hq
    unfold Picked.unmarked at hcand
    rw [hcandidate] at hcand
    rw [show q.candidate = { { q.candidate with conflicted := false } with conflicted := q.candidate.conflicted }
      from rfl]
    exact congrArg (fun c => { c with conflicted := q.candidate.conflicted }) hcand
  rw [← chosen_rows h]
  have hresult : (conclude context fetched (ftsRanks fetched.fts.list) s).candidates =
      (context.queryFacets.exactIdentifiers.foldl markConflict (chosen context fetched s, false)).1.map (·.candidate) :=
    rfl
  rw [hresult]
  generalize (context.queryFacets.exactIdentifiers.foldl markConflict (chosen context fetched s, false)).1 = marked
    at hmarked
  generalize chosen context fetched s = found at hmarked hshows
  dsimp only at hmarked
  induction found generalizing marked with
  | nil =>
    obtain rfl := List.map_eq_nil_iff.mp hmarked
    exact .nil
  | cons p found ih =>
    cases marked with
    | nil => cases hmarked
    | cons q marked =>
      rw [List.map_cons, List.map_cons] at hmarked
      obtain ⟨hhead, htail⟩ := List.cons.inj hmarked
      exact .cons (hshows p List.mem_cons_self q hhead)
        (ih marked htail fun p hp => hshows p (List.mem_cons_of_mem _ hp))

/-- **The omitted ids are those of the leading rows that are not shown.** -/
theorem conclude_omitted
    (h : Looped context (start context fetched.fts) s (rankedRows context fetched) [] kept left) {id : String} :
    id ∈ (conclude context fetched (ftsRanks fetched.fts.list) s).omittedRefs ↔
      some id ∈ (kept.drop (limitOf context) ++ left).map SearchProjectionRow.candidateId := by
  have hkept : kept.Sublist (leadingRows context fetched) := h.sublist ▸ List.sublist_append_left kept left
  have hids : ∀ p ∈ s.selected.values, p.row.candidateId = some p.candidate.candidateId := by
    intro p hp
    obtain ⟨id, variant, origins, hid, -, hcandidate⟩ := (h.holds.supplied_row hp).2.candidate_eq
    rw [hcandidate]
    exact hid
  have hdropped : some id ∈ (kept.drop (limitOf context)).map SearchProjectionRow.candidateId ↔
      id ∈ ((sortByKey (pickedKey (ftsRanks fetched.fts.list)) s.selected.values).drop (limitOf context)).map
        (·.candidate.candidateId) := by
    rw [← ordered_rows h.shown hkept, ← List.map_drop, List.map_map]
    constructor
    · intro hmem
      obtain ⟨p, hp, hid⟩ := List.mem_map.mp hmem
      have hvalue := (sortByKey_perm _ _).mem_iff.mp (List.mem_of_mem_drop hp)
      rw [Function.comp_apply, hids p hvalue] at hid
      exact List.mem_map.mpr ⟨p, hp, Option.some.inj hid⟩
    · intro hmem
      obtain ⟨p, hp, hid⟩ := List.mem_map.mp hmem
      have hvalue := (sortByKey_perm _ _).mem_iff.mp (List.mem_of_mem_drop hp)
      exact List.mem_map.mpr ⟨p, hp, (hids p hvalue).trans (congrArg some hid)⟩
  rw [List.map_append, List.mem_append, hdropped]
  have hs : id ∈ s.omitted ↔ some id ∈ left.map SearchProjectionRow.candidateId := by
    rw [h.omitted]
    simp [start]
  rw [← hs, or_comm]
  unfold conclude
  rw [Finset.mem_union, List.mem_toFinset]

end Conclude

/-! ## A sample -/

def sampleRow (id text : String) : SearchProjectionRow where
  rowId := "search:object:" ++ id
  rowVariant := "object"
  candidateId := some id
  sourceRef := none
  sourceKind := none
  text := text
  sourceRole := none
  contentTrust := none
  captureCompleteness := none
  instructionAuthority := "none"
  objectKind := none
  currentness := some "current"
  lifecycle := some "active"
  epistemic := none
  authority := none
  taskId := none
  repositoryId := none
  worktreeId := none
  eventTimeUs := 0
  recordedAtUs := 0
  sourceSequence := 0
  timeDomain := "event_time"
  retrievalCompleteness := "complete"
  suppressionRefHash := none
  sourceEventSeq := 1
  projectionGeneration := 1

/-- One result is asked for, and the candidate `hidden` must not be shown. -/
def sampleContext : SearchContext where
  intent := .taskPlanning
  rawQuery := "cache"
  queryFacets :=
    { parseStatus := .complete
      exactIdentifiers := []
      conditionLiterals := []
      relationRequirements := []
      polarity := .positive
      explicitExclusions := []
      temporalMode := .any
      temporalQualifiers := []
      quantityConstraints := [.resultLimit 1]
      scopeBoundary := none
      sourceBoundary := none
      lifecycleBoundary := .any }
  taskId := none
  repositoryId := none
  worktreeId := none
  suppression := .current 1 {"hidden"}
  budget := ⟨4, 100, 1000, 0, 0⟩

/-- An answer in time, from a projection that is up to date. -/
def sampleFetched (fts : FtsOutcome) : Fetched := ⟨[], fts, 1, 1, 10⟩

end EverTrace.L2.Search
