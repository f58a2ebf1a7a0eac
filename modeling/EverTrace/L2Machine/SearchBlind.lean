import EverTrace.L2Machine.SearchRanked
/-!
# Rows that may not be shown

Two answers of the index that differ only in rows that may not be shown lead to
the same result (`searchInner_eq_of_alike`). The position of a row in the
full-text answer counts all rows before it, those that may not be shown
included, but only the order of the positions is used, and leaving rows out
does not change it (`idxOf_filter_le`).

The rows of one answer have distinct ids (`ensure_unique_row_ids`), and both
answers come from one pinned version of the table, where an id stands for one
row.
-/
namespace EverTrace.L2.Search
open EverTrace.Lib EverTrace.L1

variable {context : SearchContext} {fetched fetched' : Fetched} {row : SearchProjectionRow}

/-- An id stands for one row. mirrors evertrace-store/src/search.rs:377, 439-449, 1075 -/
structure Keyed (fetched : Fetched) : Prop where
  structured : (fetched.structured.map SearchProjectionRow.rowId).Nodup
  fts : (fetched.fts.list.map SearchProjectionRow.rowId).Nodup
  pinned : ∀ a ∈ fetched.structured, ∀ b ∈ fetched.fts.list, a.rowId = b.rowId → a = b

/-- The full-text query came to the same, up to rows that may not be shown. -/
inductive OutcomeAlike (context : SearchContext) : FtsOutcome → FtsOutcome → Prop where
  | rows {found found' : List SearchProjectionRow}
      (same : found.filter (fun row => Shown context row) = found'.filter fun row => Shown context row) :
      OutcomeAlike context (.rows found) (.rows found')
  | unavailable : OutcomeAlike context .unavailable .unavailable
  | deadlineExhausted : OutcomeAlike context .deadlineExhausted .deadlineExhausted

/-- The answers are the same, up to rows that may not be shown. -/
structure Alike (context : SearchContext) (fetched fetched' : Fetched) : Prop where
  structured : fetched.structured.filter (fun row => Shown context row) =
    fetched'.structured.filter fun row => Shown context row
  fts : OutcomeAlike context fetched.fts fetched'.fts
  frontier : fetched.frontier = fetched'.frontier
  authoritativeFrontier : fetched.authoritativeFrontier = fetched'.authoritativeFrontier
  elapsedUs : fetched.elapsedUs = fetched'.elapsedUs

theorem OutcomeAlike.list {fts fts' : FtsOutcome} (h : OutcomeAlike context fts fts') :
    fts.list.filter (fun row => Shown context row) = fts'.list.filter fun row => Shown context row := by
  cases h with
  | rows same => exact same
  | unavailable => rfl
  | deadlineExhausted => rfl

theorem OutcomeAlike.reasons {fts fts' : FtsOutcome} (h : OutcomeAlike context fts fts') : fts.reasons = fts'.reasons := by
  cases h <;> rfl

theorem OutcomeAlike.startBudget {fts fts' : FtsOutcome} (h : OutcomeAlike context fts fts') :
    startBudget context fts = startBudget context fts' := by
  cases h <;> rfl

/-! ## Positions -/

/-- Leaving elements out does not change which of two others comes first. -/
theorem idxOf_filter_le {α : Type} [DecidableEq α] {p : α → Bool} {l : List α} {a b : α} (ha : p a = true)
    (hb : p b = true) : (l.filter p).idxOf a ≤ (l.filter p).idxOf b ↔ l.idxOf a ≤ l.idxOf b := by
  induction l with
  | nil => exact Iff.rfl
  | cons c l ih =>
    by_cases hc : p c = true
    · rw [List.filter_cons_of_pos hc]
      by_cases hca : c = a
      · simp [hca]
      · by_cases hcb : c = b
        · simp [hcb, List.idxOf_cons_ne _ (hcb ▸ hca)]
        · rw [List.idxOf_cons_ne _ hca, List.idxOf_cons_ne _ hcb, List.idxOf_cons_ne _ hca, List.idxOf_cons_ne _ hcb]
          omega
    · have hca : c ≠ a := fun h => hc (h ▸ ha)
      have hcb : c ≠ b := fun h => hc (h ▸ hb)
      rw [List.filter_cons_of_neg hc, List.idxOf_cons_ne _ hca, List.idxOf_cons_ne _ hcb]
      omega

theorem ftsRanks_get {fts : List SearchProjectionRow} (hnodup : (fts.map SearchProjectionRow.rowId).Nodup)
    (hrow : row ∈ fts) : (ftsRanks fts).get row.rowId = some (fts.idxOf row) := by
  have hkeys : ((fts.zipIdx.map fun entry => (entry.1.rowId, entry.2)).map Prod.fst).Nodup := by
    rw [ftsRanks_keys]
    exact hnodup
  refine OrdMap.get_insertAll_of_mem hkeys (List.mem_map.mpr ⟨(row, fts.idxOf row), ?_, rfl⟩)
  rw [List.mk_mem_zipIdx_iff_getElem?]
  exact List.getElem?_idxOf hrow

/-! ## The ranked rows -/

/-- With one row for each id nothing is lost when the answers are merged. -/
theorem Keyed.mem_mergeRows (h : Keyed fetched) :
    row ∈ mergeRows fetched.structured fetched.fts.list ↔ row ∈ fetched.structured ++ fetched.fts.list := by
  rw [Search.mem_mergeRows, and_iff_left_iff_imp]
  intro hrow other hother hid
  have heq : other = row := by
    rcases List.mem_append.mp hother with ho | ho <;> rcases List.mem_append.mp hrow with hr | hr
    · exact List.inj_on_of_nodup_map h.structured ho hr hid
    · exact h.pinned other ho row hr hid
    · exact (h.pinned row hr other ho hid.symm).symm
    · exact List.inj_on_of_nodup_map h.fts ho hr hid
  rw [heq]

theorem Alike.mergeRows_eq (h : Alike context fetched fetched') (hkeyed : Keyed fetched) (hkeyed' : Keyed fetched') :
    (mergeRows fetched.structured fetched.fts.list).filter (fun row => Shown context row) =
      (mergeRows fetched'.structured fetched'.fts.list).filter fun row => Shown context row := by
  have hnodup : ∀ structured fts : List SearchProjectionRow, (mergeRows structured fts).Nodup := by
    intro structured fts
    have hsorted := sortByKey_pairwise SearchProjectionRow.order (structured ++ fts)
    unfold mergeRows
    rw [destutter_eq_fresh (hsorted.imp rowId_le_of_order_le)]
    exact List.Nodup.of_map _ (nodup_map_fresh _ _)
  refine List.Perm.eq_of_pairwise (fun a b _ _ hab hba => order_injective (le_antisymm hab hba))
    ((mergeRows_sorted _ _).filter _) ((mergeRows_sorted _ _).filter _) ?_
  rw [List.perm_ext_iff_of_nodup ((hnodup _ _).filter _) ((hnodup _ _).filter _)]
  intro row
  have hfilter : (fetched.structured ++ fetched.fts.list).filter (fun row => Shown context row) =
      (fetched'.structured ++ fetched'.fts.list).filter fun row => Shown context row := by
    rw [List.filter_append, List.filter_append, h.structured, h.fts.list]
  have hmem : row ∈ (fetched.structured ++ fetched.fts.list).filter (fun row => Shown context row) ↔
      row ∈ (fetched'.structured ++ fetched'.fts.list).filter fun row => Shown context row := by rw [hfilter]
  rw [List.mem_filter, List.mem_filter] at hmem
  rw [List.mem_filter, List.mem_filter, hkeyed.mem_mergeRows, hkeyed'.mem_mergeRows]
  exact hmem

/-- A row that may be shown is found by the full-text query in both answers or in neither. -/
theorem Alike.mem_fts (h : Alike context fetched fetched') (hshown : Shown context row) :
    row ∈ fetched.fts.list ↔ row ∈ fetched'.fts.list := by
  have hfilter : ∀ l : List SearchProjectionRow, row ∈ l ↔ row ∈ l.filter fun row => Shown context row := by
    intro l
    rw [List.mem_filter, and_iff_left (decide_eq_true hshown)]
  rw [hfilter fetched.fts.list, hfilter fetched'.fts.list, h.fts.list]

theorem Keyed.exists_found (h : Keyed fetched) (hrow : row ∈ fetched.structured ++ fetched.fts.list) :
    (∃ found ∈ fetched.fts.list, found.rowId = row.rowId) ↔ row ∈ fetched.fts.list := by
  constructor
  · intro ⟨found, hfound, hid⟩
    rcases List.mem_append.mp hrow with hr | hr
    · exact h.pinned row hr found hfound hid.symm ▸ hfound
    · exact hr
  · intro hr
    exact ⟨row, hr, rfl⟩

theorem Alike.matches_iff (h : Alike context fetched fetched') (hkeyed : Keyed fetched) (hkeyed' : Keyed fetched')
    (hrow : row ∈ fetched.structured ++ fetched.fts.list) (hrow' : row ∈ fetched'.structured ++ fetched'.fts.list) :
    Matches context fetched.fts.list row ↔ Matches context fetched'.fts.list row := by
  unfold Matches Found
  rw [hkeyed.exists_found hrow, hkeyed'.exists_found hrow']
  constructor
  · intro ⟨hid, hshown, hfound⟩
    exact ⟨hid, hshown, hfound.imp_right (Or.imp_right (h.mem_fts hshown).mp)⟩
  · intro ⟨hid, hshown, hfound⟩
    exact ⟨hid, hshown, hfound.imp_right (Or.imp_right (h.mem_fts hshown).mpr)⟩

/-- The place of a row in both rankings. -/
theorem Alike.rowKey_cases (h : Alike context fetched fetched') (hkeyed : Keyed fetched) (hkeyed' : Keyed fetched')
    (hrow : row ∈ fetched.structured ++ fetched.fts.list) (hm : Matches context fetched.fts.list row)
    (hm' : Matches context fetched'.fts.list row) : ∃ id,
      (rowKey context (ftsRanks fetched.fts.list) row = toLex (0, toLex (0, [id])) ∧
        rowKey context (ftsRanks fetched'.fts.list) row = toLex (0, toLex (0, [id]))) ∨
      (rowKey context (ftsRanks fetched.fts.list) row = toLex (3, toLex (fetched.fts.list.idxOf row, [id])) ∧
        rowKey context (ftsRanks fetched'.fts.list) row = toLex (3, toLex (fetched'.fts.list.idxOf row, [id]))) := by
  obtain ⟨id, hid, hcase⟩ := Search.rowKey_cases hm
  obtain ⟨id', hid', hcase'⟩ := Search.rowKey_cases hm'
  obtain rfl : id' = id := Option.some.inj (hid'.symm.trans hid)
  refine ⟨id', ?_⟩
  rcases hcase with ⟨hclass, hkey⟩ | ⟨position, hclass, hget, hkey⟩
  · rcases hcase' with ⟨-, hkey'⟩ | ⟨position', hclass', -, -⟩
    · exact .inl ⟨hkey, hkey'⟩
    · rw [hclass] at hclass'
      cases hclass'
  · rcases hcase' with ⟨hclass', -⟩ | ⟨position', -, hget', hkey'⟩
    · rw [hclass] at hclass'
      cases hclass'
    · have hmem := (hkeyed.exists_found hrow).mp (ftsRanks_isSome.mp (by rw [hget]; rfl))
      rw [ftsRanks_get hkeyed.fts hmem] at hget
      rw [ftsRanks_get hkeyed'.fts ((h.mem_fts hm.2.1).mp hmem)] at hget'
      cases hget
      cases hget'
      exact .inr ⟨hkey, hkey'⟩

theorem Alike.rowKey_le (h : Alike context fetched fetched') (hkeyed : Keyed fetched) (hkeyed' : Keyed fetched')
    {a b : SearchProjectionRow} (hrowa : a ∈ fetched.structured ++ fetched.fts.list)
    (hrowb : b ∈ fetched.structured ++ fetched.fts.list) (ha : Matches context fetched.fts.list a)
    (hb : Matches context fetched.fts.list b) (ha' : Matches context fetched'.fts.list a)
    (hb' : Matches context fetched'.fts.list b) :
    rowKey context (ftsRanks fetched.fts.list) a ≤ rowKey context (ftsRanks fetched.fts.list) b ↔
      rowKey context (ftsRanks fetched'.fts.list) a ≤ rowKey context (ftsRanks fetched'.fts.list) b := by
  have hidx : ∀ {a b : SearchProjectionRow}, Shown context a → Shown context b →
      (fetched.fts.list.idxOf a ≤ fetched.fts.list.idxOf b ↔
        fetched'.fts.list.idxOf a ≤ fetched'.fts.list.idxOf b) := by
    intro a b ha hb
    have hleft := fun l : List SearchProjectionRow =>
      @idxOf_filter_le _ _ (fun row => Shown context row) l a b (decide_eq_true ha) (decide_eq_true hb)
    rw [← hleft fetched.fts.list, h.fts.list, hleft]
  obtain ⟨ida, hcasea⟩ := h.rowKey_cases hkeyed hkeyed' hrowa ha ha'
  obtain ⟨idb, hcaseb⟩ := h.rowKey_cases hkeyed hkeyed' hrowb hb hb'
  rcases hcasea with ⟨hka, hka'⟩ | ⟨hka, hka'⟩ <;> rcases hcaseb with ⟨hkb, hkb'⟩ | ⟨hkb, hkb'⟩ <;>
    rw [hka, hkb, hka', hkb']
  · simp [Prod.Lex.toLex_le_toLex]
  · simp [Prod.Lex.toLex_le_toLex]
  · -- both are ranked by their positions, and the rows between them do not count
    have hle := hidx ha.2.1 hb.2.1
    have hge := hidx hb.2.1 ha.2.1
    simp only [Prod.Lex.toLex_le_toLex, lt_irrefl, false_or, true_and]
    rw [← not_le, ← not_le, hge, le_antisymm_iff, le_antisymm_iff, hle, hge]

theorem Alike.rankedRows_eq (h : Alike context fetched fetched') (hkeyed : Keyed fetched) (hkeyed' : Keyed fetched') :
    rankedRows context fetched = rankedRows context fetched' := by
  have hsplit : ∀ fetched : Fetched, (mergeRows fetched.structured fetched.fts.list).filter
      (fun row => Matches context fetched.fts.list row) =
      ((mergeRows fetched.structured fetched.fts.list).filter fun row => Shown context row).filter
        fun row => Matches context fetched.fts.list row := by
    intro fetched
    rw [List.filter_filter]
    refine List.filter_congr fun row _ => ?_
    by_cases hm : Matches context fetched.fts.list row
    · simp [hm, hm.2.1]
    · simp [hm]
  have hrows : ∀ row ∈ (mergeRows fetched.structured fetched.fts.list).filter (fun row => Shown context row),
      row ∈ fetched.structured ++ fetched.fts.list ∧ row ∈ fetched'.structured ++ fetched'.fts.list := by
    intro row hrow
    have hrow' := hrow
    rw [h.mergeRows_eq hkeyed hkeyed'] at hrow'
    exact ⟨hkeyed.mem_mergeRows.mp (List.mem_filter.mp hrow).1, hkeyed'.mem_mergeRows.mp (List.mem_filter.mp hrow').1⟩
  unfold rankedRows
  rw [hsplit fetched, hsplit fetched', ← h.mergeRows_eq hkeyed hkeyed']
  have hfilter : ((mergeRows fetched.structured fetched.fts.list).filter fun row => Shown context row).filter
      (fun row => Matches context fetched.fts.list row) =
      ((mergeRows fetched.structured fetched.fts.list).filter fun row => Shown context row).filter
        fun row => Matches context fetched'.fts.list row := by
    refine List.filter_congr fun row hrow => decide_eq_decide.mpr ?_
    exact h.matches_iff hkeyed hkeyed' (hrows row hrow).1 (hrows row hrow).2
  rw [← hfilter]
  refine sortByKey_congr (List.pairwise_of_forall_mem_list fun a ha b hb => ?_)
  have hboth : ∀ row ∈ ((mergeRows fetched.structured fetched.fts.list).filter fun row => Shown context row).filter
      (fun row => Matches context fetched.fts.list row), row ∈ fetched.structured ++ fetched.fts.list ∧
      Matches context fetched.fts.list row ∧ Matches context fetched'.fts.list row := by
    intro row hrow
    obtain ⟨hshown, hm⟩ := List.mem_filter.mp hrow
    obtain ⟨hin, hin'⟩ := hrows row hshown
    have hm := of_decide_eq_true hm
    exact ⟨hin, hm, (h.matches_iff hkeyed hkeyed' hin hin').mp hm⟩
  obtain ⟨hina, hma, hma'⟩ := hboth a ha
  obtain ⟨hinb, hmb, hmb'⟩ := hboth b hb
  exact h.rowKey_le hkeyed hkeyed' hina hinb hma hmb hma' hmb'

/-! ## The selection -/

/-- The loop asks only which rows have a position. -/
theorem selectLoop_congr {ranks ranks' : OrdMap String Nat} {entries : List (Nat × SearchProjectionRow)}
    (h : ∀ entry ∈ entries, (ranks.get entry.2.rowId).isSome = (ranks'.get entry.2.rowId).isSome) (s : Selection) :
    selectLoop ranks entries s = selectLoop ranks' entries s := by
  induction entries generalizing s with
  | nil => rfl
  | cons entry rest ih =>
    obtain ⟨class_, row⟩ := entry
    have horigins : originsOf ranks class_ row = originsOf ranks' class_ row := by
      unfold originsOf
      rw [h _ List.mem_cons_self]
    have hrest := ih fun entry hentry => h entry (List.mem_cons_of_mem _ hentry)
    unfold selectLoop
    simp only [horigins, hrest]

/-- **The selection does not depend on rows that may not be shown.** -/
theorem Alike.select_eq (h : Alike context fetched fetched') (hkeyed : Keyed fetched) (hkeyed' : Keyed fetched')
    (hcurrent : Current context) : select context fetched = select context fetched' := by
  obtain ⟨s, kept, left, hselect, hloop, hlooped⟩ := select_ok hcurrent fetched
  obtain ⟨s', kept', left', hselect', hloop', hlooped'⟩ := select_ok hcurrent fetched'
  have hranked := h.rankedRows_eq hkeyed hkeyed'
  have hstart : start context fetched.fts = start context fetched'.fts := by
    unfold start
    rw [h.fts.startBudget]
  have hsome : ∀ row ∈ rankedRows context fetched, ((ftsRanks fetched.fts.list).get row.rowId).isSome =
      ((ftsRanks fetched'.fts.list).get row.rowId).isSome := by
    intro row hrow
    have hin := hkeyed.mem_mergeRows.mp (mem_rankedRows.mp hrow).1
    have hshown := (mem_rankedRows.mp hrow).2.2.1
    rw [hranked] at hrow
    have hin' := hkeyed'.mem_mergeRows.mp (mem_rankedRows.mp hrow).1
    rw [Bool.eq_iff_iff, ftsRanks_isSome, ftsRanks_isSome, hkeyed.exists_found hin, hkeyed'.exists_found hin',
      h.mem_fts hshown]
  have hentries : ∀ entry ∈ (rankedRows context fetched).map (fun row => (classOf context row, row)),
      ((ftsRanks fetched.fts.list).get entry.2.rowId).isSome =
        ((ftsRanks fetched'.fts.list).get entry.2.rowId).isSome := by
    intro entry hentry
    obtain ⟨row, hrow, rfl⟩ := List.mem_map.mp hentry
    exact hsome row hrow
  rw [selectLoop_congr hentries, hranked, hstart, hloop'] at hloop
  cases hloop
  have hmatches : ∀ {f : Fetched} {kept left : List SearchProjectionRow},
      Looped context (start context f.fts) s (rankedRows context f) [] kept left →
      ∀ p ∈ s.selected.values, Supplied context p p.row ∧ Matches context f.fts.list p.row ∧
        p.row ∈ rankedRows context f := by
    intro f kept left hlooped p hp
    obtain ⟨hrow, hsupplied⟩ := hlooped.shown.supplied_row hp
    have hlead : p.row ∈ leadingRows context f := hlooped.sublist ▸ List.mem_append_left left hrow
    exact ⟨hsupplied, leadingRows_matches hlead, (mem_leadingRows.mp hlead).1⟩
  have hsort : sortByKey (pickedKey (ftsRanks fetched.fts.list)) s.selected.values =
      sortByKey (pickedKey (ftsRanks fetched'.fts.list)) s.selected.values := by
    refine sortByKey_congr (List.pairwise_of_forall_mem_list fun p hp q hq => ?_)
    obtain ⟨hsp, hmp, hrp⟩ := hmatches hlooped p hp
    obtain ⟨hsq, hmq, hrq⟩ := hmatches hlooped q hq
    obtain ⟨-, hmp', -⟩ := hmatches hlooped' p hp
    obtain ⟨-, hmq', -⟩ := hmatches hlooped' q hq
    have hinp := hkeyed.mem_mergeRows.mp (mem_rankedRows.mp hrp).1
    have hinq := hkeyed.mem_mergeRows.mp (mem_rankedRows.mp hrq).1
    rw [pickedKey_le hsp hsq hmp hmq, pickedKey_le hsp hsq hmp' hmq',
      h.rowKey_le hkeyed hkeyed' hinp hinq hmp hmq hmp' hmq']
  rw [hselect, hselect']
  unfold conclude
  rw [hsort, h.frontier, h.authoritativeFrontier, h.elapsedUs, h.fts.reasons]

def SearchResult.ids (result : SearchResult) : Set String :=
  { id | id ∈ result.omittedRefs ∨ ∃ candidate ∈ result.candidates, candidate.candidateId = id }

theorem select_ids (hcurrent : Current context) {result : SearchResult} (h : select context fetched = .ok result) :
    ∀ id ∈ result.ids, ∃ row ∈ fetched.structured ++ fetched.fts.list, Shown context row ∧
      row.candidateId = some id := by
  obtain ⟨s, kept, left, hselect, -, hlooped⟩ := select_ok hcurrent fetched
  rw [hselect] at h
  cases h
  have hlead : ∀ row ∈ leadingRows context fetched, row ∈ fetched.structured ++ fetched.fts.list ∧
      Shown context row := by
    intro row hrow
    obtain ⟨hmerged, -, hshown, -⟩ := mem_rankedRows.mp (mem_leadingRows.mp hrow).1
    exact ⟨(mem_mergeRows.mp hmerged).1, hshown⟩
  intro id hid
  rcases hid with homitted | ⟨candidate, hcandidate, rfl⟩
  · obtain ⟨row, hrow, hid⟩ := List.mem_map.mp ((conclude_omitted hlooped).mp homitted)
    have hmem : row ∈ leadingRows context fetched := by
      rw [← hlooped.sublist]
      refine List.mem_append.mpr ((List.mem_append.mp hrow).imp_left List.mem_of_mem_drop)
    exact ⟨row, (hlead row hmem).1, (hlead row hmem).2, hid⟩
  · have hids := Shows.ids (conclude_candidates hlooped)
    obtain ⟨row, hrow, hid⟩ := List.mem_map.mp (hids ▸ List.mem_map_of_mem hcandidate)
    have hmem : row ∈ leadingRows context fetched := by
      rw [← hlooped.sublist]
      exact List.mem_append_left left (List.mem_of_mem_take hrow)
    exact ⟨row, (hlead row hmem).1, (hlead row hmem).2, hid⟩

/-- A result without a selection returns and omits nothing. -/
theorem refused_ids (context : SearchContext) (reason : String) : (refused context reason).ids = ∅ := by
  ext id
  simp [SearchResult.ids, refused]

theorem searchInner_cases (context : SearchContext) :
    (∃ error, ∀ fetched, searchInner context fetched = .error error) ∨
    (∃ reason, ∀ fetched, searchInner context fetched = .ok (refused context reason)) ∨
    (Current context ∧ ∀ fetched, searchInner context fetched = select context fetched) := by
  unfold searchInner
  cases hvalid : context.validate with
  | error error => exact .inl ⟨.query error, fun _ => rfl⟩
  | ok value =>
    cases hs : context.suppression with
    | unavailable => exact .inr (.inl ⟨"suppression_unavailable", fun _ => rfl⟩)
    | current generation refHashes =>
      dsimp only [Except.mapError, bind, Except.bind]
      by_cases hnegative : context.queryFacets.polarity = .negative ∧ context.queryFacets.explicitExclusions = []
      · exact .inr (.inl ⟨"negative_without_exact_exclusion", fun _ => if_pos hnegative⟩)
      · exact .inr (.inr ⟨⟨generation, refHashes, hs⟩, fun _ => if_neg hnegative⟩)

/-- **Rows that may not be shown do not influence the search**: answers that differ only in such rows lead to the
same result, and every id that the result returns or omits is that of a fetched row that may be shown. -/
theorem searchInner_eq_of_alike (h : Alike context fetched fetched') (hkeyed : Keyed fetched)
    (hkeyed' : Keyed fetched') : searchInner context fetched = searchInner context fetched' ∧
      ∀ result, searchInner context fetched = .ok result → ∀ id ∈ result.ids,
        ∃ row ∈ fetched.structured ++ fetched.fts.list, Shown context row ∧ row.candidateId = some id := by
  rcases searchInner_cases context with ⟨error, herror⟩ | ⟨reason, hrefused⟩ | ⟨hcurrent, hselect⟩
  · rw [herror fetched, herror fetched']
    exact ⟨rfl, (by intro result hresult; cases hresult)⟩
  · rw [hrefused fetched, hrefused fetched']
    refine ⟨rfl, fun result hresult id hid => ?_⟩
    cases hresult
    rw [refused_ids] at hid
    cases hid
  · rw [hselect fetched, hselect fetched']
    exact ⟨h.select_eq hkeyed hkeyed' hcurrent, fun result hresult => select_ids hcurrent hresult⟩

/-- A suppressed row stands ahead of the others in both answers. -/
theorem hidden_row_ahead :
    searchInner sampleContext ⟨[sampleRow "hidden" "cache", sampleRow "b" "cache cold"],
        .rows [sampleRow "hidden" "cache", sampleRow "a" "cache warm"], 1, 1, 10⟩ =
      searchInner sampleContext ⟨[sampleRow "b" "cache cold"], .rows [sampleRow "a" "cache warm"], 1, 1, 10⟩ :=
  (searchInner_eq_of_alike
    ⟨by decide, .rows (by decide), rfl, rfl, rfl⟩
    ⟨by decide, by decide, by decide⟩
    ⟨by decide, by decide, by decide⟩).1

end EverTrace.L2.Search
