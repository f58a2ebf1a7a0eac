import EverTrace.L2Machine.Rows
import EverTrace.L2Machine.SearchRanked
import EverTrace.Lib.TopK
/-!
# The full-text selection (`evertrace-store/src/search.rs`)

The index answers a full-text query with a stream of batches in no order. The best
rows are kept in a buffer of bounded size, sorted by score and row id, and only a
row that gets into the buffer is decoded.

A score is kept as the bits of its `f32`. What the decoder says of a row is part
of the row (`decoded`).

**Results.** Over any batches of rows that decode, with finite scores and distinct
row ids, the buffer ends as the first rows of them all (`selectFts_eq`); so neither
the order of the rows nor the batches show, and the query returns these rows.
-/
namespace EverTrace.L2.Search
open EverTrace.Lib EverTrace.L1 EverTrace.L2.Store

/-! ## Scores -/

/-- `f32::is_finite`: not all bits of the exponent are set. -/
def isFinite (bits : UInt32) : Bool := bits.toNat / 2 ^ 23 % 2 ^ 8 ≠ 255

/-- The number that `f32::total_cmp` compares: the bits as a signed integer, the lower 31 flipped where the sign is
set. -/
def totalKey (bits : UInt32) : Int := if bits.toNat < 2 ^ 31 then bits.toNat else 2 ^ 31 - 1 - bits.toNat

/-- `f32::total_cmp` -/
def totalCmp (a b : UInt32) : Ordering := compare (totalKey a) (totalKey b)

/-! ## The selection -/

/-- A row of a batch: two columns, and what the decoder says of the whole row. -/
structure FtsRow where
  rowId : Option String
  score : Option UInt32
  decoded : Except StoreError SearchProjectionRow

/-- `slice::partition_point`, of a slice whose first elements are those with the property -/
def partitionPoint {α : Type} (p : α → Bool) (l : List α) : Nat := (l.takeWhile p).length

/-- The comparison of the binary search: a selected row stays before a new one.
mirrors evertrace-store/src/search.rs:413-419 -/
def staysBefore (score : UInt32) (rowId : String) (entry : UInt32 × SearchProjectionRow) : Bool :=
  ((totalCmp entry.1 score).swap.then (compare entry.2.rowId rowId)).isLE

/-- One row of a batch. The `insert` is at most at the end: a full buffer has lost its last row.
mirrors evertrace-store/src/search.rs:408-434 -/
def selectFtsRow (limit : Nat) (selected : List (UInt32 × SearchProjectionRow)) (row : FtsRow) :
    Except StoreError (List (UInt32 × SearchProjectionRow)) :=
  match row.rowId, row.score with
  | some rowId, some score =>
    if isFinite score then
      let position := partitionPoint (staysBefore score rowId) selected
      if position < limit then do
        let decoded ← row.decoded
        let kept := if selected.length = limit then selected.dropLast else selected
        return kept.insertIdx position (score, decoded)
      else .ok selected
    else .error .storeCorrupt
  | _, _ => .error .storeCorrupt

/-- mirrors evertrace-store/src/search.rs:395-437 -/
def selectFtsBatch (limit : Nat) (selected : List (UInt32 × SearchProjectionRow)) (batch : List FtsRow) :
    Except StoreError (List (UInt32 × SearchProjectionRow)) :=
  batch.foldlM (selectFtsRow limit) selected

/-- mirrors evertrace-store/src/search.rs:442-449 -/
def ensureUniqueRowIds (rows : List SearchProjectionRow) : Except StoreError Unit :=
  ensure .storeCorrupt (!adjacentDup id (sortByKey id (rows.map SearchProjectionRow.rowId)))

/-- The full-text half of `query_rows`, over the batches of the stream.
mirrors evertrace-store/src/search.rs:354-379 -/
def queryRowsFts (limit : Nat) (batches : List (List FtsRow)) : Except StoreError (List SearchProjectionRow) :=
  if limit = 0 then .ok []
  else do
    ensure .invalidInput (limit < 2 ^ 63)
    let selected ← batches.foldlM (selectFtsBatch limit) []
    let rows := selected.map Prod.snd
    ensureUniqueRowIds rows
    return rows

/-! ## The order -/

/-- Best score first, and among equal ones the smaller row id. -/
def ftsKey (entry : UInt32 × SearchProjectionRow) : Int ×ₗ String := toLex (-totalKey entry.1, entry.2.rowId)

/-- The number that scores are compared by says which score it is: `total_cmp` is a total order. -/
theorem totalKey_injective : Function.Injective totalKey := by
  intro a b h
  have ha := a.toNat_lt
  have hb := b.toNat_lt
  refine UInt32.toNat_inj.mp ?_
  unfold totalKey at h
  split at h <;> split at h <;> omega

theorem staysBefore_iff {score : UInt32} {row : SearchProjectionRow} {entry : UInt32 × SearchProjectionRow} :
    staysBefore score row.rowId entry = decide (ftsKey entry ≤ ftsKey (score, row)) := by
  unfold staysBefore totalCmp ftsKey
  rw [Bool.eq_iff_iff, decide_eq_true_iff, Prod.Lex.toLex_le_toLex]
  dsimp only
  rcases lt_trichotomy (totalKey entry.1) (totalKey score) with hlt | heq | hgt
  · rw [compare_lt_iff_lt.mpr hlt]
    simp only [Ordering.swap, Ordering.then]
    refine iff_of_false (by decide) ?_
    omega
  · have hsame : compare (totalKey score) (totalKey score) = .eq := compare_eq_iff_eq.mpr rfl
    rw [heq, hsame]
    simp only [Ordering.swap, Ordering.then, lt_irrefl, false_or, true_and]
    rw [Ordering.isLE_iff_ne_gt]
    exact compare_le_iff_le
  · have hgreater : compare (totalKey entry.1) (totalKey score) = .gt := compare_gt_iff_gt.mpr hgt
    rw [hgreater]
    simp only [Ordering.swap, Ordering.then]
    refine iff_of_true (by decide) (.inl ?_)
    omega

def scored (entry : UInt32 × SearchProjectionRow) : FtsRow := ⟨some entry.2.rowId, some entry.1, .ok entry.2⟩

/-- One row that decodes is put where it belongs. -/
theorem selectFtsRow_scored {limit : Nat} {selected : List (UInt32 × SearchProjectionRow)}
    {entry : UInt32 × SearchProjectionRow} (hfinite : isFinite entry.1 = true) :
    selectFtsRow limit selected (scored entry) = .ok (offer limit ftsKey selected entry) := by
  have hbefore : staysBefore entry.1 entry.2.rowId = fun other => decide (ftsKey other ≤ ftsKey entry) :=
    funext fun _ => staysBefore_iff
  unfold selectFtsRow scored offer partitionPoint
  dsimp only
  rw [if_pos hfinite, hbefore]
  split <;> rfl

/-- So is every row of a batch. -/
theorem selectFtsBatch_scored {limit : Nat} {batch : List (UInt32 × SearchProjectionRow)}
    (hfinite : ∀ entry ∈ batch, isFinite entry.1 = true) (selected : List (UInt32 × SearchProjectionRow)) :
    selectFtsBatch limit selected (batch.map scored) = .ok (batch.foldl (offer limit ftsKey) selected) := by
  induction batch generalizing selected with
  | nil => rfl
  | cons entry batch ih =>
    have hrest := ih fun other hother => hfinite other (List.mem_cons_of_mem entry hother)
    unfold selectFtsBatch at hrest ⊢
    rw [List.map_cons, List.foldlM_cons, selectFtsRow_scored (hfinite entry List.mem_cons_self), ok_bind, hrest]
    rfl

/-- The cuts between batches do not show. -/
theorem selectFtsBatches_scored {limit : Nat} {batches : List (List (UInt32 × SearchProjectionRow))}
    (hfinite : ∀ entry ∈ batches.flatten, isFinite entry.1 = true) (selected : List (UInt32 × SearchProjectionRow)) :
    (batches.map fun batch => batch.map scored).foldlM (selectFtsBatch limit) selected =
      .ok (batches.flatten.foldl (offer limit ftsKey) selected) := by
  induction batches generalizing selected with
  | nil => rfl
  | cons batch batches ih =>
    rw [List.flatten_cons] at hfinite ⊢
    rw [List.map_cons, List.foldlM_cons, selectFtsBatch_scored fun entry hentry =>
      hfinite entry (List.mem_append_left _ hentry), ok_bind, ih fun entry hentry =>
      hfinite entry (List.mem_append_right _ hentry), List.foldl_append]

/-- The first rows of all that were streamed. -/
def firstRows (limit : Nat) (rows : List (UInt32 × SearchProjectionRow)) : List (UInt32 × SearchProjectionRow) :=
  (sortByKey ftsKey rows).take limit

theorem ftsKey_nodup {rows : List (UInt32 × SearchProjectionRow)}
    (hdistinct : (rows.map fun entry => entry.2.rowId).Nodup) : (rows.map ftsKey).Nodup := by
  have hids : rows.map (fun entry => entry.2.rowId) = (rows.map ftsKey).map fun key => (ofLex key).2 := by
    rw [List.map_map]
    rfl
  rw [hids] at hdistinct
  exact hdistinct.of_map _

theorem selectFts_ok {limit : Nat} {batches : List (List (UInt32 × SearchProjectionRow))}
    (hfinite : ∀ entry ∈ batches.flatten, isFinite entry.1 = true)
    (hdistinct : (batches.flatten.map fun entry => entry.2.rowId).Nodup) :
    (batches.map fun batch => batch.map scored).foldlM (selectFtsBatch limit) [] =
      .ok (firstRows limit batches.flatten) := by
  rw [selectFtsBatches_scored hfinite, foldl_offer limit ftsKey _ (ftsKey_nodup hdistinct)]
  rfl

theorem ensureUniqueRowIds_ok {rows : List SearchProjectionRow}
    (hdistinct : (rows.map SearchProjectionRow.rowId).Nodup) : ensureUniqueRowIds rows = .ok () := by
  unfold ensureUniqueRowIds
  rw [ensure_ok, Bool.not_eq_true', adjacentDup_sortByKey, List.map_id]
  exact hdistinct

/-- **Streaming is sorting and cutting off**: the buffer ends as the first rows of all batches, and is never larger than
the limit. Batches with the same rows leave the same buffer, and the query returns the rows in it. -/
theorem selectFts_eq (limit : Nat) (batches : List (List (UInt32 × SearchProjectionRow))) (hlimit : 0 < limit)
    (hfinite : ∀ entry ∈ batches.flatten, isFinite entry.1 = true)
    (hdistinct : (batches.flatten.map fun entry => entry.2.rowId).Nodup) :
    (batches.map fun batch => batch.map scored).foldlM (selectFtsBatch limit) [] =
        .ok (firstRows limit batches.flatten) ∧
      (∀ seen, seen <+: batches → ∃ selected,
        (seen.map fun batch => batch.map scored).foldlM (selectFtsBatch limit) [] = .ok selected ∧
          selected.length ≤ limit) ∧
      (∀ others : List (List (UInt32 × SearchProjectionRow)), others.flatten.Perm batches.flatten →
        (others.map fun batch => batch.map scored).foldlM (selectFtsBatch limit) [] =
          .ok (firstRows limit batches.flatten)) ∧
      (limit < 2 ^ 63 → queryRowsFts limit (batches.map fun batch => batch.map scored) =
        .ok ((firstRows limit batches.flatten).map Prod.snd)) := by
  have hall : _ = Except.ok (firstRows limit batches.flatten) := selectFts_ok hfinite hdistinct
  refine ⟨hall, fun seen hseen => ?_, fun others hperm => ?_, fun hbound => ?_⟩
  · obtain ⟨rest, rfl⟩ := hseen
    rw [List.flatten_append] at hfinite hdistinct
    have hsublist : seen.flatten.Sublist (seen.flatten ++ rest.flatten) := List.sublist_append_left _ _
    refine ⟨_, selectFts_ok (fun entry hentry => hfinite entry (List.mem_append_left _ hentry))
      (hdistinct.sublist (hsublist.map _)), List.length_take_le _ _⟩
  · have hsorted : firstRows limit batches.flatten = firstRows limit others.flatten := by
      unfold firstRows
      rw [sortByKey_eq_of_perm ftsKey hperm.symm (ftsKey_nodup hdistinct)]
    rw [hsorted]
    exact selectFts_ok (fun entry hentry => hfinite entry (hperm.mem_iff.mp hentry))
      (((hperm.map _).nodup_iff).mpr hdistinct)
  · unfold queryRowsFts
    have hensure : ensure StoreError.invalidInput (decide (limit < 2 ^ 63)) = .ok () :=
      ensure_ok.mpr (decide_eq_true hbound)
    rw [if_neg hlimit.ne', hensure, ok_bind, hall, ok_bind]
    dsimp only
    have hsublist : (firstRows limit batches.flatten).Sublist (sortByKey ftsKey batches.flatten) :=
      List.take_sublist limit _
    have hids : (((firstRows limit batches.flatten).map Prod.snd).map SearchProjectionRow.rowId).Nodup := by
      rw [List.map_map]
      have hperm := (sortByKey_perm ftsKey batches.flatten).map fun entry => entry.2.rowId
      exact (hperm.nodup_iff.mpr hdistinct).sublist (hsublist.map _)
    rw [ensureUniqueRowIds_ok hids]
    rfl

/-- Two batches, and a limit that one row of each gets under. -/
theorem selectFts_eq_sample :
    ((([[(0x3f800000, sampleRow "b" "text")], [(0x40000000, sampleRow "c" "text"), (0x3f800000, sampleRow "a" "text")]] :
        List (List (UInt32 × SearchProjectionRow))).map fun batch => batch.map scored).foldlM (selectFtsBatch 2) []) =
      .ok (firstRows 2 [(0x3f800000, sampleRow "b" "text"), (0x40000000, sampleRow "c" "text"),
        (0x3f800000, sampleRow "a" "text")]) :=
  (selectFts_eq 2 [[(0x3f800000, sampleRow "b" "text")], [(0x40000000, sampleRow "c" "text"),
    (0x3f800000, sampleRow "a" "text")]] (by decide) (by decide +kernel) (by decide +kernel)).1

end EverTrace.L2.Search
