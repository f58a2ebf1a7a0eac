import EverTrace.Lib.KeySort
import Mathlib.Data.List.Induction
/-!
# The first elements of a stream

`offer limit key l a` puts `a` into the sorted buffer `l`, after the elements that
are not larger, and drops the last one when the buffer is full. Offered one after
another, elements with distinct keys leave the first `limit` of the sorted list of
them all (`foldl_offer`), so neither their order nor where the stream is cut shows.
-/
namespace EverTrace.Lib

variable {α κ : Type} [LE κ] [DecidableLE κ]

/-- The sorted list with one more element, after those that are not larger. -/
def insertAfter (key : α → κ) (a : α) (l : List α) : List α :=
  l.takeWhile (fun b => key b ≤ key a) ++ a :: l.dropWhile fun b => key b ≤ key a

/-- A bounded buffer with one more element. -/
def offer (limit : Nat) (key : α → κ) (l : List α) (a : α) : List α :=
  let position := (l.takeWhile fun b => key b ≤ key a).length
  if position < limit then (if l.length = limit then l.dropLast else l).insertIdx position a else l

variable {key : α → κ} {a : α} {l : List α} {limit : Nat}

theorem insertAfter_cons_of_le {b : α} (h : key b ≤ key a) : insertAfter key a (b :: l) = b :: insertAfter key a l := by
  simp [insertAfter, h]

theorem insertAfter_cons_of_not_le {b : α} (h : ¬key b ≤ key a) : insertAfter key a (b :: l) = a :: b :: l := by
  simp [insertAfter, h]

theorem insertAfter_perm (key : α → κ) (a : α) (l : List α) : (insertAfter key a l).Perm (a :: l) := by
  unfold insertAfter
  refine List.perm_middle.trans (List.Perm.cons a ?_)
  rw [List.takeWhile_append_dropWhile]

omit [LE κ] [DecidableLE κ] in
theorem makeRoom_take (limit : Nat) (l : List α) :
    (if (l.take (limit + 1)).length = limit + 1 then (l.take (limit + 1)).dropLast else l.take (limit + 1)) =
      l.take limit := by
  rw [List.length_take]
  split
  · next hfull =>
    rw [List.dropLast_eq_take, List.length_take, hfull, Nat.add_sub_cancel, List.take_take]
    congr 1
    omega
  · next hroom =>
    have hshort : l.length ≤ limit := by omega
    rw [List.take_of_length_le (by omega), List.take_of_length_le hshort]

theorem offer_cons_of_le {b : α} (h : key b ≤ key a) :
    offer (limit + 1) key (b :: l) a = b :: offer limit key l a := by
  have hposition : ((b :: l).takeWhile fun c => decide (key c ≤ key a)).length =
      (l.takeWhile fun c => decide (key c ≤ key a)).length + 1 := by
    simp [h]
  unfold offer
  dsimp only
  rw [hposition, List.length_cons]
  by_cases hroom : (l.takeWhile fun c => decide (key c ≤ key a)).length < limit
  · rw [if_pos hroom, if_pos (Nat.succ_lt_succ hroom)]
    by_cases hfull : l.length = limit
    · have hne : l ≠ [] := by
        rintro rfl
        exact absurd hroom (by rw [← hfull]; exact Nat.not_lt_zero _)
      rw [if_pos hfull, if_pos (congrArg (· + 1) hfull), List.dropLast_cons_of_ne_nil hne, List.insertIdx_succ_cons]
    · rw [if_neg hfull, if_neg fun heq => hfull (Nat.succ.inj heq), List.insertIdx_succ_cons]
  · rw [if_neg hroom, if_neg fun hlt => hroom (Nat.lt_of_succ_lt_succ hlt)]

/-- The buffer holds the first elements, before and after. -/
theorem offer_take (limit : Nat) (key : α → κ) (a : α) (l : List α) :
    offer limit key (l.take limit) a = (insertAfter key a l).take limit := by
  induction l generalizing limit with
  | nil => cases limit <;> simp [offer, insertAfter]
  | cons b l ih =>
    cases limit with
    | zero => simp [offer]
    | succ limit =>
      rw [List.take_succ_cons]
      by_cases hba : key b ≤ key a
      · rw [insertAfter_cons_of_le hba, List.take_succ_cons, offer_cons_of_le hba, ih]
      · have hroom := makeRoom_take limit (b :: l)
        rw [List.take_succ_cons] at hroom
        rw [insertAfter_cons_of_not_le hba, List.take_succ_cons, ← hroom]
        simp [offer, hba]

section

variable [Std.IsLinearOrder κ]

theorem insertAfter_pairwise (h : l.Pairwise fun b c => key b ≤ key c) :
    (insertAfter key a l).Pairwise fun b c => key b ≤ key c := by
  induction l with
  | nil => exact List.pairwise_singleton _ a
  | cons b l ih =>
    obtain ⟨hb, hl⟩ := List.pairwise_cons.mp h
    by_cases hba : key b ≤ key a
    · rw [insertAfter_cons_of_le hba]
      refine List.pairwise_cons.mpr ⟨fun c hc => ?_, ih hl⟩
      rcases List.mem_cons.mp ((insertAfter_perm key a l).mem_iff.mp hc) with rfl | hc
      · exact hba
      · exact hb c hc
    · have hab : key a ≤ key b := (Std.le_total (a := key b) (b := key a)).resolve_left hba
      rw [insertAfter_cons_of_not_le hba]
      refine List.pairwise_cons.mpr ⟨fun c hc => ?_, h⟩
      rcases List.mem_cons.mp hc with rfl | hc
      · exact hab
      · exact Std.le_trans hab (hb c hc)

/-- With distinct keys, inserting into the sorted list is sorting with one element more. -/
theorem insertAfter_sortByKey (hn : ((l ++ [a]).map key).Nodup) :
    insertAfter key a (sortByKey key l) = sortByKey key (l ++ [a]) := by
  have hperm : (insertAfter key a (sortByKey key l)).Perm (l ++ [a]) := by
    refine (insertAfter_perm key a _).trans ?_
    refine ((sortByKey_perm key l).cons a).trans ?_
    exact (List.perm_append_singleton a l).symm
  have hsorted : sortByKey key (insertAfter key a (sortByKey key l)) = insertAfter key a (sortByKey key l) :=
    (insertAfter_pairwise (sortByKey_pairwise key l)).insertionSort_eq
  rw [← hsorted]
  exact sortByKey_eq_of_perm key hperm ((hperm.map key).nodup_iff.mpr hn)

/-- **Offered one after another, elements with distinct keys leave the first of them all.** -/
theorem foldl_offer (limit : Nat) (key : α → κ) (l : List α) (hn : (l.map key).Nodup) :
    l.foldl (offer limit key) [] = (sortByKey key l).take limit := by
  induction l using List.reverseRecOn with
  | nil => exact (List.take_nil).symm
  | append_singleton l a ih =>
    have hinit : (l.map key).Nodup := hn.sublist ((List.sublist_append_left l [a]).map key)
    rw [List.foldl_append, List.foldl_cons, List.foldl_nil, ih hinit, offer_take, insertAfter_sortByKey hn]

end

end EverTrace.Lib
