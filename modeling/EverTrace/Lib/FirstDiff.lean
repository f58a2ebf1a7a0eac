import Mathlib.Data.List.Lex
import Mathlib.Order.Basic
/-!
# First differences

Two lists are in lexicographic order when they agree up to some place and are
ordered there (`Precedes`). In this form the order passes through whatever is done
to both lists alike: what is put in front, behind or between, and a translation of
the elements that keeps their order.
-/
namespace EverTrace.Lib

variable {α β : Type} [LT α] [LT β]

/-- The lists agree up to a place, and there the first has the smaller element. -/
def Precedes (l m : List α) : Prop :=
  ∃ front x y l' m', l = front ++ x :: l' ∧ m = front ++ y :: m' ∧ x < y

/-- A separator put in behind the first `n` elements. -/
def insertAt (n : Nat) (x : α) (l : List α) : List α := l.take n ++ x :: l.drop n

omit [LT α] in
theorem insertAt_length {n : Nat} {x : α} {l m : List α} (h : l.length = n) : insertAt n x (l ++ m) = l ++ x :: m := by
  unfold insertAt
  rw [← h, List.take_left, List.drop_left]

namespace Precedes

theorem lt {l m : List α} (h : Precedes l m) : l < m := by
  obtain ⟨front, x, y, l', m', rfl, rfl, hlt⟩ := h
  induction front with
  | nil => exact List.Lex.rel hlt
  | cons a front ih => exact List.Lex.cons ih

theorem append_right {l m : List α} (h : Precedes l m) (c d : List α) : Precedes (l ++ c) (m ++ d) := by
  obtain ⟨front, x, y, l', m', rfl, rfl, hlt⟩ := h
  exact ⟨front, x, y, l' ++ c, m' ++ d, by simp, by simp, hlt⟩

theorem append_left {l m : List α} (h : Precedes l m) (c : List α) : Precedes (c ++ l) (c ++ m) := by
  obtain ⟨front, x, y, l', m', rfl, rfl, hlt⟩ := h
  exact ⟨c ++ front, x, y, l', m', by simp, by simp, hlt⟩

theorem cons {l m : List α} (h : Precedes l m) (a : α) : Precedes (a :: l) (a :: m) := h.append_left [a]

theorem insertAt {l m : List α} (h : Precedes l m) (n : Nat) (c : α) : Precedes (insertAt n c l) (insertAt n c m) := by
  obtain ⟨front, x, y, l', m', rfl, rfl, hlt⟩ := h
  unfold EverTrace.Lib.insertAt
  by_cases hn : n ≤ front.length
  · -- the separator goes into what the lists share
    rw [List.take_append_of_le_length hn, List.take_append_of_le_length hn, List.drop_append_of_le_length hn,
      List.drop_append_of_le_length hn]
    exact append_left (cons ⟨front.drop n, x, y, l', m', rfl, rfl, hlt⟩ c) _
  · obtain ⟨k, rfl⟩ : ∃ k, n = front.length + (k + 1) := ⟨n - front.length - 1, by omega⟩
    rw [List.take_length_add_append, List.take_length_add_append, List.take_succ_cons, List.take_succ_cons]
    exact append_right ⟨front, x, y, l'.take k, m'.take k, rfl, rfl, hlt⟩ _ _

/-- A translation of each element by a list keeps the order if it keeps that of two elements. -/
theorem flatMap {f : α → List β} (hf : ∀ x y, x < y → Precedes (f x) (f y)) {l m : List α} (h : Precedes l m) :
    Precedes (l.flatMap f) (m.flatMap f) := by
  obtain ⟨front, x, y, l', m', rfl, rfl, hlt⟩ := h
  rw [List.flatMap_append, List.flatMap_append, List.flatMap_cons, List.flatMap_cons]
  exact append_left (append_right (hf x y hlt) _ _) _

end Precedes

end EverTrace.Lib
