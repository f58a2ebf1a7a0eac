import Mathlib.Data.List.Dedup
import Mathlib.Data.List.Sort
/-!
# Stable sort by a key, and the adjacent-duplicate check

`sortByKey key l` is the stable sort of `l` by `key`. `adjacentDup key l` is
the `windows(2)` check that follows it: two neighbours with the same key. On a
sorted list that check finds every duplicate, and without duplicates the
sorted list depends only on the elements, not on their order. `sortDistinct`
is the set of a list's elements in the order of a key that determines them.
-/
namespace EverTrace.Lib

variable {α β κ : Type}

/-- Stable sort by key, smallest first. -/
def sortByKey [LE κ] [DecidableLE κ] (key : α → κ) (l : List α) : List α := l.insertionSort (fun a b => key a ≤ key b)

/-- Some two neighbours have the same key. -/
def adjacentDup [DecidableEq κ] (key : α → κ) : List α → Bool
  | a :: b :: rest => key a == key b || adjacentDup key (b :: rest)
  | _ => false

theorem adjacentDup_comp [DecidableEq κ] {κ' : Type} [DecidableEq κ'] {f : κ → κ'}
    (hf : Function.Injective f) (key : α → κ) : ∀ l : List α,
    adjacentDup (fun a => f (key a)) l = adjacentDup key l
  | [] => rfl
  | [_] => rfl
  | a :: b :: rest => by
    rw [adjacentDup, adjacentDup, adjacentDup_comp hf key (b :: rest)]
    simp [beq_eq_decide, hf.eq_iff]

variable [LE κ] [DecidableLE κ]

theorem sortByKey_perm (key : α → κ) (l : List α) : (sortByKey key l).Perm l :=
  List.perm_insertionSort _ l

theorem sortByKey_map (key : β → κ) (f : α → β) (l : List α) :
    sortByKey key (l.map f) = (sortByKey (fun a => key (f a)) l).map f :=
  (List.map_insertionSort _ _ f l fun _ _ _ _ => Iff.rfl).symm

theorem orderedInsert_congr {r r' : α → α → Prop} [DecidableRel r] [DecidableRel r'] {a : α} {l : List α}
    (h : ∀ b ∈ l, r a b ↔ r' a b) : l.orderedInsert r a = l.orderedInsert r' a := by
  induction l with
  | nil => rfl
  | cons b l ih =>
    have htail := ih fun c hc => h c (List.mem_cons_of_mem b hc)
    have hb := h b List.mem_cons_self
    by_cases hab : r a b
    · rw [List.orderedInsert_cons_of_le r l hab, List.orderedInsert_cons_of_le r' l (hb.mp hab)]
    · rw [List.orderedInsert_of_not_le r l hab, List.orderedInsert_of_not_le r' l (hab ∘ hb.mpr), htail]

/-- Two keys sort a list alike if they compare every element alike with those after it. -/
theorem sortByKey_congr {κ' : Type} [LE κ'] [DecidableLE κ'] {key : α → κ} {key' : α → κ'} {l : List α}
    (h : l.Pairwise fun a b => key a ≤ key b ↔ key' a ≤ key' b) : sortByKey key l = sortByKey key' l := by
  induction l with
  | nil => rfl
  | cons a l ih =>
    obtain ⟨ha, hl⟩ := List.pairwise_cons.mp h
    unfold sortByKey at ih ⊢
    rw [List.insertionSort_cons, List.insertionSort_cons, ih hl]
    exact orderedInsert_congr fun b hb => ha b ((List.mem_insertionSort _).mp hb)

variable [Std.IsLinearOrder κ]

theorem sortByKey_pairwise (key : α → κ) (l : List α) :
    (sortByKey key l).Pairwise (fun a b => key a ≤ key b) := by
  have : Std.Total (fun a b : α => key a ≤ key b) := ⟨fun a b => Std.le_total⟩
  have : IsTrans α (fun a b => key a ≤ key b) := ⟨fun a b c hab hbc => Std.le_trans hab hbc⟩
  exact List.pairwise_insertionSort _ l

omit [DecidableLE κ] in
/-- In a sorted list a duplicate key has a duplicate next to it. -/
theorem adjacentDup_of_pairwise [DecidableEq κ] (key : α → κ) : ∀ {l : List α},
    l.Pairwise (fun a b => key a ≤ key b) → (adjacentDup key l = false ↔ (l.map key).Nodup)
  | [], _ => by simp [adjacentDup]
  | [a], _ => by simp [adjacentDup]
  | a :: b :: rest, h => by
    obtain ⟨ha, hrest⟩ := List.pairwise_cons.mp h
    have ih := adjacentDup_of_pairwise key hrest
    have hhead : key a ≠ key b ↔ key a ∉ (b :: rest).map key := by
      refine ⟨fun hab hmem => ?_, fun hmem hab => hmem (by simp [hab])⟩
      obtain ⟨c, hc, hca⟩ := List.mem_map.mp hmem
      rcases List.mem_cons.mp hc with rfl | hc
      · exact hab hca.symm
      · -- `a ≤ b ≤ c` and `key c = key a`
        have hbc := (List.pairwise_cons.mp hrest).1 c hc
        rw [hca] at hbc
        exact hab (Std.le_antisymm (ha b List.mem_cons_self) hbc)
    rw [adjacentDup, Bool.or_eq_false_iff, ih, beq_eq_false_iff_ne, hhead]
    exact List.nodup_cons.symm

theorem adjacentDup_sortByKey [DecidableEq κ] (key : α → κ) (l : List α) :
    adjacentDup key (sortByKey key l) = false ↔ (l.map key).Nodup := by
  rw [adjacentDup_of_pairwise key (sortByKey_pairwise key l)]
  exact ((sortByKey_perm key l).map key).nodup_iff

/-- With distinct keys the sorted list does not depend on the original order. -/
theorem sortByKey_eq_of_perm (key : α → κ) {l l' : List α} (hp : l.Perm l')
    (hn : (l.map key).Nodup) : sortByKey key l = sortByKey key l' := by
  refine List.Perm.eq_of_pairwise (fun a b ha hb hab hba => ?_) (sortByKey_pairwise key l)
    (sortByKey_pairwise key l') ?_
  · have ha' := (sortByKey_perm key l).mem_iff.mp ha
    have hb' := hp.mem_iff.mpr ((sortByKey_perm key l').mem_iff.mp hb)
    exact List.inj_on_of_nodup_map hn ha' hb' (Std.le_antisymm hab hba)
  · exact (sortByKey_perm key l).trans (hp.trans (sortByKey_perm key l').symm)

/-! ## Sorted sets -/

section

variable [DecidableEq α] {key : α → κ} {l l' : List α}

/-- The distinct elements in the order of a key that determines them. -/
def sortDistinct (key : α → κ) (l : List α) : List α := sortByKey key l.dedup

omit [Std.IsLinearOrder κ] in
@[simp] theorem mem_sortDistinct {a : α} : a ∈ sortDistinct key l ↔ a ∈ l := by
  unfold sortDistinct
  rw [(sortByKey_perm key _).mem_iff, List.mem_dedup]

omit [Std.IsLinearOrder κ] in
theorem sortDistinct_nodup : (sortDistinct key l).Nodup :=
  (sortByKey_perm key _).nodup_iff.mpr (List.nodup_dedup l)

omit [Std.IsLinearOrder κ] in
theorem length_sortDistinct : (sortDistinct key l).length = l.dedup.length := (sortByKey_perm key _).length_eq

/-- The set depends only on what occurs in the list. -/
theorem sortDistinct_congr (hkey : Function.Injective key) (h : ∀ a, a ∈ l ↔ a ∈ l') :
    sortDistinct key l = sortDistinct key l' := by
  refine sortByKey_eq_of_perm key ?_ ((List.nodup_dedup l).map hkey)
  rw [List.perm_ext_iff_of_nodup (List.nodup_dedup l) (List.nodup_dedup l')]
  intro a
  rw [List.mem_dedup, List.mem_dedup, h a]

end

end EverTrace.Lib
