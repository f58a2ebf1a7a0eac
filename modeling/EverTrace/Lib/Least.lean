import EverTrace.Lib.KeySort
import Mathlib.Data.List.Induction
import Mathlib.Order.Defs.LinearOrder
/-!
# The least element that passes a test

Sorting by a rank and taking the first element that passes a test finds the
least one that does. Where the ranks are distinct it is determined by this
(`find?_sortByKey_eq_some`), so it does not depend on the order of the list.

`latest` keeps the first of the elements with the greatest stamp, as a loop that
replaces what it holds by whatever is newer.
-/
namespace EverTrace.Lib

variable {α β κ : Type}

/-- `a` is in the list, passes the test and ranks before everything else that does. -/
structure LeastOf [LE κ] (rank : α → κ) (l : List α) (p : α → Bool) (a : α) : Prop where
  mem : a ∈ l
  holds : p a = true
  le : ∀ b ∈ l, p b = true → rank a ≤ rank b

theorem LeastOf.congr {κ' : Type} [LE κ] [LE κ'] {rank : α → κ} {rank' : α → κ'} {l : List α} {p : α → Bool} {a : α}
    (h : ∀ b, p a = true → p b = true → (rank a ≤ rank b ↔ rank' a ≤ rank' b)) :
    LeastOf rank l p a ↔ LeastOf rank' l p a := by
  constructor
  · intro ha
    exact ⟨ha.mem, ha.holds, fun b hb hp => (h b ha.holds hp).mp (ha.le b hb hp)⟩
  · intro ha
    exact ⟨ha.mem, ha.holds, fun b hb hp => (h b ha.holds hp).mpr (ha.le b hb hp)⟩

/-- The least of a mapped list is the image of the least one. -/
theorem leastOf_map [LE κ] {rank : β → κ} {f : α → β} {l : List α} {p : β → Bool} {b : β} :
    LeastOf rank (l.map f) p b ↔ ∃ a, f a = b ∧ LeastOf (fun a => rank (f a)) l (fun a => p (f a)) a := by
  constructor
  · intro hb
    obtain ⟨a, ha, rfl⟩ := List.mem_map.mp hb.mem
    exact ⟨a, rfl, ha, hb.holds, fun c hc hp => hb.le (f c) (List.mem_map_of_mem hc) hp⟩
  · rintro ⟨a, rfl, ha⟩
    refine ⟨List.mem_map_of_mem ha.mem, ha.holds, fun c hc hp => ?_⟩
    obtain ⟨d, hd, rfl⟩ := List.mem_map.mp hc
    exact ha.le d hd hp

variable [LinearOrder κ] {rank : α → κ} {l : List α} {p : α → Bool} {a b : α}

theorem LeastOf.unique (hn : (l.map rank).Nodup) (ha : LeastOf rank l p a) (hb : LeastOf rank l p b) : a = b :=
  List.inj_on_of_nodup_map hn ha.mem hb.mem (le_antisymm (ha.le b hb.mem hb.holds) (hb.le a ha.mem ha.holds))

theorem leastOf_of_find?_sortByKey (h : (sortByKey rank l).find? p = some a) : LeastOf rank l p a := by
  obtain ⟨hp, as, bs, heq, has⟩ := List.find?_eq_some_iff_append.mp h
  have hsorted := sortByKey_pairwise rank l
  rw [heq] at hsorted
  have hmem : a ∈ sortByKey rank l := List.mem_of_find?_eq_some h
  refine ⟨(sortByKey_perm rank l).mem_iff.mp hmem, hp, fun b hb hpb => ?_⟩
  have hb' := (sortByKey_perm rank l).mem_iff.mpr hb
  rw [heq, List.mem_append, List.mem_cons] at hb'
  rcases hb' with hb' | rfl | hb'
  · -- everything before `a` fails the test
    have hfails := has b hb'
    rw [hpb] at hfails
    cases hfails
  · exact le_rfl
  · exact (List.pairwise_cons.mp (List.pairwise_append.mp hsorted).2.1).1 b hb'

theorem find?_sortByKey_eq_none : (sortByKey rank l).find? p = none ↔ ∀ b ∈ l, p b = false := by
  rw [List.find?_eq_none]
  constructor
  · intro h b hb
    exact Bool.eq_false_iff.mpr (h b ((sortByKey_perm rank l).mem_iff.mpr hb))
  · intro h b hb
    exact Bool.eq_false_iff.mp (h b ((sortByKey_perm rank l).mem_iff.mp hb))

theorem find?_sortByKey_eq_some (hn : (l.map rank).Nodup) :
    (sortByKey rank l).find? p = some a ↔ LeastOf rank l p a := by
  constructor
  · exact leastOf_of_find?_sortByKey
  · intro ha
    cases hfind : (sortByKey rank l).find? p with
    | none =>
      have hfails := find?_sortByKey_eq_none.mp hfind a ha.mem
      rw [ha.holds] at hfails
      cases hfails
    | some b => rw [(leastOf_of_find?_sortByKey hfind).unique hn ha]

/-- Only one element passes, so it is found. -/
theorem find?_sortByKey_of_only (ha : a ∈ l) (hp : p a = true) (honly : ∀ b ∈ l, p b = true → b = a) :
    (sortByKey rank l).find? p = some a := by
  cases hfind : (sortByKey rank l).find? p with
  | none =>
    have hfails := find?_sortByKey_eq_none.mp hfind a ha
    rw [hp] at hfails
    cases hfails
  | some b =>
    have hleast := leastOf_of_find?_sortByKey hfind
    rw [honly b hleast.mem hleast.holds]

/-- Some element passes, so there is a least one. -/
theorem exists_leastOf (hb : b ∈ l) (hp : p b = true) : ∃ a, LeastOf rank l p a := by
  cases hfind : (sortByKey rank l).find? p with
  | none =>
    have hfails := find?_sortByKey_eq_none.mp hfind b hb
    rw [hp] at hfails
    cases hfails
  | some a => exact ⟨a, leastOf_of_find?_sortByKey hfind⟩

/-- Taking out the first element that passes one test does not move the first that passes another. -/
theorem find?_eraseP {q : α → Bool} (h : ∀ a ∈ l, p a = true → q a = false) : (l.eraseP p).find? q = l.find? q := by
  induction l with
  | nil => rfl
  | cons a l ih =>
    by_cases hp : p a = true
    · rw [List.eraseP_cons_of_pos hp, List.find?_cons_of_neg (by rw [h a List.mem_cons_self hp]; decide)]
    · rw [List.eraseP_cons_of_neg hp, List.find?_cons, List.find?_cons, ih fun b hb => h b (List.mem_cons_of_mem a hb)]

/-! ## The latest element -/

section Latest
variable {κ : Type} [LT κ] [DecidableLT κ]

/-- What is held after an element was seen: the element if it is newer, or the first. -/
def newer (stamp : α → κ) (held : Option α) (a : α) : Option α :=
  if held.all fun b => decide (stamp b < stamp a) then some a else held

/-- The first of the elements with the greatest stamp. -/
def latest (stamp : α → κ) (l : List α) : Option α := l.foldl (newer stamp) none

theorem latest_append_singleton (stamp : α → κ) (l : List α) (a : α) :
    latest stamp (l ++ [a]) = newer stamp (latest stamp l) a := by
  unfold latest
  rw [List.foldl_append]
  rfl

theorem mem_of_latest {stamp : α → κ} {l : List α} {a : α} (h : latest stamp l = some a) : a ∈ l := by
  induction l using List.reverseRecOn with
  | nil => cases h
  | append_singleton l b ih =>
    rw [latest_append_singleton] at h
    unfold newer at h
    split at h
    · cases h
      exact List.mem_append_right l (List.mem_singleton_self _)
    · exact List.mem_append_left _ (ih h)

end Latest

end EverTrace.Lib
