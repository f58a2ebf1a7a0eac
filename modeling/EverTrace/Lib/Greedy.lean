import Mathlib.Data.List.Induction
import Mathlib.Data.List.Pairwise
import Mathlib.Tactic.Common
/-!
# Greedy selection

`select clash l` goes through `l` once and keeps an element when it clashes
with nothing kept so far. On a list sorted by a rank `le` the kept elements
are a *kernel*: no two of them clash, and every other element clashes with a
kept one that ranks no later.

Kernels are unique up to ties (`Kernel.unique`): if elements that tie in
rank clash with the same elements, then whatever a kernel contains is tied
with something the greedy selection keeps.
-/
namespace EverTrace.Lib

variable {α : Type}

/-- Keep an element when it clashes with nothing kept so far. -/
def select (clash : α → α → Bool) (l : List α) : List α :=
  l.foldl (fun kept a => if kept.all (fun k => !clash a k) then kept ++ [a] else kept) []

/-- A set of elements of `l`, as a list: independent, and dominating by rank. -/
structure Kernel (le clash : α → α → Bool) (l K : List α) : Prop where
  subset : ∀ k ∈ K, k ∈ l
  independent : ∀ a ∈ K, ∀ b ∈ K, clash a b = true → a = b
  dominating : ∀ a ∈ l, a ∉ K → ∃ k ∈ K, clash a k = true ∧ le k a = true

section Select
variable {le clash : α → α → Bool} (symm : ∀ a b, clash a b = clash b a)

theorem select_concat (l : List α) (a : α) : select clash (l ++ [a]) =
    if (select clash l).all (fun k => !clash a k) then select clash l ++ [a] else select clash l := by
  simp [select, List.foldl_append]

include symm in
theorem select_independent (l : List α) : (∀ k ∈ select clash l, k ∈ l) ∧
    (select clash l).Pairwise (fun a b => clash a b = false) := by
  induction l using List.reverseRecOn with
  | nil => exact ⟨by simp [select], List.Pairwise.nil⟩
  | append_singleton l a ih =>
    obtain ⟨hmem, hpair⟩ := ih
    rw [select_concat]
    split
    · next hfree =>
      simp only [List.all_eq_true, Bool.not_eq_true'] at hfree
      refine ⟨fun k hk => ?_, List.pairwise_append.mpr ⟨hpair, List.pairwise_singleton _ _, ?_⟩⟩
      · rcases List.mem_append.mp hk with hk | hk
        · exact List.mem_append_left _ (hmem k hk)
        · exact List.mem_append_right _ hk
      · intro k hk b hb
        rw [List.mem_singleton.mp hb, symm]
        exact hfree k hk
    · exact ⟨fun k hk => List.mem_append_left _ (hmem k hk), hpair⟩

include symm in
theorem select_dominating {l : List α} (sorted : l.Pairwise (fun a b => le a b = true)) :
    ∀ a ∈ l, a ∉ select clash l → ∃ k ∈ select clash l, clash a k = true ∧ le k a = true := by
  induction l using List.reverseRecOn with
  | nil => intro a ha; cases ha
  | append_singleton l x ih =>
    obtain ⟨hl, -, hx⟩ := List.pairwise_append.mp sorted
    intro a ha hnot
    rw [select_concat] at hnot ⊢
    split at hnot
    · next hfree =>
      rw [if_pos hfree]
      obtain ⟨hnot, hne⟩ := not_or.mp fun h => hnot (List.mem_append.mpr h)
      rcases List.mem_append.mp ha with ha | ha
      · obtain ⟨k, hk, hclash, hle⟩ := ih hl a ha hnot
        exact ⟨k, List.mem_append_left _ hk, hclash, hle⟩
      · exact absurd ha hne
    · next hbusy =>
      rw [if_neg hbusy]
      rcases List.mem_append.mp ha with ha | ha
      · exact ih hl a ha hnot
      · obtain rfl := List.mem_singleton.mp ha
        simp only [List.all_eq_true, Bool.not_eq_true', not_forall, Bool.not_eq_false] at hbusy
        obtain ⟨k, hk, hclash⟩ := hbusy
        have hkl := (select_independent symm l).1 k hk
        exact ⟨k, hk, hclash, hx k hkl a (List.mem_singleton_self a)⟩

include symm in
/-- The greedy selection from a sorted list is a kernel. -/
theorem select_kernel {l : List α} (sorted : l.Pairwise (fun a b => le a b = true)) :
    Kernel le clash l (select clash l) := by
  obtain ⟨hmem, hpair⟩ := select_independent symm l
  refine ⟨hmem, fun a ha b hb hclash => ?_, select_dominating symm sorted⟩
  by_contra hne
  have : Std.Symm (fun a b => clash a b = false) := ⟨fun a b h => by rw [symm]; exact h⟩
  have hfalse := hpair.forall ha hb hne
  rw [hclash] at hfalse
  cases hfalse

variable (refl : ∀ a, le a a = true)
  (trans : ∀ a b c, le a b = true → le b c = true → le a c = true)

include trans in
/-- Fewer elements rank strictly before an earlier element. -/
theorem countP_before_lt {l : List α} {a b : α} (ha : a ∈ l) (hab : le a b = true)
    (hba : le b a = false) :
    l.countP (fun x => le x a && !le a x) < l.countP (fun x => le x b && !le b x) := by
  have hmono : ∀ x, (le x a && !le a x) = true → (le x b && !le b x) = true := by
    intro x hx
    simp only [Bool.and_eq_true, Bool.not_eq_true'] at hx ⊢
    refine ⟨trans x a b hx.1 hab, ?_⟩
    by_contra hbx
    rw [Bool.not_eq_false] at hbx
    have hax := trans a b x hab hbx
    rw [hx.2] at hax
    cases hax
  obtain ⟨l₁, l₂, rfl⟩ := List.append_of_mem ha
  have h₁ := List.countP_mono_left (l := l₁) fun x _ => hmono x
  have h₂ := List.countP_mono_left (l := l₂) fun x _ => hmono x
  rw [List.countP_append, List.countP_append, List.countP_cons_of_neg (by simp),
    List.countP_cons_of_pos (by rw [hab, hba]; rfl)]
  omega

include symm refl trans in
/-- **Kernels are unique up to ties**: every member of a kernel ties with a member of any other. -/
theorem Kernel.unique {l S K : List α}
    (tie : ∀ a ∈ l, ∀ b ∈ l, ∀ c, le a b = true → le b a = true → clash a c = clash b c) (hS : Kernel le clash l S) (hK : Kernel le clash l K) :
    ∀ k ∈ K, ∃ s ∈ S, le s k = true ∧ le k s = true := by
  suffices h : ∀ n, ∀ k ∈ K, l.countP (fun x => le x k && !le k x) = n →
      ∃ s ∈ S, le s k = true ∧ le k s = true from fun k hk => h _ k hk rfl
  intro n
  -- induction on how many elements rank strictly before `k`
  induction n using Nat.strongRecOn with
  | _ n ih =>
    intro k hk hn
    by_contra hno
    have hks : ∀ s ∈ S, le s k = true → le k s = false := fun s hs hsk =>
      Bool.not_eq_true _ ▸ fun h => hno ⟨s, hs, hsk, h⟩
    have hkS : k ∉ S := fun h => hno ⟨k, h, refl k, refl k⟩
    obtain ⟨s, hs, hclash, hsk⟩ := hS.dominating k (hK.subset k hk) hkS
    -- nothing in `K` ties with `s`: it would clash with `k`
    have hsK : ∀ k' ∈ K, le k' s = true → le s k' = false := by
      intro k' hk' hle
      by_contra htie
      rw [Bool.not_eq_false] at htie
      have hkk : clash k' k = true := by rw [tie k' (hK.subset k' hk') s (hS.subset s hs) k hle htie, symm]; exact hclash
      obtain rfl := hK.independent k' hk' k hk hkk
      rw [hks s hs hsk] at hle
      cases hle
    have hnotK : s ∉ K := fun h => by simpa [refl s] using hsK s h (refl s)
    obtain ⟨k', hk', hclash', hle'⟩ := hK.dominating s (hS.subset s hs) hnotK
    have hlt : le k k' = false := by
      by_contra h
      rw [Bool.not_eq_false] at h
      have := trans k k' s h hle'
      rw [hks s hs hsk] at this
      cases this
    obtain ⟨s', hs', hs'k', hk's'⟩ := ih _
      (hn ▸ countP_before_lt trans (hK.subset k' hk') (trans k' s k hle' hsk) hlt) k' hk' rfl
    -- `s'` ties with `k'`, so it clashes with `s`, and both are selected
    have hss : clash s' s = true := by
      rw [tie s' (hS.subset s' hs') k' (hK.subset k' hk') s hs'k' hk's', symm]
      exact hclash'
    obtain rfl := hS.independent s' hs' s hs hss
    rw [hsK k' hk' hle'] at hs'k'
    cases hs'k'

end Select

end EverTrace.Lib
