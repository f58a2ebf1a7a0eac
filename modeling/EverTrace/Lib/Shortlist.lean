import EverTrace.Lib.KeySort
import Mathlib.Data.List.Destutter
import Mathlib.Order.Defs.LinearOrder
/-!
# Shortlists

How a ranked list becomes a shortlist. `fresh key seen l` keeps the first
element of every key. In a list sorted by a rank these are the least elements of
their keys (`mem_fresh`), and where equal keys stand together it is what
removing adjacent repetitions leaves (`destutter_eq_fresh`).

`LongestPrefix fits l kept left` cuts a list where it stops to fit. Where fewer
elements fit whenever more do, an element of a strictly sorted list is kept
exactly if what ranks up to it fits (`LongestPrefix.mem_iff`).
-/
namespace EverTrace.Lib

variable {α κ ρ : Type}

/-! ## The first of every key -/

section Fresh
variable [DecidableEq κ] {key : α → κ}

/-- The first element of every key that was not seen before. -/
def fresh (key : α → κ) : (κ → Bool) → List α → List α
  | _, [] => []
  | seen, a :: l => if seen (key a) then fresh key seen l else a :: fresh key (fun k => decide (k = key a) || seen k) l

theorem fresh_nil (seen : κ → Bool) : fresh key seen [] = [] := rfl

theorem fresh_cons (seen : κ → Bool) (a : α) (l : List α) : fresh key seen (a :: l) =
    if seen (key a) then fresh key seen l else a :: fresh key (fun k => decide (k = key a) || seen k) l := rfl

theorem fresh_congr {l : List α} {seen seen' : κ → Bool} (h : ∀ a ∈ l, seen (key a) = seen' (key a)) :
    fresh key seen l = fresh key seen' l := by
  induction l generalizing seen seen' with
  | nil => rfl
  | cons a l ih =>
    have htail := fun b hb => h b (List.mem_cons_of_mem a hb)
    have hnext : fresh key (fun k => decide (k = key a) || seen k) l = fresh key (fun k => decide (k = key a) || seen' k) l := by
      refine ih fun b hb => ?_
      rw [htail b hb]
    rw [fresh_cons, fresh_cons, h a List.mem_cons_self, ih htail, hnext]

theorem fresh_sublist (seen : κ → Bool) (l : List α) : (fresh key seen l).Sublist l := by
  induction l generalizing seen with
  | nil => exact .slnil
  | cons a l ih =>
    rw [fresh_cons]
    split
    · exact (ih seen).cons a
    · exact (ih _).cons_cons a

/-- The keys of the list that were not seen, each once. -/
theorem mem_map_fresh {seen : κ → Bool} {l : List α} {k : κ} :
    k ∈ (fresh key seen l).map key ↔ seen k = false ∧ k ∈ l.map key := by
  induction l generalizing seen with
  | nil => simp [fresh_nil]
  | cons a l ih =>
    rw [fresh_cons]
    by_cases hseen : seen (key a) = true
    · rw [if_pos hseen, ih, List.map_cons, List.mem_cons]
      constructor
      · intro h
        exact ⟨h.1, .inr h.2⟩
      · intro h
        refine ⟨h.1, h.2.resolve_left fun hk => ?_⟩
        rw [hk, hseen] at h
        cases h.1
    · rw [if_neg hseen, List.map_cons, List.map_cons, List.mem_cons, List.mem_cons, ih]
      by_cases hk : k = key a
      · simp [hk, hseen]
      · simp [hk]

theorem nodup_map_fresh (seen : κ → Bool) (l : List α) : ((fresh key seen l).map key).Nodup := by
  induction l generalizing seen with
  | nil => exact List.nodup_nil
  | cons a l ih =>
    rw [fresh_cons]
    split
    · exact ih seen
    · rw [List.map_cons, List.nodup_cons]
      refine ⟨fun hmem => ?_, ih _⟩
      simpa using (mem_map_fresh.mp hmem).1

/-- **In a sorted list the first element of a key is the least one of its key.** -/
theorem mem_fresh [PartialOrder ρ] {rank : α → ρ} (hrank : Function.Injective rank) {seen : κ → Bool} {l : List α}
    (sorted : l.Pairwise fun a b => rank a ≤ rank b) {a : α} : a ∈ fresh key seen l ↔
      a ∈ l ∧ seen (key a) = false ∧ ∀ b ∈ l, key b = key a → rank a ≤ rank b := by
  induction l generalizing seen with
  | nil => simp [fresh_nil]
  | cons x l ih =>
    obtain ⟨hx, htail⟩ := List.pairwise_cons.mp sorted
    rw [fresh_cons]
    by_cases hseen : seen (key x) = true
    · rw [if_pos hseen, ih htail]
      constructor
      · intro ⟨hmem, hnew, hleast⟩
        refine ⟨List.mem_cons_of_mem x hmem, hnew, fun b hb hkey => ?_⟩
        rcases List.mem_cons.mp hb with hbx | hb
        · rw [← hkey, hbx, hseen] at hnew
          cases hnew
        · exact hleast b hb hkey
      · intro ⟨hmem, hnew, hleast⟩
        refine ⟨?_, hnew, fun b hb => hleast b (List.mem_cons_of_mem x hb)⟩
        rcases List.mem_cons.mp hmem with hax | hmem
        · rw [hax, hseen] at hnew
          cases hnew
        · exact hmem
    · rw [if_neg hseen, List.mem_cons, ih htail, Bool.or_eq_false_iff, decide_eq_false_iff_not]
      constructor
      · intro h
        rcases h with hax | ⟨hmem, ⟨hne, hnew⟩, hleast⟩
        · subst hax
          refine ⟨List.mem_cons_self, by simpa using hseen, fun b hb _ => ?_⟩
          rcases List.mem_cons.mp hb with hbx | hb
          · rw [hbx]
          · exact hx b hb
        · refine ⟨List.mem_cons_of_mem x hmem, hnew, fun b hb hkey => ?_⟩
          rcases List.mem_cons.mp hb with hbx | hb
          · exact absurd (hbx ▸ hkey).symm hne
          · exact hleast b hb hkey
      · intro ⟨hmem, hnew, hleast⟩
        rcases List.mem_cons.mp hmem with hax | hmem
        · exact .inl hax
        · by_cases hkey : key a = key x
          · -- `x` comes first and `a` is the least of their key
            exact .inl (hrank (le_antisymm (hleast x List.mem_cons_self hkey.symm) (hx a hmem)))
          · exact .inr ⟨hmem, ⟨hkey, hnew⟩, fun b hb => hleast b (List.mem_cons_of_mem x hb)⟩

/-- Where the keys ascend, equal keys stand together. -/
theorem destutter_eq_fresh [PartialOrder κ] {l : List α} (sorted : l.Pairwise fun a b => key a ≤ key b) :
    l.destutter (fun a b => key a ≠ key b) = fresh key (fun _ => false) l := by
  have hstep : ∀ (l : List α) (a : α), (a :: l).Pairwise (fun a b => key a ≤ key b) →
      l.destutter' (fun a b => key a ≠ key b) a = a :: fresh key (fun k => decide (k = key a)) l := by
    intro l
    induction l with
    | nil =>
      intro a _
      rfl
    | cons b l ih =>
      intro a h
      obtain ⟨ha, hl⟩ := List.pairwise_cons.mp h
      rw [fresh_cons]
      by_cases hab : key a = key b
      · rw [List.destutter'_cons_neg _ (not_not.mpr hab), if_pos (by simp [hab])]
        refine ih a (List.pairwise_cons.mpr ⟨fun c hc => ha c (List.mem_cons_of_mem b hc), ?_⟩)
        exact (List.pairwise_cons.mp hl).2
      · rw [List.destutter'_cons_pos _ hab, ih b hl, if_neg (by simpa using Ne.symm hab)]
        -- what follows `b` lies above `a`
        have hlater : ∀ c ∈ l, key c ≠ key a := by
          intro c hc hca
          have hbc := (List.pairwise_cons.mp hl).1 c hc
          rw [hca] at hbc
          exact hab (le_antisymm (ha b List.mem_cons_self) hbc)
        rw [fresh_congr fun c hc => ?_]
        simp [hlater c hc]
  cases l with
  | nil => rfl
  | cons a l =>
    rw [List.destutter_cons', hstep l a sorted, fresh_cons, if_neg Bool.false_ne_true]
    exact congrArg (a :: ·) (fresh_congr fun c _ => by simp)

end Fresh

/-! ## The longest prefix that fits -/

section Prefix
variable {fits fits' : List α → Prop} {l kept left : List α} {a : α}

/-- `kept` is the part of `l` before the first element with which it no longer fits. -/
structure LongestPrefix (fits : List α → Prop) (l kept left : List α) : Prop where
  append : kept ++ left = l
  kept_fits : fits kept
  stops : ∀ a rest, left = a :: rest → ¬ fits (kept ++ [a])

theorem LongestPrefix.nil (h : fits []) : LongestPrefix fits [] [] [] := ⟨rfl, h, fun _ _ h => by cases h⟩

theorem LongestPrefix.stop (h : fits []) (ha : ¬ fits [a]) : LongestPrefix fits (a :: l) [] (a :: l) := by
  refine ⟨rfl, h, fun b rest hb => ?_⟩
  obtain ⟨rfl, -⟩ := List.cons.inj hb
  exact ha

theorem LongestPrefix.cons (h : LongestPrefix fits' l kept left) (hstep : ∀ l, fits (a :: l) ↔ fits' l) :
    LongestPrefix fits (a :: l) (a :: kept) left := by
  refine ⟨congrArg (a :: ·) h.append, (hstep kept).mpr h.kept_fits, fun b rest hb hfits => ?_⟩
  exact h.stops b rest hb ((hstep _).mp hfits)

theorem LongestPrefix.left_eq_nil (h : LongestPrefix fits l kept left)
    (hsub : ∀ {l l'}, l.Sublist l' → fits l' → fits l) : left = [] ↔ fits l := by
  have happ := h.append
  subst happ
  constructor
  · intro hnil
    rw [hnil, List.append_nil]
    exact h.kept_fits
  · intro hfits
    cases left with
    | nil => rfl
    | cons a rest =>
      refine absurd (hsub ?_ hfits) (h.stops a rest rfl)
      exact (List.Sublist.refl kept).append ((List.nil_sublist rest).cons_cons a)

/-- A second cut, at a length. -/
theorem LongestPrefix.take (h : LongestPrefix fits l kept left) (hsub : ∀ {l l'}, l.Sublist l' → fits l' → fits l)
    (n : Nat) : LongestPrefix (fun l => fits l ∧ l.length ≤ n) l (kept.take n) (kept.drop n ++ left) := by
  refine ⟨by rw [← List.append_assoc, List.take_append_drop, h.append],
    ⟨hsub (List.take_sublist n kept) h.kept_fits, List.length_take_le n kept⟩, fun a rest hrest hfits => ?_⟩
  rw [List.length_append, List.length_take, List.length_singleton] at hfits
  have hshort : kept.length ≤ n := by omega
  rw [List.drop_eq_nil_of_le hshort] at hrest
  rw [List.take_of_length_le hshort] at hfits
  exact h.stops a rest hrest hfits.1

/-- **An element of a strictly sorted list is kept exactly if what ranks up to it fits.** -/
theorem LongestPrefix.mem_iff [LinearOrder ρ] {rank : α → ρ} (h : LongestPrefix fits l kept left)
    (hsub : ∀ {l l'}, l.Sublist l' → fits l' → fits l) (sorted : l.Pairwise fun a b => rank a < rank b)
    (ha : a ∈ l) : a ∈ kept ↔ fits (l.filter fun b => rank b ≤ rank a) := by
  have happ := h.append
  subst happ
  obtain ⟨hkept, hleft, hacross⟩ := List.pairwise_append.mp sorted
  rw [List.filter_append]
  constructor
  · intro hmem
    have hnone : left.filter (fun b => rank b ≤ rank a) = [] := by
      rw [List.filter_eq_nil_iff]
      intro b hb hle
      exact absurd (hacross a hmem b hb) (not_lt.mpr (of_decide_eq_true hle))
    rw [hnone, List.append_nil]
    exact hsub List.filter_sublist h.kept_fits
  · intro hfits
    refine (List.mem_append.mp ha).resolve_right fun hmem => ?_
    -- all of `kept` and the first of `left` rank up to `a`
    cases left with
    | nil => cases hmem
    | cons x rest =>
      refine h.stops x rest rfl (hsub ?_ hfits)
      have hall : kept.filter (fun b => rank b ≤ rank a) = kept := by
        rw [List.filter_eq_self]
        intro b hb
        exact decide_eq_true (hacross b hb a hmem).le
      have hx : rank x ≤ rank a := by
        rcases List.mem_cons.mp hmem with rfl | hmem
        · exact le_refl _
        · exact ((List.pairwise_cons.mp hleft).1 a hmem).le
      have hfirst : (x :: rest).filter (fun b => rank b ≤ rank a) = x :: rest.filter fun b => rank b ≤ rank a :=
        List.filter_cons_of_pos (decide_eq_true hx)
      rw [hall, hfirst]
      exact (List.Sublist.refl kept).append ((List.nil_sublist _).cons_cons x)

end Prefix

end EverTrace.Lib
