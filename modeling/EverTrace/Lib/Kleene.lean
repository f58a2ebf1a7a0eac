import Mathlib.Data.List.Forall2
/-!
# Strong Kleene connectives

A truth value that may be missing is an `Option Bool`. It has more information
than another when it answers wherever the other does (`Kleene.Le`). A Boolean
function on lists becomes a function on lists of such values by asking all
completions: the answer is given when all of them agree (`Kleene.strong`). This
is the strong Kleene reading. It is monotone in information, and for
conjunction, disjunction and negation it is what the usual tables say.
-/
namespace EverTrace.Lib.Kleene

/-- More information, the same answers. -/
def Le (x y : Option Bool) : Prop := ∀ b, x = some b → y = some b

theorem Le.refl (x : Option Bool) : Le x x := fun _ h => h

theorem none_le (y : Option Bool) : Le none y := fun _ h => by cases h

/-- A completion fills in what is missing. -/
abbrev Completes (xs : List (Option Bool)) (bs : List Bool) : Prop := List.Forall₂ (fun x b => Le x (some b)) xs bs

/-- The answer on which all completions agree. -/
def Strong (f : List Bool → Bool) (xs : List (Option Bool)) (b : Bool) : Prop := ∀ bs, Completes xs bs → f bs = b

theorem exists_completes (xs : List (Option Bool)) : ∃ bs, Completes xs bs := by
  refine ⟨xs.map fun x => x.getD true, ?_⟩
  induction xs with
  | nil => exact .nil
  | cons x xs ih =>
    refine .cons (fun b hb => ?_) ih
    rw [hb]
    rfl

/-- The completions do not agree on two answers. -/
theorem Strong.unique {f : List Bool → Bool} {xs : List (Option Bool)} {a b : Bool} (ha : Strong f xs a)
    (hb : Strong f xs b) : a = b := by
  obtain ⟨bs, hbs⟩ := exists_completes xs
  exact (ha bs hbs).symm.trans (hb bs hbs)

open Classical in
/-- The strong Kleene reading of a Boolean function. -/
noncomputable def strong (f : List Bool → Bool) (xs : List (Option Bool)) : Option Bool :=
  if Strong f xs true then some true else if Strong f xs false then some false else none

theorem strong_eq_some {f : List Bool → Bool} {xs : List (Option Bool)} {b : Bool} :
    strong f xs = some b ↔ Strong f xs b := by
  unfold strong
  by_cases htrue : Strong f xs true
  · rw [if_pos htrue, Option.some_inj]
    exact ⟨fun h => h ▸ htrue, fun h => htrue.unique h⟩
  · rw [if_neg htrue]
    by_cases hfalse : Strong f xs false
    · rw [if_pos hfalse, Option.some_inj]
      exact ⟨fun h => h ▸ hfalse, fun h => hfalse.unique h⟩
    · rw [if_neg hfalse]
      refine ⟨fun h => (by cases h), fun h => ?_⟩
      cases b
      · exact absurd h hfalse
      · exact absurd h htrue

/-- Two readings are the same when they give the same answers. -/
theorem eq_of_some_iff {x y : Option Bool} (h : ∀ b, x = some b ↔ y = some b) : x = y :=
  Option.ext h

/-- What completes the larger completes the smaller. -/
theorem completes_of_le {xs ys : List (Option Bool)} (h : List.Forall₂ Le xs ys) :
    ∀ {bs : List Bool}, Completes ys bs → Completes xs bs := by
  induction h with
  | nil => exact fun hbs => hbs
  | cons hxy _ ih =>
    intro bs hbs
    cases hbs with
    | cons hyb hrest => exact .cons (fun a ha => hyb a (hxy a ha)) (ih hrest)

/-- More information in the arguments is more information in the result. -/
theorem strong_mono (f : List Bool → Bool) {xs ys : List (Option Bool)} (h : List.Forall₂ Le xs ys) :
    Le (strong f xs) (strong f ys) := by
  intro b hb
  rw [strong_eq_some] at hb ⊢
  exact fun bs hbs => hb bs (completes_of_le h hbs)

/-! ## Conjunction -/

theorem completes_cons {x : Option Bool} {xs : List (Option Bool)} {bs : List Bool} :
    Completes (x :: xs) bs ↔ ∃ b rest, bs = b :: rest ∧ Le x (some b) ∧ Completes xs rest := by
  rw [Completes, List.forall₂_cons_left_iff]
  exact ⟨fun ⟨b, rest, hb, hrest, hbs⟩ => ⟨b, rest, hbs, hb, hrest⟩,
    fun ⟨b, rest, hbs, hb, hrest⟩ => ⟨b, rest, hb, hrest, hbs⟩⟩

theorem strong_all_true (xs : List (Option Bool)) :
    Strong (fun bs => bs.all id) xs true ↔ ∀ x ∈ xs, x = some true := by
  induction xs with
  | nil => simp [Strong, Completes]
  | cons x xs ih =>
    rw [List.forall_mem_cons, ← ih]
    constructor
    · intro h
      obtain ⟨rest, hrest⟩ := exists_completes xs
      have hhead : ∀ b, Le x (some b) → b = true := by
        intro b hb
        have := h (b :: rest) (.cons hb hrest)
        simp only [List.all_cons, id, Bool.and_eq_true] at this
        exact this.1
      constructor
      · cases x with
        | none => exact absurd (hhead false (none_le _)) (by decide)
        | some b => rw [hhead b (Le.refl _)]
      · intro rest hrest
        cases x with
        | none => exact absurd (hhead false (none_le _)) (by decide)
        | some b =>
          have := h (b :: rest) (.cons (Le.refl _) hrest)
          simp only [List.all_cons, id, Bool.and_eq_true] at this
          exact this.2
    · rintro ⟨rfl, h⟩ bs hbs
      obtain ⟨b, rest, rfl, hb, hrest⟩ := completes_cons.mp hbs
      have htrue : some b = some true := hb true rfl
      cases htrue
      simpa using h rest hrest

theorem strong_all_false (xs : List (Option Bool)) :
    Strong (fun bs => bs.all id) xs false ↔ some false ∈ xs := by
  induction xs with
  | nil => simp [Strong, Completes]
  | cons x xs ih =>
    rw [List.mem_cons, ← ih]
    constructor
    · intro h
      by_cases hx : some false = x
      · exact .inl hx
      · -- the head can be completed by true
        refine .inr fun rest hrest => ?_
        have htrue : Le x (some true) := by
          intro b hb
          cases b
          · exact absurd hb.symm hx
          · rfl
        have := h (true :: rest) (.cons htrue hrest)
        simpa using this
    · rintro (rfl | h) bs hbs
      · obtain ⟨b, rest, rfl, hb, -⟩ := completes_cons.mp hbs
        have hfalse : some b = some false := hb false rfl
        cases hfalse
        rfl
      · obtain ⟨b, rest, rfl, -, hrest⟩ := completes_cons.mp hbs
        have := h rest hrest
        simp only [List.all_cons, id, this, Bool.and_false]

/-! ## Negation and disjunction -/

/-- Negation has one argument. -/
noncomputable def strongNot (x : Option Bool) : Option Bool := strong (fun bs => bs.all not) [x]

theorem strongNot_eq (x : Option Bool) : strongNot x = x.map not := by
  refine eq_of_some_iff fun b => ?_
  rw [strongNot, strong_eq_some]
  have hsingle : ∀ a, Completes [x] [a] ↔ Le x (some a) := fun a => by simp [Completes]
  constructor
  · intro h
    have hall : ∀ a, Le x (some a) → (!a) = b := by
      intro a ha
      simpa using h [a] ((hsingle a).mpr ha)
    cases x with
    | none =>
      have h₁ := hall true (none_le _)
      have h₂ := hall false (none_le _)
      rw [← h₁] at h₂
      cases h₂
    | some a => rw [Option.map_some, hall a (Le.refl _)]
  · intro h bs hbs
    obtain ⟨a, rest, rfl, ha, hrest⟩ := completes_cons.mp hbs
    cases hrest
    cases x with
    | none => cases h
    | some c =>
      have hc : some a = some c := ha c rfl
      cases hc
      simpa using h

theorem completes_not {xs : List (Option Bool)} {bs : List Bool} :
    Completes (xs.map (Option.map not)) bs ↔ Completes xs (bs.map not) := by
  have hle : ∀ (x : Option Bool) b, Le (x.map not) (some b) ↔ Le x (some !b) := by
    intro x b
    cases x with
    | none => exact ⟨fun _ => none_le _, fun _ => none_le _⟩
    | some a => cases a <;> cases b <;> simp [Le]
  induction xs generalizing bs with
  | nil => simp [Completes]
  | cons x xs ih =>
    cases bs with
    | nil => simp [Completes]
    | cons b bs => simp only [Completes, List.map_cons, List.forall₂_cons, hle, ih]

theorem all_map_not (bs : List Bool) : (bs.map not).all id = !bs.any id := by
  induction bs with
  | nil => rfl
  | cons b bs ih => cases b <;> simp_all

/-- Disjunction by complements. -/
theorem strong_any_iff (xs : List (Option Bool)) (b : Bool) :
    Strong (fun bs => bs.any id) xs b ↔ Strong (fun bs => bs.all id) (xs.map (Option.map not)) !b := by
  constructor
  · intro h bs hbs
    have := h (bs.map not) (completes_not.mp hbs)
    have hall := all_map_not (bs.map not)
    rw [List.map_map, show (not ∘ not) = id from funext fun b => by simp, List.map_id] at hall
    dsimp only at this ⊢
    rw [hall, this]
  · intro h bs hbs
    have hmap : (bs.map not).map not = bs := by
      rw [List.map_map, show (not ∘ not) = id from funext fun b => by simp, List.map_id]
    have := h (bs.map not) (completes_not.mpr (by rw [hmap]; exact hbs))
    dsimp only at this ⊢
    rw [all_map_not] at this
    simpa using this

theorem strong_any_true (xs : List (Option Bool)) :
    Strong (fun bs => bs.any id) xs true ↔ some true ∈ xs := by
  rw [strong_any_iff, Bool.not_true, strong_all_false, List.mem_map]
  constructor
  · rintro ⟨x, hx, hnot⟩
    cases x with
    | none => cases hnot
    | some a => cases a <;> simp_all
  · exact fun h => ⟨_, h, rfl⟩

theorem strong_any_false (xs : List (Option Bool)) :
    Strong (fun bs => bs.any id) xs false ↔ ∀ x ∈ xs, x = some false := by
  rw [strong_any_iff, Bool.not_false, strong_all_true, List.forall_mem_map]
  refine forall₂_congr fun x _ => ?_
  cases x with
  | none => simp
  | some a => cases a <;> simp

/-! ## No information -/

/-- A conjunction of unknowns is unknown. -/
theorem strong_all_none {xs : List (Option Bool)} (hne : xs ≠ []) (hnone : ∀ x ∈ xs, x = none) :
    strong (fun bs => bs.all id) xs = none := by
  obtain ⟨x, hx⟩ := List.exists_mem_of_ne_nil xs hne
  rw [Option.eq_none_iff_forall_ne_some]
  intro b hb
  rw [strong_eq_some] at hb
  cases b with
  | true =>
    have := (strong_all_true xs).mp hb x hx
    rw [hnone x hx] at this
    cases this
  | false =>
    have := hnone _ ((strong_all_false xs).mp hb)
    cases this

/-- A disjunction of unknowns is unknown. -/
theorem strong_any_none {xs : List (Option Bool)} (hne : xs ≠ []) (hnone : ∀ x ∈ xs, x = none) :
    strong (fun bs => bs.any id) xs = none := by
  obtain ⟨x, hx⟩ := List.exists_mem_of_ne_nil xs hne
  rw [Option.eq_none_iff_forall_ne_some]
  intro b hb
  rw [strong_eq_some] at hb
  cases b with
  | true =>
    have := hnone _ ((strong_any_true xs).mp hb)
    cases this
  | false =>
    have := (strong_any_false xs).mp hb x hx
    rw [hnone x hx] at this
    cases this

/-! ## Two values at a time -/

def both : Option Bool → Option Bool → Option Bool
  | some true, some true => some true
  | some false, _ | _, some false => some false
  | _, _ => none

def either : Option Bool → Option Bool → Option Bool
  | some false, some false => some false
  | some true, _ | _, some true => some true
  | _, _ => none

@[simp] theorem both_eq_true {x y : Option Bool} : both x y = some true ↔ x = some true ∧ y = some true := by
  rcases x with _ | _ | _ <;> rcases y with _ | _ | _ <;> decide

@[simp] theorem either_eq_true {x y : Option Bool} : either x y = some true ↔ x = some true ∨ y = some true := by
  rcases x with _ | _ | _ <;> rcases y with _ | _ | _ <;> decide

end EverTrace.Lib.Kleene
