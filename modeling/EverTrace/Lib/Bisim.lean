import Mathlib.Data.List.Basic
/-!
# Machines that answer alike

A machine takes one input after another; each input is answered and leads to a
next state. Two states are alike when a bisimulation relates them: related
states answer every admitted input alike and stay related. Then they give the
same answers to every list of inputs.

`Matches related x y` compares two computations that may fail: both fail with
the same error, or both succeed with related values. There is one rule for each
way such a computation is built.
-/
namespace EverTrace.Lib

variable {σ ι ο : Type}

/-- The answers to a list of inputs, in order. -/
def answers (step : σ → ι → ο × σ) : σ → List ι → List ο
  | _, [] => []
  | s, i :: rest => (step s i).1 :: answers step (step s i).2 rest

/-- Related states answer an admitted input alike and stay related. -/
def Bisimulation (step : σ → ι → ο × σ) (admits : ι → Prop) (related : σ → σ → Prop) : Prop :=
  ∀ s t i, related s t → admits i → (step s i).1 = (step t i).1 ∧ related (step s i).2 (step t i).2

theorem Bisimulation.answers_eq {step : σ → ι → ο × σ} {admits : ι → Prop} {related : σ → σ → Prop}
    (h : Bisimulation step admits related) : ∀ (inputs : List ι) (s t : σ), related s t →
      (∀ i ∈ inputs, admits i) → answers step s inputs = answers step t inputs := by
  intro inputs
  induction inputs with
  | nil => intro s t _ _; rfl
  | cons i rest ih =>
    intro s t hst hadmits
    obtain ⟨hanswer, hnext⟩ := h s t i hst (hadmits i List.mem_cons_self)
    unfold answers
    rw [hanswer, ih _ _ hnext fun j hj => hadmits j (List.mem_cons_of_mem _ hj)]

/-! ## Computations that match -/

variable {ε α α' β β' : Type}

def Matches (related : α → α' → Prop) : Except ε α → Except ε α' → Prop
  | .ok a, .ok a' => related a a'
  | .error e, .error e' => e = e'
  | _, _ => False

namespace Matches

theorem bind {related : α → α' → Prop} {then_ : β → β' → Prop} {x : Except ε α} {x' : Except ε α'}
    {f : α → Except ε β} {f' : α' → Except ε β'} (hx : Matches related x x')
    (hf : ∀ a a', related a a' → Matches then_ (f a) (f' a')) : Matches then_ (x >>= f) (x' >>= f') := by
  cases x <;> cases x' <;> first | exact hx | exact hx.elim | exact hf _ _ hx

/-- Both begin with the same computation. -/
theorem bind_same {then_ : β → β' → Prop} (x : Except ε α) {f : α → Except ε β} {f' : α → Except ε β'}
    (hf : ∀ a, x = .ok a → Matches then_ (f a) (f' a)) : Matches then_ (x >>= f) (x >>= f') := by
  cases x with
  | error e => rfl
  | ok a => exact hf a rfl

/-- Both are guarded by the same condition. -/
theorem guard {related : α → α' → Prop} {c c' : Prop} [Decidable c] [Decidable c'] {e : ε} {x : Except ε α}
    {x' : Except ε α'} (hc : c ↔ c') (hx : ¬ c → Matches related x x') :
    Matches related (if c then .error e else x) (if c' then .error e else x') := by
  by_cases h : c
  · rw [if_pos h, if_pos (hc.mp h)]
    rfl
  · rw [if_neg h, if_neg (mt hc.mpr h)]
    exact hx h

end Matches

end EverTrace.Lib
