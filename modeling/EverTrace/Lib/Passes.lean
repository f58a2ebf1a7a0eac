import Mathlib.Logic.Basic
/-!
# Loops that may stop

A loop is the function `pass` of its state: one pass tests the condition and runs
the body, and ends with the next state or with the value that the loop is left
with. A pass gives nothing when an operation of the body fails. `loop pass n s` is
where the loop is after `n` passes from `s`; nothing is assumed about termination.

* `Leaves`: the loop is left with a value within a number of passes, and no pass fails.
* `leaves_of_variant`: the rule of total correctness. The invariant counts the
  passes that are still allowed.
-/
namespace EverTrace.Lib

/-- How a pass ends. -/
inductive Pass (σ ρ : Type) where
  | again (s : σ)
  | leave (r : ρ)
  deriving DecidableEq, Repr

inductive LoopState (σ ρ : Type) where
  | stopped
  | running (s : σ)
  | left (r : ρ)
  deriving DecidableEq, Repr

variable {σ ρ : Type}

/-- The value of a loop that was left. -/
def LoopState.value? : LoopState σ ρ → Option ρ
  | .left r => some r
  | _ => none

def loop (pass : σ → Option (Pass σ ρ)) : Nat → σ → LoopState σ ρ
  | 0, s => .running s
  | n + 1, s =>
    match pass s with
    | none => .stopped
    | some (.again s') => loop pass n s'
    | some (.leave r) => .left r

section

variable {pass : σ → Option (Pass σ ρ)} {s s' : σ} {r : ρ} {n : Nat}

@[simp] theorem loop_zero : loop pass 0 s = .running s := rfl

theorem loop_again (h : pass s = some (.again s')) : loop pass (n + 1) s = loop pass n s' := by
  rw [loop, h]

theorem loop_leave (h : pass s = some (.leave r)) : loop pass (n + 1) s = .left r := by
  rw [loop, h]

/-- From `s` the loop is left with `r` after at most `n + 1` passes, and no pass fails. -/
structure Leaves (pass : σ → Option (Pass σ ρ)) (n : Nat) (s : σ) (r : ρ) : Prop where
  runs : ∀ k, loop pass k s ≠ .stopped
  left : ∀ k, n < k → loop pass k s = .left r

theorem leaves_of_leave (h : pass s = some (.leave r)) : Leaves pass n s r where
  runs := by
    intro k
    cases k with
    | zero => exact nofun
    | succ k => rw [loop_leave h]; exact nofun
  left := by
    intro k hk
    cases k with
    | zero => exact absurd hk (Nat.not_lt_zero n)
    | succ k => exact loop_leave h

theorem Leaves.of_again {m : Nat} (h : pass s = some (.again s')) (hm : m < n) (hnext : Leaves pass m s' r) :
    Leaves pass n s r where
  runs := by
    intro k
    cases k with
    | zero => exact nofun
    | succ k => rw [loop_again h]; exact hnext.runs k
  left := by
    intro k hk
    cases k with
    | zero => exact absurd hk (Nat.not_lt_zero n)
    | succ k => rw [loop_again h]; exact hnext.left k (by omega)

theorem Leaves.unique {k : Nat} {r' : ρ} (h : Leaves pass n s r) (hk : loop pass k s = .left r') : r' = r := by
  induction k generalizing s n with
  | zero => cases hk
  | succ k ih =>
    have hlast := h.left (n + 1) (Nat.lt_succ_self n)
    cases hpass : pass s with
    | none => rw [loop, hpass] at hlast; cases hlast
    | some p =>
      cases p with
      | leave r'' =>
        rw [loop_leave hpass] at hk hlast
        rw [← LoopState.left.inj hk, LoopState.left.inj hlast]
      | again s' =>
        rw [loop_again hpass] at hk
        refine ih (n := n) ⟨fun j => ?_, fun j hj => ?_⟩ hk
        · rw [← loop_again (n := j) hpass]
          exact h.runs (j + 1)
        · rw [← loop_again (n := j) hpass]
          exact h.left (j + 1) (by omega)

/-- **Total correctness.** While `inv n` holds, at most `n` passes go on. -/
theorem leaves_of_variant {inv : Nat → σ → Prop} {post : ρ → Prop}
    (hpass : ∀ n s, inv n s → (∃ r, pass s = some (.leave r) ∧ post r) ∨
      ∃ s' m, pass s = some (.again s') ∧ m < n ∧ inv m s') :
    ∀ n s, inv n s → ∃ r, Leaves pass n s r ∧ post r := by
  intro n
  induction n using Nat.strongRecOn with
  | ind n ih =>
    intro s hinv
    rcases hpass n s hinv with ⟨r, hleave, hpost⟩ | ⟨s', m, hagain, hm, hnext⟩
    · exact ⟨r, leaves_of_leave hleave, hpost⟩
    · obtain ⟨r, hleaves, hpost⟩ := ih m hm s' hnext
      exact ⟨r, hleaves.of_again hagain hm, hpost⟩

end

end EverTrace.Lib
