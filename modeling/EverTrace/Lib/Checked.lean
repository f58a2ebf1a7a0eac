import EverTrace.Lib.Guard
import Mathlib.Data.List.Induction
import Mathlib.Data.Nat.Digits.Defs
import Mathlib.Tactic.Linarith
/-!
# Checked arithmetic of a signed word

An operation on words of `w` bits whose exact result does not fit gives nothing.
`checked` is that test; the operations are the exact ones behind it, so a
computation made of them either is the exact one or stops at a value that does
not fit.
-/
namespace EverTrace.Lib

/-- The values that a signed word of `w` bits holds. -/
def Fits (w : Nat) (v : Int) : Prop := -2 ^ (w - 1) ≤ v ∧ v < 2 ^ (w - 1)

instance (w : Nat) (v : Int) : Decidable (Fits w v) := by unfold Fits; infer_instance

theorem Fits.of_nonneg_le {w : Nat} {a b : Int} (hb : Fits w b) (ha : 0 ≤ a) (hab : a ≤ b) : Fits w a := by
  have hw : (0 : Int) < 2 ^ (w - 1) := by positivity
  exact ⟨by linarith, by linarith [hb.2]⟩

theorem Fits.neg {w : Nat} {a : Int} (ha : 0 ≤ a) (h : Fits w a) : Fits w (-a) := by
  have hw : (0 : Int) < 2 ^ (w - 1) := by positivity
  exact ⟨by linarith [h.2], by linarith⟩

theorem fits_zero (w : Nat) : Fits w 0 := by
  have hw : (0 : Int) < 2 ^ (w - 1) := by positivity
  exact ⟨by linarith, hw⟩

def checked (w : Nat) (v : Int) : Option Int := if Fits w v then some v else none

def checkedAdd (w : Nat) (a b : Int) : Option Int := checked w (a + b)

def checkedSub (w : Nat) (a b : Int) : Option Int := checked w (a - b)

def checkedMul (w : Nat) (a b : Int) : Option Int := checked w (a * b)

def checkedNeg (w : Nat) (a : Int) : Option Int := checked w (-a)

def checkedPow (w : Nat) (a : Int) (n : Nat) : Option Int := checked w (a ^ n)

@[simp] theorem checked_eq_some {w : Nat} {v u : Int} : checked w v = some u ↔ Fits w v ∧ v = u := by
  unfold checked; split <;> simp_all

@[simp] theorem checked_eq_none {w : Nat} {v : Int} : checked w v = none ↔ ¬Fits w v := by
  unfold checked; split <;> simp_all

theorem checked_of_fits {w : Nat} {v : Int} (h : Fits w v) : checked w v = some v := if_pos h

/-- The digits of a number, first the most significant one, read into a word. -/
def readDigits (w : Nat) (digits : List Nat) : Option Int :=
  digits.foldlM (fun (acc : Int) (d : Nat) => do checkedAdd w (← checkedMul w acc 10) d) (0 : Int)

/-- Reading digit by digit stops exactly when the number does not fit: the
partial values only grow. -/
theorem readDigits_eq (w : Nat) (digits : List Nat) :
    readDigits w digits = checked w (Nat.ofDigits 10 digits.reverse : Nat) := by
  induction digits using List.reverseRecOn with
  | nil => exact (checked_of_fits (fits_zero w)).symm
  | append_singleton ds d ih =>
    have hvalue : Nat.ofDigits 10 (ds ++ [d]).reverse = Nat.ofDigits 10 ds.reverse * 10 + d := by
      rw [List.reverse_append, List.reverse_singleton, List.singleton_append, Nat.ofDigits_cons]
      omega
    unfold readDigits at ih ⊢
    rw [List.foldlM_append, ih, hvalue, Nat.cast_add, Nat.cast_mul]
    have hnonneg : (0 : Int) ≤ (Nat.ofDigits 10 ds.reverse : Nat) := Int.natCast_nonneg _
    generalize ((Nat.ofDigits 10 ds.reverse : Nat) : Int) = v at hnonneg ⊢
    push_cast
    by_cases hnext : Fits w (v * 10 + d)
    · have hten : Fits w (v * 10) := hnext.of_nonneg_le (by omega) (by omega)
      have hv : Fits w v := hten.of_nonneg_le hnonneg (by omega)
      rw [checked_of_fits hnext, checked_of_fits hv]
      simp [checkedMul, checkedAdd, checked_of_fits hten, checked_of_fits hnext]
    · rw [checked_eq_none.mpr hnext]
      cases hv : checked w v with
      | none => rfl
      | some u =>
        obtain ⟨-, rfl⟩ := checked_eq_some.mp hv
        cases hten : checked w (v * 10) with
        | none => simp [checkedMul, hten]
        | some u =>
          obtain ⟨-, rfl⟩ := checked_eq_some.mp hten
          simp [checkedMul, checkedAdd, hten, checked_eq_none.mpr hnext]

end EverTrace.Lib
