import EverTrace.Lib.Guard
import Mathlib.Data.List.Induction
import Mathlib.Tactic.Ring
/-!
# Arithmetic of an unsigned 64-bit word

An operation gives nothing where its exact result is not a word: that is `checked_*`,
and also an unchecked operator where a result that does not fit is an error. What it
gives is the machine's result, so a computation that never stops is the same with
and without the checks.
-/
namespace EverTrace.Lib

def addU64 (a b : UInt64) : Option UInt64 := if a.toNat + b.toNat < 2 ^ 64 then some (a + b) else none

def subU64 (a b : UInt64) : Option UInt64 := if b ≤ a then some (a - b) else none

def mulU64 (a b : UInt64) : Option UInt64 := if a.toNat * b.toNat < 2 ^ 64 then some (a * b) else none

def divU64 (a b : UInt64) : Option UInt64 := if b = 0 then none else some (a / b)

def sumU64 (values : List UInt64) : Option UInt64 := values.foldlM addU64 0

variable {a b c : UInt64}

theorem addU64_eq_some : addU64 a b = some c ↔ c.toNat = a.toNat + b.toNat := by
  unfold addU64
  split
  · next h =>
    rw [Option.some.injEq, ← UInt64.toNat_inj, UInt64.toNat_add, Nat.mod_eq_of_lt h]
    exact eq_comm
  · next h =>
    have hc := c.toNat_lt
    simp only [reduceCtorEq, false_iff]
    omega

theorem subU64_eq_some : subU64 a b = some c ↔ b.toNat + c.toNat = a.toNat := by
  have hb := b.toNat_lt
  have hc := c.toNat_lt
  unfold subU64
  split
  · next h =>
    rw [Option.some.injEq, ← UInt64.toNat_inj, UInt64.toNat_sub_of_le _ _ h]
    have hle := UInt64.le_iff_toNat_le.mp h
    omega
  · next h =>
    rw [UInt64.le_iff_toNat_le] at h
    simp only [reduceCtorEq, false_iff]
    omega

theorem mulU64_eq_some : mulU64 a b = some c ↔ c.toNat = a.toNat * b.toNat := by
  unfold mulU64
  split
  · next h =>
    rw [Option.some.injEq, ← UInt64.toNat_inj, UInt64.toNat_mul, Nat.mod_eq_of_lt h]
    exact eq_comm
  · next h =>
    have hc := c.toNat_lt
    simp only [reduceCtorEq, false_iff]
    omega

theorem exists_addU64 (h : a.toNat + b.toNat < 2 ^ 64) : ∃ c, addU64 a b = some c ∧ c.toNat = a.toNat + b.toNat :=
  have hsome := if_pos h
  ⟨a + b, hsome, addU64_eq_some.mp hsome⟩

theorem exists_subU64 (h : b.toNat ≤ a.toNat) : ∃ c, subU64 a b = some c ∧ b.toNat + c.toNat = a.toNat :=
  have hsome := if_pos (UInt64.le_iff_toNat_le.mpr h)
  ⟨a - b, hsome, subU64_eq_some.mp hsome⟩

theorem exists_mulU64 (h : a.toNat * b.toNat < 2 ^ 64) : ∃ c, mulU64 a b = some c ∧ c.toNat = a.toNat * b.toNat :=
  have hsome := if_pos h
  ⟨a * b, hsome, mulU64_eq_some.mp hsome⟩

theorem divU64_of_pos (h : 0 < b.toNat) : divU64 a b = some (a / b) := by
  refine if_neg fun hzero => ?_
  rw [hzero, UInt64.toNat_zero] at h
  omega

theorem exists_sumU64 : ∀ values : List UInt64, (values.map UInt64.toNat).sum < 2 ^ 64 →
    ∃ c, sumU64 values = some c ∧ c.toNat = (values.map UInt64.toNat).sum := by
  intro values
  induction values using List.reverseRecOn with
  | nil => intro _; exact ⟨0, rfl, rfl⟩
  | append_singleton values v ih =>
    intro h
    rw [List.map_append, List.sum_append, List.map_singleton, List.sum_singleton] at h ⊢
    obtain ⟨sum, hsum, hvalue⟩ := ih (by omega)
    obtain ⟨c, hc, hcvalue⟩ := exists_addU64 (a := sum) (b := v) (by omega)
    refine ⟨c, ?_, by omega⟩
    unfold sumU64 at hsum ⊢
    rw [List.foldlM_append, hsum]
    show (addU64 sum v >>= pure) = some c
    rw [hc]
    rfl

end EverTrace.Lib
