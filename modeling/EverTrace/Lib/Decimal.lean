import Mathlib.Algebra.Order.Field.Rat
import Mathlib.Data.List.Nodup
import Mathlib.Data.Nat.Digits.Defs
import Mathlib.Tactic.FieldSimp
import Mathlib.Tactic.Linarith
/-!
# Decimal numbers as they are written

An optional minus sign, digits, and optionally a point with more digits. A number
has many spellings; its `value` is a rational, and at a common number of places
decimals are compared as whole numbers.
-/
namespace EverTrace.Lib

/-- A decimal number as it is written; no fraction digits means no point. -/
structure Decimal where
  negative : Bool
  whole : List (Fin 10)
  fraction : List (Fin 10)
  hwhole : whole ≠ []

namespace Decimal

def digitChar (d : Fin 10) : Char := Char.ofNat (48 + d)

def text (n : Decimal) : List Char :=
  (if n.negative then ['-'] else [])
    ++ (n.whole.map digitChar ++ if n.fraction = [] then [] else '.' :: n.fraction.map digitChar)

def digits (n : Decimal) : List Nat := (n.whole ++ n.fraction).map Fin.val

/-- The number the digits stand for without the point. -/
def magnitude (n : Decimal) : Nat := Nat.ofDigits 10 n.digits.reverse

def coefficient (n : Decimal) : Int := if n.negative then -n.magnitude else n.magnitude

def places (n : Decimal) : Nat := n.fraction.length

def value (n : Decimal) : ℚ := n.coefficient / 10 ^ n.places

/-- The decimal in units of `10 ^ (-places)`, for at least as many places as it has. -/
def unitsAt (n : Decimal) (places : Nat) : Int := n.coefficient * 10 ^ (places - n.places)

theorem unitsAt_eq (n : Decimal) {places : Nat} (h : n.places ≤ places) :
    ((n.unitsAt places : Int) : ℚ) = n.value * 10 ^ places := by
  have hsplit : (10 : ℚ) ^ places = 10 ^ n.places * 10 ^ (places - n.places) := by
    rw [← pow_add, Nat.add_sub_of_le h]
  rw [unitsAt, value, hsplit]
  push_cast
  field_simp

theorem digitChar_toNat (d : Fin 10) : (digitChar d).toNat = 48 + d := by
  revert d; decide

theorem digitChar_isDigit (d : Fin 10) : (digitChar d).isDigit = true := by
  revert d; decide

theorem digitChar_ne_point (d : Fin 10) : digitChar d ≠ '.' := by
  revert d; decide

theorem digitChar_ne_minus (d : Fin 10) : digitChar d ≠ '-' := by
  revert d; decide

theorem exists_digitChar {c : Char} (h : c.isDigit = true) : ∃ d, digitChar d = c := by
  have hrange : 48 ≤ c.toNat ∧ c.toNat ≤ 57 := by
    simpa [Char.isDigit, UInt32.le_iff_toNat_le] using h
  refine ⟨⟨c.toNat - 48, by omega⟩, ?_⟩
  have hcode : 48 + (c.toNat - 48) = c.toNat := by omega
  rw [digitChar]
  simp only [hcode]
  exact Char.ofNat_toNat c

theorem exists_map_digitChar {cs : List Char} (h : ∀ c ∈ cs, c.isDigit = true) :
    ∃ ds : List (Fin 10), ds.map digitChar = cs := by
  induction cs with
  | nil => exact ⟨[], rfl⟩
  | cons c rest ih =>
    obtain ⟨ds, hds⟩ := ih fun c hc => h c (List.mem_cons_of_mem _ hc)
    obtain ⟨d, hd⟩ := exists_digitChar (h c List.mem_cons_self)
    exact ⟨d :: ds, by rw [List.map_cons, hd, hds]⟩

theorem point_notMem (ds : List (Fin 10)) : '.' ∉ ds.map digitChar := by
  intro h
  obtain ⟨d, -, hd⟩ := List.mem_map.mp h
  exact digitChar_ne_point d hd

end Decimal

end EverTrace.Lib
