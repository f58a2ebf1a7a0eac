import Mathlib.Data.List.Induction
import Mathlib.Tactic.Ring
/-!
# Byte strings, big-endian integers and UTF-8 text

A byte string is a `List UInt8`. `beBytes w n` is the `w`-byte big-endian
form of `n` (`to_be_bytes` of an unsigned integer of `w` bytes) and `beNat`
its inverse (`from_be_bytes`). `utf8` / `fromUtf8` are the two directions
between Lean's `String`, whose representation is its UTF-8 bytes, and byte
strings.

Results:
* `beNat_beBytes`, `beBytes_beNat`: the two integer directions are inverse
  on `w`-byte strings and on numbers below `256 ^ w`.
* `beBytes_inj`: the encoding is injective below `256 ^ w`.
* `fromUtf8_eq_some`: `fromUtf8` accepts exactly the image of `utf8`.
-/
namespace EverTrace.Lib

abbrev Bytes := List UInt8

/-! ## Big-endian integers -/

/-- The `w` big-endian bytes of `n`; bits above `8 * w` are dropped. -/
def beBytes : Nat → Nat → Bytes
  | 0, _ => []
  | w + 1, n => beBytes w (n / 256) ++ [UInt8.ofNat n]

def beNat (b : Bytes) : Nat := b.foldl (fun a x => a * 256 + x.toNat) 0

@[simp] theorem length_beBytes : ∀ w n, (beBytes w n).length = w
  | 0, _ => rfl
  | w + 1, n => by simp [beBytes, length_beBytes w]

theorem beNat_concat (b : Bytes) (x : UInt8) : beNat (b ++ [x]) = beNat b * 256 + x.toNat := by
  simp [beNat, List.foldl_append]

theorem beNat_lt (b : Bytes) : beNat b < 256 ^ b.length := by
  induction b using List.reverseRecOn with
  | nil => simp [beNat]
  | append_singleton b x ih =>
    have hx := x.toNat_lt
    rw [beNat_concat, List.length_append, List.length_singleton, Nat.pow_succ]
    omega

theorem beNat_beBytes (w : Nat) : ∀ n, n < 256 ^ w → beNat (beBytes w n) = n := by
  induction w with
  | zero => intro n h; simp at h; subst h; rfl
  | succ w ih =>
    intro n h
    rw [Nat.pow_succ] at h
    rw [beBytes, beNat_concat, ih (n / 256) (by omega), UInt8.toNat_ofNat']
    omega

theorem beBytes_beNat (b : Bytes) : beBytes b.length (beNat b) = b := by
  induction b using List.reverseRecOn with
  | nil => rfl
  | append_singleton b x ih =>
    have hx := x.toNat_lt
    have hdiv : (beNat b * 256 + x.toNat) / 256 = beNat b := by omega
    have hlast : UInt8.ofNat (beNat b * 256 + x.toNat) = x := by
      apply UInt8.toNat_inj.mp
      rw [UInt8.toNat_ofNat']
      omega
    rw [List.length_append, List.length_singleton, beBytes, beNat_concat, hdiv, ih, hlast]

theorem beBytes_inj {w m n : Nat} (hm : m < 256 ^ w) (hn : n < 256 ^ w)
    (h : beBytes w m = beBytes w n) : m = n := by
  rw [← beNat_beBytes w m hm, h, beNat_beBytes w n hn]

/-- `u16::to_be_bytes`, `u32::to_be_bytes`, `u64::to_be_bytes`. -/
def be16 (x : UInt16) : Bytes := beBytes 2 x.toNat

def be32 (x : UInt32) : Bytes := beBytes 4 x.toNat

def be64 (x : UInt64) : Bytes := beBytes 8 x.toNat

@[simp] theorem length_be16 (x : UInt16) : (be16 x).length = 2 := length_beBytes _ _

@[simp] theorem length_be32 (x : UInt32) : (be32 x).length = 4 := length_beBytes _ _

@[simp] theorem length_be64 (x : UInt64) : (be64 x).length = 8 := length_beBytes _ _

theorem be16_ofNat {n : Nat} (h : n < 2 ^ 16) : be16 (UInt16.ofNat n) = beBytes 2 n := by
  rw [be16, UInt16.toNat_ofNat', Nat.mod_eq_of_lt h]

theorem be64_ofNat {n : Nat} (h : n < 2 ^ 64) : be64 (UInt64.ofNat n) = beBytes 8 n := by
  rw [be64, UInt64.toNat_ofNat', Nat.mod_eq_of_lt h]

theorem be16_ofNat_beNat {b : Bytes} (h : b.length = 2) : be16 (UInt16.ofNat (beNat b)) = b := by
  have hlt := beNat_lt b
  rw [h] at hlt
  rw [be16, UInt16.toNat_ofNat', Nat.mod_eq_of_lt (by simpa using hlt), ← h, beBytes_beNat]

theorem be64_ofNat_beNat {b : Bytes} (h : b.length = 8) : be64 (UInt64.ofNat (beNat b)) = b := by
  have hlt := beNat_lt b
  rw [h] at hlt
  rw [be64, UInt64.toNat_ofNat', Nat.mod_eq_of_lt (by simpa using hlt), ← h, beBytes_beNat]

theorem ofNat_beNat_be16 (x : UInt16) : UInt16.ofNat (beNat (be16 x)) = x := by
  have hx := x.toNat_lt
  rw [be16, beNat_beBytes 2 _ (by simpa using hx)]
  simp

theorem ofNat_beNat_be32 (x : UInt32) : UInt32.ofNat (beNat (be32 x)) = x := by
  have hx := x.toNat_lt
  rw [be32, beNat_beBytes 4 _ (by simpa using hx)]
  simp

theorem ofNat_beNat_be64 (x : UInt64) : UInt64.ofNat (beNat (be64 x)) = x := by
  have hx := x.toNat_lt
  rw [be64, beNat_beBytes 8 _ (by simpa using hx)]
  simp

/-! ## Fields at fixed offsets -/

theorem take_field {a b : Bytes} {n : Nat} (h : a.length = n) : (a ++ b).take n = a := by
  rw [← h, List.take_left]

theorem drop_field {a b : Bytes} {n k : Nat} (h : a.length = n) : (a ++ b).drop (n + k) = b.drop k := by
  rw [← h, ← List.drop_drop, List.drop_left]

/-! ## UTF-8 text -/

/-- `str::as_bytes`. -/
def utf8 (s : String) : Bytes := s.toByteArray.data.toList

/-- `std::str::from_utf8`. -/
def fromUtf8 (b : Bytes) : Option String := String.fromUTF8? ⟨b.toArray⟩

/-- A string behind its `u16` byte length. -/
def stringBytes (s : String) : Bytes := beBytes 2 (utf8 s).length ++ utf8 s

theorem length_stringBytes (s : String) : (stringBytes s).length = 2 + (utf8 s).length := by
  simp [stringBytes]

theorem fromUtf8_eq_some {b : Bytes} {s : String} : fromUtf8 b = some s ↔ b = utf8 s := by
  constructor
  · intro h
    simp only [fromUtf8, String.fromUTF8?, String.fromUTF8, Option.dite_none_right_eq_some,
      Option.some.injEq] at h
    obtain ⟨_, rfl⟩ := h
    simp [utf8]
  · rintro rfl
    simp [fromUtf8, utf8, String.fromUTF8?, s.isValidUTF8, String.fromUTF8]

theorem utf8_injective {s t : String} (h : utf8 s = utf8 t) : s = t := by
  have hs := fromUtf8_eq_some.mpr (rfl : utf8 s = utf8 s)
  rw [h, fromUtf8_eq_some.mpr rfl] at hs
  exact (Option.some.inj hs).symm

/-- A character takes at most four bytes. -/
theorem length_utf8_le (s : String) : (utf8 s).length ≤ 4 * s.length := by
  have hlist : ∀ l : List Char, (String.ofList l).utf8ByteSize ≤ 4 * l.length := by
    intro l
    induction l with
    | nil => simp
    | cons c l ih =>
      have hc := c.utf8Size_le_four
      rw [← List.singleton_append, String.ofList_append, String.utf8ByteSize_append, List.length_append,
        List.length_singleton]
      simp at ih ⊢
      omega
  have h := hlist s.toList
  rw [String.length_toList, String.ofList_toList] at h
  simpa [utf8, ← String.size_toByteArray] using h

theorem utf8_eq_nil {s : String} : utf8 s = [] ↔ s = "" :=
  ⟨fun h => utf8_injective (h.trans rfl), by rintro rfl; rfl⟩

end EverTrace.Lib
