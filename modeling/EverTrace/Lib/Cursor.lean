import EverTrace.Lib.Bytes
/-!
# A reading cursor over a byte string

`Cursor ε` is a reader that consumes a byte string from the left and may
stop with an error of type `ε`. The primitives read a fixed number of bytes,
a big-endian integer, or a `u16`-length-prefixed UTF-8 string.

Every primitive comes with one lemma `…_ok` that says exactly which inputs
it accepts: the input is the encoding of the returned value followed by the
returned rest. Both directions of a format's round trip are read off these
equivalences, for any format built from the primitives.
-/
namespace EverTrace.Lib

/-- A reader of a byte string: the value and the unread rest, or an error. -/
abbrev Cursor (ε : Type) := StateT Bytes (Except ε)

namespace Cursor

variable {ε α β : Type}

theorem bind_ok {m : Cursor ε α} {f : α → Cursor ε β} {b rest : Bytes} {y : β} :
    (m >>= f).run b = .ok (y, rest) ↔ ∃ x mid, m.run b = .ok (x, mid) ∧ (f x).run mid = .ok (y, rest) := by
  rw [StateT.run_bind]
  cases h : m.run b with
  | error e => simp [bind, Except.bind]
  | ok p =>
    obtain ⟨x, mid⟩ := p
    simp [bind, Except.bind]

theorem pure_ok {x y : α} {b rest : Bytes} :
    (pure x : Cursor ε α).run b = .ok (y, rest) ↔ y = x ∧ rest = b := by
  rw [StateT.run_pure]
  simp [pure, Except.pure, eq_comm]

/-- Take exactly `n` bytes, or stop with `e`. -/
def take (e : ε) (n : Nat) : Cursor ε Bytes := fun remaining =>
  if remaining.length < n then .error e else .ok (remaining.take n, remaining.drop n)

def byte (e : ε) : Cursor ε UInt8 := do
  let raw ← take e 1
  return raw.headD 0

def u16 (e : ε) : Cursor ε UInt16 := do
  let raw ← take e 2
  return UInt16.ofNat (beNat raw)

def u64 (e : ε) : Cursor ε UInt64 := do
  let raw ← take e 8
  return UInt64.ofNat (beNat raw)

/-- `n` bytes that must be UTF-8. -/
def text (e : ε) (n : Nat) : Cursor ε String := do
  let raw ← take e n
  match fromUtf8 raw with
  | some s => return s
  | none => throw e

/-- A `u16` length followed by that many bytes of UTF-8. -/
def string (e : ε) : Cursor ε String := do
  let length ← u16 e
  text e length.toNat

/-- What `m` reads behind a byte 1, or nothing behind a byte 0. -/
def optional (e : ε) (m : Cursor ε α) : Cursor ε (Option α) := do
  match ← byte e with
  | 0 => return none
  | 1 => return some (← m)
  | _ => throw e

/-- `n` readings of `m`, in order. -/
def times (n : Nat) (m : Cursor ε α) : Cursor ε (List α) :=
  match n with
  | 0 => return []
  | n + 1 => do
    let x ← m
    let xs ← times n m
    return x :: xs

theorem take_run (e : ε) (n : Nat) (b : Bytes) :
    (take e n).run b = if b.length < n then .error e else .ok (b.take n, b.drop n) := rfl

theorem take_ok {e : ε} {n : Nat} {b v rest : Bytes} :
    (take e n).run b = .ok (v, rest) ↔ v.length = n ∧ b = v ++ rest := by
  rw [take_run]
  constructor
  · intro h
    split at h
    · cases h
    · next hlen =>
      simp only [Except.ok.injEq, Prod.mk.injEq] at h
      obtain ⟨rfl, rfl⟩ := h
      exact ⟨List.length_take_of_le (Nat.not_lt.mp hlen), (List.take_append_drop n b).symm⟩
  · rintro ⟨rfl, rfl⟩
    rw [if_neg (by simp)]
    simp

theorem byte_ok {e : ε} {b rest : Bytes} {x : UInt8} : (byte e).run b = .ok (x, rest) ↔ b = x :: rest := by
  unfold byte
  simp only [bind_ok, take_ok, pure_ok]
  constructor
  · rintro ⟨raw, mid, ⟨hlen, rfl⟩, rfl, rfl⟩
    obtain ⟨y, rfl⟩ := List.length_eq_one_iff.mp hlen
    rfl
  · rintro rfl
    exact ⟨[x], rest, ⟨rfl, rfl⟩, rfl, rfl⟩

theorem throw_ne {e : ε} {b : Bytes} {p : α × Bytes} : (throw e : Cursor ε α).run b ≠ .ok p := by
  simp [throw, throwThe, MonadExceptOf.throw, StateT.run, StateT.lift, bind, Except.bind]

theorem u16_ok {e : ε} {b rest : Bytes} {x : UInt16} :
    (u16 e).run b = .ok (x, rest) ↔ b = be16 x ++ rest := by
  unfold u16
  simp only [bind_ok, take_ok, pure_ok]
  constructor
  · rintro ⟨raw, mid, ⟨hlen, rfl⟩, rfl, rfl⟩
    rw [be16_ofNat_beNat hlen]
  · rintro rfl
    exact ⟨be16 x, rest, ⟨length_be16 x, rfl⟩, (ofNat_beNat_be16 x).symm, rfl⟩

theorem u64_ok {e : ε} {b rest : Bytes} {x : UInt64} :
    (u64 e).run b = .ok (x, rest) ↔ b = be64 x ++ rest := by
  unfold u64
  simp only [bind_ok, take_ok, pure_ok]
  constructor
  · rintro ⟨raw, mid, ⟨hlen, rfl⟩, rfl, rfl⟩
    rw [be64_ofNat_beNat hlen]
  · rintro rfl
    exact ⟨be64 x, rest, ⟨length_be64 x, rfl⟩, (ofNat_beNat_be64 x).symm, rfl⟩

theorem text_ok {e : ε} {n : Nat} {b rest : Bytes} {s : String} :
    (text e n).run b = .ok (s, rest) ↔ (utf8 s).length = n ∧ b = utf8 s ++ rest := by
  unfold text
  simp only [bind_ok, take_ok]
  constructor
  · rintro ⟨raw, mid, ⟨hlen, rfl⟩, h⟩
    cases hs : fromUtf8 raw with
    | none =>
      rw [hs] at h
      exact absurd h throw_ne
    | some t =>
      rw [hs] at h
      obtain ⟨rfl, rfl⟩ := pure_ok.mp h
      obtain rfl := fromUtf8_eq_some.mp hs
      exact ⟨hlen, rfl⟩
  · rintro ⟨hlen, rfl⟩
    refine ⟨utf8 s, rest, ⟨hlen, rfl⟩, ?_⟩
    rw [fromUtf8_eq_some.mpr rfl]
    exact pure_ok.mpr ⟨rfl, rfl⟩

/-- A length-prefixed string is read back from exactly its own encoding. -/
theorem string_ok {e : ε} {b rest : Bytes} {s : String} :
    (string e).run b = .ok (s, rest) ↔ (utf8 s).length < 2 ^ 16 ∧ b = stringBytes s ++ rest := by
  unfold string
  simp only [bind_ok, u16_ok, text_ok, stringBytes, List.append_assoc]
  refine ⟨fun h => ?_, fun h => ?_⟩
  · obtain ⟨len, mid, rfl, hlen, rfl⟩ := h
    have hlt := len.toNat_lt
    refine ⟨by omega, ?_⟩
    rw [hlen]
    rfl
  · obtain ⟨hlt, hb⟩ := h
    refine ⟨UInt16.ofNat (utf8 s).length, utf8 s ++ rest, ?_, ?_, rfl⟩
    · rw [hb, be16_ofNat hlt]
    · rw [UInt16.toNat_ofNat', Nat.mod_eq_of_lt hlt]

/-- An optional value is read back from exactly its flag and its own encoding. -/
theorem optional_ok {e : ε} {m : Cursor ε α} {enc : α → Bytes} {P : α → Prop}
    (hm : ∀ b x rest, m.run b = .ok (x, rest) ↔ P x ∧ b = enc x ++ rest) {b rest : Bytes} {o : Option α} :
    (optional e m).run b = .ok (o, rest) ↔
      (∀ x ∈ o, P x) ∧ b = (match o with | none => [0] | some x => 1 :: enc x) ++ rest := by
  unfold optional
  simp only [bind_ok, byte_ok]
  constructor
  · rintro ⟨flag, mid, rfl, h⟩
    split at h
    · obtain ⟨rfl, rfl⟩ := pure_ok.mp h
      exact ⟨fun x hx => (by cases hx), rfl⟩
    · obtain ⟨x, mid', hx, hpure⟩ := bind_ok.mp h
      obtain ⟨rfl, rfl⟩ := pure_ok.mp hpure
      obtain ⟨hP, rfl⟩ := (hm _ _ _).mp hx
      refine ⟨fun y hy => ?_, rfl⟩
      cases hy
      exact hP
    · exact absurd h throw_ne
  · rintro ⟨hP, rfl⟩
    cases o with
    | none => exact ⟨0, rest, rfl, pure_ok.mpr ⟨rfl, rfl⟩⟩
    | some x =>
      refine ⟨1, enc x ++ rest, rfl, ?_⟩
      exact bind_ok.mpr ⟨x, rest, (hm _ _ _).mpr ⟨hP x rfl, rfl⟩, pure_ok.mpr ⟨rfl, rfl⟩⟩

/-- `times` reads the concatenation of what its readings read. -/
theorem times_ok {m : Cursor ε α} {enc : α → Bytes} {P : α → Prop}
    (hm : ∀ b x rest, m.run b = .ok (x, rest) ↔ P x ∧ b = enc x ++ rest) :
    ∀ {n : Nat} {b rest : Bytes} {xs : List α}, (times n m).run b = .ok (xs, rest) ↔
      xs.length = n ∧ (∀ x ∈ xs, P x) ∧ b = xs.flatMap enc ++ rest := by
  intro n
  induction n with
  | zero =>
    intro b rest xs
    simp only [times, pure_ok]
    constructor
    · rintro ⟨rfl, rfl⟩; simp
    · rintro ⟨hlen, -, rfl⟩
      obtain rfl := List.length_eq_zero_iff.mp hlen
      simp
  | succ n ih =>
    intro b rest xs
    simp only [times, bind_ok, pure_ok, hm, ih]
    constructor
    · rintro ⟨x, mid, ⟨hx, rfl⟩, ys, mid', ⟨hlen, hys, rfl⟩, rfl, rfl⟩
      exact ⟨by simp [hlen], by simpa using ⟨hx, hys⟩, by simp⟩
    · rintro ⟨hlen, hall, rfl⟩
      cases xs with
      | nil => simp at hlen
      | cons x ys =>
        simp only [List.mem_cons, forall_eq_or_imp] at hall
        exact ⟨x, ys.flatMap enc ++ rest, ⟨hall.1, by simp⟩, ys, rest,
          ⟨by simpa using hlen, hall.2, rfl⟩, rfl, rfl⟩

end Cursor

end EverTrace.Lib
