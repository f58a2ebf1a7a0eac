import EverTrace.L1Encoding.Canonical
/-!
# What a canonical encoding determines

`Equiv` is equality of values up to the order of map entries at every depth.
Two values with the same encoding are `Equiv`, by a unique-parse argument:
each node announces its kind in a tag byte and its length in a `u64`, so an
encoding can be cut off the front of a byte string in one way only.

Results:
* `encodeValue_equiv`: equivalent values encode alike, errors included.
* `encodeValue_parse`: unique parse, by induction over the value.
* `encodeValue_duplicate`: `DuplicateMapKey` is raised exactly when a map at
  some depth holds a key twice.
* `encode_canonical`: the three facts for `encode` with its schema tag.
-/
namespace EverTrace.L1.Canonical
open EverTrace.Lib

/-! ## Values up to the order of map entries -/

mutual

/-- Equality up to reordering the entries of maps, at every depth. -/
inductive Equiv : CanonicalValue → CanonicalValue → Prop
  | null : Equiv .null .null
  | bool (b : Bool) : Equiv (.bool b) (.bool b)
  | integer (i : BitVec 128) : Equiv (.integer i) (.integer i)
  | string (s : String) : Equiv (.string s) (.string s)
  | bytes (b : Bytes) : Equiv (.bytes b) (.bytes b)
  | sequence {xs ys : List CanonicalValue} : EquivItems xs ys → Equiv (.sequence xs) (.sequence ys)
  | map {xs xs' ys' ys : List (String × CanonicalValue)} :
      xs.Perm xs' → EquivEntries xs' ys' → ys'.Perm ys → Equiv (.map xs) (.map ys)

inductive EquivItems : List CanonicalValue → List CanonicalValue → Prop
  | nil : EquivItems [] []
  | cons {x y : CanonicalValue} {xs ys : List CanonicalValue} :
      Equiv x y → EquivItems xs ys → EquivItems (x :: xs) (y :: ys)

inductive EquivEntries : List (String × CanonicalValue) → List (String × CanonicalValue) → Prop
  | nil : EquivEntries [] []
  | cons {k : String} {x y : CanonicalValue} {xs ys : List (String × CanonicalValue)} :
      Equiv x y → EquivEntries xs ys → EquivEntries ((k, x) :: xs) ((k, y) :: ys)

end

/-- Induction over a value, with the hypothesis for every item and every entry. -/
theorem CanonicalValue.ind {P : CanonicalValue → Prop} (null : P .null) (bool : ∀ b, P (.bool b))
    (integer : ∀ i, P (.integer i)) (string : ∀ s, P (.string s)) (bytes : ∀ b, P (.bytes b))
    (sequence : ∀ items, (∀ x ∈ items, P x) → P (.sequence items))
    (map : ∀ entries, (∀ e ∈ entries, P e.2) → P (.map entries)) (v : CanonicalValue) : P v := by
  refine @CanonicalValue.rec P (fun items => ∀ x ∈ items, P x) (fun entries => ∀ e ∈ entries, P e.2)
    (fun e => P e.2) null bool integer string bytes sequence map ?_ ?_ ?_ ?_ ?_ v
  · simp
  · intro x xs hx hxs
    simpa using ⟨hx, hxs⟩
  · simp
  · intro e es he hes y hy
    rcases List.mem_cons.mp hy with rfl | hy
    · exact he
    · exact hes y hy
  · exact fun _ _ h => h

theorem encodeEntries_eq (entries : List (String × CanonicalValue)) :
    encodeEntries entries = entries.map fun e => (e.1, encodeValue e.2) := by
  induction entries with
  | nil => rfl
  | cons e es ih => rw [encodeEntries, ih, List.map_cons]

theorem EquivItems.length_eq {xs ys : List CanonicalValue} : EquivItems xs ys → xs.length = ys.length
  | .nil => rfl
  | .cons _ h => by rw [List.length_cons, List.length_cons, h.length_eq]

/-- The duplicate check compares neighbours in byte order and finds every duplicate key. -/
theorem adjacentDup_sorted (l : List (String × Except CanonicalError Bytes)) :
    adjacentDup (fun e => e.1) (sortByKey (fun e => utf8 e.1) l) = false ↔
      (l.map fun e => utf8 e.1).Nodup := by
  have hcomp := adjacentDup_comp (f := utf8) (fun _ _ => utf8_injective)
    (fun e : String × Except CanonicalError Bytes => e.1) (sortByKey (fun e => utf8 e.1) l)
  rw [← adjacentDup_sortByKey, hcomp]

/-- The map case depends only on the entries, not on their order. -/
theorem putMap_perm {l l' : List (String × Except CanonicalError Bytes)} (hp : l.Perm l') :
    putMap l = putMap l' := by
  rw [putMap, putMap, hp.length_eq]
  by_cases hn : (l.map fun e => utf8 e.1).Nodup
  · rw [sortByKey_eq_of_perm _ hp hn]
  · have hn' : ¬ (l'.map fun e => utf8 e.1).Nodup := fun h => hn ((hp.map _).nodup_iff.mpr h)
    rw [← adjacentDup_sorted, Bool.not_eq_false] at hn hn'
    simp only [hn, hn']
    rfl

mutual

/-- Equivalent values encode alike, and fail alike. -/
theorem encodeValue_equiv : ∀ {a b : CanonicalValue}, Equiv a b → encodeValue a = encodeValue b
  | _, _, .null | _, _, .bool _ | _, _, .integer _ | _, _, .string _ | _, _, .bytes _ => rfl
  | _, _, .sequence h => by rw [encodeValue, encodeValue, encodeItems_equiv h, h.length_eq]
  | .map xs, .map ys, .map hx h hy => by
    have hperm : (encodeEntries xs).Perm (encodeEntries ys) := by
      have hx' := hx.map fun e => (e.1, encodeValue e.2)
      have hy' := hy.map fun e => (e.1, encodeValue e.2)
      rw [← encodeEntries_eq, ← encodeEntries_eq] at hx' hy'
      rw [encodeEntries_equiv h] at hx'
      exact hx'.trans hy'
    rw [encodeValue, encodeValue, putMap_perm hperm]

theorem encodeItems_equiv : ∀ {xs ys : List CanonicalValue}, EquivItems xs ys →
    encodeItems xs = encodeItems ys
  | _, _, .nil => rfl
  | _, _, .cons hx hxs => by
    rw [encodeItems, encodeItems, encodeValue_equiv hx, encodeItems_equiv hxs]

theorem encodeEntries_equiv : ∀ {xs ys : List (String × CanonicalValue)}, EquivEntries xs ys →
    encodeEntries xs = encodeEntries ys
  | _, _, .nil => rfl
  | _, _, .cons hx hxs => by
    rw [encodeEntries, encodeEntries, encodeValue_equiv hx, encodeEntries_equiv hxs]

end

/-! ## Unique parse -/

theorem pushLen_ok {n : Nat} {b : Bytes} : pushLen n = .ok b ↔ n < 2 ^ 64 ∧ b = beBytes 8 n := by
  rw [pushLen, ensure_bind_ok, decide_eq_true_eq, pure_eq_ok, eq_comm]

/-- A `u64` length at the head of two equal strings is the same length. -/
theorem pushLen_parse {m n : Nat} {x y r s : Bytes} (hx : pushLen m = .ok x) (hy : pushLen n = .ok y)
    (h : x ++ r = y ++ s) : m = n ∧ r = s := by
  obtain ⟨hm, rfl⟩ := pushLen_ok.mp hx
  obtain ⟨hn, rfl⟩ := pushLen_ok.mp hy
  obtain ⟨hlen, hrest⟩ := List.append_inj h (by simp)
  exact ⟨beBytes_inj (by simpa using hm) (by simpa using hn) hlen, hrest⟩

/-- A byte string behind its length is read in one way. -/
theorem lengthPrefixed_parse {u v x y r s : Bytes} (hx : pushLen u.length = .ok x)
    (hy : pushLen v.length = .ok y) (h : x ++ (u ++ r) = y ++ (v ++ s)) : u = v ∧ r = s := by
  obtain ⟨hlen, hrest⟩ := pushLen_parse hx hy h
  exact List.append_inj hrest hlen

/-- The tag byte of an encoded value. -/
def tagByte : CanonicalValue → UInt8
  | .null => 0x4e
  | .bool _ => 0x42
  | .integer _ => 0x49
  | .string _ => 0x53
  | .bytes _ => 0x59
  | .sequence _ => 0x51
  | .map _ => 0x4d

theorem encodeValue_tagByte {v : CanonicalValue} {e : Bytes} (h : encodeValue v = .ok e) :
    ∃ rest, e = tagByte v :: rest := by
  cases v <;> simp only [encodeValue, bind_eq_ok, pure_eq_ok] at h
  case null | bool | integer => exact ⟨_, h.symm⟩
  case string | bytes | map => obtain ⟨_, -, rfl⟩ := h; exact ⟨_, rfl⟩
  case sequence => obtain ⟨_, -, _, -, rfl⟩ := h; exact ⟨_, rfl⟩

theorem tagByte_eq {a b : CanonicalValue} {e f r s : Bytes} (he : encodeValue a = .ok e)
    (hf : encodeValue b = .ok f) (h : e ++ r = f ++ s) : tagByte a = tagByte b := by
  obtain ⟨_, rfl⟩ := encodeValue_tagByte he
  obtain ⟨_, rfl⟩ := encodeValue_tagByte hf
  exact (List.cons.inj h).1

/-- The encoding of `a` determines `a` and where it ends, against any other value. -/
def Parses (a : CanonicalValue) : Prop :=
  ∀ b e f r s, encodeValue a = .ok e → encodeValue b = .ok f → e ++ r = f ++ s → Equiv a b ∧ r = s

theorem encodeItems_parse : ∀ {xs ys : List CanonicalValue} {e f r s : Bytes},
    (∀ x ∈ xs, Parses x) → xs.length = ys.length → encodeItems xs = .ok e → encodeItems ys = .ok f →
      e ++ r = f ++ s → EquivItems xs ys ∧ r = s := by
  intro xs
  induction xs with
  | nil =>
    intro ys e f r s _ hlen he hf h
    obtain rfl := List.length_eq_zero_iff.mp hlen.symm
    simp only [encodeItems, pure_eq_ok] at he hf
    subst he hf
    exact ⟨.nil, h⟩
  | cons x xs ih =>
    intro ys e f r s hxs hlen he hf h
    cases ys with
    | nil => simp at hlen
    | cons y ys =>
      simp only [encodeItems, bind_eq_ok, pure_eq_ok] at he hf
      obtain ⟨e₁, he₁, e₂, he₂, rfl⟩ := he
      obtain ⟨f₁, hf₁, f₂, hf₂, rfl⟩ := hf
      rw [List.append_assoc, List.append_assoc] at h
      obtain ⟨hhead, hrest⟩ := hxs x List.mem_cons_self y e₁ f₁ _ _ he₁ hf₁ h
      obtain ⟨htail, hrs⟩ := ih (fun z hz => hxs z (List.mem_cons_of_mem _ hz)) (by simpa using hlen)
        he₂ hf₂ hrest
      exact ⟨.cons hhead htail, hrs⟩

theorem putEntries_parse : ∀ {xs ys : List (String × CanonicalValue)} {e f r s : Bytes},
    (∀ x ∈ xs, Parses x.2) → xs.length = ys.length → putEntries (encodeEntries xs) = .ok e →
      putEntries (encodeEntries ys) = .ok f → e ++ r = f ++ s → EquivEntries xs ys ∧ r = s := by
  intro xs
  induction xs with
  | nil =>
    intro ys e f r s _ hlen he hf h
    obtain rfl := List.length_eq_zero_iff.mp hlen.symm
    simp only [encodeEntries, putEntries, pure_eq_ok] at he hf
    subst he hf
    exact ⟨.nil, h⟩
  | cons x xs ih =>
    intro ys e f r s hxs hlen he hf h
    cases ys with
    | nil => simp at hlen
    | cons y ys =>
      obtain ⟨k, x⟩ := x
      obtain ⟨k', y⟩ := y
      simp only [encodeEntries, putEntries, bind_eq_ok, pure_eq_ok] at he hf
      obtain ⟨l₁, hl₁, e₁, he₁, e₂, he₂, rfl⟩ := he
      obtain ⟨l₂, hl₂, f₁, hf₁, f₂, hf₂, rfl⟩ := hf
      simp only [List.append_assoc] at h
      obtain ⟨hkey, hvalue⟩ := lengthPrefixed_parse hl₁ hl₂ h
      obtain rfl := utf8_injective hkey
      obtain ⟨hhead, hrest⟩ := hxs (k, x) List.mem_cons_self y e₁ f₁ _ _ he₁ hf₁ hvalue
      obtain ⟨htail, hrs⟩ := ih (fun z hz => hxs z (List.mem_cons_of_mem _ hz)) (by simpa using hlen)
        he₂ hf₂ hrest
      exact ⟨.cons hhead htail, hrs⟩

/-- The map case in terms of the entries themselves: duplicate keys are refused, and the entries are
written in the byte order of their keys. -/
theorem putMap_encodeEntries (entries : List (String × CanonicalValue)) :
    putMap (encodeEntries entries) = do
      let length ← pushLen entries.length
      ensure .duplicateMapKey (entries.map Prod.fst).Nodup
      let body ← putEntries (encodeEntries (sortByKey (fun e => utf8 e.1) entries))
      return length ++ body := by
  have hcheck : adjacentDup (fun e => e.1) (sortByKey (fun e => utf8 e.1) (encodeEntries entries)) =
      false ↔ (entries.map Prod.fst).Nodup := by
    rw [adjacentDup_sorted, encodeEntries_eq, List.map_map]
    show (entries.map (utf8 ∘ Prod.fst)).Nodup ↔ _
    rw [← List.map_map]
    exact List.nodup_map_iff fun _ _ => utf8_injective
  have hsorted : sortByKey (fun e => utf8 e.1) (encodeEntries entries) =
      encodeEntries (sortByKey (fun e => utf8 e.1) entries) := by
    rw [encodeEntries_eq, encodeEntries_eq, sortByKey_map]
  have hdup : (!adjacentDup (fun e => e.1) (encodeEntries (sortByKey (fun e => utf8 e.1) entries))) =
      decide (entries.map Prod.fst).Nodup := by
    rw [← hsorted, Bool.eq_iff_iff, Bool.not_eq_true', hcheck, decide_eq_true_eq]
  have hlen : (encodeEntries entries).length = entries.length := by
    rw [encodeEntries_eq, List.length_map]
  rw [putMap]
  simp only [hsorted, hdup, hlen]

/-- **Unique parse.** Two encodings at the head of one byte string are the same encoding, of values
that differ only in the order of map entries. -/
theorem encodeValue_parse (a : CanonicalValue) : Parses a := by
  intro b
  -- the tag bytes agree, so `b` has the constructor of `a`
  induction a using CanonicalValue.ind generalizing b with
  | null =>
    intro e f r s he hf h
    have htag := tagByte_eq he hf h
    cases b <;> simp [tagByte] at htag
    simp only [encodeValue, pure_eq_ok] at he hf
    subst he hf
    exact ⟨.null, (List.cons.inj h).2⟩
  | bool x =>
    intro e f r s he hf h
    have htag := tagByte_eq he hf h
    cases b <;> simp [tagByte] at htag
    next y =>
    simp only [encodeValue, pure_eq_ok] at he hf
    subst he hf
    obtain ⟨hbyte, hrs⟩ := List.cons.inj (List.cons.inj h).2
    have hxy : x = y := by
      cases x <;> cases y <;> first | rfl | exact absurd hbyte (by decide)
    subst hxy
    exact ⟨.bool x, hrs⟩
  | integer x =>
    intro e f r s he hf h
    have htag := tagByte_eq he hf h
    cases b <;> simp [tagByte] at htag
    next y =>
    simp only [encodeValue, pure_eq_ok] at he hf
    subst he hf
    obtain ⟨hbytes, hrs⟩ := List.append_inj (List.cons.inj h).2 (by simp)
    have hxy : x.toNat = y.toNat :=
      beBytes_inj (by simpa using x.isLt) (by simpa using y.isLt) hbytes
    obtain rfl := BitVec.eq_of_toNat_eq hxy
    exact ⟨.integer x, hrs⟩
  | string x =>
    intro e f r s he hf h
    have htag := tagByte_eq he hf h
    cases b <;> simp [tagByte] at htag
    next y =>
    simp only [encodeValue, bind_eq_ok, pure_eq_ok] at he hf
    obtain ⟨_, hx, rfl⟩ := he
    obtain ⟨_, hy, rfl⟩ := hf
    have h' := (List.cons.inj h).2
    rw [List.append_eq, List.append_eq, List.append_assoc, List.append_assoc] at h'
    obtain ⟨hxy, hrs⟩ := lengthPrefixed_parse hx hy h'
    obtain rfl := utf8_injective hxy
    exact ⟨.string x, hrs⟩
  | bytes x =>
    intro e f r s he hf h
    have htag := tagByte_eq he hf h
    cases b <;> simp [tagByte] at htag
    next y =>
    simp only [encodeValue, bind_eq_ok, pure_eq_ok] at he hf
    obtain ⟨_, hx, rfl⟩ := he
    obtain ⟨_, hy, rfl⟩ := hf
    have h' := (List.cons.inj h).2
    rw [List.append_eq, List.append_eq, List.append_assoc, List.append_assoc] at h'
    obtain ⟨rfl, hrs⟩ := lengthPrefixed_parse hx hy h'
    exact ⟨.bytes x, hrs⟩
  | sequence xs ih =>
    intro e f r s he hf h
    have htag := tagByte_eq he hf h
    cases b <;> simp [tagByte] at htag
    next ys =>
    simp only [encodeValue, bind_eq_ok, pure_eq_ok] at he hf
    obtain ⟨_, hx, e', he', rfl⟩ := he
    obtain ⟨_, hy, f', hf', rfl⟩ := hf
    have h' := (List.cons.inj h).2
    rw [List.append_eq, List.append_eq, List.append_assoc, List.append_assoc] at h'
    obtain ⟨hlen, hbody⟩ := pushLen_parse hx hy h'
    obtain ⟨hitems, hrs⟩ := encodeItems_parse (fun x hx b => ih x hx b) hlen he' hf' hbody
    exact ⟨.sequence hitems, hrs⟩
  | map xs ih =>
    intro e f r s he hf h
    have htag := tagByte_eq he hf h
    cases b <;> simp [tagByte] at htag
    next ys =>
    simp only [encodeValue, bind_eq_ok, pure_eq_ok] at he hf
    obtain ⟨_, hx, rfl⟩ := he
    obtain ⟨_, hy, rfl⟩ := hf
    simp only [putMap_encodeEntries, bind_eq_ok, pure_eq_ok] at hx hy
    obtain ⟨_, hxl, _, -, e', he', rfl⟩ := hx
    obtain ⟨_, hyl, _, -, f', hf', rfl⟩ := hy
    have h' := (List.cons.inj h).2
    rw [List.append_eq, List.append_eq, List.append_assoc, List.append_assoc] at h'
    obtain ⟨hlen, hbody⟩ := pushLen_parse hxl hyl h'
    have hpx := sortByKey_perm (fun e : String × CanonicalValue => utf8 e.1) xs
    have hpy := sortByKey_perm (fun e : String × CanonicalValue => utf8 e.1) ys
    obtain ⟨hentries, hrs⟩ := putEntries_parse (fun x hx b => ih x (hpx.mem_iff.mp hx) b)
      (hpx.length_eq.trans (hlen.trans hpy.length_eq.symm)) he' hf' hbody
    exact ⟨.map hpx.symm hentries hpy, hrs⟩

/-! ## Duplicate keys -/

/-- `Occurs v a`: `v` is `a` or a value inside it, at any depth. -/
inductive Occurs (v : CanonicalValue) : CanonicalValue → Prop
  | self : Occurs v v
  | item {x : CanonicalValue} {items : List CanonicalValue} :
      x ∈ items → Occurs v x → Occurs v (.sequence items)
  | entry {e : String × CanonicalValue} {entries : List (String × CanonicalValue)} :
      e ∈ entries → Occurs v e.2 → Occurs v (.map entries)

/-- Some map at some depth holds the same key twice. -/
def HasDuplicateKey (a : CanonicalValue) : Prop :=
  ∃ entries, Occurs (.map entries) a ∧ ¬ (entries.map Prod.fst).Nodup

/-- Every string, byte string, sequence and map has a length that fits a `usize`. -/
def lengthsFit : CanonicalValue → Prop
  | .string string => (utf8 string).length < 2 ^ 64
  | .bytes bytes => bytes.length < 2 ^ 64
  | .sequence items => items.length < 2 ^ 64
  | .map entries => entries.length < 2 ^ 64 ∧ ∀ e ∈ entries, (utf8 e.1).length < 2 ^ 64
  | _ => True

/-- A value that can exist in memory: all lengths in it are `usize`s. -/
def InMemory (a : CanonicalValue) : Prop := ∀ v, Occurs v a → lengthsFit v

theorem hasDuplicateKey_sequence {items : List CanonicalValue} :
    HasDuplicateKey (.sequence items) ↔ ∃ x ∈ items, HasDuplicateKey x := by
  refine ⟨fun ⟨entries, hocc, hdup⟩ => ?_, fun ⟨x, hx, entries, hocc, hdup⟩ => ?_⟩
  · cases hocc with
    | item hx h => exact ⟨_, hx, entries, h, hdup⟩
  · exact ⟨entries, .item hx hocc, hdup⟩

theorem hasDuplicateKey_map {entries : List (String × CanonicalValue)} :
    HasDuplicateKey (.map entries) ↔
      ¬ (entries.map Prod.fst).Nodup ∨ ∃ e ∈ entries, HasDuplicateKey e.2 := by
  refine ⟨fun ⟨es, hocc, hdup⟩ => ?_, fun h => ?_⟩
  · cases hocc with
    | self => exact .inl hdup
    | entry he h => exact .inr ⟨_, he, es, h, hdup⟩
  · rcases h with hdup | ⟨e, he, es, hocc, hdup⟩
    · exact ⟨entries, .self, hdup⟩
    · exact ⟨es, .entry he hocc, hdup⟩

/-- What a value in memory can do: encode, or raise `DuplicateMapKey` if it holds one. -/
def EncodesUnlessDuplicate (dup : Prop) (result : Except CanonicalError Bytes) : Prop :=
  (dup ∧ result = .error .duplicateMapKey) ∨ (¬ dup ∧ ∃ e, result = .ok e)

theorem encodeItems_duplicate : ∀ {items : List CanonicalValue},
    (∀ x ∈ items, EncodesUnlessDuplicate (HasDuplicateKey x) (encodeValue x)) →
      EncodesUnlessDuplicate (∃ x ∈ items, HasDuplicateKey x) (encodeItems items) := by
  intro items
  induction items with
  | nil => exact fun _ => .inr ⟨by simp, [], rfl⟩
  | cons x xs ih =>
    intro h
    rcases h x List.mem_cons_self with ⟨hdup, hx⟩ | ⟨hno, e, hx⟩
    · refine .inl ⟨⟨x, List.mem_cons_self, hdup⟩, ?_⟩
      rw [encodeItems, hx]
      rfl
    · rcases ih fun y hy => h y (List.mem_cons_of_mem _ hy) with ⟨⟨y, hy, hdup⟩, hxs⟩ | ⟨hno', f, hxs⟩
      · refine .inl ⟨⟨y, List.mem_cons_of_mem _ hy, hdup⟩, ?_⟩
        rw [encodeItems, hx, hxs]
        rfl
      · refine .inr ⟨by simpa [hno] using hno', ?_⟩
        rw [encodeItems, hx, hxs]
        exact ⟨_, rfl⟩

theorem putEntries_duplicate : ∀ {entries : List (String × CanonicalValue)},
    (∀ e ∈ entries, (utf8 e.1).length < 2 ^ 64) →
    (∀ e ∈ entries, EncodesUnlessDuplicate (HasDuplicateKey e.2) (encodeValue e.2)) →
      EncodesUnlessDuplicate (∃ e ∈ entries, HasDuplicateKey e.2)
        (putEntries (encodeEntries entries)) := by
  intro entries
  induction entries with
  | nil => exact fun _ _ => .inr ⟨by simp, [], rfl⟩
  | cons x xs ih =>
    intro hkeys h
    obtain ⟨k, x⟩ := x
    have hk := pushLen_ok.mpr ⟨hkeys (k, x) List.mem_cons_self, rfl⟩
    rcases h (k, x) List.mem_cons_self with ⟨hdup, hx⟩ | ⟨hno, e, hx⟩
    · refine .inl ⟨⟨(k, x), List.mem_cons_self, hdup⟩, ?_⟩
      rw [encodeEntries, putEntries, hk, hx]
      rfl
    · rcases ih (fun y hy => hkeys y (List.mem_cons_of_mem _ hy)) fun y hy =>
          h y (List.mem_cons_of_mem _ hy) with ⟨⟨y, hy, hdup⟩, hxs⟩ | ⟨hno', f, hxs⟩
      · refine .inl ⟨⟨y, List.mem_cons_of_mem _ hy, hdup⟩, ?_⟩
        rw [encodeEntries, putEntries, hk, hx, hxs]
        rfl
      · refine .inr ⟨fun ⟨y, hy, hdup⟩ => ?_, ?_⟩
        · rcases List.mem_cons.mp hy with rfl | hy
          · exact hno hdup
          · exact hno' ⟨y, hy, hdup⟩
        · rw [encodeEntries, putEntries, hk, hx, hxs]
          exact ⟨_, rfl⟩

/-- A value in memory fails to encode only through a duplicate key, and always then. -/
theorem encodeValue_duplicate (a : CanonicalValue) (ha : InMemory a) :
    EncodesUnlessDuplicate (HasDuplicateKey a) (encodeValue a) := by
  induction a using CanonicalValue.ind with
  | null => exact .inr ⟨fun ⟨_, hocc, _⟩ => (by cases hocc), _, rfl⟩
  | bool x => exact .inr ⟨fun ⟨_, hocc, _⟩ => (by cases hocc), _, rfl⟩
  | integer x => exact .inr ⟨fun ⟨_, hocc, _⟩ => (by cases hocc), _, rfl⟩
  | string x =>
    refine .inr ⟨fun ⟨_, hocc, _⟩ => (by cases hocc), ?_⟩
    rw [encodeValue, pushLen_ok.mpr ⟨ha _ .self, rfl⟩]
    exact ⟨_, rfl⟩
  | bytes x =>
    refine .inr ⟨fun ⟨_, hocc, _⟩ => (by cases hocc), ?_⟩
    rw [encodeValue, pushLen_ok.mpr ⟨ha _ .self, rfl⟩]
    exact ⟨_, rfl⟩
  | sequence items ih =>
    have hlen := pushLen_ok.mpr ⟨ha _ .self, rfl⟩
    rcases encodeItems_duplicate fun x hx => ih x hx fun v hv => ha v (.item hx hv) with
      ⟨hdup, h⟩ | ⟨hno, e, h⟩
    · refine .inl ⟨hasDuplicateKey_sequence.mpr hdup, ?_⟩
      rw [encodeValue, hlen, h]
      rfl
    · refine .inr ⟨fun hdup => hno (hasDuplicateKey_sequence.mp hdup), ?_⟩
      rw [encodeValue, hlen, h]
      exact ⟨_, rfl⟩
  | map entries ih =>
    obtain ⟨hcount, hkeys⟩ : lengthsFit (.map entries) := ha _ .self
    have hlen := pushLen_ok.mpr ⟨hcount, rfl⟩
    have hperm := sortByKey_perm (fun e : String × CanonicalValue => utf8 e.1) entries
    rw [encodeValue, putMap_encodeEntries, hlen]
    by_cases hn : (entries.map Prod.fst).Nodup
    · rcases putEntries_duplicate (fun e he => hkeys e (hperm.mem_iff.mp he)) (fun e he =>
          ih e (hperm.mem_iff.mp he) fun v hv => ha v (.entry (hperm.mem_iff.mp he) hv)) with
        ⟨⟨e, he, hdup⟩, h⟩ | ⟨hno, e, h⟩
      · refine .inl ⟨hasDuplicateKey_map.mpr (.inr ⟨e, hperm.mem_iff.mp he, hdup⟩), ?_⟩
        rw [decide_eq_true hn, h]
        rfl
      · refine .inr ⟨fun hdup => ?_, ?_⟩
        · rcases hasDuplicateKey_map.mp hdup with hdup | ⟨e, he, hdup⟩
          · exact hdup hn
          · exact hno ⟨e, hperm.mem_iff.mpr he, hdup⟩
        · rw [decide_eq_true hn, h]
          exact ⟨_, rfl⟩
    · refine .inl ⟨hasDuplicateKey_map.mpr (.inl hn), ?_⟩
      rw [decide_eq_false hn]
      rfl

/-! ## With the schema tag -/

theorem encode_ok {t : String} {v : UInt32} {a : CanonicalValue} {e : Bytes} (h : encode t v a = .ok e) :
    ∃ length body, pushLen (utf8 t).length = .ok length ∧ encodeValue a = .ok body ∧
      e = formatMagic ++ (length ++ (utf8 t ++ (be32 v ++ body))) := by
  simp only [encode, bind_eq_ok, pure_eq_ok] at h
  obtain ⟨_, -, length, hlen, body, hbody, rfl⟩ := h
  exact ⟨length, body, hlen, hbody, by simp⟩

theorem encode_parse {t₁ t₂ : String} {v₁ v₂ : UInt32} {a b : CanonicalValue} {e f r s : Bytes}
    (he : encode t₁ v₁ a = .ok e) (hf : encode t₂ v₂ b = .ok f) (h : e ++ r = f ++ s) :
    t₁ = t₂ ∧ v₁ = v₂ ∧ Equiv a b ∧ r = s := by
  obtain ⟨_, e', hl₁, he', rfl⟩ := encode_ok he
  obtain ⟨_, f', hl₂, hf', rfl⟩ := encode_ok hf
  simp only [List.append_assoc] at h
  obtain ⟨htag, h⟩ := lengthPrefixed_parse hl₁ hl₂ (List.append_cancel_left h)
  obtain ⟨hversion, h⟩ := List.append_inj h (by simp)
  obtain ⟨hequiv, hrs⟩ := encodeValue_parse a b e' f' r s he' hf' h
  have hv : v₁ = v₂ := by rw [← ofNat_beNat_be32 v₁, hversion, ofNat_beNat_be32]
  exact ⟨utf8_injective htag, hv, hequiv, hrs⟩

/-- `encode` with a tag fails on a value in memory exactly through its duplicate keys. -/
theorem encode_duplicate {t : String} {v : UInt32} {a : CanonicalValue} (ht : (utf8 t).length < 2 ^ 64)
    (ha : InMemory a) : encode t v a = .error .duplicateMapKey ↔ t ≠ "" ∧ HasDuplicateKey a := by
  rw [encode, pushLen_ok.mpr ⟨ht, rfl⟩]
  by_cases hempty : t = ""
  · subst hempty
    refine ⟨fun h => ?_, fun h => absurd rfl h.1⟩
    cases h
  · have htag : decide (utf8 t ≠ []) = true := decide_eq_true fun h => hempty (utf8_eq_nil.mp h)
    rw [htag]
    rcases encodeValue_duplicate a ha with ⟨hdup, h⟩ | ⟨hno, e, h⟩
    · rw [h]
      exact ⟨fun _ => ⟨hempty, hdup⟩, fun _ => rfl⟩
    · rw [h]
      refine ⟨fun h => ?_, fun h => absurd h.2 hno⟩
      cases h

/-- A value without parts, with a length that fits. -/
def Scalar : CanonicalValue → Prop
  | .sequence _ | .map _ => False
  | v => lengthsFit v

theorem encodeValue_scalar {a : CanonicalValue} (h : Scalar a) : ∃ e, encodeValue a = .ok e := by
  cases a with
  | null => exact ⟨_, rfl⟩
  | bool b => exact ⟨_, rfl⟩
  | integer i => exact ⟨_, rfl⟩
  | string s => rw [encodeValue, pushLen_ok.mpr ⟨h, rfl⟩]; exact ⟨_, rfl⟩
  | bytes b => rw [encodeValue, pushLen_ok.mpr ⟨h, rfl⟩]; exact ⟨_, rfl⟩
  | sequence items => exact absurd h id
  | map entries => exact absurd h id

theorem encodeItems_of_forall : ∀ {items : List CanonicalValue}, (∀ a ∈ items, ∃ e, encodeValue a = .ok e) →
    ∃ e, encodeItems items = .ok e
  | [], _ => ⟨[], rfl⟩
  | a :: items, h => by
    obtain ⟨⟨e, he⟩, hitems⟩ := List.forall_mem_cons.mp h
    obtain ⟨f, hf⟩ := encodeItems_of_forall hitems
    rw [encodeItems, he, hf]
    exact ⟨_, rfl⟩

theorem encode_scalars {t : String} {v : UInt32} {items : List CanonicalValue} (ht : t ≠ "")
    (hlen : (utf8 t).length < 2 ^ 64) (hcount : items.length < 2 ^ 64) (h : ∀ a ∈ items, Scalar a) :
    ∃ e, encode t v (.sequence items) = .ok e := by
  obtain ⟨body, hbody⟩ := encodeItems_of_forall fun a ha => encodeValue_scalar (h a ha)
  have htag : decide (utf8 t ≠ []) = true := decide_eq_true fun h => ht (utf8_eq_nil.mp h)
  rw [encode, htag, pushLen_ok.mpr ⟨hlen, rfl⟩, encodeValue, pushLen_ok.mpr ⟨hcount, rfl⟩, hbody]
  exact ⟨_, rfl⟩

/-- A value in memory without maps. -/
inductive Plain : CanonicalValue → Prop
  | scalar {a : CanonicalValue} (h : Scalar a) : Plain a
  | sequence {items : List CanonicalValue} (hcount : items.length < 2 ^ 64) (h : ∀ a ∈ items, Plain a) :
    Plain (.sequence items)

theorem Plain.encodes {a : CanonicalValue} (h : Plain a) : ∃ e, encodeValue a = .ok e := by
  induction h with
  | scalar h => exact encodeValue_scalar h
  | sequence hcount _ ih =>
    obtain ⟨body, hbody⟩ := encodeItems_of_forall ih
    rw [encodeValue, pushLen_ok.mpr ⟨hcount, rfl⟩, hbody]
    exact ⟨_, rfl⟩

/-- The keys of a map that encodes if its values do. -/
def KeysFit (keys : List String) : Prop :=
  keys.length < 2 ^ 64 ∧ (∀ k ∈ keys, (utf8 k).length < 2 ^ 64) ∧ keys.Nodup

instance (keys : List String) : Decidable (KeysFit keys) := inferInstanceAs (Decidable (_ ∧ _ ∧ _))

theorem encodeValue_map_of_forall {entries : List (String × CanonicalValue)} {keys : List String}
    (hk : entries.map Prod.fst = keys) (hkeys : KeysFit keys) (h : ∀ e ∈ entries, ∃ b, encodeValue e.2 = .ok b) :
    ∃ b, encodeValue (.map entries) = .ok b := by
  subst hk
  obtain ⟨hcount, hlen, hn⟩ := hkeys
  rw [List.length_map] at hcount
  have hperm := sortByKey_perm (fun e : String × CanonicalValue => utf8 e.1) entries
  have hbody : ∀ {es : List (String × CanonicalValue)}, (∀ e ∈ es, e ∈ entries) →
      ∃ b, putEntries (encodeEntries es) = .ok b := by
    intro es
    induction es with
    | nil => exact fun _ => ⟨[], rfl⟩
    | cons e es ih =>
      intro hes
      obtain ⟨he, hrest⟩ := List.forall_mem_cons.mp hes
      obtain ⟨b, hb⟩ := h e he
      obtain ⟨rest, hrest⟩ := ih hrest
      rw [encodeEntries, putEntries, pushLen_ok.mpr ⟨hlen e.1 (List.mem_map_of_mem he), rfl⟩, hb, hrest]
      exact ⟨_, rfl⟩
  obtain ⟨body, hbody⟩ := hbody fun e he => hperm.mem_iff.mp he
  rw [encodeValue, putMap_encodeEntries, pushLen_ok.mpr ⟨hcount, rfl⟩, decide_eq_true hn, hbody]
  exact ⟨_, rfl⟩

theorem sha256_of_encodes {a : CanonicalValue} (h : ∃ b, encodeValue a = .ok b) (H : Sha256) {t : String}
    (v : UInt32) (ht : t ≠ "") (hlen : (utf8 t).length < 2 ^ 64) :
    ∃ e, encode t v a = .ok e ∧ Canonical.sha256 H t v a = .ok (H.hash e) := by
  obtain ⟨body, hbody⟩ := h
  have htag : decide (utf8 t ≠ []) = true := decide_eq_true fun h => ht (utf8_eq_nil.mp h)
  rw [Canonical.sha256, encode, htag, pushLen_ok.mpr ⟨hlen, rfl⟩, hbody]
  exact ⟨_, rfl, rfl⟩

theorem Equiv.lookup {xs ys : List (String × CanonicalValue)} (h : Equiv (.map xs) (.map ys)) {k : String}
    {x : CanonicalValue} (hx : (k, x) ∈ xs) : ∃ y, (k, y) ∈ ys ∧ Equiv x y := by
  have hentries : ∀ {xs ys : List (String × CanonicalValue)}, EquivEntries xs ys → (k, x) ∈ xs →
      ∃ y, (k, y) ∈ ys ∧ Equiv x y := by
    intro xs
    induction xs with
    | nil => intro ys _ hx; cases hx
    | cons e xs ih =>
      intro ys h hx
      cases h with
      | cons hxy hrest =>
        rcases List.mem_cons.mp hx with heq | hx
        · cases heq
          exact ⟨_, List.mem_cons_self, hxy⟩
        · obtain ⟨y, hy, hxy⟩ := ih hrest hx
          exact ⟨y, List.mem_cons_of_mem _ hy, hxy⟩
  cases h with
  | map hpx h hpy =>
    obtain ⟨y, hy, hxy⟩ := hentries h (hpx.mem_iff.mp hx)
    exact ⟨y, hpy.mem_iff.mp hy, hxy⟩

theorem Equiv.at {xs ys : List (String × CanonicalValue)} (h : Equiv (.map xs) (.map ys)) (k : String)
    (x v : CanonicalValue) (hx : (k, x) ∈ xs) (hy : ∀ y, (k, y) ∈ ys → y = v) : Equiv x v := by
  obtain ⟨y, hmem, hxy⟩ := h.lookup hx
  rwa [hy y hmem] at hxy

theorem Equiv.string_inj {s t : String} (h : Equiv (.string s) (.string t)) : s = t := by
  cases h
  rfl

theorem Equiv.stringAt {xs ys : List (String × CanonicalValue)} (h : Equiv (.map xs) (.map ys)) (k s t : String)
    (hx : (k, .string s) ∈ xs) (hy : ∀ y, (k, y) ∈ ys → y = .string t) : s = t :=
  (h.at k (.string s) (.string t) hx hy).string_inj

/-- Equal sequences of images come from equal lists, if the images tell the elements apart. -/
theorem EquivItems.of_map {α : Type} {f : α → CanonicalValue} (hf : ∀ a b, Equiv (f a) (f b) → a = b) :
    ∀ {l m : List α}, EquivItems (l.map f) (m.map f) → l = m := by
  intro l
  induction l with
  | nil =>
    intro m h
    cases m with
    | nil => rfl
    | cons b m => cases h
  | cons a l ih =>
    intro m h
    cases m with
    | nil => cases h
    | cons b m =>
      cases h with
      | cons hab hrest => rw [hf a b hab, ih hrest]

theorem Plain.sha256 {a : CanonicalValue} (h : Plain a) (H : Sha256) {t : String} (v : UInt32) (ht : t ≠ "")
    (hlen : (utf8 t).length < 2 ^ 64) : ∃ digest, Canonical.sha256 H t v a = .ok digest := by
  obtain ⟨e, -, he⟩ := sha256_of_encodes h.encodes H v ht hlen
  exact ⟨_, he⟩

theorem EquivItems.eq_of_scalars : ∀ {xs ys : List CanonicalValue}, EquivItems xs ys →
    (∀ x ∈ xs, Scalar x) → xs = ys
  | _, _, .nil, _ => rfl
  | _, _, .cons hxy hrest, h => by
    obtain ⟨hx, hxs⟩ := List.forall_mem_cons.mp h
    have heq := hrest.eq_of_scalars hxs
    cases hxy with
    | sequence _ => exact absurd hx id
    | map _ _ _ => exact absurd hx id
    | _ => rw [heq]

/-- The encoding of a sequence of scalars determines its tag, its version and its items. -/
theorem encode_scalars_inj {t₁ t₂ : String} {v₁ v₂ : UInt32} {xs ys : List CanonicalValue} {e : Bytes}
    (hx : encode t₁ v₁ (.sequence xs) = .ok e) (hy : encode t₂ v₂ (.sequence ys) = .ok e)
    (h : ∀ x ∈ xs, Scalar x) : t₁ = t₂ ∧ v₁ = v₂ ∧ xs = ys := by
  obtain ⟨ht, hv, hequiv, -⟩ := encode_parse hx hy (rfl : e ++ [] = e ++ [])
  cases hequiv with
  | sequence hitems => exact ⟨ht, hv, hitems.eq_of_scalars h⟩

/-- **The canonical encoding is injective up to map order.** Equal encodings mean equal tags, versions
and values up to map order, and conversely; no encoding is a proper prefix of another; and
`DuplicateMapKey` is raised exactly for a non-empty tag and a map that holds a key twice. -/
theorem encode_canonical :
    (∀ t₁ t₂ v₁ v₂ a b e f, encode t₁ v₁ a = .ok e → encode t₂ v₂ b = .ok f →
      (e = f ↔ t₁ = t₂ ∧ v₁ = v₂ ∧ Equiv a b)) ∧
    (∀ t₁ t₂ v₁ v₂ a b e f, encode t₁ v₁ a = .ok e → encode t₂ v₂ b = .ok f → e <+: f → e = f) ∧
    (∀ a b e f, encodeValue a = .ok e → encodeValue b = .ok f → e <+: f → e = f) ∧
    (∀ t v a, (utf8 t).length < 2 ^ 64 → InMemory a →
      (encode t v a = .error .duplicateMapKey ↔ t ≠ "" ∧ HasDuplicateKey a)) := by
  refine ⟨?_, ?_, ?_, fun t v a ht ha => encode_duplicate ht ha⟩
  · intro t₁ t₂ v₁ v₂ a b e f he hf
    refine ⟨fun h => ?_, fun ⟨ht, hv, heq⟩ => ?_⟩
    · obtain ⟨ht, hv, heq, -⟩ := encode_parse he hf (congrArg (· ++ []) h)
      exact ⟨ht, hv, heq⟩
    · subst ht hv
      rw [encode, encodeValue_equiv heq, ← encode, hf] at he
      exact (Except.ok.inj he).symm
  · intro t₁ t₂ v₁ v₂ a b e f he hf ⟨r, hr⟩
    obtain ⟨-, -, -, rfl⟩ := encode_parse he hf (hr.trans (List.append_nil f).symm)
    rw [← hr, List.append_nil]
  · intro a b e f he hf ⟨r, hr⟩
    obtain ⟨-, rfl⟩ := encodeValue_parse a b e f r [] he hf (hr.trans (List.append_nil f).symm)
    rw [← hr, List.append_nil]

/-- Two orders of one map encode alike; a repeated key is refused. -/
theorem encode_canonical_map :
    (∃ e f, encode "tag" 1 (.map [("a", .null), ("b", .bool true)]) = .ok e ∧
      encode "tag" 1 (.map [("b", .bool true), ("a", .null)]) = .ok f ∧ e = f) ∧
    encode "tag" 1 (.map [("a", .null), ("a", .null)]) = .error .duplicateMapKey := by
  refine ⟨⟨_, _, rfl, rfl, ?_⟩, ?_⟩
  · refine (encode_canonical.1 "tag" "tag" 1 1 (.map [("a", .null), ("b", .bool true)])
      (.map [("b", .bool true), ("a", .null)]) _ _ rfl rfl).mpr ⟨rfl, rfl, ?_⟩
    exact .map (.swap _ _ []) (.cons (.bool true) (.cons .null .nil)) (.refl _)
  · refine (encode_canonical.2.2.2 "tag" 1 _ (by decide) ?_).mpr ⟨by decide, _, .self, by decide⟩
    intro v hv
    cases hv with
    | self => exact ⟨by decide, by decide⟩
    | entry he h =>
      simp only [List.mem_cons, List.not_mem_nil, or_false, or_self] at he
      subst he
      cases h
      trivial

end EverTrace.L1.Canonical
