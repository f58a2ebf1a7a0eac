import EverTrace.L1Encoding.Ids
import EverTrace.Lib.FirstDiff
import Mathlib.Data.String.Basic
/-!
# The texts of ids are ordered as the ids

Lists of ids are sorted by their bits, lists of references by their text. The two
orders agree within a family: hexadecimal digits in lower case are ordered as their
values, and the hyphens stand at fixed places. What reads as an id is its text, so a
sorted list of references reads as a sorted list of ids.
-/
namespace EverTrace.L1
open EverTrace.Lib

theorem beBytes_precedes : ∀ {w m n : Nat}, m < n → n < 256 ^ w → Precedes (beBytes w m) (beBytes w n)
  | 0, m, n, h, hn => by
    rw [Nat.pow_zero] at hn
    omega
  | w + 1, m, n, h, hn => by
    rw [Nat.pow_succ] at hn
    unfold beBytes
    by_cases hdiv : m / 256 = n / 256
    · rw [hdiv]
      refine Precedes.append_left ⟨[], _, _, [], [], rfl, rfl, ?_⟩ _
      rw [UInt8.lt_iff_toNat_lt, UInt8.toNat_ofNat', UInt8.toNat_ofNat']
      omega
    · exact (beBytes_precedes (by omega) (by omega)).append_right _ _

theorem hexDigit_lt {m n : Nat} (hn : n < 16) (h : m < n) : hexDigit m < hexDigit n := by
  revert h
  revert m
  revert hn
  revert n
  decide

theorem hexByte_precedes (x y : UInt8) (h : x < y) :
    Precedes [hexDigit (x.toNat / 16), hexDigit (x.toNat % 16)] [hexDigit (y.toNat / 16), hexDigit (y.toNat % 16)] := by
  have hy := y.toNat_lt
  rw [UInt8.lt_iff_toNat_lt] at h
  by_cases hdiv : x.toNat / 16 = y.toNat / 16
  · rw [hdiv]
    exact ⟨[hexDigit (y.toNat / 16)], _, _, [], [], rfl, rfl, hexDigit_lt (by omega) (by omega)⟩
  · exact ⟨[], _, _, _, _, rfl, rfl, hexDigit_lt (by omega) (by omega)⟩

/-- A printed UUID is its digits with four hyphens put in. -/
theorem hyphenated_eq (u : Uuid) : u.hyphenated =
    insertAt 23 '-' (insertAt 18 '-' (insertAt 13 '-' (insertAt 8 '-' (hexBytes (beBytes 16 u.val))))) := by
  have hlength := length_beBytes 16 u.val
  unfold Uuid.hyphenated
  generalize beBytes 16 u.val = b at hlength ⊢
  conv_rhs => rw [← groups_eq b]
  simp only [hexBytes_append]
  have ha : (hexBytes (b.take 4)).length = 8 := by simp [length_hexBytes, hlength]
  have hb : (hexBytes ((b.drop 4).take 2)).length = 4 := by simp [length_hexBytes, hlength]
  have hc : (hexBytes ((b.drop 6).take 2)).length = 4 := by simp [length_hexBytes, hlength]
  have hd : (hexBytes ((b.drop 8).take 2)).length = 4 := by simp [length_hexBytes, hlength]
  generalize hexBytes (b.take 4) = a at ha ⊢
  generalize hexBytes ((b.drop 4).take 2) = b' at hb ⊢
  generalize hexBytes ((b.drop 6).take 2) = c at hc ⊢
  generalize hexBytes ((b.drop 8).take 2) = d at hd ⊢
  -- each hyphen goes in behind the groups before it
  rw [insertAt_length ha, ← List.cons_append, ← List.append_assoc a, insertAt_length (by simp; omega), ← List.cons_append,
    ← List.append_assoc (a ++ _), insertAt_length (by simp; omega), ← List.cons_append, ← List.append_assoc (a ++ _ ++ _),
    insertAt_length (by simp; omega)]

theorem hyphenated_precedes {u v : Uuid} (h : u < v) : Precedes u.hyphenated v.hyphenated := by
  have hdigits : Precedes (hexBytes (beBytes 16 u.val)) (hexBytes (beBytes 16 v.val)) :=
    Precedes.flatMap hexByte_precedes (beBytes_precedes h (by have h := v.isLt; omega))
  rw [hyphenated_eq, hyphenated_eq]
  exact (((hdigits.insertAt 8 '-').insertAt 13 '-').insertAt 18 '-').insertAt 23 '-'

theorem Id.toText_lt {family : Family} {a b : Id family} (h : a < b) : a.toText < b.toText := by
  rw [String.lt_iff_toList_lt]
  unfold Id.toText
  rw [String.toList_append, String.toList_append, String.toList_ofList, String.toList_ofList]
  exact ((hyphenated_precedes h).append_left _).lt

theorem Id.lt_of_toText_lt {family : Family} {a b : Id family} (h : a.toText < b.toText) : a < b := by
  rcases lt_trichotomy a b with hlt | heq | hgt
  · exact hlt
  · rw [heq] at h
    exact absurd h (lt_irrefl _)
  · exact absurd (h.trans (toText_lt hgt)) (lt_irrefl _)

theorem splitFamily_eq_some {tag value : String} {payload : List Char} (h : splitFamily tag value = some payload) :
    value.toList = tag.toList ++ payload := by
  unfold splitFamily at h
  split at h
  · next hprefix =>
    cases h
    obtain ⟨rest, hrest⟩ := List.isPrefixOf_iff_prefix.mp hprefix
    rw [← hrest, ← String.length_toList, List.drop_left]
  · cases h

theorem Id.toText_of_fromStr {family : Family} {value : String} {id : Id family} (h : Id.fromStr value = some id) :
    id.toText = value := by
  unfold Id.fromStr at h
  obtain ⟨payload, hpayload, h⟩ := Option.bind_eq_some_iff.mp h
  obtain ⟨uuid, huuid, h⟩ := Option.bind_eq_some_iff.mp h
  cases h
  unfold parseUuidPayload at huuid
  dsimp only at huuid
  split at huuid
  · next hcanonical =>
    cases huuid
    rw [Bool.and_eq_true, beq_iff_eq] at hcanonical
    apply String.toList_injective
    unfold Id.toText
    rw [String.toList_append, String.toList_ofList, splitFamily_eq_some hpayload, hcanonical.2]
  · cases huuid

theorem map_toText_of_fromStr {family : Family} : ∀ {references : List String} {ids : List (Id family)},
    references.mapM (fun reference => (Id.fromStr reference : Option (Id family))) = some ids → ids.map Id.toText = references
  | [], ids, h => by
    cases h
    rfl
  | reference :: references, ids, h => by
    rw [List.mapM_cons] at h
    obtain ⟨id, hid, h⟩ := Option.bind_eq_some_iff.mp h
    obtain ⟨rest, hrest, h⟩ := Option.bind_eq_some_iff.mp h
    cases h
    rw [List.map_cons, Id.toText_of_fromStr hid, map_toText_of_fromStr hrest]

theorem pairwise_of_toText {family : Family} {ids : List (Id family)} (h : (ids.map Id.toText).Pairwise (· < ·)) :
    ids.Pairwise (· < ·) := (List.pairwise_map.mp h).imp Id.lt_of_toText_lt

end EverTrace.L1
