import EverTrace.Lib.Checked
import EverTrace.Lib.Passes
import EverTrace.Lib.Word
import EverTrace.L2Machine.DetectorRun
import Mathlib.Algebra.Order.BigOperators.Group.List
import Mathlib.Data.Nat.Sqrt
/-!
# The surprise test on words (`evertrace-engine/src/segmentation/detector.rs`)

`Detector` computes the surprise threshold with numbers; the code computes it with
`u64` and `i64`, and takes the root of the variance by a binary search between 1 and
`u32::MAX`. Here the search and the test are on words, and an operation whose result
is not a word stops them.

Results:
* `integerSqrt_floor`: the search is left with the floor of the root, for every word.
* `surprise_on_words`: a started, restored or pushed detector decides on words what it
  decides on numbers.
-/
namespace EverTrace.L2.Segmentation
open EverTrace.Lib EverTrace.L2.Work

/-! ## The search on numbers -/

theorem integerSqrtLoop_eq {value : Nat} : ∀ {fuel low high : Nat}, 1 ≤ low → low ≤ value.sqrt + 1 →
    value.sqrt ≤ high → high + 1 - low ≤ fuel → integerSqrtLoop value fuel low high = value.sqrt := by
  intro fuel
  induction fuel with
  | zero =>
    intro low high hpos hlow hhigh hfuel
    show high = value.sqrt
    omega
  | succ fuel ih =>
    intro low high hpos hlow hhigh hfuel
    unfold integerSqrtLoop
    split
    · next hle =>
      generalize hmid : low + (high - low) / 2 = mid
      dsimp only
      split
      · next heq => rw [← heq, Nat.sqrt_eq]
      next hne =>
      split
      · next hlt =>
        have hroot := Nat.le_sqrt.mpr (Nat.le_of_lt hlt)
        exact ih (by omega) (by omega) hhigh (by omega)
      · have hroot : value.sqrt < mid := Nat.sqrt_lt.mpr (by omega)
        exact ih hpos hlow (by omega) (by omega)
    · omega

theorem sqrt_of_small {n : Nat} (h : n < 2) : n.sqrt = n := by
  have hn : n = 0 ∨ n = 1 := by omega
  rcases hn with rfl | rfl <;> simp

theorem integerSqrt_eq {value : Nat} (h : value < 2 ^ 64) : integerSqrt value = value.sqrt := by
  unfold integerSqrt
  split
  · next hsmall => exact (sqrt_of_small hsmall).symm
  · have hself := Nat.sqrt_le_self value
    have hbound : value.sqrt < 2 ^ 32 := Nat.sqrt_lt.mpr (by omega)
    exact integerSqrtLoop_eq (Nat.le_refl 1) (by omega) (by omega) (by omega)

namespace Word

/-- The variables of the search. -/
structure SqrtSearch where
  low : UInt64
  high : UInt64
  deriving DecidableEq, Repr

namespace SqrtSearch

/-- `low + (high - low) / 2` -/
def mid (s : SqrtSearch) : Option UInt64 := do addU64 s.low ((← subU64 s.high s.low) / 2)

/-- mirrors evertrace-engine/src/segmentation/detector.rs:512-519 -/
def pass (value : UInt64) (s : SqrtSearch) : Option (Pass SqrtSearch UInt64) :=
  if s.low ≤ s.high then do
    let mid ← s.mid
    match mulU64 mid mid with
    | some square =>
      if square = value then return .leave mid
      else if square < value then return .again { s with low := ← addU64 mid 1 }
      else return .again { s with high := ← subU64 mid 1 }
    | none => return .again { s with high := ← subU64 mid 1 }
  else return .leave s.high

end SqrtSearch

/-- The function after so many passes of its loop.
mirrors evertrace-engine/src/segmentation/detector.rs:506-521 -/
def integerSqrt (passes : Nat) (value : UInt64) : LoopState SqrtSearch UInt64 :=
  if value < 2 then .left value
  else loop (SqrtSearch.pass value) passes { low := 1, high := min value 0xFFFFFFFF }

/-! ## One pass -/

/-- The root is neither left of `low - 1` nor right of `high`. -/
structure Brackets (root : Nat) (s : SqrtSearch) : Prop where
  low_pos : 1 ≤ s.low.toNat
  low_le : s.low.toNat ≤ root + 1
  le_high : root ≤ s.high.toNat
  high_lt : s.high.toNat < 2 ^ 32

/-- How many candidates are left. -/
def SqrtSearch.width (s : SqrtSearch) : Nat := s.high.toNat + 1 - s.low.toNat

section

variable {root : Nat} {value : UInt64} {s : SqrtSearch}

theorem Brackets.mid_ok (h : Brackets root s) (hle : s.low.toNat ≤ s.high.toNat) :
    ∃ mid, s.mid = some mid ∧ mid.toNat = s.low.toNat + (s.high.toNat - s.low.toNat) / 2 := by
  have hhigh := h.high_lt
  obtain ⟨span, hspan, hsum⟩ := exists_subU64 hle
  have hhalf : (span / 2).toNat = span.toNat / 2 := UInt64.toNat_div span 2
  obtain ⟨mid, hmid, hvalue⟩ := exists_addU64 (a := s.low) (b := span / 2) (by omega)
  refine ⟨mid, ?_, by omega⟩
  rw [SqrtSearch.mid, hspan]
  exact hmid

theorem square_ok {mid : UInt64} (h : mid.toNat < 2 ^ 32) :
    ∃ square, mulU64 mid mid = some square ∧ square.toNat = mid.toNat * mid.toNat := by
  have hsquare : mid.toNat * mid.toNat < 2 ^ 32 * 2 ^ 32 := Nat.mul_lt_mul'' h h
  exact exists_mulU64 (by omega)

/-- A pass is left with the root, or halves what is left. -/
theorem pass_ok {n : Nat} (h : Brackets value.toNat.sqrt s) (hwidth : s.width < 2 ^ n) :
    (∃ r, s.pass value = some (.leave r) ∧ r.toNat = value.toNat.sqrt) ∨
      ∃ s' m, s.pass value = some (.again s') ∧ m < n ∧ Brackets value.toNat.sqrt s' ∧ s'.width < 2 ^ m := by
  obtain ⟨hpos, hlow, hhigh, hbound⟩ := h
  unfold SqrtSearch.width at hwidth
  by_cases hle : s.low.toNat ≤ s.high.toNat
  · obtain ⟨mid, hmid, hmidvalue⟩ := Brackets.mid_ok ⟨hpos, hlow, hhigh, hbound⟩ hle
    obtain ⟨square, hsquare, hsquarevalue⟩ := square_ok (show mid.toNat < 2 ^ 32 by omega)
    obtain ⟨above, habove, habovevalue⟩ := exists_addU64 (a := mid) (b := 1) (by rw [UInt64.toNat_one]; omega)
    obtain ⟨below, hbelow, hbelowvalue⟩ := exists_subU64 (a := mid) (b := 1) (by rw [UInt64.toNat_one]; omega)
    rw [UInt64.toNat_one] at habovevalue hbelowvalue
    cases n with
    | zero => omega
    | succ n =>
      rw [Nat.pow_succ] at hwidth
      unfold SqrtSearch.pass
      rw [if_pos (UInt64.le_iff_toNat_le.mpr hle), hmid]
      simp only [Option.bind_eq_bind, Option.bind_some, hsquare, habove, hbelow]
      rcases Nat.lt_trichotomy square.toNat value.toNat with hlt | heq | hgt
      · -- the root is the candidate or lies right of it
        have hroot : mid.toNat ≤ value.toNat.sqrt := Nat.le_sqrt.mpr (by omega)
        rw [if_neg (fun hsame => absurd (congrArg UInt64.toNat hsame) (by omega)),
          if_pos (UInt64.lt_iff_toNat_lt.mpr hlt)]
        refine .inr ⟨{ s with low := above }, n, rfl, Nat.lt_succ_self n, ⟨?_, ?_, hhigh, hbound⟩, ?_⟩
        · show 1 ≤ above.toNat
          omega
        · show above.toNat ≤ value.toNat.sqrt + 1
          omega
        · show s.high.toNat + 1 - above.toNat < 2 ^ n
          omega
      · rw [if_pos (UInt64.toNat_inj.mp heq)]
        refine .inl ⟨mid, rfl, ?_⟩
        rw [← heq, hsquarevalue, Nat.sqrt_eq]
      · -- the root lies left of the candidate
        have hroot : value.toNat.sqrt < mid.toNat := Nat.sqrt_lt.mpr (by omega)
        rw [if_neg (fun hsame => absurd (congrArg UInt64.toNat hsame) (by omega)),
          if_neg (fun hlt => absurd (UInt64.lt_iff_toNat_lt.mp hlt) (by omega))]
        refine .inr ⟨{ s with high := below }, n, rfl, Nat.lt_succ_self n, ⟨hpos, hlow, ?_, ?_⟩, ?_⟩
        · show value.toNat.sqrt ≤ below.toNat
          omega
        · show below.toNat < 2 ^ 32
          omega
        · show below.toNat + 1 - s.low.toNat < 2 ^ n
          omega
  · refine .inl ⟨s.high, ?_, by omega⟩
    unfold SqrtSearch.pass
    rw [if_neg (fun h => hle (UInt64.le_iff_toNat_le.mp h))]
    rfl

end

/-! ## The whole search -/

theorem brackets_start {value : UInt64} (h : ¬ value < 2) :
    Brackets value.toNat.sqrt { low := 1, high := min value 0xFFFFFFFF } := by
  have hvalue : 2 ≤ value.toNat := by
    have hlt := mt UInt64.lt_iff_toNat_lt.mpr h
    simp only [UInt64.reduceToNat] at hlt
    omega
  have hroot := Nat.sqrt_le_self value.toNat
  have hbound : value.toNat.sqrt < 2 ^ 32 := Nat.sqrt_lt.mpr value.toNat_lt
  have hmin : (min value 0xFFFFFFFF).toNat = min value.toNat (2 ^ 32 - 1) := by
    show (if value ≤ 0xFFFFFFFF then value else 0xFFFFFFFF).toNat = _
    split
    · next hle =>
      have hle := UInt64.le_iff_toNat_le.mp hle
      simp only [UInt64.reduceToNat] at hle
      omega
    · next hgt =>
      have hgt := mt UInt64.le_iff_toNat_le.mpr hgt
      simp only [UInt64.reduceToNat] at hgt ⊢
      omega
  constructor <;> simp only [hmin, UInt64.toNat_one] <;> omega

/-- The search takes 33 passes at most: each one halves what is left of fewer than `2 ^ 32` candidates. -/
theorem search_leaves {value : UInt64} (h : ¬ value < 2) :
    ∃ root, Leaves (SqrtSearch.pass value) 32 { low := 1, high := min value 0xFFFFFFFF } root ∧
      root.toNat = value.toNat.sqrt := by
  have hstart := brackets_start h
  have hpos := hstart.low_pos
  have hlt := hstart.high_lt
  have hpass : ∀ n s, Brackets value.toNat.sqrt s ∧ s.width < 2 ^ n →
      (∃ r, s.pass value = some (.leave r) ∧ r.toNat = value.toNat.sqrt) ∨
        ∃ s' m, s.pass value = some (.again s') ∧ m < n ∧ Brackets value.toNat.sqrt s' ∧ s'.width < 2 ^ m :=
    fun n s h => pass_ok h.1 h.2
  exact leaves_of_variant hpass 32 _ ⟨hstart, by unfold SqrtSearch.width; omega⟩

/-- The function never stops, and `root` is what it comes to. -/
structure IsRoot (value root : UInt64) : Prop where
  runs : ∀ passes, integerSqrt passes value ≠ .stopped
  left : ∀ passes, 33 ≤ passes → integerSqrt passes value = .left root
  unique : ∀ passes r, integerSqrt passes value = .left r → r = root

theorem exists_root (value : UInt64) : ∃ root, IsRoot value root ∧ root.toNat = value.toNat.sqrt := by
  by_cases hsmall : value < 2
  · have hvalue := UInt64.lt_iff_toNat_lt.mp hsmall
    simp only [UInt64.reduceToNat] at hvalue
    have heq : ∀ passes, integerSqrt passes value = .left value := fun _ => if_pos hsmall
    refine ⟨value, ⟨fun passes => ?_, fun passes _ => heq passes, fun passes r hr => ?_⟩, (sqrt_of_small hvalue).symm⟩
    · rw [heq]
      exact nofun
    · rw [heq] at hr
      exact (LoopState.left.inj hr).symm
  · obtain ⟨root, hleaves, hroot⟩ := search_leaves hsmall
    have heq : ∀ passes, integerSqrt passes value = loop (SqrtSearch.pass value) passes _ := fun _ => if_neg hsmall
    refine ⟨root, ⟨fun passes => ?_, fun passes hpasses => ?_, fun passes r hr => ?_⟩, hroot⟩
    · rw [heq]
      exact hleaves.runs passes
    · rw [heq]
      exact hleaves.left passes (by omega)
    · rw [heq] at hr
      exact hleaves.unique hr

/-- **`integer_sqrt` is the floor of the root.** For every word no operation leaves the words, 33 passes are
enough, and the value is the same however many there are. -/
theorem integerSqrt_floor (value : UInt64) : ∃ root : UInt64,
    (∀ passes, integerSqrt passes value ≠ .stopped) ∧
    (∀ passes, 33 ≤ passes → integerSqrt passes value = .left root) ∧
    (∀ passes r, integerSqrt passes value = .left r → r = root) ∧
    root.toNat ^ 2 ≤ value.toNat ∧ value.toNat < (root.toNat + 1) ^ 2 := by
  obtain ⟨root, h, hroot⟩ := exists_root value
  refine ⟨root, h.runs, h.left, h.unique, ?_, ?_⟩
  · rw [hroot]
    exact Nat.sqrt_le' _
  · rw [hroot]
    exact Nat.lt_succ_sqrt' _

/-- The last word: the search ends at its upper end. -/
example : integerSqrt 33 0xFFFFFFFFFFFFFFFF = .left 0xFFFFFFFF := by decide +kernel

/-! ## The test -/

/-- `u64::try_from(v).expect(..)` -/
def toU64 (v : Int) : Option UInt64 := if 0 ≤ v ∧ v < 2 ^ 64 then some (UInt64.ofNat v.toNat) else none

/-- The square of the distance from the mean.
mirrors evertrace-engine/src/segmentation/detector.rs:424-428 -/
def squaredDelta (mean : UInt64) (value : UInt32) : Option UInt64 := do
  let delta ← checkedSub 64 value.toNat (← checked 64 mean.toNat)
  toU64 (← checkedMul 64 delta delta)

/-- mirrors evertrace-engine/src/segmentation/detector.rs:414-434 -/
def threshold (passes : Nat) (scores : List UInt32) : Option UInt64 := do
  let count ← toU64 scores.length
  let mean ← divU64 (← sumU64 (scores.map (·.toUInt64))) count
  let variance ← divU64 (← sumU64 (← scores.mapM (squaredDelta mean))) count
  addU64 mean (← mulU64 2 (← (integerSqrt passes variance).value?))

/-- mirrors evertrace-engine/src/segmentation/detector.rs:406-436 -/
def isStructuredSurprise (passes : Nat) (previous : Option BurstFeature) (scores : List UInt32)
    (feature : BurstFeature) : Option Bool :=
  match previous with
  | none => some false
  | some previous =>
    if scores.length < 4 then some false
    else do
      let score := UInt32.ofNat (previous.distance feature)
      return decide ((← threshold passes scores) < score.toUInt64)

theorem toU64_eq_some {v : Int} {c : UInt64} : toU64 v = some c ↔ (c.toNat : Int) = v := by
  have hc := c.toNat_lt
  unfold toU64
  split
  · next h =>
    rw [Option.some.injEq, ← UInt64.toNat_inj, UInt64.toNat_ofNat_of_lt' (show v.toNat < 2 ^ 64 by omega)]
    omega
  · next h =>
    simp only [reduceCtorEq, false_iff]
    omega

theorem toU64_natCast {n : Nat} (h : n < 2 ^ 64) : toU64 n = some (UInt64.ofNat n) :=
  toU64_eq_some.mpr (by rw [UInt64.toNat_ofNat_of_lt' h])

/-- How far apart two scores are, squared. -/
def squared (mean value : Nat) : Nat := ((value : Int) - mean).natAbs ^ 2

theorem squared_le {mean value : Nat} (hmean : mean ≤ 23) (hvalue : value ≤ 23) : squared mean value ≤ 23 ^ 2 :=
  Nat.pow_le_pow_left (by omega) 2

theorem squaredDelta_ok {mean : UInt64} {value : UInt32} (hmean : mean.toNat ≤ 23) (hvalue : value.toNat ≤ 23) :
    squaredDelta mean value = some (UInt64.ofNat (squared mean.toNat value.toNat)) := by
  have hfits : ∀ v : Int, -1000 ≤ v → v ≤ 1000 → Fits 64 v := by
    intro v hlow hhigh
    unfold Fits
    omega
  have hsquare : ((value.toNat : Int) - mean.toNat) * ((value.toNat : Int) - mean.toNat) =
      (squared mean.toNat value.toNat : Nat) := by
    rw [squared, pow_two, Nat.cast_mul, Int.natAbs_mul_self']
  have hbound := squared_le hmean hvalue
  unfold squaredDelta checkedSub checkedMul
  rw [checked_of_fits (hfits mean.toNat (by omega) (by omega)), Option.bind_eq_bind, Option.bind_some,
    checked_of_fits (hfits _ (by omega) (by omega)), Option.bind_some, hsquare,
    checked_of_fits (hfits _ (by omega) (by omega)), Option.bind_some, toU64_natCast (by omega)]

/-- No score is greater than the greatest distance, and the window bounds their number. -/
structure Small (scores : List Nat) : Prop where
  small : ∀ score ∈ scores, score ≤ 23
  few : scores.length ≤ 64

theorem sum_le_of_forall {values : List Nat} {bound : Nat} (h : ∀ v ∈ values, v ≤ bound) :
    values.sum ≤ bound * values.length := by
  rw [Nat.mul_comm]
  exact List.sum_le_card_nsmul values bound h

def average (values : List Nat) : Nat := values.sum / values.length

theorem average_le {values : List Nat} {bound : Nat} (h : ∀ v ∈ values, v ≤ bound) : average values ≤ bound := by
  have hsum := sum_le_of_forall h
  exact Nat.div_le_of_le_mul (by rw [Nat.mul_comm]; exact hsum)

theorem map_ofNat_toNat {values : List Nat} (h : ∀ v ∈ values, v < 2 ^ 64) :
    (values.map UInt64.ofNat).map UInt64.toNat = values := by
  rw [List.map_map]
  exact (List.map_congr_left fun v hv => UInt64.toNat_ofNat_of_lt' (h v hv)).trans (List.map_id _)

theorem average_ok {values : List Nat} {count : UInt64} {bound : Nat} (hsmall : ∀ v ∈ values, v ≤ bound)
    (hbound : bound < 2 ^ 32) (hlength : values.length < 2 ^ 32) (hcount : count.toNat = values.length)
    (hpos : 0 < values.length) :
    ∃ sum c, sumU64 (values.map UInt64.ofNat) = some sum ∧ divU64 sum count = some c ∧ c.toNat = average values := by
  have hwords := map_ofNat_toNat fun v hv => Nat.lt_of_le_of_lt (hsmall v hv) (show bound < 2 ^ 64 by omega)
  have hproduct := Nat.mul_lt_mul'' hbound hlength
  have hsum := sum_le_of_forall hsmall
  obtain ⟨sum, hsome, hvalue⟩ := exists_sumU64 (values.map UInt64.ofNat) (by rw [hwords]; omega)
  refine ⟨sum, sum / count, hsome, divU64_of_pos (by omega), ?_⟩
  rw [UInt64.toNat_div, hvalue, hwords, hcount, average]

theorem threshold_ok {scores : List UInt32} {values : List Nat} {passes : Nat}
    (hvalues : scores.map UInt32.toNat = values) (h : Small values) (hmany : 4 ≤ values.length)
    (hpasses : 33 ≤ passes) :
    ∃ c, threshold passes scores = some c ∧
      c.toNat = average values + 2 * (average (values.map (squared (average values)))).sqrt := by
  have hlength : scores.length = values.length := by rw [← hvalues, List.length_map]
  have hfew := h.few
  have hcount : (UInt64.ofNat scores.length).toNat = values.length := by
    rw [hlength]
    exact UInt64.toNat_ofNat_of_lt' (show values.length < 2 ^ 64 by omega)
  -- the mean
  have hmean := average_le h.small
  obtain ⟨sum, mean, hsum, hmeansome, hmeanvalue⟩ :=
    average_ok h.small (by omega) (by omega) hcount (by omega)
  have hscores : scores.map UInt32.toUInt64 = values.map UInt64.ofNat := by
    rw [← hvalues, List.map_map]
    exact List.map_congr_left fun score _ => (UInt64.ofNat_uInt32ToNat score).symm
  -- the variance
  have hsquares : ∀ v ∈ values.map (squared (average values)), v ≤ 23 ^ 2 := by
    intro v hv
    obtain ⟨score, hscore, rfl⟩ := List.mem_map.mp hv
    exact squared_le hmean (h.small score hscore)
  have hdeltas : scores.mapM (squaredDelta mean) = some ((values.map (squared (average values))).map UInt64.ofNat) := by
    rw [← hvalues, List.map_map, List.map_map, hvalues, ← hmeanvalue]
    refine mapM_some_of_forall fun score hscore => squaredDelta_ok (by omega) (h.small _ ?_)
    rw [← hvalues]
    exact List.mem_map_of_mem hscore
  have hvariance := average_le hsquares
  obtain ⟨total, variance, htotal, hvariancesome, hvariancevalue⟩ :=
    average_ok hsquares (by omega) (by rw [List.length_map]; omega) (hcount.trans (List.length_map _).symm)
      (by rw [List.length_map]; omega)
  -- the root is no greater than the variance
  obtain ⟨root, hroot, hrootvalue⟩ := exists_root variance
  have hrootle := Nat.sqrt_le_self variance.toNat
  have htwo : (2 : UInt64).toNat = 2 := rfl
  obtain ⟨double, hdouble, hdoublevalue⟩ := exists_mulU64 (a := 2) (b := root) (by rw [htwo]; omega)
  obtain ⟨c, hc, hcvalue⟩ := exists_addU64 (a := mean) (b := double) (by rw [hdoublevalue, htwo]; omega)
  refine ⟨c, ?_, ?_⟩
  · have hcountsome : toU64 scores.length = some (UInt64.ofNat scores.length) := toU64_natCast (by omega)
    have hleft := hroot.left passes hpasses
    simp only [threshold, hcountsome, hscores, hsum, hmeansome, hdeltas, htotal, hvariancesome, hleft,
      LoopState.value?, hdouble, hc, Option.bind_eq_bind, Option.bind_some]
  · rw [hcvalue, hdoublevalue, hmeanvalue, hrootvalue, hvariancevalue, htwo]

end Word

/-! ## The detector -/

theorem BurstFeature.distance_le (f g : BurstFeature) : f.distance g ≤ 23 := by
  have hweigh : ∀ differs weight, weigh differs weight ≤ weight := by
    intro differs weight
    cases differs <;> simp [weigh]
  unfold BurstFeature.distance
  have h₁ := hweigh (f.operationKind != g.operationKind) 3
  have h₂ := hweigh (f.targetRefs != g.targetRefs) 3
  have h₃ := hweigh (f.targetFamily != g.targetFamily) 3
  have h₄ := hweigh (f.errorSignature != g.errorSignature) 3
  have h₅ := hweigh (f.verifier != g.verifier) 4
  have h₆ := hweigh (f.stateDelta != g.stateDelta) 3
  have h₇ := hweigh (f.phaseCandidate != g.phaseCandidate) 4
  omega

namespace SegmentationDetector

/-- The test as the code computes it. -/
def isStructuredSurpriseOnWords (d : SegmentationDetector) (passes : Nat) (feature : BurstFeature) : Option Bool :=
  Word.isStructuredSurprise passes (d.rolling.getLast?.map (·.feature)) (d.surpriseScores.map UInt32.ofNat) feature

theorem map_toNat_ofNat {values : List Nat} (h : ∀ v ∈ values, v ≤ 23) :
    (values.map UInt32.ofNat).map UInt32.toNat = values := by
  rw [List.map_map]
  refine (List.map_congr_left fun v hv => UInt32.toNat_ofNat_of_lt' ?_).trans (List.map_id _)
  exact Nat.lt_of_le_of_lt (h v hv) (by decide)

/-- The detector's threshold, with the root as what it is. -/
theorem threshold_eq {values : List Nat} (h : Word.Small values) :
    values.sum / values.length + 2 * integerSqrt ((values.map fun value =>
        ((value : Int) - (values.sum / values.length : Nat)).natAbs ^ 2).sum / values.length) =
      Word.average values + 2 * (Word.average (values.map (Word.squared (Word.average values)))).sqrt := by
  have hsquares : ∀ v ∈ values.map (Word.squared (Word.average values)), v ≤ 23 ^ 2 := by
    intro v hv
    obtain ⟨score, hscore, rfl⟩ := List.mem_map.mp hv
    exact Word.squared_le (Word.average_le h.small) (h.small score hscore)
  have hvariance := Word.average_le hsquares
  have hsame : (values.map fun value => ((value : Int) - (values.sum / values.length : Nat)).natAbs ^ 2).sum
      / values.length = Word.average (values.map (Word.squared (Word.average values))) := by
    unfold Word.average
    rw [List.length_map]
    have hcast : (do let value ← values; pure (value : Int)) = values.map fun value : Nat => (value : Int) :=
      List.map_eq_flatMap.symm
    rw [hcast, List.map_map]
    rfl
  rw [hsame, integerSqrt_eq (by omega)]
  rfl

/-- With small scores the test never stops, and it is the detector's. -/
theorem isStructuredSurprise_ok {d : SegmentationDetector} {passes : Nat} (h : Word.Small d.surpriseScores)
    (hpasses : 33 ≤ passes) (feature : BurstFeature) :
    d.isStructuredSurpriseOnWords passes feature = some (d.isStructuredSurprise feature) := by
  unfold isStructuredSurpriseOnWords Word.isStructuredSurprise isStructuredSurprise
  cases d.rolling.getLast? with
  | none => rfl
  | some previous =>
    simp only [Option.map_some, List.length_map]
    split
    · rfl
    · next hmany =>
      obtain ⟨c, hc, hcvalue⟩ := Word.threshold_ok (map_toNat_ofNat h.small) h (by omega) hpasses
      have hdistance := previous.feature.distance_le feature
      have hscore : (UInt32.ofNat (previous.feature.distance feature)).toUInt64.toNat =
          previous.feature.distance feature := by
        rw [UInt32.toNat_toUInt64]
        exact UInt32.toNat_ofNat_of_lt' (show _ < 2 ^ 32 by omega)
      rw [hc, threshold_eq h, ← hcvalue]
      show some (decide _) = some (decide _)
      simp only [UInt64.lt_iff_toNat_lt, hscore]

/-- No score exceeds the greatest distance, and the window holds at most 64 features. -/
structure Bounded (d : SegmentationDetector) : Prop where
  scores : Word.Small d.surpriseScores
  window : d.rolling.length ≤ 64

theorem empty_bounded (episode : WorkEpisode) : (empty episode).Bounded :=
  ⟨⟨by simp [empty], by simp [empty]⟩, by simp [empty]⟩

theorem recordFeature_bounded {d : SegmentationDetector} (h : d.Bounded) (burst : OperationBurst) :
    (d.recordFeature burst).Bounded := by
  have hwindow := h.window
  have hrolling : (d.recordFeature burst).rolling.length ≤ 64 ∧ 1 ≤ (d.recordFeature burst).rolling.length := by
    simp only [recordFeature]
    split <;> simp only [List.length_drop, List.length_append, List.length_singleton] at * <;> omega
  refine ⟨⟨fun score hscore => ?_, ?_⟩, hrolling.1⟩
  · simp only [recordFeature] at hscore
    have hmem := List.mem_of_mem_drop hscore
    split at hmem
    · next previous _ =>
      rcases List.mem_append.mp hmem with hold | hnew
      · exact h.scores.small score hold
      · rw [List.mem_singleton.mp hnew]
        exact previous.feature.distance_le _
    · exact h.scores.small score hmem
  · -- fewer scores than features are left
    simp only [recordFeature, List.length_drop] at hrolling ⊢
    omega

/-- The detectors of the program: started, restored or pushed further. -/
inductive Reached : SegmentationDetector → Prop
  | new {episode : WorkEpisode} {d : SegmentationDetector} (hnew : new episode = .ok d) : Reached d
  | restore {episode : WorkEpisode} {bursts : List OperationBurst} {d : SegmentationDetector}
      (hrestore : restore episode bursts = .ok d) : Reached d
  | push {d d' : SegmentationDetector} {token : ActivityToken} {burst : BurstFoldUpdate} {u : DetectorUpdate}
      (hd : Reached d) (hpush : d.push token burst = .ok (u, d')) : Reached d'

theorem restore_bounded {episode : WorkEpisode} {bursts : List OperationBurst} {d : SegmentationDetector}
    (h : restore episode bursts = .ok d) : d.Bounded := by
  unfold restore at h
  simp only [bind_eq_ok] at h
  obtain ⟨-, -, h⟩ := h
  obtain ⟨-, h⟩ := ite_error_else.mp h
  simp only [bind_eq_ok] at h
  obtain ⟨replayed, hreplayed, h⟩ := h
  have hbounded : replayed.Bounded := by
    refine foldlM_inv hreplayed (empty_bounded episode) fun burst _ d d' hburst hd => ?_
    unfold restoreBurst at hburst
    simp only [bind_eq_ok, pure_eq_ok] at hburst
    obtain ⟨last, -, rfl⟩ := hburst
    have hrecorded := recordFeature_bounded hd burst
    exact ⟨hrecorded.scores, hrecorded.window⟩
  -- what follows sets other fields only
  split at h
  · simp only [bind_eq_ok, pure_eq_ok] at h
    obtain ⟨candidate, -, rfl⟩ := h
    exact ⟨hbounded.scores, hbounded.window⟩
  · cases h
    exact ⟨hbounded.scores, hbounded.window⟩

theorem push_bounded {d d' : SegmentationDetector} {token : ActivityToken} {burst : BurstFoldUpdate}
    {u : DetectorUpdate} (hd : d.Bounded) (h : d.push token burst = .ok (u, d')) : d'.Bounded := by
  by_cases hstream : token.workstreamId = d.workstreamId
  · obtain ⟨-, -, candidate, status, confirmation, _, _, _, -, -, rfl⟩ := push_ok hstream h
    have hadvance : (d.advance token candidate status confirmation).Bounded := ⟨hd.scores, hd.window⟩
    split
    · exact recordFeature_bounded hadvance burst.current
    · exact hadvance
  · -- a switch changes nothing
    unfold push at h
    obtain ⟨-, h⟩ := ite_error_else.mp h
    rw [if_pos (by simpa using hstream)] at h
    rw [← (Prod.mk.inj (Except.ok.inj h)).2]
    exact hd

theorem Reached.bounded {d : SegmentationDetector} (h : Reached d) : d.Bounded := by
  induction h with
  | @new episode d hnew =>
    unfold SegmentationDetector.new at hnew
    simp only [bind_eq_ok] at hnew
    obtain ⟨-, -, hnew⟩ := hnew
    obtain ⟨-, hnew⟩ := ite_error_else.mp hnew
    cases hnew
    exact empty_bounded episode
  | restore hrestore => exact restore_bounded hrestore
  | push hd hpush ih => exact push_bounded ih hpush

/-- **On every run the surprise test stays within the words**, and it is the test of the model. -/
theorem surprise_on_words {d : SegmentationDetector} (h : Reached d) (passes : Nat) (hpasses : 33 ≤ passes)
    (feature : BurstFeature) :
    d.isStructuredSurpriseOnWords passes feature = some (d.isStructuredSurprise feature) :=
  isStructuredSurprise_ok h.bounded.scores hpasses feature

theorem Run.reached {episode : WorkEpisode} {past : Past} {d : SegmentationDetector} (h : Run episode past d) :
    Reached d := by
  induction h with
  | start hnew => exact .new hnew
  | push hrun hpush ih => exact .push ih hpush

/-- A detector that two tokens brought to a confirmed boundary. -/
theorem surprise_on_words_confirmed : ∃ d : SegmentationDetector, d.boundaryStatus = .confirmed ∧
    ∀ feature, d.isStructuredSurpriseOnWords 33 feature = some (d.isStructuredSurprise feature) := by
  obtain ⟨d, u, d', hrun, hpush, -, hconfirmed⟩ := sample_confirms
  exact ⟨d', hconfirmed, surprise_on_words (.push hrun.reached hpush) 33 (by decide)⟩

end SegmentationDetector

end EverTrace.L2.Segmentation
