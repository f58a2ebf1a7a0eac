import EverTrace.L1Encoding.Ids
import EverTrace.Lib.Checked
import EverTrace.Lib.Decimal
/-!
# Metric deltas (`evertrace-domain/src/procedure/effect.rs`)

`classify_metric_delta` reads four decimal texts, the two measured values and
the two thresholds of the binding, brings them to a common number of places and
compares whole numbers of 128 bits. There is no rounding: what does not fit
gives no answer.

**Results.** Some answer is the one of exact rational arithmetic, so it depends
on the values and not on their spelling (`classifyMetricDelta_spec`). No answer
means that a text is not a decimal, that a value on the way leaves the range of
`i128`, or that a text has 2^32 or more digits after the point: the number of
places is a `u32`, and that limit is met by texts of zeros whose numbers all fit
(`places_overflow`).
-/
namespace EverTrace.L2.Procedure
open EverTrace.Lib EverTrace.L1

/-- mirrors evertrace-domain/src/work/autoresearch.rs:206-209 -/
inductive MetricDirection where
  | higherIsBetter
  | lowerIsBetter
  deriving DecidableEq

/-- mirrors evertrace-domain/src/work/autoresearch.rs:213-225 -/
structure ComparisonExecutionBinding where
  bindingVersion : Nat
  toolchainRevision : String
  modelRevision : String
  harnessRevision : String
  algorithmRevision : String
  budget : Nat
  procedureExposureRevisionId : Option RevisionId
  metricDirection : MetricDirection
  metricUnit : String
  positiveDeltaThreshold : String
  negativeDeltaThreshold : String
  deriving DecidableEq

/-- mirrors evertrace-domain/src/procedure/effect.rs:233-238 -/
inductive MetricDeltaDirection where
  | positive
  | negative
  | neutral
  deriving DecidableEq

/-- mirrors evertrace-domain/src/procedure/effect.rs:275-279 -/
structure ExactDecimal where
  coefficient : Int
  scale : Nat
  deriving DecidableEq

/-- mirrors `strip_prefix('-')` with its default, effect.rs:283-285 -/
def stripMinus : List Char → Bool × List Char
  | '-' :: rest => (true, rest)
  | value => (false, value)

/-- The digits have passed the test for ASCII digits where their bytes are read,
so a character is a byte here.
mirrors evertrace-domain/src/procedure/effect.rs:282-313 -/
def ExactDecimal.parse (value : String) : Option ExactDecimal := do
  let (negative, digits) := stripMinus value.toList
  let parts := digits.splitOn '.'
  let whole ← parts[0]?
  let fraction := parts[1]?
  if whole.isEmpty || parts[2]?.isSome || fraction.any List.isEmpty then none
  else
    let fraction := fraction.getD []
    if !(whole ++ fraction).all Char.isDigit then none
    else
      let coefficient ← readDigits 128 ((whole ++ fraction).map fun c => c.toNat - '0'.toNat)
      let signed ← if negative then checkedNeg 128 coefficient else some coefficient
      if fraction.length < 2 ^ 32 then some { coefficient := signed, scale := fraction.length } else none

/-- mirrors evertrace-domain/src/procedure/effect.rs:316-319 -/
def ExactDecimal.scaled (n : ExactDecimal) (target : Nat) : Option Int := do
  if n.scale ≤ target then checkedMul 128 n.coefficient (← checkedPow 128 10 (target - n.scale)) else none

/-- mirrors evertrace-domain/src/procedure/effect.rs:246-273 -/
def classifyMetricDelta (binding : ComparisonExecutionBinding) (procedure control : String) :
    Option MetricDeltaDirection := do
  let procedure ← ExactDecimal.parse procedure
  let control ← ExactDecimal.parse control
  let positive ← ExactDecimal.parse binding.positiveDeltaThreshold
  let negative ← ExactDecimal.parse binding.negativeDeltaThreshold
  let common := max (max (max procedure.scale control.scale) positive.scale) negative.scale
  let procedure ← procedure.scaled common
  let control ← control.scaled common
  let positive ← positive.scaled common
  let negative ← negative.scaled common
  let delta ← match binding.metricDirection with
    | .higherIsBetter => checkedSub 128 procedure control
    | .lowerIsBetter => checkedSub 128 control procedure
  if positive ≤ delta then some .positive
  else
    let bound ← checkedNeg 128 negative
    some (if delta ≤ bound then .negative else .neutral)

/-! ## Reading one number -/

def Spells (value : String) (n : Decimal) : Prop := value.toList = n.text

theorem stripMinus_text (n : Decimal) :
    stripMinus n.text = (n.negative, n.whole.map Decimal.digitChar
      ++ if n.fraction = [] then [] else '.' :: n.fraction.map Decimal.digitChar) := by
  unfold Decimal.text
  cases hneg : n.negative with
  | true => rfl
  | false =>
    cases hw : n.whole with
    | nil => exact absurd hw n.hwhole
    | cons d ds =>
      simp only [Bool.false_eq_true, if_false, List.nil_append, List.map_cons, List.cons_append]
      unfold stripMinus
      split
      · next heq => exact absurd (List.cons.inj heq).1 (Decimal.digitChar_ne_minus d)
      · rfl

theorem stripMinus_append (value : List Char) :
    value = (if (stripMinus value).1 then ['-'] else []) ++ (stripMinus value).2 := by
  unfold stripMinus
  split <;> rfl

theorem digitChar_values (ds : List (Fin 10)) :
    (ds.map Decimal.digitChar).map (fun c => c.toNat - '0'.toNat) = ds.map Fin.val := by
  rw [List.map_map]
  refine List.map_congr_left fun d _ => ?_
  have h := Decimal.digitChar_toNat d
  have hzero : '0'.toNat = 48 := rfl
  simp only [Function.comp_apply]
  omega

theorem all_digitChar (ds : List (Fin 10)) : (ds.map Decimal.digitChar).all Char.isDigit = true := by
  simp only [List.all_map, List.all_eq_true]
  exact fun d _ => Decimal.digitChar_isDigit d

/-- The pieces around the point. -/
theorem pieces_text (n : Decimal) :
    (n.whole.map Decimal.digitChar ++ if n.fraction = [] then [] else '.' :: n.fraction.map Decimal.digitChar).splitOn '.'
      = n.whole.map Decimal.digitChar :: if n.fraction = [] then [] else [n.fraction.map Decimal.digitChar] := by
  by_cases hf : n.fraction = []
  · rw [if_pos hf, if_pos hf, List.append_nil]
    exact List.splitOn_eq_singleton (Decimal.point_notMem _)
  · rw [if_neg hf, if_neg hf, List.splitOn_append_cons_self_of_not_mem (Decimal.point_notMem _),
      List.splitOn_eq_singleton (Decimal.point_notMem _)]

theorem parse_eq_some {value : String} {n : Decimal} (h : Spells value n) {e : ExactDecimal} :
    ExactDecimal.parse value = some e ↔
      Fits 128 n.magnitude ∧ n.places < 2 ^ 32 ∧ e = { coefficient := n.coefficient, scale := n.places } := by
  have hwhole : (n.whole.map Decimal.digitChar).isEmpty = false := by
    cases hw : n.whole with
    | nil => exact absurd hw n.hwhole
    | cons d ds => rfl
  have hfraction : (if n.fraction = [] then ([] : List (List Char)) else [n.fraction.map Decimal.digitChar])[0]?.getD []
      = n.fraction.map Decimal.digitChar := by
    by_cases hf : n.fraction = [] <;> simp [hf]
  have hempty : (if n.fraction = [] then ([] : List (List Char)) else [n.fraction.map Decimal.digitChar])[0]?.any
      List.isEmpty = false := by
    by_cases hf : n.fraction = [] <;> simp [hf]
  have hthird : (if n.fraction = [] then ([] : List (List Char)) else [n.fraction.map Decimal.digitChar])[1]? = none := by
    by_cases hf : n.fraction = [] <;> simp [hf]
  have hread : readDigits 128 (((n.whole.map Decimal.digitChar) ++ n.fraction.map Decimal.digitChar).map
      fun c => c.toNat - '0'.toNat) = checked 128 n.magnitude := by
    rw [← List.map_append, digitChar_values, readDigits_eq]
    rfl
  have hall : (n.whole.map Decimal.digitChar ++ n.fraction.map Decimal.digitChar).all Char.isDigit = true := by
    rw [← List.map_append]
    exact all_digitChar _
  unfold ExactDecimal.parse
  rw [h, stripMinus_text]
  simp only [pieces_text, List.getElem?_cons_zero, List.getElem?_cons_succ, Option.bind_eq_bind, Option.bind_some,
    hwhole, hempty, hthird, hfraction, hall, hread, Option.isSome_none, Bool.or_false, Bool.false_eq_true, if_false,
    Bool.not_true]
  have hlength : (n.fraction.map Decimal.digitChar).length = n.places := List.length_map _
  rw [hlength]
  by_cases hfits : Fits 128 n.magnitude
  · have hneg : Fits 128 (-(n.magnitude : Int)) := Fits.neg (Int.natCast_nonneg _) hfits
    rw [checked_of_fits hfits]
    cases hsign : n.negative <;> simp [checkedNeg, checked_of_fits hneg, hfits, hsign, Decimal.coefficient, eq_comm]
  · rw [checked_eq_none.mpr hfits]
    simp [hfits]

theorem spells_of_parse {value : String} {e : ExactDecimal} (h : ExactDecimal.parse value = some e) :
    ∃ n, Spells value n := by
  unfold ExactDecimal.parse at h
  have happ := stripMinus_append value.toList
  generalize stripMinus value.toList = stripped at h happ
  obtain ⟨negative, digits⟩ := stripped
  simp only [Option.bind_eq_bind, Option.bind_eq_some_iff] at h
  obtain ⟨whole, hpart, h⟩ := h
  have hjoin : ['.'].intercalate (digits.splitOn '.') = digits := List.intercalate_splitOn '.'
  cases hparts : digits.splitOn '.' with
  | nil => exact absurd hparts (List.splitOn_ne_nil _ _)
  | cons first rest =>
    rw [hparts] at hpart h hjoin
    obtain rfl : first = whole := by simpa using hpart
    split at h
    · cases h
    next hshape =>
    split at h
    · cases h
    next hdigits =>
    simp only [Bool.or_eq_true, not_or, Bool.not_eq_true, List.isEmpty_eq_false_iff] at hshape
    simp only [Bool.not_eq_true', Bool.not_eq_false, List.all_append, Bool.and_eq_true, List.all_eq_true] at hdigits
    obtain ⟨w, rfl⟩ := Decimal.exists_map_digitChar hdigits.1
    have hw : w ≠ [] := fun h => hshape.1.1 (by rw [h]; rfl)
    cases rest with
    | nil =>
      refine ⟨{ negative := negative, whole := w, fraction := [], hwhole := hw }, ?_⟩
      rw [Spells, happ, ← hjoin]
      simp [Decimal.text]
    | cons second others =>
      obtain ⟨f, rfl⟩ := Decimal.exists_map_digitChar hdigits.2
      have hf : f ≠ [] := by
        intro h
        simp [h] at hshape
      cases others with
      | cons third more => simp at hshape
      | nil =>
        refine ⟨{ negative := negative, whole := w, fraction := f, hwhole := hw }, ?_⟩
        rw [Spells, happ, ← hjoin]
        simp [Decimal.text, hf]

theorem scaled_eq_some {n : Decimal} {target : Nat} (h : n.places ≤ target) {u : Int} :
    ExactDecimal.scaled { coefficient := n.coefficient, scale := n.places } target = some u ↔
      Fits 128 (10 ^ (target - n.places)) ∧ Fits 128 (n.unitsAt target) ∧ u = n.unitsAt target := by
  unfold ExactDecimal.scaled
  rw [if_pos h]
  simp only [checkedPow, checkedMul, Option.bind_eq_bind, Option.bind_eq_some_iff, checked_eq_some]
  refine ⟨?_, fun ⟨hpow, hunits, hu⟩ => ⟨_, ⟨hpow, rfl⟩, hunits, hu.symm⟩⟩
  rintro ⟨_, ⟨hpow, rfl⟩, hunits, rfl⟩
  exact ⟨hpow, hunits, rfl⟩

/-! ## The exact answer -/

/-- The four numbers of a classification. -/
structure Measured where
  procedure : Decimal
  control : Decimal
  positive : Decimal
  negative : Decimal

namespace Measured

/-- The numbers are the ones that the texts spell. -/
def Of (binding : ComparisonExecutionBinding) (procedure control : String) (m : Measured) : Prop :=
  Spells procedure m.procedure ∧ Spells control m.control ∧ Spells binding.positiveDeltaThreshold m.positive
    ∧ Spells binding.negativeDeltaThreshold m.negative

def numbers (m : Measured) : List Decimal := [m.procedure, m.control, m.positive, m.negative]

def places (m : Measured) : Nat :=
  max (max (max m.procedure.places m.control.places) m.positive.places) m.negative.places

def delta (m : Measured) : MetricDirection → ℚ
  | .higherIsBetter => m.procedure.value - m.control.value
  | .lowerIsBetter => m.control.value - m.procedure.value

/-- The answer of exact rational arithmetic. -/
def classify (m : Measured) (direction : MetricDirection) : MetricDeltaDirection :=
  if m.positive.value ≤ m.delta direction then .positive
  else if m.delta direction ≤ -m.negative.value then .negative
  else .neutral

def deltaUnits (m : Measured) : MetricDirection → Int
  | .higherIsBetter => m.procedure.unitsAt m.places - m.control.unitsAt m.places
  | .lowerIsBetter => m.control.unitsAt m.places - m.procedure.unitsAt m.places

/-- The values on the way, each as it is exactly: what the digits of a number
stand for, the number with its sign, the power that brings it to the common
places, the number there, the difference and the bound it is compared with. -/
def steps (m : Measured) (direction : MetricDirection) : List Int :=
  (m.numbers.flatMap fun n =>
    [(n.magnitude : Int), n.coefficient, 10 ^ (m.places - n.places), n.unitsAt m.places])
    ++ [m.deltaUnits direction]
    ++ if m.positive.unitsAt m.places ≤ m.deltaUnits direction then [] else [-m.negative.unitsAt m.places]

/-- Every value on the way fits, and so does every number of places. -/
def InRange (m : Measured) (direction : MetricDirection) : Prop :=
  (∀ v ∈ m.steps direction, Fits 128 v) ∧ ∀ n ∈ m.numbers, n.places < 2 ^ 32

variable {m : Measured}

theorem le_places {n : Decimal} (h : n ∈ m.numbers) : n.places ≤ m.places := by
  simp only [numbers, List.mem_cons, List.not_mem_nil, or_false] at h
  unfold places
  rcases h with rfl | rfl | rfl | rfl <;> omega

theorem deltaUnits_eq (direction : MetricDirection) :
    ((m.deltaUnits direction : Int) : ℚ) = m.delta direction * 10 ^ m.places := by
  have hp := m.procedure.unitsAt_eq (le_places (m := m) (by simp [numbers]))
  have hc := m.control.unitsAt_eq (le_places (m := m) (by simp [numbers]))
  cases direction <;> simp only [deltaUnits, delta, Int.cast_sub, hp, hc] <;> ring

/-- At the common number of places the comparisons are the exact ones. -/
theorem classify_eq (direction : MetricDirection) :
    m.classify direction =
      if m.positive.unitsAt m.places ≤ m.deltaUnits direction then .positive
      else if m.deltaUnits direction ≤ -m.negative.unitsAt m.places then .negative
      else .neutral := by
  have hpos : (0 : ℚ) < 10 ^ m.places := by positivity
  have hd := deltaUnits_eq (m := m) direction
  have hp := m.positive.unitsAt_eq (le_places (m := m) (by simp [numbers]))
  have hn := m.negative.unitsAt_eq (le_places (m := m) (by simp [numbers]))
  have hpositive : m.positive.unitsAt m.places ≤ m.deltaUnits direction ↔ m.positive.value ≤ m.delta direction := by
    rw [← Int.cast_le (R := ℚ), hp, hd, mul_le_mul_iff_of_pos_right hpos]
  have hnegative : m.deltaUnits direction ≤ -m.negative.unitsAt m.places ↔
      m.delta direction ≤ -m.negative.value := by
    rw [← Int.cast_le (R := ℚ), Int.cast_neg, hn, hd, ← neg_mul, mul_le_mul_iff_of_pos_right hpos]
  simp only [classify, hpositive, hnegative]

/-- The conditions that one number has to meet. -/
def NumberInRange (m : Measured) (n : Decimal) : Prop :=
  (Fits 128 n.magnitude ∧ n.places < 2 ^ 32) ∧ Fits 128 (10 ^ (m.places - n.places)) ∧ Fits 128 (n.unitsAt m.places)

theorem inRange_iff (direction : MetricDirection) :
    m.InRange direction ↔ (∀ n ∈ m.numbers, m.NumberInRange n) ∧ Fits 128 (m.deltaUnits direction) ∧
      (¬m.positive.unitsAt m.places ≤ m.deltaUnits direction → Fits 128 (-m.negative.unitsAt m.places)) := by
  have hcoefficient : ∀ n : Decimal, Fits 128 n.magnitude → Fits 128 n.coefficient := by
    intro n hn
    unfold Decimal.coefficient
    split
    · exact hn.neg (Int.natCast_nonneg _)
    · exact hn
  have hbound : (∀ v ∈ (if m.positive.unitsAt m.places ≤ m.deltaUnits direction then []
      else [-m.negative.unitsAt m.places]), Fits 128 v) ↔
      (¬m.positive.unitsAt m.places ≤ m.deltaUnits direction → Fits 128 (-m.negative.unitsAt m.places)) := by
    split <;> simp_all
  unfold InRange steps
  rw [List.forall_mem_append, List.forall_mem_append, hbound]
  simp only [List.mem_flatMap, forall_exists_index, and_imp, List.mem_singleton, forall_eq]
  constructor
  · rintro ⟨⟨⟨hnumbers, hdelta⟩, hbound⟩, hplaces⟩
    refine ⟨fun n hn => ⟨⟨hnumbers _ n hn (by simp), hplaces n hn⟩, hnumbers _ n hn (by simp),
      hnumbers _ n hn (by simp)⟩, hdelta, hbound⟩
  · rintro ⟨hnumbers, hdelta, hbound⟩
    refine ⟨⟨⟨fun v n hn hv => ?_, hdelta⟩, hbound⟩, fun n hn => (hnumbers n hn).1.2⟩
    obtain ⟨⟨hmagnitude, -⟩, hpow, hunits⟩ := hnumbers n hn
    simp only [List.mem_cons, List.not_mem_nil, or_false] at hv
    rcases hv with rfl | rfl | rfl | rfl
    · exact hmagnitude
    · exact hcoefficient n hmagnitude
    · exact hpow
    · exact hunits

end Measured

/-- The comparison with the two thresholds, once the difference is there. -/
theorem compare_eq_some {delta positive negative : Int} {d : MetricDeltaDirection} :
    ((checked 128 delta).bind fun delta =>
      if positive ≤ delta then some .positive
      else (checkedNeg 128 negative).bind fun bound => some (if delta ≤ bound then .negative else .neutral)) = some d ↔
      Fits 128 delta ∧ (¬positive ≤ delta → Fits 128 (-negative)) ∧
        d = if positive ≤ delta then .positive else if delta ≤ -negative then .negative else .neutral := by
  simp only [Option.bind_eq_some_iff, checked_eq_some]
  constructor
  · rintro ⟨_, ⟨hfits, rfl⟩, h⟩
    refine ⟨hfits, ?_⟩
    by_cases hpos : positive ≤ delta
    · simp_all
    · simp only [hpos, if_false, Option.bind_eq_some_iff, checkedNeg, checked_eq_some] at h ⊢
      obtain ⟨_, ⟨hneg, rfl⟩, hd⟩ := h
      exact ⟨fun _ => hneg, (Option.some.inj hd).symm⟩
  · rintro ⟨hfits, hneg, rfl⟩
    refine ⟨delta, ⟨hfits, rfl⟩, ?_⟩
    by_cases hpos : positive ≤ delta
    · simp [hpos]
    · simp [hpos, checkedNeg, checked_of_fits (hneg hpos)]

/-- What the classification answers when the four texts are decimals. -/
theorem classifyMetricDelta_eq_some {binding : ComparisonExecutionBinding} {procedure control : String} {m : Measured}
    (h : m.Of binding procedure control) {d : MetricDeltaDirection} :
    classifyMetricDelta binding procedure control = some d ↔
      m.InRange binding.metricDirection ∧ d = m.classify binding.metricDirection := by
  obtain ⟨hprocedure, hcontrol, hpositive, hnegative⟩ := h
  have hscaled : ∀ n ∈ m.numbers, ∀ u, ExactDecimal.scaled { coefficient := n.coefficient, scale := n.places }
      m.places = some u ↔ Fits 128 (10 ^ (m.places - n.places)) ∧ Fits 128 (n.unitsAt m.places)
        ∧ u = n.unitsAt m.places := fun n hn _ => scaled_eq_some (Measured.le_places hn)
  have hp := hscaled m.procedure (by simp [Measured.numbers])
  have hc := hscaled m.control (by simp [Measured.numbers])
  have hpos := hscaled m.positive (by simp [Measured.numbers])
  have hneg := hscaled m.negative (by simp [Measured.numbers])
  rw [Measured.inRange_iff, Measured.classify_eq]
  simp only [Measured.numbers, List.mem_cons, forall_eq_or_imp, List.not_mem_nil, false_imp_iff, implies_true, and_true,
    Measured.NumberInRange]
  unfold classifyMetricDelta
  constructor
  · intro h
    -- the four texts are read
    obtain ⟨_, h₁, h⟩ := Option.bind_eq_some_iff.mp h
    obtain ⟨hp₁, hp₂, rfl⟩ := (parse_eq_some hprocedure).mp h₁
    obtain ⟨_, h₂, h⟩ := Option.bind_eq_some_iff.mp h
    obtain ⟨hc₁, hc₂, rfl⟩ := (parse_eq_some hcontrol).mp h₂
    obtain ⟨_, h₃, h⟩ := Option.bind_eq_some_iff.mp h
    obtain ⟨hpos₁, hpos₂, rfl⟩ := (parse_eq_some hpositive).mp h₃
    obtain ⟨_, h₄, h⟩ := Option.bind_eq_some_iff.mp h
    obtain ⟨hneg₁, hneg₂, rfl⟩ := (parse_eq_some hnegative).mp h₄
    -- and brought to one scale
    obtain ⟨_, h₁, h⟩ := Option.bind_eq_some_iff.mp h
    obtain ⟨hp₃, hp₄, rfl⟩ := (hp _).mp h₁
    obtain ⟨_, h₂, h⟩ := Option.bind_eq_some_iff.mp h
    obtain ⟨hc₃, hc₄, rfl⟩ := (hc _).mp h₂
    obtain ⟨_, h₃, h⟩ := Option.bind_eq_some_iff.mp h
    obtain ⟨hpos₃, hpos₄, rfl⟩ := (hpos _).mp h₃
    obtain ⟨_, h₄, h⟩ := Option.bind_eq_some_iff.mp h
    obtain ⟨hneg₃, hneg₄, rfl⟩ := (hneg _).mp h₄
    have hanswer : Fits 128 (m.deltaUnits binding.metricDirection) ∧
        (¬m.positive.unitsAt m.places ≤ m.deltaUnits binding.metricDirection →
          Fits 128 (-m.negative.unitsAt m.places)) ∧
        d = if m.positive.unitsAt m.places ≤ m.deltaUnits binding.metricDirection then .positive
          else if m.deltaUnits binding.metricDirection ≤ -m.negative.unitsAt m.places then .negative else .neutral := by
      cases hdir : binding.metricDirection with
      | higherIsBetter => rw [hdir] at h; exact compare_eq_some.mp h
      | lowerIsBetter => rw [hdir] at h; exact compare_eq_some.mp h
    obtain ⟨hdelta, hbound, hd⟩ := hanswer
    exact ⟨⟨⟨⟨⟨hp₁, hp₂⟩, hp₃, hp₄⟩, ⟨⟨hc₁, hc₂⟩, hc₃, hc₄⟩, ⟨⟨hpos₁, hpos₂⟩, hpos₃, hpos₄⟩,
      ⟨hneg₁, hneg₂⟩, hneg₃, hneg₄⟩, hdelta, hbound⟩, hd⟩
  · rintro ⟨⟨⟨⟨⟨hp₁, hp₂⟩, hp₃, hp₄⟩, ⟨⟨hc₁, hc₂⟩, hc₃, hc₄⟩, ⟨⟨hpos₁, hpos₂⟩, hpos₃, hpos₄⟩, ⟨hneg₁, hneg₂⟩, hneg₃, hneg₄⟩,
      hdelta, hbound⟩, rfl⟩
    refine Option.bind_eq_some_iff.mpr ⟨_, (parse_eq_some hprocedure).mpr ⟨hp₁, hp₂, rfl⟩, ?_⟩
    refine Option.bind_eq_some_iff.mpr ⟨_, (parse_eq_some hcontrol).mpr ⟨hc₁, hc₂, rfl⟩, ?_⟩
    refine Option.bind_eq_some_iff.mpr ⟨_, (parse_eq_some hpositive).mpr ⟨hpos₁, hpos₂, rfl⟩, ?_⟩
    refine Option.bind_eq_some_iff.mpr ⟨_, (parse_eq_some hnegative).mpr ⟨hneg₁, hneg₂, rfl⟩, ?_⟩
    refine Option.bind_eq_some_iff.mpr ⟨_, (hp _).mpr ⟨hp₃, hp₄, rfl⟩, ?_⟩
    refine Option.bind_eq_some_iff.mpr ⟨_, (hc _).mpr ⟨hc₃, hc₄, rfl⟩, ?_⟩
    refine Option.bind_eq_some_iff.mpr ⟨_, (hpos _).mpr ⟨hpos₃, hpos₄, rfl⟩, ?_⟩
    refine Option.bind_eq_some_iff.mpr ⟨_, (hneg _).mpr ⟨hneg₃, hneg₄, rfl⟩, ?_⟩
    cases hdir : binding.metricDirection with
    | higherIsBetter => rw [hdir] at hdelta hbound; exact compare_eq_some.mpr ⟨hdelta, hbound, rfl⟩
    | lowerIsBetter => rw [hdir] at hdelta hbound; exact compare_eq_some.mpr ⟨hdelta, hbound, rfl⟩

/-- Without an answer something did not fit. -/
theorem classifyMetricDelta_eq_none {binding : ComparisonExecutionBinding} {procedure control : String} {m : Measured}
    (h : m.Of binding procedure control) :
    classifyMetricDelta binding procedure control = none ↔ ¬m.InRange binding.metricDirection := by
  constructor
  · intro hnone hrange
    rw [(classifyMetricDelta_eq_some h).mpr ⟨hrange, rfl⟩] at hnone
    cases hnone
  · intro hrange
    cases hd : classifyMetricDelta binding procedure control with
    | none => rfl
    | some d => exact absurd ((classifyMetricDelta_eq_some h).mp hd).1 hrange

theorem exists_measured {binding : ComparisonExecutionBinding} {procedure control : String} {d : MetricDeltaDirection}
    (h : classifyMetricDelta binding procedure control = some d) : ∃ m : Measured, m.Of binding procedure control := by
  unfold classifyMetricDelta at h
  obtain ⟨_, hp, h⟩ := Option.bind_eq_some_iff.mp h
  obtain ⟨_, hc, h⟩ := Option.bind_eq_some_iff.mp h
  obtain ⟨_, hpos, h⟩ := Option.bind_eq_some_iff.mp h
  obtain ⟨_, hneg, -⟩ := Option.bind_eq_some_iff.mp h
  obtain ⟨p, hp⟩ := spells_of_parse hp
  obtain ⟨c, hc⟩ := spells_of_parse hc
  obtain ⟨pos, hpos⟩ := spells_of_parse hpos
  obtain ⟨neg, hneg⟩ := spells_of_parse hneg
  exact ⟨{ procedure := p, control := c, positive := pos, negative := neg }, hp, hc, hpos, hneg⟩

/-- **The exact classification.** There is an answer for decimals only, and it is
the one of exact arithmetic, whatever the spelling. Without an answer a value on
the way leaves the range of 128 bits, or a number has 2^32 places or more. -/
theorem classifyMetricDelta_spec (binding : ComparisonExecutionBinding) (procedure control : String) :
    (classifyMetricDelta binding procedure control ≠ none → ∃ m : Measured, m.Of binding procedure control) ∧
    ∀ m : Measured, m.Of binding procedure control →
      (∀ d, classifyMetricDelta binding procedure control = some d → d = m.classify binding.metricDirection) ∧
      (classifyMetricDelta binding procedure control = none ↔
        (∃ v ∈ m.steps binding.metricDirection, ¬Fits 128 v) ∨ ∃ n ∈ m.numbers, 2 ^ 32 ≤ n.places) ∧
      ∀ (binding' : ComparisonExecutionBinding) (procedure' control' : String) (m' : Measured),
        m'.Of binding' procedure' control' → binding'.metricDirection = binding.metricDirection →
        m'.numbers.map Decimal.value = m.numbers.map Decimal.value →
        ∀ d d', classifyMetricDelta binding procedure control = some d →
          classifyMetricDelta binding' procedure' control' = some d' → d' = d := by
  refine ⟨fun h => ?_, fun m hm => ⟨fun d hd => ((classifyMetricDelta_eq_some hm).mp hd).2, ?_, ?_⟩⟩
  · obtain ⟨d, hd⟩ := Option.ne_none_iff_exists'.mp h
    exact exists_measured hd
  · rw [classifyMetricDelta_eq_none hm, Measured.InRange, not_and_or]
    simp only [not_forall, not_lt, exists_prop]
  · intro binding' procedure' control' m' hm' hdirection hvalues d d' hd hd'
    have hexact := ((classifyMetricDelta_eq_some hm).mp hd).2
    have hexact' := ((classifyMetricDelta_eq_some hm').mp hd').2
    simp only [Measured.numbers, List.map_cons, List.map_nil, List.cons.injEq, and_true] at hvalues
    obtain ⟨hp, hc, hpos, hneg⟩ := hvalues
    have hdelta : m'.delta binding.metricDirection = m.delta binding.metricDirection := by
      cases binding.metricDirection <;> simp only [Measured.delta, hp, hc]
    rw [hexact, hexact', hdirection]
    simp only [Measured.classify, hdelta, hpos, hneg]

/-! ## The limit on the number of places -/

def zeros (places : Nat) : Decimal where
  negative := false
  whole := [0]
  fraction := List.replicate places 0
  hwhole := by decide

def zerosText (places : Nat) : String := String.ofList (zeros places).text

def zerosBinding (places : Nat) : ComparisonExecutionBinding where
  bindingVersion := 1
  toolchainRevision := "toolchain-1"
  modelRevision := "model-1"
  harnessRevision := "harness-1"
  algorithmRevision := "algorithm-1"
  budget := 1
  procedureExposureRevisionId := none
  metricDirection := .higherIsBetter
  metricUnit := "points"
  positiveDeltaThreshold := zerosText places
  negativeDeltaThreshold := zerosText places

def zerosMeasured (places : Nat) : Measured :=
  { procedure := zeros places, control := zeros places, positive := zeros places, negative := zeros places }

theorem spells_zeros (places : Nat) : Spells (zerosText places) (zeros places) := String.toList_ofList

theorem places_zeros (places : Nat) : (zeros places).places = places := List.length_replicate

theorem magnitude_zeros (places : Nat) : (zeros places).magnitude = 0 := by
  have hdigits : (zeros places).digits = List.replicate (places + 1) 0 := by
    simp [zeros, Decimal.digits, List.replicate_succ]
  rw [Decimal.magnitude, hdigits, List.reverse_replicate]
  simp

theorem coefficient_zeros (places : Nat) : (zeros places).coefficient = 0 := by
  rw [Decimal.coefficient, magnitude_zeros]
  rfl

/-- However many zeros there are, every value on the way fits. -/
theorem steps_zeros (places : Nat) :
    ∀ v ∈ (zerosMeasured places).steps .higherIsBetter, Fits 128 v := by
  have hcommon : (zerosMeasured places).places = places := by
    simp [Measured.places, zerosMeasured, places_zeros]
  have hunits : (zeros places).unitsAt places = 0 := by
    rw [Decimal.unitsAt, coefficient_zeros, zero_mul]
  have hnumbers : (zerosMeasured places).numbers = [zeros places, zeros places, zeros places, zeros places] := rfl
  have hprocedure : (zerosMeasured places).procedure = zeros places := rfl
  have hcontrol : (zerosMeasured places).control = zeros places := rfl
  have hpositive : (zerosMeasured places).positive = zeros places := rfl
  have hone : Fits 128 1 := by decide
  intro v hv
  have hv : v = 0 ∨ v = 1 := by
    simp [Measured.steps, hnumbers, Measured.deltaUnits, hcommon, hprocedure, hcontrol, hpositive, magnitude_zeros,
      coefficient_zeros, places_zeros, hunits] at hv
    omega
  rcases hv with rfl | rfl
  · exact fits_zero 128
  · exact hone

/-- The claim without the limit on the places is false: four texts of zeros with
2^32 places each have no answer, and no value on the way leaves the range. -/
theorem places_overflow :
    ∃ (binding : ComparisonExecutionBinding) (procedure control : String) (m : Measured),
      m.Of binding procedure control ∧ classifyMetricDelta binding procedure control = none ∧
        ∀ v ∈ m.steps binding.metricDirection, Fits 128 v := by
  have hof : ∀ places, (zerosMeasured places).Of (zerosBinding places) (zerosText places) (zerosText places) :=
    fun places => ⟨spells_zeros _, spells_zeros _, spells_zeros _, spells_zeros _⟩
  refine ⟨zerosBinding (2 ^ 32), zerosText (2 ^ 32), zerosText (2 ^ 32), zerosMeasured (2 ^ 32), hof _, ?_, steps_zeros _⟩
  rw [classifyMetricDelta_eq_none (hof _)]
  intro hrange
  have hlt := hrange.2 (zeros (2 ^ 32)) List.mem_cons_self
  rw [places_zeros] at hlt
  exact lt_irrefl _ hlt

end EverTrace.L2.Procedure
