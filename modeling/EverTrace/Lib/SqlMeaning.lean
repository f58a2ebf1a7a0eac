import EverTrace.Lib.Kleene
import EverTrace.Lib.SqlCondition
import Mathlib.Data.String.Basic
/-!
# What an SQL condition says of a row

A condition has one of three values: a comparison with a missing value is unknown,
and the connectives are those of Kleene. Conditions that are put together hold
as their parts do, and are written as their parts are, with the connective between.
-/
namespace EverTrace.Lib.Sql

variable {κ : Type}

/-! ## Values -/

inductive Value where
  | text (text : String)
  | number (value : Int)
  deriving DecidableEq, Repr

def Scalar.value : Scalar → Value
  | .text value => .text value
  | .number value => .number value

def Comparison.holds {α : Type} [LinearOrder α] (comparison : Comparison) (a b : α) : Bool :=
  match comparison with
  | .eq => a = b
  | .ne => a ≠ b
  | .lt => a < b
  | .le => a ≤ b
  | .gt => b < a
  | .ge => b ≤ a

/-- Texts are compared with texts and numbers with numbers. -/
def Comparison.compare (comparison : Comparison) : Value → Value → Option Bool
  | .text a, .text b => some (comparison.holds a b)
  | .number a, .number b => some (comparison.holds a b)
  | _, _ => none

/-- A column that is `NULL` has no value. -/
abbrev Row (κ : Type) := κ → Option Value

open Kleene (both either)

def Atom.eval (row : Row κ) : Atom κ → Option Bool
  | .constant value => some value
  | .compare column comparison scalar => (row column).bind fun value => comparison.compare value scalar.value
  | .isNull column negated => some ((row column).isNone != negated)
  | .isIn column negated first rest =>
    let found := (first :: rest).foldr (fun scalar found =>
      either ((row column).bind fun value => Comparison.eq.compare value scalar.value) found) (some false)
    if negated then found.map not else found

mutual

def Factor.eval (row : Row κ) : Factor κ → Option Bool
  | .atom a => a.eval row
  | .brackets inner => inner.eval row

def Conjunction.eval (row : Row κ) : Conjunction κ → Option Bool
  | .single factor => factor.eval row
  | .and factor rest => both (factor.eval row) (rest.eval row)

def Disjunction.eval (row : Row κ) : Disjunction κ → Option Bool
  | .single conjunction => conjunction.eval row
  | .or conjunction rest => either (conjunction.eval row) (rest.eval row)

end

/-! ## Putting conditions together -/

def Conjunction.append : Conjunction κ → Conjunction κ → Conjunction κ
  | .single factor, more => .and factor more
  | .and factor rest, more => .and factor (rest.append more)

theorem Conjunction.text_append (S : Schema κ) : ∀ c more : Conjunction κ,
    (c.append more).text S = c.text S ++ (" AND ".toList ++ more.text S)
  | .single factor, more => by
    rw [Conjunction.append, Conjunction.text, Conjunction.text]
  | .and factor rest, more => by
    rw [Conjunction.append, Conjunction.text, Conjunction.text, Conjunction.text_append S rest more]
    simp only [List.append_assoc]

theorem Conjunction.eval_append {row : Row κ} : ∀ c more : Conjunction κ,
    (c.append more).eval row = some true ↔ c.eval row = some true ∧ more.eval row = some true
  | .single factor, more => by
    rw [Conjunction.append, Conjunction.eval, Conjunction.eval, Kleene.both_eq_true]
  | .and factor rest, more => by
    rw [Conjunction.append, Conjunction.eval, Conjunction.eval, Kleene.both_eq_true, Kleene.both_eq_true,
      Conjunction.eval_append rest more, and_assoc]

/-- Conditions that all have to hold. -/
def Conjunction.all (first : Conjunction κ) : List (Conjunction κ) → Conjunction κ
  | [] => first
  | next :: rest => first.append (next.all rest)

theorem Conjunction.text_all (S : Schema κ) (first : Conjunction κ) (rest : List (Conjunction κ)) :
    (first.all rest).text S = " AND ".toList.intercalate ((first :: rest).map (Conjunction.text S)) := by
  induction rest generalizing first with
  | nil => simp [Conjunction.all]
  | cons next rest ih =>
    rw [Conjunction.all, Conjunction.text_append, ih next]
    simp [List.intercalate_cons_cons]

theorem Conjunction.eval_all {row : Row κ} {first : Conjunction κ} {rest : List (Conjunction κ)} :
    (first.all rest).eval row = some true ↔ ∀ c ∈ first :: rest, c.eval row = some true := by
  induction rest generalizing first with
  | nil => simp [Conjunction.all]
  | cons next rest ih =>
    rw [Conjunction.all, Conjunction.eval_append, ih]
    simp

/-- Conditions one of which has to hold. -/
def Disjunction.any (first : Conjunction κ) : List (Conjunction κ) → Disjunction κ
  | [] => .single first
  | next :: rest => .or first (Disjunction.any next rest)

theorem Disjunction.text_any (S : Schema κ) (first : Conjunction κ) (rest : List (Conjunction κ)) :
    (Disjunction.any first rest).text S = " OR ".toList.intercalate ((first :: rest).map (Conjunction.text S)) := by
  induction rest generalizing first with
  | nil => simp [Disjunction.any, Disjunction.text]
  | cons next rest ih =>
    rw [Disjunction.any, Disjunction.text, ih next]
    simp [List.intercalate_cons_cons]

theorem Disjunction.eval_any {row : Row κ} {first : Conjunction κ} {rest : List (Conjunction κ)} :
    (Disjunction.any first rest).eval row = some true ↔ ∃ c ∈ first :: rest, c.eval row = some true := by
  induction rest generalizing first with
  | nil => simp [Disjunction.any, Disjunction.eval]
  | cons next rest ih =>
    rw [Disjunction.any, Disjunction.eval, Kleene.either_eq_true, ih]
    simp

def Atom.condition (a : Atom κ) : Conjunction κ := .single (.atom a)

@[simp] theorem Atom.text_condition (S : Schema κ) (a : Atom κ) : a.condition.text S = a.text S := by
  rw [Atom.condition, Conjunction.text, Factor.text]

@[simp] theorem Atom.eval_condition (row : Row κ) (a : Atom κ) : a.condition.eval row = a.eval row := by
  rw [Atom.condition, Conjunction.eval, Factor.eval]

def Disjunction.condition (d : Disjunction κ) : Conjunction κ := .single (.brackets d)

@[simp] theorem Disjunction.text_condition (S : Schema κ) (d : Disjunction κ) :
    d.condition.text S = '(' :: (d.text S ++ [')']) := by
  rw [Disjunction.condition, Conjunction.text, Factor.text]

@[simp] theorem Disjunction.eval_condition (row : Row κ) (d : Disjunction κ) : d.condition.eval row = d.eval row := by
  rw [Disjunction.condition, Conjunction.eval, Factor.eval]

/-! ### Texts in columns -/

def equals (column : κ) (value : String) : Atom κ := .compare column .eq (.text value)

@[simp] theorem eval_equals {row : Row κ} {column : κ} {value : String} :
    (equals column value).eval row = some true ↔ row column = some (.text value) := by
  rw [equals, Atom.eval]
  cases row column with
  | none => simp
  | some found =>
    cases found with
    | text found => simp [Comparison.compare, Comparison.holds, Scalar.value]
    | number found => simp [Comparison.compare, Scalar.value]

def among (column : κ) (negated : Bool) (first : String) (rest : List String) : Atom κ :=
  .isIn column negated (.text first) (rest.map .text)

theorem eval_among {row : Row κ} {column : κ} {value : String} (h : row column = some (.text value)) (negated : Bool)
    (first : String) (rest : List String) :
    (among column negated first rest).eval row = some (decide (value ∈ first :: rest) != negated) := by
  have hfound : ∀ values : List String, (values.map Scalar.text).foldr (fun scalar found =>
      either ((row column).bind fun value => Comparison.eq.compare value scalar.value) found) (some false)
        = some (decide (value ∈ values)) := by
    intro values
    induction values with
    | nil => rfl
    | cons next values ih =>
      rw [List.map_cons, List.foldr_cons, ih, h]
      by_cases heq : value = next
      · simp [Scalar.value, Comparison.compare, Comparison.holds, heq, either]
      · by_cases hmem : value ∈ values
        · simp [Scalar.value, Comparison.compare, Comparison.holds, heq, hmem, either]
        · simp [Scalar.value, Comparison.compare, Comparison.holds, heq, hmem, either]
  have hall := hfound (first :: rest)
  rw [List.map_cons] at hall
  rw [among, Atom.eval, hall]
  cases negated <;> simp

end EverTrace.Lib.Sql
