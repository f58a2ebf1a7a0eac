import EverTrace.L1Encoding.Ids
import EverTrace.Lib.Guard
import EverTrace.L2Machine.Recall
/-!
# Constraint expressions (`evertrace-domain/src/semantic/constraint.rs`)

A condition on the current state of the work: a boolean combination of tests
on named fields, evaluated in three truth values. A field that is not bound
makes a test unknown, and an expression or a state that does not validate
evaluates to unknown as a whole.
-/
namespace EverTrace.L2.Semantic
open EverTrace.Lib EverTrace.L1 EverTrace.L2.Recall

def maxExprDepth : Nat := 12

def maxExprNodes : Nat := 128

def maxBooleanTerms : Nat := 32

def maxInValues : Nat := 64

def maxFieldValueBytes : Nat := 256

/-- mirrors evertrace-domain/src/semantic/constraint.rs:13-31 -/
inductive ConstraintField where
  | agentKind
  | taskKind
  | projectFamily
  | toolchain
  | operationKind
  | phaseKind
  | artifactKind
  | environmentProfile
  | revisionActive
  | verifierState
  | phase
  | failureSignature
  | worktreeLineage
  | artifactVersion
  | experimentState
  deriving DecidableEq, Repr

instance : LinearOrder ConstraintField :=
  LinearOrder.lift' ConstraintField.ctorIdx fun a b h => by cases a <;> cases b <;> first | rfl | cases h

/-- mirrors evertrace-domain/src/semantic/constraint.rs:34-45 -/
def ConstraintField.supportsTransition : ConstraintField → Bool
  | .phaseKind | .revisionActive | .verifierState | .phase | .worktreeLineage | .artifactVersion
  | .experimentState => true
  | _ => false

/-- mirrors evertrace-domain/src/semantic/constraint.rs:72-82 -/
inductive ConstraintValue where
  | text (value : String)
  | boolean (value : Bool)
  deriving DecidableEq, Repr

/-- The derived order: texts before booleans, texts by their bytes. -/
def ConstraintValue.lt : ConstraintValue → ConstraintValue → Bool
  | .text a, .text b => utf8 a < utf8 b
  | .text _, .boolean _ => true
  | .boolean a, .boolean b => !a && b
  | .boolean _, .text _ => false

/-- mirrors evertrace-domain/src/semantic/constraint.rs:47-68 -/
def ConstraintField.accepts : ConstraintField → ConstraintValue → Bool
  | .revisionActive, .boolean _ => true
  | .revisionActive, .text _ => false
  | _, .text _ => true
  | _, .boolean _ => false

/-- The errors of the modelled contracts.
mirrors evertrace-domain/src/semantic.rs:307-336 -/
inductive SemanticError where
  | invalidResultEvidence
  | invalidResultSuccessor
  | invalidAtom
  | invalidConstraintExpr
  | invalidConstraintState
  | invalidProcedure
  | invalidProposal
  | invalidProposalSuccessor
  | invalidScenario
  | invalidCoreMembership
  | invalidGlobalSupport
  deriving DecidableEq, Repr

/-- mirrors evertrace-domain/src/semantic/constraint.rs:85-96 -/
def ConstraintValue.validate : ConstraintValue → Except SemanticError Unit
  | .text value =>
    if utf8 value = [] ∨ (utf8 value).length > maxFieldValueBytes ∨ hasControl value then
      .error .invalidConstraintExpr
    else .ok ()
  | .boolean _ => .ok ()

/-- mirrors evertrace-domain/src/semantic/constraint.rs:101-104 -/
structure ConstraintBinding where
  field : ConstraintField
  value : ConstraintValue
  deriving DecidableEq

/-- mirrors evertrace-domain/src/semantic/constraint.rs:106-110 -/
structure ConstraintState where
  bindings : List ConstraintBinding
  deriving DecidableEq

/-- mirrors evertrace-domain/src/semantic/constraint.rs:113-129 -/
def ConstraintState.validate (state : ConstraintState) : Except SemanticError Unit := do
  ensure .invalidConstraintState
    (state.bindings.length ≤ maxExprNodes && strictlyIncreasing (state.bindings.map ConstraintBinding.field))
  state.bindings.forM fun binding => do
    binding.value.validate
    ensure .invalidConstraintState (binding.field.accepts binding.value)

/-- The value bound to a field; the fields of a valid state are distinct.
mirrors evertrace-domain/src/semantic/constraint.rs:131-138 -/
def ConstraintState.value (state : ConstraintState) (field : ConstraintField) : Option ConstraintValue :=
  (state.bindings.find? fun binding => binding.field = field).map ConstraintBinding.value

/-- mirrors evertrace-domain/src/semantic/constraint.rs:141-172 -/
inductive ConstraintExpr where
  | all (terms : List ConstraintExpr)
  | any (terms : List ConstraintExpr)
  | not (term : ConstraintExpr)
  | eq (field : ConstraintField) (value : ConstraintValue)
  | in_ (field : ConstraintField) (values : List ConstraintValue)
  | exists_ (field : ConstraintField)
  | changed (field : ConstraintField)
  | transitioned (field : ConstraintField) (from_ to_ : ConstraintValue)

/-! ### Equality of expressions -/

mutual

/-- The derived `PartialEq`. -/
def ConstraintExpr.beq : ConstraintExpr → ConstraintExpr → Bool
  | .all terms, .all terms' | .any terms, .any terms' => beqTerms terms terms'
  | .not term, .not term' => term.beq term'
  | .eq field value, .eq field' value' => field == field' && value == value'
  | .in_ field values, .in_ field' values' => field == field' && values == values'
  | .exists_ field, .exists_ field' | .changed field, .changed field' => field == field'
  | .transitioned field from_ to_, .transitioned field' from_' to_' =>
    field == field' && from_ == from_' && to_ == to_'
  | _, _ => false

def beqTerms : List ConstraintExpr → List ConstraintExpr → Bool
  | [], [] => true
  | term :: rest, term' :: rest' => term.beq term' && beqTerms rest rest'
  | _, _ => false

end

mutual

theorem ConstraintExpr.beq_iff : ∀ a b : ConstraintExpr, a.beq b = true ↔ a = b
  | .all terms, b => by cases b <;> simp [ConstraintExpr.beq, beqTerms_iff terms]
  | .any terms, b => by cases b <;> simp [ConstraintExpr.beq, beqTerms_iff terms]
  | .not term, b => by cases b <;> simp [ConstraintExpr.beq, ConstraintExpr.beq_iff term]
  | .eq _ _, b => by cases b <;> simp [ConstraintExpr.beq]
  | .in_ _ _, b => by cases b <;> simp [ConstraintExpr.beq]
  | .exists_ _, b => by cases b <;> simp [ConstraintExpr.beq]
  | .changed _, b => by cases b <;> simp [ConstraintExpr.beq]
  | .transitioned _ _ _, b => by cases b <;> simp [ConstraintExpr.beq, and_assoc]

theorem beqTerms_iff : ∀ s t : List ConstraintExpr, beqTerms s t = true ↔ s = t
  | [], t => by cases t <;> simp [beqTerms]
  | term :: rest, t => by cases t <;> simp [beqTerms, ConstraintExpr.beq_iff term, beqTerms_iff rest]

end

instance : DecidableEq ConstraintExpr := fun a b => decidable_of_iff (a.beq b = true) (a.beq_iff b)

mutual

/-- mirrors evertrace-domain/src/semantic/constraint.rs:180-203 -/
def ConstraintExpr.referencedFields : ConstraintExpr → List ConstraintField
  | .all terms | .any terms => fieldsOf terms
  | .not term => term.referencedFields
  | .eq field _ | .in_ field _ | .exists_ field | .changed field | .transitioned field _ _ => [field]

def fieldsOf : List ConstraintExpr → List ConstraintField
  | [] => []
  | term :: rest => term.referencedFields ++ fieldsOf rest

end

/-- The two checks each value of an expression passes. -/
def checkValue (field : ConstraintField) (value : ConstraintValue) : Except SemanticError Unit := do
  value.validate
  ensure .invalidConstraintExpr (field.accepts value)

/-- `values.windows(2).all(|pair| pair[0] < pair[1])` -/
def valuesIncreasing : List ConstraintValue → Bool
  | a :: b :: rest => a.lt b && valuesIncreasing (b :: rest)
  | _ => true

mutual

/-- The node count is threaded through the tree and returned.
mirrors evertrace-domain/src/semantic/constraint.rs:205-255 -/
def ConstraintExpr.validateInner (depth nodes : Nat) : ConstraintExpr → Except SemanticError Nat
  | .all terms | .any terms => do
    ensure .invalidConstraintExpr (depth ≤ maxExprDepth && nodes + 1 ≤ maxExprNodes)
    ensure .invalidConstraintExpr (!terms.isEmpty && terms.length ≤ maxBooleanTerms)
    validateTerms (depth + 1) (nodes + 1) terms
  | .not term => do
    ensure .invalidConstraintExpr (depth ≤ maxExprDepth && nodes + 1 ≤ maxExprNodes)
    term.validateInner (depth + 1) (nodes + 1)
  | .eq field value => do
    ensure .invalidConstraintExpr (depth ≤ maxExprDepth && nodes + 1 ≤ maxExprNodes)
    checkValue field value
    return nodes + 1
  | .in_ field values => do
    ensure .invalidConstraintExpr (depth ≤ maxExprDepth && nodes + 1 ≤ maxExprNodes)
    ensure .invalidConstraintExpr
      (!values.isEmpty && values.length ≤ maxInValues && valuesIncreasing values)
    values.forM (checkValue field)
    return nodes + 1
  | .exists_ _ | .changed _ => do
    ensure .invalidConstraintExpr (depth ≤ maxExprDepth && nodes + 1 ≤ maxExprNodes)
    return nodes + 1
  | .transitioned field from_ to_ => do
    ensure .invalidConstraintExpr (depth ≤ maxExprDepth && nodes + 1 ≤ maxExprNodes)
    from_.validate
    to_.validate
    ensure .invalidConstraintExpr
      (field.supportsTransition && field.accepts from_ && field.accepts to_ && from_ != to_)
    return nodes + 1

def validateTerms (depth nodes : Nat) : List ConstraintExpr → Except SemanticError Nat
  | [] => return nodes
  | term :: rest => do
    let nodes ← term.validateInner depth nodes
    validateTerms depth nodes rest

end

/-- mirrors evertrace-domain/src/semantic/constraint.rs:175-178 -/
def ConstraintExpr.validate (expr : ConstraintExpr) : Except SemanticError Nat := expr.validateInner 1 0

/-! ## Evaluation -/

/-- mirrors evertrace-domain/src/semantic/constraint.rs:364-370 -/
inductive ConstraintTruth where
  | true_
  | false_
  | unknown
  deriving DecidableEq, Repr

namespace ConstraintTruth

/-- mirrors evertrace-domain/src/semantic/constraint.rs:377-383 -/
def and : ConstraintTruth → ConstraintTruth → ConstraintTruth
  | .false_, _ | _, .false_ => .false_
  | .true_, .true_ => .true_
  | _, _ => .unknown

/-- mirrors evertrace-domain/src/semantic/constraint.rs:385-391 -/
def or : ConstraintTruth → ConstraintTruth → ConstraintTruth
  | .true_, _ | _, .true_ => .true_
  | .false_, .false_ => .false_
  | _, _ => .unknown

/-- mirrors evertrace-domain/src/semantic/constraint.rs:393-399 -/
def not : ConstraintTruth → ConstraintTruth
  | .true_ => .false_
  | .false_ => .true_
  | .unknown => .unknown

def ofBool (value : Bool) : ConstraintTruth := if value then .true_ else .false_

end ConstraintTruth

mutual

/-- mirrors evertrace-domain/src/semantic/constraint.rs:275-329 -/
def ConstraintExpr.evaluateInner (current : ConstraintState) (previous : Option ConstraintState) :
    ConstraintExpr → ConstraintTruth
  | .all terms => evaluateAll current previous .true_ terms
  | .any terms => evaluateAny current previous .false_ terms
  | .not term => (term.evaluateInner current previous).not
  | .eq field value => match current.value field with
    | some observed => .ofBool (observed == value)
    | none => .unknown
  | .in_ field values => match current.value field with
    | some observed => .ofBool (values.contains observed)
    | none => .unknown
  | .exists_ field => if (current.value field).isSome then .true_ else .unknown
  | .changed field => match previous with
    | none => .unknown
    | some previous => match previous.value field, current.value field with
      | some before, some after => .ofBool (before != after)
      | _, _ => .unknown
  | .transitioned field from_ to_ =>
    if !field.supportsTransition || from_ == to_ then .unknown
    else match previous with
      | none => .unknown
      | some previous => match previous.value field, current.value field with
        | some before, some after => .ofBool (before == from_ && after == to_)
        | _, _ => .unknown

def evaluateAll (current : ConstraintState) (previous : Option ConstraintState) (value : ConstraintTruth) :
    List ConstraintExpr → ConstraintTruth
  | [] => value
  | term :: rest => evaluateAll current previous (value.and (term.evaluateInner current previous)) rest

def evaluateAny (current : ConstraintState) (previous : Option ConstraintState) (value : ConstraintTruth) :
    List ConstraintExpr → ConstraintTruth
  | [] => value
  | term :: rest => evaluateAny current previous (value.or (term.evaluateInner current previous)) rest

end

/-- mirrors evertrace-domain/src/semantic/constraint.rs:257-273 -/
def ConstraintExpr.evaluate (expr : ConstraintExpr) (current : ConstraintState)
    (previous : Option ConstraintState) : ConstraintTruth :=
  if expr.validate.toOption.isNone then .unknown
  else if current.validate.toOption.isNone then .unknown
  else if previous.any (fun state => state.validate.toOption.isNone) then .unknown
  else expr.evaluateInner current previous

end EverTrace.L2.Semantic
