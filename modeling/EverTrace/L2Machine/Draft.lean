import EverTrace.L2Machine.Constraint
import EverTrace.L2Machine.RecallDetector
/-!
# Drafts (`evertrace-domain/src/semantic/atom.rs`, `procedure.rs`)

What a revision proposal wants to put in place: the draft of an atom or of a
procedure, with the checks a draft passes before anything looks at its
authority. A draft carries no identity of its own.
-/
namespace EverTrace.L2.Semantic
open EverTrace.Lib EverTrace.L1 EverTrace.L2.Recall

/-! ## Texts and references -/

/-- mirrors evertrace-domain/src/semantic/atom.rs:834-836 -/
def validLongText (value : String) : Bool :=
  utf8 value ≠ [] && (utf8 value).length ≤ 16 * 1024 && !value.toList.contains '\x00'

/-- mirrors evertrace-domain/src/semantic/atom.rs:838-840 -/
def validText (value : String) : Bool :=
  utf8 value ≠ [] && (utf8 value).length ≤ 1024 && !hasControl value

/-- `byte.is_ascii_alphanumeric() || matches!(byte, b':' | b'_' | b'-' | b'.')` -/
def identifierByte (b : UInt8) : Bool :=
  (48 ≤ b && b ≤ 57) || (65 ≤ b && b ≤ 90) || (97 ≤ b && b ≤ 122) || b == 58 || b == 95 || b == 45 || b == 46

/-- mirrors evertrace-domain/src/semantic/atom.rs:842-848 -/
def validIdentifier (value : String) : Bool :=
  utf8 value ≠ [] && (utf8 value).length ≤ 1024 && (utf8 value).all identifierByte

/-- mirrors evertrace-domain/src/semantic/atom.rs:854-856 -/
def containsAll {α : Type} [DecidableEq α] (values required : List α) : Bool :=
  required.all fun value => values.contains value

/-- The list is no longer than `max` and strictly increasing. -/
def sortedUpTo {α : Type} [LT α] [DecidableLT α] (max : Nat) (values : List α) : Bool :=
  values.length ≤ max && strictlyIncreasing values

/-! ## Atoms -/

/-- mirrors evertrace-domain/src/semantic/atom.rs:16-30 -/
inductive AtomKind where
  | fact
  | constraint
  | decision
  | failure
  | outcome
  | hypothesis
  | result
  | claim
  | citation
  | rationale
  | annotation_
  deriving DecidableEq, Repr

/-- mirrors evertrace-domain/src/semantic/atom.rs:33-35 -/
def AtomKind.isNormative : AtomKind → Bool
  | .constraint | .decision => true
  | _ => false

/-- mirrors evertrace-domain/src/semantic/atom.rs:37-50 -/
def AtomKind.isDescriptive : AtomKind → Bool
  | .constraint | .decision => false
  | _ => true

/-- mirrors evertrace-domain/src/semantic/atom.rs:67-73 -/
inductive EpistemicStatus where
  | notApplicable
  | unverified
  | supported
  | disputed
  | refuted
  deriving DecidableEq, Repr

/-- mirrors evertrace-domain/src/semantic/atom.rs:344-352 -/
inductive AtomProvenance where
  | observedExec
  | observedHost
  | userAsserted
  | agentClaimed
  | llmDerived
  deriving DecidableEq, Repr

instance : LinearOrder AtomProvenance :=
  LinearOrder.lift' AtomProvenance.ctorIdx fun a b h => by cases a <;> cases b <;> first | rfl | cases h

/-- mirrors evertrace-domain/src/semantic/atom.rs:219-224 -/
structure SemanticQualifier where
  name : String
  value : String
  deriving DecidableEq

/-- The derived order: by name, then by value. -/
instance : LinearOrder SemanticQualifier :=
  LinearOrder.lift' (fun q => (toLex (q.name, q.value) : String ×ₗ String)) fun a b h => by
    have hpair : (a.name, a.value) = (b.name, b.value) := toLex.injective h
    cases a
    cases b
    cases hpair
    rfl

/-- mirrors evertrace-domain/src/semantic/atom.rs:226-235 -/
structure AtomValue where
  text : String
  subject : String
  predicate : String
  object : Option String
  qualifiers : List SemanticQualifier
  criticalRevisionRefs : List RevisionId
  deriving DecidableEq

/-- mirrors evertrace-domain/src/semantic/atom.rs:238-259 -/
def AtomValue.validate (v : AtomValue) : Except SemanticError Unit :=
  ensure .invalidAtom (validLongText v.text
    && validText v.subject
    && validText v.predicate
    && v.object.all validText
    && sortedUpTo 64 v.qualifiers
    && sortedUpTo 256 v.criticalRevisionRefs
    && v.qualifiers.all fun qualifier => validText qualifier.name && validText qualifier.value)

/-- mirrors evertrace-domain/src/semantic/constraint.rs:339-342 -/
inductive ApplicabilityExpr where
  | always
  | constraint (expr : ConstraintExpr)
  deriving DecidableEq

/-- mirrors evertrace-domain/src/semantic/constraint.rs:345-350 -/
def ApplicabilityExpr.validate : ApplicabilityExpr → Except SemanticError Unit
  | .always => .ok ()
  | .constraint expr => do
    let _ ← expr.validate

/-- mirrors evertrace-domain/src/semantic/atom.rs:416-419 -/
structure FutureCueLifecycleExprs where
  suppressExpr : ConstraintExpr
  resolveExpr : ConstraintExpr
  deriving DecidableEq

/-- mirrors evertrace-domain/src/semantic/atom.rs:422-425 -/
def FutureCueLifecycleExprs.validate (exprs : FutureCueLifecycleExprs) : Except SemanticError Unit := do
  let _ ← exprs.suppressExpr.validate
  let _ ← exprs.resolveExpr.validate

/-- mirrors evertrace-domain/src/semantic/atom.rs:311-316 -/
structure ValidityInterval where
  validFromUs : Int
  validUntilUs : Option Int
  deriving DecidableEq

/-- mirrors evertrace-domain/src/semantic/atom.rs:319-328 -/
def ValidityInterval.validate (v : ValidityInterval) : Except SemanticError Unit :=
  ensure .invalidAtom (0 ≤ v.validFromUs && v.validUntilUs.all fun until_ => v.validFromUs < until_)

/-- mirrors evertrace-domain/src/semantic/atom.rs:428-445 -/
structure AtomDraft where
  kind : AtomKind
  epistemicStatus : EpistemicStatus
  value : AtomValue
  scope : AtomScope
  applicabilityExpr : ApplicabilityExpr
  futureCueLifecycleExprs : Option FutureCueLifecycleExprs
  validityInterval : ValidityInterval
  provenance : List AtomProvenance
  sourceObservationRefs : List SourceObservationId
  evidenceRefs : List String
  supersedesRevisionRefs : List RevisionId
  supportsRevisionRefs : List RevisionId
  contradictsRevisionRefs : List RevisionId
  deriving DecidableEq

/-- mirrors evertrace-domain/src/semantic/atom.rs:482-505 -/
def validateUnprivilegedAxes (kind : AtomKind) (epistemicStatus : EpistemicStatus)
    (provenance : List AtomProvenance) (evidenceRefs : List String) : Except SemanticError Unit :=
  if (kind.isNormative && epistemicStatus != .notApplicable)
    || (!kind.isNormative && kind != .annotation_ && epistemicStatus == .notApplicable)
    || (epistemicStatus == .supported
      && (!kind.isDescriptive || evidenceRefs.isEmpty
        || !provenance.any fun value => value == .observedExec || value == .observedHost))
  then .error .invalidAtom
  else .ok ()

/-- mirrors evertrace-domain/src/semantic/atom.rs:806-832 -/
def validateReferences (draft : AtomDraft) : Except SemanticError Unit :=
  ensure .invalidAtom (!draft.provenance.isEmpty
    && sortedUpTo 256 draft.provenance
    && sortedUpTo 256 draft.sourceObservationRefs
    && sortedUpTo 256 draft.evidenceRefs
    && sortedUpTo 256 draft.supersedesRevisionRefs
    && sortedUpTo 256 draft.supportsRevisionRefs
    && sortedUpTo 256 draft.contradictsRevisionRefs
    && draft.evidenceRefs.all validIdentifier)

/-- mirrors evertrace-domain/src/semantic/atom.rs:448-472 -/
def AtomDraft.validateUnprivileged (draft : AtomDraft) : Except SemanticError Unit := do
  draft.value.validate
  draft.applicabilityExpr.validate
  match draft.futureCueLifecycleExprs with
  | none => .ok ()
  | some exprs => do
    ensure .invalidAtom draft.kind.isNormative
    exprs.validate
  draft.validityInterval.validate
  validateUnprivilegedAxes draft.kind draft.epistemicStatus draft.provenance draft.evidenceRefs
  validateReferences draft

/-! ## Procedures -/

/-- mirrors evertrace-domain/src/procedure.rs:19-25 -/
inductive ProcedureKind where
  | workflow
  | diagnostic
  | guardrail
  deriving DecidableEq, Repr

/-- mirrors evertrace-domain/src/procedure.rs:27-38 -/
inductive ProcedureScope where
  | worktree (repositoryId : RepositoryId) (worktreeId : WorktreeId)
  | repository (repositoryId : RepositoryId)
  | global
  deriving DecidableEq

/-- mirrors evertrace-domain/src/procedure.rs:74-81 -/
structure ProcedureWhen where
  goals : List String
  targets : List String
  signals : List String
  stage : String
  requires : List String
  excludes : List String
  deriving DecidableEq

/-- mirrors evertrace-domain/src/procedure.rs:85-89 -/
structure ProcedureBranch where
  label : String
  condition : ConstraintExpr
  stages : List String
  deriving DecidableEq

/-- mirrors evertrace-domain/src/procedure.rs:93-97 -/
structure ProcedureActions where
  stages : List String
  branches : List ProcedureBranch
  avoid : List String
  deriving DecidableEq

/-- mirrors evertrace-domain/src/procedure.rs:101-105 -/
structure ProcedureDone where
  success : List String
  abort : List String
  verify : List String
  deriving DecidableEq

/-- mirrors evertrace-domain/src/procedure.rs:109-113 -/
structure ProcedureStepAlignment where
  entry : ConstraintExpr
  progress : ConstraintExpr
  completed : ConstraintExpr
  deriving DecidableEq

/-- mirrors evertrace-domain/src/procedure.rs:117-120 -/
structure ProcedureBranchAlignment where
  atMainStep : Nat
  steps : List ProcedureStepAlignment
  deriving DecidableEq

/-- mirrors evertrace-domain/src/procedure.rs:124-127 -/
structure ProcedureStageAlignment where
  main : List ProcedureStepAlignment
  branches : List ProcedureBranchAlignment
  deriving DecidableEq

/-- mirrors evertrace-domain/src/procedure.rs:131-148 -/
structure ProcedureDraft where
  scope : ProcedureScope
  title : String
  summary : String
  kind : ProcedureKind
  when_ : ProcedureWhen
  conditionIrVersion : Nat
  applicabilityExpr : ConstraintExpr
  avoidExpr : ConstraintExpr
  completionExpr : ConstraintExpr
  stageAlignment : Option ProcedureStageAlignment
  actions : ProcedureActions
  done : ProcedureDone
  pitfalls : List String
  evidenceRefs : List String
  supportRevisionRefs : List RevisionId
  deriving DecidableEq

/-- mirrors evertrace-domain/src/procedure.rs:457-461 -/
def procedureText (value : String) : Bool :=
  utf8 value ≠ [] && (utf8 value).length ≤ 2048 && !hasControl value

/-- mirrors evertrace-domain/src/procedure.rs:463-465 -/
def orderedText (values : List String) : Bool := values.length ≤ 64 && values.all procedureText

/-- mirrors evertrace-domain/src/procedure.rs:467-472 -/
def sortedText (values : List String) : Bool :=
  !values.isEmpty && values.length ≤ 256 && orderedText values && strictlyIncreasing values

/-- mirrors evertrace-domain/src/procedure.rs:188-217 -/
def validateAlignment (actions : ProcedureActions) (alignment : ProcedureStageAlignment) :
    Except SemanticError Unit := do
  ensure .invalidProcedure (alignment.main.length == actions.stages.length
    && alignment.branches.length == actions.branches.length
    && alignment.main.length + (alignment.branches.map fun branch => branch.steps.length).sum ≤ 64)
  ensure .invalidProcedure ((alignment.branches.zip actions.branches).all fun (mapping, branch) =>
    mapping.atMainStep < alignment.main.length && mapping.steps.length == branch.stages.length)
  (alignment.main ++ alignment.branches.flatMap fun branch => branch.steps).forM fun step => do
    let _ ← step.entry.validate
    let _ ← step.progress.validate
    let _ ← step.completed.validate

/-- mirrors evertrace-domain/src/procedure.rs:151-219 -/
def ProcedureDraft.validate (draft : ProcedureDraft) : Except SemanticError Unit := do
  ensure .invalidProcedure (draft.conditionIrVersion == 1
    && procedureText draft.title
    && procedureText draft.summary
    && procedureText draft.when_.stage
    && orderedText draft.when_.goals
    && orderedText draft.when_.targets
    && orderedText draft.when_.signals
    && orderedText draft.when_.requires
    && orderedText draft.when_.excludes
    && orderedText draft.actions.stages
    && orderedText draft.actions.avoid
    && !draft.actions.stages.isEmpty
    && draft.actions.branches.length ≤ 64
    && orderedText draft.done.success
    && orderedText draft.done.abort
    && orderedText draft.done.verify
    && !draft.done.success.isEmpty
    && !draft.done.abort.isEmpty
    && !draft.done.verify.isEmpty
    && orderedText draft.pitfalls
    && !draft.evidenceRefs.isEmpty
    && sortedText draft.evidenceRefs
    && sortedUpTo 256 draft.supportRevisionRefs
    && !(draft.scope == .global && draft.supportRevisionRefs.isEmpty))
  draft.actions.branches.forM fun branch => do
    ensure .invalidProcedure (procedureText branch.label && !branch.stages.isEmpty && orderedText branch.stages)
    let _ ← branch.condition.validate
  let _ ← draft.applicabilityExpr.validate
  let _ ← draft.avoidExpr.validate
  match draft.stageAlignment with
  | none => .ok ()
  | some alignment => validateAlignment draft.actions alignment
  let _ ← draft.completionExpr.validate

end EverTrace.L2.Semantic
