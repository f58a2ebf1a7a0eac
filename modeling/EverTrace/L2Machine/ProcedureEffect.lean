import EverTrace.L1Encoding.CanonicalParse
import EverTrace.L1Encoding.Ids
import EverTrace.L2Machine.Constraint
import EverTrace.Lib.OrdMap
import Mathlib.Data.Prod.Lex
/-!
# Procedure effects (`evertrace-domain/src/procedure/effect.rs`)

What following a procedure led to, one projection for each revision and
context. A context names the task, the place, the operands and the tools; its
fingerprint is the SHA-256 of all of that. `compileObservationalEffects` groups
the usages by revision and fingerprint and makes one projection of each group.

**Results.** The fingerprint's text determines the context
(`ProcedureEffectContext.text_inj`). A group of usages of one context compiles
if and only if it has fewer than 2^32 usages and at most 64 different evidence
references (`compileGroup_ok_iff`), and what it compiles to does not depend on
the order of the usages or of their references (`compile_eq_of_reordered`).
-/
namespace EverTrace.L2.Procedure
open EverTrace.Lib EverTrace.L1 EverTrace.L1.Canonical EverTrace.L2.Semantic
open EverTrace.L2.Recall (hasControl strictlyIncreasing strictlyIncreasing_of_pairwise)

def maxRefs : Nat := 64

def maxText : Nat := 4096

/-- mirrors evertrace-domain/src/procedure/usage.rs:54-63 -/
inductive ProcedureUsagePhase where
  | beforeEntry
  | atEntry
  | inProgress
  | recoverableDeviation
  | alreadyCompleted
  | incompatible
  deriving DecidableEq

/-- mirrors evertrace-domain/src/procedure/effect.rs:18-28 -/
inductive ProcedureContextAnchor where
  | repository (repositoryId : RepositoryId) (worktreeId : WorktreeId) (worktreeSnapshotId : WorktreeSnapshotId)
      (worktreeLineage : String)
  | nonRepository (fixtureRefs : List String)
  deriving DecidableEq

/-- mirrors evertrace-domain/src/procedure/effect.rs:32-45 -/
structure ProcedureEffectContext where
  procedureRevisionId : RevisionId
  taskId : TaskId
  anchor : ProcedureContextAnchor
  operands : List ConstraintBinding
  phaseKind : ProcedureUsagePhase
  failureSignature : Option String
  toolchain : String
  modelRevision : String
  harnessRevision : String
  algorithmRevision : String
  budget : UInt64
  acceptanceBoundary : String
  deriving DecidableEq

/-- mirrors evertrace-domain/src/procedure/effect.rs:447-449 -/
def validText (value : String) : Bool :=
  (utf8 value ≠ [] && (utf8 value).length ≤ maxText) && !hasControl value

/-- mirrors evertrace-domain/src/procedure/effect.rs:455-460 -/
def validRefs (values : List String) : Bool :=
  !values.isEmpty && values.length ≤ maxRefs && strictlyIncreasing (values.map utf8) && values.all validText

/-- mirrors the anchor's case of effect.rs:106-111 -/
def ProcedureContextAnchor.valid : ProcedureContextAnchor → Bool
  | .repository _ _ _ worktreeLineage => validText worktreeLineage
  | .nonRepository fixtureRefs => validRefs fixtureRefs

/-- mirrors evertrace-domain/src/procedure/effect.rs:91-116 -/
def ProcedureEffectContext.validate (context : ProcedureEffectContext) : Except SemanticError Unit :=
  ensure .invalidProcedure
    (context.operands.length ≤ maxRefs
      && strictlyIncreasing (context.operands.map ConstraintBinding.field)
      && context.failureSignature.all validText
      && validText context.toolchain
      && validText context.modelRevision
      && validText context.harnessRevision
      && validText context.algorithmRevision
      && validText context.acceptanceBoundary
      && context.anchor.valid)

/-! ## The fingerprint -/

/-- mirrors evertrace-domain/src/procedure/effect.rs:462-505 -/
def anchorValue : ProcedureContextAnchor → CanonicalValue
  | .repository repositoryId worktreeId worktreeSnapshotId worktreeLineage => .map
      [("kind", .string "repository"),
        ("repository_id", .string repositoryId.toText),
        ("worktree_id", .string worktreeId.toText),
        ("worktree_lineage", .string worktreeLineage),
        ("worktree_snapshot_id", .string worktreeSnapshotId.toText)]
  | .nonRepository fixtureRefs => .map
      [("fixture_refs", .sequence (fixtureRefs.map CanonicalValue.string)),
        ("kind", .string "non_repository")]

/-- mirrors evertrace-domain/src/procedure/effect.rs:540-558 -/
def fieldName : ConstraintField → String
  | .agentKind => "agent_kind"
  | .taskKind => "task_kind"
  | .projectFamily => "project_family"
  | .toolchain => "toolchain"
  | .operationKind => "operation_kind"
  | .phaseKind => "phase_kind"
  | .artifactKind => "artifact_kind"
  | .environmentProfile => "environment_profile"
  | .revisionActive => "revision_active"
  | .verifierState => "verifier_state"
  | .phase => "phase"
  | .failureSignature => "failure_signature"
  | .worktreeLineage => "worktree_lineage"
  | .artifactVersion => "artifact_version"
  | .experimentState => "experiment_state"

/-- mirrors the value's case of effect.rs:514-524 -/
def constraintValue : ConstraintValue → CanonicalValue
  | .text value => .map [("kind", .string "text"), ("value", .string value)]
  | .boolean value => .map [("kind", .string "boolean"), ("value", .bool value)]

/-- mirrors evertrace-domain/src/procedure/effect.rs:507-527 -/
def bindingValue (binding : ConstraintBinding) : CanonicalValue :=
  .map [("field", .string (fieldName binding.field)), ("value", constraintValue binding.value)]

/-- mirrors evertrace-domain/src/procedure/effect.rs:529-538 -/
def phaseName : ProcedureUsagePhase → String
  | .beforeEntry => "before_entry"
  | .atEntry => "at_entry"
  | .inProgress => "in_progress"
  | .recoverableDeviation => "recoverable_deviation"
  | .alreadyCompleted => "already_completed"
  | .incompatible => "incompatible"

/-- `map_or(CanonicalValue::Null, CanonicalValue::String)` -/
def optionalText : Option String → CanonicalValue
  | none => .null
  | some value => .string value

/-- mirrors the map of effect.rs:118-174 -/
def ProcedureEffectContext.value (context : ProcedureEffectContext) : CanonicalValue := .map
  [("acceptance_boundary_ref", .string context.acceptanceBoundary),
    ("algorithm_revision", .string context.algorithmRevision),
    ("anchor", anchorValue context.anchor),
    ("budget", .integer (BitVec.ofNat 128 context.budget.toNat)),
    ("failure_signature", optionalText context.failureSignature),
    ("harness_revision", .string context.harnessRevision),
    ("model_revision", .string context.modelRevision),
    ("operands", .sequence (context.operands.map bindingValue)),
    ("phase_kind", .string (phaseName context.phaseKind)),
    ("procedure_revision_id", .string context.procedureRevisionId.toText),
    ("task_id", .string context.taskId.toText),
    ("toolchain", .string context.toolchain)]

def fingerprintVersion : UInt32 := 1

def fingerprintTag : String := "evertrace.procedure_context_fingerprint"

/-- The text that the fingerprint hashes. -/
def ProcedureEffectContext.text (context : ProcedureEffectContext) : Except CanonicalError Bytes :=
  Canonical.encode fingerprintTag fingerprintVersion context.value

/-- mirrors evertrace-domain/src/procedure/effect.rs:118-174 -/
def ProcedureEffectContext.fingerprint (H : Sha256) (context : ProcedureEffectContext) :
    Except SemanticError Digest := do
  context.validate
  (Canonical.sha256 H fingerprintTag fingerprintVersion context.value).mapError fun _ => .invalidProcedure

/-! ### The text determines the context -/

theorem fieldName_inj : ∀ {a b : ConstraintField}, fieldName a = fieldName b → a = b := by
  intro a b h
  cases a <;> cases b <;> first | rfl | simp [fieldName] at h

theorem phaseName_inj : ∀ {a b : ProcedureUsagePhase}, phaseName a = phaseName b → a = b := by
  intro a b h
  cases a <;> cases b <;> first | rfl | simp [phaseName] at h

theorem optionalText_inj : ∀ {a b : Option String}, Equiv (optionalText a) (optionalText b) → a = b
  | none, none, _ => rfl
  | some _, some _, h => congrArg some h.string_inj
  | none, some _, h => by cases h
  | some _, none, h => by cases h

theorem constraintValue_inj {a b : ConstraintValue} (h : Equiv (constraintValue a) (constraintValue b)) :
    a = b := by
  cases a with
  | text s =>
    cases b with
    | text t => rw [h.stringAt "value" s t (by simp) (by simp)]
    | boolean t => exact absurd (h.stringAt "kind" "text" "boolean" (by simp) (by simp)) (by simp)
  | boolean s =>
    cases b with
    | text t => exact absurd (h.stringAt "kind" "boolean" "text" (by simp) (by simp)) (by simp)
    | boolean t =>
      have hvalue := h.at "value" (.bool s) (.bool t) (by simp) (by simp)
      cases hvalue
      rfl

theorem bindingValue_inj {a b : ConstraintBinding} (h : Equiv (bindingValue a) (bindingValue b)) : a = b := by
  have hfield := h.stringAt "field" (fieldName a.field) (fieldName b.field) (by simp) (by simp)
  have hvalue := h.at "value" (constraintValue a.value) (constraintValue b.value) (by simp) (by simp)
  cases a
  cases b
  rw [ConstraintBinding.mk.injEq]
  exact ⟨fieldName_inj hfield, constraintValue_inj hvalue⟩

theorem anchorValue_inj {a b : ProcedureContextAnchor} (h : Equiv (anchorValue a) (anchorValue b)) : a = b := by
  cases a with
  | repository r w s l =>
    cases b with
    | repository r' w' s' l' =>
      have hr := h.stringAt "repository_id" r.toText r'.toText (by simp) (by simp)
      have hw := h.stringAt "worktree_id" w.toText w'.toText (by simp) (by simp)
      have hs := h.stringAt "worktree_snapshot_id" s.toText s'.toText (by simp) (by simp)
      have hl := h.stringAt "worktree_lineage" l l' (by simp) (by simp)
      rw [Id.toText_inj hr, Id.toText_inj hw, Id.toText_inj hs, hl]
    | nonRepository refs =>
      exact absurd (h.stringAt "kind" "repository" "non_repository" (by simp) (by simp)) (by simp)
  | nonRepository refs =>
    cases b with
    | repository r w s l =>
      exact absurd (h.stringAt "kind" "non_repository" "repository" (by simp) (by simp)) (by simp)
    | nonRepository refs' =>
      have hrefs := h.at "fixture_refs" (.sequence (refs.map CanonicalValue.string))
        (.sequence (refs'.map CanonicalValue.string)) (by simp) (by simp)
      cases hrefs with
      | sequence hitems => rw [hitems.of_map fun _ _ => Equiv.string_inj]

theorem budget_inj {m n : UInt64}
    (h : Equiv (.integer (BitVec.ofNat 128 m.toNat)) (.integer (BitVec.ofNat 128 n.toNat))) : m = n := by
  have hbits : BitVec.ofNat 128 m.toNat = BitVec.ofNat 128 n.toNat := by
    generalize BitVec.ofNat 128 m.toNat = x at h
    generalize BitVec.ofNat 128 n.toNat = y at h
    cases h
    rfl
  have hval := congrArg BitVec.toNat hbits
  rw [BitVec.toNat_ofNat, BitVec.toNat_ofNat] at hval
  have hm := m.toNat_lt
  have hn := n.toNat_lt
  apply UInt64.toNat_inj.mp
  omega

/-- The map holds every field of the context. -/
theorem ProcedureEffectContext.value_inj {a b : ProcedureEffectContext} (h : Equiv a.value b.value) : a = b := by
  unfold ProcedureEffectContext.value at h
  have hacceptance := h.stringAt "acceptance_boundary_ref" a.acceptanceBoundary b.acceptanceBoundary (by simp) (by simp)
  have halgorithm := h.stringAt "algorithm_revision" a.algorithmRevision b.algorithmRevision (by simp) (by simp)
  have hanchor := anchorValue_inj (h.at "anchor" (anchorValue a.anchor) (anchorValue b.anchor) (by simp) (by simp))
  have hbudget := budget_inj (h.at "budget" (.integer (BitVec.ofNat 128 a.budget.toNat))
    (.integer (BitVec.ofNat 128 b.budget.toNat)) (by simp) (by simp))
  have hfailure := optionalText_inj (h.at "failure_signature" (optionalText a.failureSignature)
    (optionalText b.failureSignature) (by simp) (by simp))
  have hharness := h.stringAt "harness_revision" a.harnessRevision b.harnessRevision (by simp) (by simp)
  have hmodel := h.stringAt "model_revision" a.modelRevision b.modelRevision (by simp) (by simp)
  have hoperands : a.operands = b.operands := by
    have hitems := h.at "operands" (.sequence (a.operands.map bindingValue))
      (.sequence (b.operands.map bindingValue)) (by simp) (by simp)
    cases hitems with
    | sequence hitems => exact hitems.of_map fun _ _ => bindingValue_inj
  have hphase := h.stringAt "phase_kind" (phaseName a.phaseKind) (phaseName b.phaseKind) (by simp) (by simp)
  have hrevision := h.stringAt "procedure_revision_id" a.procedureRevisionId.toText b.procedureRevisionId.toText
    (by simp) (by simp)
  have htask := h.stringAt "task_id" a.taskId.toText b.taskId.toText (by simp) (by simp)
  have htoolchain := h.stringAt "toolchain" a.toolchain b.toolchain (by simp) (by simp)
  cases a
  cases b
  rw [ProcedureEffectContext.mk.injEq]
  exact ⟨Id.toText_inj hrevision, Id.toText_inj htask, hanchor, hoperands, phaseName_inj hphase, hfailure, htoolchain,
    hmodel, hharness, halgorithm, hbudget, hacceptance⟩

/-- **Two contexts with one text are one context.** -/
theorem ProcedureEffectContext.text_inj {a b : ProcedureEffectContext} {e : Bytes} (ha : a.text = .ok e)
    (hb : b.text = .ok e) : a = b := by
  obtain ⟨-, -, hequiv, -⟩ := encode_parse ha hb (rfl : e ++ [] = e ++ [])
  exact value_inj hequiv

/-! ### Every context in memory has a text -/

/-- The operands' texts are the only ones that `validate` does not bound. -/
def ProcedureEffectContext.InMemory (context : ProcedureEffectContext) : Prop :=
  ∀ binding ∈ context.operands, ∀ value, binding.value = .text value → (utf8 value).length < 2 ^ 64

theorem encodes_string {s : String} (h : (utf8 s).length < 2 ^ 64) : ∃ b, encodeValue (.string s) = .ok b :=
  encodeValue_scalar (a := .string s) h

theorem length_validText {s : String} (h : validText s = true) : (utf8 s).length < 2 ^ 64 := by
  simp only [validText, Bool.and_eq_true, decide_eq_true_eq] at h
  have hlen : (utf8 s).length ≤ 4096 := h.1.2
  omega

theorem length_toText {family : Family} (id : Id family) : (utf8 id.toText).length < 2 ^ 64 := by
  have hutf8 := length_utf8_le id.toText
  have htext := length_toText_le id
  omega

theorem validRefs_iff {refs : List String} : validRefs refs = true ↔
    refs ≠ [] ∧ refs.length ≤ maxRefs ∧ strictlyIncreasing (refs.map utf8) = true ∧ ∀ r ∈ refs, validText r = true := by
  unfold validRefs
  rw [Bool.and_eq_true, Bool.and_eq_true, Bool.and_eq_true, decide_eq_true_eq, List.all_eq_true, Bool.not_eq_true',
    List.isEmpty_eq_false_iff]
  exact ⟨fun ⟨⟨⟨a, b⟩, c⟩, d⟩ => ⟨a, b, c, d⟩, fun ⟨a, b, c, d⟩ => ⟨⟨⟨a, b⟩, c⟩, d⟩⟩

theorem constraintValue_encodes {v : ConstraintValue} (h : ∀ s, v = .text s → (utf8 s).length < 2 ^ 64) :
    ∃ b, encodeValue (constraintValue v) = .ok b := by
  cases v with
  | text s =>
    refine encodeValue_map_of_forall rfl (by decide : KeysFit ["kind", "value"]) ?_
    simp only [List.forall_mem_cons]
    exact ⟨encodes_string (by decide), encodes_string (h s rfl), by simp⟩
  | boolean x =>
    refine encodeValue_map_of_forall rfl (by decide : KeysFit ["kind", "value"]) ?_
    simp only [List.forall_mem_cons]
    exact ⟨encodes_string (by decide), ⟨_, rfl⟩, by simp⟩

theorem bindingValue_encodes {b : ConstraintBinding} (h : ∀ s, b.value = .text s → (utf8 s).length < 2 ^ 64) :
    ∃ e, encodeValue (bindingValue b) = .ok e := by
  have hfield : (utf8 (fieldName b.field)).length < 2 ^ 64 := by cases b.field <;> decide
  refine encodeValue_map_of_forall rfl (by decide : KeysFit ["field", "value"]) ?_
  simp only [List.forall_mem_cons]
  exact ⟨encodes_string hfield, constraintValue_encodes h, by simp⟩

theorem anchorValue_encodes {a : ProcedureContextAnchor} (h : a.valid = true) :
    ∃ e, encodeValue (anchorValue a) = .ok e := by
  cases a with
  | repository r w s l =>
    refine encodeValue_map_of_forall rfl (by decide : KeysFit ["kind", "repository_id", "worktree_id", "worktree_lineage", "worktree_snapshot_id"]) ?_
    simp only [List.forall_mem_cons]
    exact ⟨encodes_string (by decide), encodes_string (length_toText r), encodes_string (length_toText w),
      encodes_string (length_validText h), encodes_string (length_toText s), by simp⟩
  | nonRepository refs =>
    obtain ⟨-, hcount, -, hrefs⟩ := validRefs_iff.mp h
    refine encodeValue_map_of_forall rfl (by decide : KeysFit ["fixture_refs", "kind"]) ?_
    simp only [List.forall_mem_cons]
    refine ⟨(Plain.sequence ?_ fun x hx => ?_).encodes, encodes_string (by decide), by simp⟩
    · rw [List.length_map]
      unfold maxRefs at hcount
      omega
    · obtain ⟨r, hr, rfl⟩ := List.mem_map.mp hx
      exact .scalar (length_validText (hrefs r hr))

theorem ProcedureEffectContext.validate_ok {c : ProcedureEffectContext} (h : c.validate = .ok ()) :
    c.operands.length ≤ maxRefs ∧ c.failureSignature.all validText = true ∧ validText c.toolchain = true ∧
      validText c.modelRevision = true ∧ validText c.harnessRevision = true ∧ validText c.algorithmRevision = true ∧
      validText c.acceptanceBoundary = true ∧ c.anchor.valid = true := by
  simp only [ProcedureEffectContext.validate, ensure_ok, Bool.and_eq_true, decide_eq_true_eq] at h
  obtain ⟨⟨⟨⟨⟨⟨⟨⟨hcount, -⟩, hfailure⟩, htool⟩, hmodel⟩, hharness⟩, halgorithm⟩, hboundary⟩, hanchor⟩ := h
  exact ⟨hcount, hfailure, htool, hmodel, hharness, halgorithm, hboundary, hanchor⟩

theorem optionalText_encodes {o : Option String} (h : o.all validText = true) :
    ∃ e, encodeValue (optionalText o) = .ok e := by
  cases o with
  | none => exact ⟨_, rfl⟩
  | some s => exact encodes_string (length_validText h)

theorem ProcedureEffectContext.value_encodes {c : ProcedureEffectContext} (h : c.validate = .ok ())
    (hmem : c.InMemory) : ∃ e, encodeValue c.value = .ok e := by
  obtain ⟨hcount, hfailure, htool, hmodel, hharness, halgorithm, hboundary, hanchor⟩ := validate_ok h
  have hphase : (utf8 (phaseName c.phaseKind)).length < 2 ^ 64 := by cases c.phaseKind <;> decide
  have hoperands : ∃ e, encodeValue (.sequence (c.operands.map bindingValue)) = .ok e := by
    obtain ⟨body, hbody⟩ := @encodeItems_of_forall (c.operands.map bindingValue) fun x hx => by
      obtain ⟨b, hb, rfl⟩ := List.mem_map.mp hx
      exact bindingValue_encodes (hmem b hb)
    have hlen : (c.operands.map bindingValue).length < 2 ^ 64 := by
      rw [List.length_map]
      unfold maxRefs at hcount
      omega
    rw [encodeValue, pushLen_ok.mpr ⟨hlen, rfl⟩, hbody]
    exact ⟨_, rfl⟩
  refine encodeValue_map_of_forall rfl (by decide : KeysFit ["acceptance_boundary_ref", "algorithm_revision", "anchor", "budget",
    "failure_signature", "harness_revision", "model_revision", "operands", "phase_kind", "procedure_revision_id",
    "task_id", "toolchain"]) ?_
  simp only [List.forall_mem_cons]
  exact ⟨encodes_string (length_validText hboundary), encodes_string (length_validText halgorithm),
    anchorValue_encodes hanchor, ⟨_, rfl⟩, optionalText_encodes hfailure, encodes_string (length_validText hharness),
    encodes_string (length_validText hmodel), hoperands, encodes_string hphase, encodes_string (length_toText _),
    encodes_string (length_toText _), encodes_string (length_validText htool), by simp⟩

/-- **An accepted context in memory has a fingerprint**, the hash of its text. -/
theorem ProcedureEffectContext.fingerprint_ok {c : ProcedureEffectContext} (H : Sha256) (h : c.validate = .ok ())
    (hmem : c.InMemory) : ∃ e, c.text = .ok e ∧ c.fingerprint H = .ok (H.hash e) := by
  obtain ⟨e, he, hsha⟩ := sha256_of_encodes (value_encodes h hmem) H fingerprintVersion
    (by decide : fingerprintTag ≠ "") (by decide)
  refine ⟨e, he, ?_⟩
  unfold fingerprint
  rw [h, ok_bind, hsha]
  rfl

/-! ## Projections -/

/-- mirrors evertrace-domain/src/procedure/effect.rs:219-222 -/
inductive ProcedureEffectEvidenceClass where
  | observationalAssociation
  | controlledComparison
  deriving DecidableEq

/-- mirrors evertrace-domain/src/procedure/effect.rs:226-231 -/
inductive ProcedureEffect where
  | insufficient
  | positive
  | mixed
  | negative
  deriving DecidableEq

/-- mirrors evertrace-domain/src/procedure/effect.rs:322-336 -/
structure ProcedureContextEffectProjection where
  procedureRevisionId : RevisionId
  contextFingerprintVersion : UInt32
  contextFingerprintHash : Digest
  context : ProcedureEffectContext
  evidenceClass : ProcedureEffectEvidenceClass
  effect : ProcedureEffect
  validUsageCount : Nat
  validPairCount : Nat
  practicalThresholdRevision : Nat
  evidenceRefs : List String
  sourceWatermark : Nat
  deriving DecidableEq

/-- mirrors evertrace-domain/src/procedure/effect.rs:339-358 -/
def ProcedureContextEffectProjection.validate (H : Sha256) (p : ProcedureContextEffectProjection) :
    Except SemanticError Unit := do
  p.context.validate
  let fingerprint ← p.context.fingerprint H
  ensure .invalidProcedure
    (p.procedureRevisionId == p.context.procedureRevisionId
      && p.contextFingerprintVersion == fingerprintVersion
      && p.contextFingerprintHash == fingerprint
      && p.practicalThresholdRevision != 0
      && validRefs p.evidenceRefs
      && p.sourceWatermark != 0
      && !(p.evidenceClass == .observationalAssociation && p.validPairCount != 0)
      && !(p.evidenceClass == .controlledComparison && p.validUsageCount != 0)
      && !(p.evidenceClass == .controlledComparison && p.effect == .insufficient && p.validPairCount ≥ 2))

/-- mirrors evertrace-domain/src/procedure/effect.rs:369-377 -/
structure ObservationalUsageInput where
  procedureUsageId : ProcedureUsageId
  context : ProcedureEffectContext
  outcomeSupported : Bool
  evidenceRefs : List String
  sourceWatermark : Nat
  deriving DecidableEq

/-- Digests are ordered as the numbers their bytes write. -/
instance : LinearOrder Digest :=
  LinearOrder.lift' (fun d => beNat d.bytes) fun c d h => by
    have hbytes : c.bytes = d.bytes := by
      have h : beNat c.bytes = beNat d.bytes := h
      rw [← beBytes_beNat c.bytes, ← beBytes_beNat d.bytes, h, c.length_eq, d.length_eq]
    cases c
    cases d
    cases hbytes
    rfl

abbrev EffectKey := RevisionId ×ₗ Digest

/-- mirrors the first lines of the loop, effect.rs:385-386 -/
def ObservationalUsageInput.normal (input : ObservationalUsageInput) : ObservationalUsageInput :=
  { input with evidenceRefs := sortDistinct utf8 input.evidenceRefs }

/-- mirrors evertrace-domain/src/procedure/effect.rs:382-392 -/
def groupUsages (H : Sha256) (inputs : List ObservationalUsageInput) :
    Except SemanticError (OrdMap EffectKey (List ObservationalUsageInput)) :=
  inputs.foldlM (fun groups input => do
    let input := input.normal
    let fingerprint ← input.context.fingerprint H
    return groups.push (toLex (input.context.procedureRevisionId, fingerprint)) input) .empty

/-- mirrors evertrace-domain/src/procedure/effect.rs:405-417 -/
def observationalEffect (values : List ObservationalUsageInput) : ProcedureEffect :=
  let successes := values.countP (·.outcomeSupported)
  if values.length < 2 then .insufficient
  else if successes = values.length then .positive
  else if successes = 0 then .negative
  else .mixed

/-- `u32::try_from`; a number of the range stays itself. -/
def tryU32 (n : Nat) : Except SemanticError Nat := do
  ensure .invalidProcedure (n < 2 ^ 32)
  return n

/-- One group of usages, in the order of their ids.
mirrors evertrace-domain/src/procedure/effect.rs:397-442 -/
def compileGroup (H : Sha256) (key : EffectKey) (values : List ObservationalUsageInput) :
    Except SemanticError ProcedureContextEffectProjection := do
  let first ← okOr .invalidProcedure values.head?
  ensure .invalidProcedure (values.all (·.context == first.context))
  let count ← tryU32 values.length
  let watermark ← okOr .invalidProcedure (values.map (·.sourceWatermark)).max?
  let projection : ProcedureContextEffectProjection := {
    procedureRevisionId := (ofLex key).1
    contextFingerprintVersion := fingerprintVersion
    contextFingerprintHash := (ofLex key).2
    context := first.context
    evidenceClass := .observationalAssociation
    effect := observationalEffect values
    validUsageCount := count
    validPairCount := 0
    practicalThresholdRevision := 1
    evidenceRefs := sortDistinct utf8 (values.flatMap (·.evidenceRefs))
    sourceWatermark := watermark }
  projection.validate H
  return projection

/-- mirrors evertrace-domain/src/procedure/effect.rs:379-445 -/
def compileObservationalEffects (H : Sha256) (inputs : List ObservationalUsageInput) :
    Except SemanticError (List ProcedureContextEffectProjection) := do
  let groups ← groupUsages H inputs
  groups.entries.mapM fun entry => compileGroup H entry.1 (sortByKey (·.procedureUsageId) entry.2)

/-! ## What the compilation is about -/

/-- SHA-256 does not collide on the texts behind the fingerprints of these usages. -/
def NoCollision (H : Sha256) (inputs : List ObservationalUsageInput) : Prop :=
  ∀ i ∈ inputs, ∀ j ∈ inputs, ∀ e f, i.context.text = .ok e → j.context.text = .ok f → H.hash e = H.hash f → e = f

/-- The usages that the compilation is called with. -/
structure Compilable (inputs : List ObservationalUsageInput) : Prop where
  ids : (inputs.map (·.procedureUsageId)).Nodup
  contexts : ∀ i ∈ inputs, i.context.validate = .ok ()
  inMemory : ∀ i ∈ inputs, i.context.InMemory
  refs : ∀ i ∈ inputs, i.evidenceRefs ≠ [] ∧ i.evidenceRefs.length ≤ maxRefs ∧ ∀ r ∈ i.evidenceRefs, validText r = true
  watermarks : ∀ i ∈ inputs, 0 < i.sourceWatermark

def groupOf (inputs : List ObservationalUsageInput) (context : ProcedureEffectContext) :
    List ObservationalUsageInput := inputs.filter (·.context = context)

/-- A group's usages are counted by a `u32`, and its references are at most as many as a projection holds. -/
def GroupFits (group : List ObservationalUsageInput) : Prop :=
  group.length < 2 ^ 32 ∧ (group.flatMap (·.evidenceRefs)).dedup.length ≤ maxRefs

instance (group : List ObservationalUsageInput) : Decidable (GroupFits group) := inferInstanceAs (Decidable (_ ∧ _))

/-- What the usages of a context say, and from how many of them. -/
structure EffectOf (H : Sha256) (group : List ObservationalUsageInput) (p : ProcedureContextEffectProjection) :
    Prop where
  valid : p.validate H = .ok ()
  observational : p.evidenceClass = .observationalAssociation ∧ p.validPairCount = 0
  count : p.validUsageCount = group.length
  insufficient : p.effect = .insufficient ↔ group.length < 2
  positive : p.effect = .positive ↔ 2 ≤ group.length ∧ ∀ i ∈ group, i.outcomeSupported = true
  negative : p.effect = .negative ↔ 2 ≤ group.length ∧ ∀ i ∈ group, i.outcomeSupported = false
  evidence : ∀ r, r ∈ p.evidenceRefs ↔ ∃ i ∈ group, r ∈ i.evidenceRefs
  watermark : (∃ i ∈ group, i.sourceWatermark = p.sourceWatermark) ∧
    ∀ i ∈ group, i.sourceWatermark ≤ p.sourceWatermark

/-- One projection for each context, and it says what the usages of the context do. -/
structure EffectsOf (H : Sha256) (inputs : List ObservationalUsageInput)
    (ps : List ProcedureContextEffectProjection) : Prop where
  distinct : (ps.map (·.context)).Nodup
  contexts : ∀ c, (∃ p ∈ ps, p.context = c) ↔ ∃ i ∈ inputs, i.context = c
  revisions : ∀ p ∈ ps, p.procedureRevisionId = p.context.procedureRevisionId
  effects : ∀ p ∈ ps, EffectOf H (groupOf inputs p.context) p

/-- The same usages in another order, with their references in another order. -/
def Reordered (inputs inputs' : List ObservationalUsageInput) : Prop :=
  ∃ middle, inputs.Perm middle ∧ middle.Forall₂ (fun i j =>
    ∃ refs, i.evidenceRefs.Perm refs ∧ j = { i with evidenceRefs := refs }) inputs'

/-! ## One group -/

theorem observationalEffect_insufficient {g : List ObservationalUsageInput} :
    observationalEffect g = .insufficient ↔ g.length < 2 := by
  unfold observationalEffect
  dsimp only
  split_ifs with h hall hnone <;> simp [h]

theorem observationalEffect_positive {g : List ObservationalUsageInput} :
    observationalEffect g = .positive ↔ 2 ≤ g.length ∧ ∀ i ∈ g, i.outcomeSupported = true := by
  have hall : g.countP (·.outcomeSupported) = g.length ↔ ∀ i ∈ g, i.outcomeSupported = true := List.countP_eq_length
  unfold observationalEffect
  dsimp only
  rw [← hall]
  split_ifs with h hall hnone <;> simp only [false_iff, true_iff] <;> omega

theorem observationalEffect_negative {g : List ObservationalUsageInput} :
    observationalEffect g = .negative ↔ 2 ≤ g.length ∧ ∀ i ∈ g, i.outcomeSupported = false := by
  have hnone : g.countP (·.outcomeSupported) = 0 ↔ ∀ i ∈ g, i.outcomeSupported = false := by
    simp [List.countP_eq_zero]
  unfold observationalEffect
  dsimp only
  rw [← hnone]
  split_ifs with h hall hnone <;> simp only [false_iff, true_iff] <;> omega

/-- The distinct references of a valid group, in order, make a valid list if there are not too many. -/
theorem validRefs_sortDistinct {refs : List String} (hne : refs ≠ []) (hvalid : ∀ r ∈ refs, validText r = true) :
    validRefs (sortDistinct utf8 refs) = true ↔ refs.dedup.length ≤ maxRefs := by
  have hsorted : strictlyIncreasing ((sortDistinct utf8 refs).map utf8) = true := by
    refine strictlyIncreasing_of_pairwise ?_
    have hle := sortByKey_pairwise utf8 refs.dedup
    have hn : (sortDistinct utf8 refs).Nodup := sortDistinct_nodup
    refine List.pairwise_map.mpr ((hle.and hn).imp fun ⟨hab, hne⟩ => ?_)
    exact Std.lt_of_le_of_ne hab fun h => hne (utf8_injective h)
  have hne' : sortDistinct utf8 refs ≠ [] := by
    obtain ⟨r, hr⟩ := List.exists_mem_of_ne_nil refs hne
    exact List.ne_nil_of_mem (mem_sortDistinct.mpr hr)
  rw [validRefs_iff, length_sortDistinct]
  exact ⟨fun h => h.2.1, fun h => ⟨hne', h, hsorted, fun r hr => hvalid r (mem_sortDistinct.mp hr)⟩⟩

/-- The grouping key of a context that has a fingerprint. -/
def ProcedureEffectContext.key (H : Sha256) (c : ProcedureEffectContext) : EffectKey :=
  toLex (c.procedureRevisionId, H.hash (c.text.toOption.getD []))

theorem ProcedureEffectContext.fingerprint_eq {c : ProcedureEffectContext} (H : Sha256) (h : c.validate = .ok ())
    (hmem : c.InMemory) : c.fingerprint H = .ok (ofLex (c.key H)).2 := by
  obtain ⟨e, he, hfp⟩ := fingerprint_ok H h hmem
  unfold key
  rw [hfp, he]
  rfl

section Group

variable {H : Sha256} {c : ProcedureEffectContext} {g : List ObservationalUsageInput}

/-- What a group compiles to, and when. -/
theorem compileGroup_ok (hvalid : c.validate = .ok ()) (hmem : c.InMemory) (hg : g ≠ [])
    (hcontext : ∀ i ∈ g, i.context = c) {p : ProcedureContextEffectProjection} :
    compileGroup H (c.key H) g = .ok p ↔ ∃ w, (g.map (·.sourceWatermark)).max? = some w ∧ g.length < 2 ^ 32 ∧
      p = ⟨c.procedureRevisionId, fingerprintVersion, (ofLex (c.key H)).2, c, .observationalAssociation,
        observationalEffect g, g.length, 0, 1, sortDistinct utf8 (g.flatMap (·.evidenceRefs)), w⟩ ∧
      p.validate H = .ok () := by
  obtain ⟨first, hfirst⟩ : ∃ first, g.head? = some first := by
    cases g with
    | nil => exact absurd rfl hg
    | cons a rest => exact ⟨a, rfl⟩
  have hfc : first.context = c := hcontext first (List.mem_of_head? hfirst)
  have hall : (g.all fun i => i.context == first.context) = true := by
    rw [List.all_eq_true]
    intro i hi
    rw [hcontext i hi, hfc]
    exact beq_self_eq_true c
  simp only [compileGroup, hfirst, bind_eq_ok, okOr_ok, ensure_ok, tryU32, decide_eq_true_eq, pure_eq_ok,
    Option.some.injEq]
  constructor
  · rintro ⟨_, rfl, _, -, _, ⟨_, hcount, rfl⟩, w, hw, _, hp, rfl⟩
    subst hfc
    exact ⟨w, hw, hcount, rfl, hp⟩
  · rintro ⟨w, hw, hcount, hp, hpv⟩
    subst hfc hp
    exact ⟨first, rfl, (), hall, g.length, ⟨(), hcount, rfl⟩, w, hw, (), hpv, rfl⟩

theorem compileGroup_ok_iff (hvalid : c.validate = .ok ()) (hmem : c.InMemory) (hg : g ≠ [])
    (hcontext : ∀ i ∈ g, i.context = c)
    (hrefs : ∀ i ∈ g, i.evidenceRefs ≠ [] ∧ ∀ r ∈ i.evidenceRefs, validText r = true)
    (hwatermarks : ∀ i ∈ g, 0 < i.sourceWatermark) :
    (∃ p, compileGroup H (c.key H) g = .ok p) ↔ GroupFits g := by
  have hne : g.flatMap (·.evidenceRefs) ≠ [] := by
    obtain ⟨i, hi⟩ := List.exists_mem_of_ne_nil g hg
    obtain ⟨r, hr⟩ := List.exists_mem_of_ne_nil _ (hrefs i hi).1
    exact List.ne_nil_of_mem (List.mem_flatMap.mpr ⟨i, hi, hr⟩)
  have hall : ∀ r ∈ g.flatMap (·.evidenceRefs), validText r = true := by
    intro r hr
    obtain ⟨i, hi, hr⟩ := List.mem_flatMap.mp hr
    exact (hrefs i hi).2 r hr
  have hfp := c.fingerprint_eq H hvalid hmem
  constructor
  · rintro ⟨p, hp⟩
    obtain ⟨w, -, hcount, rfl, hpv⟩ := (compileGroup_ok hvalid hmem hg hcontext).mp hp
    simp only [ProcedureContextEffectProjection.validate, bind_eq_ok, ensure_ok, Bool.and_eq_true] at hpv
    obtain ⟨_, -, _, -, hchecks⟩ := hpv
    exact ⟨hcount, (validRefs_sortDistinct hne hall).mp hchecks.1.1.1.1.2⟩
  · rintro ⟨hcount, hlen⟩
    obtain ⟨w, hw⟩ : ∃ w, (g.map (·.sourceWatermark)).max? = some w := by
      cases hmax : (g.map (·.sourceWatermark)).max? with
      | none => exact absurd (List.map_eq_nil_iff.mp (List.max?_eq_none_iff.mp hmax)) hg
      | some w => exact ⟨w, rfl⟩
    have hpos : w ≠ 0 := by
      obtain ⟨i, hi, rfl⟩ := List.mem_map.mp (List.max?_eq_some_iff.mp hw).1
      have := hwatermarks i hi
      omega
    refine ⟨_, (compileGroup_ok hvalid hmem hg hcontext).mpr ⟨w, hw, hcount, rfl, ?_⟩⟩
    unfold ProcedureContextEffectProjection.validate
    rw [hvalid, ok_bind, hfp, ok_bind, (validRefs_sortDistinct hne hall).mpr hlen]
    simp [ensure, hpos]

theorem compileGroup_effect (hvalid : c.validate = .ok ()) (hmem : c.InMemory) (hg : g ≠ [])
    (hcontext : ∀ i ∈ g, i.context = c) {p : ProcedureContextEffectProjection}
    (hp : compileGroup H (c.key H) g = .ok p) :
    p.context = c ∧ p.procedureRevisionId = c.procedureRevisionId ∧ EffectOf H g p := by
  obtain ⟨w, hw, hcount, rfl, hpv⟩ := (compileGroup_ok hvalid hmem hg hcontext).mp hp
  obtain ⟨hwmem, hwmax⟩ := List.max?_eq_some_iff.mp hw
  refine ⟨rfl, rfl, hpv, ⟨rfl, rfl⟩, rfl, observationalEffect_insufficient, observationalEffect_positive,
    observationalEffect_negative, fun r => ?_, ?_, fun i hi => hwmax _ (List.mem_map_of_mem hi)⟩
  · rw [mem_sortDistinct, List.mem_flatMap]
  · obtain ⟨i, hi, hiw⟩ := List.mem_map.mp hwmem
    exact ⟨i, hi, hiw⟩

end Group

/-! ### The order within a group, and the order of the references -/

theorem mem_normal {r : String} (i : ObservationalUsageInput) : r ∈ i.normal.evidenceRefs ↔ r ∈ i.evidenceRefs :=
  mem_sortDistinct

/-- What is said of a group does not depend on its order nor on the order of the references. -/
theorem EffectOf.of_normal {H : Sha256} {g g' : List ObservationalUsageInput} {p : ProcedureContextEffectProjection}
    (hg : g'.Perm (g.map (·.normal))) (h : EffectOf H g' p) : EffectOf H g p := by
  have hlen : g'.length = g.length := by rw [hg.length_eq, List.length_map]
  have hall : ∀ P : ObservationalUsageInput → Prop, (∀ i ∈ g', P i) ↔ ∀ i ∈ g, P i.normal := by
    intro P
    refine ⟨fun h i hi => h _ (hg.mem_iff.mpr (List.mem_map_of_mem hi)), fun h i hi => ?_⟩
    obtain ⟨j, hj, rfl⟩ := List.mem_map.mp (hg.mem_iff.mp hi)
    exact h j hj
  have hex : ∀ P : ObservationalUsageInput → Prop, (∃ i ∈ g', P i) ↔ ∃ i ∈ g, P i.normal := by
    intro P
    refine ⟨fun ⟨i, hi, hP⟩ => ?_, fun ⟨i, hi, hP⟩ => ⟨_, hg.mem_iff.mpr (List.mem_map_of_mem hi), hP⟩⟩
    obtain ⟨j, hj, rfl⟩ := List.mem_map.mp (hg.mem_iff.mp hi)
    exact ⟨j, hj, hP⟩
  refine ⟨h.valid, h.observational, h.count.trans hlen, ?_, ?_, ?_, fun r => ?_, ?_, ?_⟩
  · rw [h.insufficient, hlen]
  · rw [h.positive, hlen, hall fun i => i.outcomeSupported = true]
    rfl
  · rw [h.negative, hlen, hall fun i => i.outcomeSupported = false]
    rfl
  · rw [h.evidence, hex fun i => r ∈ i.evidenceRefs]
    simp only [mem_normal]
  · exact (hex fun i => i.sourceWatermark = p.sourceWatermark).mp h.watermark.1
  · exact (hall fun i => i.sourceWatermark ≤ p.sourceWatermark).mp h.watermark.2

theorem groupFits_of_normal {g g' : List ObservationalUsageInput} (hg : g'.Perm (g.map (·.normal))) :
    GroupFits g' ↔ GroupFits g := by
  have hrefs : (g'.flatMap (·.evidenceRefs)).dedup.length = (g.flatMap (·.evidenceRefs)).dedup.length := by
    refine ((List.perm_ext_iff_of_nodup (List.nodup_dedup _) (List.nodup_dedup _)).mpr fun r => ?_).length_eq
    rw [List.mem_dedup, List.mem_dedup, (hg.flatMap_right _).mem_iff, List.flatMap_map, List.mem_flatMap,
      List.mem_flatMap]
    simp only [mem_normal]
  unfold GroupFits
  rw [hg.length_eq, List.length_map, hrefs]

/-! ## All groups -/

def groups (H : Sha256) (inputs : List ObservationalUsageInput) : OrdMap EffectKey (List ObservationalUsageInput) :=
  OrdMap.groupBy (fun _ => true) (fun i => i.context.key H) (·.normal) inputs

theorem groupUsages_eq (H : Sha256) {inputs : List ObservationalUsageInput} (h : Compilable inputs) :
    groupUsages H inputs = .ok (groups H inputs) := by
  refine foldlM_ok_of_forall (fun i hi groups => ?_) _
  have hfp : i.normal.context.fingerprint H = .ok (ofLex (i.context.key H)).2 :=
    i.context.fingerprint_eq H (h.contexts i hi) (h.inMemory i hi)
  dsimp only
  rw [hfp, ok_bind, if_pos rfl]
  rfl

/-- The group under a key, in terms of the usages with their references in order. -/
theorem get_groups (H : Sha256) (inputs : List ObservationalUsageInput) (k : EffectKey) :
    (groups H inputs).get k =
      if (inputs.map (·.normal)).filter (fun i => i.context.key H = k) = [] then none
      else some ((inputs.map (·.normal)).filter fun i => i.context.key H = k) := by
  have hfilter : (inputs.map (·.normal)).filter (fun i => i.context.key H = k) =
      (inputs.filter fun i => i.context.key H = k).map (·.normal) := by
    rw [List.filter_map]
    rfl
  have hgroup := @OrdMap.get_groupBy EffectKey ObservationalUsageInput _ ObservationalUsageInput (fun _ => true)
    (fun i => i.context.key H) (·.normal) inputs k
  simp only [Bool.true_and] at hgroup
  rw [hfilter, groups, hgroup]
  simp only [List.map_eq_nil_iff]
  congr!

theorem NoCollision.key_inj {H : Sha256} {inputs : List ObservationalUsageInput} (hH : NoCollision H inputs)
    (h : Compilable inputs) {i j : ObservationalUsageInput} (hi : i ∈ inputs) (hj : j ∈ inputs)
    (hkey : i.context.key H = j.context.key H) : i.context = j.context := by
  obtain ⟨e, he, -⟩ := i.context.fingerprint_ok H (h.contexts i hi) (h.inMemory i hi)
  obtain ⟨f, hf, -⟩ := j.context.fingerprint_ok H (h.contexts j hj) (h.inMemory j hj)
  unfold ProcedureEffectContext.key at hkey
  rw [he, hf] at hkey
  have hhash : H.hash e = H.hash f := congrArg (fun k => (ofLex k).2) hkey
  have hef := hH i hi j hj e f he hf hhash
  subst hef
  exact ProcedureEffectContext.text_inj he hf

theorem filter_key {H : Sha256} {inputs : List ObservationalUsageInput} (hH : NoCollision H inputs)
    (h : Compilable inputs) {i : ObservationalUsageInput} (hi : i ∈ inputs) :
    (inputs.map (·.normal)).filter (fun j => j.context.key H = i.context.key H) =
      (groupOf inputs i.context).map (·.normal) := by
  unfold groupOf
  rw [List.filter_map]
  refine congrArg (List.map _) (List.filter_congr fun j hj => ?_)
  have hiff : j.context.key H = i.context.key H ↔ j.context = i.context :=
    ⟨hH.key_inj h hj hi, fun heq => by rw [heq]⟩
  exact decide_eq_decide.mpr hiff

theorem mem_groups {H : Sha256} {inputs : List ObservationalUsageInput} (hH : NoCollision H inputs)
    (h : Compilable inputs) {e : EffectKey × List ObservationalUsageInput} : e ∈ (groups H inputs).entries ↔
      ∃ i ∈ inputs, e = (i.context.key H, (groupOf inputs i.context).map (·.normal)) := by
  obtain ⟨k, vs⟩ := e
  rw [OrdMap.mem_entries, get_groups]
  constructor
  · intro hget
    split at hget
    · cases hget
    · next hne =>
      cases hget
      obtain ⟨j, hj⟩ := List.exists_mem_of_ne_nil _ hne
      obtain ⟨hj, hk⟩ := List.mem_filter.mp hj
      obtain ⟨i, hi, rfl⟩ := List.mem_map.mp hj
      have hk : i.context.key H = k := of_decide_eq_true hk
      subst hk
      exact ⟨i, hi, by rw [filter_key hH h hi]⟩
  · rintro ⟨i, hi, heq⟩
    cases heq
    have hmem : i.normal ∈ (groupOf inputs i.context).map (·.normal) :=
      List.mem_map_of_mem (List.mem_filter.mpr ⟨hi, decide_eq_true rfl⟩)
    rw [filter_key hH h hi, if_neg (List.ne_nil_of_mem hmem)]

section Compile

variable {H : Sha256} {inputs : List ObservationalUsageInput}

theorem compile_eq (h : Compilable inputs) : compileObservationalEffects H inputs =
    (groups H inputs).entries.mapM fun e => compileGroup H e.1 (sortByKey (·.procedureUsageId) e.2) := by
  unfold compileObservationalEffects
  rw [groupUsages_eq H h]
  rfl

def sortedGroup (inputs : List ObservationalUsageInput) (c : ProcedureEffectContext) : List ObservationalUsageInput :=
  sortByKey (·.procedureUsageId) ((groupOf inputs c).map (·.normal))

theorem sortedGroup_perm (inputs : List ObservationalUsageInput) (c : ProcedureEffectContext) :
    (sortedGroup inputs c).Perm ((groupOf inputs c).map (·.normal)) := sortByKey_perm _ _

theorem mem_sortedGroup {c : ProcedureEffectContext} {j : ObservationalUsageInput}
    (hj : j ∈ sortedGroup inputs c) : ∃ i ∈ inputs, i.context = c ∧ j = i.normal := by
  obtain ⟨i, hi, rfl⟩ := List.mem_map.mp ((sortedGroup_perm inputs c).mem_iff.mp hj)
  obtain ⟨hi, hc⟩ := List.mem_filter.mp hi
  exact ⟨i, hi, of_decide_eq_true hc, rfl⟩

theorem sortedGroup_ne_nil {i : ObservationalUsageInput} (hi : i ∈ inputs) : sortedGroup inputs i.context ≠ [] := by
  have hmem : i.normal ∈ (groupOf inputs i.context).map (·.normal) :=
    List.mem_map_of_mem (List.mem_filter.mpr ⟨hi, decide_eq_true rfl⟩)
  exact List.ne_nil_of_mem ((sortedGroup_perm inputs i.context).mem_iff.mpr hmem)

theorem sortedGroup_context {c : ProcedureEffectContext} : ∀ j ∈ sortedGroup inputs c, j.context = c := by
  intro j hj
  obtain ⟨i, -, hc, rfl⟩ := mem_sortedGroup hj
  exact hc

/-- **The compilation succeeds exactly when every group fits.** -/
theorem compile_ok_iff (hH : NoCollision H inputs) (h : Compilable inputs) :
    (∃ ps, compileObservationalEffects H inputs = .ok ps) ↔ ∀ i ∈ inputs, GroupFits (groupOf inputs i.context) := by
  have hgroup : ∀ i ∈ inputs, (∃ p, compileGroup H (i.context.key H) (sortedGroup inputs i.context) = .ok p) ↔
      GroupFits (groupOf inputs i.context) := by
    intro i hi
    rw [← groupFits_of_normal (sortedGroup_perm inputs i.context)]
    refine compileGroup_ok_iff (h.contexts i hi) (h.inMemory i hi) (sortedGroup_ne_nil hi) sortedGroup_context
      (fun j hj => ?_) (fun j hj => ?_)
    · obtain ⟨i', hi', -, rfl⟩ := mem_sortedGroup hj
      obtain ⟨hne, -, hvalid⟩ := h.refs i' hi'
      obtain ⟨r, hr⟩ := List.exists_mem_of_ne_nil _ hne
      exact ⟨List.ne_nil_of_mem ((mem_normal i').mpr hr), fun r hr => hvalid r ((mem_normal i').mp hr)⟩
    · obtain ⟨i', hi', -, rfl⟩ := mem_sortedGroup hj
      exact h.watermarks i' hi'
  rw [compile_eq h, exists_mapM_ok]
  constructor
  · intro hall i hi
    exact (hgroup i hi).mp (hall _ ((mem_groups hH h).mpr ⟨i, hi, rfl⟩))
  · intro hall e he
    obtain ⟨i, hi, rfl⟩ := (mem_groups hH h).mp he
    exact (hgroup i hi).mpr (hall i hi)

/-- Every projection comes from the usages of a context, and every context has one. -/
theorem mem_compile (hH : NoCollision H inputs) (h : Compilable inputs) {ps : List ProcedureContextEffectProjection}
    (hps : compileObservationalEffects H inputs = .ok ps) {p : ProcedureContextEffectProjection} :
    p ∈ ps ↔ ∃ i ∈ inputs, compileGroup H (i.context.key H) (sortedGroup inputs i.context) = .ok p := by
  rw [compile_eq h] at hps
  rw [mem_mapM_ok hps]
  constructor
  · rintro ⟨e, he, hp⟩
    obtain ⟨i, hi, rfl⟩ := (mem_groups hH h).mp he
    exact ⟨i, hi, hp⟩
  · rintro ⟨i, hi, hp⟩
    exact ⟨_, (mem_groups hH h).mpr ⟨i, hi, rfl⟩, hp⟩

/-- **What is compiled is the effect of each context.** -/
theorem compile_effects (hH : NoCollision H inputs) (h : Compilable inputs)
    {ps : List ProcedureContextEffectProjection} (hps : compileObservationalEffects H inputs = .ok ps) :
    EffectsOf H inputs ps := by
  have heffect : ∀ i ∈ inputs, ∀ p, compileGroup H (i.context.key H) (sortedGroup inputs i.context) = .ok p →
      p.context = i.context ∧ p.procedureRevisionId = i.context.procedureRevisionId ∧
        EffectOf H (sortedGroup inputs i.context) p := fun i hi p hp =>
    compileGroup_effect (h.contexts i hi) (h.inMemory i hi) (sortedGroup_ne_nil hi) sortedGroup_context hp
  refine ⟨?_, fun c => ⟨?_, ?_⟩, fun p hp => ?_, fun p hp => ?_⟩
  · -- the keys of the groups are distinct, and a context determines its key
    have hkeys : ps.map (fun p => p.context.key H) = (groups H inputs).entries.map Prod.fst := by
      rw [compile_eq h] at hps
      refine map_mapM_ok hps fun e he p hp => ?_
      obtain ⟨i, hi, rfl⟩ := (mem_groups hH h).mp he
      rw [(heffect i hi p hp).1]
    have hn := (groups H inputs).nodup_keys
    rw [← hkeys] at hn
    refine List.Nodup.of_map (ProcedureEffectContext.key H) ?_
    rw [List.map_map]
    exact hn
  · rintro ⟨p, hp, rfl⟩
    obtain ⟨i, hi, hp⟩ := (mem_compile hH h hps).mp hp
    exact ⟨i, hi, (heffect i hi p hp).1.symm⟩
  · rintro ⟨i, hi, rfl⟩
    have hall : ∀ e ∈ (groups H inputs).entries, ∃ p,
        compileGroup H e.1 (sortByKey (·.procedureUsageId) e.2) = .ok p := by
      rw [compile_eq h] at hps
      exact exists_mapM_ok.mp ⟨ps, hps⟩
    obtain ⟨p, hp⟩ := hall _ ((mem_groups hH h).mpr ⟨i, hi, rfl⟩)
    exact ⟨p, (mem_compile hH h hps).mpr ⟨i, hi, hp⟩, (heffect i hi p hp).1⟩
  · obtain ⟨i, hi, hp⟩ := (mem_compile hH h hps).mp hp
    obtain ⟨hc, hr, -⟩ := heffect i hi p hp
    rw [hr, hc]
  · obtain ⟨i, hi, hp⟩ := (mem_compile hH h hps).mp hp
    obtain ⟨hc, -, he⟩ := heffect i hi p hp
    rw [hc]
    exact he.of_normal (sortedGroup_perm inputs i.context)

end Compile

/-! ## The order of the input -/

theorem normal_congr {i : ObservationalUsageInput} {refs : List String} (h : i.evidenceRefs.Perm refs) :
    ({ i with evidenceRefs := refs } : ObservationalUsageInput).normal = i.normal := by
  unfold ObservationalUsageInput.normal
  rw [sortDistinct_congr (fun _ _ => utf8_injective) fun r => h.symm.mem_iff]

theorem Reordered.normal_perm {inputs inputs' : List ObservationalUsageInput} (h : Reordered inputs inputs') :
    (inputs.map (·.normal)).Perm (inputs'.map (·.normal)) := by
  obtain ⟨middle, hperm, hrefs⟩ := h
  have heq : middle.map (·.normal) = inputs'.map (·.normal) := by
    clear hperm
    induction hrefs with
    | nil => rfl
    | cons hab _ ih =>
      obtain ⟨refs, hperm, rfl⟩ := hab
      rw [List.map_cons, List.map_cons, ih, normal_congr hperm]
  rw [← heq]
  exact hperm.map _

/-- The groups, each sorted by the ids of its usages, do not depend on the order. -/
theorem sortedGroups_eq (H : Sha256) {inputs inputs' : List ObservationalUsageInput}
    (hn : (inputs.map (·.procedureUsageId)).Nodup)
    (hperm : (inputs.map (·.normal)).Perm (inputs'.map (·.normal))) :
    (groups H inputs).mapVal (sortByKey (·.procedureUsageId)) =
      (groups H inputs').mapVal (sortByKey (·.procedureUsageId)) := by
  refine OrdMap.ext_get fun k => ?_
  rw [OrdMap.get_mapVal, OrdMap.get_mapVal, get_groups, get_groups]
  have hfilter := hperm.filter fun i => i.context.key H = k
  have hids : (((inputs.map (·.normal)).filter fun i => i.context.key H = k).map (·.procedureUsageId)).Nodup := by
    refine List.Nodup.sublist (List.filter_sublist.map _) ?_
    rw [List.map_map]
    exact hn
  by_cases hnil : (inputs.map (·.normal)).filter (fun i => i.context.key H = k) = []
  · rw [if_pos hnil, if_pos (List.Perm.nil_eq (hnil ▸ hfilter)).symm]
  · have hnil' : (inputs'.map (·.normal)).filter (fun i => i.context.key H = k) ≠ [] := by
      intro hnil'
      rw [hnil'] at hfilter
      exact hnil hfilter.eq_nil
    rw [if_neg hnil, if_neg hnil', Option.map_some, Option.map_some, sortByKey_eq_of_perm _ hfilter hids]

theorem Compilable.of_reordered {inputs inputs' : List ObservationalUsageInput} (h : Compilable inputs)
    (hr : Reordered inputs inputs') : Compilable inputs' := by
  obtain ⟨middle, hperm, hrefs⟩ := hr
  have hmiddle : ∀ {middle inputs' : List ObservationalUsageInput}, middle.Forall₂ (fun i j =>
      ∃ refs, i.evidenceRefs.Perm refs ∧ j = { i with evidenceRefs := refs }) inputs' →
      inputs'.map (·.procedureUsageId) = middle.map (·.procedureUsageId) ∧ ∀ j ∈ inputs', ∃ i ∈ middle,
        ∃ refs, i.evidenceRefs.Perm refs ∧ j = { i with evidenceRefs := refs } := by
    intro middle inputs' hrefs
    induction hrefs with
    | nil => exact ⟨rfl, fun j hj => (by cases hj)⟩
    | cons hab _ ih =>
      obtain ⟨refs, hrefs, rfl⟩ := hab
      refine ⟨by rw [List.map_cons, List.map_cons, ih.1], fun j hj => ?_⟩
      rcases List.mem_cons.mp hj with rfl | hj
      · exact ⟨_, List.mem_cons_self, refs, hrefs, rfl⟩
      · obtain ⟨i, hi, hj⟩ := ih.2 j hj
        exact ⟨i, List.mem_cons_of_mem _ hi, hj⟩
  obtain ⟨hids, hmem⟩ := hmiddle hrefs
  have hfrom : ∀ j ∈ inputs', ∃ i ∈ inputs, ∃ refs, i.evidenceRefs.Perm refs ∧ j = { i with evidenceRefs := refs } := by
    intro j hj
    obtain ⟨i, hi, hj⟩ := hmem j hj
    exact ⟨i, hperm.mem_iff.mpr hi, hj⟩
  refine ⟨?_, fun j hj => ?_, fun j hj => ?_, fun j hj => ?_, fun j hj => ?_⟩
  · rw [hids]
    exact (hperm.map _).nodup_iff.mp h.ids
  · obtain ⟨i, hi, refs, -, rfl⟩ := hfrom j hj
    exact h.contexts i hi
  · obtain ⟨i, hi, refs, -, rfl⟩ := hfrom j hj
    exact h.inMemory i hi
  · obtain ⟨i, hi, refs, hperm, rfl⟩ := hfrom j hj
    obtain ⟨hne, hlen, hvalid⟩ := h.refs i hi
    refine ⟨fun hnil => hne ?_, hperm.length_eq ▸ hlen, fun r hr => hvalid r (hperm.mem_iff.mpr hr)⟩
    have hnil : refs = [] := hnil
    rw [hnil] at hperm
    exact hperm.eq_nil
  · obtain ⟨i, hi, refs, -, rfl⟩ := hfrom j hj
    exact h.watermarks i hi

/-- **The order of the usages and of their references makes no difference.** -/
theorem compile_eq_of_reordered {H : Sha256} {inputs inputs' : List ObservationalUsageInput} (h : Compilable inputs)
    (hr : Reordered inputs inputs') :
    compileObservationalEffects H inputs' = compileObservationalEffects H inputs := by
  have hsorted : ∀ inputs, ((groups H inputs).entries.mapM fun e =>
      compileGroup H e.1 (sortByKey (·.procedureUsageId) e.2)) =
      ((groups H inputs).mapVal (sortByKey (·.procedureUsageId))).entries.mapM fun e => compileGroup H e.1 e.2 := by
    intro inputs
    unfold OrdMap.mapVal
    rw [List.mapM_map]
    rfl
  rw [compile_eq h, compile_eq (h.of_reordered hr), hsorted, hsorted, sortedGroups_eq H h.ids hr.normal_perm]

end EverTrace.L2.Procedure
