import EverTrace.L2Machine.ConstraintKleene
import EverTrace.L2Machine.RecallDetector
import EverTrace.Lib.OrdMap
/-!
# The field index (`evertrace-engine/src/recall.rs`)

`evaluate` does not look at every trigger: it reads the positions stored under
the bound fields and evaluates the entries at these. An entry it leaves out has
no bound field, so its three expressions are unknown (`evaluate_unbound`), and
no reader that asks for a decided truth sees the difference.

Results: `evaluateIndexed_decides`, `evaluate_eq_indexed`.
-/
namespace EverTrace.L2.Recall
open EverTrace.Lib EverTrace.Lib.Kleene EverTrace.L1 EverTrace.L2.Semantic

/-! ## The index -/

/-- `result.entry(field).or_default().push(index)` for each field of one entry. -/
def indexEntry (result : OrdMap ConstraintField (List Nat)) (indexed : RecallTriggerEntry × Nat) :
    OrdMap ConstraintField (List Nat) :=
  (sortUnique indexed.1.fields).foldl (fun result field => result.push field indexed.2) result

/-- mirrors evertrace-engine/src/recall.rs:238-249 -/
def fieldEntries (entries : List RecallTriggerEntry) : OrdMap ConstraintField (List Nat) :=
  entries.zipIdx.foldl indexEntry .empty

def boundFields (current : ConstraintState) (previous : Option ConstraintState) : List ConstraintField :=
  (current.bindings ++ (previous.map ConstraintState.bindings).getD []).map ConstraintBinding.field

/-- The positions stored under the bound fields, as a `BTreeSet`. -/
def candidateIndices (entries : List RecallTriggerEntry) (current : ConstraintState)
    (previous : Option ConstraintState) : List Nat :=
  sortUnique ((boundFields current previous).flatMap fun field => ((fieldEntries entries).get field).getD [])

def RecallTriggerEntry.condition (current : ConstraintState) (previous : Option ConstraintState)
    (entry : RecallTriggerEntry) : FutureCueCandidateCondition where
  futureCueContractId := entry.contract.futureCueContractId
  matchTruth := entry.contract.matchExpr.evaluate current previous
  suppressTruth := entry.contract.suppressExpr.evaluate current previous
  resolveTruth := entry.contract.resolveExpr.evaluate current previous

/-- `none` when a position is out of range, where the source would panic.
mirrors evertrace-engine/src/recall.rs:205-235 -/
def evaluateIndexed (entries : List RecallTriggerEntry) (current : ConstraintState)
    (previous : Option ConstraintState) : Option (List FutureCueCandidateCondition) :=
  if current.validate.toOption.isNone ∨ previous.any (fun state => state.validate.toOption.isNone) then some []
  else (candidateIndices entries current previous).mapM fun index =>
    entries[index]?.map (RecallTriggerEntry.condition current previous)

/-! ## What the index holds -/

theorem fieldEntries_eq (entries : List RecallTriggerEntry) : fieldEntries entries =
    OrdMap.groupBy (fun _ => true) Prod.fst Prod.snd
      (entries.zipIdx.flatMap fun e => (sortUnique e.1.fields).map fun field => (field, e.2)) := by
  unfold fieldEntries OrdMap.groupBy indexEntry
  rw [List.foldl_flatMap]
  simp only [List.foldl_map, if_true]

/-- Under a field stand the positions of the entries that reference it. -/
theorem mem_fieldEntries {entries : List RecallTriggerEntry} {field : ConstraintField} {i : Nat} :
    i ∈ ((fieldEntries entries).get field).getD [] ↔ ∃ e, entries[i]? = some e ∧ field ∈ e.fields := by
  have hget : ((fieldEntries entries).get field).getD [] =
      ((entries.zipIdx.flatMap fun e => (sortUnique e.1.fields).map fun f => (f, e.2)).filter
        fun e => true && decide (e.1 = field)).map Prod.snd := by
    rw [fieldEntries_eq]
    unfold OrdMap.groupBy
    rw [OrdMap.getD_foldl_push, OrdMap.get_empty]
    rfl
  rw [hget, List.mem_map]
  simp only [Bool.true_and, List.mem_filter, List.mem_flatMap, List.mem_map, mem_sortUnique, decide_eq_true_eq]
  constructor
  · rintro ⟨⟨f, j⟩, ⟨⟨⟨e, k⟩, hmem, f', hf', heq⟩, rfl⟩, rfl⟩
    cases heq
    exact ⟨e, List.mem_zipIdx_iff_getElem?.mp hmem, hf'⟩
  · rintro ⟨e, he, hf⟩
    exact ⟨(field, i), ⟨⟨(e, i), List.mem_zipIdx_iff_getElem?.mpr he, field, hf, rfl⟩, rfl⟩, rfl⟩

def RecallTriggerEntry.bound (current : ConstraintState) (previous : Option ConstraintState)
    (entry : RecallTriggerEntry) : Bool :=
  (boundFields current previous).any fun field => entry.fields.contains field

theorem mem_candidateIndices {entries : List RecallTriggerEntry} {current : ConstraintState}
    {previous : Option ConstraintState} {i : Nat} : i ∈ candidateIndices entries current previous ↔
      ∃ e, entries[i]? = some e ∧ e.bound current previous = true := by
  unfold candidateIndices RecallTriggerEntry.bound
  simp only [mem_sortUnique, List.mem_flatMap, mem_fieldEntries, List.any_eq_true, List.contains_iff_mem]
  constructor
  · rintro ⟨f, hf, e, he, hmem⟩
    exact ⟨e, he, f, hf, hmem⟩
  · rintro ⟨e, he, f, hf, hmem⟩
    exact ⟨f, hf, e, he, hmem⟩

/-! ## An unbound expression is unknown -/

theorem kleeneTerms_ne_nil {now before : ConstraintField → Option ConstraintValue} {terms : List ConstraintExpr}
    (h : (!terms.isEmpty && terms.length ≤ maxBooleanTerms) = true) : kleeneTerms now before terms ≠ [] := by
  rw [kleeneTerms_eq_map]
  simp only [Bool.and_eq_true, Bool.not_eq_true', List.isEmpty_eq_false_iff] at h
  exact fun hnil => h.1 (List.map_eq_nil_iff.mp hnil)

section
variable {now before : ConstraintField → Option ConstraintValue}

mutual

/-- Where no field is bound no test answers, so neither does a validated expression. -/
theorem kleene_unbound : ∀ (e : ConstraintExpr) {depth nodes n : Nat}, e.validateInner depth nodes = .ok n →
    (∀ f ∈ e.referencedFields, now f = none ∧ before f = none) → e.kleene now before = none
  | .all terms, _, _, _, h, hun => by
    rw [ConstraintExpr.validateInner, ensure_bind_ok, ensure_bind_ok] at h
    obtain ⟨-, hne, hterms⟩ := h
    exact strong_all_none (kleeneTerms_ne_nil hne) (kleeneTerms_unbound terms hterms hun)
  | .any terms, _, _, _, h, hun => by
    rw [ConstraintExpr.validateInner, ensure_bind_ok, ensure_bind_ok] at h
    obtain ⟨-, hne, hterms⟩ := h
    exact strong_any_none (kleeneTerms_ne_nil hne) (kleeneTerms_unbound terms hterms hun)
  | .not term, _, _, _, h, hun => by
    rw [ConstraintExpr.validateInner, ensure_bind_ok] at h
    rw [ConstraintExpr.kleene, strongNot_eq, kleene_unbound term h.2 hun]
    rfl
  | .eq field _, _, _, _, _, hun | .in_ field _, _, _, _, _, hun | .exists_ field, _, _, _, _, hun
  | .changed field, _, _, _, _, hun | .transitioned field _ _, _, _, _, _, hun => by
    have := hun field (by simp [ConstraintExpr.referencedFields])
    simp [ConstraintExpr.kleene, this.1, this.2]

theorem kleeneTerms_unbound : ∀ (terms : List ConstraintExpr) {depth nodes n : Nat},
    validateTerms depth nodes terms = .ok n → (∀ f ∈ fieldsOf terms, now f = none ∧ before f = none) →
    ∀ x ∈ kleeneTerms now before terms, x = none
  | [], _, _, _, _, _, x, hx => by cases hx
  | t :: rest, _, _, _, h, hun, x, hx => by
    obtain ⟨m, ht, hrest⟩ := validateTerms_cons h
    rcases List.mem_cons.mp hx with rfl | hx
    · exact kleene_unbound t ht fun f hf => hun f (List.mem_append_left _ hf)
    · exact kleeneTerms_unbound rest hrest (fun f hf => hun f (List.mem_append_right _ hf)) x hx

end

end

section
variable {current : ConstraintState} {previous : Option ConstraintState}

theorem value_eq_none {s : ConstraintState} {f : ConstraintField} (h : f ∉ s.bindings.map ConstraintBinding.field) :
    s.value f = none := by
  unfold ConstraintState.value
  rw [Option.map_eq_none_iff, List.find?_eq_none]
  intro b hb heq
  exact h (List.mem_map.mpr ⟨b, hb, of_decide_eq_true heq⟩)

theorem evaluate_unbound (hc : current.validate = .ok ()) (hp : ValidPrevious previous) {e : ConstraintExpr}
    (h : ∀ f ∈ e.referencedFields, f ∉ boundFields current previous) :
    e.evaluate current previous = .unknown := by
  refine ConstraintTruth.answer_injective ?_
  rw [answer_evaluate hc hp, ConstraintExpr.kleeneIn, ConstraintTruth.answer_unknown]
  cases hok : e.validate.isOk with
  | false => rfl
  | true =>
    obtain ⟨n, hn⟩ := exists_of_isOk hok
    refine kleene_unbound e hn fun f hf => ?_
    have hf := h f hf
    unfold boundFields at hf
    rw [List.map_append, List.mem_append, not_or] at hf
    refine ⟨value_eq_none hf.1, ?_⟩
    cases previous with
    | none => rfl
    | some state => exact value_eq_none hf.2

theorem condition_unbound (hc : current.validate = .ok ()) (hp : ValidPrevious previous) {entry : RecallTriggerEntry}
    (h : entry.bound current previous = false) :
    (entry.condition current previous).matchTruth = .unknown ∧
      (entry.condition current previous).suppressTruth = .unknown ∧
      (entry.condition current previous).resolveTruth = .unknown := by
  have hnone : ∀ f ∈ entry.fields, f ∉ boundFields current previous := by
    intro f hf hbound
    have hany : entry.bound current previous = true := by
      unfold RecallTriggerEntry.bound
      exact List.any_eq_true.mpr ⟨f, hbound, List.contains_iff_mem.mpr hf⟩
    rw [h] at hany
    cases hany
  unfold RecallTriggerEntry.fields at hnone
  simp only [List.mem_append] at hnone
  exact ⟨evaluate_unbound hc hp fun f hf => hnone f (.inl (.inl hf)),
    evaluate_unbound hc hp fun f hf => hnone f (.inl (.inr hf)),
    evaluate_unbound hc hp fun f hf => hnone f (.inr hf)⟩

/-! ## The index and the entries -/

theorem not_invalid (hc : current.validate = .ok ()) (hp : ValidPrevious previous) :
    ¬(current.validate.toOption.isNone = true ∨ previous.any (fun state => state.validate.toOption.isNone) = true) := by
  rw [hc]
  cases previous with
  | none => simp [Except.toOption]
  | some state => simp [hp state rfl, Except.toOption]

/-- The index gives the conditions of the entries that reference a bound field, in entry order. -/
theorem evaluateIndexed_eq (hc : current.validate = .ok ()) (hp : ValidPrevious previous)
    (entries : List RecallTriggerEntry) : evaluateIndexed entries current previous =
      some ((entries.filter fun entry => entry.bound current previous).map fun entry =>
        entry.condition current previous) := by
  unfold evaluateIndexed
  rw [if_neg (not_invalid hc hp)]
  exact mapM_positions (sortUnique_pairwise _) fun i => mem_candidateIndices

/-- The evaluation that the worker uses is the index of its entries. -/
theorem RecallTriggerIndex.evaluate_eq_indexed (index : RecallTriggerIndex) (current : ConstraintState)
    (previous : Option ConstraintState) :
    evaluateIndexed index.entries current previous = some (index.evaluate current previous) := by
  unfold evaluateIndexed RecallTriggerIndex.evaluate
  split
  · rfl
  · have hread : (candidateIndices index.entries current previous).mapM (fun i =>
        index.entries[i]?.map (RecallTriggerEntry.condition current previous)) = some _ :=
      mapM_positions (sortUnique_pairwise _) fun i => mem_candidateIndices
    rw [hread]
    unfold RecallTriggerEntry.bound boundFields
    simp only [List.any_map]
    rfl

/-- What a filter drops is not decided: a test that needs a decided truth does not see the filter. -/
theorem filter_bound {entries : List RecallTriggerEntry} {q : FutureCueCandidateCondition → Bool}
    (hc : current.validate = .ok ()) (hp : ValidPrevious previous)
    (hq : ∀ c, c.matchTruth = .unknown → c.suppressTruth = .unknown → c.resolveTruth = .unknown → q c = false) :
    (((entries.filter fun entry => entry.bound current previous).map fun entry =>
      entry.condition current previous).filter q) =
      (entries.map fun entry => entry.condition current previous).filter q := by
  induction entries with
  | nil => rfl
  | cons entry rest ih =>
    cases hbound : entry.bound current previous with
    | true => rw [List.filter_cons_of_pos hbound, List.map_cons, List.map_cons, List.filter_cons,
        List.filter_cons, ih]
    | false =>
      obtain ⟨hmatch, hsuppress, hresolve⟩ := condition_unbound hc hp hbound
      have hno : ¬q (entry.condition current previous) = true := by
        rw [hq _ hmatch hsuppress hresolve]
        decide
      rw [List.filter_cons_of_neg (by rw [hbound]; decide), List.map_cons, List.filter_cons_of_neg hno, ih]

/-- **The field index hides no decided trigger.** On valid states the index gives the conditions of the
entries that reference a bound field, in entry order and equal to their direct evaluation, one for each
contract; an entry it leaves out is unknown in all three expressions; and a filter or a test for a decided
truth gives the same on its result as on the conditions of all entries. -/
theorem evaluateIndexed_decides (entries : List RecallTriggerEntry)
    (hids : (entries.map fun entry => entry.contract.futureCueContractId).Nodup)
    (hc : current.validate = .ok ()) (hp : ValidPrevious previous) :
    ∃ conditions, evaluateIndexed entries current previous = some conditions ∧
      conditions = (entries.filter fun entry => entry.bound current previous).map
        (fun entry => entry.condition current previous) ∧
      (∀ entry ∈ entries,
        conditions.filter (fun c => c.futureCueContractId = entry.contract.futureCueContractId) =
          if entry.bound current previous then [entry.condition current previous] else []) ∧
      (∀ entry ∈ entries, entry.bound current previous = false →
        entry.contract.matchExpr.evaluate current previous = .unknown ∧
          entry.contract.suppressExpr.evaluate current previous = .unknown ∧
          entry.contract.resolveExpr.evaluate current previous = .unknown) ∧
      ∀ q : FutureCueCandidateCondition → Bool,
        (∀ c, c.matchTruth = .unknown → c.suppressTruth = .unknown → c.resolveTruth = .unknown → q c = false) →
        conditions.filter q = (entries.map fun entry => entry.condition current previous).filter q ∧
          conditions.any q = (entries.map fun entry => entry.condition current previous).any q := by
  refine ⟨_, evaluateIndexed_eq hc hp entries, rfl, ?_, ?_, ?_⟩
  · intro entry hentry
    have hone := filter_key_eq_singleton hids entry hentry
    rw [List.filter_map, List.filter_filter]
    have hswap : (entries.filter fun e => ((fun c => decide (c.futureCueContractId =
        entry.contract.futureCueContractId)) ∘ RecallTriggerEntry.condition current previous) e &&
          e.bound current previous) = [entry].filter fun e => e.bound current previous := by
      rw [← hone, List.filter_filter]
      exact List.filter_congr fun e _ => Bool.and_comm _ _
    rw [hswap, List.filter_singleton]
    cases entry.bound current previous <;> rfl
  · exact fun entry _ hbound => condition_unbound hc hp hbound
  · intro q hq
    have hfilter := @filter_bound current previous entries q hc hp hq
    have hany : ∀ l : List FutureCueCandidateCondition, l.any q = (l.filter q).any q := by
      intro l
      rw [List.any_filter]
      simp
    exact ⟨hfilter, by rw [hany, hfilter, ← hany]⟩

end

/-- A trigger that waits for a phase. -/
def phaseEntry (n : Fin 16) (field : ConstraintField) (value : String) : RecallTriggerEntry where
  contract :=
    { futureCueContractId := ⟨List.replicate 32 (UInt8.ofNat n), List.length_replicate⟩
      sourceRevisionId := ⟨⟨0x70008000000000000000 + n.val, version7_lt n⟩⟩
      matchExpr := .eq field (.text value)
      suppressExpr := .not (.exists_ field)
      resolveExpr := .changed field }
  scope := .global

/-- Two triggers, of which the state binds the field of the second. -/
theorem evaluateIndexed_decides_two :
    let entries := [phaseEntry 1 .toolchain "lean", phaseEntry 2 .phase "review"]
    let current : ConstraintState := ⟨[⟨.phase, .text "review"⟩]⟩
    ∃ conditions, evaluateIndexed entries current none = some conditions ∧
      conditions.any (fun c => c.matchTruth == .true_) =
        (entries.map fun entry => entry.condition current none).any fun c => c.matchTruth == .true_ := by
  obtain ⟨conditions, hconditions, -, -, -, hdecided⟩ := evaluateIndexed_decides
    [phaseEntry 1 .toolchain "lean", phaseEntry 2 .phase "review"] (by decide +kernel)
    (show ConstraintState.validate ⟨[⟨.phase, .text "review"⟩]⟩ = .ok () by decide +kernel)
    (fun s (hs : none = some s) => by cases hs)
  exact ⟨conditions, hconditions, (hdecided _ fun c hmatch _ _ => by rw [hmatch]; rfl).2⟩

end EverTrace.L2.Recall
