import EverTrace.L2Machine.Constraint
import EverTrace.Lib.Kleene
/-!
# Evaluation is strong Kleene (`evertrace-domain/src/semantic/constraint.rs`)

A state binds some of the fields. A test answers when every field it reads is
bound, and the connectives are the strong Kleene ones, so an expression answers
exactly when its compositional three-valued reading does (`kleene`), and a
state that binds more, the old fields to the old values, keeps every answer
(`Extends`).

Result: `evaluate_monotone_kleene`.
-/
namespace EverTrace.L2.Semantic
open EverTrace.Lib EverTrace.Lib.Kleene EverTrace.L1 EverTrace.L2.Recall

/-! ## States as partial maps -/

/-- Every binding of the smaller state is in the larger. -/
def ConstraintState.Extends (small large : ConstraintState) : Prop :=
  ∀ binding ∈ small.bindings, binding ∈ large.bindings

/-- An absent state is below every state. -/
def ExtendsPrevious (small large : Option ConstraintState) : Prop :=
  ∀ s, small = some s → ∃ l, large = some l ∧ s.Extends l

/-- The states that `evaluate` reads. -/
def ValidPrevious (previous : Option ConstraintState) : Prop := ∀ s, previous = some s → s.validate = .ok ()

def previousValue (previous : Option ConstraintState) (field : ConstraintField) : Option ConstraintValue :=
  previous.bind fun state => state.value field

namespace ConstraintState

theorem nodup_of_validate {s : ConstraintState} (h : s.validate = .ok ()) :
    (s.bindings.map ConstraintBinding.field).Nodup := by
  unfold validate at h
  rw [ensure_bind_ok, Bool.and_eq_true] at h
  exact (pairwise_of_strictlyIncreasing h.1.2).imp fun hlt => ne_of_lt hlt

theorem value_eq_some {s : ConstraintState} (h : s.validate = .ok ()) {f : ConstraintField} {v : ConstraintValue} :
    s.value f = some v ↔ ⟨f, v⟩ ∈ s.bindings := by
  unfold value
  rw [Option.map_eq_some_iff]
  constructor
  · rintro ⟨⟨f', v'⟩, hfind, rfl⟩
    have hfield : f' = f := of_decide_eq_true (List.find?_some hfind :)
    subst hfield
    exact List.mem_of_find?_eq_some hfind
  · intro hmem
    cases hfind : s.bindings.find? (fun binding => binding.field = f) with
    | none =>
      have := List.find?_eq_none.mp hfind _ hmem
      simp at this
    | some b =>
      have hb := List.mem_of_find?_eq_some hfind
      have hfield : b.field = f := of_decide_eq_true (List.find?_some hfind :)
      have : b = ⟨f, v⟩ := List.inj_on_of_nodup_map (nodup_of_validate h) hb hmem hfield
      exact ⟨b, rfl, by rw [this]⟩

theorem Extends.value {s t : ConstraintState} (hst : s.Extends t) (hs : s.validate = .ok ())
    (ht : t.validate = .ok ()) {f : ConstraintField} {v : ConstraintValue} (hv : s.value f = some v) :
    t.value f = some v :=
  (value_eq_some ht).mpr (hst _ ((value_eq_some hs).mp hv))

end ConstraintState

theorem ExtendsPrevious.value {p p' : Option ConstraintState} (hpp : ExtendsPrevious p p') (hp : ValidPrevious p)
    (hp' : ValidPrevious p') {f : ConstraintField} {v : ConstraintValue} (hv : previousValue p f = some v) :
    previousValue p' f = some v := by
  obtain ⟨s, hs, hv⟩ := Option.bind_eq_some_iff.mp hv
  obtain ⟨l, hl, hext⟩ := hpp s hs
  exact Option.bind_eq_some_iff.mpr ⟨l, hl, hext.value (hp s hs) (hp' l hl) hv⟩

/-! ## The three-valued reading -/

/-- The answer in a truth value. -/
def ConstraintTruth.answer : ConstraintTruth → Option Bool
  | .true_ => some true
  | .false_ => some false
  | .unknown => none

mutual

/-- The strong Kleene value of an expression, from what the fields are bound to now and were bound to
before: a test of unbound fields has no value, a connective has the value on which all completions of
its terms agree. -/
noncomputable def ConstraintExpr.kleene (now before : ConstraintField → Option ConstraintValue) :
    ConstraintExpr → Option Bool
  | .all terms => strong (fun bs => bs.all id) (kleeneTerms now before terms)
  | .any terms => strong (fun bs => bs.any id) (kleeneTerms now before terms)
  | .not term => strongNot (term.kleene now before)
  | .eq field value => (now field).map fun observed => observed == value
  | .in_ field values => (now field).map fun observed => values.contains observed
  | .exists_ field => (now field).map fun _ => true
  | .changed field => (before field).bind fun old => (now field).map fun new => old != new
  | .transitioned field from_ to_ =>
    (before field).bind fun old => (now field).map fun new => old == from_ && new == to_

noncomputable def kleeneTerms (now before : ConstraintField → Option ConstraintValue) :
    List ConstraintExpr → List (Option Bool)
  | [] => []
  | term :: rest => term.kleene now before :: kleeneTerms now before rest

end

theorem kleeneTerms_eq_map (now before : ConstraintField → Option ConstraintValue) :
    ∀ terms : List ConstraintExpr, kleeneTerms now before terms = terms.map fun t => t.kleene now before
  | [] => rfl
  | _ :: rest => by rw [kleeneTerms, List.map_cons, kleeneTerms_eq_map now before rest]

mutual

theorem ConstraintExpr.kleene_mono {now now' before before' : ConstraintField → Option ConstraintValue}
    (hnow : ∀ f v, now f = some v → now' f = some v) (hbefore : ∀ f v, before f = some v → before' f = some v) :
    ∀ e : ConstraintExpr, Le (e.kleene now before) (e.kleene now' before')
  | .all terms => strong_mono _ (kleeneTerms_mono hnow hbefore terms)
  | .any terms => strong_mono _ (kleeneTerms_mono hnow hbefore terms)
  | .not term => strong_mono _ (.cons (ConstraintExpr.kleene_mono hnow hbefore term) .nil)
  | .eq field _ | .in_ field _ | .exists_ field => by
    intro b hb
    obtain ⟨v, hv, hval⟩ := Option.map_eq_some_iff.mp hb
    exact Option.map_eq_some_iff.mpr ⟨v, hnow field v hv, hval⟩
  | .changed field | .transitioned field _ _ => by
    intro b hb
    obtain ⟨old, hold, hb⟩ := Option.bind_eq_some_iff.mp hb
    obtain ⟨new, hnew, hval⟩ := Option.map_eq_some_iff.mp hb
    exact Option.bind_eq_some_iff.mpr
      ⟨old, hbefore field old hold, Option.map_eq_some_iff.mpr ⟨new, hnow field new hnew, hval⟩⟩

theorem kleeneTerms_mono {now now' before before' : ConstraintField → Option ConstraintValue}
    (hnow : ∀ f v, now f = some v → now' f = some v) (hbefore : ∀ f v, before f = some v → before' f = some v) :
    ∀ terms : List ConstraintExpr,
      List.Forall₂ Le (kleeneTerms now before terms) (kleeneTerms now' before' terms)
  | [] => .nil
  | term :: rest => .cons (ConstraintExpr.kleene_mono hnow hbefore term) (kleeneTerms_mono hnow hbefore rest)

end

/-! ## The folds of `evaluate_inner` -/

namespace ConstraintTruth

theorem and_eq_true {a b : ConstraintTruth} : a.and b = .true_ ↔ a = .true_ ∧ b = .true_ := by
  cases a <;> cases b <;> simp [ConstraintTruth.and]

theorem and_eq_false {a b : ConstraintTruth} : a.and b = .false_ ↔ a = .false_ ∨ b = .false_ := by
  cases a <;> cases b <;> simp [ConstraintTruth.and]

theorem or_eq_true {a b : ConstraintTruth} : a.or b = .true_ ↔ a = .true_ ∨ b = .true_ := by
  cases a <;> cases b <;> simp [ConstraintTruth.or]

theorem or_eq_false {a b : ConstraintTruth} : a.or b = .false_ ↔ a = .false_ ∧ b = .false_ := by
  cases a <;> cases b <;> simp [ConstraintTruth.or]

@[simp] theorem answer_eq_true {a : ConstraintTruth} : a.answer = some true ↔ a = .true_ := by
  cases a <;> simp [answer]

@[simp] theorem answer_eq_false {a : ConstraintTruth} : a.answer = some false ↔ a = .false_ := by
  cases a <;> simp [answer]

@[simp] theorem answer_true : true_.answer = some true := rfl

@[simp] theorem answer_unknown : unknown.answer = none := rfl

@[simp] theorem answer_ofBool (b : Bool) : (ofBool b).answer = some b := by
  cases b <;> rfl

@[simp] theorem answer_not (a : ConstraintTruth) : a.not.answer = a.answer.map Bool.not := by
  cases a <;> rfl

theorem answer_injective {a b : ConstraintTruth} (h : a.answer = b.answer) : a = b := by
  cases a <;> cases b <;> first | rfl | cases h

end ConstraintTruth

section
variable {current : ConstraintState} {previous : Option ConstraintState}

theorem evaluateAll_eq_true {value : ConstraintTruth} : ∀ {terms : List ConstraintExpr},
    evaluateAll current previous value terms = .true_ ↔
      value = .true_ ∧ ∀ t ∈ terms, t.evaluateInner current previous = .true_ := by
  intro terms
  induction terms generalizing value with
  | nil => simp [evaluateAll]
  | cons t rest ih => rw [evaluateAll, ih, ConstraintTruth.and_eq_true, List.forall_mem_cons, and_assoc]

theorem evaluateAll_eq_false {value : ConstraintTruth} : ∀ {terms : List ConstraintExpr},
    evaluateAll current previous value terms = .false_ ↔
      value = .false_ ∨ ∃ t ∈ terms, t.evaluateInner current previous = .false_ := by
  intro terms
  induction terms generalizing value with
  | nil => simp [evaluateAll]
  | cons t rest ih => rw [evaluateAll, ih, ConstraintTruth.and_eq_false, List.exists_mem_cons_iff, or_assoc]

theorem evaluateAny_eq_true {value : ConstraintTruth} : ∀ {terms : List ConstraintExpr},
    evaluateAny current previous value terms = .true_ ↔
      value = .true_ ∨ ∃ t ∈ terms, t.evaluateInner current previous = .true_ := by
  intro terms
  induction terms generalizing value with
  | nil => simp [evaluateAny]
  | cons t rest ih => rw [evaluateAny, ih, ConstraintTruth.or_eq_true, List.exists_mem_cons_iff, or_assoc]

theorem evaluateAny_eq_false {value : ConstraintTruth} : ∀ {terms : List ConstraintExpr},
    evaluateAny current previous value terms = .false_ ↔
      value = .false_ ∧ ∀ t ∈ terms, t.evaluateInner current previous = .false_ := by
  intro terms
  induction terms generalizing value with
  | nil => simp [evaluateAny]
  | cons t rest ih => rw [evaluateAny, ih, ConstraintTruth.or_eq_false, List.forall_mem_cons, and_assoc]

/-- The fold over a conjunction is the strong reading of the answers. -/
theorem answer_evaluateAll (terms : List ConstraintExpr) :
    (evaluateAll current previous .true_ terms).answer =
      strong (fun bs => bs.all id) (terms.map fun t => (t.evaluateInner current previous).answer) := by
  refine eq_of_some_iff fun b => ?_
  rw [strong_eq_some]
  cases b with
  | true => simp [strong_all_true, evaluateAll_eq_true]
  | false =>
    rw [ConstraintTruth.answer_eq_false, evaluateAll_eq_false, strong_all_false, List.mem_map]
    simp

/-- The fold over a disjunction is the strong reading of the answers. -/
theorem answer_evaluateAny (terms : List ConstraintExpr) :
    (evaluateAny current previous .false_ terms).answer =
      strong (fun bs => bs.any id) (terms.map fun t => (t.evaluateInner current previous).answer) := by
  refine eq_of_some_iff fun b => ?_
  rw [strong_eq_some]
  cases b with
  | true =>
    rw [ConstraintTruth.answer_eq_true, evaluateAny_eq_true, strong_any_true, List.mem_map]
    simp
  | false => simp [strong_any_false, evaluateAny_eq_false]

/-! ## Evaluation is the three-valued reading -/

theorem validateTerms_cons {depth nodes n : Nat} {t : ConstraintExpr} {rest : List ConstraintExpr}
    (h : validateTerms depth nodes (t :: rest) = .ok n) :
    ∃ m, t.validateInner depth nodes = .ok m ∧ validateTerms depth m rest = .ok n := by
  rw [validateTerms] at h
  exact bind_eq_ok.mp h

mutual

/-- A validated expression answers what its three-valued reading does. -/
theorem ConstraintExpr.answer_evaluateInner : ∀ (e : ConstraintExpr) {depth nodes n : Nat},
    e.validateInner depth nodes = .ok n →
      (e.evaluateInner current previous).answer = e.kleene current.value (previousValue previous)
  | .all terms, depth, nodes, n, h => by
    rw [ConstraintExpr.validateInner, ensure_bind_ok, ensure_bind_ok] at h
    rw [ConstraintExpr.evaluateInner, answer_evaluateAll, ConstraintExpr.kleene, answer_terms terms h.2.2]
  | .any terms, depth, nodes, n, h => by
    rw [ConstraintExpr.validateInner, ensure_bind_ok, ensure_bind_ok] at h
    rw [ConstraintExpr.evaluateInner, answer_evaluateAny, ConstraintExpr.kleene, answer_terms terms h.2.2]
  | .not term, depth, nodes, n, h => by
    rw [ConstraintExpr.validateInner, ensure_bind_ok] at h
    rw [ConstraintExpr.evaluateInner, ConstraintTruth.answer_not, ConstraintExpr.kleene, strongNot_eq,
      ConstraintExpr.answer_evaluateInner term h.2]
  | .eq field value, _, _, _, _ => by
    rw [ConstraintExpr.evaluateInner, ConstraintExpr.kleene]
    cases current.value field <;> simp
  | .in_ field values, _, _, _, _ => by
    rw [ConstraintExpr.evaluateInner, ConstraintExpr.kleene]
    cases current.value field <;> simp
  | .exists_ field, _, _, _, _ => by
    rw [ConstraintExpr.evaluateInner, ConstraintExpr.kleene]
    cases current.value field <;> simp
  | .changed field, _, _, _, _ => by
    cases previous with
    | none => rfl
    | some state =>
      simp only [ConstraintExpr.evaluateInner, ConstraintExpr.kleene, previousValue, Option.bind_some]
      cases state.value field <;> cases current.value field <;> simp
  | .transitioned field from_ to_, _, _, _, h => by
    simp only [ConstraintExpr.validateInner, ensure_bind_ok] at h
    obtain ⟨_, -, h⟩ := bind_eq_ok.mp h.2
    obtain ⟨_, -, h⟩ := bind_eq_ok.mp h
    rw [ensure_bind_ok] at h
    have hguard : (!field.supportsTransition || from_ == to_) = false := by
      simp only [Bool.and_eq_true, bne_iff_ne] at h
      simp [h.1.1.1.1, h.1.2]
    cases previous with
    | none => simp [ConstraintExpr.evaluateInner, ConstraintExpr.kleene, previousValue]
    | some state =>
      simp only [ConstraintExpr.evaluateInner, ConstraintExpr.kleene, previousValue, Option.bind_some, hguard,
        if_neg Bool.false_ne_true]
      cases state.value field <;> cases current.value field <;> simp

theorem answer_terms : ∀ (terms : List ConstraintExpr) {depth nodes n : Nat},
    validateTerms depth nodes terms = .ok n →
      terms.map (fun t => (t.evaluateInner current previous).answer) =
        kleeneTerms current.value (previousValue previous) terms
  | [], _, _, _, _ => rfl
  | t :: rest, _, _, _, h => by
    obtain ⟨m, ht, hrest⟩ := validateTerms_cons h
    rw [List.map_cons, kleeneTerms, ConstraintExpr.answer_evaluateInner t ht, answer_terms rest hrest]

end

end

/-- On valid states a validated expression is evaluated, any other is unknown. -/
theorem evaluate_of_valid {e : ConstraintExpr} {c : ConstraintState} {p : Option ConstraintState}
    (hc : c.validate = .ok ()) (hp : ValidPrevious p) :
    e.evaluate c p = if e.validate.isOk then e.evaluateInner c p else .unknown := by
  have hprevious : p.any (fun state => state.validate.toOption.isNone) = false := by
    cases p with
    | none => rfl
    | some s => simp [hp s rfl, Except.toOption]
  unfold ConstraintExpr.evaluate
  rw [hc, hprevious]
  cases e.validate <;> simp [Except.toOption, Except.isOk, Except.toBool]

/-- The strong Kleene value of an expression in a pair of states; an expression that does not validate
has none. -/
noncomputable def ConstraintExpr.kleeneIn (e : ConstraintExpr) (c : ConstraintState) (p : Option ConstraintState) :
    Option Bool :=
  if e.validate.isOk then e.kleene c.value (previousValue p) else none

theorem answer_evaluate {e : ConstraintExpr} {c : ConstraintState} {p : Option ConstraintState}
    (hc : c.validate = .ok ()) (hp : ValidPrevious p) : (e.evaluate c p).answer = e.kleeneIn c p := by
  rw [evaluate_of_valid hc hp, ConstraintExpr.kleeneIn]
  cases hok : e.validate.isOk with
  | true =>
    obtain ⟨n, hn⟩ := exists_of_isOk hok
    exact ConstraintExpr.answer_evaluateInner e hn
  | false => rfl

theorem evaluate_mono {e : ConstraintExpr} {c c' : ConstraintState} {p p' : Option ConstraintState}
    (hc : c.validate = .ok ()) (hc' : c'.validate = .ok ()) (hp : ValidPrevious p) (hp' : ValidPrevious p')
    (hcc : c.Extends c') (hpp : ExtendsPrevious p p') (hdecided : e.evaluate c p ≠ .unknown) :
    e.evaluate c' p' = e.evaluate c p := by
  have hle : Le (e.kleeneIn c p) (e.kleeneIn c' p') := by
    unfold ConstraintExpr.kleeneIn
    cases e.validate.isOk with
    | true => exact ConstraintExpr.kleene_mono (fun _ _ => hcc.value hc hc') (fun _ _ => hpp.value hp hp') e
    | false => exact none_le _
  refine ConstraintTruth.answer_injective ?_
  rw [← answer_evaluate hc hp, ← answer_evaluate hc' hp'] at hle
  cases h : e.evaluate c p with
  | unknown => exact absurd h hdecided
  | true_ => exact hle true (by rw [h]; rfl)
  | false_ => exact hle false (by rw [h]; rfl)

/-- **Evaluation is monotone and strong Kleene.** On valid states the answer of an expression is its
strong Kleene value, a decided answer is kept by every pair of valid states that binds more, and where two
such pairs decide differently the answer is unknown. -/
theorem evaluate_monotone_kleene (e : ConstraintExpr) (c : ConstraintState) (p : Option ConstraintState)
    (hc : c.validate = .ok ()) (hp : ValidPrevious p) :
    (e.evaluate c p).answer = e.kleeneIn c p ∧
      (∀ c' p', c'.validate = .ok () → ValidPrevious p' → c.Extends c' → ExtendsPrevious p p' →
        e.evaluate c p ≠ .unknown → e.evaluate c' p' = e.evaluate c p) ∧
      (∀ c₁ p₁ c₂ p₂, c₁.validate = .ok () → ValidPrevious p₁ → c.Extends c₁ → ExtendsPrevious p p₁ →
        c₂.validate = .ok () → ValidPrevious p₂ → c.Extends c₂ → ExtendsPrevious p p₂ →
        e.evaluate c₁ p₁ = .true_ → e.evaluate c₂ p₂ = .false_ → e.evaluate c p = .unknown) := by
  refine ⟨answer_evaluate hc hp, fun c' p' hc' hp' hcc hpp => evaluate_mono hc hc' hp hp' hcc hpp, ?_⟩
  intro c₁ p₁ c₂ p₂ hc₁ hp₁ hcc₁ hpp₁ hc₂ hp₂ hcc₂ hpp₂ htrue hfalse
  by_contra hdecided
  have h₁ := evaluate_mono hc hc₁ hp hp₁ hcc₁ hpp₁ hdecided
  have h₂ := evaluate_mono hc hc₂ hp hp₂ hcc₂ hpp₂ hdecided
  rw [← h₂, hfalse, htrue] at h₁
  cases h₁

/-- A test under a negation: what the phase alone decides stays decided when the verifier is known too. -/
theorem evaluate_monotone_kleene_not :
    let c : ConstraintState := ⟨[⟨.phase, .text "review"⟩]⟩
    let c' : ConstraintState := ⟨[⟨.verifierState, .text "passed"⟩, ⟨.phase, .text "review"⟩]⟩
    let e : ConstraintExpr := .not (.all [.eq .phase (.text "review"), .exists_ .phase])
    e.evaluate c none = .false_ ∧ e.evaluate c' (some c') = e.evaluate c none :=
  ⟨by decide +kernel, (evaluate_monotone_kleene _ _ _ (by decide +kernel) (fun _ h => by cases h)).2.1 _ _
    (by decide +kernel) (fun _ h => by cases h; decide +kernel)
    (by unfold ConstraintState.Extends; decide +kernel) (fun _ h => by cases h) (by decide +kernel)⟩

end EverTrace.L2.Semantic
