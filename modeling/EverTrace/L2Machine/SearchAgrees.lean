import EverTrace.L2Machine.SearchFilter
/-!
# The filter and the test in memory (`evertrace-engine/src/search/production.rs`)

The index is asked with a condition and cuts its answer at a limit; `hardCompatible`
tests the rows that come back. A clause of the condition that the test does not have
would let the limit hide rows that may be shown.

Results, for object rows that may be stored:
* `condition_iff`: the condition of a context's filter is true of exactly the rows that
  meet its clauses.
* `filter_agrees`: the text of the filter is true of every row that the test lets through,
  and what it is true of is free of suppressed references and fits the context.
-/
namespace EverTrace.L2.Search
open EverTrace.Lib EverTrace.L1
open Sql (Conjunction Disjunction Atom equals among)

/-! ## The parts of a condition -/

section

variable {row : SearchProjectionRow}

theorem memberTest_eval {column : Column} {value : String} (h : row.columns column = some (.text value))
    (negated : Bool) (values : Finset String) :
    (memberTest column negated values).eval row.columns = some (decide (value ∈ values) != negated) := by
  have hmem : value ∈ values ↔ value ∈ values.sort (· ≤ ·) := (Finset.mem_sort _).symm
  unfold memberTest
  cases hsort : values.sort (· ≤ ·) with
  | nil =>
    rw [hsort] at hmem
    simp [Atom.eval, hmem]
  | cons first rest =>
    rw [hsort] at hmem
    show (among column negated first rest).eval row.columns = _
    rw [Sql.eval_among h]
    simp only [hmem]

theorem otherKind_eval (kind : String) :
    (Atom.compare Column.objectKind .ne (.text kind)).eval row.columns = some true ↔
      ∃ found, row.objectKind = some found ∧ found ≠ kind := by
  cases hkind : row.objectKind with
  | none => simp [Atom.eval, SearchProjectionRow.columns, hkind]
  | some found =>
    simp [Atom.eval, SearchProjectionRow.columns, hkind, Sql.Comparison.compare, Sql.Comparison.holds, Sql.Scalar.value]

theorem isNull_eval (column : Column) :
    (Atom.isNull column false).eval row.columns = some true ↔ row.columns column = none := by
  cases hcolumn : row.columns column <;> simp [Atom.eval, hcolumn]

/-- Rows of the kind need a candidate from the set, other rows nothing. -/
theorem revisionPart_eval {candidate : String} (h : row.candidateId = some candidate) (kind : String)
    (revisions : Finset String) :
    (revisionPart kind revisions).eval row.columns = some true ↔ (row.objectKind = some kind → candidate ∈ revisions) := by
  have hcolumn : row.columns .candidateId = some (.text candidate) := by
    show row.candidateId.map Sql.Value.text = _
    rw [h]
    rfl
  have hnull : row.columns .objectKind = none ↔ row.objectKind = none := Option.map_eq_none_iff
  rw [revisionPart, Sql.Disjunction.eval_condition, Sql.Disjunction.eval_any]
  simp only [List.mem_cons, List.not_mem_nil, or_false, exists_eq_or_imp, exists_eq_left, Sql.Atom.eval_condition,
    Sql.Disjunction.eval_condition, Disjunction.eval, isNull_eval, otherKind_eval, memberTest_eval hcolumn, hnull]
  cases row.objectKind with
  | none => simp
  | some found => by_cases hfound : found = kind <;> simp [hfound]

theorem equalsParts_eval (values : List (Column × Option String)) :
    (∀ c ∈ equalsParts values, c.eval row.columns = some true) ↔
      ∀ entry ∈ values, ∀ value ∈ entry.2, row.columns entry.1 = some (.text value) := by
  unfold equalsParts
  simp only [List.mem_filterMap, Option.map_eq_some_iff]
  constructor
  · intro h entry hentry value hvalue
    have heval := h _ ⟨entry, hentry, value, hvalue, rfl⟩
    rwa [Sql.Atom.eval_condition, Sql.eval_equals] at heval
  · intro h c hc
    obtain ⟨entry, hentry, value, hvalue, rfl⟩ := hc
    rw [Sql.Atom.eval_condition, Sql.eval_equals]
    exact h entry hentry value hvalue

theorem equalsParts_eval_any (values : List (Column × Option String)) :
    (∃ c ∈ equalsParts values, c.eval row.columns = some true) ↔
      ∃ entry ∈ values, ∃ value ∈ entry.2, row.columns entry.1 = some (.text value) := by
  unfold equalsParts
  simp only [List.mem_filterMap, Option.map_eq_some_iff]
  constructor
  · intro h
    obtain ⟨_, ⟨entry, hentry, value, hvalue, rfl⟩, heval⟩ := h
    rw [Sql.Atom.eval_condition, Sql.eval_equals] at heval
    exact ⟨entry, hentry, value, hvalue, heval⟩
  · intro h
    obtain ⟨entry, hentry, value, hvalue, heval⟩ := h
    exact ⟨_, ⟨entry, hentry, value, hvalue, rfl⟩, by rw [Sql.Atom.eval_condition, Sql.eval_equals]; exact heval⟩

theorem equalsParts_eq_nil {values : List (Column × Option String)} :
    equalsParts values = [] ↔ ∀ entry ∈ values, entry.2 = none := by
  simp [equalsParts, List.filterMap_eq_nil_iff]

theorem text_eq_some {o : Option String} {value : String} :
    o.map Sql.Value.text = some (.text value) ↔ o = some value := by
  cases o <;> simp

/-- One of the scopes that the filter names, if it names one. -/
theorem scopeParts_eval (filter : SearchHardFilter) :
    (∀ c ∈ scopeParts filter, c.eval row.columns = some true) ↔
      (filter.taskId = none ∧ filter.repositoryId = none ∧ filter.worktreeId = none) ∨
        (∃ value ∈ filter.taskId, row.taskId = some value) ∨ (∃ value ∈ filter.repositoryId, row.repositoryId = some value)
          ∨ ∃ value ∈ filter.worktreeId, row.worktreeId = some value := by
  have hnone := @equalsParts_eq_nil [(.taskId, filter.taskId), (.repositoryId, filter.repositoryId),
    (.worktreeId, filter.worktreeId)]
  have hany := @equalsParts_eval_any row [(.taskId, filter.taskId), (.repositoryId, filter.repositoryId),
    (.worktreeId, filter.worktreeId)]
  simp only [List.mem_cons, List.not_mem_nil, or_false, forall_eq_or_imp, forall_eq, exists_eq_or_imp, exists_eq_left,
    SearchProjectionRow.columns, text_eq_some] at hnone hany
  unfold scopeParts
  cases hparts : equalsParts [(.taskId, filter.taskId), (.repositoryId, filter.repositoryId),
      (.worktreeId, filter.worktreeId)] with
  | nil => simp [hnone.mp hparts]
  | cons first rest =>
    rw [hparts] at hnone hany
    simp only [reduceCtorEq, false_iff] at hnone
    simp only [List.mem_singleton, forall_eq, Sql.Disjunction.eval_condition, Sql.Disjunction.eval_any, hany, hnone,
      false_or]

theorem suppressionParts_eval {candidate source : String} (hcandidate : row.candidateId = some candidate)
    (hsource : row.sourceRef = some source) (hhash : row.suppressionRefHash = none) (filter : SearchHardFilter) :
    (∀ c ∈ suppressionParts filter, c.eval row.columns = some true) ↔
      candidate ∉ filter.suppressedRefs ∧ source ∉ filter.suppressedRefs := by
  have hcandidatecolumn : row.columns .candidateId = some (.text candidate) := text_eq_some.mpr hcandidate
  have hsourcecolumn : row.columns .sourceRef = some (.text source) := text_eq_some.mpr hsource
  have hnull : row.columns .suppressionRefHash = none := Option.map_eq_none_iff.mpr hhash
  have hhashes : ∀ c ∈ (if filter.suppressedHashes = ∅ then [] else
      [(Disjunction.any (Atom.isNull .suppressionRefHash false).condition
        [(memberTest .suppressionRefHash true filter.suppressedHashes).condition]).condition]),
      Conjunction.eval row.columns c = some true := by
    intro c hc
    split at hc
    · cases hc
    · rw [List.mem_singleton.mp hc, Sql.Disjunction.eval_condition, Sql.Disjunction.eval_any]
      exact ⟨_, List.mem_cons_self, by rw [Sql.Atom.eval_condition, isNull_eval]; exact hnull⟩
  unfold suppressionParts
  simp only [List.mem_append, or_imp, forall_and]
  rw [and_iff_right hhashes]
  split
  · next hempty => simp [hempty]
  · simp only [List.mem_singleton, forall_eq, Sql.Conjunction.eval_append, Sql.Atom.eval_condition,
      memberTest_eval hcandidatecolumn, memberTest_eval hsourcecolumn]
    simp

theorem number_eval {column : Column} {found : Int} (h : row.columns column = some (.number found))
    (comparison : Sql.Comparison) (value : Nat) :
    (Atom.compare column comparison (.number value)).eval row.columns = some true ↔
      comparison.holds found (value : Int) = true := by
  simp [Atom.eval, h, Sql.Comparison.compare, Sql.Scalar.value]

theorem timeDomain_column (value : String) : row.columns .timeDomain = some (.text value) ↔ row.timeDomain = value := by
  simp [SearchProjectionRow.columns]

end

/-! ## The filter of a context -/

section

variable {context : SearchContext} {row : SearchProjectionRow} {procedureRevisions : Option (Finset String)}
  {methodProposalRevisions hashes : Finset String}

/-- A single qualifier is asked for; more than one are not. -/
theorem timeParts_eval (hvalid : ∀ q ∈ context.queryFacets.temporalQualifiers, q.valid = true) :
    (∀ c ∈ timeParts (hardFilter procedureRevisions methodProposalRevisions context hashes),
        c.eval row.columns = some true) ↔
      (context.queryFacets.temporalQualifiers.length = 1 → temporalCompatible row context = true) := by
  have htime : row.columns .eventTimeUs = some (.number row.eventTimeUs) := rfl
  have hsequence : row.columns .sourceSequence = some (.number row.sourceSequence) := rfl
  unfold timeParts hardFilter temporalCompatible
  dsimp only
  generalize context.queryFacets.temporalQualifiers = qualifiers at hvalid ⊢
  match qualifiers with
  | [] => simp
  | [.eventTimeAsOf atUs] =>
    have hnonneg : 0 ≤ atUs := by simpa [TemporalQualifier.valid] using hvalid _ List.mem_cons_self
    simp [timeDomain_column, number_eval htime, Sql.Conjunction.eval_append, Sql.Comparison.holds, Int.toNat_of_nonneg hnonneg]
  | [.eventTimeInterval startUs endUs] =>
    have hnonneg : 0 ≤ startUs ∧ startUs < endUs := by
      simpa [TemporalQualifier.valid] using hvalid _ List.mem_cons_self
    have hend : 0 ≤ endUs := by omega
    simp [timeDomain_column, number_eval htime, Sql.Conjunction.eval_append, Sql.Comparison.holds,
      Int.toNat_of_nonneg hnonneg.1, Int.toNat_of_nonneg hend, and_assoc]
  | [.sourceSequenceAtMost sequence] =>
    simp [timeDomain_column, number_eval hsequence, Sql.Conjunction.eval_append, Sql.Comparison.holds]
  | _ :: _ :: _ => simp

/-- The row's revision, if it has one of the two kinds, is among those that may be shown. -/
structure Eligible (procedureRevisions : Option (Finset String)) (methodProposalRevisions : Finset String)
    (row : SearchProjectionRow) : Prop where
  procedure : ∀ revisions ∈ procedureRevisions, row.objectKind = some "procedure_revision" →
    ∃ candidate ∈ revisions, row.candidateId = some candidate
  method : row.objectKind = some "revision_proposal_revision" →
    ∃ candidate ∈ methodProposalRevisions, row.candidateId = some candidate

/-- The row is free of suppressed references and fits the context, as far as the filter goes. -/
structure Fits (context : SearchContext) (hashes : Finset String) (row : SearchProjectionRow) : Prop where
  candidate : ∀ candidate ∈ row.candidateId, candidate ∉ hashes
  source : ∀ source ∈ row.sourceRef, source ∉ hashes
  hash : ∀ hash ∈ row.suppressionRefHash, hash ∉ hashes
  route : routeCompatible row context = true
  current : currentOnly context = true → row.currentness = some "current"
  lifecycle : lifecycleCompatible row context.queryFacets.lifecycleBoundary = true
  authority : sourceCompatible row context.queryFacets.sourceBoundary = true
  time : context.queryFacets.temporalQualifiers.length = 1 → temporalCompatible row context = true

theorem route_iff (filter : SearchHardFilter) (htask : filter.taskId = context.taskId.map Id.toText)
    (hrepository : filter.repositoryId = context.repositoryId.map Id.toText)
    (hworktree : filter.worktreeId = context.worktreeId.map Id.toText) :
    (∀ c ∈ scopeParts filter, c.eval row.columns = some true) ↔ routeCompatible row context = true := by
  rw [scopeParts_eval, htask, hrepository, hworktree]
  unfold routeCompatible
  cases context.taskId <;> cases context.repositoryId <;> cases context.worktreeId <;> simp [or_assoc]

/-- What validation says of an object row. -/
structure ObjectRow (row : SearchProjectionRow) : Prop where
  candidate : ∃ candidate, row.candidateId = some candidate
  source : ∃ source, row.sourceRef = some source
  hash : row.suppressionRefHash = none

theorem objectRow_of_validate (h : row.validate = .ok ()) (hobject : row.rowVariant = "object") : ObjectRow row := by
  unfold SearchProjectionRow.validate at h
  rw [ensure_bind_ok] at h
  obtain ⟨-, h⟩ := h
  split at h
  · -- a checkpoint is no object
    rw [ensure_ok] at h
    simp [checkpointShape, hobject] at h
  · rw [ensure_bind_ok] at h
    obtain ⟨-, hshape⟩ := h
    rw [ensure_ok] at hshape
    simp only [objectShape, Bool.and_eq_true] at hshape
    obtain ⟨⟨⟨⟨⟨⟨⟨-, hcandidate⟩, hsource⟩, -⟩, -⟩, -⟩, hhash⟩, -⟩ := hshape
    obtain ⟨candidate, hcandidate, -⟩ := Option.any_eq_true _ _ |>.mp hcandidate
    obtain ⟨source, hsource, -⟩ := Option.any_eq_true _ _ |>.mp hsource
    exact ⟨⟨candidate, hcandidate⟩, ⟨source, hsource⟩, Option.isNone_iff_eq_none.mp hhash⟩

theorem qualifiers_valid (h : context.validate = .ok ()) :
    ∀ q ∈ context.queryFacets.temporalQualifiers, q.valid = true := by
  unfold SearchContext.validate at h
  rw [ensure_bind_ok] at h
  obtain ⟨_, hfacets, -⟩ := bind_eq_ok.mp h.2
  unfold QueryFacetSet.validate at hfacets
  rw [ensure_ok] at hfacets
  simp only [Bool.and_eq_true] at hfacets
  exact List.all_eq_true.mp hfacets.1.2

theorem forall_mem_ite {α : Type} {c : Prop} [Decidable c] {a : α} {P : α → Prop} :
    (∀ x ∈ (if c then [a] else []), P x) ↔ (c → P a) := by
  split <;> simp_all

/-- **The condition of a context's filter**, said of object rows that may be stored. -/
theorem condition_iff (hcontext : context.validate = .ok ()) (hrow : ObjectRow row) (hobject : row.rowVariant = "object") :
    (condition (hardFilter procedureRevisions methodProposalRevisions context hashes)).eval row.columns = some true ↔
      Eligible procedureRevisions methodProposalRevisions row ∧ Fits context hashes row := by
  obtain ⟨⟨candidate, hcandidate⟩, ⟨source, hsource⟩, hhash⟩ := hrow
  generalize hfilter : hardFilter procedureRevisions methodProposalRevisions context hashes = filter
  have hvariant : (Atom.compare Column.rowVariant .ne (.text "checkpoint")).condition.eval row.columns = some true := by
    simp [Atom.eval, SearchProjectionRow.columns, hobject, Sql.Comparison.compare, Sql.Comparison.holds, Sql.Scalar.value]
  have hmethods : (revisionPart "revision_proposal_revision" filter.methodProposalRevisions).eval row.columns = some true ↔
      (row.objectKind = some "revision_proposal_revision" → candidate ∈ methodProposalRevisions) := by
    rw [revisionPart_eval hcandidate, ← hfilter]
    rfl
  have hprocedures : (∀ c ∈ filter.procedureRevisions.toList.map (revisionPart "procedure_revision"),
      c.eval row.columns = some true) ↔ ∀ revisions ∈ procedureRevisions,
        row.objectKind = some "procedure_revision" → candidate ∈ revisions := by
    simp only [List.forall_mem_map, Option.mem_toList, revisionPart_eval hcandidate, ← hfilter]
    rfl
  have hkind : (∀ c ∈ (if filter.objectOnly then [(equals Column.rowVariant "object").condition] else []),
      c.eval row.columns = some true) := by
    rw [forall_mem_ite, Sql.Atom.eval_condition, Sql.eval_equals]
    exact fun _ => congrArg (fun text => some (Sql.Value.text text)) hobject
  have hcurrent : (∀ c ∈ (if filter.currentOnly then [(equals Column.currentness "current").condition] else []),
      c.eval row.columns = some true) ↔ (currentOnly context = true → row.currentness = some "current") := by
    rw [forall_mem_ite, Sql.Atom.eval_condition, Sql.eval_equals, ← hfilter]
    exact imp_congr_right fun _ => text_eq_some
  have hroute : (∀ c ∈ scopeParts filter, c.eval row.columns = some true) ↔ routeCompatible row context = true :=
    route_iff filter (by rw [← hfilter]; rfl) (by rw [← hfilter]; rfl) (by rw [← hfilter]; rfl)
  have hfields : (∀ c ∈ equalsParts [(.sourceKind, filter.sourceKind), (.sourceRole, filter.sourceRole),
      (.authority, filter.authority), (.lifecycle, filter.lifecycle)], c.eval row.columns = some true) ↔
        sourceCompatible row context.queryFacets.sourceBoundary = true ∧
          lifecycleCompatible row context.queryFacets.lifecycleBoundary = true := by
    rw [equalsParts_eval, ← hfilter]
    have hauthority : sourceCompatible row context.queryFacets.sourceBoundary = true ↔
        ∀ value ∈ requiredAuthority context.queryFacets.sourceBoundary, row.authority = some value := by
      simp [sourceCompatible, hobject, Option.all_eq_true]
    have hlifecycle : lifecycleCompatible row context.queryFacets.lifecycleBoundary = true ↔
        ∀ value ∈ context.queryFacets.lifecycleBoundary.required, row.lifecycle = some value := by
      cases context.queryFacets.lifecycleBoundary <;> simp [lifecycleCompatible, LifecycleBoundary.required]
    simp [hauthority, hlifecycle, hardFilter, SearchProjectionRow.columns]
  have hsuppression : (∀ c ∈ suppressionParts filter, c.eval row.columns = some true) ↔ candidate ∉ hashes ∧ source ∉ hashes := by
    rw [suppressionParts_eval hcandidate hsource hhash, ← hfilter]
    rfl
  have htime : (∀ c ∈ timeParts filter, c.eval row.columns = some true) ↔
      (context.queryFacets.temporalQualifiers.length = 1 → temporalCompatible row context = true) := by
    rw [← hfilter]
    exact timeParts_eval (qualifiers_valid hcontext)
  unfold condition partsOf
  rw [Sql.Conjunction.eval_all]
  simp only [List.forall_mem_cons, List.forall_mem_append, List.cons_append, List.nil_append, hvariant, true_and,
    hmethods, hprocedures, eq_true hkind, hcurrent, hroute, hfields, hsuppression, htime]
  constructor
  · intro h
    obtain ⟨hmethod, ⟨⟨⟨⟨⟨hprocedure, -⟩, hcurrent⟩, hroute⟩, hauthority, hlifecycle⟩, hcandidatefree, hsourcefree⟩, htime⟩ := h
    refine ⟨⟨fun revisions hrevisions hkind => ⟨candidate, hprocedure revisions hrevisions hkind, hcandidate⟩,
      fun hkind => ⟨candidate, hmethod hkind, hcandidate⟩⟩, ?_, ?_, ?_, hroute, hcurrent, hlifecycle, hauthority, htime⟩
    · intro other hother
      rw [hcandidate] at hother
      exact Option.some.inj hother ▸ hcandidatefree
    · intro other hother
      rw [hsource] at hother
      exact Option.some.inj hother ▸ hsourcefree
    · intro hash hhashed
      rw [hhash] at hhashed
      cases hhashed
  · intro h
    obtain ⟨heligible, hfits⟩ := h
    refine ⟨fun hkind => ?_, ⟨⟨⟨⟨⟨fun revisions hrevisions hkind => ?_, trivial⟩, hfits.current⟩, hfits.route⟩,
      hfits.authority, hfits.lifecycle⟩, hfits.candidate _ hcandidate, hfits.source _ hsource⟩, hfits.time⟩
    · obtain ⟨other, hmem, hother⟩ := heligible.method hkind
      rw [hcandidate] at hother
      exact Option.some.inj hother ▸ hmem
    · obtain ⟨other, hmem, hother⟩ := heligible.procedure revisions hrevisions hkind
      rw [hcandidate] at hother
      exact Option.some.inj hother ▸ hmem

/-- The test lets through what fits the context, and asks for more. -/
theorem fits_of_compatible {generation : Nat} (hsuppression : context.suppression = .current generation hashes)
    (hrow : ObjectRow row) (hobject : row.rowVariant = "object") (h : hardCompatible row context = .ok true) :
    Fits context hashes row := by
  obtain ⟨⟨candidate, hcandidate⟩, ⟨source, hsource⟩, hhash⟩ := hrow
  unfold hardCompatible at h
  have hhashed : hashSuppressed row context = .ok false := by rw [hashSuppressed, hhash]
  have hsuppresses : ∀ reference, context.suppression.suppresses reference = .ok (decide (reference ∈ hashes)) := by
    intro reference
    rw [hsuppression]
    rfl
  rw [hhashed, ok_bind, hcandidate, hsource] at h
  split at h
  · cases h
  next hfacets =>
  rw [Option.getD_some, hsuppresses, ok_bind] at h
  split at h
  · cases h
  next hfree =>
  rw [Option.getD_some, hsuppresses, ok_bind] at h
  have hfacets : facetsCompatible row context = true := by simpa using hfacets
  simp only [facetsCompatible, Bool.and_eq_true, hobject] at hfacets
  obtain ⟨⟨⟨⟨⟨⟨hroute, hauthority⟩, hcurrent⟩, hlifecycle⟩, -⟩, -⟩, htime⟩ := hfacets
  have hsourcefree : source ∉ hashes := by simpa [pure, Except.pure] using h
  refine ⟨fun other hother => ?_, fun other hother => ?_, fun hash hhashed => ?_, hroute, fun honly => ?_,
    by simpa using hlifecycle, hauthority, fun _ => htime⟩
  · rw [hcandidate] at hother
    rw [← Option.some.inj hother]
    simpa using hfree
  · rw [hsource] at hother
    exact Option.some.inj hother ▸ hsourcefree
  · rw [hhash] at hhashed
    cases hhashed
  · rw [honly] at hcurrent
    simpa using hcurrent

/-- The qualifiers of a valid context are no negative times. -/
theorem hardFilter_timed (h : context.validate = .ok ()) :
    (hardFilter procedureRevisions methodProposalRevisions context hashes).Timed := by
  have hvalid := qualifiers_valid h
  unfold hardFilter
  constructor
  · intro atUs hmem
    dsimp only at hmem
    split at hmem
    · next heq =>
      rw [heq] at hvalid
      simpa [TemporalQualifier.valid, Option.mem_some_iff.mp hmem] using hvalid _ List.mem_cons_self
    · cases hmem
  · intro times hmem
    dsimp only at hmem
    split at hmem
    · next heq =>
      rw [heq] at hvalid
      have hinterval := hvalid _ List.mem_cons_self
      simp only [TemporalQualifier.valid, Bool.and_eq_true, decide_eq_true_eq] at hinterval
      rw [← Option.some.inj hmem]
      exact ⟨hinterval.1, by omega⟩
    · cases hmem

end

/-- **The pushed-down filter agrees with the test in memory.** For a valid context and an object row that may be
stored and is eligible, the text of the filter is an SQL condition. It is true of the row if the test lets the row
through, and if it is true, the row is free of suppressed references and fits the context. -/
theorem filter_agrees (context : SearchContext) (generation : Nat) (hashes : Finset String)
    (procedureRevisions : Option (Finset String)) (methodProposalRevisions : Finset String) (row : SearchProjectionRow)
    (hcontext : context.validate = .ok ()) (hsuppression : context.suppression = .current generation hashes)
    (hrow : row.validate = .ok ()) (hobject : row.rowVariant = "object")
    (heligible : Eligible procedureRevisions methodProposalRevisions row) :
    ∃ text read, filterSql (hardFilter procedureRevisions methodProposalRevisions context hashes) = some text ∧
      Sql.parse searchSchema text.toList = some read ∧
      (hardCompatible row context = .ok true → read.eval row.columns = some true) ∧
      (read.eval row.columns = some true → Fits context hashes row) := by
  have hstored := objectRow_of_validate hrow hobject
  have htimed : (hardFilter procedureRevisions methodProposalRevisions context hashes).Timed := hardFilter_timed hcontext
  have hparse := filterSql_parse htimed
  obtain ⟨text, htext, hread⟩ := Option.bind_eq_some_iff.mp hparse
  refine ⟨text, _, htext, hread, fun h => ?_, fun h => ?_⟩
  · rw [Disjunction.eval]
    exact (condition_iff hcontext hstored hobject).mpr ⟨heligible, fits_of_compatible hsuppression hstored hobject h⟩
  · rw [Disjunction.eval] at h
    exact ((condition_iff hcontext hstored hobject).mp h).2

/-! ## A row that is found -/

/-- The text of the sample's revision. -/
def sampleRevision : String := "01890a5d-ac96-774b-bcce-b302099a8057"

def sampleHistory : SearchContext where
  intent := .historyLookup
  rawQuery := "how"
  queryFacets := {
    parseStatus := .complete
    exactIdentifiers := []
    conditionLiterals := []
    relationRequirements := []
    polarity := .positive
    explicitExclusions := []
    temporalMode := .asOf
    temporalQualifiers := [.eventTimeAsOf 10]
    quantityConstraints := []
    scopeBoundary := none
    sourceBoundary := some .user
    lifecycleBoundary := .active }
  taskId := none
  repositoryId := none
  worktreeId := none
  suppression := .current 1 {"it's gone"}
  budget := {
    candidatesRemaining := 8
    tokensRemaining := 100
    latencyUsRemaining := 1000
    hopsRemaining := 1
    followUpsRemaining := 1 }

def sampleProcedureRow : SearchProjectionRow where
  rowId := "search:object:1"
  rowVariant := "object"
  candidateId := some sampleRevision
  sourceRef := some sampleRevision
  sourceKind := some "object_projection"
  text := "use the wrench"
  sourceRole := none
  contentTrust := none
  captureCompleteness := none
  instructionAuthority := "none"
  objectKind := some "procedure_revision"
  currentness := some "historical"
  lifecycle := some "active"
  epistemic := some "supported"
  authority := some "user_explicit"
  taskId := none
  repositoryId := none
  worktreeId := none
  eventTimeUs := 5
  recordedAtUs := 6
  sourceSequence := 0
  timeDomain := "event_time"
  retrievalCompleteness := "complete"
  suppressionRefHash := none
  sourceEventSeq := 3
  projectionGeneration := 1

theorem filter_agrees_sample : ∃ text read,
    filterSql (hardFilter (some {sampleRevision}) ∅ sampleHistory {"it's gone"}) = some text ∧
      Sql.parse searchSchema text.toList = some read ∧ read.eval sampleProcedureRow.columns = some true := by
  obtain ⟨text, read, htext, hread, htrue, -⟩ :=
    filter_agrees sampleHistory 1 {"it's gone"} (some {sampleRevision}) ∅ sampleProcedureRow (by decide +kernel) rfl
      (by decide +kernel) rfl ⟨by decide +kernel, by decide +kernel⟩
  exact ⟨text, read, htext, hread, htrue (by decide +kernel)⟩

end EverTrace.L2.Search
