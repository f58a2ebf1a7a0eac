import EverTrace.Lib.Least
import EverTrace.Lib.OrdMap
import EverTrace.L2Machine.Alignment
import EverTrace.L2Machine.ObjectForget
import EverTrace.L2Machine.ProcedureEffect
import EverTrace.L2Machine.Query
import Mathlib.Data.Prod.Lex
import Mathlib.Order.WithBot
/-!
# Routing procedures (`evertrace-engine/src/procedure.rs`, `procedure/usage.rs`)

Which procedures a request is shown. Every candidate is evaluated: it is left
out, deferred or applicable. From the evaluated ones `selectRouteResult` takes
the applicable one of least rank and the deferred one of least rank, never two
that are probationary. A procedure that did harm in the local context is
quarantined there: it is shown as a guardrail, without actions.

`routeProceduresWithQuarantine` selects first and looks for quarantines in what
was selected. The other path, the one of a search, evaluates, quarantines and
then selects (`routeQuarantinedFirst`).

Results:
* `selectRouteResult_items`: the two items are the least ones by rank.
* `bare_of_mem`: no quarantined and no guardrail item tells what to do.
* `routeProceduresWithQuarantine_perm`: the order of the candidates is of no consequence.
-/
namespace EverTrace.L2.Procedure
open EverTrace.Lib EverTrace.L1 EverTrace.L2.Semantic EverTrace.L2.Alignment EverTrace.L2.Search
open EverTrace.L2.Purge (ProcedurePublicationState)

/-- The derived order. -/
instance : LinearOrder ProcedurePhase :=
  LinearOrder.lift' ProcedurePhase.ctorIdx ProcedurePhase.ctorIdx_injective

/-- mirrors evertrace-domain/src/procedure/usage.rs:65-72 -/
structure ProcedureLocalContext where
  repositoryId : Option RepositoryId
  worktreeId : Option WorktreeId
  phase : ProcedureUsagePhase
  failureSignature : Option String
  deriving DecidableEq

/-- mirrors evertrace-domain/src/procedure/usage.rs:83-88 -/
def ProcedureLocalContext.compatible (context other : ProcedureLocalContext) : Bool :=
  context.repositoryId == other.repositoryId
    && context.worktreeId == other.worktreeId
    && context.phase == other.phase
    && context.failureSignature == other.failureSignature

/-- The local contexts each procedure revision is quarantined in, of a usage view. -/
abbrev Quarantines := OrdMap RevisionId (List ProcedureLocalContext)

/-- mirrors evertrace-engine/src/procedure/usage.rs:1363-1371 -/
def localQuarantined (quarantines : Quarantines) (procedureRevisionId : RevisionId)
    (context : ProcedureLocalContext) : Bool :=
  (quarantines.get procedureRevisionId).any fun values => values.any fun value => value.compatible context

/-- mirrors evertrace-engine/src/procedure.rs:28 -/
def maxCandidates : Nat := 64

/-- mirrors evertrace-domain/src/procedure.rs:222-232 -/
structure ProcedureRevision where
  procedureId : ProcedureId
  revisionId : RevisionId
  draft : ProcedureDraft
  deriving DecidableEq

/-- mirrors evertrace-engine/src/procedure.rs:1099-1103 -/
inductive ProcedureGuidanceMode where
  | normal
  | guardrailOnly
  deriving DecidableEq, Repr

/-- mirrors evertrace-engine/src/procedure.rs:1105-1112 -/
structure ProcedureCandidate where
  revision : ProcedureRevision
  publication : ProcedurePublicationState
  globalSupport : Option GlobalSupportState
  phase : Option ProcedurePhase
  lexicalRank : Nat
  deriving DecidableEq

/-- mirrors evertrace-engine/src/procedure.rs:1114-1119 -/
inductive ProcedureDecision where
  | reject
  | defer_
  | apply_
  deriving DecidableEq, Repr

/-- mirrors evertrace-engine/src/procedure.rs:1140-1151 -/
structure ProcedureRouteProof where
  procedureId : ProcedureId
  revisionId : RevisionId
  decision : ProcedureDecision
  publication : ProcedurePublicationState
  taskId : Option TaskId
  repositoryId : Option RepositoryId
  worktreeId : Option WorktreeId
  phase : Option ProcedurePhase
  failureSignature : Option String
  eligibility : ConstraintTruth
  deriving DecidableEq

/-- mirrors evertrace-engine/src/procedure.rs:1121-1137 -/
structure RoutedProcedure where
  procedureId : ProcedureId
  revisionId : RevisionId
  decision : ProcedureDecision
  publication : ProcedurePublicationState
  mode : ProcedureGuidanceMode
  reason : String
  phase : Option ProcedurePhase
  lexicalRank : Nat
  actions : Option ProcedureActions
  avoid : List String
  done : Option ProcedureDone
  excludes : List String
  pitfalls : List String
  routeProof : ProcedureRouteProof
  deriving DecidableEq

/-- mirrors evertrace-engine/src/procedure.rs:1154-1157 -/
structure ProcedureRouteResult where
  status : String
  items : List RoutedProcedure
  deriving DecidableEq

/-- mirrors evertrace-engine/src/procedure.rs:1384-1389 -/
def empty : ProcedureRouteResult := ⟨"no_applicable_procedure", []⟩

/-! ## Evaluating a candidate -/

/-- mirrors evertrace-engine/src/procedure.rs:1353-1366 -/
def scopeMatches (scope : ProcedureScope) (context : SearchContext) : Bool :=
  match scope with
  | .global => true
  | .repository repositoryId => context.repositoryId == some repositoryId
  | .worktree repositoryId worktreeId =>
    context.repositoryId == some repositoryId && context.worktreeId == some worktreeId

/-- A candidate that is not even evaluated.
mirrors evertrace-engine/src/procedure.rs:1236-1249 -/
def ineligible (context : SearchContext) (candidate : ProcedureCandidate) : Bool :=
  !scopeMatches candidate.revision.draft.scope context
    || !(candidate.publication == .activeProbationary || candidate.publication == .activeStable)
    || (candidate.revision.draft.scope == .global && candidate.globalSupport != some .valid)
    || (candidate.phase == some .alreadyCompleted || candidate.phase == some .incompatible)

/-- mirrors evertrace-engine/src/procedure.rs:1271-1285 -/
def decide_ (candidate : ProcedureCandidate) (applicability avoid completion : ConstraintTruth)
    (scenarioFresh : Bool) : ProcedureDecision × String :=
  let draft := candidate.revision.draft
  let recoverable := candidate.phase != some .recoverableDeviation
    || !draft.actions.branches.isEmpty || !draft.done.abort.isEmpty
  if !scenarioFresh then (.defer_, "insufficient_context")
  else if candidate.phase.isNone || applicability == .unknown || avoid == .unknown || completion == .unknown
      || !recoverable then
    (.defer_, "unknown_condition")
  else (.apply_, "applicable")

/-- The text bound to the failure signature.
mirrors evertrace-engine/src/procedure.rs:1321-1329 -/
def failureSignature (current : ConstraintState) : Option String :=
  current.bindings.findSome? fun binding =>
    match binding.field, binding.value with
    | .failureSignature, .text value => some value
    | _, _ => none

/-- What the evaluation hands on of a candidate.
mirrors evertrace-engine/src/procedure.rs:1286-1332 -/
def routedItem (context : SearchContext) (candidate : ProcedureCandidate) (current : ConstraintState)
    (mode : ProcedureGuidanceMode) (eligibility : ConstraintTruth) (decision : ProcedureDecision)
    (reason : String) : RoutedProcedure :=
  let revision := candidate.revision
  let guardrail := mode == .guardrailOnly
  { procedureId := revision.procedureId
    revisionId := revision.revisionId
    decision := decision
    publication := candidate.publication
    mode := mode
    reason := reason
    phase := candidate.phase
    lexicalRank := candidate.lexicalRank
    actions := if !guardrail && decision == .apply_ then some revision.draft.actions else none
    avoid := revision.draft.actions.avoid
    done :=
      if guardrail then some ⟨[], revision.draft.done.abort, revision.draft.done.verify⟩
      else if decision == .apply_ then some revision.draft.done
      else none
    excludes := revision.draft.when_.excludes
    pitfalls := revision.draft.pitfalls
    routeProof :=
      { procedureId := revision.procedureId
        revisionId := revision.revisionId
        decision := decision
        publication := candidate.publication
        taskId := context.taskId
        repositoryId := context.repositoryId
        worktreeId := context.worktreeId
        phase := candidate.phase
        failureSignature := failureSignature current
        eligibility := eligibility } }

/-- mirrors evertrace-engine/src/procedure.rs:1228-1333 -/
def evaluateCandidate (context : SearchContext) (candidate : ProcedureCandidate) (current : ConstraintState)
    (previous : Option ConstraintState) (scenarioFresh : Bool) (mode : ProcedureGuidanceMode) :
    Option RoutedProcedure :=
  if ineligible context candidate then none
  else
    let applicability := candidate.revision.draft.applicabilityExpr.evaluate current previous
    let avoid := candidate.revision.draft.avoidExpr.evaluate current previous
    let completion := candidate.revision.draft.completionExpr.evaluate current previous
    if applicability == .false_ || avoid == .true_ || completion == .true_ then none
    else
      let decided := decide_ candidate applicability avoid completion scenarioFresh
      some (routedItem context candidate current mode applicability decided.1 decided.2)

/-! ## Selecting -/

/-- The rank without the decision. -/
def place (value : RoutedProcedure) : Nat ×ₗ WithBot ProcedurePhase ×ₗ Nat ×ₗ ProcedureId :=
  toLex (if value.publication == .activeStable then 0 else 1,
    toLex (value.phase, toLex (value.lexicalRank, value.procedureId)))

/-- mirrors evertrace-engine/src/procedure.rs:1340-1351 -/
def routeRank (value : RoutedProcedure) : Nat ×ₗ Nat ×ₗ WithBot ProcedurePhase ×ₗ Nat ×ₗ ProcedureId :=
  toLex (match value.decision with
    | .apply_ => 0
    | .defer_ => 1
    | .reject => 2, place value)

def isApply (item : RoutedProcedure) : Bool := item.decision == .apply_

def isDefer (item : RoutedProcedure) : Bool := item.decision == .defer_

def isProbationary (item : RoutedProcedure) : Bool := item.publication == .activeProbationary

/-- A deferred item that may stand beside what is applied: not both are probationary. -/
def deferBeside (applied : Option RoutedProcedure) (item : RoutedProcedure) : Bool :=
  isDefer item && !(applied.any isProbationary && isProbationary item)

/-- mirrors evertrace-engine/src/procedure.rs:1197-1226 -/
def selectRouteResult (routed : List RoutedProcedure) : ProcedureRouteResult :=
  let routed := sortByKey routeRank routed
  let applied := routed.find? isApply
  let deferred := (routed.eraseP isApply).find? (deferBeside applied)
  let items := applied.toList ++ deferred.toList
  if items.isEmpty then empty else ⟨"ok", items⟩

/-- mirrors evertrace-engine/src/procedure.rs:1182-1186 -/
def guidanceMode (unresolvedCompeting siblingExploration explicitReuse : Bool) : ProcedureGuidanceMode :=
  if !explicitReuse && (unresolvedCompeting || siblingExploration) then .guardrailOnly else .normal

/-- What is known of the request besides its context.
mirrors evertrace-engine/src/procedure.rs:1164-1171 -/
structure RouteInputs where
  current : ConstraintState
  previous : Option ConstraintState
  scenarioFresh : Bool
  unresolvedCompeting : Bool
  siblingExploration : Bool
  explicitReuse : Bool

def RouteInputs.mode (inputs : RouteInputs) : ProcedureGuidanceMode :=
  guidanceMode inputs.unresolvedCompeting inputs.siblingExploration inputs.explicitReuse

def evaluateAll (context : SearchContext) (inputs : RouteInputs) (candidates : List ProcedureCandidate) :
    List RoutedProcedure :=
  candidates.filterMap fun candidate =>
    evaluateCandidate context candidate inputs.current inputs.previous inputs.scenarioFresh inputs.mode

/-- mirrors evertrace-engine/src/procedure.rs:1162-1194 -/
def route (context : SearchContext) (candidates : List ProcedureCandidate) (inputs : RouteInputs) :
    ProcedureRouteResult :=
  if context.intent == .historyLookup then ⟨"history_lookup_bypass", []⟩
  else if maxCandidates < candidates.length || context.validate.toOption.isNone then empty
  else selectRouteResult (evaluateAll context inputs candidates)

/-! ## Quarantine -/

/-- mirrors evertrace-engine/src/procedure/usage.rs:1874-1881 -/
def demote (item : RoutedProcedure) : RoutedProcedure :=
  { item with
    decision := .defer_
    routeProof := { item.routeProof with decision := .defer_ }
    mode := .guardrailOnly
    reason := "local_quarantine"
    actions := none
    done := item.done.map fun done => { done with success := [] } }

/-- mirrors evertrace-engine/src/procedure/usage.rs:1873-1882 -/
def quarantine (quarantined : RoutedProcedure → Bool) (item : RoutedProcedure) : RoutedProcedure :=
  if quarantined item then demote item else item

/-- The quarantines of a view that concern the local context. -/
def quarantinedIn (quarantines : Quarantines) (localContext : ProcedureLocalContext) (item : RoutedProcedure) : Bool :=
  localQuarantined quarantines item.revisionId localContext

/-- The items that are left of a route once the quarantined ones are demoted.
mirrors evertrace-engine/src/procedure/usage.rs:1872-1894 -/
def demoteSelected (quarantined : RoutedProcedure → Bool) (items : List RoutedProcedure) : List RoutedProcedure :=
  let items := sortByKey routeRank (items.map (quarantine quarantined))
  (items.find? isApply).toList ++ ((items.eraseP isApply).find? isDefer).toList

/-- mirrors evertrace-engine/src/procedure/usage.rs:1850-1899 -/
def routeProceduresWithQuarantine (quarantines : Quarantines) (localContext : ProcedureLocalContext)
    (context : SearchContext) (candidates : List ProcedureCandidate) (inputs : RouteInputs) : ProcedureRouteResult :=
  let result := route context candidates inputs
  let items := demoteSelected (quarantinedIn quarantines localContext) result.items
  ⟨if items.isEmpty then "no_applicable_procedure" else result.status, items⟩

/-- A request that is answered without a look at the candidates. -/
def bypassed (context : SearchContext) : Bool :=
  context.intent == .historyLookup || context.validate.toOption.isNone

/-- What the first stage makes of the candidates of a request. -/
def evaluated (context : SearchContext) (inputs : RouteInputs) (candidates : List ProcedureCandidate) :
    List RoutedProcedure :=
  if bypassed context then [] else evaluateAll context inputs candidates

/-- The stages in the order of a search: every evaluated candidate is looked up in the quarantines before
anything is selected.
mirrors evertrace-engine/src/procedure/usage.rs:461-538 -/
def routeQuarantinedFirst (quarantined : RoutedProcedure → Bool) (context : SearchContext)
    (candidates : List ProcedureCandidate) (inputs : RouteInputs) : ProcedureRouteResult :=
  selectRouteResult ((evaluated context inputs candidates).map (quarantine quarantined))

/-! ## What the evaluation hands on -/

/-- What is so of every item that is made of the candidate. -/
structure RoutedFrom (candidate : ProcedureCandidate) (item : RoutedProcedure) : Prop where
  procedureId : item.procedureId = candidate.revision.procedureId
  decided : isApply item = true ∨ isDefer item = true
  published : item.publication = .activeProbationary ∨ item.publication = .activeStable
  bare : item.mode = .guardrailOnly → item.actions = none ∧ ∀ done ∈ item.done, done.success = []

section Evaluated
variable {context : SearchContext} {inputs : RouteInputs} {candidate : ProcedureCandidate}
  {candidates : List ProcedureCandidate} {item : RoutedProcedure}

theorem decide_ne_reject (candidate : ProcedureCandidate) (applicability avoid completion : ConstraintTruth)
    (scenarioFresh : Bool) :
    (decide_ candidate applicability avoid completion scenarioFresh).1 = .apply_
      ∨ (decide_ candidate applicability avoid completion scenarioFresh).1 = .defer_ := by
  unfold decide_
  dsimp only
  split
  · exact .inr rfl
  · split
    · exact .inr rfl
    · exact .inl rfl

theorem evaluateCandidate_routed {current : ConstraintState} {previous : Option ConstraintState} {scenarioFresh : Bool}
    {mode : ProcedureGuidanceMode}
    (h : evaluateCandidate context candidate current previous scenarioFresh mode = some item) :
    RoutedFrom candidate item := by
  unfold evaluateCandidate at h
  by_cases hout : ineligible context candidate = true
  · rw [if_pos hout] at h
    cases h
  rw [if_neg hout] at h
  dsimp only at h
  split at h
  · cases h
  cases h
  refine ⟨rfl, ?_, ?_, ?_⟩
  · unfold isApply isDefer routedItem
    simp only [beq_iff_eq]
    exact decide_ne_reject ..
  · simp only [ineligible, Bool.or_eq_true, Bool.not_eq_true', not_or, Bool.not_eq_false] at hout
    obtain ⟨⟨⟨-, hpublished⟩, -⟩, -⟩ := hout
    have hstate : candidate.publication = .activeProbationary ∨ candidate.publication = .activeStable := by
      simpa using hpublished
    exact hstate
  · intro hmode
    have hguardrail : mode = .guardrailOnly := hmode
    subst hguardrail
    simp [routedItem]

theorem mem_evaluated (h : item ∈ evaluated context inputs candidates) : ∃ candidate ∈ candidates, RoutedFrom candidate item := by
  unfold evaluated at h
  split at h
  · cases h
  · obtain ⟨candidate, hmem, heval⟩ := List.mem_filterMap.mp h
    exact ⟨candidate, hmem, evaluateCandidate_routed heval⟩

/-- Every candidate makes at most one item, which keeps its procedure. -/
theorem evaluateAll_nodup (hids : (candidates.map fun candidate => candidate.revision.procedureId).Nodup) :
    ((evaluateAll context inputs candidates).map RoutedProcedure.procedureId).Nodup := by
  unfold List.Nodup at hids ⊢
  rw [List.pairwise_map] at hids ⊢
  refine hids.filterMap _ fun first second hne item hitem item' hitem' => ?_
  rw [(evaluateCandidate_routed hitem).procedureId, (evaluateCandidate_routed hitem').procedureId]
  exact hne

theorem evaluated_nodup (hids : (candidates.map fun candidate => candidate.revision.procedureId).Nodup) :
    ((evaluated context inputs candidates).map RoutedProcedure.procedureId).Nodup := by
  unfold evaluated
  split
  · exact List.nodup_nil
  · exact evaluateAll_nodup hids

theorem route_items (hlen : candidates.length ≤ maxCandidates) :
    (route context candidates inputs).items = (selectRouteResult (evaluated context inputs candidates)).items := by
  unfold route evaluated bypassed
  by_cases hhistory : (context.intent == .historyLookup) = true
  · rw [if_pos hhistory, hhistory, Bool.true_or, if_pos rfl]
    rfl
  rw [if_neg hhistory, Bool.eq_false_iff.mpr hhistory, Bool.false_or]
  have hfits : decide (maxCandidates < candidates.length) = false := by
    rw [decide_eq_false_iff_not]
    omega
  rw [hfits, Bool.false_or]
  split
  · rfl
  · rfl

end Evaluated

/-! ## The least items -/

section Select
variable {routed : List RoutedProcedure} {quarantined : RoutedProcedure → Bool} {item : RoutedProcedure}
  {applied : Option RoutedProcedure}

/-- The applicable item of least rank. -/
def firstApply (routed : List RoutedProcedure) : Option RoutedProcedure := (sortByKey routeRank routed).find? isApply

/-- The deferred item of least rank that may stand beside what is applied. -/
def firstDefer (applied : Option RoutedProcedure) (routed : List RoutedProcedure) : Option RoutedProcedure :=
  (sortByKey routeRank routed).find? (deferBeside applied)

def pair (applied deferred : Option RoutedProcedure) : List RoutedProcedure := applied.toList ++ deferred.toList

theorem deferBeside_of_isApply (h : isApply item = true) : deferBeside applied item = false := by
  unfold isApply at h
  unfold deferBeside isDefer
  rw [beq_iff_eq.mp h]
  rfl

theorem deferBeside_none : deferBeside none = isDefer := by
  funext item
  simp [deferBeside]

theorem selectRouteResult_items :
    (selectRouteResult routed).items = pair (firstApply routed) (firstDefer (firstApply routed) routed) := by
  unfold selectRouteResult
  dsimp only
  rw [find?_eraseP fun item _ => deferBeside_of_isApply]
  change (if (pair (firstApply routed) (firstDefer (firstApply routed) routed)).isEmpty then empty else
    ⟨"ok", pair (firstApply routed) (firstDefer (firstApply routed) routed)⟩ : ProcedureRouteResult).items = _
  split
  · next h => exact (List.isEmpty_iff.mp h).symm
  · rfl

theorem demoteSelected_eq (items : List RoutedProcedure) :
    demoteSelected quarantined items =
      pair (firstApply (items.map (quarantine quarantined))) (firstDefer none (items.map (quarantine quarantined))) := by
  unfold demoteSelected pair firstApply firstDefer
  dsimp only
  rw [find?_eraseP fun item _ h => by rw [← deferBeside_none]; exact deferBeside_of_isApply h, deferBeside_none]

theorem nodup_place (hn : (routed.map RoutedProcedure.procedureId).Nodup) : (routed.map place).Nodup := by
  refine List.Nodup.of_map (fun key => (ofLex (ofLex (ofLex key).2).2).2) ?_
  rw [List.map_map]
  exact hn

theorem nodup_routeRank (hn : (routed.map RoutedProcedure.procedureId).Nodup) : (routed.map routeRank).Nodup := by
  refine List.Nodup.of_map (fun key => (ofLex key).2) ?_
  rw [List.map_map]
  exact nodup_place hn

/-- Among items of one decision the rank is their place. -/
theorem routeRank_le_iff {a b : RoutedProcedure} (h : a.decision = b.decision) :
    routeRank a ≤ routeRank b ↔ place a ≤ place b := by
  unfold routeRank
  rw [Prod.Lex.toLex_le_toLex, h]
  simp

theorem selectRouteResult_perm {routed' : List RoutedProcedure}
    (hn : (routed.map RoutedProcedure.procedureId).Nodup) (h : routed.Perm routed') :
    selectRouteResult routed' = selectRouteResult routed := by
  unfold selectRouteResult
  rw [sortByKey_eq_of_perm routeRank h (nodup_routeRank hn)]

theorem firstApply_eq_some (hn : (routed.map RoutedProcedure.procedureId).Nodup) :
    firstApply routed = some item ↔ LeastOf place routed isApply item := by
  unfold firstApply
  rw [find?_sortByKey_eq_some (nodup_routeRank hn)]
  refine LeastOf.congr fun b hitem hb => routeRank_le_iff ?_
  rw [beq_iff_eq.mp hitem, beq_iff_eq.mp hb]

theorem firstDefer_eq_some (hn : (routed.map RoutedProcedure.procedureId).Nodup) :
    firstDefer applied routed = some item ↔ LeastOf place routed (deferBeside applied) item := by
  unfold firstDefer
  rw [find?_sortByKey_eq_some (nodup_routeRank hn)]
  refine LeastOf.congr fun b hitem hb => routeRank_le_iff ?_
  unfold deferBeside isDefer at hitem hb
  rw [Bool.and_eq_true] at hitem hb
  rw [beq_iff_eq.mp hitem.1, beq_iff_eq.mp hb.1]

end Select

/-! ## Quarantined items -/

section Quarantine
variable {routed : List RoutedProcedure} {quarantined : RoutedProcedure → Bool} {item : RoutedProcedure}
  {applied : Option RoutedProcedure}

@[simp] theorem place_quarantine : place (quarantine quarantined item) = place item := by
  unfold quarantine
  split <;> rfl

@[simp] theorem procedureId_quarantine : (quarantine quarantined item).procedureId = item.procedureId := by
  unfold quarantine
  split <;> rfl

@[simp] theorem isProbationary_quarantine : isProbationary (quarantine quarantined item) = isProbationary item := by
  unfold quarantine
  split <;> rfl

theorem isApply_quarantine : isApply (quarantine quarantined item) = (isApply item && !quarantined item) := by
  unfold quarantine
  by_cases hq : quarantined item = true
  · rw [if_pos hq, hq, Bool.not_true, Bool.and_false]
    rfl
  · rw [if_neg hq, Bool.eq_false_iff.mpr hq, Bool.not_false, Bool.and_true]

theorem isDefer_quarantine : isDefer (quarantine quarantined item) = (isDefer item || quarantined item) := by
  unfold quarantine
  by_cases hq : quarantined item = true
  · rw [if_pos hq, hq, Bool.or_true]
    rfl
  · rw [if_neg hq, Bool.eq_false_iff.mpr hq, Bool.or_false]

theorem quarantine_of_not (h : quarantined item = false) : quarantine quarantined item = item := by
  unfold quarantine
  rw [if_neg (by rw [h]; decide)]

/-- A deferred item, or one that is quarantined, that may stand beside what is applied. -/
def heldBeside (quarantined : RoutedProcedure → Bool) (applied : Option RoutedProcedure) (item : RoutedProcedure) : Bool :=
  (isDefer item || quarantined item) && !(applied.any isProbationary && isProbationary item)

theorem nodup_quarantine (hn : (routed.map RoutedProcedure.procedureId).Nodup) :
    ((routed.map (quarantine quarantined)).map RoutedProcedure.procedureId).Nodup := by
  rw [List.map_map]
  have hsame : RoutedProcedure.procedureId ∘ quarantine quarantined = RoutedProcedure.procedureId := by
    funext item
    exact procedureId_quarantine
  rw [hsame]
  exact hn

theorem firstApply_quarantine (hn : (routed.map RoutedProcedure.procedureId).Nodup) :
    firstApply (routed.map (quarantine quarantined)) = some item ↔
      LeastOf place routed (fun item => isApply item && !quarantined item) item := by
  rw [firstApply_eq_some (nodup_quarantine hn), leastOf_map]
  simp only [place_quarantine, isApply_quarantine]
  constructor
  · rintro ⟨a, rfl, ha⟩
    have hholds := ha.holds
    rw [Bool.and_eq_true, Bool.not_eq_true'] at hholds
    rw [quarantine_of_not hholds.2]
    exact ha
  · intro hitem
    have hholds := hitem.holds
    rw [Bool.and_eq_true, Bool.not_eq_true'] at hholds
    exact ⟨item, quarantine_of_not hholds.2, hitem⟩

theorem firstDefer_quarantine (hn : (routed.map RoutedProcedure.procedureId).Nodup) :
    firstDefer applied (routed.map (quarantine quarantined)) = some item ↔
      ∃ a, quarantine quarantined a = item ∧ LeastOf place routed (heldBeside quarantined applied) a := by
  rw [firstDefer_eq_some (nodup_quarantine hn), leastOf_map]
  simp only [place_quarantine, deferBeside, isDefer_quarantine, isProbationary_quarantine]
  rfl

/-- What an item that is not to be followed says: nothing to do, and no success to look for. -/
def Bare (item : RoutedProcedure) : Prop := item.actions = none ∧ ∀ done ∈ item.done, done.success = []

theorem bare_demote : Bare (demote item) := by
  refine ⟨rfl, fun done hdone => ?_⟩
  obtain ⟨before, -, rfl⟩ := Option.mem_map.mp hdone
  rfl

end Quarantine

/-! ## The whole route -/

section Route
variable {quarantines : Quarantines} {localContext : ProcedureLocalContext} {context : SearchContext}
  {candidates : List ProcedureCandidate} {inputs : RouteInputs} {item : RoutedProcedure}

/-- Everything that is shown was evaluated, and demoted if it is quarantined. -/
theorem mem_routeProceduresWithQuarantine (hlen : candidates.length ≤ maxCandidates)
    (h : item ∈ (routeProceduresWithQuarantine quarantines localContext context candidates inputs).items) :
    ∃ b ∈ evaluated context inputs candidates, quarantine (quarantinedIn quarantines localContext) b = item := by
  have hselected : item ∈ demoteSelected (quarantinedIn quarantines localContext) (route context candidates inputs).items := h
  rw [demoteSelected_eq, pair, List.mem_append, Option.mem_toList, Option.mem_toList] at hselected
  have hmem : item ∈ (route context candidates inputs).items.map (quarantine (quarantinedIn quarantines localContext)) := by
    rcases hselected with happlied | hdeferred
    · exact (leastOf_of_find?_sortByKey happlied).mem
    · exact (leastOf_of_find?_sortByKey hdeferred).mem
  obtain ⟨b, hb, rfl⟩ := List.mem_map.mp hmem
  rw [route_items hlen, selectRouteResult_items, pair, List.mem_append, Option.mem_toList, Option.mem_toList] at hb
  refine ⟨b, ?_, rfl⟩
  rcases hb with happlied | hdeferred
  · exact (leastOf_of_find?_sortByKey happlied).mem
  · exact (leastOf_of_find?_sortByKey hdeferred).mem

/-- No quarantined and no guardrail item tells what to do. -/
theorem bare_of_mem (hlen : candidates.length ≤ maxCandidates)
    (h : item ∈ (routeProceduresWithQuarantine quarantines localContext context candidates inputs).items)
    (hheld : quarantinedIn quarantines localContext item = true ∨ item.mode = .guardrailOnly) : Bare item := by
  obtain ⟨b, hb, rfl⟩ := mem_routeProceduresWithQuarantine hlen h
  by_cases hq : quarantinedIn quarantines localContext b = true
  · unfold quarantine
    rw [if_pos hq]
    exact bare_demote
  · rw [quarantine_of_not (Bool.eq_false_iff.mpr hq)] at hheld ⊢
    obtain ⟨candidate, -, hrouted⟩ := mem_evaluated hb
    exact hrouted.bare (hheld.resolve_left hq)

/-- The order of the candidates is of no consequence. -/
theorem routeProceduresWithQuarantine_perm {candidates' : List ProcedureCandidate}
    (hids : (candidates.map fun candidate => candidate.revision.procedureId).Nodup) (h : candidates.Perm candidates') :
    routeProceduresWithQuarantine quarantines localContext context candidates' inputs =
      routeProceduresWithQuarantine quarantines localContext context candidates inputs := by
  have hselect : selectRouteResult (evaluateAll context inputs candidates') =
      selectRouteResult (evaluateAll context inputs candidates) :=
    selectRouteResult_perm (evaluateAll_nodup hids) (h.filterMap _)
  have hroute : route context candidates' inputs = route context candidates inputs := by
    unfold route
    rw [hselect, h.length_eq]
  unfold routeProceduresWithQuarantine
  rw [hroute]

end Route

end EverTrace.L2.Procedure
