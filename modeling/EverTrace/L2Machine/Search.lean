import EverTrace.L2Machine.Query
import EverTrace.Lib.KeySort
import EverTrace.Lib.OrdMap
import Mathlib.Data.Finset.Option
import Mathlib.Data.List.Dedup
import Mathlib.Data.List.Destutter
import Mathlib.Data.List.Lex
import Mathlib.Data.List.ReduceOption
import Mathlib.Data.Prod.Lex
import Mathlib.Data.String.Basic
/-!
# Production search (`evertrace-engine/src/search/production.rs`)

`searchInner` asks the index twice, for the rows with an exact identifier and
for the rows that the full-text query finds, and selects candidates from the two
answers: the rows are merged, filtered by the context, ranked, collapsed by
candidate, taken while the budget lasts, ordered and cut at the limit. Then it
says how complete the result is.

What the index answered, and how long everything took, is the argument
`Fetched`.
-/
namespace EverTrace.L2.Search
open EverTrace.Lib EverTrace.L1

/-- mirrors evertrace-store/src/search.rs:566-593 -/
structure SearchProjectionRow where
  rowId : String
  rowVariant : String
  candidateId : Option String
  sourceRef : Option String
  sourceKind : Option String
  text : String
  sourceRole : Option String
  contentTrust : Option String
  captureCompleteness : Option String
  instructionAuthority : String
  objectKind : Option String
  currentness : Option String
  lifecycle : Option String
  epistemic : Option String
  authority : Option String
  taskId : Option String
  repositoryId : Option String
  worktreeId : Option String
  eventTimeUs : Int
  recordedAtUs : Int
  sourceSequence : Nat
  timeDomain : String
  retrievalCompleteness : String
  suppressionRefHash : Option String
  sourceEventSeq : Nat
  projectionGeneration : Nat
  deriving DecidableEq

/-- The derived `Ord`: field by field. A text is a list of one text, a missing one the empty list. -/
def SearchProjectionRow.order (r : SearchProjectionRow) :
    List (List String) ×ₗ Int ×ₗ Int ×ₗ Nat ×ₗ List (List String) ×ₗ Nat ×ₗ Nat :=
  toLex ([[r.rowId], [r.rowVariant], r.candidateId.toList, r.sourceRef.toList, r.sourceKind.toList, [r.text],
      r.sourceRole.toList, r.contentTrust.toList, r.captureCompleteness.toList, [r.instructionAuthority],
      r.objectKind.toList, r.currentness.toList, r.lifecycle.toList, r.epistemic.toList, r.authority.toList,
      r.taskId.toList, r.repositoryId.toList, r.worktreeId.toList],
    toLex (r.eventTimeUs, toLex (r.recordedAtUs, toLex (r.sourceSequence,
      toLex ([[r.timeDomain], [r.retrievalCompleteness], r.suppressionRefHash.toList],
        toLex (r.sourceEventSeq, r.projectionGeneration))))))

/-- `text.contains(identifier)` -/
def containsText (text identifier : String) : Bool := decide (identifier.toList <:+: text.toList)

/-! ## Which rows may be shown -/

/-- mirrors `source_filter(..).1`, production.rs:432-445 -/
def requiredAuthority : Option SourceBoundary → Option String
  | none => none
  | some .user => some "user_explicit"
  | some .assistant | some .agentInferred => some "agent_inferred"
  | some .imported => some "imported_claim"
  | some .projectPolicy => some "project_policy"
  | some .objectiveEvidence | some .tool | some .host => some "objective_evidence"

/-- mirrors the first case of production.rs:521-531 -/
def surfaceRole (row : SearchProjectionRow) : Option SourceBoundary → Bool
  | none => true
  | some .user => row.sourceRole == some "user"
  | some .assistant | some .agentInferred => row.sourceRole == some "assistant"
  | some .tool => row.sourceRole == some "tool"
  | some .host => row.sourceRole == some "host"
  | some .imported => row.sourceRole == some "imported"
  | some .projectPolicy | some .objectiveEvidence => false

/-- mirrors evertrace-engine/src/search/production.rs:519-538 -/
def sourceCompatible (row : SearchProjectionRow) (boundary : Option SourceBoundary) : Bool :=
  if row.rowVariant = "evidence_surface" then surfaceRole row boundary
  else if row.rowVariant = "object" then (requiredAuthority boundary).all fun value => row.authority == some value
  else false

/-- mirrors evertrace-engine/src/search/production.rs:568-584 -/
def temporalCompatible (row : SearchProjectionRow) (context : SearchContext) : Bool :=
  match context.queryFacets.temporalQualifiers with
  | [] => true
  | [.eventTimeAsOf atUs] => row.timeDomain == "event_time" && row.eventTimeUs ≤ atUs
  | [.eventTimeInterval startUs endUs] =>
    row.timeDomain == "event_time" && startUs ≤ row.eventTimeUs && row.eventTimeUs < endUs
  | [.sourceSequenceAtMost sequence] => row.timeDomain == "source_sequence" && row.sourceSequence ≤ sequence
  | _ => false

def scopeCompatible (row : SearchProjectionRow) : Option ScopeBoundary → Bool
  | none => true
  | some (.task taskId) => row.taskId == some taskId.toText
  | some (.repository repositoryId) => row.repositoryId == some repositoryId.toText
  | some (.worktree worktreeId) => row.worktreeId == some worktreeId.toText

def lifecycleCompatible (row : SearchProjectionRow) : LifecycleBoundary → Bool
  | .active => row.lifecycle == some "active"
  | .terminal => row.lifecycle == some "terminal"
  | .any => true

def routeCompatible (row : SearchProjectionRow) (context : SearchContext) : Bool :=
  (context.taskId.isNone && context.repositoryId.isNone && context.worktreeId.isNone)
    || context.taskId.any (fun id => row.taskId == some id.toText)
    || context.repositoryId.any (fun id => row.repositoryId == some id.toText)
    || context.worktreeId.any (fun id => row.worktreeId == some id.toText)

def currentOnly (context : SearchContext) : Bool :=
  context.intent != .historyLookup
    && (context.queryFacets.temporalMode == .current || context.queryFacets.temporalMode == .any
      || context.queryFacets.temporalMode == .unknown)

/-- The conditions of `hard_compatible` that need no suppression list.
mirrors evertrace-engine/src/search/production.rs:456-508 -/
def facetsCompatible (row : SearchProjectionRow) (context : SearchContext) : Bool :=
  routeCompatible row context
    && sourceCompatible row context.queryFacets.sourceBoundary
    && (row.rowVariant != "object" || !currentOnly context || row.currentness == some "current")
    && (row.rowVariant != "object" || lifecycleCompatible row context.queryFacets.lifecycleBoundary)
    && scopeCompatible row context.queryFacets.scopeBoundary
    && !context.queryFacets.explicitExclusions.any (fun value =>
      row.candidateId == some value || row.sourceRef == some value || containsText row.text value)
    && temporalCompatible row context

/-- The row's own hash, if it has one, is on the list. -/
def hashSuppressed (row : SearchProjectionRow) (context : SearchContext) : Except QueryError Bool :=
  match row.suppressionRefHash with
  | none => .ok false
  | some hash => context.suppression.suppresses hash

/-- mirrors evertrace-engine/src/search/production.rs:447-517 -/
def hardCompatible (row : SearchProjectionRow) (context : SearchContext) : Except QueryError Bool := do
  let hashed ← hashSuppressed row context
  if hashed || !facetsCompatible row context then return false
  else do
    let candidate ← context.suppression.suppresses (row.candidateId.getD "")
    if candidate then return false
    else do
      let source ← context.suppression.suppresses (row.sourceRef.getD "")
      return !source

/-! ## The selection -/

/-- What the full-text query came to. -/
inductive FtsOutcome where
  | rows (rows : List SearchProjectionRow)
  | unavailable
  | deadlineExhausted

/-- What the index answered, and the microseconds that the search took. -/
structure Fetched where
  structured : List SearchProjectionRow
  fts : FtsOutcome
  frontier : Nat
  authoritativeFrontier : Nat
  elapsedUs : Nat

def FtsOutcome.list : FtsOutcome → List SearchProjectionRow
  | .rows found => found
  | .unavailable | .deadlineExhausted => []

/-- mirrors the insertions of production.rs:195-217 -/
def FtsOutcome.reasons : FtsOutcome → Finset String
  | .rows _ => ∅
  | .unavailable => {"fts_unavailable"}
  | .deadlineExhausted => {"fts_deadline_exhausted"}

/-- The position of a row in the full-text answer, by its id; of equal ids the last one counts.
mirrors evertrace-engine/src/search/production.rs:218-222 -/
def ftsRanks (fts : List SearchProjectionRow) : OrdMap String Nat :=
  .insertAll .empty (fts.zipIdx.map fun entry => (entry.1.rowId, entry.2))

/-- mirrors evertrace-engine/src/search/production.rs:223-226 -/
def mergeRows (structured fts : List SearchProjectionRow) : List SearchProjectionRow :=
  (sortByKey SearchProjectionRow.order (structured ++ fts)).destutter fun a b => a.rowId ≠ b.rowId

/-- mirrors `exact`, production.rs:232-238 -/
def matchesExactly (context : SearchContext) (row : SearchProjectionRow) : Bool :=
  context.queryFacets.exactIdentifiers.any fun identifier =>
    row.candidateId == some identifier || containsText row.text identifier

/-- mirrors `stable`, production.rs:239-242 -/
def isStable (context : SearchContext) (row : SearchProjectionRow) : Bool :=
  row.candidateId.any (· == context.rawQuery)

/-- The rank of a row that matches, class first.
mirrors evertrace-engine/src/search/production.rs:232-249 -/
def rankOf (context : SearchContext) (ranks : OrdMap String Nat) (row : SearchProjectionRow) : Option (Nat × Nat) :=
  if matchesExactly context row || isStable context row then some (0, 0)
  else (ranks.get row.rowId).map fun position => (3, position)

/-- One turn of the ranking loop.
mirrors evertrace-engine/src/search/production.rs:228-251 -/
def rankRow (context : SearchContext) (ranks : OrdMap String Nat) (row : SearchProjectionRow) :
    Except QueryError (Option ((Nat × Nat) × SearchProjectionRow)) :=
  if row.candidateId.isNone then .ok none
  else do
    let compatible ← hardCompatible row context
    return if compatible then (rankOf context ranks row).map fun rank => (rank, row) else none

/-- The order of `ranked.sort_by`. mirrors production.rs:252-256 -/
def rankedKey (entry : (Nat × Nat) × SearchProjectionRow) : Nat ×ₗ Nat ×ₗ List String :=
  toLex (entry.1.1, toLex (entry.1.2, entry.2.candidateId.toList))

/-- mirrors evertrace-engine/src/search/production.rs:227-256 -/
def rankRows (context : SearchContext) (ranks : OrdMap String Nat) (rows : List SearchProjectionRow) :
    Except QueryError (List ((Nat × Nat) × SearchProjectionRow)) := do
  let ranked ← rows.mapM (rankRow context ranks)
  return sortByKey rankedKey ranked.reduceOption

/-- A selected candidate, the class of its rank and the row that supplied it. -/
structure Picked where
  class_ : Nat
  candidate : SearchCandidate
  row : SearchProjectionRow
  deriving DecidableEq

/-- The state of the selection loop. -/
structure Selection where
  selected : OrdMap String Picked
  omitted : Finset String
  budget : RetrievalBudget

/-- mirrors `row_variant`, production.rs:283-289 -/
def variantOf (row : SearchProjectionRow) : Option SearchCandidateVariant :=
  if row.rowVariant = "object" then some .object
  else if row.rowVariant = "evidence_surface" then some .evidenceSurface
  else none

/-- What a row of a class adds to the origins of its candidate. -/
def originsOf (ranks : OrdMap String Nat) (class_ : Nat) (row : SearchProjectionRow) : Finset String :=
  {if class_ = 0 then "exact" else "fts"} ∪ if (ranks.get row.rowId).isSome then {"fts"} else ∅

/-- mirrors the candidate of production.rs:290-308 -/
def candidateOf (row : SearchProjectionRow) (candidateId : String) (variant : SearchCandidateVariant)
    (origins : Finset String) : SearchCandidate where
  candidateId := candidateId
  sourceRef := row.sourceRef.getD ""
  rowVariant := variant
  objectKind := row.objectKind
  text := row.text
  sourceRole := row.sourceRole
  contentTrust := row.contentTrust
  captureCompleteness := row.captureCompleteness
  retrievalOrigins := origins
  instructionAuthority := "none"
  conflicted := false

def Picked.addOrigins (p : Picked) (origins : Finset String) : Picked :=
  { p with candidate := { p.candidate with retrievalOrigins := p.candidate.retrievalOrigins ∪ origins } }

/-- The errors of the selection; the limit always fits a `usize`.
mirrors evertrace-engine/src/search/production.rs:618-627 -/
inductive SearchError where
  | query (error : QueryError)
  | corrupt
  deriving DecidableEq

/-- The ids of rows that were not selected before the loop stopped.
mirrors evertrace-engine/src/search/production.rs:274-280 -/
def notSelected (selected : OrdMap String Picked) (rest : List (Nat × SearchProjectionRow)) : Finset String :=
  ((rest.filterMap fun entry => entry.2.candidateId).filter fun id => (selected.get id).isNone).toFinset

/-- The selection loop, over the classes and the rows of the ranked list.
mirrors evertrace-engine/src/search/production.rs:257-313 -/
def selectLoop (ranks : OrdMap String Nat) : List (Nat × SearchProjectionRow) → Selection →
    Except SearchError Selection
  | [], s => .ok s
  | (class_, row) :: rest, s => do
    let candidateId ← okOr .corrupt row.candidateId
    match s.selected.get candidateId with
    | some picked =>
      selectLoop ranks rest { s with
        selected := s.selected.insert candidateId (picked.addOrigins (originsOf ranks class_ row)) }
    | none =>
      let (budget, fits) := s.budget.consumeCandidateText (utf8 row.text).length
      if fits then do
        let variant ← okOr .corrupt (variantOf row)
        selectLoop ranks rest { s with
          selected := s.selected.insert candidateId
            ⟨class_, candidateOf row candidateId variant (originsOf ranks class_ row), row⟩
          budget := budget }
      else .ok { s with
        omitted := s.omitted ∪ notSelected s.selected ((class_, row) :: rest)
        budget := budget }

/-- The order of `candidates.sort_by`: the position counts in class 3 only.
mirrors evertrace-engine/src/search/production.rs:315-328 -/
def pickedKey (ranks : OrdMap String Nat) (p : Picked) : Nat ×ₗ List Nat ×ₗ String :=
  toLex (p.class_, toLex (if p.class_ = 3 then (ranks.get p.row.rowId).toList else [], p.candidate.candidateId))

/-- The requested number of candidates.
mirrors evertrace-engine/src/search/production.rs:160-170 -/
def limitOf (context : SearchContext) : Nat :=
  min (((context.queryFacets.quantityConstraints.map fun | .resultLimit limit => limit).min?).getD
    context.budget.candidatesRemaining) context.budget.candidatesRemaining

/-! ## How complete it is -/

/-- Two candidates that share an identifier, of different texts and sources.
mirrors the test of production.rs:592-607 -/
def conflictOn (candidates : List Picked) (identifier : String) : Bool :=
  let matching := candidates.filter fun p => containsText p.candidate.text identifier
  matching.length > 1 && (matching.map (·.candidate.text)).dedup.length > 1
    && (matching.map (·.candidate.sourceRef)).dedup.length > 1

def Picked.markConflicted (p : Picked) : Picked := { p with candidate := { p.candidate with conflicted := true } }

/-- One identifier's turn. -/
def markConflict (state : List Picked × Bool) (identifier : String) : List Picked × Bool :=
  if conflictOn state.1 identifier then
    (state.1.map fun p => if containsText p.candidate.text identifier then p.markConflicted else p, true)
  else state

/-- mirrors evertrace-engine/src/search/production.rs:586-616 -/
def markConservativeConflicts (candidates : List Picked) (context : SearchContext) : List Picked × Bool :=
  context.queryFacets.exactIdentifiers.foldl markConflict (candidates, false)

/-- The reason why the time of the answer is not settled, if there is one.
mirrors evertrace-engine/src/search/production.rs:540-566 -/
def temporalGap (candidates : List Picked) (context : SearchContext) : Option String :=
  let incomplete (domain : String) : Option String :=
    if candidates.isEmpty || candidates.any (fun p => p.row.timeDomain != domain) then
      some "temporal_domain_incomplete"
    else none
  match context.queryFacets.temporalQualifiers with
  | [] => none
  | [.eventTimeAsOf _] | [.eventTimeInterval _ _] => incomplete "event_time"
  | [.sourceSequenceAtMost _] => incomplete "source_sequence"
  | _ => some "temporal_qualifier_unknown"

/-- mirrors the completeness of production.rs:339-353 -/
def completenessOf (conflicted temporalPartial parsed stale : Bool) : RetrievalCompleteness :=
  if conflicted then .conflicted
  else if temporalPartial || !parsed then .partial_
  else if stale then .partial_
  else .complete

/-- The end of the search, from the selected candidates on.
mirrors evertrace-engine/src/search/production.rs:314-372 -/
def conclude (context : SearchContext) (fetched : Fetched) (ranks : OrdMap String Nat) (s : Selection) : SearchResult :=
  let ordered := sortByKey (pickedKey ranks) s.selected.values
  let limit := limitOf context
  let omitted := s.omitted ∪ ((ordered.drop limit).map (·.candidate.candidateId)).toFinset
  let (candidates, conflicted) := markConservativeConflicts (ordered.take limit) context
  let gap := temporalGap candidates context
  let stale := fetched.frontier < fetched.authoritativeFrontier
  let (budget, inTime) := s.budget.consumeLatency fetched.elapsedUs
  { projectionFrontier := fetched.frontier
    authoritativeFrontier := fetched.authoritativeFrontier
    candidates := candidates.map (·.candidate)
    completeness := completenessOf conflicted gap.isSome (context.queryFacets.parseStatus == .complete) stale
    degradedReasons := fetched.fts.reasons ∪ gap.toFinset ∪ (if stale then {"search_projection_stale"} else ∅)
      ∪ if inTime then ∅ else {"latency_budget_exhausted"}
    omittedRefs := omitted
    budget := budget }

/-- The time is used up where the full-text query ran into the deadline.
mirrors evertrace-engine/src/search/production.rs:206 -/
def startBudget (context : SearchContext) : FtsOutcome → RetrievalBudget
  | .deadlineExhausted => { context.budget with latencyUsRemaining := 0 }
  | .rows _ | .unavailable => context.budget

/-- The search once the index has answered.
mirrors evertrace-engine/src/search/production.rs:195-372 -/
def select (context : SearchContext) (fetched : Fetched) : Except SearchError SearchResult := do
  let ranks := ftsRanks fetched.fts.list
  let ranked ← (rankRows context ranks (mergeRows fetched.structured fetched.fts.list)).mapError .query
  let selection ← selectLoop ranks (ranked.map fun entry => (entry.1.1, entry.2))
    ⟨.empty, ∅, startBudget context fetched.fts⟩
  return conclude context fetched ranks selection

/-- The result that no query was made for. -/
def refused (context : SearchContext) (reason : String) : SearchResult where
  projectionFrontier := 0
  authoritativeFrontier := 0
  candidates := []
  completeness := .unknown
  degradedReasons := {reason}
  omittedRefs := ∅
  budget := context.budget

/-- The search with an index that answers the structured query.
mirrors evertrace-engine/src/search/production.rs:63-372 -/
def searchInner (context : SearchContext) (fetched : Fetched) : Except SearchError SearchResult := do
  context.validate.mapError .query
  match context.suppression with
  | .unavailable => return refused context "suppression_unavailable"
  | .current _ _ =>
    if context.queryFacets.polarity = .negative ∧ context.queryFacets.explicitExclusions = [] then
      return refused context "negative_without_exact_exclusion"
    else select context fetched

end EverTrace.L2.Search
