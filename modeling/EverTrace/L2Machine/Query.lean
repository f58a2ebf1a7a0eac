import EverTrace.L1Encoding.Ids
import EverTrace.Lib.Guard
import Mathlib.Data.Finset.Basic
import Mathlib.Data.List.Infix
/-!
# Search contexts (`evertrace-domain/src/query.rs`)

A search is asked with a context: the text, the facets that were read out of
it, the scope, the references that must not be shown, and a budget. The budget
is spent candidate by candidate; what a candidate costs in tokens is a quarter
of its text, and at least one.
-/
namespace EverTrace.L2.Search
open EverTrace.Lib EverTrace.L1

def maxQueryBytes : Nat := 8 * 1024

def maxFacetItems : Nat := 32

/-- mirrors evertrace-domain/src/query.rs:13-19 -/
inductive FacetParseStatus where
  | complete
  | partial_
  | unknown
  deriving DecidableEq

/-- mirrors evertrace-domain/src/query.rs:21-28 -/
inductive Polarity where
  | positive
  | negative
  | mixed
  | unknown
  deriving DecidableEq

/-- mirrors evertrace-domain/src/query.rs:30-39 -/
inductive TemporalMode where
  | current
  | asOf
  | interval
  | sequence
  | any
  | unknown
  deriving DecidableEq

/-- mirrors evertrace-domain/src/query.rs:41-48 -/
inductive SearchIntent where
  | taskPlanning
  | stageAssistance
  | failureRecovery
  | historyLookup
  deriving DecidableEq

/-- mirrors evertrace-domain/src/query.rs:50-56 -/
inductive ScopeBoundary where
  | task (taskId : TaskId)
  | repository (repositoryId : RepositoryId)
  | worktree (worktreeId : WorktreeId)
  deriving DecidableEq

/-- mirrors evertrace-domain/src/query.rs:58-69 -/
inductive SourceBoundary where
  | user
  | assistant
  | tool
  | host
  | imported
  | projectPolicy
  | objectiveEvidence
  | agentInferred
  deriving DecidableEq

/-- mirrors evertrace-domain/src/query.rs:80-86 -/
inductive LifecycleBoundary where
  | active
  | terminal
  | any
  deriving DecidableEq

/-- mirrors evertrace-domain/src/query.rs:88-94 -/
inductive TemporalQualifier where
  | eventTimeAsOf (atUs : Int)
  | eventTimeInterval (startUs endUs : Int)
  | sourceSequenceAtMost (sequence : Nat)
  deriving DecidableEq

/-- mirrors evertrace-domain/src/query.rs:96-100 -/
inductive QuantityConstraint where
  | resultLimit (limit : Nat)
  deriving DecidableEq

/-- mirrors evertrace-domain/src/query.rs:102-118 -/
structure QueryFacetSet where
  parseStatus : FacetParseStatus
  exactIdentifiers : List String
  conditionLiterals : List String
  relationRequirements : List String
  polarity : Polarity
  explicitExclusions : List String
  temporalMode : TemporalMode
  temporalQualifiers : List TemporalQualifier
  quantityConstraints : List QuantityConstraint
  scopeBoundary : Option ScopeBoundary
  sourceBoundary : Option SourceBoundary
  lifecycleBoundary : LifecycleBoundary

/-- mirrors evertrace-domain/src/query.rs:511-520; the errors of the modelled functions -/
inductive QueryError where
  | invalid
  | budgetExhausted
  | suppressionUnavailable
  deriving DecidableEq

/-- mirrors `temporal_shape`, query.rs:163-179 -/
def temporalShape : TemporalMode → List TemporalQualifier → Bool
  | .current, [] | .any, [] | .unknown, [] => true
  | .asOf, [.eventTimeAsOf _] => true
  | .interval, [.eventTimeInterval _ _] => true
  | .sequence, [.sourceSequenceAtMost _] => true
  | _, _ => false

def TemporalQualifier.valid : TemporalQualifier → Bool
  | .eventTimeAsOf atUs => 0 ≤ atUs
  | .eventTimeInterval startUs endUs => 0 ≤ startUs && startUs < endUs
  | .sourceSequenceAtMost _ => true

/-- mirrors evertrace-domain/src/query.rs:121-184 -/
def QueryFacetSet.validate (f : QueryFacetSet) : Except QueryError Unit :=
  ensure .invalid
    ([f.exactIdentifiers, f.conditionLiterals, f.relationRequirements, f.explicitExclusions].all (fun values =>
        values.length ≤ maxFacetItems && values.all (· ≠ "") && values.Nodup)
      && f.temporalQualifiers.length ≤ maxFacetItems
      && f.quantityConstraints.length ≤ maxFacetItems
      && f.temporalQualifiers.Nodup
      && f.quantityConstraints.Nodup
      && f.quantityConstraints.all (fun | .resultLimit limit => limit ≠ 0)
      && f.temporalQualifiers.all TemporalQualifier.valid
      && temporalShape f.temporalMode f.temporalQualifiers)

/-- mirrors evertrace-domain/src/query.rs:187-194 -/
inductive SuppressionSnapshot where
  | current (generation : Nat) (refHashes : Finset String)
  | unavailable

/-- mirrors evertrace-domain/src/query.rs:198-207 -/
def SuppressionSnapshot.validate : SuppressionSnapshot → Except QueryError Unit
  | .current _ refHashes => ensure .invalid ("" ∉ refHashes)
  | .unavailable => .ok ()

/-- mirrors evertrace-domain/src/query.rs:209-214 -/
def SuppressionSnapshot.suppresses (s : SuppressionSnapshot) (reference : String) : Except QueryError Bool :=
  match s with
  | .current _ refHashes => .ok (reference ∈ refHashes)
  | .unavailable => .error .suppressionUnavailable

/-- mirrors evertrace-domain/src/query.rs:217-224 -/
inductive RetrievalCompleteness where
  | complete
  | partial_
  | conflicted
  | unknown
  deriving DecidableEq

/-- mirrors evertrace-domain/src/query.rs:382-390 -/
structure RetrievalBudget where
  candidatesRemaining : Nat
  tokensRemaining : Nat
  latencyUsRemaining : Nat
  hopsRemaining : Nat
  followUpsRemaining : Nat
  deriving DecidableEq

/-- mirrors evertrace-domain/src/query.rs:393-403 -/
def RetrievalBudget.validate (b : RetrievalBudget) : Except QueryError Unit :=
  ensure .invalid
    (b.candidatesRemaining ≠ 0 && b.tokensRemaining ≠ 0 && b.latencyUsRemaining ≠ 0 && b.hopsRemaining ≤ 2
      && b.followUpsRemaining ≤ 1)

/-- The tokens of a text, `None` where `u32::try_from` fails.
mirrors evertrace-domain/src/query.rs:415-417 -/
def textTokens (bytes : Nat) : Option Nat :=
  let quarter := min (bytes + 3) (2 ^ 64 - 1) / 4
  if quarter < 2 ^ 32 then some (max quarter 1) else none

/-- The budget afterwards, and whether the candidate fits. A candidate that has too much text is counted all the same.
mirrors evertrace-domain/src/query.rs:413-423 -/
def RetrievalBudget.consumeCandidateText (b : RetrievalBudget) (bytes : Nat) : RetrievalBudget × Bool :=
  if b.candidatesRemaining = 0 then (b, false)
  else
    let b := { b with candidatesRemaining := b.candidatesRemaining - 1 }
    match textTokens bytes with
    | none => (b, false)
    | some tokens =>
      if tokens ≤ b.tokensRemaining then ({ b with tokensRemaining := b.tokensRemaining - tokens }, true)
      else (b, false)

/-- The budget afterwards, and whether the time was there.
mirrors evertrace-domain/src/query.rs:425-433 -/
def RetrievalBudget.consumeLatency (b : RetrievalBudget) (elapsedUs : Nat) : RetrievalBudget × Bool :=
  if elapsedUs ≤ b.latencyUsRemaining then
    ({ b with latencyUsRemaining := b.latencyUsRemaining - elapsedUs }, true)
  else ({ b with latencyUsRemaining := 0 }, false)

/-- mirrors evertrace-domain/src/query.rs:436-447 -/
structure SearchContext where
  intent : SearchIntent
  rawQuery : String
  queryFacets : QueryFacetSet
  taskId : Option TaskId
  repositoryId : Option RepositoryId
  worktreeId : Option WorktreeId
  suppression : SuppressionSnapshot
  budget : RetrievalBudget

/-- The scope of the facets is that of the request, where the request has one. -/
def SearchContext.scopeAgrees (c : SearchContext) : Bool :=
  match c.queryFacets.scopeBoundary with
  | none => true
  | some (.task taskId) => c.taskId.all (· == taskId)
  | some (.repository repositoryId) => c.repositoryId.all (· == repositoryId)
  | some (.worktree worktreeId) => c.worktreeId.all (· == worktreeId)

/-- mirrors evertrace-domain/src/query.rs:450-472 -/
def SearchContext.validate (c : SearchContext) : Except QueryError Unit := do
  ensure .invalid (c.rawQuery ≠ "" && (utf8 c.rawQuery).length ≤ maxQueryBytes)
  c.queryFacets.validate
  c.suppression.validate
  ensure .invalid c.scopeAgrees
  c.budget.validate

/-- mirrors evertrace-domain/src/query.rs:475-480 -/
inductive SearchCandidateVariant where
  | object
  | evidenceSurface
  deriving DecidableEq

/-- A set of texts is a finite set, whatever the order it is kept in.
mirrors evertrace-domain/src/query.rs:482-496 -/
structure SearchCandidate where
  candidateId : String
  sourceRef : String
  rowVariant : SearchCandidateVariant
  objectKind : Option String
  text : String
  sourceRole : Option String
  contentTrust : Option String
  captureCompleteness : Option String
  retrievalOrigins : Finset String
  instructionAuthority : String
  conflicted : Bool
  deriving DecidableEq

/-- mirrors evertrace-domain/src/query.rs:498-509, the retrieval layer apart, which is always the same -/
structure SearchResult where
  projectionFrontier : Nat
  authoritativeFrontier : Nat
  candidates : List SearchCandidate
  completeness : RetrievalCompleteness
  degradedReasons : Finset String
  omittedRefs : Finset String
  budget : RetrievalBudget
  deriving DecidableEq

end EverTrace.L2.Search
