import EverTrace.L1Encoding.Ids
import EverTrace.Lib.Guard
import EverTrace.Lib.SortedSet
import Mathlib.Data.String.Basic
/-!
# Work records (`evertrace-domain/src/work/`, `evidence.rs`)

The enumerations, text bounds and small records shared by the recall ledger,
the operation bursts and the work episodes.
-/
namespace EverTrace.L2.Work
open EverTrace.Lib EverTrace.L1

/-! ## Enumerations -/

/-- mirrors evertrace-domain/src/work/workstream.rs:14-27 -/
inductive PhaseKind where
  | orient
  | inspect
  | reproduce
  | diagnose
  | design
  | implement
  | verify
  | execute
  | analyze
  | recover
  | deliver
  | unknown
  deriving DecidableEq, Repr

/-- mirrors evertrace-domain/src/work/episode.rs:566-571 -/
inductive CheckpointVerifierState where
  | unverified
  | passed
  | failed
  | inconclusive
  deriving DecidableEq, Repr

/-- mirrors evertrace-domain/src/evidence.rs:838-843 -/
inductive CorrelationStrength where
  | exact
  | ambiguous
  | conflicted
  | unavailable
  deriving DecidableEq, Repr

/-- mirrors evertrace-domain/src/evidence.rs:847-852 -/
inductive NormalizationState where
  | singleSource
  | corroborated
  | complemented
  | normalizationConflicted
  deriving DecidableEq, Repr

/-- mirrors evertrace-domain/src/evidence.rs:866-876 -/
inductive OperationKind where
  | read
  | search
  | mutate
  | verify
  | build
  | launch
  | observe
  | integrate
  | other
  deriving DecidableEq, Repr

/-- mirrors evertrace-domain/src/evidence.rs:880-887 -/
inductive EffectRole where
  | read
  | mutate
  | verify
  | launch
  | observe
  | integrate
  deriving DecidableEq, Repr

/-- mirrors evertrace-domain/src/work/binding.rs:16-21 -/
inductive AssignmentStatus where
  | resolved
  | provisional
  | conflicted
  | unresolved
  deriving DecidableEq, Repr

/-- mirrors evertrace-domain/src/work.rs:46-52 -/
inductive TerminalKind where
  | normal
  | timeout
  | cancelled
  | crashed
  | sourceClosedUnconfirmed
  deriving DecidableEq, Repr

/-- mirrors evertrace-domain/src/work.rs:66-70 -/
inductive CoverageLevel where
  | full
  | partial_
  | opaque_
  deriving DecidableEq, Repr

/-- mirrors evertrace-domain/src/work.rs:74-79 -/
inductive SourceCoverage where
  | open_
  | complete
  | partial_
  | unavailable
  deriving DecidableEq, Repr

/-- mirrors evertrace-domain/src/work.rs:83-87 -/
inductive PairingIntegrity where
  | complete
  | unmatched
  | unavailable
  deriving DecidableEq, Repr

/-- mirrors evertrace-domain/src/work.rs:91-97 -/
inductive PayloadIntegrity where
  | complete
  | redacted
  | truncated
  | corrupt
  | unavailable
  deriving DecidableEq, Repr

/-- mirrors evertrace-domain/src/work.rs:101-107 -/
inductive OrderingIntegrity where
  | complete
  | gapped
  | raced
  | bestEffort
  | unavailable
  deriving DecidableEq, Repr

/-- mirrors evertrace-domain/src/work.rs:111-115 -/
inductive ReasoningVisibility where
  | raw
  | summary
  | explicitRationale
  deriving DecidableEq, Repr

-- The derived order of an enumeration is the order of its constructors.
instance : LinearOrder EffectRole :=
  LinearOrder.lift' EffectRole.ctorIdx fun a b h => by cases a <;> cases b <;> first | rfl | cases h
instance : LinearOrder SourceCoverage :=
  LinearOrder.lift' SourceCoverage.ctorIdx fun a b h => by cases a <;> cases b <;> first | rfl | cases h
instance : LinearOrder PairingIntegrity :=
  LinearOrder.lift' PairingIntegrity.ctorIdx fun a b h => by cases a <;> cases b <;> first | rfl | cases h
instance : LinearOrder PayloadIntegrity :=
  LinearOrder.lift' PayloadIntegrity.ctorIdx fun a b h => by cases a <;> cases b <;> first | rfl | cases h
instance : LinearOrder OrderingIntegrity :=
  LinearOrder.lift' OrderingIntegrity.ctorIdx fun a b h => by cases a <;> cases b <;> first | rfl | cases h
instance : LinearOrder ReasoningVisibility :=
  LinearOrder.lift' ReasoningVisibility.ctorIdx fun a b h => by cases a <;> cases b <;> first | rfl | cases h

/-- The work errors the modelled checks return.
mirrors evertrace-domain/src/work.rs:744-763 -/
inductive WorkError where
  | invalidWorkIdentity
  | invalidReference
  | duplicate
  | invalidLifecycle
  | invalidReceipt
  | invalidAutoresearch
  deriving DecidableEq, Repr

/-! ## Texts and reference lists -/

/-- `char::is_whitespace`: the Unicode property White_Space. -/
def isWhitespace (c : Char) : Bool :=
  let n := c.toNat
  (0x9 ≤ n && n ≤ 0xd) || n == 0x20 || n == 0x85 || n == 0xa0 || n == 0x1680
    || (0x2000 ≤ n && n ≤ 0x200a) || n == 0x2028 || n == 0x2029 || n == 0x202f || n == 0x205f || n == 0x3000

/-- `char::is_control`: the Unicode category Cc. -/
def isControl (c : Char) : Bool := c.val < 0x20 || (0x7f ≤ c.val && c.val ≤ 0x9f)

/-- `value.trim().is_empty()` -/
def blank (value : String) : Bool := value.toList.all isWhitespace

/-- A text with something in it, of at most `maxText` bytes. -/
def boundedBy (maxText : Nat) (value : String) : Bool := !blank value && value.utf8ByteSize ≤ maxText

/-- mirrors evertrace-domain/src/work/episode.rs:22-24, workstream.rs:233-235 -/
def bounded (value : String) : Bool := boundedBy 4096 value

/-- mirrors evertrace-domain/src/work/episode.rs:26-30, workstream.rs:237-241 -/
def refs (values : List String) : Bool :=
  values.length ≤ 64 && values.all bounded && strictlyOrderedUnique values

/-- mirrors evertrace-domain/src/work/episode.rs:32-34 -/
def ids {α : Type} [LinearOrder α] (values : List α) : Bool :=
  values.length ≤ 64 && strictlyOrderedUnique values

/-- `u64::checked_add(1)` and `u32::checked_add(1)` at `bits` 64 and 32. -/
def checkedSucc (bits n : Nat) : Option Nat := if n + 1 < 2 ^ bits then some (n + 1) else none

theorem checkedSucc_eq_some {bits n m : Nat} :
    checkedSucc bits n = some m ↔ n + 1 < 2 ^ bits ∧ m = n + 1 := by
  unfold checkedSucc
  split
  · next h => simp [h, eq_comm]
  · next h => simp [h]

theorem refs_iff {values : List String} : refs values = true ↔
    values.length ≤ 64 ∧ (∀ value ∈ values, bounded value = true) ∧ values.Pairwise (· < ·) := by
  unfold refs
  rw [Bool.and_eq_true, Bool.and_eq_true, decide_eq_true_eq, List.all_eq_true, strictlyOrderedUnique_iff,
    and_assoc]

theorem ids_iff {α : Type} [LinearOrder α] {values : List α} : ids values = true ↔
    values.length ≤ 64 ∧ values.Pairwise (· < ·) := by
  unfold ids
  rw [Bool.and_eq_true, decide_eq_true_eq, strictlyOrderedUnique_iff]

/-! ## Small records -/

/-- mirrors evertrace-domain/src/work/workstream.rs:31-39 -/
structure PhaseContract where
  localGoal : String
  phaseKind : PhaseKind
  phaseLabel : String
  primaryTargets : List String
  entryConditions : List String
  acceptanceBoundary : String
  expectedStateTransition : String
  deriving DecidableEq

/-- mirrors evertrace-domain/src/work/workstream.rs:42-53 -/
def PhaseContract.validate (c : PhaseContract) : Except WorkError Unit :=
  if !bounded c.localGoal || !bounded c.phaseLabel || !bounded c.acceptanceBoundary
      || !bounded c.expectedStateTransition || !refs c.primaryTargets || !refs c.entryConditions then
    .error .invalidWorkIdentity
  else .ok ()

/-- mirrors evertrace-domain/src/work/binding.rs:36-43 -/
structure PrimaryWorkBinding where
  taskId : Option TaskId
  workstreamId : Option WorkstreamId
  episodeId : Option WorkEpisodeId
  attemptId : Option AttemptId
  experimentRunId : Option ExperimentRunId
  competingGroupId : Option CompetingAttemptGroupId
  deriving DecidableEq

end EverTrace.L2.Work
