import EverTrace.L2Machine.Work
import EverTrace.L1Encoding.Digest
/-!
# Operation bursts (`evertrace-domain/src/work/burst.rs`)

A burst is a run of operations of one kind on one target. It is stored as a
chain of revisions: while it is open a revision appends members, the last
revision closes it. `validate` is the check of one revision, `validateSuccessor`
the check of two consecutive ones.

`Valid` and `Successor` list what the two checks establish; the rest of the
development uses them and never unfolds the checks.
-/
namespace EverTrace.L2.Work
open EverTrace.Lib EverTrace.L1

/-- mirrors evertrace-domain/src/work/burst.rs:22-29 -/
inductive OperationStateDelta where
  | none
  | observed
  | modified
  | verified
  | failed
  | recovered
  deriving DecidableEq, Repr

/-- mirrors evertrace-domain/src/work/burst.rs:33-39 -/
inductive OperationVerifierDelta where
  | none
  | started
  | passed
  | failed
  | inconclusive
  deriving DecidableEq, Repr

/-- mirrors evertrace-domain/src/work/burst.rs:43-46 -/
inductive OperationBurstLifecycle where
  | open_
  | closed
  deriving DecidableEq, Repr

/-- mirrors evertrace-domain/src/work/burst.rs:59-73 -/
structure OperationBurstMember where
  sequence : Nat
  sourceWatermark : Nat
  operationId : OperationId
  operationRevision : Nat
  hostOccurrenceId : HostOccurrenceId
  workBindingRevisionId : WorkBindingRevisionId
  attemptRevisionId : Option RevisionId
  sourceObservationRefs : List SourceObservationId
  scopeEffectRefs : List ScopeEffectId
  artifactRefs : List WorkArtifactId
  sideEffects : List EffectRole
  worktreeTransitionRefs : List WorktreeTransitionId
  integrationEventRefs : List IntegrationEventId
  deriving DecidableEq

/-- mirrors evertrace-domain/src/work/burst.rs:76-97 -/
def OperationBurstMember.validate (m : OperationBurstMember) : Bool :=
  0 < m.sequence && 0 < m.sourceWatermark && 0 < m.operationRevision
    && !m.sourceObservationRefs.isEmpty
    && ([m.sourceObservationRefs.length, m.scopeEffectRefs.length, m.artifactRefs.length,
        m.sideEffects.length, m.worktreeTransitionRefs.length, m.integrationEventRefs.length].all (· ≤ 64))
    && strictlyOrderedUnique m.sourceObservationRefs
    && strictlyOrderedUnique m.scopeEffectRefs
    && strictlyOrderedUnique m.artifactRefs
    && strictlyOrderedUnique m.sideEffects
    && strictlyOrderedUnique m.worktreeTransitionRefs
    && strictlyOrderedUnique m.integrationEventRefs

/-- mirrors evertrace-domain/src/work/burst.rs:102-128 -/
structure OperationBurst where
  operationBurstId : OperationBurstId
  revisionId : RevisionId
  predecessorRevisionId : Option RevisionId
  revisionGeneration : Nat
  lifecycle : OperationBurstLifecycle
  algorithmRevision : Nat
  operationKind : OperationKind
  stateDelta : OperationStateDelta
  verifierDelta : OperationVerifierDelta
  phaseCandidate : Option PhaseKind
  hasObjectiveBoundary : Bool
  errorSignature : Option String
  targetFamily : String
  targetRefs : List String
  members : List OperationBurstMember
  executionLaneId : ExecutionLaneId
  parentLaneId : Option ExecutionLaneId
  subagentId : Option String
  primaryBinding : PrimaryWorkBinding
  attemptId : Option AttemptId
  experimentRunId : Option ExperimentRunId
  competingGroupId : Option CompetingAttemptGroupId
  worktreeLineageRefs : List String
  strategyContractFingerprint : Option Digest
  sourceWatermark : Nat
  deriving DecidableEq

namespace OperationBurst

/-- `members.windows(2)`: sequence and watermark both grow. -/
def membersOrdered (b : OperationBurst) : Bool :=
  decide (b.members.IsChain fun x y => x.sequence < y.sequence ∧ x.sourceWatermark < y.sourceWatermark)

/-- The watermark of the last member, 0 without members. -/
def lastWatermark (members : List OperationBurstMember) : Nat :=
  (members.getLast?.map (·.sourceWatermark)).getD 0

/-- mirrors evertrace-domain/src/work/burst.rs:131-197 -/
def validate (b : OperationBurst) : Except WorkError Unit :=
  let textLists := [b.targetRefs, b.worktreeLineageRefs].all refs
  let orderedMembers := !b.members.isEmpty && b.members.length ≤ 64
    && b.members.all OperationBurstMember.validate && b.membersOrdered
  let uniqueRevisions :=
    decide (b.members.map fun member => (member.operationId, member.operationRevision)).Nodup
  if b.revisionGeneration == 0
      || b.algorithmRevision == 0
      || (b.revisionGeneration == 1) != b.predecessorRevisionId.isNone
      || !textLists
      || !bounded b.targetFamily
      || !orderedMembers
      || !uniqueRevisions
      || b.sourceWatermark != lastWatermark b.members
      || b.errorSignature.any (fun value => !bounded value)
      || b.subagentId.any (fun value => !bounded value)
      || b.primaryBinding.taskId.isNone
      || b.primaryBinding.workstreamId.isNone
      || b.primaryBinding.episodeId.isNone
      || b.primaryBinding.attemptId != b.attemptId
      || b.primaryBinding.experimentRunId != b.experimentRunId
      || b.primaryBinding.competingGroupId != b.competingGroupId
      || (b.attemptId.isNone && (b.experimentRunId.isSome || b.competingGroupId.isSome
        || b.strategyContractFingerprint.isSome))
      || b.members.any (fun member => member.attemptRevisionId.isSome != b.attemptId.isSome
        || (b.attemptId.isNone && (!member.worktreeTransitionRefs.isEmpty
          || !member.integrationEventRefs.isEmpty))) then
    .error .invalidWorkIdentity
  else .ok ()

/-- mirrors evertrace-domain/src/work/burst.rs:199-235 -/
def validateSuccessor (b next : OperationBurst) : Except WorkError Unit := do
  b.validate
  next.validate
  let generation ← okOr .invalidWorkIdentity (checkedSucc 64 b.revisionGeneration)
  if next.operationBurstId != b.operationBurstId
      || next.revisionId == b.revisionId
      || next.predecessorRevisionId != some b.revisionId
      || next.revisionGeneration != generation
      || b.lifecycle == .closed
      || next.algorithmRevision != b.algorithmRevision
      || next.operationKind != b.operationKind
      || next.stateDelta != b.stateDelta
      || next.verifierDelta != b.verifierDelta
      || next.phaseCandidate != b.phaseCandidate
      || next.hasObjectiveBoundary != b.hasObjectiveBoundary
      || next.errorSignature != b.errorSignature
      || next.targetFamily != b.targetFamily
      || next.targetRefs != b.targetRefs
      || next.executionLaneId != b.executionLaneId
      || next.parentLaneId != b.parentLaneId
      || next.subagentId != b.subagentId
      || next.primaryBinding != b.primaryBinding
      || next.attemptId != b.attemptId
      || next.experimentRunId != b.experimentRunId
      || next.competingGroupId != b.competingGroupId
      || next.worktreeLineageRefs != b.worktreeLineageRefs
      || next.strategyContractFingerprint != b.strategyContractFingerprint
      || next.sourceWatermark < b.sourceWatermark
      || !b.members.isPrefixOf next.members then
    .error .invalidWorkIdentity
  else .ok ()

/-- mirrors evertrace-domain/src/work/burst.rs:238-260 -/
def isMeaningfulAfter (b : OperationBurst) (previous : Option OperationBurst) : Bool :=
  !(b.operationKind == .read || b.operationKind == .search || b.operationKind == .observe)
    || !(b.stateDelta == .none || b.stateDelta == .observed)
    || b.errorSignature.isSome
    || b.verifierDelta != .none
    || b.phaseCandidate.isSome
    || b.hasObjectiveBoundary
    || b.members.any (fun member => !member.artifactRefs.isEmpty
      || !member.worktreeTransitionRefs.isEmpty
      || !member.integrationEventRefs.isEmpty
      || member.sideEffects.any (fun role => !(role == .read || role == .observe)))
    || previous.any (fun value => value.targetFamily != b.targetFamily || value.targetRefs != b.targetRefs)

/-! ## What the checks establish -/

/-- Members in the order in which they were observed. -/
def Before (x y : OperationBurstMember) : Prop :=
  x.sequence < y.sequence ∧ x.sourceWatermark < y.sourceWatermark

instance : IsTrans OperationBurstMember Before :=
  ⟨fun _ _ _ hxy hyz => ⟨hxy.1.trans hyz.1, hxy.2.trans hyz.2⟩⟩

/-- What the check of a revision says about its members. -/
structure Valid (b : OperationBurst) : Prop where
  membersNonempty : b.members ≠ []
  membersValid : ∀ m ∈ b.members, m.validate = true
  membersOrdered : b.members.Pairwise Before
  watermark : b.sourceWatermark = lastWatermark b.members

theorem validate_valid {b : OperationBurst} (h : b.validate = .ok ()) : b.Valid := by
  unfold validate at h
  rw [ite_error_ok, Bool.not_eq_true] at h
  simp only [Bool.or_eq_false_iff, Bool.not_eq_false',
    bne_eq_false_iff_eq, Bool.and_eq_true, List.all_eq_true, Bool.not_eq_true', membersOrdered,
    decide_eq_true_eq, List.isEmpty_eq_false_iff] at h
  obtain ⟨⟨⟨⟨⟨⟨⟨⟨⟨⟨⟨⟨⟨-, hmembers⟩, -⟩, hwatermark⟩, -⟩, -⟩, -⟩, -⟩, -⟩, -⟩, -⟩, -⟩, -⟩, -⟩ := h
  obtain ⟨⟨⟨hne, -⟩, hvalid⟩, hordered⟩ := hmembers
  exact ⟨hne, hvalid, List.isChain_iff_pairwise.mp hordered, hwatermark⟩

/-- A burst is marked by its last member. -/
theorem Valid.exists_last {b : OperationBurst} (h : b.Valid) :
    ∃ m, b.members.getLast? = some m ∧ m.sourceWatermark = b.sourceWatermark := by
  have hlast := List.getLast?_eq_some_getLast h.membersNonempty
  refine ⟨_, hlast, ?_⟩
  rw [h.watermark, lastWatermark, hlast]
  rfl

theorem Valid.le_watermark {b : OperationBurst} (h : b.Valid) {m : OperationBurstMember}
    (hm : m ∈ b.members) : m.sourceWatermark ≤ b.sourceWatermark := by
  obtain ⟨last, hlast, hwatermark⟩ := h.exists_last
  obtain ⟨init, hinit⟩ := List.getLast?_eq_some_iff.mp hlast
  have hordered := h.membersOrdered
  rw [hinit] at hm hordered
  rcases List.mem_append.mp hm with hm | hm
  · have := (List.pairwise_append.mp hordered).2.2 m hm last List.mem_cons_self
    have := this.2
    omega
  · rw [List.mem_singleton.mp hm]
    omega

/-- A member has at least one and at most 64 observations, in order. -/
theorem Valid.observations {b : OperationBurst} (h : b.Valid) {m : OperationBurstMember}
    (hm : m ∈ b.members) : m.sourceObservationRefs ≠ [] ∧ m.sourceObservationRefs.length ≤ 64 ∧
      m.sourceObservationRefs.Pairwise (· < ·) := by
  have hvalid := h.membersValid m hm
  simp only [OperationBurstMember.validate, Bool.and_eq_true, List.all_cons, strictlyOrderedUnique_iff,
    decide_eq_true_eq, Bool.not_eq_true', List.isEmpty_eq_false_iff] at hvalid
  obtain ⟨⟨⟨⟨⟨⟨⟨⟨-, hne⟩, hlen, -⟩, hordered⟩, -⟩, -⟩, -⟩, -⟩, -⟩ := hvalid
  exact ⟨hne, hlen, hordered⟩

/-- What the check of two consecutive revisions says about their identity. -/
structure Successor (b next : OperationBurst) : Prop where
  sameId : next.operationBurstId = b.operationBurstId
  newRevision : next.revisionId ≠ b.revisionId
  predecessor : next.predecessorRevisionId = some b.revisionId
  notClosed : b.lifecycle ≠ .closed
  validated : b.validate = .ok () ∧ next.validate = .ok ()

theorem validateSuccessor_successor {b next : OperationBurst}
    (h : b.validateSuccessor next = .ok ()) : b.Successor next := by
  unfold validateSuccessor at h
  obtain ⟨_, hb, h⟩ := bind_eq_ok.mp h
  obtain ⟨_, hnext, h⟩ := bind_eq_ok.mp h
  obtain ⟨generation, -, h⟩ := bind_eq_ok.mp h
  rw [ite_error_ok] at h
  simp only [Bool.or_eq_true, not_or, bne_iff_ne, ne_eq, not_not, beq_iff_eq] at h
  exact ⟨by tauto, by tauto, by tauto, by tauto, hb, hnext⟩

end OperationBurst

end EverTrace.L2.Work
