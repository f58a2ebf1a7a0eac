import EverTrace.L2Machine.Proposal
/-!
# Scenarios and core memberships (`evertrace-domain/src/semantic/scenario_core.rs`)

The records behind the core: a scenario of a task, the membership of an atom
revision in the core of a scope, the contract that says what a membership rests
on, the validations of a contract, and the projection that lists the core of a
scope. Each comes with the checks it passes on its own and against its
successor.

The generation of a scenario is a `u64`. Where the source adds one to it, the
successor's own check refuses a generation of 0, so an addition that wraps
around refuses the successor like one on `Nat` does.
-/
namespace EverTrace.L2.Semantic
open EverTrace.Lib EverTrace.L1 EverTrace.L1.Canonical EverTrace.L2.Recall EverTrace.L2.Work

def maxRefs : Nat := 256

/-- mirrors evertrace-domain/src/semantic/scenario_core.rs:348-350 -/
def boundedSorted {α : Type} [LT α] [DecidableLT α] (values : List α) : Bool := sortedUpTo maxRefs values

/-- mirrors evertrace-domain/src/semantic/scenario_core.rs:342-346 -/
def validRefs (values : List String) : Bool :=
  values.length ≤ maxRefs && values.all validIdentifier && strictlyIncreasing (values.map utf8)

/-- mirrors evertrace-domain/src/semantic/scenario_core.rs:334-336 -/
def optionalString : Option String → CanonicalValue
  | some value => .string value
  | none => .null

/-! ## Scenarios -/

/-- mirrors evertrace-domain/src/semantic/scenario_core.rs:21-25 -/
structure ScenarioScope where
  taskId : TaskId
  repositoryInstanceId : Option RepositoryId
  worktreeInstanceId : Option WorktreeId
  deriving DecidableEq

/-- mirrors evertrace-domain/src/semantic/scenario_core.rs:28-33 -/
def ScenarioScope.validate (scope : ScenarioScope) : Except SemanticError Unit :=
  ensure .invalidScenario (!(scope.worktreeInstanceId.isSome && scope.repositoryInstanceId.isNone))

/-- mirrors evertrace-domain/src/semantic/scenario_core.rs:35-53 -/
def ScenarioScope.scenarioId (H : Sha256) (scope : ScenarioScope) : Except SemanticError ScenarioId := do
  scope.validate
  let value : CanonicalValue := .map
    [ ("task_id", .string scope.taskId.toText),
      ("repository_instance_id", optionalString (scope.repositoryInstanceId.map Id.toText)),
      ("worktree_instance_id", optionalString (scope.worktreeInstanceId.map Id.toText)) ]
  let digest ← (sha256 H "evertrace.scenario.scope" 1 value).mapError fun _ => .invalidScenario
  return .fromDigest digest

/-- mirrors evertrace-domain/src/semantic/scenario_core.rs:59-63 -/
inductive ScenarioStatus where
  | active
  | closed
  | superseded
  deriving DecidableEq, Repr

/-- mirrors evertrace-domain/src/semantic/scenario_core.rs:67-72 -/
structure ActiveScenarioLineage where
  activeWorkstreamId : Option WorkstreamId
  activeEpisodeId : Option WorkEpisodeId
  activeAttemptId : Option AttemptId
  unresolvedCompetingGroupIds : List CompetingAttemptGroupId
  deriving DecidableEq

/-- mirrors evertrace-domain/src/semantic/scenario_core.rs:76-80 -/
structure ScenarioWorkstream where
  workstreamId : WorkstreamId
  phaseKind : PhaseKind
  openEpisodeId : Option WorkEpisodeId
  deriving DecidableEq

/-- mirrors evertrace-domain/src/semantic/scenario_core.rs:84-106 -/
structure Scenario where
  scenarioId : ScenarioId
  revisionId : RevisionId
  predecessorRevisionId : Option RevisionId
  revisionGeneration : Nat
  scope : ScenarioScope
  activeWorktreeSnapshotId : Option WorktreeSnapshotId
  worktreeLineageRefs : List String
  status : ScenarioStatus
  goal : String
  currentState : List String
  activeLineage : ActiveScenarioLineage
  activeWorkstreams : List ScenarioWorkstream
  runningExperimentRefs : List ExperimentRunId
  constraints : List RevisionId
  decisions : List RevisionId
  openLoops : List String
  activeFailures : List String
  completedOutcomes : List String
  relevantArtifacts : List WorkArtifactId
  supportAtomIds : List AtomId
  sourceWatermark : Nat
  deriving DecidableEq

/-- mirrors evertrace-domain/src/semantic/scenario_core.rs:109-139 -/
def Scenario.validate (H : Sha256) (scenario : Scenario) : Except SemanticError Unit := do
  scenario.scope.validate
  let scenarioId ← scenario.scope.scenarioId H
  ensure .invalidScenario (scenario.scenarioId == scenarioId
    && scenario.revisionGeneration != 0
    && (scenario.revisionGeneration == 1) == scenario.predecessorRevisionId.isNone
    && validText scenario.goal
    && validRefs scenario.worktreeLineageRefs
    && validRefs scenario.currentState
    && validRefs scenario.openLoops
    && validRefs scenario.activeFailures
    && validRefs scenario.completedOutcomes
    && boundedSorted scenario.activeLineage.unresolvedCompetingGroupIds
    && boundedSorted (scenario.activeWorkstreams.map ScenarioWorkstream.workstreamId)
    && boundedSorted scenario.runningExperimentRefs
    && boundedSorted scenario.constraints
    && boundedSorted scenario.decisions
    && boundedSorted scenario.relevantArtifacts
    && boundedSorted scenario.supportAtomIds
    && !(scenario.activeLineage.activeEpisodeId.isSome && scenario.activeLineage.activeWorkstreamId.isNone)
    && !(scenario.activeLineage.activeAttemptId.isSome && scenario.activeLineage.activeEpisodeId.isNone))

/-- mirrors evertrace-domain/src/semantic/scenario_core.rs:141-154 -/
def Scenario.validateSuccessor (H : Sha256) (current next : Scenario) : Except SemanticError Unit := do
  current.validate H
  next.validate H
  ensure .invalidScenario (next.scenarioId == current.scenarioId
    && next.scope == current.scope
    && next.predecessorRevisionId == some current.revisionId
    && next.revisionGeneration == current.revisionGeneration + 1
    && !(current.status != .active && next.status == .active)
    && current != next)

/-! ## Core memberships -/

/-- The derived order: the global scope first. -/
def CoreScopeIdentity.order : CoreScopeIdentity → WithBot RepositoryId
  | .global => ⊥
  | .repository id => id

theorem CoreScopeIdentity.order_injective : Function.Injective CoreScopeIdentity.order := by
  intro a b h
  cases a with
  | global =>
    cases b with
    | global => rfl
    | repository id => cases h
  | repository id =>
    cases b with
    | global => cases h
    | repository id' =>
      have hid : id = id' := WithBot.coe_injective h
      rw [hid]

instance : LinearOrder CoreScopeIdentity := LinearOrder.lift' CoreScopeIdentity.order CoreScopeIdentity.order_injective

/-- mirrors evertrace-domain/src/semantic/scenario_core.rs:165-173 -/
def CoreScopeIdentity.projectionId (H : Sha256) (scope : CoreScopeIdentity) :
    Except SemanticError CoreProjectionId := do
  let value : CanonicalValue := match scope with
    | .global => .string "global"
    | .repository id => .string id.toText
  let digest ← (sha256 H "evertrace.core.scope" 1 value).mapError fun _ => .invalidCoreMembership
  return .fromDigest digest

/-- mirrors evertrace-domain/src/semantic/scenario_core.rs:178-188 -/
structure CoreMembership where
  coreMembershipId : CoreMembershipId
  membershipRevisionId : RevisionId
  atomRevisionId : RevisionId
  scopeIdentity : CoreScopeIdentity
  supportContractRef : RevisionId
  authorizationRevisionRefs : List RevisionId
  supersedesMembershipRevisionId : Option RevisionId
  createdByAcceptanceRef : RevisionId
  active : Bool
  deriving DecidableEq

/-- mirrors evertrace-domain/src/semantic/scenario_core.rs:191-199 -/
def CoreMembership.validate (membership : CoreMembership) : Except SemanticError Unit :=
  ensure .invalidCoreMembership (!membership.authorizationRevisionRefs.isEmpty
    && boundedSorted membership.authorizationRevisionRefs
    && membership.supersedesMembershipRevisionId != some membership.membershipRevisionId)

/-- mirrors evertrace-domain/src/semantic/scenario_core.rs:201-212 -/
def CoreMembership.validateSuccessor (current next : CoreMembership) : Except SemanticError Unit := do
  current.validate
  next.validate
  ensure .invalidCoreMembership (next.coreMembershipId == current.coreMembershipId
    && next.supersedesMembershipRevisionId == some current.membershipRevisionId
    && current.active
    && current != next)

/-! ## Support contracts and validations -/

/-- mirrors evertrace-domain/src/semantic/scenario_core.rs:217-220 -/
structure SupportThresholdSnapshot where
  minimumSurvivingSupport : Nat
  requireAuthorization : Bool
  deriving DecidableEq

/-- mirrors evertrace-domain/src/semantic/scenario_core.rs:223-228 -/
def SupportThresholdSnapshot.validate (snapshot : SupportThresholdSnapshot) : Except SemanticError Unit :=
  ensure .invalidGlobalSupport (snapshot.minimumSurvivingSupport != 0)

/-- mirrors evertrace-domain/src/semantic/scenario_core.rs:233-244 -/
structure GlobalSuccessorSupportContract where
  supportContractRevisionId : RevisionId
  successorRevisionOrMembershipRef : String
  supportRevisionRefs : List RevisionId
  authorizationRevisionRefs : List RevisionId
  evidenceCohortHash : Digest
  supportThresholdSnapshot : SupportThresholdSnapshot
  promotionProposalRevisionId : RevisionId
  promotionValidatorRevision : Nat
  applicabilityContractHash : Digest
  createdAtUs : Int
  deriving DecidableEq

/-- mirrors evertrace-domain/src/semantic/scenario_core.rs:247-262 -/
def GlobalSuccessorSupportContract.validate (contract : GlobalSuccessorSupportContract) :
    Except SemanticError Unit := do
  ensure .invalidGlobalSupport (validIdentifier contract.successorRevisionOrMembershipRef
    && !contract.supportRevisionRefs.isEmpty
    && boundedSorted contract.supportRevisionRefs
    && boundedSorted contract.authorizationRevisionRefs
    && !(contract.supportThresholdSnapshot.requireAuthorization && contract.authorizationRevisionRefs.isEmpty)
    && contract.supportThresholdSnapshot.minimumSurvivingSupport ≤ contract.supportRevisionRefs.length
    && contract.promotionValidatorRevision != 0
    && 0 ≤ contract.createdAtUs)
  contract.supportThresholdSnapshot.validate

/-- mirrors evertrace-domain/src/semantic/scenario_core.rs:267-272 -/
inductive GlobalSupportState where
  | valid
  | revalidationPending
  | insufficient
  | invalidated
  deriving DecidableEq, Repr

/-- mirrors evertrace-domain/src/semantic/scenario_core.rs:276-288 -/
structure GlobalSupportValidationEvent where
  validationRevisionId : RevisionId
  supportContractRef : RevisionId
  successorRef : String
  dependencyGeneration : Nat
  state : GlobalSupportState
  provenanceDegraded : Bool
  survivingSupportRefs : List RevisionId
  invalidOrMissingRefs : List RevisionId
  triggerRefs : List String
  validatorRevision : Nat
  createdAtUs : Int
  deriving DecidableEq

/-- mirrors evertrace-domain/src/semantic/scenario_core.rs:291-309 -/
def GlobalSupportValidationEvent.validate (event : GlobalSupportValidationEvent) : Except SemanticError Unit :=
  ensure .invalidGlobalSupport (validIdentifier event.successorRef
    && event.dependencyGeneration != 0
    && event.validatorRevision != 0
    && 0 ≤ event.createdAtUs
    && boundedSorted event.survivingSupportRefs
    && boundedSorted event.invalidOrMissingRefs
    && validRefs event.triggerRefs
    && !(event.survivingSupportRefs.any fun value => event.invalidOrMissingRefs.contains value)
    && !(event.state == .valid && event.provenanceDegraded != !event.invalidOrMissingRefs.isEmpty))

/-! ## The projection of a scope -/

/-- mirrors evertrace-domain/src/semantic/scenario_core.rs:314-320 -/
structure L3CoreProjection where
  coreProjectionId : CoreProjectionId
  scopeIdentity : CoreScopeIdentity
  activeMembershipRevisionIds : List RevisionId
  atomRevisionIds : List RevisionId
  sourceWatermark : Nat
  deriving DecidableEq

/-- mirrors evertrace-domain/src/semantic/scenario_core.rs:323-331 -/
def L3CoreProjection.validate (projection : L3CoreProjection) : Except SemanticError Unit :=
  ensure .invalidCoreMembership
    (projection.activeMembershipRevisionIds.length == projection.atomRevisionIds.length
      && boundedSorted projection.activeMembershipRevisionIds
      && boundedSorted projection.atomRevisionIds)

end EverTrace.L2.Semantic
