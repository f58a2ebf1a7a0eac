import EverTrace.Lib.Chains
import EverTrace.Lib.SortedSet
import EverTrace.L2Machine.Rows
import EverTrace.L2Machine.ScenarioCore
/-!
# The core support state (`evertrace-store/src/projections/s23.rs`)

`S23State` is the part of the projection that holds scenarios, core
memberships, their support contracts and the validations of those. `apply`
takes the next payload of the journal; `forget` takes deleted revisions out;
`restore` and `rebuild` make the state again from stored revisions.

A value is kept with the journal sequence it was recorded at. The sets of
deleted ids are lists, of which only membership is read. A revision id in text
is accepted by `parse` only in its own display form, so the deletion test on
`successor_revision_or_membership_ref` compares texts.
-/
namespace EverTrace.L2.Support
open EverTrace.Lib EverTrace.L1 EverTrace.L2.Semantic EverTrace.L2.Store

/-- The payloads `S23State` takes.
mirrors evertrace-store/src/command.rs:642-645 -/
inductive SupportPayload where
  | scenarioRecorded (value : Scenario)
  | coreMembershipRecorded (value : CoreMembership)
  | globalSupportContractRecorded (value : GlobalSuccessorSupportContract)
  | globalSupportValidationRecorded (value : GlobalSupportValidationEvent)
  deriving DecidableEq

abbrev ScenarioEntry := Scenario × Nat
abbrev MembershipEntry := CoreMembership × Nat
abbrev ContractEntry := GlobalSuccessorSupportContract × Nat
abbrev ValidationEntry := GlobalSupportValidationEvent × Nat

/-- mirrors evertrace-store/src/projections/s23.rs:22-31 -/
structure S23State where
  scenarios : OrdMap ScenarioId ScenarioEntry
  scenarioRevisions : OrdMap RevisionId ScenarioEntry
  memberships : OrdMap CoreMembershipId MembershipEntry
  membershipRevisions : OrdMap RevisionId MembershipEntry
  contracts : OrdMap RevisionId ContractEntry
  validations : OrdMap RevisionId ValidationEntry
  currentValidations : OrdMap RevisionId ValidationEntry

def S23State.empty : S23State := ⟨.empty, .empty, .empty, .empty, .empty, .empty, .empty⟩

/-! ## Checks -/

/-- mirrors evertrace-store/src/projections/s23.rs:1154-1205 -/
def validateValidationAgainstContract (contract : GlobalSuccessorSupportContract)
    (validation : GlobalSupportValidationEvent) : Except StoreError Unit := do
  contract.validate.mapError fun _ => .storeCorrupt
  validation.validate.mapError fun _ => .storeCorrupt
  ensure .storeCorrupt (validation.supportContractRef == contract.supportContractRevisionId
    && validation.successorRef == contract.successorRevisionOrMembershipRef)
  let refs := (validation.survivingSupportRefs ++ validation.invalidOrMissingRefs).insertionSort (· ≤ ·)
  let supportSufficient :=
    contract.supportThresholdSnapshot.minimumSurvivingSupport ≤ validation.survivingSupportRefs.length
  ensure .storeCorrupt (match validation.state with
    | .valid => decide supportSufficient && refs == contract.supportRevisionRefs
    | .insufficient => !decide supportSufficient && refs == contract.supportRevisionRefs
    | .invalidated =>
      contract.supportThresholdSnapshot.requireAuthorization && refs == contract.supportRevisionRefs
    | .revalidationPending => refs.all fun value => contract.supportRevisionRefs.contains value)

/-- mirrors evertrace-store/src/projections/s23.rs:1207-1231 -/
def validateValidationSuccessor (current next : GlobalSupportValidationEvent) : Except StoreError Unit := do
  let sameGenerationCompletion := next.dependencyGeneration == current.dependencyGeneration
    && current.state == .revalidationPending && next.state != .revalidationPending
  ensure .storeCorrupt (current.dependencyGeneration + 1 < 2 ^ 64)
  let nextGenerationPending := next.dependencyGeneration == current.dependencyGeneration + 1
    && next.state == .revalidationPending
  ensure .storeCorrupt (current.supportContractRef == next.supportContractRef
    && current.successorRef == next.successorRef
    && (sameGenerationCompletion || nextGenerationPending))

/-- The place of a scenario revision: a successor of the current one, or a first one.
mirrors evertrace-store/src/projections/s23.rs:661-668, 897-903 -/
def checkScenario (H : Sha256) : Option ScenarioEntry → ScenarioEntry → Except StoreError Unit
  | some current, value => (current.1.validateSuccessor H value.1).mapError fun _ => .storeCorrupt
  | none, value =>
    ensure .storeCorrupt (value.1.predecessorRevisionId.isNone && value.1.revisionGeneration == 1)

/-- mirrors evertrace-store/src/projections/s23.rs:681-687 -/
def checkMembership : Option MembershipEntry → MembershipEntry → Except StoreError Unit
  | some current, value => (current.1.validateSuccessor value.1).mapError fun _ => .storeCorrupt
  | none, value => ensure .storeCorrupt value.1.supersedesMembershipRevisionId.isNone

/-- mirrors evertrace-store/src/projections/s23.rs:717-723, 961-965 -/
def checkValidation : Option ValidationEntry → ValidationEntry → Except StoreError Unit
  | some current, value => validateValidationSuccessor current.1 value.1
  | none, value => ensure .storeCorrupt (value.1.dependencyGeneration == 1)

/-- A validation belongs to a recorded contract and agrees with it.
mirrors evertrace-store/src/projections/s23.rs:712-716, 956-960 -/
def checkContract (contracts : OrdMap RevisionId ContractEntry) (value : ValidationEntry) :
    Except StoreError Unit := do
  let contract ← okOr .storeCorrupt (contracts.get value.1.supportContractRef)
  validateValidationAgainstContract contract.1 value.1

/-- `if map.insert(id, value).is_some() { return Err(StoreCorrupt) }` -/
def insertNew {α : Type} (map : OrdMap RevisionId α) (id : RevisionId) (value : α) :
    Except StoreError (OrdMap RevisionId α) := do
  ensure .storeCorrupt (map.get id).isNone
  return map.insert id value

/-! ## Applying a payload -/

/-- mirrors evertrace-store/src/projections/s23.rs:657-737 -/
def S23State.apply (H : Sha256) (s : S23State) (payload : SupportPayload) (seq : Nat) :
    Except StoreError S23State :=
  match payload with
  | .scenarioRecorded value => do
    checkScenario H (s.scenarios.get value.scenarioId) (value, seq)
    let scenarioRevisions ← insertNew s.scenarioRevisions value.revisionId (value, seq)
    return { s with
      scenarioRevisions := scenarioRevisions
      scenarios := s.scenarios.insert value.scenarioId (value, seq) }
  | .coreMembershipRecorded value => do
    checkMembership (s.memberships.get value.coreMembershipId) (value, seq)
    let membershipRevisions ← insertNew s.membershipRevisions value.membershipRevisionId (value, seq)
    return { s with
      membershipRevisions := membershipRevisions
      memberships := s.memberships.insert value.coreMembershipId (value, seq) }
  | .globalSupportContractRecorded value => do
    let contracts ← insertNew s.contracts value.supportContractRevisionId (value, seq)
    return { s with contracts := contracts }
  | .globalSupportValidationRecorded value => do
    checkContract s.contracts (value, seq)
    checkValidation (s.currentValidations.get value.supportContractRef) (value, seq)
    let validations ← insertNew s.validations value.validationRevisionId (value, seq)
    return { s with
      validations := validations
      currentValidations := s.currentValidations.insert value.supportContractRef (value, seq) }

/-- Accepted payloads, one after another from the empty state. -/
def applyAll (H : Sha256) (entries : List (SupportPayload × Nat)) : Except StoreError S23State :=
  entries.foldlM (fun s e => s.apply H e.1 e.2) .empty

/-! ## Forgetting -/

/-- A membership revision is named by a deletion: itself, its membership, or its atom. -/
def hit (revisionIds : List RevisionId) (membershipIds : List CoreMembershipId) (entry : MembershipEntry) : Bool :=
  membershipIds.contains entry.1.coreMembershipId
    || revisionIds.contains entry.1.membershipRevisionId
    || revisionIds.contains entry.1.atomRevisionId

/-- mirrors evertrace-store/src/projections/s23.rs:70-86 -/
def S23State.removedContracts (s : S23State) (revisionIds : List RevisionId)
    (membershipIds : List CoreMembershipId) : List RevisionId :=
  ((s.membershipRevisions.values.filter (hit revisionIds membershipIds)).map fun entry =>
      entry.1.supportContractRef)
    ++ (s.contracts.entries.filter fun entry => revisionIds.any fun revision =>
      revision.toText == entry.2.1.successorRevisionOrMembershipRef).map Prod.fst

/-- The two retained membership maps are keyed by the membership and by the revision; both keys are the entry's
own.
mirrors evertrace-store/src/projections/s23.rs:65-105 -/
def S23State.forget (s : S23State) (revisionIds : List RevisionId) (membershipIds : List CoreMembershipId) :
    S23State :=
  let removed := s.removedContracts revisionIds membershipIds
  { s with
    memberships := s.memberships.retain fun id entry => !membershipIds.contains id
      && !revisionIds.contains entry.1.membershipRevisionId && !revisionIds.contains entry.1.atomRevisionId
    membershipRevisions := s.membershipRevisions.retain fun revision entry => !revisionIds.contains revision
      && !membershipIds.contains entry.1.coreMembershipId && !revisionIds.contains entry.1.atomRevisionId
    contracts := s.contracts.retain fun id _ => !removed.contains id
    validations := s.validations.retain fun _ entry => !removed.contains entry.1.supportContractRef
    currentValidations := s.currentValidations.retain fun id _ => !removed.contains id }

/-! ## Restoring and rebuilding -/

/-- mirrors evertrace-store/src/projections/s23.rs:834-885 -/
def S23State.restore (s : S23State) (payload : SupportPayload) (seq : Nat) : Except StoreError S23State :=
  match payload with
  | .scenarioRecorded value => do
    return { s with scenarioRevisions := ← insertNew s.scenarioRevisions value.revisionId (value, seq) }
  | .coreMembershipRecorded value => do
    return { s with
      membershipRevisions := ← insertNew s.membershipRevisions value.membershipRevisionId (value, seq) }
  | .globalSupportContractRecorded value => do
    return { s with contracts := ← insertNew s.contracts value.supportContractRevisionId (value, seq) }
  | .globalSupportValidationRecorded value => do
    return { s with validations := ← insertNew s.validations value.validationRevisionId (value, seq) }

/-- mirrors evertrace-store/src/projections/s23.rs:889-905 -/
def rebuildScenarios (H : Sha256) (revisions : OrdMap RevisionId ScenarioEntry) :
    Except StoreError (OrdMap ScenarioId ScenarioEntry) :=
  (sortByKey (fun entry => (toLex (entry.1.scenarioId, entry.1.revisionGeneration) : ScenarioId ×ₗ Nat))
    revisions.values).foldlM (place (fun entry => entry.1.scenarioId) (checkScenario H)) .empty

/-- `rounds` further revisions of a chain, each the only one that supersedes the one before it.
mirrors evertrace-store/src/projections/s23.rs:926-943 -/
def followMembership (members : List MembershipEntry) : Nat → MembershipEntry → Except StoreError MembershipEntry
  | 0, current => .ok current
  | rounds + 1, current =>
    match members.filter fun entry =>
      entry.1.supersedesMembershipRevisionId == some current.1.membershipRevisionId with
    | [next] => do
      (current.1.validateSuccessor next.1).mapError fun _ => .storeCorrupt
      followMembership members rounds next
    | _ => .error .storeCorrupt

/-- mirrors evertrace-store/src/projections/s23.rs:919-943 -/
def rebuildMembership (members : List MembershipEntry) : Except StoreError MembershipEntry :=
  match members.filter fun entry => entry.1.supersedesMembershipRevisionId.isNone with
  | [root] => followMembership members (members.length - 1) root
  | _ => .error .storeCorrupt

/-- mirrors evertrace-store/src/projections/s23.rs:906-945 -/
def rebuildMemberships (revisions : OrdMap RevisionId MembershipEntry) :
    Except StoreError (OrdMap CoreMembershipId MembershipEntry) :=
  (sortUnique (revisions.values.map fun entry => entry.1.coreMembershipId)).foldlM (fun memberships id => do
    let current ← rebuildMembership (revisions.values.filter fun entry => entry.1.coreMembershipId = id)
    return memberships.insert id current) .empty

/-- One validation of the rebuild. -/
def placeValidation (contracts : OrdMap RevisionId ContractEntry)
    (current : OrdMap RevisionId ValidationEntry) (entry : ValidationEntry) :
    Except StoreError (OrdMap RevisionId ValidationEntry) := do
  checkContract contracts entry
  place (fun entry => entry.1.supportContractRef) checkValidation current entry

/-- mirrors evertrace-store/src/projections/s23.rs:946-968 -/
def rebuildValidations (contracts : OrdMap RevisionId ContractEntry)
    (validations : OrdMap RevisionId ValidationEntry) : Except StoreError (OrdMap RevisionId ValidationEntry) :=
  (sortByKey (fun entry => (toLex (entry.1.supportContractRef, toLex (entry.1.dependencyGeneration, entry.2)) :
    RevisionId ×ₗ Nat ×ₗ Nat)) validations.values).foldlM (placeValidation contracts) .empty

/-- mirrors evertrace-store/src/projections/s23.rs:888-970 -/
def S23State.rebuild (H : Sha256) (s : S23State) : Except StoreError S23State := do
  let scenarios ← rebuildScenarios H s.scenarioRevisions
  let memberships ← rebuildMemberships s.membershipRevisions
  let currentValidations ← rebuildValidations s.contracts s.validations
  return { s with
    scenarios := scenarios
    memberships := memberships
    currentValidations := currentValidations }

end EverTrace.L2.Support
