import EverTrace.L2Machine.SupportState
/-!
# The rows of the support state (`evertrace-store/src/projections/s23.rs`)

`rows` writes every revision as a row of its own, and one projection row for
each scope: the core of the scope, that is the active memberships whose support
is valid, whose atom is eligible and in no conflict (`listed`).

The payload of a row is kept decoded; serialising one of these records to JSON
does not fail. Of an atom, only the revisions it contradicts are read here.
-/
namespace EverTrace.L2.Support
open EverTrace.Lib EverTrace.L1 EverTrace.L2.Semantic EverTrace.L2.Store

/-! ## Rows -/

/-- What a row carries: a journal payload, or the core of a scope. -/
inductive CorePayload where
  | journal (payload : SupportPayload)
  | core (projection : L3CoreProjection)

/-- A row with the further columns written here.
mirrors evertrace-store/src/objects.rs:256-278 -/
structure CoreRow extends ObjectRow CorePayload where
  supportState : Option String
  worktreeId : Option String
  taskId : Option String

/-- mirrors evertrace-store/src/projections/s23.rs:1260-1297 -/
def objectRow (rowId family kind objectId revisionId lifecycle : String)
    (taskId repositoryId worktreeId : Option String) (payload : SupportPayload) (seq generation : Nat) : CoreRow where
  rowId := rowId
  rowKind := .data
  rowClass := some .object
  objectFamily := some family
  objectKind := some kind
  objectId := some objectId
  currentRevisionId := some revisionId
  lifecycle := some lifecycle
  authority := none
  repositoryId := repositoryId
  payload := .journal payload
  sourceEventSeq := seq
  projectionGeneration := generation
  supportState := none
  worktreeId := worktreeId
  taskId := taskId

/-- mirrors evertrace-store/src/projections/s23.rs:1299-1305 -/
def scenarioLifecycle (value : Scenario) : String :=
  match value.status with
  | .active => "active"
  | .closed => "closed"
  | .superseded => "superseded"

/-- mirrors evertrace-store/src/projections/s23.rs:1307-1314 -/
def supportState : GlobalSupportState → String
  | .valid => "valid"
  | .revalidationPending => "revalidation_pending"
  | .insufficient => "insufficient"
  | .invalidated => "invalidated"

/-- mirrors evertrace-store/src/projections/s23.rs:1326-1331 -/
def scopeRepository : CoreScopeIdentity → Option String
  | .global => none
  | .repository id => some id.toText

/-- mirrors evertrace-store/src/projections/s23.rs:1013-1026 -/
def scenarioRow (generation : Nat) (entry : RevisionId × ScenarioEntry) : CoreRow :=
  objectRow s!"object:work:scenario:{entry.1.toText}" "work" "scenario" entry.2.1.scenarioId.toText entry.1.toText
    (scenarioLifecycle entry.2.1) (some entry.2.1.scope.taskId.toText)
    (entry.2.1.scope.repositoryInstanceId.map Id.toText) (entry.2.1.scope.worktreeInstanceId.map Id.toText)
    (.scenarioRecorded entry.2.1) entry.2.2 generation

/-- mirrors evertrace-store/src/projections/s23.rs:972-1003 -/
def S23State.membershipRow (s : S23State) (generation : Nat) (revision : RevisionId) : Except StoreError CoreRow := do
  let (value, seq) ← okOr .storeCorrupt (s.membershipRevisions.get revision)
  let current := (s.memberships.get value.coreMembershipId).map Prod.fst
  return objectRow s!"object:atom:core_membership:{revision.toText}" "atom" "core_membership"
    value.coreMembershipId.toText revision.toText (if current = some value ∧ value.active then "active" else "inactive")
    none (scopeRepository value.scopeIdentity) none (.coreMembershipRecorded value) seq generation

/-- mirrors evertrace-store/src/projections/s23.rs:1032-1045 -/
def contractRow (generation : Nat) (entry : RevisionId × ContractEntry) : CoreRow :=
  objectRow s!"object:atom:global_support_contract:{entry.1.toText}" "atom" "global_support_contract" entry.1.toText
    entry.1.toText "immutable" none none none (.globalSupportContractRecorded entry.2.1) entry.2.2 generation

/-- mirrors evertrace-store/src/projections/s23.rs:40-63 -/
def S23State.validationRow (s : S23State) (generation : Nat) (revision : RevisionId) : Except StoreError CoreRow := do
  let (value, seq) ← okOr .storeCorrupt (s.validations.get revision)
  return objectRow s!"object:atom:global_support_validation:{revision.toText}" "atom" "global_support_validation"
    value.supportContractRef.toText revision.toText (supportState value.state) none none none
    (.globalSupportValidationRecorded value) seq generation

/-! ## Which memberships are listed -/

/-- mirrors evertrace-domain/src/semantic/atom.rs, `contradicts_revision_refs` -/
structure Atom where
  contradictsRevisionRefs : List RevisionId

abbrev Atoms := OrdMap RevisionId (Atom × Nat)

/-- A set of which only membership is read.
mirrors evertrace-store/src/projections/s23.rs:1246-1257 -/
def conflictedRevisions (atoms : Atoms) : List RevisionId :=
  atoms.entries.flatMap fun entry => entry.2.1.contradictsRevisionRefs.flatMap fun contradicted =>
    if (atoms.get contradicted).isSome then [entry.1, contradicted] else []

/-- mirrors evertrace-store/src/projections/s23.rs:632-656 -/
def S23State.atomSupportValidations (s : S23State) (revisionId : RevisionId) : List GlobalSupportValidationEvent :=
  let contracts := sortUnique
    (((s.memberships.values.filter fun entry => entry.1.active && entry.1.atomRevisionId == revisionId).map
        fun entry => entry.1.supportContractRef)
      ++ ((s.contracts.values.filter fun entry =>
        entry.1.successorRevisionOrMembershipRef == revisionId.toText).map
          fun entry => entry.1.supportContractRevisionId))
  contracts.filterMap fun contract => (s.currentValidations.get contract).map Prod.fst

/-- mirrors evertrace-store/src/projections/s23.rs:540-544 -/
def S23State.atomSupportEligible (s : S23State) (revisionId : RevisionId) : Bool :=
  (s.atomSupportValidations revisionId).all fun validation => validation.state == .valid

/-- mirrors evertrace-store/src/projections/s23.rs:1062-1070 -/
def S23State.listed (s : S23State) (atoms : Atoms) (membership : CoreMembership) : Bool :=
  membership.active
    && (s.currentValidations.get membership.supportContractRef).any (fun value => value.1.state == .valid)
    && s.atomSupportEligible membership.atomRevisionId
    && !(conflictedRevisions atoms).contains membership.atomRevisionId

/-- mirrors evertrace-store/src/projections/s23.rs:1071-1075 -/
def S23State.watermark (s : S23State) (atoms : Atoms) (entry : MembershipEntry) : Nat :=
  max (max entry.2 (((s.currentValidations.get entry.1.supportContractRef).map Prod.snd).getD 0))
    (((atoms.get entry.1.atomRevisionId).map Prod.snd).getD 0)

/-! ## The core of each scope -/

/-- The listed memberships with their watermarks, by scope.
mirrors evertrace-store/src/projections/s23.rs:1060-1081 -/
def S23State.coreScopes (s : S23State) (atoms : Atoms) : OrdMap CoreScopeIdentity (List MembershipEntry) :=
  OrdMap.groupBy (fun entry : MembershipEntry => s.listed atoms entry.1) (fun entry => entry.1.scopeIdentity)
    (fun entry => (entry.1, s.watermark atoms entry)) s.memberships.values

/-- mirrors evertrace-store/src/projections/s23.rs:1086-1097 -/
def coreProjection (id : CoreProjectionId) (scope : CoreScopeIdentity) (members : List MembershipEntry) :
    L3CoreProjection where
  coreProjectionId := id
  scopeIdentity := scope
  activeMembershipRevisionIds := members.map fun entry => entry.1.membershipRevisionId
  atomRevisionIds := members.map fun entry => entry.1.atomRevisionId
  sourceWatermark := (members.map Prod.snd).max?.getD 0

/-- mirrors evertrace-store/src/projections/s23.rs:1103-1125 -/
def projectionRow (projection : L3CoreProjection) (generation : Nat) : CoreRow where
  rowId := s!"projection:core:{projection.coreProjectionId.toText}"
  rowKind := .data
  rowClass := some .projection
  objectFamily := none
  objectKind := some "l3_core_projection"
  objectId := none
  currentRevisionId := none
  lifecycle := some "active"
  authority := none
  repositoryId := scopeRepository projection.scopeIdentity
  payload := .core projection
  sourceEventSeq := projection.sourceWatermark
  projectionGeneration := generation
  supportState := some "valid"
  worktreeId := none
  taskId := none

/-- mirrors evertrace-store/src/projections/s23.rs:1084-1126 -/
def coreRow (H : Sha256) (generation : Nat) (entry : CoreScopeIdentity × List MembershipEntry) :
    Except StoreError CoreRow := do
  let members := sortByKey (fun entry : MembershipEntry => entry.1.membershipRevisionId) entry.2
  let id ← (entry.1.projectionId H).mapError fun _ => .storeCorrupt
  let projection := coreProjection id entry.1 members
  projection.validate.mapError fun _ => .storeCorrupt
  return projectionRow projection generation

/-- mirrors evertrace-store/src/projections/s23.rs:1054-1128 -/
def S23State.coreRows (H : Sha256) (s : S23State) (atoms : Atoms) (generation : Nat) :
    Except StoreError (List CoreRow) :=
  (s.coreScopes atoms).entries.mapM (coreRow H generation)

/-- mirrors evertrace-store/src/projections/s23.rs:1005-1052 -/
def S23State.rows (H : Sha256) (s : S23State) (atoms : Atoms) (generation : Nat) :
    Except StoreError (List CoreRow) := do
  let memberships ← (s.membershipRevisions.entries.map Prod.fst).mapM (s.membershipRow generation)
  let validations ← (s.validations.entries.map Prod.fst).mapM (s.validationRow generation)
  let core ← s.coreRows H atoms generation
  return s.scenarioRevisions.entries.map (scenarioRow generation) ++ memberships
    ++ s.contracts.entries.map (contractRow generation) ++ validations ++ core

end EverTrace.L2.Support
