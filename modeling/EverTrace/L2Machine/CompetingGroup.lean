import EverTrace.Lib.OrdMap
import EverTrace.L2Machine.Attempt
import EverTrace.L2Machine.Autoresearch
import EverTrace.L2Machine.RecoveryContract
import EverTrace.L2Machine.Rows
/-!
# Competing attempts (`evertrace-domain/src/work/attempt.rs`, `evertrace-engine/src/work/attempt.rs`)

Attempts that try for the same thing form a group, and one of them may be selected.
`selectCompetingSelected` reads the group, its members and their evidence from the
rows of a snapshot and lists the members that have won; `resolveCompetingSelected`
selects one of them.

The payload of a row is `none` if there is none or if it cannot be read. A new
revision id is an argument, `new_v7` of the source; a `u64` is a `Nat` and the one
sum is checked against `2 ^ 64`.
-/

namespace EverTrace.L2.Repository
open EverTrace.Lib EverTrace.L1

/-! ## Integrations -/

/-- mirrors evertrace-domain/src/repository.rs:176-183 -/
inductive IntegrationKind where
  | fastForward
  | mergeCommit
  | rebase
  | cherryPick
  | squash
  | manualPatch
  deriving DecidableEq, Repr

/-- mirrors evertrace-domain/src/repository.rs:186-188 -/
def IntegrationKind.ancestryBased : IntegrationKind → Bool
  | .fastForward | .mergeCommit => true
  | _ => false

/-- mirrors evertrace-domain/src/repository.rs:544-559 -/
structure IntegrationEvent where
  integrationEventId : IntegrationEventId
  repositoryInstanceId : RepositoryId
  sourceWorktreeInstanceId : WorktreeId
  sourceSnapshotId : WorktreeSnapshotId
  destinationWorktreeInstanceId : WorktreeId
  destinationSnapshotId : WorktreeSnapshotId
  kind : IntegrationKind
  commitRefs : List String
  patchEquivalenceRefs : List String
  conflictResolutionDetected : Bool
  integratedAttemptIds : List AttemptId
  revalidatedAnchorRefs : List String
  evidenceRefs : List String
  assessment : LineageAssessment
  deriving DecidableEq

/-- mirrors evertrace-domain/src/repository.rs:562-595 -/
def IntegrationEvent.validate (event : IntegrationEvent) : Except RepositoryError Unit := do
  ensure .invalidIntegration (!event.evidenceRefs.isEmpty)
  requireUnique event.integratedAttemptIds
  event.commitRefs.forM validOid
  requireUnique event.commitRefs
  event.patchEquivalenceRefs.forM validRef
  requireUnique event.patchEquivalenceRefs
  event.revalidatedAnchorRefs.forM validRef
  requireUnique event.revalidatedAnchorRefs
  event.evidenceRefs.forM validRef
  requireUnique event.evidenceRefs
  ensure .invalidIntegration (event.kind.ancestryBased == !event.commitRefs.isEmpty
    && (event.kind.ancestryBased || !event.patchEquivalenceRefs.isEmpty))
  ensure .invalidIntegration (!(event.conflictResolutionDetected && event.assessment == .proven
    && event.revalidatedAnchorRefs.isEmpty))

end EverTrace.L2.Repository

namespace EverTrace.L2.Competing
open EverTrace.Lib EverTrace.L1 EverTrace.L2.Work EverTrace.L2.Store
open EverTrace.L2.AttemptRevision (Attempt)
open EverTrace.L2.Autoresearch (ResultEvidence ExperimentRun)
open EverTrace.L2.Repository (IntegrationEvent)
open EverTrace.L2.Recovery (CompetingResolutionStatus)

/-! ## Groups -/

/-- mirrors evertrace-domain/src/work/attempt.rs:517-524 -/
inductive CompetingConflictKind where
  | overlappingChange
  | alternativeStrategy
  | incompatibleResult
  | sharedStateRace
  deriving DecidableEq, Repr

/-- mirrors evertrace-domain/src/work/attempt.rs:548-554 -/
structure CandidateSnapshotRef where
  attemptId : AttemptId
  workstreamId : WorkstreamId
  snapshotId : WorktreeSnapshotId
  deriving DecidableEq

/-- Candidates are ordered field by field. -/
instance : LinearOrder CandidateSnapshotRef :=
  LinearOrder.lift' (fun c => toLex (c.attemptId, toLex (c.workstreamId, c.snapshotId))) fun a b h => by
    cases a
    cases b
    simpa [Prod.ext_iff] using h

/-- mirrors evertrace-domain/src/work/attempt.rs:556-578 -/
structure CompetingAttemptGroup where
  competingGroupId : CompetingAttemptGroupId
  revisionId : RevisionId
  predecessorRevisionId : Option RevisionId
  revisionGeneration : Nat
  taskId : TaskId
  decisionBoundaryRef : String
  comparisonContractRef : Option String
  originWorkstreamId : Option WorkstreamId
  originEpisodeId : Option WorkEpisodeId
  memberWorkstreamIds : List WorkstreamId
  memberAttemptIds : List AttemptId
  candidateSnapshotRefs : List CandidateSnapshotRef
  targetRefs : List String
  conflictKind : CompetingConflictKind
  resolutionStatus : CompetingResolutionStatus
  selectedAttemptId : Option AttemptId
  partiallyIntegratedAttemptIds : List AttemptId
  resolutionEvidenceRefs : List String
  sourceWatermark : Nat
  deriving DecidableEq

namespace CompetingAttemptGroup

/-- The status agrees with what is selected and with the evidence.
mirrors evertrace-domain/src/work/attempt.rs:582-602 -/
def closed (group : CompetingAttemptGroup) : Bool :=
  match group.resolutionStatus with
  | .open_ | .unresolved | .rejectedAll =>
    group.selectedAttemptId.isNone && group.partiallyIntegratedAttemptIds.isEmpty
      && (group.resolutionStatus == .open_) == group.resolutionEvidenceRefs.isEmpty
  | .selected =>
    group.selectedAttemptId.isSome && group.partiallyIntegratedAttemptIds.isEmpty
      && !group.resolutionEvidenceRefs.isEmpty
  | .partiallyIntegrated =>
    group.selectedAttemptId.isNone && !group.partiallyIntegratedAttemptIds.isEmpty
      && !group.resolutionEvidenceRefs.isEmpty

/-- mirrors evertrace-domain/src/work/attempt.rs:581-633 -/
def validate (group : CompetingAttemptGroup) : Except WorkError Unit :=
  ensure .invalidWorkIdentity (group.revisionGeneration != 0
    && group.sourceWatermark != 0
    && (group.revisionGeneration == 1) == group.predecessorRevisionId.isNone
    && bounded group.decisionBoundaryRef
    && group.comparisonContractRef.all bounded
    && group.originEpisodeId.isNone
    && 2 ≤ group.memberAttemptIds.length
    && ids group.memberAttemptIds
    && ids group.memberWorkstreamIds
    && ids group.candidateSnapshotRefs
    && refs group.targetRefs
    && refs group.resolutionEvidenceRefs
    && strictlyOrderedUnique group.partiallyIntegratedAttemptIds
    && group.partiallyIntegratedAttemptIds.all group.memberAttemptIds.contains
    && group.selectedAttemptId.all group.memberAttemptIds.contains
    && group.closed)

/-- mirrors evertrace-domain/src/work/attempt.rs:642-660 -/
def transitionOk (group next : CompetingAttemptGroup) : Bool :=
  ((group.resolutionStatus == .open_ || group.resolutionStatus == .unresolved)
      && (next.resolutionStatus == .unresolved || next.resolutionStatus == .partiallyIntegrated
        || next.resolutionStatus == .selected || next.resolutionStatus == .rejectedAll))
    || (group.resolutionStatus == .partiallyIntegrated
      && (next.resolutionStatus == .partiallyIntegrated || next.resolutionStatus == .selected
        || next.resolutionStatus == .rejectedAll))

/-- mirrors evertrace-domain/src/work/attempt.rs:661-671 -/
def partialProgress (group next : CompetingAttemptGroup) : Bool :=
  group.resolutionStatus != .partiallyIntegrated
    || next.resolutionStatus != .partiallyIntegrated
    || (group.partiallyIntegratedAttemptIds.all next.partiallyIntegratedAttemptIds.contains
      && (group.partiallyIntegratedAttemptIds.length < next.partiallyIntegratedAttemptIds.length
        || group.resolutionEvidenceRefs.length < next.resolutionEvidenceRefs.length))

/-- mirrors evertrace-domain/src/work/attempt.rs:635-697 -/
def validateSuccessor (group next : CompetingAttemptGroup) : Except WorkError Unit := do
  group.validate
  next.validate
  let generation ← okOr .invalidWorkIdentity (checkedSucc 64 group.revisionGeneration)
  ensure .invalidWorkIdentity (next.competingGroupId == group.competingGroupId
    && next.revisionGeneration == generation
    && next.predecessorRevisionId == some group.revisionId
    && next.revisionId != group.revisionId
    && next.taskId == group.taskId
    && next.decisionBoundaryRef == group.decisionBoundaryRef
    && next.comparisonContractRef == group.comparisonContractRef
    && next.originWorkstreamId == group.originWorkstreamId
    && next.originEpisodeId == group.originEpisodeId
    && next.memberWorkstreamIds == group.memberWorkstreamIds
    && next.memberAttemptIds == group.memberAttemptIds
    && next.candidateSnapshotRefs == group.candidateSnapshotRefs
    && next.targetRefs == group.targetRefs
    && next.conflictKind == group.conflictKind
    && group.sourceWatermark < next.sourceWatermark
    && group.resolutionEvidenceRefs.all next.resolutionEvidenceRefs.contains
    && group.transitionOk next
    && group.partialProgress next)

end CompetingAttemptGroup

/-! ## The rows of a snapshot -/

/-- The payloads that are read here. -/
inductive WorkPayload where
  | attemptRecorded (attempt : Attempt)
  | competingAttemptGroupRecorded (group : CompetingAttemptGroup)
  | integrationEventRecorded (event : IntegrationEvent)
  | resultEvidenceRecorded (result : ResultEvidence)
  | experimentRunRecorded (run : ExperimentRun)
  | other

abbrev WorkRow := ObjectRow (Option WorkPayload)

/-- mirrors evertrace-store/src/projections.rs:138-141, 330-334 -/
structure ProjectionSnapshot where
  frontier : Nat
  rows : List WorkRow

def ProjectionSnapshot.dataRows (snapshot : ProjectionSnapshot) : List WorkRow :=
  snapshot.rows.filter fun row => row.rowKind == .data

/-- The payload of a row, which must be there and of one kind. -/
def payloadOf {α : Type} (read : WorkPayload → Option α) (row : WorkRow) : Except StoreError α :=
  okOr .storeCorrupt (row.payload.bind read)

def WorkPayload.attempt : WorkPayload → Option Attempt
  | .attemptRecorded attempt => some attempt
  | _ => none

def WorkPayload.group : WorkPayload → Option CompetingAttemptGroup
  | .competingAttemptGroupRecorded group => some group
  | _ => none

def WorkPayload.integration : WorkPayload → Option IntegrationEvent
  | .integrationEventRecorded event => some event
  | _ => none

def WorkPayload.result : WorkPayload → Option ResultEvidence
  | .resultEvidenceRecorded result => some result
  | _ => none

def WorkPayload.run : WorkPayload → Option ExperimentRun
  | .experimentRunRecorded run => some run
  | _ => none

/-- mirrors evertrace-store/src/projections.rs:726 -/
def attemptRowId (id : RevisionId) : String := "object:work:attempt:" ++ id.toText

def groupRowId (id : RevisionId) : String := "object:work:competing_attempt_group:" ++ id.toText

/-- mirrors evertrace-store/src/repository.rs:163-165 -/
def integrationRowId (id : IntegrationEventId) : String := "object:work:integration_event:" ++ id.toText

def resultRowId (id : RevisionId) : String := "object:work:result_evidence:" ++ id.toText

def runRowId (id : RevisionId) : String := "object:work:experiment_run:" ++ id.toText

/-! ### Lineages -/

/-- How the revisions of a kind of record are numbered and checked. -/
structure LineageRules (α : Type) where
  generation : α → Nat
  revisionId : α → RevisionId
  predecessorRevisionId : α → Option RevisionId
  validate : α → Except WorkError Unit
  validateSuccessor : α → α → Except WorkError Unit

namespace LineageRules

variable {α : Type} (r : LineageRules α)

/-- Each revision is valid, has the next number and continues the one before it. -/
def check : Option α → Nat → List α → Except StoreError Unit
  | _, _, [] => .ok ()
  | previous, index, revision :: rest => do
    (r.validate revision).mapError fun _ => .storeCorrupt
    ensure .storeCorrupt (r.generation revision == index + 1
      && r.predecessorRevisionId revision == previous.map r.revisionId)
    previous.forM fun previous => (r.validateSuccessor previous revision).mapError fun _ => StoreError.storeCorrupt
    check (some revision) (index + 1) rest

/-- mirrors evertrace-store/src/projections.rs:652-696 -/
def current (revisions : List α) : Except StoreError α := do
  r.check none 0 (sortByKey r.generation revisions)
  okOr .storeCorrupt (sortByKey r.generation revisions).getLast?

end LineageRules

/-- mirrors evertrace-store/src/projections.rs:652-672 -/
def attemptLineage (H : Sha256) : LineageRules Attempt where
  generation := Attempt.revisionGeneration
  revisionId := Attempt.revisionId
  predecessorRevisionId := Attempt.predecessorRevisionId
  validate := Attempt.validate H
  validateSuccessor := Attempt.validateSuccessor H

/-- mirrors evertrace-store/src/projections.rs:674-696 -/
def groupLineage : LineageRules CompetingAttemptGroup where
  generation := CompetingAttemptGroup.revisionGeneration
  revisionId := CompetingAttemptGroup.revisionId
  predecessorRevisionId := CompetingAttemptGroup.predecessorRevisionId
  validate := CompetingAttemptGroup.validate
  validateSuccessor := CompetingAttemptGroup.validateSuccessor

/-! ### The group and its members -/

/-- mirrors evertrace-store/src/projections.rs:963-995 -/
def groupIdForRevision (snapshot : ProjectionSnapshot) (expected : RevisionId) :
    Except StoreError (Option CompetingAttemptGroupId) :=
  snapshot.dataRows.foldlM (fun selected row =>
    if row.objectKind != some "competing_attempt_group" || row.currentRevisionId != some expected.toText then .ok selected
    else do
      let value ← payloadOf WorkPayload.group row
      value.validate.mapError fun _ => StoreError.storeCorrupt
      ensure .storeCorrupt (value.revisionId == expected
        && row.objectId == some value.competingGroupId.toText
        && row.rowId == groupRowId value.revisionId
        && selected.isNone)
      return some value.competingGroupId) none

/-- mirrors evertrace-store/src/projections.rs:638-643 -/
structure AttemptCurrentView where
  frontier : Nat
  attempts : OrdMap AttemptId Attempt
  competingGroups : OrdMap CompetingAttemptGroupId CompetingAttemptGroup

/-- mirrors evertrace-store/src/projections.rs:776-798 -/
def groupRevisions (snapshot : ProjectionSnapshot) (groupId : CompetingAttemptGroupId) :
    Except StoreError (List CompetingAttemptGroup) :=
  (snapshot.dataRows.filter fun row => row.objectKind == some "competing_attempt_group"
    && row.objectId == some groupId.toText).mapM fun row => do
      let value ← payloadOf WorkPayload.group row
      ensure .storeCorrupt (value.competingGroupId == groupId && row.rowId == groupRowId value.revisionId)
      return value

/-- The attempt that a row is about, if it is a member.
mirrors evertrace-store/src/projections.rs:810-819 -/
def memberOf (memberIds : List AttemptId) (row : WorkRow) : Option AttemptId :=
  (row.objectId.bind Id.fromStr).filter memberIds.contains

/-- mirrors evertrace-store/src/projections.rs:805-838 -/
def attemptRevisions (snapshot : ProjectionSnapshot) (memberIds : List AttemptId) :
    Except StoreError (OrdMap AttemptId (List Attempt)) :=
  (snapshot.dataRows.filter fun row => row.objectKind == some "attempt").foldlM (fun revisions row =>
    match memberOf memberIds row with
    | none => .ok revisions
    | some attemptId => do
      let value ← payloadOf WorkPayload.attempt row
      ensure .storeCorrupt (value.attemptId == attemptId && row.rowId == attemptRowId value.revisionId)
      return revisions.push attemptId value) .empty

/-- mirrors evertrace-store/src/projections.rs:768-848 -/
def forCompetingGroup (H : Sha256) (snapshot : ProjectionSnapshot) (groupId : CompetingAttemptGroupId) :
    Except StoreError AttemptCurrentView := do
  let group ← groupLineage.current (← groupRevisions snapshot groupId)
  let memberIds := sortUnique group.memberAttemptIds
  let revisions ← attemptRevisions snapshot memberIds
  let attempts ← memberIds.foldlM (fun attempts memberId => do
    let values ← okOr .storeCorrupt (revisions.get memberId)
    return attempts.insert memberId (← (attemptLineage H).current values)) OrdMap.empty
  return { frontier := snapshot.frontier, attempts := attempts
           competingGroups := OrdMap.empty.insert groupId group }

/-! ### The evidence -/

/-- mirrors evertrace-store/src/projections.rs:951-957 -/
structure CompetingResolutionEvidenceView where
  frontier : Nat
  integrations : OrdMap IntegrationEventId IntegrationEvent
  runRevisions : OrdMap RevisionId ExperimentRun
  currentResults : OrdMap ResultEvidenceId ResultEvidence

def maxMembers : Nat := 64

def maxFactIds : Nat := maxMembers * 64

/-- The integrations and results that the attempts name.
mirrors evertrace-store/src/projections.rs:1001-1024 -/
def factIds (H : Sha256) (attempts : List Attempt) :
    Except StoreError (List IntegrationEventId × List ResultEvidenceId) := do
  ensure .storeCorrupt (attempts.length ≤ maxMembers)
  attempts.foldlM (fun (integrationIds, resultIds) attempt => do
    (attempt.validate H).mapError fun _ => StoreError.storeCorrupt
    ensure .storeCorrupt (attempt.integrationEventRefs.length ≤ maxMembers
      && attempt.parentVerificationRefs.length ≤ maxMembers)
    let integrationIds := sortUnique (integrationIds ++ attempt.integrationEventRefs)
    let resultIds := sortUnique (resultIds ++ attempt.parentVerificationRefs.filterMap Id.fromStr)
    ensure .storeCorrupt (integrationIds.length ≤ maxFactIds && resultIds.length ≤ maxFactIds)
    return (integrationIds, resultIds)) ([], [])

/-- A revision of a result and the journal sequence of its row. -/
abbrev ResultEntry := ResultEvidence × Nat

/-- The maps while the rows are read. -/
structure EvidenceMaps where
  integrations : OrdMap IntegrationEventId IntegrationEvent
  results : OrdMap RevisionId ResultEntry

/-- mirrors evertrace-store/src/projections.rs:1032-1059 -/
def readIntegration (integrationIds : List IntegrationEventId) (maps : EvidenceMaps) (row : WorkRow) :
    Except StoreError EvidenceMaps :=
  match (row.objectId.bind Id.fromStr).filter integrationIds.contains with
  | none => .ok maps
  | some id => do
    let value ← payloadOf WorkPayload.integration row
    value.validate.mapError fun _ => StoreError.storeCorrupt
    ensure .storeCorrupt (value.integrationEventId == id && row.rowId == integrationRowId id
      && (maps.integrations.get id).isNone)
    return { maps with integrations := maps.integrations.insert id value }

/-- mirrors evertrace-store/src/projections.rs:1060-1096 -/
def readResult (resultIds : List ResultEvidenceId) (maps : EvidenceMaps) (row : WorkRow) : Except StoreError EvidenceMaps :=
  match (row.objectId.bind Id.fromStr).filter resultIds.contains with
  | none => .ok maps
  | some id => do
    let value ← payloadOf WorkPayload.result row
    value.validate.mapError fun _ => StoreError.storeCorrupt
    ensure .storeCorrupt (value.resultEvidenceId == id && row.rowId == resultRowId value.revisionId
      && row.currentRevisionId == some value.revisionId.toText)
    ensure .storeCorrupt (maps.results.values.length < maxFactIds && (maps.results.get value.revisionId).isNone)
    return { maps with results := maps.results.insert value.revisionId (value, row.sourceEventSeq) }

/-- mirrors evertrace-store/src/projections.rs:1030-1099 -/
def readEvidence (integrationIds : List IntegrationEventId) (resultIds : List ResultEvidenceId) (maps : EvidenceMaps)
    (row : WorkRow) : Except StoreError EvidenceMaps :=
  if row.objectKind == some "integration_event" then readIntegration integrationIds maps row
  else if row.objectKind == some "result_evidence" then readResult resultIds maps row
  else .ok maps

/-- Goes from a revision to the one that names it as its parent, until none are left; each turn takes one of them, so
a fuel of their number is enough.
mirrors evertrace-store/src/projections/autoresearch.rs:877-894 -/
def followResults : Nat → ResultEntry → List ResultEntry → Except StoreError ResultEntry
  | _, current, [] => .ok current
  | 0, _, _ => .error .storeCorrupt
  | fuel + 1, current, values =>
    match values.partition fun value => value.1.parentRevisionId == some current.1.revisionId with
    | ([next], rest) => do
      (current.1.validateSuccessor next.1).mapError fun _ => StoreError.storeCorrupt
      followResults fuel next rest
    | _ => .error .storeCorrupt

/-- mirrors evertrace-store/src/projections/autoresearch.rs:863-895 -/
def foldResultChain (values : List ResultEntry) : Except StoreError ResultEntry :=
  match values.partition fun value => value.1.parentRevisionId.isNone with
  | ([root], rest) => do
    root.1.validate.mapError fun _ => StoreError.storeCorrupt
    followResults rest.length root rest
  | _ => .error .storeCorrupt

/-- mirrors evertrace-store/src/projections/autoresearch.rs:951-967 -/
def rebuildResults (revisions : OrdMap RevisionId ResultEntry) : Except StoreError (OrdMap ResultEvidenceId ResultEntry) :=
  let grouped := OrdMap.groupBy (fun _ => true) (fun entry : ResultEntry => entry.1.resultEvidenceId) id revisions.values
  grouped.entries.foldlM (fun current entry => do return current.insert entry.1 (← foldResultChain entry.2)) .empty

/-- mirrors evertrace-store/src/projections.rs:1118-1147 -/
def readRun (H : Sha256) (runRevisionIds : List RevisionId) (runs : OrdMap RevisionId ExperimentRun) (row : WorkRow) :
    Except StoreError (OrdMap RevisionId ExperimentRun) :=
  if row.objectKind == some "experiment_run" && row.currentRevisionId.any (runRevisionIds.map Id.toText).contains then do
    let value ← payloadOf WorkPayload.run row
    (value.validate H).mapError fun _ => StoreError.storeCorrupt
    ensure .storeCorrupt (runRevisionIds.contains value.revisionId
      && row.rowId == runRowId value.revisionId
      && row.objectId == some value.runId.toText
      && row.currentRevisionId == some value.revisionId.toText
      && (runs.get value.revisionId).isNone)
    return runs.insert value.revisionId value
  else .ok runs

/-- mirrors evertrace-store/src/projections.rs:997-1149 -/
def forAttempts (H : Sha256) (snapshot : ProjectionSnapshot) (attempts : List Attempt) :
    Except StoreError CompetingResolutionEvidenceView := do
  let (integrationIds, resultIds) ← factIds H attempts
  let maps ← snapshot.dataRows.foldlM (readEvidence integrationIds resultIds) ⟨.empty, .empty⟩
  let currentResults ← rebuildResults maps.results
  let runRevisionIds := sortUnique (currentResults.values.map fun entry => entry.1.experimentRunRevisionId)
  ensure .storeCorrupt (runRevisionIds.length ≤ maxFactIds)
  let runs ← snapshot.dataRows.foldlM (readRun H runRevisionIds) .empty
  return { frontier := snapshot.frontier, integrations := maps.integrations, runRevisions := runs
           currentResults := currentResults.mapVal Prod.fst }

/-! ## Selecting -/

/-- mirrors evertrace-engine/src/work.rs:46-55 -/
inductive WorkIdentityError where
  | invalidInput
  | conflict
  | store (error : StoreError)
  deriving DecidableEq

/-- mirrors evertrace-engine/src/work/attempt.rs:32-36 -/
structure CompetingSelectedCandidate where
  attemptId : AttemptId
  evidenceRefs : List String
  deriving DecidableEq

/-- mirrors evertrace-engine/src/work/attempt.rs:38-42 -/
structure CompetingSelectedSelection where
  group : CompetingAttemptGroup
  candidates : List CompetingSelectedCandidate
  deriving DecidableEq

/-- mirrors evertrace-engine/src/work/attempt.rs:44-49 -/
inductive CompetingSelectedLookup where
  | available (selection : CompetingSelectedSelection)
  | conflict (currentRevisionId : RevisionId)
  | unavailable (reason : String)
  deriving DecidableEq

/-- The command of a revision records the group.
mirrors evertrace-engine/src/work/attempt.rs:51-63 -/
inductive CompetingSelectedResolution where
  | revision (group : CompetingAttemptGroup)
  | conflict (currentRevisionId : RevisionId)
  | unavailable (reason : String)
  deriving DecidableEq

/-- A complete result that was parsed and verified, of a run of the attempt that is resolved, seen in full, completed
and valid.
mirrors evertrace-engine/src/work/attempt.rs:598-618 -/
def qualifies (attempt : Attempt) (current : CompetingResolutionEvidenceView) (result : ResultEvidence) : Bool :=
  result.resultScope == .complete
    && result.completeness == .complete
    && result.parserReceipt.status == .parsed
    && result.passed
    && (current.runRevisions.get result.experimentRunRevisionId).any fun run =>
      run.runId == result.experimentRunId
        && run.attemptBindingStatus == .resolved
        && run.attemptId == some attempt.attemptId
        && run.observability == .full
        && run.executionStatus == .completed
        && run.contractValidity == .valid
        && run.workstreamId == attempt.workstreamId
        && run.strategyContractFingerprint == attempt.strategyContractFingerprint

/-- mirrors evertrace-engine/src/work/attempt.rs:578-588 -/
def integrationIdsOf (attempt : Attempt) (current : CompetingResolutionEvidenceView) : List IntegrationEventId :=
  sortUnique (attempt.integrationEventRefs.filter fun id => (current.integrations.get id).any fun event =>
    event.assessment == .proven && event.integratedAttemptIds.contains attempt.attemptId)

/-- mirrors evertrace-engine/src/work/attempt.rs:592-621 -/
def resultIdsOf (attempt : Attempt) (current : CompetingResolutionEvidenceView) : List ResultEvidenceId :=
  sortUnique ((((attempt.parentVerificationRefs.filterMap Id.fromStr).filterMap current.currentResults.get).filter
    (qualifies attempt current)).map ResultEvidence.resultEvidenceId)

/-- mirrors evertrace-engine/src/work/attempt.rs:569-633 -/
def competingSelectedEvidence (attempt : Attempt) (current : CompetingResolutionEvidenceView) : Option (List String) :=
  if attempt.adoptionStatus != .integrated || attempt.verification != .passed then none
  else if (integrationIdsOf attempt current).isEmpty || (resultIdsOf attempt current).isEmpty then none
  else some (sortUnique ((integrationIdsOf attempt current).map Id.toText ++ (resultIdsOf attempt current).map Id.toText))

/-- mirrors evertrace-engine/src/work/attempt.rs:544-555 -/
def candidatesOf (group : CompetingAttemptGroup) (attempts : OrdMap AttemptId Attempt)
    (evidence : CompetingResolutionEvidenceView) : List CompetingSelectedCandidate :=
  group.memberAttemptIds.filterMap fun attemptId => do
    let attempt ← attempts.get attemptId
    let evidenceRefs ← competingSelectedEvidence attempt evidence
    return ⟨attemptId, evidenceRefs⟩

/-- mirrors evertrace-engine/src/work/attempt.rs:512-567 -/
def selectCompetingSelected (H : Sha256) (snapshot : ProjectionSnapshot) (expected : RevisionId) :
    Except WorkIdentityError CompetingSelectedLookup := do
  let groupId ← (groupIdForRevision snapshot expected).mapError WorkIdentityError.store
  let groupId ← okOr .invalidInput groupId
  let view ← (forCompetingGroup H snapshot groupId).mapError WorkIdentityError.store
  let group ← okOr .invalidInput (view.competingGroups.get groupId)
  if expected != group.revisionId then return .conflict group.revisionId
  else if group.resolutionStatus != .open_ && group.resolutionStatus != .unresolved then
    return .unavailable "competing_group_not_open"
  else do
    let members ← okOr .invalidInput (group.memberAttemptIds.mapM view.attempts.get)
    let evidence ← (forAttempts H snapshot members).mapError WorkIdentityError.store
    if (candidatesOf group view.attempts evidence).isEmpty then
      return .unavailable "competing_group_has_no_objective_candidate"
    else return .available ⟨group, candidatesOf group view.attempts evidence⟩

/-- mirrors evertrace-engine/src/work/attempt.rs:115-138 -/
def groupCommand (group : CompetingAttemptGroup) : Except WorkIdentityError CompetingAttemptGroup := do
  group.validate.mapError fun _ => WorkIdentityError.invalidInput
  return group

/-- mirrors evertrace-engine/src/work/attempt.rs:694-729 -/
def resolveCompetingGroup (fresh : RevisionId) (current : CompetingAttemptGroup) (status : CompetingResolutionStatus)
    (selectedAttemptId : Option AttemptId) (partially : List AttemptId) (evidenceRefs : List String)
    (sourceWatermark : Nat) : Except WorkIdentityError (Option CompetingAttemptGroup) :=
  if current.resolutionStatus = status ∧ current.selectedAttemptId = selectedAttemptId
      ∧ current.partiallyIntegratedAttemptIds = partially ∧ current.resolutionEvidenceRefs = evidenceRefs then .ok none
  else do
    ensure .invalidInput (current.sourceWatermark < sourceWatermark)
    let generation ← okOr .invalidInput (checkedSucc 64 current.revisionGeneration)
    let next := { current with
      predecessorRevisionId := some current.revisionId
      revisionId := fresh
      revisionGeneration := generation
      resolutionStatus := status
      selectedAttemptId := selectedAttemptId
      partiallyIntegratedAttemptIds := partially
      resolutionEvidenceRefs := evidenceRefs
      sourceWatermark := sourceWatermark }
    (current.validateSuccessor next).mapError fun _ => WorkIdentityError.invalidInput
    let command ← groupCommand next
    return some command

/-- mirrors evertrace-engine/src/work/attempt.rs:635-692 -/
def resolveCompetingSelected (H : Sha256) (fresh : RevisionId) (snapshot : ProjectionSnapshot) (expected : RevisionId)
    (chosen : AttemptId) : Except WorkIdentityError CompetingSelectedResolution := do
  match ← selectCompetingSelected H snapshot expected with
  | .conflict currentRevisionId => return .conflict currentRevisionId
  | .unavailable reason => return .unavailable reason
  | .available selection =>
    let candidate ← okOr .invalidInput (selection.candidates.find? fun candidate => candidate.attemptId == chosen)
    let evidenceRefs := sortUnique (selection.group.resolutionEvidenceRefs ++ candidate.evidenceRefs)
    let watermark ← okOr .invalidInput (checkedSucc 64 (max snapshot.frontier selection.group.sourceWatermark))
    let group ← resolveCompetingGroup fresh selection.group .selected (some chosen) [] evidenceRefs watermark
    let group ← okOr .conflict group
    return .revision (← groupCommand group)

end EverTrace.L2.Competing
