import EverTrace.L2Machine.Evidence
import EverTrace.L2Machine.Recall
import EverTrace.L2Machine.Rows
/-!
# Session imports (`evertrace-store/src/session_import.rs`)

A session file is followed from its discovery to its import. What is known of
it (`SessionMetadata`), the user's decision and the state of the import are the
current state; events change it one revision at a time (`applySessionEvent`).
`importScope` decides for one record whether and under which scope it may be
read.

A prospective origin divides the file at a record boundary, the fence: what
comes after it was observed while it was written, what comes before it needs the
permission any session needs.

A `u64` is a `Nat` and an `i64` an `Int`; nothing is added to them here. The
state is a row of the store with its payload kept decoded. `local_request_ref`
of a decision is not read.
-/
namespace EverTrace.L2.SessionImport
open EverTrace.Lib EverTrace.L1 EverTrace.L2.Evidence EverTrace.L2.Store
open EverTrace.L2.Recall (hasControl strictlyIncreasing)

/-! ## Texts -/

/-- mirrors evertrace-store/src/session_import.rs:962-964 -/
def validText (value : String) (max : Nat) : Bool :=
  !value.isEmpty && (utf8 value).length ≤ max && !hasControl value

/-- mirrors evertrace-store/src/session_import.rs:965-970 -/
def validRefs (values : List String) : Bool :=
  !values.isEmpty && values.length ≤ 32 && strictlyIncreasing (values.map utf8) && values.all fun v => validText v 512

def lowerHex (b : UInt8) : Bool := (0x30 ≤ b && b ≤ 0x39) || (0x61 ≤ b && b ≤ 0x66)

/-- `CasDigest::from_str(value).is_ok()`
mirrors evertrace-capture/src/cas.rs:93-107 -/
def validCasDigest (value : String) : Bool := (utf8 value).length == 64 && (utf8 value).all lowerHex

/-- The rollout of a source instance: a UUID in lower case.
mirrors evertrace-store/src/session_import.rs:945-960 -/
def validRollout (rollout : Bytes) : Bool :=
  rollout.length == 36 && rollout.zipIdx.all fun entry =>
    if [8, 13, 18, 23].contains entry.2 then entry.1 == 0x2d else lowerHex entry.1

/-- mirrors evertrace-store/src/session_import.rs:945-960 -/
def validSourceInstance (session : String) (source : Option String) : Bool :=
  source.all fun source =>
    let front := utf8 s!"session-rollout:{session}:"
    front.isPrefixOf (utf8 source) && validRollout ((utf8 source).drop front.length)

/-! ## States -/

/-- mirrors evertrace-store/src/session_import.rs:163-168 -/
inductive WorkspaceResolutionKind where
  | repository
  | nonRepository
  | ambiguous
  | unavailable
  deriving DecidableEq, Repr

/-- mirrors evertrace-store/src/session_import.rs:172-178 -/
inductive MetadataState where
  | discovered
  | indexed
  | partial_
  | unsupported
  | failed
  deriving DecidableEq, Repr

/-- mirrors evertrace-store/src/session_import.rs:182-193 -/
inductive SessionBodyState where
  | notImported
  | queued
  | importing
  | imported
  | blockedUntrusted
  | blockedUnapproved
  | blockedScopeUnresolved
  | partial_
  | failed
  | sourceReplaced
  deriving DecidableEq, Repr

/-- mirrors evertrace-store/src/session_import.rs:197-200 -/
inductive SessionAccessDecision where
  | approved
  | revoked
  deriving DecidableEq, Repr

/-- mirrors evertrace-store/src/session_import.rs:204-214 -/
inductive BodyStateReason where
  | requested
  | started
  | completed
  | trustUnavailable
  | approvalUnavailable
  | scopeUnresolved
  | budgetExhausted
  | importFailed
  | sourceReplaced
  deriving DecidableEq, Repr

/-- mirrors evertrace-store/src/session_import.rs:872-912 -/
def bodyTransition : SessionBodyState → SessionBodyState → Bool
  | .notImported, next => [.queued, .blockedUntrusted, .blockedUnapproved, .blockedScopeUnresolved].contains next
  | .queued, next => [.importing, .blockedUntrusted, .blockedUnapproved, .blockedScopeUnresolved, .failed,
      .sourceReplaced].contains next
  | .importing, next => [.imported, .partial_, .failed, .blockedUntrusted, .blockedUnapproved,
      .sourceReplaced].contains next
  | .partial_, next => [.queued, .importing, .blockedUntrusted, .blockedUnapproved, .blockedScopeUnresolved,
      .sourceReplaced].contains next
  | .imported, next => [.queued, .blockedUntrusted, .blockedUnapproved, .blockedScopeUnresolved,
      .sourceReplaced].contains next
  | .failed, next | .sourceReplaced, next | .blockedUntrusted, next | .blockedUnapproved, next
  | .blockedScopeUnresolved, next => next == .queued

/-- mirrors evertrace-store/src/session_import.rs:914-943 -/
def reasonMatches : SessionBodyState → BodyStateReason → Bool
  | .queued, reason => reason == .requested
  | .importing, reason => reason == .started
  | .imported, reason => reason == .completed
  | .blockedUntrusted, reason => reason == .trustUnavailable
  | .blockedUnapproved, reason => reason == .approvalUnavailable
  | .blockedScopeUnresolved, reason => reason == .scopeUnresolved
  | .partial_, reason => reason == .budgetExhausted || reason == .approvalUnavailable
  | .failed, reason => reason == .importFailed
  | .sourceReplaced, reason => reason == .sourceReplaced
  | .notImported, _ => false

/-! ## Metadata -/

/-- mirrors evertrace-store/src/session_import.rs:218-224 -/
structure ProspectiveSourceOrigin where
  snapshotRef : WorktreeSnapshotId
  observedEnd : Nat
  recordStart : Option Nat
  closed : Bool
  deriving DecidableEq

/-- mirrors evertrace-store/src/session_import.rs:227-236 -/
def ProspectiveSourceOrigin.validate (origin : ProspectiveSourceOrigin) (fileSize : Nat) : Except StoreError Unit :=
  ensure .invalidInput (origin.observedEnd ≤ fileSize
    && origin.recordStart.all fun start => origin.observedEnd ≤ start && start ≤ fileSize)

/-- mirrors evertrace-store/src/session_import.rs:241-264 -/
structure SessionMetadata where
  sourcePath : String
  sourceFormat : String
  startedAtUs : Option Int
  endedAtUs : Option Int
  host : Option String
  modelProfile : Option String
  workspaceHint : Option String
  repositoryHint : Option String
  worktreeHint : Option String
  workspaceResolutionKind : WorkspaceResolutionKind
  resolvedRepositoryInstanceId : Option RepositoryId
  resolvedWorktreeInstanceId : Option WorktreeId
  repositoryReadRestrictions : Option (List RepositoryId)
  prospectiveOrigin : Option ProspectiveSourceOrigin
  fileSize : Nat
  fileMtimeUs : Int
  sourceFingerprint : String
  sourceRevision : String
  parserVersion : Nat
  metadataState : MetadataState
  deriving DecidableEq

/-- mirrors evertrace-store/src/session_import.rs:549-555 -/
def SessionMetadata.readRestrictions (metadata : SessionMetadata) : List RepositoryId :=
  metadata.repositoryReadRestrictions.getD [] ++ metadata.resolvedRepositoryInstanceId.toList

/-- The restrictions are bounded, sorted, and hold the resolved repository. A search in a sorted list finds what
is in it. -/
def SessionMetadata.restrictionsOk (metadata : SessionMetadata) : Bool :=
  metadata.repositoryReadRestrictions.all fun restrictions =>
    restrictions.length ≤ 16 && strictlyIncreasing restrictions
      && metadata.resolvedRepositoryInstanceId.all fun id => restrictions.contains id

/-- mirrors evertrace-store/src/session_import.rs:557-616 -/
def SessionMetadata.validate (metadata : SessionMetadata) : Except StoreError Unit := do
  metadata.prospectiveOrigin.forM fun origin => do
    origin.validate metadata.fileSize
    ensure .invalidInput metadata.repositoryReadRestrictions.isSome
  ensure .invalidInput metadata.restrictionsOk
  ensure .invalidInput (validText metadata.sourcePath 4096
    && validText metadata.sourceFormat 64
    && 0 ≤ metadata.fileMtimeUs
    && metadata.parserVersion != 0
    && validText metadata.sourceFingerprint 256
    && validCasDigest metadata.sourceFingerprint
    && metadata.startedAtUs.all (fun v => 0 ≤ v)
    && metadata.endedAtUs.all (fun v => 0 ≤ v)
    && metadata.startedAtUs.all (fun a => metadata.endedAtUs.all fun b => a ≤ b)
    && ([metadata.host, metadata.modelProfile, metadata.workspaceHint, metadata.repositoryHint,
      metadata.worktreeHint].all fun hint => hint.all fun v => validText v 4096))
  (validateIdentifier metadata.sourceRevision).mapError fun _ => .invalidInput
  let ids := (metadata.resolvedRepositoryInstanceId.isSome, metadata.resolvedWorktreeInstanceId.isSome)
  let repository := metadata.workspaceResolutionKind == .repository
  ensure .invalidInput (repository == (ids.1 && ids.2) && !(!repository && (ids.1 || ids.2)))

/-! ## The current state -/

/-- mirrors evertrace-store/src/session_import.rs:297-306 -/
structure SessionImportCurrent where
  sessionId : String
  sourceInstanceId : Option String
  revision : Nat
  metadata : SessionMetadata
  accessDecision : Option SessionAccessDecision
  bodyState : SessionBodyState
  sourceEventSeq : Nat
  deriving DecidableEq

namespace SessionImportCurrent

/-- mirrors evertrace-store/src/session_import.rs:378-382 -/
def sourceKey (current : SessionImportCurrent) : String := current.sourceInstanceId.getD current.sessionId

/-- mirrors evertrace-store/src/session_import.rs:384-388 -/
def sourceInstance (current : SessionImportCurrent) : String :=
  current.sourceInstanceId.getD s!"codex-session:{current.sessionId}"

/-- An open origin whose fence is known.
mirrors evertrace-store/src/session_import.rs:467-471, 762-766 -/
def hasProspectiveRoute (metadata : SessionMetadata) : Bool :=
  metadata.prospectiveOrigin.any fun origin => !origin.closed && origin.recordStart.isSome

/-- The states with an import under way or done. -/
def readsOrRead (state : SessionBodyState) : Bool := [.queued, .importing, .partial_, .imported].contains state

/-- The permission rules of a session with read restrictions.
mirrors evertrace-store/src/session_import.rs:457-488 -/
def restrictedOk (current : SessionImportCurrent) : Bool :=
  !(current.metadata.workspaceResolutionKind != .repository && readsOrRead current.bodyState) ||
    let archivedProspectiveProgress := current.metadata.prospectiveOrigin.isSome
      && [SessionBodyState.partial_, .imported].contains current.bodyState
    archivedProspectiveProgress ||
      !(current.accessDecision == some .revoked
        || (current.accessDecision != some .approved && !hasProspectiveRoute current.metadata))

/-- The permission rules of a session without read restrictions.
mirrors evertrace-store/src/session_import.rs:489-520 -/
def legacyOk (current : SessionImportCurrent) : Bool :=
  match current.metadata.workspaceResolutionKind with
  | .repository => current.accessDecision.isNone
  | .nonRepository => !(readsOrRead current.bodyState && current.accessDecision != some .approved)
  | .ambiguous | .unavailable => current.accessDecision.isNone
    && [SessionBodyState.notImported, .blockedScopeUnresolved, .failed, .sourceReplaced].contains current.bodyState

/-- mirrors evertrace-store/src/session_import.rs:440-522 -/
def validate (current : SessionImportCurrent) : Except StoreError Unit := do
  ensure .invalidInput (validText current.sessionId 512
    && validSourceInstance current.sessionId current.sourceInstanceId
    && current.revision != 0
    && current.sourceEventSeq != 0)
  current.metadata.validate
  ensure .invalidInput (!([SessionBodyState.queued, .importing].contains current.bodyState
    && current.accessDecision == some .revoked
    && current.metadata.prospectiveOrigin.isSome))
  ensure .invalidInput
    (if current.metadata.repositoryReadRestrictions.isSome then current.restrictedOk else current.legacyOk)

end SessionImportCurrent

/-! ## The scope of a record -/

/-- mirrors evertrace-domain/src/evidence.rs:339-342 -/
structure EvidenceByteRange where
  start : Nat
  finish : Nat
  deriving DecidableEq

structure WorktreeSnapshot where
  worktreeSnapshotId : WorktreeSnapshotId
  worktreeInstanceId : WorktreeId
  deriving DecidableEq

structure WorktreeInstance where
  worktreeInstanceId : WorktreeId
  repositoryInstanceId : RepositoryId
  deriving DecidableEq

abbrev ImportScope := Option RepositoryId × Option WorktreeId

/-- The scope behind the fence of an open origin.
mirrors evertrace-store/src/session_import.rs:402-427 -/
def prospectiveScope (metadata : SessionMetadata) (origin : ProspectiveSourceOrigin)
    (originSnapshot : Option WorktreeSnapshot) (originWorktree : Option WorktreeInstance) :
    Except StoreError ImportScope := do
  let snapshot ← okOr .invalidInput originSnapshot
  let worktree ← okOr .invalidInput originWorktree
  ensure .invalidInput (snapshot.worktreeSnapshotId == origin.snapshotRef
    && snapshot.worktreeInstanceId == worktree.worktreeInstanceId
    && metadata.repositoryReadRestrictions.any fun ids => ids.contains worktree.repositoryInstanceId)
  return (some worktree.repositoryInstanceId, some worktree.worktreeInstanceId)

/-- The scope any session needs.
mirrors evertrace-store/src/session_import.rs:428-437 -/
def SessionImportCurrent.ordinaryScope (current : SessionImportCurrent) : Except StoreError ImportScope :=
  if current.metadata.workspaceResolutionKind = .repository then
    .ok (current.metadata.resolvedRepositoryInstanceId, current.metadata.resolvedWorktreeInstanceId)
  else if current.accessDecision = some .approved then .ok (none, none)
  else .error .invalidInput

/-- mirrors evertrace-store/src/session_import.rs:392-438 -/
def SessionImportCurrent.importScope (current : SessionImportCurrent) (range : EvidenceByteRange)
    (originSnapshot : Option WorktreeSnapshot) (originWorktree : Option WorktreeInstance) :
    Except StoreError ImportScope := do
  ensure .invalidInput (range.start < range.finish && current.accessDecision != some .revoked)
  match current.metadata.prospectiveOrigin with
  | none => current.ordinaryScope
  | some origin => do
    let fence ← okOr .invalidInput origin.recordStart
    ensure .invalidInput (!(range.start < fence && fence < range.finish))
    if fence ≤ range.start ∧ origin.closed = false then
      prospectiveScope current.metadata origin originSnapshot originWorktree
    else current.ordinaryScope

/-! ## Events -/

/-- mirrors evertrace-store/src/session_import.rs:268-281 -/
inductive SessionImportEventKind where
  | metadataObserved (metadata : SessionMetadata)
  | accessDecision (decision : SessionAccessDecision) (provenanceRefs : List String)
  | bodyStateAdvanced (bodyState : SessionBodyState) (reason : BodyStateReason)
  deriving DecidableEq

/-- mirrors evertrace-store/src/session_import.rs:285-293 -/
structure SessionImportEvent where
  sessionId : String
  sourceInstanceId : Option String
  revision : Nat
  predecessorRevision : Option Nat
  occurredAtUs : Int
  event : SessionImportEventKind
  deriving DecidableEq

/-- mirrors evertrace-store/src/session_import.rs:348-374 -/
def SessionImportEvent.validate (event : SessionImportEvent) : Except StoreError Unit := do
  ensure .invalidInput (validText event.sessionId 512
    && validSourceInstance event.sessionId event.sourceInstanceId
    && event.revision != 0
    && 0 ≤ event.occurredAtUs
    && event.predecessorRevision == (if event.revision ≤ 1 then none else some (event.revision - 1)))
  match event.event with
  | .metadataObserved metadata => metadata.validate
  | .accessDecision _ provenanceRefs => ensure .invalidInput (validRefs provenanceRefs)
  | .bodyStateAdvanced bodyState reason => ensure .invalidInput (reasonMatches bodyState reason)

/-- mirrors evertrace-store/src/session_import.rs:634-645 -/
def originSuccessor (previous current : ProspectiveSourceOrigin) : Bool :=
  previous.snapshotRef == current.snapshotRef
    && previous.observedEnd == current.observedEnd
    && (match previous.recordStart, current.recordStart with
      | none, none => true
      | none, some start => previous.observedEnd ≤ start
      | some oldStart, some newStart => oldStart == newStart
      | some _, none => false)
    && (!previous.closed || current.closed)

/-- mirrors evertrace-store/src/session_import.rs:619-647 -/
def prospectiveOriginTransitionIsValid (old next : SessionMetadata) (sourceRevisionChanged : Bool)
    (bodyState : SessionBodyState) : Bool :=
  sourceRevisionChanged ||
    match old.prospectiveOrigin, next.prospectiveOrigin with
    | none, none => true
    | none, some _ => [SessionBodyState.notImported, .sourceReplaced].contains bodyState
    | some _, none => false
    | some previous, some current => originSuccessor previous current

/-- mirrors evertrace-store/src/session_import.rs:703-707 -/
def sourceChanged (old next : SessionMetadata) : Bool :=
  old.sourceRevision != next.sourceRevision
    || next.fileSize < old.fileSize
    || (next.sourcePath == old.sourcePath && next.fileSize == old.fileSize && old.fileMtimeUs != next.fileMtimeUs)

/-- No restriction is dropped.
mirrors evertrace-store/src/session_import.rs:686-699 -/
def keepsRestrictions (old next : SessionMetadata) : Bool :=
  match next.repositoryReadRestrictions with
  | none => old.repositoryReadRestrictions.isNone
  | some restrictions => old.readRestrictions.all fun id => restrictions.contains id

/-- The decision is forgotten: the file is another one, or needs none; a revocation of a restricted session stays.
mirrors evertrace-store/src/session_import.rs:729-737 -/
def forgetsDecision (old : SessionImportCurrent) (metadata : SessionMetadata) : Bool :=
  (sourceChanged old.metadata metadata
      || (metadata.repositoryReadRestrictions.isNone && metadata.workspaceResolutionKind != .nonRepository))
    && !(metadata.repositoryReadRestrictions.isSome && old.accessDecision == some .revoked)

/-- mirrors evertrace-store/src/session_import.rs:685-740 -/
def observeMetadata (old : SessionImportCurrent) (revision : Nat) (metadata : SessionMetadata) (seq : Nat) :
    Except StoreError SessionImportCurrent := do
  ensure .invalidInput (keepsRestrictions old.metadata metadata)
  ensure .invalidInput (old.metadata != metadata)
  ensure .invalidInput (prospectiveOriginTransitionIsValid old.metadata metadata
    (old.metadata.sourceRevision != metadata.sourceRevision) old.bodyState)
  ensure .invalidInput (!(sourceChanged old.metadata metadata
    && !([SessionBodyState.notImported, .sourceReplaced].contains old.bodyState)))
  let next := { old with
    revision := revision
    metadata := metadata
    sourceEventSeq := seq
    accessDecision := if forgetsDecision old metadata then none else old.accessDecision }
  next.validate
  return next

/-- mirrors evertrace-store/src/session_import.rs:741-756 -/
def decideAccess (old : SessionImportCurrent) (revision : Nat) (decision : SessionAccessDecision) (seq : Nat) :
    Except StoreError SessionImportCurrent := do
  ensure .invalidInput (!(old.metadata.repositoryReadRestrictions.isNone
    && old.metadata.workspaceResolutionKind != .nonRepository))
  ensure .invalidInput (old.accessDecision != some decision)
  let next := { old with revision := revision, accessDecision := some decision, sourceEventSeq := seq }
  next.validate
  return next

/-- The import may be queued.
mirrors evertrace-store/src/session_import.rs:761-776 -/
def queueAllowed (old : SessionImportCurrent) : Bool :=
  !((old.metadata.prospectiveOrigin.isSome && old.accessDecision == some .revoked)
    || (old.metadata.workspaceResolutionKind != .repository
      && old.accessDecision != some .approved
      && !SessionImportCurrent.hasProspectiveRoute old.metadata))

/-- mirrors evertrace-store/src/session_import.rs:757-783 -/
def advanceBodyState (old : SessionImportCurrent) (revision : Nat) (bodyState : SessionBodyState) (seq : Nat) :
    Except StoreError SessionImportCurrent := do
  ensure .invalidInput (bodyTransition old.bodyState bodyState)
  ensure .invalidInput (bodyState != .queued || queueAllowed old)
  let next := { old with revision := revision, bodyState := bodyState, sourceEventSeq := seq }
  next.validate
  return next

/-- The first event of a session.
mirrors evertrace-store/src/session_import.rs:664-676 -/
def firstObserved (event : SessionImportEvent) (seq : Nat) : Except StoreError SessionImportCurrent :=
  match event.event with
  | .metadataObserved metadata => do
    ensure .invalidInput (event.revision == 1)
    let next : SessionImportCurrent := ⟨event.sessionId, event.sourceInstanceId, 1, metadata, none, .notImported, seq⟩
    next.validate
    return next
  | _ => .error .invalidInput

/-- A further event.
mirrors evertrace-store/src/session_import.rs:678-784 -/
def nextObserved (old : SessionImportCurrent) (event : SessionImportEvent) (seq : Nat) :
    Except StoreError SessionImportCurrent := do
  ensure .invalidInput (old.sessionId == event.sessionId
    && old.sourceInstanceId == event.sourceInstanceId
    && event.predecessorRevision == some old.revision)
  match event.event with
  | .metadataObserved metadata => observeMetadata old event.revision metadata seq
  | .accessDecision decision _ => decideAccess old event.revision decision seq
  | .bodyStateAdvanced bodyState _ => advanceBodyState old event.revision bodyState seq

/-- mirrors evertrace-store/src/session_import.rs:657-785 -/
def applySessionEvent (current : Option SessionImportCurrent) (event : SessionImportEvent) (seq : Nat) :
    Except StoreError SessionImportCurrent := do
  event.validate
  match current with
  | none => firstObserved event seq
  | some old => nextObserved old event seq

/-- Events one after another, from no state. -/
def applyEvents (events : List (SessionImportEvent × Nat)) : Except StoreError (Option SessionImportCurrent) :=
  events.foldlM (fun current e => do return some (← applySessionEvent current e.1 e.2)) none

/-! ## Rows -/

/-- A row with the further columns a session row is checked for.
mirrors evertrace-store/src/objects.rs:256-278 -/
structure SessionRow extends ObjectRow SessionImportCurrent where
  epistemic : Option String
  publicationState : Option String
  supportState : Option String
  projectId : Option String
  worktreeId : Option String
  taskId : Option String
  workstreamId : Option String
  sessionId : Option String

/-- mirrors evertrace-store/src/session_import.rs:787-789 -/
def sessionImportRowId (sessionId : String) : String := s!"runtime:session_import:{sessionId}"

/-- mirrors evertrace-store/src/session_import.rs:791-826 -/
def currentRow (value : SessionImportCurrent) (generation : Nat) : Except StoreError SessionRow := do
  value.validate
  return {
    rowId := sessionImportRowId value.sourceKey
    rowKind := .data
    rowClass := some .runtime
    objectFamily := none
    objectKind := some "session_import_current"
    objectId := none
    currentRevisionId := some (toString value.revision)
    lifecycle := none
    epistemic := none
    authority := none
    publicationState := none
    supportState := none
    projectId := none
    repositoryId := value.metadata.resolvedRepositoryInstanceId.map Id.toText
    worktreeId := value.metadata.resolvedWorktreeInstanceId.map Id.toText
    taskId := none
    workstreamId := none
    sessionId := some value.sessionId
    payload := value
    sourceEventSeq := value.sourceEventSeq
    projectionGeneration := generation }

/-- mirrors evertrace-store/src/session_import.rs:828-870 -/
def restoreCurrent (row : SessionRow) : Except StoreError (Option SessionImportCurrent) := do
  if row.objectKind ≠ some "session_import_current" then return none
  let value := row.payload
  ensure .storeCorrupt (row.rowId == sessionImportRowId value.sourceKey
    && row.rowClass == some .runtime
    && row.objectId.isNone
    && row.currentRevisionId == some (toString value.revision)
    && row.sessionId == some value.sessionId
    && row.sourceEventSeq == value.sourceEventSeq
    && row.rowKind == .data
    && row.objectFamily.isNone
    && row.repositoryId == value.metadata.resolvedRepositoryInstanceId.map Id.toText
    && row.worktreeId == value.metadata.resolvedWorktreeInstanceId.map Id.toText
    && row.taskId.isNone
    && row.workstreamId.isNone
    && row.lifecycle.isNone
    && row.epistemic.isNone
    && row.authority.isNone
    && row.publicationState.isNone
    && row.supportState.isNone
    && row.projectId.isNone)
  value.validate.mapError fun _ => .storeCorrupt
  return some value

end EverTrace.L2.SessionImport
