import EverTrace.Lib.SortedSet
import EverTrace.L2Machine.Repository
/-!
# The repository resolver (`evertrace-engine/src/repository/resolver.rs`)

A probe of a path gives typed evidence (`GitProbeEvidence`). The resolver holds
it against the current view and answers with the records that are new: a
repository, a worktree or a snapshot, or the next revision of one.

Which repository the evidence belongs to is decided first (`identify`): by the
filesystem identity of the common directory, and among several by a proof of
continuity. A repository that is not known is created with all listed
worktrees. One that is known is compared: its path and remotes, the worktree
that was probed, then every other live worktree against Git's list, then the
listed worktrees at paths where one has ended.

Fresh ids are arguments: the n-th worktree of a resolution gets the n-th id. A
failed `expect` is the error `panic`.
-/
namespace EverTrace.L2.Resolver
open EverTrace.Lib EverTrace.L1 EverTrace.L2.Repository

/-! ## Evidence -/

/-- mirrors evertrace-engine/src/repository/git_probe.rs:299-311 -/
inductive ProbeField where
  | headOid
  | treeOid
  | branchRef
  | trackedDiff
  | index
  | untrackedManifest
  | refTips
  | worktreeList
  | remoteFingerprints
  | commonDirFilesystem
  | continuityAncestry
  deriving DecidableEq, Repr

/-- mirrors evertrace-engine/src/repository/git_probe.rs:314-324 -/
def ProbeField.snapshotField : ProbeField → Option SnapshotField
  | .headOid => some .headOid
  | .treeOid => some .treeOid
  | .branchRef => some .branchRef
  | .trackedDiff => some .trackedDiffDigest
  | .index => some .indexDigest
  | .untrackedManifest => some .untrackedManifestDigest
  | .refTips | .worktreeList | .remoteFingerprints | .commonDirFilesystem | .continuityAncestry => none

/-- mirrors evertrace-engine/src/repository/git_probe.rs:328-331 -/
structure ProbeOmission where
  field : ProbeField
  reason : ProbeUnavailableReason
  deriving DecidableEq

/-- What the resolver reads of a line of Git's worktree list.
mirrors evertrace-engine/src/repository/git_probe.rs:334-342 -/
structure WorktreeAdminEntry where
  path : String
  gitdir : Option String
  locked : Bool
  prunable : Bool
  deriving DecidableEq

/-- mirrors evertrace-engine/src/repository/git_probe.rs:345-348 -/
structure AdminPathProbe where
  path : String
  present : Bool
  deriving DecidableEq

/-- What the resolver reads of a probe.
mirrors evertrace-engine/src/repository/git_probe.rs:352-381 -/
structure GitProbeEvidence where
  probeSchemaVersion : Nat
  candidatePath : String
  occurredAtUs : Int
  evidenceRefs : List String
  unavailableReason : Option ProbeUnavailableReason
  worktreeRoot : Option String
  gitDir : Option String
  commonDir : Option String
  commonDirFilesystem : Option FilesystemIdentity
  objectFormat : Option GitObjectFormat
  headOid : Option String
  headAncestors : List String
  branchRef : Option String
  detachedHead : Option Bool
  treeOid : Option String
  trackedDiffDigest : Option String
  indexDigest : Option String
  untrackedManifestDigest : Option String
  refTips : List (String × String)
  worktreeEntries : List WorktreeAdminEntry
  worktreeListComplete : Bool
  remoteFingerprints : List String
  gitOperation : GitOperation
  adminPathProbes : List AdminPathProbe
  omissions : List ProbeOmission
  deriving DecidableEq

/-! ## Resolutions -/

/-- mirrors evertrace-engine/src/repository/resolver.rs:31-38 -/
inductive ResolutionKind where
  | create
  | successor
  | correction
  | ambiguous
  | noDelta
  | unavailable
  deriving DecidableEq, Repr

/-- mirrors evertrace-engine/src/repository/resolver.rs:44-49 -/
structure PathHint where
  path : String
  reason : ProbeUnavailableReason
  evidenceRefs : List String
  occurredAtUs : Int
  deriving DecidableEq

/-- mirrors evertrace-engine/src/repository/resolver.rs:52-62 -/
structure RepositoryResolution where
  kind : Option ResolutionKind
  detail : Option String
  pathHint : Option PathHint
  repositories : List RepositoryInstance
  worktrees : List WorktreeInstance
  snapshots : List WorktreeSnapshot
  transitions : List WorktreeTransition
  deriving DecidableEq

/-- mirrors evertrace-engine/src/repository/resolver.rs:85-91 -/
def RepositoryResolution.empty (kind : ResolutionKind) (detail : Option String) : RepositoryResolution :=
  ⟨some kind, detail, none, [], [], [], []⟩

/-- mirrors evertrace-engine/src/repository/resolver.rs:168-177 -/
inductive RepositoryResolveError where
  | invalidEvidence
  | domain (error : RepositoryError)
  | panic
  deriving DecidableEq, Repr

/-- The ids that `new_v7` gives during a resolution. -/
structure FreshIds where
  repository : RepositoryId
  worktree : Nat → WorktreeId
  snapshot : Nat → WorktreeSnapshotId
  transition : Nat → WorktreeTransitionId

/-- `value.validate().map_err(RepositoryResolveError::Domain)` -/
def domain (checked : Except RepositoryError Unit) : Except RepositoryResolveError Unit :=
  checked.mapError .domain

/-- `value.validate().expect(…)` -/
def expected (checked : Except RepositoryError Unit) : Except RepositoryResolveError Unit :=
  checked.mapError fun _ => .panic

/-! ## Small parts -/

/-- mirrors evertrace-engine/src/repository/resolver.rs:1608-1615 -/
def pathObservation (path : String) (e : GitProbeEvidence) : PathObservation :=
  ⟨path, e.occurredAtUs, e.occurredAtUs, e.evidenceRefs⟩

/-- mirrors evertrace-engine/src/repository/resolver.rs:1617-1623 -/
def assessmentOf (e : GitProbeEvidence) : LineageAssessment := if e.omissions.isEmpty then .proven else .partial_

/-- mirrors evertrace-engine/src/repository/resolver.rs:1625-1633 -/
def unionRefs (current new : List String) : List String := sortUnique (current ++ new)

/-- mirrors evertrace-engine/src/repository/resolver.rs:1635-1644 -/
def finalizeKind (resolution : RepositoryResolution) : RepositoryResolution :=
  if !(resolution.repositories.isEmpty && resolution.worktrees.isEmpty && resolution.snapshots.isEmpty
      && resolution.transitions.isEmpty) && resolution.kind == some .noDelta then
    { resolution with kind := some .successor }
  else resolution

/-- mirrors evertrace-engine/src/repository/resolver.rs:1417-1426 -/
def candidateEntry (e : GitProbeEvidence) (root : String) : Except RepositoryResolveError WorktreeAdminEntry :=
  okOr .invalidEvidence (e.worktreeEntries.find? fun entry => entry.path == root)

/-- mirrors evertrace-engine/src/repository/resolver.rs:1428-1436 -/
def registrationOf (entry : WorktreeAdminEntry) : GitRegistrationState :=
  if entry.prunable then .prunable else if entry.locked then .locked else .registered

/-- mirrors evertrace-engine/src/repository/resolver.rs:1438-1443 -/
def registrationForMissing (worktree : WorktreeInstance) : GitRegistrationState :=
  match worktree.gitRegistrationState with
  | .locked => .locked
  | _ => .unknown

/-- mirrors evertrace-engine/src/repository/resolver.rs:1445-1464 -/
def stateTransitionKind (current : Option WorktreeSnapshot) (next : WorktreeSnapshot) : Option TransitionKind :=
  current.bind fun current =>
    if current.branchRef ≠ next.branchRef ∧ next.branchRef.isSome ∧ current.branchRef.isSome then some .branchSwitched
    else if current.detachedHead ≠ next.detachedHead ∨ current.branchRef.isSome ≠ next.branchRef.isSome then
      some .detachedOrAttached
    else if current.headOid ≠ next.headOid then some .headAdvanced
    else none

/-- What the probe could not read, of the fields that a snapshot has.
mirrors evertrace-engine/src/repository/resolver.rs:1470-1482 -/
def snapshotOmissions (e : GitProbeEvidence) : List SnapshotOmission :=
  e.omissions.filterMap fun omission => omission.field.snapshotField.map fun field => ⟨field, omission.reason⟩

/-- The probed state of a worktree.
mirrors evertrace-engine/src/repository/resolver.rs:1483-1515 -/
def probedState (ids : FreshIds) (resolution : RepositoryResolution) (worktree : WorktreeId) (e : GitProbeEvidence) :
    WorktreeSnapshot where
  worktreeSnapshotId := ids.snapshot resolution.snapshots.length
  worktreeInstanceId := worktree
  headOid := e.headOid
  treeOid := e.treeOid
  branchRef := e.branchRef
  detachedHead := e.detachedHead.getD false
  trackedDiffDigest := e.trackedDiffDigest
  indexDigest := e.indexDigest
  untrackedManifestDigest := e.untrackedManifestDigest
  relevantAnchorDigests := []
  dependencyFingerprints := []
  toolchainFingerprint := none
  gitOperation := e.gitOperation
  capturedAtUs := e.occurredAtUs
  evidenceRefs := e.evidenceRefs
  captureStatus := if e.unavailableReason.isSome then .unavailable
    else if (snapshotOmissions e).isEmpty then .complete else .partial_
  omissionReasons := snapshotOmissions e

/-- mirrors evertrace-engine/src/repository/resolver.rs:1466-1520 -/
def snapshotFromEvidence (ids : FreshIds) (resolution : RepositoryResolution) (worktree : WorktreeId)
    (e : GitProbeEvidence) : Except RepositoryResolveError WorktreeSnapshot := do
  domain (probedState ids resolution worktree e).validate
  return probedState ids resolution worktree e

/-- mirrors evertrace-engine/src/repository/resolver.rs:1523-1548 -/
def worktreeSuccessor (current : WorktreeInstance) (lifecycle : WorktreeLifecycle) (currentPath : Option String)
    (registration : GitRegistrationState) (terminalEventRef : Option String) (e : GitProbeEvidence) :
    WorktreeInstance :=
  { current with
    worktreeRevision := current.worktreeRevision + 1
    predecessorRevision := some current.worktreeRevision
    lifecycle := lifecycle
    currentPath := currentPath
    gitRegistrationState := registration
    terminalEventRef := terminalEventRef
    recordedAtUs := e.occurredAtUs }

/-- mirrors evertrace-engine/src/repository/resolver.rs:1587-1601 -/
def newTransition (ids : FreshIds) (resolution : RepositoryResolution) (fromWorktree : WorktreeId)
    (fromSnapshot : Option WorktreeSnapshotId) (toWorktree : WorktreeId) (toSnapshot : Option WorktreeSnapshotId)
    (kind : TransitionKind) (assessment : LineageAssessment) (sourceWatermark : Nat) (e : GitProbeEvidence) :
    WorktreeTransition where
  worktreeTransitionId := ids.transition resolution.transitions.length
  transitionRevision := 1
  predecessorRevision := none
  fromWorktreeInstanceId := fromWorktree
  fromSnapshotId := fromSnapshot
  toWorktreeInstanceId := toWorktree
  toSnapshotId := toSnapshot
  kind := kind
  lineageAssessment := assessment
  correctionReason := none
  sourceWatermark := sourceWatermark
  evidenceRefs := e.evidenceRefs

def RepositoryResolution.addTransition (resolution : RepositoryResolution) (transition : WorktreeTransition) :
    RepositoryResolution := { resolution with transitions := resolution.transitions ++ [transition] }

def RepositoryResolution.addWorktree (resolution : RepositoryResolution) (worktree : WorktreeInstance) :
    RepositoryResolution := { resolution with worktrees := resolution.worktrees ++ [worktree] }

def RepositoryResolution.addSnapshot (resolution : RepositoryResolution) (snapshot : WorktreeSnapshot) :
    RepositoryResolution := { resolution with snapshots := resolution.snapshots ++ [snapshot] }

/-! ## Admin paths -/

/-- mirrors evertrace-engine/src/repository/resolver.rs:1401-1415 -/
def rebaseAdminPath (admin : String) (view : RepositoryCurrentView) (repositoryId : RepositoryId)
    (newCommon : String) : String :=
  match (view.repositories.get repositoryId).bind RepositoryInstance.gitCommonDirPath with
  | some old =>
    if old.toList.isPrefixOf admin.toList then newCommon ++ String.ofList (admin.toList.drop old.length) else admin
  | none => admin

def WorktreeInstance.adminPath (worktree : WorktreeInstance) : Option String :=
  worktree.gitAdminPathHistory.getLast?.map PathObservation.path

/-- mirrors evertrace-engine/src/repository/resolver.rs:1377-1399 -/
def adminMatches (worktree : WorktreeInstance) (candidateAdmin : String) (view : RepositoryCurrentView)
    (repositoryId : RepositoryId) (e : GitProbeEvidence) : Bool :=
  (WorktreeInstance.adminPath worktree).any (fun path => path == candidateAdmin)
    || e.commonDir.any fun common =>
      (WorktreeInstance.adminPath worktree).any fun path =>
        rebaseAdminPath path view repositoryId common == candidateAdmin

/-- mirrors evertrace-engine/src/repository/resolver.rs:1364-1375 -/
def recreatedFrom (view : RepositoryCurrentView) (entry : WorktreeAdminEntry) : Option WorktreeId :=
  ((view.worktrees.values.filter fun worktree => worktree.lifecycle.isTerminal).find? fun worktree =>
    worktree.pathHistory.getLast?.any fun path => path.path == entry.path).map WorktreeInstance.worktreeInstanceId

/-! ## Worktrees -/

/-- A snapshot for the probed worktree, none for another one.
mirrors evertrace-engine/src/repository/resolver.rs:1311-1316 -/
def probedSnapshot (ids : FreshIds) (resolution : RepositoryResolution) (worktreeId : WorktreeId)
    (entry : WorktreeAdminEntry) (e : GitProbeEvidence) : Except RepositoryResolveError (Option WorktreeSnapshot) :=
  if e.worktreeRoot = some entry.path then (snapshotFromEvidence ids resolution worktreeId e).map some else .ok none

/-- mirrors evertrace-engine/src/repository/resolver.rs:1305-1333 -/
def newWorktree (worktreeId : WorktreeId) (e : GitProbeEvidence) (repositoryId : RepositoryId)
    (entry : WorktreeAdminEntry) (gitdir : String) (snapshot : Option WorktreeSnapshot) (recreated : Option WorktreeId) :
    WorktreeInstance where
  worktreeInstanceId := worktreeId
  worktreeRevision := 1
  predecessorRevision := none
  repositoryInstanceId := repositoryId
  kind := if e.commonDir = some gitdir then .main else .linked
  lifecycle := .active
  currentPath := some entry.path
  pathHistory := [pathObservation entry.path e]
  gitAdminPathHistory := [pathObservation gitdir e]
  gitRegistrationState := registrationOf entry
  currentSnapshotId := snapshot.map WorktreeSnapshot.worktreeSnapshotId
  createdEventRef := e.evidenceRefs.headD ""
  terminalEventRef := none
  recreatedFromWorktreeInstanceId := recreated
  recordedAtUs := e.occurredAtUs

/-- The transition from the worktree that ended.
mirrors evertrace-engine/src/repository/resolver.rs:1340-1359 -/
def recordRecreated (ids : FreshIds) (view : RepositoryCurrentView) (e : GitProbeEvidence) (worktreeId : WorktreeId)
    (assessment : LineageAssessment) (resolution : RepositoryResolution) :
    Option WorktreeId → Except RepositoryResolveError RepositoryResolution
  | none => .ok resolution
  | some previous => do
    let transition := newTransition ids resolution previous
      ((view.worktrees.get previous).bind WorktreeInstance.currentSnapshotId) worktreeId none .worktreeRecreated
      assessment view.frontier e
    domain transition.validate
    return resolution.addTransition transition

/-- mirrors evertrace-engine/src/repository/resolver.rs:1293-1362 -/
def createWorktree (ids : FreshIds) (view : RepositoryCurrentView) (e : GitProbeEvidence)
    (resolution : RepositoryResolution) (repositoryId : RepositoryId) (entry : WorktreeAdminEntry)
    (recreated : Option WorktreeId) (assessment : LineageAssessment) :
    Except RepositoryResolveError (Option WorktreeInstance × RepositoryResolution) :=
  match entry.gitdir with
  | none => .ok (none, resolution)
  | some gitdir => do
    let worktreeId := ids.worktree resolution.worktrees.length
    let snapshot ← probedSnapshot ids resolution worktreeId entry e
    let worktree := newWorktree worktreeId e repositoryId entry gitdir snapshot recreated
    domain worktree.validate
    let resolution ← recordRecreated ids view e worktreeId assessment
      (snapshot.elim resolution resolution.addSnapshot) recreated
    return (some worktree, resolution.addWorktree worktree)

/-- The next revision of the probed worktree, when the list shows another state of it.
mirrors evertrace-engine/src/repository/resolver.rs:1176-1210 -/
def changedWorktree (current : WorktreeInstance) (entry : WorktreeAdminEntry) (e : GitProbeEvidence) :
    Option WorktreeInstance :=
  let currentAdmin := (WorktreeInstance.adminPath current).getD ""
  let entryAdmin := entry.gitdir.getD ""
  let pathChanged := current.currentPath != some entry.path
  let adminChanged := currentAdmin != entryAdmin
  if current.lifecycle == .missing || pathChanged || adminChanged
      || current.gitRegistrationState != registrationOf entry then
    some { current with
      worktreeRevision := current.worktreeRevision + 1
      predecessorRevision := some current.worktreeRevision
      lifecycle := .active
      currentPath := some entry.path
      pathHistory := if pathChanged then current.pathHistory ++ [pathObservation entry.path e] else current.pathHistory
      gitAdminPathHistory := if adminChanged then current.gitAdminPathHistory ++ [pathObservation entryAdmin e]
        else current.gitAdminPathHistory
      gitRegistrationState := registrationOf entry
      recordedAtUs := e.occurredAtUs }
  else none

/-- mirrors evertrace-engine/src/repository/resolver.rs:1219-1228 -/
def stateChanged (snapshot : Option WorktreeSnapshot) (e : GitProbeEvidence) : Bool :=
  snapshot.all fun snapshot =>
    snapshot.headOid != e.headOid
      || snapshot.treeOid != e.treeOid
      || snapshot.branchRef != e.branchRef
      || some snapshot.detachedHead != e.detachedHead
      || snapshot.trackedDiffDigest != e.trackedDiffDigest
      || snapshot.indexDigest != e.indexDigest
      || snapshot.untrackedManifestDigest != e.untrackedManifestDigest
      || snapshot.gitOperation != e.gitOperation

/-- The probed worktree in another state, with its snapshot.
mirrors evertrace-engine/src/repository/resolver.rs:1230-1268 -/
def recordSnapshot (ids : FreshIds) (view : RepositoryCurrentView) (e : GitProbeEvidence) (current : WorktreeInstance)
    (successor : Option WorktreeInstance) (assessment : LineageAssessment) (resolution : RepositoryResolution) :
    Except RepositoryResolveError RepositoryResolution := do
  let currentSnapshot := current.currentSnapshotId.bind view.snapshots.get
  let snapshot ← snapshotFromEvidence ids resolution
    (successor.elim current.worktreeInstanceId WorktreeInstance.worktreeInstanceId) e
  let updated : WorktreeInstance := match successor with
    | some successor => { successor with currentSnapshotId := some snapshot.worktreeSnapshotId }
    | none => { current with
        currentSnapshotId := some snapshot.worktreeSnapshotId
        worktreeRevision := current.worktreeRevision + 1
        predecessorRevision := some current.worktreeRevision
        recordedAtUs := e.occurredAtUs }
  domain updated.validate
  match stateTransitionKind currentSnapshot snapshot with
  | none => return (resolution.addSnapshot snapshot).addWorktree updated
  | some kind => do
    let transition := newTransition ids resolution updated.worktreeInstanceId current.currentSnapshotId
      updated.worktreeInstanceId (some snapshot.worktreeSnapshotId) kind assessment view.frontier e
    expected transition.validate
    return ((resolution.addTransition transition).addSnapshot snapshot).addWorktree updated

/-- The probed worktree in the same state, somewhere else or back again.
mirrors evertrace-engine/src/repository/resolver.rs:1269-1288 -/
def recordMove (ids : FreshIds) (view : RepositoryCurrentView) (e : GitProbeEvidence) (current : WorktreeInstance)
    (entry : WorktreeAdminEntry) (successor : WorktreeInstance) (resolution : RepositoryResolution) :
    Except RepositoryResolveError RepositoryResolution :=
  let repaired := current.lifecycle == .missing
    || (WorktreeInstance.adminPath current).getD "" != entry.gitdir.getD ""
  if repaired || current.currentPath != some entry.path then do
    let transition := newTransition ids resolution successor.worktreeInstanceId current.currentSnapshotId
      successor.worktreeInstanceId none (if repaired then .worktreeRepaired else .pathMoved) .proven view.frontier e
    expected transition.validate
    return (resolution.addTransition transition).addWorktree successor
  else .ok (resolution.addWorktree successor)

/-- mirrors evertrace-engine/src/repository/resolver.rs:1167-1291 -/
def reconcileExistingWorktree (ids : FreshIds) (view : RepositoryCurrentView) (e : GitProbeEvidence)
    (current : WorktreeInstance) (entry : WorktreeAdminEntry) (assessment : LineageAssessment)
    (resolution : RepositoryResolution) : Except RepositoryResolveError RepositoryResolution := do
  let successor := changedWorktree current entry e
  successor.forM fun value => domain value.validate
  if stateChanged (current.currentSnapshotId.bind view.snapshots.get) e then
    recordSnapshot ids view e current successor assessment resolution
  else match successor with
    | some value => recordMove ids view e current entry value resolution
    | none => return resolution

/-! ## The other worktrees -/

/-- Where the admin directory of a worktree should be now.
mirrors evertrace-engine/src/repository/resolver.rs:986-992 -/
def expectedAdmin (view : RepositoryCurrentView) (e : GitProbeEvidence) (repositoryId : RepositoryId)
    (repositoryMoved : Bool) (admin : String) : Option String :=
  if repositoryMoved then e.commonDir.map (rebaseAdminPath admin view repositoryId) else some admin

def entryAt (e : GitProbeEvidence) (gitdir : String) : Option WorktreeAdminEntry :=
  e.worktreeEntries.find? fun entry => entry.gitdir == some gitdir

/-- The line of the list that is about a worktree.
mirrors evertrace-engine/src/repository/resolver.rs:993-1014 -/
def listedEntry (e : GitProbeEvidence) (repositoryMoved : Bool) (expected : Option String)
    (worktree : WorktreeInstance) : Option WorktreeAdminEntry :=
  (expected.bind (entryAt e)).or
    (if repositoryMoved then none
      else e.worktreeEntries.find? fun entry => entry.prunable && entry.path == worktree.currentPath.getD "")

/-- The next revision of a worktree that was not probed, by Git's list.
mirrors evertrace-engine/src/repository/resolver.rs:1015-1132 -/
def passiveSuccessor (e : GitProbeEvidence) (worktree : WorktreeInstance) (admin : String) (expected : Option String) :
    Option WorktreeAdminEntry → Option (WorktreeInstance × TransitionKind)
  | some entry =>
    if entry.prunable then
      if worktree.lifecycle = .active then
        some (worktreeSuccessor worktree .missing worktree.currentPath .prunable none e, .worktreeMissing)
      else none
    else if entry.path ≠ worktree.currentPath.getD "" then
      some ({ worktree with
        worktreeRevision := worktree.worktreeRevision + 1
        predecessorRevision := some worktree.worktreeRevision
        lifecycle := .active
        currentPath := some entry.path
        pathHistory := worktree.pathHistory ++ [pathObservation entry.path e]
        gitAdminPathHistory := match expected with
          | some expected => if expected ≠ admin then worktree.gitAdminPathHistory ++ [pathObservation expected e]
              else worktree.gitAdminPathHistory
          | none => worktree.gitAdminPathHistory
        gitRegistrationState := registrationOf entry
        recordedAtUs := e.occurredAtUs }, .pathMoved)
    else none
  | none =>
    if e.worktreeListComplete then
      -- the admin record is gone from the list and from the disk
      match e.adminPathProbes.find? fun probe => some probe.path == expected with
      | some probe =>
        if probe.present then none
        else if worktree.gitRegistrationState = .prunable then
          some (worktreeSuccessor worktree .pruned none .absent (some (e.evidenceRefs.headD "")) e, .worktreePruned)
        else
          some (worktreeSuccessor worktree .removed none .absent (some (e.evidenceRefs.headD "")) e, .worktreeRemoved)
      | none => none
    else none

/-- One worktree that was not probed: its next revision with a transition, and the admin path it was found under.
mirrors evertrace-engine/src/repository/resolver.rs:980-1133 -/
def reconcilePassive (ids : FreshIds) (view : RepositoryCurrentView) (e : GitProbeEvidence)
    (repositoryId : RepositoryId) (repositoryMoved : Bool) (acc : RepositoryResolution × List String)
    (worktree : WorktreeInstance) : Except RepositoryResolveError (RepositoryResolution × List String) :=
  match WorktreeInstance.adminPath worktree with
  | none => .ok acc
  | some admin =>
    let expectedPath := expectedAdmin view e repositoryId repositoryMoved admin
    let entry := listedEntry e repositoryMoved expectedPath worktree
    let found := acc.2 ++ (entry.map fun entry => entry.gitdir.getD "").toList
    match passiveSuccessor e worktree admin expectedPath entry with
    | none => .ok (acc.1, found)
    | some (successor, kind) => do
      if kind = .pathMoved then domain successor.validate else expected successor.validate
      let transition := newTransition ids acc.1 successor.worktreeInstanceId worktree.currentSnapshotId
        successor.worktreeInstanceId none kind .proven view.frontier e
      expected transition.validate
      return ((acc.1.addTransition transition).addWorktree successor, found)

/-- A listed worktree at a path where one has ended.
mirrors evertrace-engine/src/repository/resolver.rs:1136-1163 -/
def recreateListed (ids : FreshIds) (view : RepositoryCurrentView) (e : GitProbeEvidence)
    (repositoryId : RepositoryId) (known : List WorktreeInstance) (root : String) (found : List String)
    (assessment : LineageAssessment) (resolution : RepositoryResolution) (entry : WorktreeAdminEntry) :
    Except RepositoryResolveError RepositoryResolution :=
  if entry.gitdir.isNone || found.contains (entry.gitdir.getD "")
      || known.any (fun worktree => !worktree.lifecycle.isTerminal && WorktreeInstance.adminPath worktree == entry.gitdir)
      || entry.path == root then .ok resolution
  else match recreatedFrom view entry with
    | none => .ok resolution
    | some terminal =>
      (createWorktree ids view e resolution repositoryId entry (some terminal) assessment).map Prod.snd

def knownWorktrees (view : RepositoryCurrentView) (repositoryId : RepositoryId) : List WorktreeInstance :=
  view.worktrees.values.filter fun worktree => worktree.repositoryInstanceId == repositoryId

/-- The known worktree that was probed.
mirrors evertrace-engine/src/repository/resolver.rs:951-954 -/
def candidateMatch (view : RepositoryCurrentView) (e : GitProbeEvidence) (repositoryId : RepositoryId)
    (candidateAdmin : String) : Option WorktreeInstance :=
  (knownWorktrees view repositoryId).find? fun worktree =>
    !worktree.lifecycle.isTerminal && adminMatches worktree candidateAdmin view repositoryId e

/-- The worktree that was probed: compared or created.
mirrors evertrace-engine/src/repository/resolver.rs:951-975 -/
def reconcileCandidate (ids : FreshIds) (view : RepositoryCurrentView) (e : GitProbeEvidence)
    (repositoryId : RepositoryId) (assessment : LineageAssessment) (entry : WorktreeAdminEntry) (admin : String)
    (resolution : RepositoryResolution) : Except RepositoryResolveError (RepositoryResolution × List String) :=
  match candidateMatch view e repositoryId admin with
  | some current => do
    let resolution ← reconcileExistingWorktree ids view e current entry assessment resolution
    return (resolution, [admin])
  | none => do
    let (_, resolution) ← createWorktree ids view e resolution repositoryId entry (recreatedFrom view entry) assessment
    return (resolution, [])

/-- mirrors evertrace-engine/src/repository/resolver.rs:923-1165 -/
def reconcileWorktrees (ids : FreshIds) (view : RepositoryCurrentView) (e : GitProbeEvidence)
    (repositoryId : RepositoryId) (assessment : LineageAssessment) (repositoryMoved : Bool)
    (resolution : RepositoryResolution) : Except RepositoryResolveError RepositoryResolution := do
  let root ← okOr .invalidEvidence e.worktreeRoot
  let entry ← candidateEntry e root
  let admin ← okOr .invalidEvidence entry.gitdir
  let candidateId := (candidateMatch view e repositoryId admin).map WorktreeInstance.worktreeInstanceId
  let acc ← reconcileCandidate ids view e repositoryId assessment entry admin resolution
  let others := (knownWorktrees view repositoryId).filter fun worktree =>
    !worktree.lifecycle.isTerminal && some worktree.worktreeInstanceId != candidateId
  let acc ← others.foldlM (reconcilePassive ids view e repositoryId repositoryMoved) acc
  e.worktreeEntries.foldlM
    (recreateListed ids view e repositoryId (knownWorktrees view repositoryId) root acc.2 assessment) acc.1

/-! ## Repositories -/

/-- mirrors evertrace-engine/src/repository/resolver.rs:624-631 -/
def continuityProbeComplete (e : GitProbeEvidence) : Bool :=
  !e.omissions.any fun omission => omission.field == .refTips || omission.field == .continuityAncestry

/-- mirrors evertrace-engine/src/repository/resolver.rs:673-686 -/
def knownRepositoryHeads (view : RepositoryCurrentView) (repositoryId : RepositoryId) : List String :=
  (view.snapshots.values.filter fun snapshot => (view.worktrees.get snapshot.worktreeInstanceId).any fun worktree =>
    worktree.repositoryInstanceId == repositoryId).filterMap WorktreeSnapshot.headOid

/-- mirrors evertrace-engine/src/repository/resolver.rs:639-670 -/
def candidateContinuityPositive (view : RepositoryCurrentView) (e : GitProbeEvidence) (repository : RepositoryInstance) :
    Bool :=
  let knownHeads := knownRepositoryHeads view repository.repositoryId
  match e.headOid with
  | some head => knownHeads.contains head || e.headAncestors.any knownHeads.contains
      || e.refTips.any fun tip => knownHeads.contains tip.2
  | none => e.refTips.isEmpty && knownHeads.isEmpty
      && (((knownWorktrees view repository.repositoryId).filterMap WorktreeInstance.currentSnapshotId).filterMap
        view.snapshots.get).any fun snapshot => snapshot.headOid.isNone

/-- The main worktree of a repository, or else any.
mirrors evertrace-engine/src/repository/resolver.rs:754-765, 871-885 -/
def anchorWorktree (view : RepositoryCurrentView) (repositoryId : RepositoryId) : Option WorktreeInstance :=
  ((knownWorktrees view repositoryId).find? fun worktree => worktree.kind == .main).or
    (knownWorktrees view repositoryId).head?

/-- mirrors evertrace-engine/src/repository/resolver.rs:886-901 -/
def recordCopied (ids : FreshIds) (view : RepositoryCurrentView) (e : GitProbeEvidence)
    (source main : Option WorktreeInstance) (resolution : RepositoryResolution) :
    Except RepositoryResolveError RepositoryResolution :=
  match source, main with
  | some source, some destination => do
    let transition := newTransition ids resolution source.worktreeInstanceId source.currentSnapshotId
      destination.worktreeInstanceId none .repositoryCopied .partial_ view.frontier e
    domain transition.validate
    return resolution.addTransition transition
  | _, _ => .ok resolution

/-- mirrors evertrace-engine/src/repository/resolver.rs:824-921 -/
def createRepository (ids : FreshIds) (view : RepositoryCurrentView) (e : GitProbeEvidence) (root : String)
    (derivedFrom : Option RepositoryId) : Except RepositoryResolveError RepositoryResolution := do
  let filesystem ← okOr .invalidEvidence e.commonDirFilesystem
  let format ← okOr .invalidEvidence e.objectFormat
  let repository : RepositoryInstance := {
    repositoryId := ids.repository
    repositoryRevision := 1
    predecessorRevision := none
    currentPath := root
    pathHistory := [pathObservation root e]
    gitCommonDirPath := e.commonDir
    commonDirFilesystem := some filesystem
    objectFormat := some format
    remoteFingerprints := e.remoteFingerprints
    derivedFrom := derivedFrom
    identityEvidenceRefs := e.evidenceRefs
    recordedAtUs := e.occurredAtUs
    userDisabled := false
    capabilityState := none }
  domain repository.validate
  let entry ← candidateEntry e root
  let (main, resolution) ← createWorktree ids view e
    { RepositoryResolution.empty .create none with repositories := [repository] } ids.repository entry none (assessmentOf e)
  let resolution ← recordCopied ids view e (derivedFrom.bind (anchorWorktree view)) main resolution
  let resolution ← (e.worktreeEntries.filter fun other => other.path != entry.path && other.gitdir.isSome).foldlM
    (fun resolution other => (createWorktree ids view e resolution ids.repository other (recreatedFrom view other)
      (assessmentOf e)).map Prod.snd) resolution
  return finalizeKind resolution

/-- The root of the main worktree: a probe of a linked worktree is not a move of its repository.
mirrors evertrace-engine/src/repository/resolver.rs:698-711 -/
def repositoryRoot (e : GitProbeEvidence) (repository : RepositoryInstance) (root : String) :
    Except RepositoryResolveError String :=
  if e.gitDir ≠ e.commonDir then
    okOr .invalidEvidence
      (((e.worktreeEntries.find? fun entry => entry.gitdir.isSome && entry.gitdir == e.commonDir).map
          WorktreeAdminEntry.path).or
        (if repository.gitCommonDirPath = e.commonDir then some repository.currentPath else none))
  else .ok root

/-- The next revision of a repository that moved.
mirrors evertrace-engine/src/repository/resolver.rs:732-747 -/
def movedRepository (e : GitProbeEvidence) (repository : RepositoryInstance) (root : String) : RepositoryInstance :=
  { repository with
    repositoryRevision := repository.repositoryRevision + 1
    predecessorRevision := some repository.repositoryRevision
    currentPath := root
    pathHistory := repository.pathHistory ++ [pathObservation root e]
    gitCommonDirPath := e.commonDir
    identityEvidenceRefs := unionRefs repository.identityEvidenceRefs e.evidenceRefs
    remoteFingerprints := e.remoteFingerprints
    recordedAtUs := e.occurredAtUs }

/-- The next revision of a repository with other remotes.
mirrors evertrace-engine/src/repository/resolver.rs:788-798 -/
def withRemotes (e : GitProbeEvidence) (repository : RepositoryInstance) : RepositoryInstance :=
  { repository with
    repositoryRevision := repository.repositoryRevision + 1
    predecessorRevision := some repository.repositoryRevision
    remoteFingerprints := e.remoteFingerprints
    identityEvidenceRefs := unionRefs repository.identityEvidenceRefs e.evidenceRefs
    recordedAtUs := e.occurredAtUs }

/-- The transition of a repository move, anchored at one of its worktrees.
mirrors evertrace-engine/src/repository/resolver.rs:754-779 -/
def anchorMove (ids : FreshIds) (view : RepositoryCurrentView) (e : GitProbeEvidence) (repositoryId : RepositoryId)
    (resolution : RepositoryResolution) : Except RepositoryResolveError RepositoryResolution :=
  match anchorWorktree view repositoryId with
  | none => .ok resolution
  | some anchor => do
    let transition := newTransition ids resolution anchor.worktreeInstanceId anchor.currentSnapshotId
      anchor.worktreeInstanceId none .repositoryMoved .proven view.frontier e
    domain transition.validate
    return resolution.addTransition transition

/-- mirrors evertrace-engine/src/repository/resolver.rs:688-822 -/
def resolveExistingRepository (ids : FreshIds) (view : RepositoryCurrentView) (e : GitProbeEvidence)
    (repository : RepositoryInstance) (root : String) : Except RepositoryResolveError RepositoryResolution := do
  let mainRoot ← repositoryRoot e repository root
  if continuityProbeComplete e = false then
    return .empty .ambiguous (some "continuity_evidence_incomplete")
  else if candidateContinuityPositive view e repository = false then
    createRepository ids view e root (some repository.repositoryId)
  else if repository.currentPath ≠ mainRoot then do
    domain (movedRepository e repository mainRoot).validate
    let resolution ← anchorMove ids view e repository.repositoryId
      { RepositoryResolution.empty .successor (some "repository_moved") with
        repositories := [movedRepository e repository mainRoot] }
    let resolution ← reconcileWorktrees ids view e repository.repositoryId .proven true resolution
    return finalizeKind resolution
  else if repository.remoteFingerprints ≠ e.remoteFingerprints then do
    domain (withRemotes e repository).validate
    let resolution ← reconcileWorktrees ids view e repository.repositoryId (assessmentOf e) false
      { RepositoryResolution.empty .successor none with repositories := [withRemotes e repository] }
    return finalizeKind resolution
  else do
    let resolution ← reconcileWorktrees ids view e repository.repositoryId (assessmentOf e) false
      (.empty .noDelta none)
    return finalizeKind resolution

/-! ## Identity -/

/-- Which repository the evidence belongs to. -/
inductive Identified where
  | ambiguous (detail : String)
  | create (derivedFrom : Option RepositoryId)
  | existing (repository : RepositoryInstance)
  deriving DecidableEq

/-- mirrors evertrace-engine/src/repository/resolver.rs:519-523 -/
def identityMatches (view : RepositoryCurrentView) (filesystem : FilesystemIdentity) : List RepositoryInstance :=
  view.repositories.values.filter fun repository => repository.commonDirFilesystem == some filesystem

/-- The identity matches with a proof of continuity.
mirrors evertrace-engine/src/repository/resolver.rs:560-574 -/
def positiveMatches (view : RepositoryCurrentView) (e : GitProbeEvidence) (incompleteHistory : List RepositoryId)
    (filesystem : FilesystemIdentity) : List RepositoryInstance :=
  if continuityProbeComplete e then
    (identityMatches view filesystem).filter fun repository =>
      (e.headOid.isSome || !incompleteHistory.contains repository.repositoryId)
        && candidateContinuityPositive view e repository
  else []

/-- A filesystem identity that is not known.
mirrors evertrace-engine/src/repository/resolver.rs:535-556 -/
def identifyNew (view : RepositoryCurrentView) (hint : Option RepositoryId) (root : String) : Identified :=
  match view.repositories.values.filter fun repository => repository.currentPath == root with
  | [] => .create (hint.filter fun id => (view.repositories.get id).isSome)
  | [other] => .create (some other.repositoryId)
  | _ => .ambiguous "multiple_identity_claimants"

/-- mirrors evertrace-engine/src/repository/resolver.rs:511-619 -/
def identify (view : RepositoryCurrentView) (e : GitProbeEvidence) (hint : Option RepositoryId)
    (incompleteHistory : List RepositoryId) (root : String) : Identified :=
  match e.commonDirFilesystem, e.objectFormat with
  | some filesystem, some format =>
    let candidates := identityMatches view filesystem
    if candidates.any fun repository => repository.objectFormat != some format then
      .ambiguous "object_format_contradiction"
    else if candidates.isEmpty then identifyNew view hint root
    else match positiveMatches view e incompleteHistory filesystem with
      | [repository] =>
        if candidates.any fun other => other.repositoryId != repository.repositoryId
            && incompleteHistory.contains other.repositoryId then .ambiguous "continuity_history_incomplete"
        else .existing repository
      | [] =>
        if continuityProbeComplete e = false then .ambiguous "continuity_evidence_incomplete"
        else if candidates.any fun repository => incompleteHistory.contains repository.repositoryId then
          .ambiguous "continuity_history_incomplete"
        else match candidates with
          | [repository] => .create (some repository.repositoryId)
          | _ => .create (hint.filter fun id => (view.repositories.get id).isSome)
      | _ => .ambiguous "multiple_identity_claimants"
  | _, _ => .ambiguous "identity_evidence_incomplete"

/-- mirrors evertrace-engine/src/repository/resolver.rs:501-620 -/
def resolveEstablished (ids : FreshIds) (view : RepositoryCurrentView) (e : GitProbeEvidence)
    (hint : Option RepositoryId) (incompleteHistory : List RepositoryId) :
    Except RepositoryResolveError RepositoryResolution := do
  let root ← okOr .invalidEvidence e.worktreeRoot
  match identify view e hint incompleteHistory root with
  | .ambiguous detail => return .empty .ambiguous (some detail)
  | .create derivedFrom => createRepository ids view e root derivedFrom
  | .existing repository => resolveExistingRepository ids view e repository root

/-! ## Unavailable paths -/

/-- mirrors evertrace-engine/src/repository/resolver.rs:93-102 -/
def unavailable (reason : ProbeUnavailableReason) (e : GitProbeEvidence) : RepositoryResolution :=
  { RepositoryResolution.empty .unavailable none with
    pathHint := some ⟨e.candidatePath, reason, e.evidenceRefs, e.occurredAtUs⟩ }

/-- mirrors evertrace-engine/src/repository/resolver.rs:423-430 -/
def knownAtPath (view : RepositoryCurrentView) (path : String) : Option WorktreeInstance :=
  view.worktrees.values.find? fun worktree => !worktree.lifecycle.isTerminal && worktree.currentPath == some path

/-- mirrors evertrace-engine/src/repository/resolver.rs:417-499 -/
def resolveUnavailable (ids : FreshIds) (view : RepositoryCurrentView) (e : GitProbeEvidence)
    (reason : ProbeUnavailableReason) : Except RepositoryResolveError RepositoryResolution :=
  match knownAtPath view e.candidatePath with
  | none => .ok (unavailable reason e)
  | some worktree =>
    match reason with
    | .trustDenied => .ok (.empty .noDelta (some "trust_denied"))
    | .pathMissing =>
      if worktree.lifecycle = .missing then .ok (.empty .noDelta (some "path_missing"))
      else do
        let successor := worktreeSuccessor worktree .missing worktree.currentPath (registrationForMissing worktree)
          none e
        expected successor.validate
        let transition := newTransition ids (.empty .successor none) successor.worktreeInstanceId
          worktree.currentSnapshotId successor.worktreeInstanceId none .worktreeMissing (assessmentOf e) view.frontier e
        expected transition.validate
        return ((RepositoryResolution.empty .successor none).addWorktree successor).addTransition transition
    | _ => .ok (.empty .ambiguous (some "identity_unavailable"))

/-- mirrors evertrace-engine/src/repository/resolver.rs:194-210 -/
def resolveWithIncompleteHistory (ids : FreshIds) (view : RepositoryCurrentView) (e : GitProbeEvidence)
    (hint : Option RepositoryId) (incompleteHistory : List RepositoryId) :
    Except RepositoryResolveError RepositoryResolution := do
  ensure .invalidEvidence (e.probeSchemaVersion == 1 && !e.evidenceRefs.isEmpty && 0 ≤ e.occurredAtUs)
  match e.unavailableReason with
  | some reason => resolveUnavailable ids view e reason
  | none => resolveEstablished ids view e hint incompleteHistory

/-- mirrors evertrace-engine/src/repository/resolver.rs:185-189 -/
def resolveRepository (ids : FreshIds) (view : RepositoryCurrentView) (e : GitProbeEvidence)
    (hint : Option RepositoryId) : Except RepositoryResolveError RepositoryResolution :=
  resolveWithIncompleteHistory ids view e hint []

end EverTrace.L2.Resolver
