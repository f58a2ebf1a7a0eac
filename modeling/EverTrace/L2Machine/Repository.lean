import EverTrace.Lib.Guard
import EverTrace.L1Encoding.Ids
import EverTrace.L2Machine.Evidence
/-!
# Repositories and worktrees (`evertrace-domain/src/repository.rs`)

What is known of a repository on this machine, of its worktrees, of their
snapshots and of what happened to them. A record is a revision: it carries its
number and the number of the one before it, and checks itself.

A `u32` is a `UInt32`, so a revision counter wraps as it does in the code; an
`i64` is an `Int` and a `u64` a `Nat`, since nothing is added to them here.
-/
namespace EverTrace.L2.Repository
open EverTrace.Lib EverTrace.L1
open EverTrace.L2.Evidence (isAsciiControl)

/-- mirrors evertrace-domain/src/repository.rs:692-712 -/
inductive RepositoryError where
  | invalidRevision
  | invalidReference
  | duplicate
  | invalidIdentity
  | invalidLifecycle
  | invalidSnapshot
  | invalidTransition
  | invalidIntegration
  | invalidRecovery
  deriving DecidableEq, Repr

/-! ## Enumerations -/

/-- mirrors evertrace-domain/src/repository.rs:26-29 -/
inductive GitObjectFormat where
  | sha1
  | sha256
  deriving DecidableEq, Repr

/-- mirrors evertrace-domain/src/repository.rs:50-59 -/
inductive ProbeUnavailableReason where
  | nonGit
  | corruptAdminMetadata
  | permissionDenied
  | trustDenied
  | outputLimitExceeded
  | timeout
  | pathMissing
  | spawnFailed
  deriving DecidableEq, Repr

/-- mirrors evertrace-domain/src/repository.rs:63-66 -/
inductive WorktreeKind where
  | main
  | linked
  deriving DecidableEq, Repr

/-- mirrors evertrace-domain/src/repository.rs:70-76 -/
inductive WorktreeLifecycle where
  | active
  | missing
  | removed
  | pruned
  | archived
  deriving DecidableEq, Repr

/-- mirrors evertrace-domain/src/repository.rs:79-81 -/
def WorktreeLifecycle.isTerminal : WorktreeLifecycle → Bool
  | .removed | .pruned => true
  | .active | .missing | .archived => false

/-- mirrors evertrace-domain/src/repository.rs:84-100 -/
def lifecycleSuccessorAllowed (current successor : WorktreeLifecycle) : Bool :=
  match current with
  | .active | .missing => true
  | .removed => successor == .removed
  | .pruned => successor == .pruned
  | .archived => successor == .archived || successor == .removed || successor == .pruned

/-- mirrors evertrace-domain/src/repository.rs:104-110 -/
inductive GitRegistrationState where
  | registered
  | locked
  | prunable
  | absent
  | unknown
  deriving DecidableEq, Repr

/-- mirrors evertrace-domain/src/repository.rs:114-122 -/
inductive GitOperation where
  | none
  | merge
  | rebase
  | cherryPick
  | revert
  | bisect
  | other
  deriving DecidableEq, Repr

/-- mirrors evertrace-domain/src/repository.rs:126-130 -/
inductive SnapshotCaptureStatus where
  | complete
  | partial_
  | unavailable
  deriving DecidableEq, Repr

/-- mirrors evertrace-domain/src/repository.rs:134-144 -/
inductive SnapshotField where
  | headOid
  | treeOid
  | branchRef
  | trackedDiffDigest
  | indexDigest
  | untrackedManifestDigest
  | anchorDigests
  | dependencyFingerprints
  | toolchainFingerprint
  deriving DecidableEq, Repr

/-- mirrors evertrace-domain/src/repository.rs:148-163 -/
inductive TransitionKind where
  | pathMoved
  | headAdvanced
  | branchSwitched
  | detachedOrAttached
  | historyRewritten
  | mergeIntegrated
  | patchTransferred
  | worktreeMissing
  | worktreeRepaired
  | worktreeRemoved
  | worktreePruned
  | worktreeRecreated
  | repositoryMoved
  | repositoryCopied
  deriving DecidableEq, Repr

/-- mirrors evertrace-domain/src/repository.rs:167-172 -/
inductive LineageAssessment where
  | proven
  | partial_
  | unknown
  | contradicted
  deriving DecidableEq, Repr

/-! ## Checks -/

/-- mirrors evertrace-domain/src/repository.rs:598-600 -/
def validRevisionChain (revision : UInt32) (predecessor : Option UInt32) : Bool :=
  0 < revision && predecessor == (if 1 < revision then some (revision - 1) else none)

/-- mirrors evertrace-domain/src/repository.rs:602-613 -/
def validLocator (value : String) : Except RepositoryError Unit :=
  ensure .invalidReference (!value.isEmpty && (utf8 value).length ≤ 4096 && (utf8 value).head? == some 0x2f
    && !(utf8 value).any fun byte => byte == 0 || isAsciiControl byte)

/-- mirrors evertrace-domain/src/repository.rs:615-625 -/
def validRef (value : String) : Except RepositoryError Unit :=
  ensure .invalidReference (!value.isEmpty && (utf8 value).length ≤ 256
    && !(utf8 value).any fun byte => byte == 0 || isAsciiControl byte)

def lowerHexBytes (bytes : Bytes) : Bool :=
  bytes.all fun byte => (0x30 ≤ byte && byte ≤ 0x39) || (0x61 ≤ byte && byte ≤ 0x66)

/-- mirrors evertrace-domain/src/repository.rs:627-636 -/
def validOid (value : String) : Except RepositoryError Unit :=
  ensure .invalidReference (((utf8 value).length == 40 || (utf8 value).length == 64) && lowerHexBytes (utf8 value))

/-- mirrors evertrace-domain/src/repository.rs:638-647 -/
def validDigest (value : String) : Except RepositoryError Unit :=
  ensure .invalidReference ((utf8 value).length == 64 && lowerHexBytes (utf8 value))

/-- mirrors evertrace-domain/src/repository.rs:652-664 -/
def validRemoteFingerprint (value : String) : Except RepositoryError Unit :=
  let tag := utf8 "s11-remote-fp-v1:"
  ensure .invalidIdentity (tag.isPrefixOf (utf8 value) && ((utf8 value).drop tag.length).length == 64
    && lowerHexBytes ((utf8 value).drop tag.length))

/-- mirrors evertrace-domain/src/repository.rs:684-690 -/
def requireUnique {α : Type} [DecidableEq α] (values : List α) : Except RepositoryError Unit :=
  ensure .duplicate (decide values.Nodup)

/-! ## Repositories -/

/-- mirrors evertrace-domain/src/repository.rs:193-196 -/
structure FilesystemIdentity where
  device : Nat
  inode : Nat
  deriving DecidableEq

/-- mirrors evertrace-domain/src/repository.rs:200-205 -/
structure PathObservation where
  path : String
  firstObservedAtUs : Int
  lastObservedAtUs : Int
  evidenceRefs : List String
  deriving DecidableEq

/-- mirrors evertrace-domain/src/repository.rs:208-220 -/
def PathObservation.validate (observation : PathObservation) : Except RepositoryError Unit := do
  validLocator observation.path
  ensure .invalidReference (0 ≤ observation.firstObservedAtUs
    && observation.firstObservedAtUs ≤ observation.lastObservedAtUs && !observation.evidenceRefs.isEmpty)
  observation.evidenceRefs.forM validRef
  requireUnique observation.evidenceRefs

/-- The first observations do not go back in time.
mirrors evertrace-domain/src/repository.rs:670-677 -/
def checkHistory : Option Int → List PathObservation → Except RepositoryError Unit
  | _, [] => .ok ()
  | previous, observation :: rest => do
    observation.validate
    ensure .invalidReference (previous.all fun first => first ≤ observation.firstObservedAtUs)
    checkHistory (some observation.firstObservedAtUs) rest

/-- mirrors evertrace-domain/src/repository.rs:666-682 -/
def validPathHistory (history : List PathObservation) (current : String) : Except RepositoryError Unit := do
  ensure .invalidReference (!history.isEmpty)
  checkHistory none history
  ensure .invalidReference (history.getLast?.all fun entry => entry.path == current)

/-- mirrors evertrace-domain/src/repository.rs:255-258 -/
structure RepositoryCapabilityState where
  trustRevoked : Bool
  revalidatedInventoryRef : Option JobId
  deriving DecidableEq

/-- mirrors evertrace-domain/src/repository.rs:232-249 -/
structure RepositoryInstance where
  repositoryId : RepositoryId
  repositoryRevision : UInt32
  predecessorRevision : Option UInt32
  currentPath : String
  pathHistory : List PathObservation
  gitCommonDirPath : Option String
  commonDirFilesystem : Option FilesystemIdentity
  objectFormat : Option GitObjectFormat
  remoteFingerprints : List String
  derivedFrom : Option RepositoryId
  identityEvidenceRefs : List String
  recordedAtUs : Int
  userDisabled : Bool
  capabilityState : Option RepositoryCapabilityState
  deriving DecidableEq

/-- mirrors evertrace-domain/src/repository.rs:261-293 -/
def RepositoryInstance.validate (repository : RepositoryInstance) : Except RepositoryError Unit := do
  ensure .invalidRevision (validRevisionChain repository.repositoryRevision repository.predecessorRevision
    && repository.derivedFrom != some repository.repositoryId && 0 ≤ repository.recordedAtUs)
  validLocator repository.currentPath
  validPathHistory repository.pathHistory repository.currentPath
  repository.gitCommonDirPath.forM validLocator
  repository.remoteFingerprints.forM validRemoteFingerprint
  requireUnique repository.remoteFingerprints
  repository.identityEvidenceRefs.forM validRef
  requireUnique repository.identityEvidenceRefs
  ensure .invalidIdentity (repository.gitCommonDirPath.isSome && repository.commonDirFilesystem.isSome
    && repository.objectFormat.isSome && !repository.identityEvidenceRefs.isEmpty)

/-! ## Worktrees -/

/-- mirrors evertrace-domain/src/repository.rs:298-314 -/
structure WorktreeInstance where
  worktreeInstanceId : WorktreeId
  worktreeRevision : UInt32
  predecessorRevision : Option UInt32
  repositoryInstanceId : RepositoryId
  kind : WorktreeKind
  lifecycle : WorktreeLifecycle
  currentPath : Option String
  pathHistory : List PathObservation
  gitAdminPathHistory : List PathObservation
  gitRegistrationState : GitRegistrationState
  currentSnapshotId : Option WorktreeSnapshotId
  createdEventRef : String
  terminalEventRef : Option String
  recreatedFromWorktreeInstanceId : Option WorktreeId
  recordedAtUs : Int
  deriving DecidableEq

/-- What the lifecycle asks of the path.
mirrors evertrace-domain/src/repository.rs:334-363 -/
def WorktreeInstance.lifecycleOk (worktree : WorktreeInstance) : Except RepositoryError Unit :=
  match worktree.lifecycle with
  | .active | .missing => do
    let path ← okOr .invalidLifecycle worktree.currentPath
    validLocator path
    ensure .invalidLifecycle (worktree.terminalEventRef.isNone
      && worktree.pathHistory.getLast?.all fun entry => entry.path == path)
  | .removed | .pruned =>
    ensure .invalidLifecycle (worktree.terminalEventRef.isSome && worktree.currentPath.isNone)
  | .archived => do
    let path ← okOr .invalidLifecycle worktree.currentPath
    validLocator path

/-- mirrors evertrace-domain/src/repository.rs:317-364 -/
def WorktreeInstance.validate (worktree : WorktreeInstance) : Except RepositoryError Unit := do
  ensure .invalidRevision (validRevisionChain worktree.worktreeRevision worktree.predecessorRevision
    && worktree.recreatedFromWorktreeInstanceId != some worktree.worktreeInstanceId && 0 ≤ worktree.recordedAtUs)
  ensure .invalidLifecycle (!worktree.pathHistory.isEmpty && !worktree.gitAdminPathHistory.isEmpty)
  (worktree.pathHistory ++ worktree.gitAdminPathHistory).forM PathObservation.validate
  validRef worktree.createdEventRef
  worktree.terminalEventRef.forM validRef
  worktree.lifecycleOk

/-! ## Snapshots -/

/-- mirrors evertrace-domain/src/repository.rs:225-228 -/
structure SnapshotOmission where
  field : SnapshotField
  reason : ProbeUnavailableReason
  deriving DecidableEq

/-- mirrors evertrace-domain/src/repository.rs:369-387 -/
structure WorktreeSnapshot where
  worktreeSnapshotId : WorktreeSnapshotId
  worktreeInstanceId : WorktreeId
  headOid : Option String
  treeOid : Option String
  branchRef : Option String
  detachedHead : Bool
  trackedDiffDigest : Option String
  indexDigest : Option String
  untrackedManifestDigest : Option String
  relevantAnchorDigests : List String
  dependencyFingerprints : List String
  toolchainFingerprint : Option String
  gitOperation : GitOperation
  capturedAtUs : Int
  evidenceRefs : List String
  captureStatus : SnapshotCaptureStatus
  omissionReasons : List SnapshotOmission
  deriving DecidableEq

/-- mirrors evertrace-domain/src/repository.rs:445-468 -/
def WorktreeSnapshot.captureOk (snapshot : WorktreeSnapshot) : Bool :=
  match snapshot.captureStatus with
  | .complete => snapshot.omissionReasons.isEmpty
  | .partial_ => !snapshot.omissionReasons.isEmpty
  | .unavailable => !snapshot.omissionReasons.isEmpty && snapshot.headOid.isNone && snapshot.treeOid.isNone
    && snapshot.branchRef.isNone && snapshot.trackedDiffDigest.isNone && snapshot.indexDigest.isNone
    && snapshot.untrackedManifestDigest.isNone

/-- mirrors evertrace-domain/src/repository.rs:390-470 -/
def WorktreeSnapshot.validate (snapshot : WorktreeSnapshot) : Except RepositoryError Unit := do
  ensure .invalidSnapshot (0 ≤ snapshot.capturedAtUs)
  snapshot.headOid.forM validOid
  snapshot.treeOid.forM validOid
  snapshot.branchRef.forM fun branch => do
    ensure .invalidSnapshot ((utf8 "refs/").isPrefixOf (utf8 branch))
    validRef branch
  ensure .invalidSnapshot (snapshot.detachedHead == (snapshot.headOid.isSome && snapshot.branchRef.isNone))
  (snapshot.trackedDiffDigest.toList ++ snapshot.indexDigest.toList ++ snapshot.untrackedManifestDigest.toList).forM
    validDigest
  snapshot.relevantAnchorDigests.forM validDigest
  requireUnique snapshot.relevantAnchorDigests
  snapshot.dependencyFingerprints.forM validRef
  requireUnique snapshot.dependencyFingerprints
  snapshot.toolchainFingerprint.forM validRef
  ensure .invalidSnapshot (!snapshot.evidenceRefs.isEmpty)
  snapshot.evidenceRefs.forM validRef
  requireUnique snapshot.evidenceRefs
  requireUnique (snapshot.omissionReasons.map SnapshotOmission.field)
  ensure .invalidSnapshot snapshot.captureOk

/-! ## Transitions -/

/-- mirrors evertrace-domain/src/repository.rs:475-488 -/
structure WorktreeTransition where
  worktreeTransitionId : WorktreeTransitionId
  transitionRevision : UInt32
  predecessorRevision : Option UInt32
  fromWorktreeInstanceId : WorktreeId
  fromSnapshotId : Option WorktreeSnapshotId
  toWorktreeInstanceId : WorktreeId
  toSnapshotId : Option WorktreeSnapshotId
  kind : TransitionKind
  lineageAssessment : LineageAssessment
  correctionReason : Option String
  sourceWatermark : Nat
  evidenceRefs : List String
  deriving DecidableEq

/-- mirrors evertrace-domain/src/repository.rs:509-522 -/
def TransitionKind.fits (sameWorktree : Bool) : TransitionKind → Bool
  | .pathMoved | .headAdvanced | .branchSwitched | .detachedOrAttached | .historyRewritten | .worktreeMissing
  | .worktreeRepaired | .worktreeRemoved | .worktreePruned | .repositoryMoved => sameWorktree
  | .worktreeRecreated | .repositoryCopied => !sameWorktree
  | .mergeIntegrated | .patchTransferred => true

/-- mirrors evertrace-domain/src/repository.rs:526-534 -/
def TransitionKind.needsSnapshot : TransitionKind → Bool
  | .headAdvanced | .branchSwitched | .detachedOrAttached | .historyRewritten | .mergeIntegrated
  | .patchTransferred => true
  | .pathMoved | .worktreeMissing | .worktreeRepaired | .worktreeRemoved | .worktreePruned | .worktreeRecreated
  | .repositoryMoved | .repositoryCopied => false

/-- mirrors evertrace-domain/src/repository.rs:491-539 -/
def WorktreeTransition.validate (transition : WorktreeTransition) : Except RepositoryError Unit := do
  ensure .invalidRevision (validRevisionChain transition.transitionRevision transition.predecessorRevision)
  ensure .invalidTransition (decide (1 < transition.transitionRevision) == transition.correctionReason.isSome)
  transition.correctionReason.forM validRef
  ensure .invalidTransition (!transition.evidenceRefs.isEmpty)
  transition.evidenceRefs.forM validRef
  requireUnique transition.evidenceRefs
  ensure .invalidTransition
    (transition.kind.fits (transition.fromWorktreeInstanceId == transition.toWorktreeInstanceId))
  ensure .invalidTransition (transition.kind.needsSnapshot == transition.toSnapshotId.isSome)

/-! ## The current view -/

/-- mirrors evertrace-store/src/repository.rs:32-39 -/
structure RepositoryCurrentView where
  frontier : Nat
  repositories : OrdMap RepositoryId RepositoryInstance
  worktrees : OrdMap WorktreeId WorktreeInstance
  snapshots : OrdMap WorktreeSnapshotId WorktreeSnapshot
  transitions : OrdMap WorktreeTransitionId WorktreeTransition

end EverTrace.L2.Repository
