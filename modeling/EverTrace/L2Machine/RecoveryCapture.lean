import EverTrace.L1Encoding.Redaction
import EverTrace.L2Machine.RecoveryContract
/-!
# Recovery bundles and their capture (`evertrace-engine/src/recovery/bundle.rs`)

Before a destructive command runs, the content it may destroy is put into the
content store. `captureRecoveryBundle` goes through the items that a probe found;
each is redacted and stored, or an omission says why not. The bundle it makes must
pass `RecoveryBundle.validate`, which adds the stored bytes up again.

A `u32` or `u64` is a `Nat`; where two are added the sum is checked against `2 ^ 64`,
and the conversions of a length are checks of their own.
-/
namespace EverTrace.L2.Recovery
open EverTrace.Lib EverTrace.L1 EverTrace.L2.Repository
open EverTrace.L1.Protect (ProtectedPayload DeviceKey protect hex)

/-! ## Bundles -/

/-- mirrors evertrace-domain/src/repository/recovery.rs:82-87 -/
inductive RecoveryCaptureStatus where
  | complete
  | partial_
  deriving DecidableEq, Repr

/-- mirrors evertrace-domain/src/repository/recovery.rs:89-95 -/
inductive OrderingIntegrity where
  | complete
  | raced
  | bestEffort
  deriving DecidableEq, Repr

/-- mirrors evertrace-domain/src/repository/recovery.rs:97-114 -/
inductive RecoveryOmissionReason where
  | secretRedacted
  | credentialExcluded
  | privateKeyExcluded
  | fileTooLarge
  | untrackedTotalExceeded
  | bundleBudgetExceeded
  | timeBudgetExceeded
  | regenerableBuildOutput
  | unsupportedKind
  | unreadable
  | concurrentChange
  | criticalTrackedStateMissing
  | criticalIndexStateMissing
  | attemptAnchorMissing
  deriving DecidableEq, Repr

/-- mirrors evertrace-domain/src/repository/recovery.rs:116-122 -/
structure RecoveryOmission where
  itemRef : String
  reason : RecoveryOmissionReason
  metadataRef : Option String
  deriving DecidableEq

/-- mirrors evertrace-domain/src/repository/recovery.rs:124-130 -/
structure RecoveryContentRef where
  itemRef : String
  payload : RecoveryProtectedRef
  protectedRelativePath : Option RecoveryProtectedRef
  deriving DecidableEq

/-- `checked_add` of two `u64` -/
def addU64 (a b : Nat) : Option Nat := if a + b < 2 ^ 64 then some (a + b) else none

/-- mirrors evertrace-domain/src/repository/recovery.rs:143-152 -/
def RecoveryContentRef.validate (value : RecoveryContentRef) (file : Bool) : Except RepositoryError Unit :=
  ensure .invalidRecovery (validRef value.itemRef
    && (value.payload.validate !file).isOk
    && match value.protectedRelativePath, file with
      | some path, true => (path.validate true).isOk
      | none, false => true
      | _, _ => false)

def RecoveryContentRef.pathBytes (value : RecoveryContentRef) : Nat :=
  (value.protectedRelativePath.map RecoveryProtectedRef.protectedLength).getD 0

/-- mirrors evertrace-domain/src/repository/recovery.rs:154-160 -/
def RecoveryContentRef.protectedBytes (value : RecoveryContentRef) : Option Nat :=
  addU64 value.payload.protectedLength value.pathBytes

/-- mirrors evertrace-domain/src/repository/recovery.rs:253-277 -/
structure RecoveryBundle where
  recoveryBundleId : RecoveryBundleId
  sourceWorktreeInstanceId : WorktreeId
  sourceSnapshotId : WorktreeSnapshotId
  triggerRequestIds : List RecoveryCaptureRequestId
  trackedDiffBlobRefs : List RecoveryContentRef
  trackedFileBlobRefs : List RecoveryContentRef
  indexStateRefs : List RecoveryContentRef
  untrackedFileBlobRefs : List RecoveryContentRef
  untrackedWorkArtifactRefs : List String
  metadataOnlyWorkArtifactRefs : List String
  configAndRunRefs : List String
  attemptAnchorIds : List AttemptId
  attemptAnchorClaims : List RecoveryAttemptAnchorClaim
  omissions : List RecoveryOmission
  captureStatus : RecoveryCaptureStatus
  orderingIntegrity : OrderingIntegrity
  adapterManifestId : String
  eligibleMutationManifestVersion : Nat
  eligibleMutationDomain : String
  capturedBytes : Nat
  capturedAtUs : Int
  deriving DecidableEq

/-- mirrors evertrace-domain/src/repository/recovery.rs:20 -/
def supportedMutationDomain : String := "supported_codex_local_mutators"

/-- mirrors evertrace-domain/src/repository/recovery.rs:950-952 -/
def unique {α : Type} [DecidableEq α] (values : List α) : Bool := decide values.Nodup

/-- mirrors evertrace-domain/src/repository/recovery.rs:946-948 -/
def uniqueValidRefs (values : List String) : Bool := values.all validRef && unique values

/-- mirrors evertrace-domain/src/repository/recovery.rs:973-980 -/
def uniqueOmissions (values : List RecoveryOmission) : Bool :=
  (values.all fun value => validRef value.itemRef && value.metadataRef.all validRef)
    && unique (values.map RecoveryOmission.itemRef)

/-- Each path is counted once.
mirrors evertrace-domain/src/repository/recovery.rs:318-327 -/
def claimBytes (claims : List RecoveryAttemptAnchorClaim) (total : Nat) : Option Nat :=
  let count (state : List String × Nat) (claim : RecoveryAttemptAnchorClaim) : Option (List String × Nat) :=
    if state.1.contains claim.affectedRelativePath.casRef then some state
    else (addU64 state.2 claim.affectedRelativePath.protectedLength).map fun sum =>
      (claim.affectedRelativePath.casRef :: state.1, sum)
  (claims.foldlM count ([], total)).map Prod.snd

namespace RecoveryBundle

def contents (bundle : RecoveryBundle) : List RecoveryContentRef :=
  bundle.trackedDiffBlobRefs ++ bundle.trackedFileBlobRefs ++ bundle.indexStateRefs ++ bundle.untrackedFileBlobRefs

/-- mirrors evertrace-domain/src/repository/recovery.rs:280-291 -/
def isExactPatchOnlyAnchorShape (bundle : RecoveryBundle) : Bool :=
  bundle.captureStatus == .complete
    && bundle.orderingIntegrity == .complete
    && bundle.omissions.isEmpty
    && (bundle.trackedDiffBlobRefs.map RecoveryContentRef.itemRef) == ["git:tracked_diff"]
    && bundle.trackedFileBlobRefs.isEmpty
    && bundle.indexStateRefs.isEmpty
    && bundle.untrackedFileBlobRefs.isEmpty
    && bundle.untrackedWorkArtifactRefs.isEmpty
    && bundle.metadataOnlyWorkArtifactRefs.isEmpty
    && bundle.configAndRunRefs.isEmpty

/-- mirrors evertrace-domain/src/repository/recovery.rs:308-329 -/
def contentBytes (bundle : RecoveryBundle) : Option Nat := do
  let total ← bundle.contents.foldlM (fun total value => do addU64 total (← value.protectedBytes)) 0
  claimBytes bundle.attemptAnchorClaims total

/-- mirrors evertrace-domain/src/repository/recovery.rs:330-336 -/
def hasRecoverableContent (bundle : RecoveryBundle) : Bool :=
  !(bundle.trackedDiffBlobRefs.isEmpty && bundle.trackedFileBlobRefs.isEmpty && bundle.indexStateRefs.isEmpty
    && bundle.untrackedFileBlobRefs.isEmpty && bundle.untrackedWorkArtifactRefs.isEmpty
    && bundle.metadataOnlyWorkArtifactRefs.isEmpty && bundle.configAndRunRefs.isEmpty)

/-- mirrors evertrace-domain/src/repository/recovery.rs:337-338 -/
def hasPartialFact (bundle : RecoveryBundle) : Bool :=
  !bundle.omissions.isEmpty || bundle.orderingIntegrity != .complete

/-- mirrors evertrace-domain/src/repository/recovery.rs:294-376 -/
def validate (bundle : RecoveryBundle) : Except RepositoryError Unit := do
  (bundle.trackedDiffBlobRefs ++ bundle.indexStateRefs).forM fun value => value.validate false
  (bundle.trackedFileBlobRefs ++ bundle.untrackedFileBlobRefs).forM fun value => value.validate true
  let contentBytes ← okOr .invalidRecovery bundle.contentBytes
  ensure .invalidRecovery (!bundle.triggerRequestIds.isEmpty
    && bundle.eligibleMutationManifestVersion != 0
    && bundle.eligibleMutationDomain == supportedMutationDomain
    && validRef bundle.adapterManifestId
    && 0 ≤ bundle.capturedAtUs
    && bundle.capturedBytes == contentBytes
    && (bundle.hasRecoverableContent || bundle.hasPartialFact)
    && unique bundle.triggerRequestIds
    && unique bundle.attemptAnchorIds
    && uniqueAnchorClaims bundle.attemptAnchorClaims
    && (bundle.attemptAnchorClaims.all fun claim => bundle.attemptAnchorIds.contains claim.attemptId)
    && (bundle.attemptAnchorClaims.isEmpty || bundle.isExactPatchOnlyAnchorShape)
    && uniqueValidRefs bundle.untrackedWorkArtifactRefs
    && uniqueValidRefs bundle.metadataOnlyWorkArtifactRefs
    && uniqueValidRefs bundle.configAndRunRefs
    && unique (bundle.contents.map RecoveryContentRef.itemRef)
    && uniqueOmissions bundle.omissions)
  ensure .invalidRecovery (bundle.captureStatus != .complete
    || (bundle.hasRecoverableContent && !bundle.hasPartialFact))
  ensure .invalidRecovery (bundle.captureStatus != .partial_ || bundle.hasPartialFact)

end RecoveryBundle

/-! ## The capture -/

/-- mirrors evertrace-engine/src/recovery.rs:1334-1340 -/
inductive RecoveryItemKind where
  | trackedDiff
  | trackedFile
  | indexState
  | untrackedFile
  deriving DecidableEq, Repr

/-- mirrors evertrace-engine/src/recovery.rs:1342-1350 -/
structure RecoveryCaptureItem where
  itemRef : String
  kind : RecoveryItemKind
  bytes : Bytes
  relativePath : Option Bytes
  critical : Bool
  metadataOnly : Bool
  deriving DecidableEq

/-- mirrors evertrace-engine/src/recovery.rs:1366-1381 -/
structure RecoveryCaptureFacts where
  snapshot : WorktreeSnapshot
  requestId : RecoveryCaptureRequestId
  adapterManifestId : String
  mutationManifestVersion : Nat
  beforeFingerprint : Option String
  afterFingerprint : Option String
  items : List RecoveryCaptureItem
  omissions : List RecoveryOmission
  artifactRefs : List String
  metadataArtifactRefs : List String
  configAndRunRefs : List String
  attemptAnchorIds : List AttemptId
  capturedAtUs : Int
  deriving DecidableEq

/-- mirrors evertrace-engine/src/recovery.rs:1383-1388 -/
structure RecoveryBudget where
  maxItemBytes : Nat
  maxUntrackedItemBytes : Nat
  maxBundleBytes : Nat
  deriving DecidableEq, Repr

/-- mirrors evertrace-engine/src/recovery.rs:1390-1422 -/
inductive RecoveryError where
  | invalidInput
  | protection
  | cas
  | budget
  | invalidBundle
  deriving DecidableEq, Repr

/-- What a capture calls: the keyed digest, the key store, the content store and
the fresh id of the bundle. -/
structure CaptureEnv where
  mac : HmacSha256
  /-- `keys.load` -/
  key : Option DeviceKey
  /-- `cas.put`: the digest under which the protected bytes are stored -/
  put : ProtectedPayload → Option Digest
  bundleId : RecoveryBundleId

def RecoveryItemKind.isFile : RecoveryItemKind → Bool
  | .trackedFile | .untrackedFile => true
  | .trackedDiff | .indexState => false

/-- mirrors evertrace-engine/src/recovery/bundle.rs:236-244 -/
def criticalReason : RecoveryItemKind → RecoveryOmissionReason
  | .indexState => .criticalIndexStateMissing
  | .trackedDiff | .trackedFile => .criticalTrackedStateMissing
  | .untrackedFile => .attemptAnchorMissing

/-- mirrors evertrace-engine/src/recovery/bundle.rs:109-113 -/
def RecoveryBudget.limit (budget : RecoveryBudget) (kind : RecoveryItemKind) : Nat :=
  if kind == .untrackedFile then budget.maxUntrackedItemBytes else budget.maxItemBytes

namespace RecoveryBundle

def omit_ (bundle : RecoveryBundle) (omission : RecoveryOmission) : RecoveryBundle :=
  { bundle with omissions := bundle.omissions ++ [omission] }

def list (bundle : RecoveryBundle) : RecoveryItemKind → List RecoveryContentRef
  | .trackedDiff => bundle.trackedDiffBlobRefs
  | .trackedFile => bundle.trackedFileBlobRefs
  | .indexState => bundle.indexStateRefs
  | .untrackedFile => bundle.untrackedFileBlobRefs

/-- mirrors evertrace-engine/src/recovery/bundle.rs:186-191 -/
def push (bundle : RecoveryBundle) (kind : RecoveryItemKind) (reference : RecoveryContentRef) (capturedBytes : Nat) :
    RecoveryBundle :=
  match kind with
  | .trackedDiff => { bundle with
      trackedDiffBlobRefs := bundle.trackedDiffBlobRefs ++ [reference], capturedBytes := capturedBytes }
  | .trackedFile => { bundle with
      trackedFileBlobRefs := bundle.trackedFileBlobRefs ++ [reference], capturedBytes := capturedBytes }
  | .indexState => { bundle with
      indexStateRefs := bundle.indexStateRefs ++ [reference], capturedBytes := capturedBytes }
  | .untrackedFile => { bundle with
      untrackedFileBlobRefs := bundle.untrackedFileBlobRefs ++ [reference], capturedBytes := capturedBytes }

/-- mirrors evertrace-engine/src/recovery/bundle.rs:70-84 -/
def deadlineReached (bundle : RecoveryBundle) : RecoveryBundle :=
  let omitted := if bundle.omissions.any fun value => value.itemRef == "recovery_barrier_deadline" then bundle
    else bundle.omit_ ⟨"recovery_barrier_deadline", .timeBudgetExceeded, none⟩
  { omitted with orderingIntegrity := .bestEffort }

/-- The omission for a worktree that changed, or that could not be compared.
mirrors evertrace-engine/src/recovery/bundle.rs:196-201, 204-209 -/
def breakFence (bundle : RecoveryBundle) (reason : RecoveryOmissionReason) (integrity : OrderingIntegrity) :
    RecoveryBundle :=
  { bundle.omit_ ⟨"worktree_mutation_fence", reason, none⟩ with orderingIntegrity := integrity }

/-- mirrors evertrace-engine/src/recovery/bundle.rs:193-211 -/
def checkFence (bundle : RecoveryBundle) (before after : Option String) : RecoveryBundle :=
  match before, after with
  | some before, some after => if before = after then bundle else bundle.breakFence .concurrentChange .raced
  | _, _ => bundle.breakFence .unreadable .bestEffort

/-- mirrors evertrace-engine/src/recovery/bundle.rs:212-214 -/
def settleStatus (bundle : RecoveryBundle) : RecoveryBundle :=
  if bundle.hasPartialFact then { bundle with captureStatus := .partial_ } else bundle

/-- mirrors evertrace-engine/src/recovery/bundle.rs:193-214 -/
def fenced (bundle : RecoveryBundle) (before after : Option String) : RecoveryBundle :=
  (bundle.checkFence before after).settleStatus

end RecoveryBundle

namespace CaptureEnv

variable (env : CaptureEnv)

/-- The reference to a payload that was stored under a digest.
mirrors evertrace-engine/src/recovery/bundle.rs:225-233 -/
def storedRef (payload : ProtectedPayload) (digest : Digest) : RecoveryProtectedRef where
  casRef := hex digest.bytes
  protectedLength := payload.protectedBytes.length
  originalLength := payload.rawLength
  protectedSecretDigest := payload.protectedSecretDigest.map fun digest => hex digest.bytes
  redactionSpans := payload.spans.length

/-- mirrors evertrace-engine/src/recovery/bundle.rs:221-234 -/
def protectedRef (payload : ProtectedPayload) : Except RecoveryError RecoveryProtectedRef := do
  let digest ← okOr .cas (env.put payload)
  ensure .budget (payload.protectedBytes.length < 2 ^ 64)
  ensure .protection (payload.spans.length < 2 ^ 32)
  return storedRef payload digest

/-- mirrors evertrace-engine/src/recovery/bundle.rs:125-137 -/
def pathPayload (key : DeviceKey) (item : RecoveryCaptureItem) : Except RecoveryError (Option ProtectedPayload) :=
  match item.kind.isFile, item.relativePath with
  | true, some path => ((protect env.mac path key).mapError fun _ => .protection).map some
  | true, none => .error .invalidBundle
  | false, none => .ok none
  | false, some _ => .error .invalidBundle

/-- mirrors evertrace-engine/src/recovery/bundle.rs:160-163 -/
def protectedPath : Option ProtectedPayload → Except RecoveryError (Option RecoveryProtectedRef)
  | none => .ok none
  | some path => (env.protectedRef path).map some

/-- Stores an item whose protected bytes are within the budget.
mirrors evertrace-engine/src/recovery/bundle.rs:159-191 -/
def storeItem (item : RecoveryCaptureItem) (payload : ProtectedPayload) (path : Option ProtectedPayload) (total : Nat)
    (bundle : RecoveryBundle) : Except RecoveryError RecoveryBundle := do
  let stored ← env.protectedRef payload
  let storedPath ← env.protectedPath path
  let bundle :=
    if stored.protectedSecretDigest.isSome || storedPath.any fun value => value.protectedSecretDigest.isSome then
      bundle.omit_ ⟨item.itemRef, .secretRedacted, some "protected_secret_digest"⟩
    else bundle
  let capturedBytes ← okOr .budget (addU64 bundle.capturedBytes total)
  return bundle.push item.kind ⟨item.itemRef, stored, storedPath⟩ capturedBytes

/-- Redacts an item and stores it if the budget allows.
mirrors evertrace-engine/src/recovery/bundle.rs:122-191 -/
def protectItem (budget : RecoveryBudget) (key : DeviceKey) (bundle : RecoveryBundle) (item : RecoveryCaptureItem) :
    Except RecoveryError RecoveryBundle := do
  let payload ← (protect env.mac item.bytes key).mapError fun _ => .protection
  ensure .budget (payload.protectedBytes.length < 2 ^ 64)
  let path ← env.pathPayload key item
  ensure .budget (((path.map fun value => value.protectedBytes.length).getD 0) < 2 ^ 64)
  let total ← okOr .budget (addU64 payload.protectedBytes.length
    ((path.map fun value => value.protectedBytes.length).getD 0))
  if (addU64 bundle.capturedBytes total).all fun value => decide (value > budget.maxBundleBytes) then
    .ok (bundle.omit_ ⟨item.itemRef, .bundleBudgetExceeded, none⟩)
  else env.storeItem item payload path total bundle

/-- mirrors evertrace-engine/src/recovery/bundle.rs:85-191 -/
def captureItem (budget : RecoveryBudget) (key : DeviceKey) (bundle : RecoveryBundle) (item : RecoveryCaptureItem) :
    Except RecoveryError RecoveryBundle :=
  if item.metadataOnly then .ok (bundle.omit_ ⟨item.itemRef, .unsupportedKind, some "metadata_only"⟩)
  else do
    ensure .budget (item.bytes.length < 2 ^ 64)
    if item.bytes.length == 0 && !item.kind.isFile then
      .ok (if item.critical then bundle.omit_ ⟨item.itemRef, criticalReason item.kind, none⟩ else bundle)
    else if item.bytes.length > budget.limit item.kind then
      .ok (bundle.omit_ ⟨item.itemRef, .fileTooLarge, none⟩)
    else env.protectItem budget key bundle item

/-- The loop over the items, which the deadline breaks off; `expired` tells for each item whether it has passed.
mirrors evertrace-engine/src/recovery/bundle.rs:69-192 -/
def captureItems (expired : Nat → Bool) (budget : RecoveryBudget) (key : DeviceKey) : Nat → RecoveryBundle → List RecoveryCaptureItem →
    Except RecoveryError RecoveryBundle
  | _, bundle, [] => .ok bundle
  | index, bundle, item :: items =>
    if expired index then .ok bundle.deadlineReached
    else do
      let bundle ← env.captureItem budget key bundle item
      captureItems expired budget key (index + 1) bundle items

/-- mirrors evertrace-engine/src/recovery/bundle.rs:46-68 -/
def emptyBundle (facts : RecoveryCaptureFacts) : RecoveryBundle where
  recoveryBundleId := env.bundleId
  sourceWorktreeInstanceId := facts.snapshot.worktreeInstanceId
  sourceSnapshotId := facts.snapshot.worktreeSnapshotId
  triggerRequestIds := [facts.requestId]
  trackedDiffBlobRefs := []
  trackedFileBlobRefs := []
  indexStateRefs := []
  untrackedFileBlobRefs := []
  untrackedWorkArtifactRefs := facts.artifactRefs
  metadataOnlyWorkArtifactRefs := facts.metadataArtifactRefs
  configAndRunRefs := facts.configAndRunRefs
  attemptAnchorIds := facts.attemptAnchorIds
  attemptAnchorClaims := []
  omissions := facts.omissions
  captureStatus := .complete
  orderingIntegrity := .complete
  adapterManifestId := facts.adapterManifestId
  eligibleMutationManifestVersion := facts.mutationManifestVersion
  eligibleMutationDomain := supportedMutationDomain
  capturedBytes := 0
  capturedAtUs := facts.capturedAtUs

/-- mirrors evertrace-engine/src/recovery/bundle.rs:28-219 -/
def captureRecoveryBundleUntil (expired : Nat → Bool) (facts : RecoveryCaptureFacts) (budget : RecoveryBudget) :
    Except RecoveryError RecoveryBundle := do
  ensure .invalidInput (budget.maxItemBytes != 0 && budget.maxUntrackedItemBytes != 0 && budget.maxBundleBytes != 0)
  facts.snapshot.validate.mapError fun _ => .invalidInput
  let key ← okOr .protection env.key
  let bundle ← env.captureItems expired budget key 0 (env.emptyBundle facts) facts.items
  let bundle := bundle.fenced facts.beforeFingerprint facts.afterFingerprint
  bundle.validate.mapError fun _ => .invalidBundle
  return bundle

/-- Without a deadline.
mirrors evertrace-engine/src/recovery/bundle.rs:19-26 -/
def captureRecoveryBundle (facts : RecoveryCaptureFacts) (budget : RecoveryBudget) : Except RecoveryError RecoveryBundle :=
  env.captureRecoveryBundleUntil (fun _ => false) facts budget

end CaptureEnv

end EverTrace.L2.Recovery
