import EverTrace.L1Encoding.Frame
import EverTrace.L2Machine.Draft
import EverTrace.L2Machine.Repository
/-!
# Recovery applications (`evertrace-domain/src/repository/recovery.rs`)

An application is a ticket to put captured content back into a worktree: it names
the bundle, the target and the content, and it is then filled in as the content is
delivered, observed and verified. Each revision checks itself
(`RecoveryApplication.validate`) and continues the one before it
(`RecoveryApplication.isSuccessorOf`).

A `u16`, `u32` or `u64` is a `Nat` and an `i64` an `Int`: nothing is added to them here.
-/
namespace EverTrace.L2.Recovery
open EverTrace.Lib EverTrace.L1 EverTrace.L2.Repository
open EverTrace.L2.Semantic (sortedUpTo)
open EverTrace.L2.Recall (hasControl strictlyIncreasing)
open EverTrace.L1.Frame (isLowerHex)

/-! ## References -/

/-- mirrors evertrace-domain/src/repository/recovery.rs:931-933 -/
def validRef (value : String) : Bool := utf8 value ≠ [] && (utf8 value).length ≤ 4096 && !hasControl value

/-- mirrors evertrace-domain/src/repository/recovery.rs:935-940 -/
def validDigest (value : String) : Bool := (utf8 value).length == 64 && (utf8 value).all isLowerHex

/-- mirrors evertrace-domain/src/repository/recovery.rs:942-944 -/
def validCasRef (value : String) : Bool :=
  ("cas:".toList.isPrefixOf value.toList && validDigest (String.ofList (value.toList.drop 4))) || validDigest value

/-- mirrors evertrace-domain/src/repository/recovery.rs:132-140 -/
structure RecoveryProtectedRef where
  casRef : String
  protectedLength : Nat
  originalLength : Nat
  protectedSecretDigest : Option String
  redactionSpans : Nat
  deriving DecidableEq

/-- mirrors evertrace-domain/src/repository/recovery.rs:164-177 -/
def RecoveryProtectedRef.validate (value : RecoveryProtectedRef) (nonempty : Bool) : Except RepositoryError Unit :=
  ensure .invalidRecovery (validCasRef value.casRef
    && !(nonempty && (value.protectedLength == 0 || value.originalLength == 0))
    && !(!nonempty && (value.protectedLength != 0) != (value.originalLength != 0))
    && value.protectedSecretDigest.all validDigest
    && (value.redactionSpans == 0) == value.protectedSecretDigest.isNone)

/-! ## Anchors of attempts -/

/-- mirrors evertrace-domain/src/work/attempt.rs:526-534 -/
inductive CompetingResolutionStatus where
  | open_
  | selected
  | partiallyIntegrated
  | rejectedAll
  | unresolved
  deriving DecidableEq, Repr

/-- mirrors evertrace-domain/src/repository/recovery.rs:379-389 -/
structure RecoveryConfinedFileIdentity where
  device : Nat
  inode : Nat
  size : Nat
  mtimeSeconds : Int
  mtimeNanoseconds : Nat
  ctimeSeconds : Int
  ctimeNanoseconds : Nat
  deriving DecidableEq

/-- mirrors evertrace-domain/src/repository/recovery.rs:391-397 -/
structure RecoveryCompetingGroupClaim where
  competingGroupId : CompetingAttemptGroupId
  revisionId : RevisionId
  resolutionStatus : CompetingResolutionStatus
  deriving DecidableEq

/-- mirrors evertrace-domain/src/repository/recovery.rs:399-411 -/
structure RecoveryAttemptAnchorClaim where
  attemptId : AttemptId
  attemptRevisionId : RevisionId
  strategyContractFingerprint : Digest
  sourceRepositoryInstanceId : RepositoryId
  sourceWorktreeInstanceId : WorktreeId
  sourceSnapshotId : WorktreeSnapshotId
  affectedRelativePath : RecoveryProtectedRef
  sourceFileIdentity : RecoveryConfinedFileIdentity
  competingGroups : List RecoveryCompetingGroupClaim
  deriving DecidableEq

/-- `[0; 32]` -/
def isZero (fingerprint : Digest) : Bool := fingerprint.bytes == List.replicate 32 0

/-- mirrors evertrace-domain/src/repository/recovery.rs:414-439 -/
def RecoveryAttemptAnchorClaim.validate (claim : RecoveryAttemptAnchorClaim) : Except RepositoryError Unit :=
  ensure .invalidRecovery (!isZero claim.strategyContractFingerprint
    && claim.affectedRelativePath.redactionSpans == 0
    && claim.affectedRelativePath.protectedSecretDigest.isNone
    && (claim.affectedRelativePath.validate true).isOk
    && claim.affectedRelativePath.originalLength != 0
    && claim.affectedRelativePath.originalLength ≤ 4096
    && claim.affectedRelativePath.protectedLength == claim.affectedRelativePath.originalLength
    && claim.sourceFileIdentity.device != 0
    && claim.sourceFileIdentity.inode != 0
    && claim.sourceFileIdentity.mtimeNanoseconds < 1000000000
    && claim.sourceFileIdentity.ctimeNanoseconds < 1000000000
    && claim.competingGroups.length ≤ 256
    && strictlyIncreasing (claim.competingGroups.map RecoveryCompetingGroupClaim.competingGroupId))

/-- mirrors evertrace-domain/src/repository/recovery.rs:954-960 -/
def uniqueAnchorClaims (values : List RecoveryAttemptAnchorClaim) : Bool :=
  values.length ≤ 256
    && (values.all fun value => value.validate.isOk)
    && strictlyIncreasing (values.map RecoveryAttemptAnchorClaim.attemptId)

/-! ## Applications -/

/-- mirrors evertrace-domain/src/repository/recovery.rs:442-449 -/
inductive RecoveryApplicationKind where
  | patch
  | fileRestore
  | indexRestore
  | mixed
  deriving DecidableEq, Repr

/-- mirrors evertrace-domain/src/repository/recovery.rs:451-458 -/
inductive RecoveryApplicationStatus where
  | applied
  | partiallyApplied
  | failed
  | unknown
  deriving DecidableEq, Repr

/-- mirrors evertrace-domain/src/repository/recovery.rs:460-467 -/
inductive RecoveryInputDeliveryKind where
  | patchStdin
  | confinedFileRestore
  | indexRestore
  | mixed
  deriving DecidableEq, Repr

/-- mirrors evertrace-domain/src/repository/recovery.rs:469-474 -/
inductive RecoveryInputDeliveryState where
  | admitted
  | delivered
  deriving DecidableEq, Repr

/-- mirrors evertrace-domain/src/repository/recovery.rs:476-482 -/
inductive RecoveryVerificationOutcome where
  | applied
  | partiallyApplied
  | notApplied
  deriving DecidableEq, Repr

/-- mirrors evertrace-domain/src/repository/recovery.rs:484-492 -/
structure RecoveryVerifierReceipt where
  verificationRevision : Nat
  verifierVersion : Nat
  resultSourceObservationId : SourceObservationId
  postApplicationSnapshotId : WorktreeSnapshotId
  outcome : RecoveryVerificationOutcome
  deriving DecidableEq

/-- mirrors evertrace-domain/src/repository/recovery.rs:494 -/
def recoveryAnchorVerifierVersion : Nat := 1

/-- mirrors evertrace-domain/src/repository/recovery.rs:496-520 -/
structure RecoveryAnchorVerifierReceipt where
  verifierVersion : Nat
  attemptId : AttemptId
  sourceAttemptRevisionId : RevisionId
  revalidatedAttemptRevisionId : RevisionId
  strategyContractFingerprint : Digest
  sourceRepositoryInstanceId : RepositoryId
  sourceWorktreeInstanceId : WorktreeId
  sourceSnapshotId : WorktreeSnapshotId
  targetRepositoryInstanceId : RepositoryId
  targetWorktreeInstanceId : WorktreeId
  postApplicationSnapshotId : WorktreeSnapshotId
  affectedRelativePath : RecoveryProtectedRef
  competingGroups : List RecoveryCompetingGroupClaim
  revalidatedCompetingGroups : List RecoveryCompetingGroupClaim
  operationId : OperationId
  operationRevision : Nat
  executionLaneId : ExecutionLaneId
  captureReceiptRevisionId : CaptureReceiptId
  scopeEffectIds : List ScopeEffectId
  resultSourceObservationId : SourceObservationId
  recoveryVerificationRevision : Nat
  deriving DecidableEq

/-- mirrors evertrace-domain/src/repository/recovery.rs:523-560 -/
def RecoveryAnchorVerifierReceipt.validate (receipt : RecoveryAnchorVerifierReceipt) : Except RepositoryError Unit :=
  ensure .invalidRecovery (receipt.verifierVersion == recoveryAnchorVerifierVersion
    && !isZero receipt.strategyContractFingerprint
    && receipt.sourceRepositoryInstanceId == receipt.targetRepositoryInstanceId
    && receipt.sourceWorktreeInstanceId != receipt.targetWorktreeInstanceId
    && receipt.operationRevision != 0
    && receipt.recoveryVerificationRevision != 0
    && sortedUpTo 256 receipt.scopeEffectIds
    && (receipt.affectedRelativePath.validate true).isOk
    && receipt.affectedRelativePath.redactionSpans == 0
    && receipt.affectedRelativePath.protectedSecretDigest.isNone
    && receipt.competingGroups.length ≤ 256
    && strictlyIncreasing (receipt.competingGroups.map RecoveryCompetingGroupClaim.competingGroupId)
    && (receipt.competingGroups.all fun source => receipt.revalidatedCompetingGroups.any fun current =>
      current.competingGroupId == source.competingGroupId)
    && strictlyIncreasing (receipt.revalidatedCompetingGroups.map RecoveryCompetingGroupClaim.competingGroupId)
    && receipt.revalidatedCompetingGroups.all fun group => group.resolutionStatus == .selected)

/-- mirrors evertrace-domain/src/repository/recovery.rs:565-591 -/
structure RecoveryApplication where
  recoveryApplicationId : RecoveryApplicationId
  revisionId : RevisionId
  parentRevisionId : Option RevisionId
  recoveryBundleId : RecoveryBundleId
  targetWorktreeInstanceId : WorktreeId
  preApplicationSnapshotId : WorktreeSnapshotId
  postApplicationSnapshotId : Option WorktreeSnapshotId
  applicationKind : RecoveryApplicationKind
  ticketClaimsVersion : Nat
  selectedCasRefs : List CasId
  inputDeliveryKind : RecoveryInputDeliveryKind
  inputDeliveryState : RecoveryInputDeliveryState
  operationId : Option OperationId
  operationRevision : Option Nat
  executionLaneId : Option ExecutionLaneId
  captureReceiptRevisionId : Option CaptureReceiptId
  scopeEffectIds : List ScopeEffectId
  inputSourceObservationIds : List SourceObservationId
  resultSourceObservationIds : List SourceObservationId
  verifierReceipts : List RecoveryVerifierReceipt
  relevantAttemptAnchorIds : List AttemptId
  attemptAnchorClaims : List RecoveryAttemptAnchorClaim
  anchorVerifierReceipts : List RecoveryAnchorVerifierReceipt
  applicationStatus : RecoveryApplicationStatus
  createdAtUs : Int
  deriving DecidableEq

/-- mirrors evertrace-domain/src/repository/recovery.rs:884-893 -/
def verifierOutcomeProgress : RecoveryVerificationOutcome → RecoveryVerificationOutcome → Bool
  | .partiallyApplied, _ => true
  | .applied, next => next == .applied
  | .notApplied, next => next == .notApplied

/-- With at most 16 receipts the conversion to a `u32` never fails.
mirrors evertrace-domain/src/repository/recovery.rs:871-882 -/
def validVerifierReceipts (values : List RecoveryVerifierReceipt) : Bool :=
  values.length ≤ 16 && values.zipIdx.all fun (value, index) =>
    value.verificationRevision == index + 1
      && value.verifierVersion == 1
      && (index == 0 || values[index - 1]?.all fun prior => verifierOutcomeProgress prior.outcome value.outcome)

/-- The status that an outcome stands for.
mirrors evertrace-domain/src/repository/recovery.rs:769-776 -/
def RecoveryVerificationOutcome.status : RecoveryVerificationOutcome → RecoveryApplicationStatus
  | .applied => .applied
  | .partiallyApplied => .partiallyApplied
  | .notApplied => .failed

/-- mirrors evertrace-domain/src/repository/recovery.rs:768-789 -/
def statusEvidenceIsValid (value : RecoveryApplication) : Bool :=
  if value.applicationStatus == .unknown then value.verifierReceipts.isEmpty
  else match value.verifierReceipts.getLast? with
    | none => false
    | some receipt =>
      value.inputDeliveryState == .delivered
        && value.resultSourceObservationIds == [receipt.resultSourceObservationId]
        && value.postApplicationSnapshotId.isSome
        && some receipt.postApplicationSnapshotId == value.postApplicationSnapshotId
        && (value.verifierReceipts.all fun candidate =>
          candidate.resultSourceObservationId == receipt.resultSourceObservationId
            && candidate.postApplicationSnapshotId == receipt.postApplicationSnapshotId)
        && receipt.outcome.status == value.applicationStatus

/-- A receipt of an anchor that speaks of the claim and of this application.
mirrors evertrace-domain/src/repository/recovery.rs:805-833 -/
def anchorReceiptAgrees (value : RecoveryApplication) (receipt : RecoveryAnchorVerifierReceipt) : Bool :=
  match value.attemptAnchorClaims.find? fun claim => claim.attemptId == receipt.attemptId with
  | none => false
  | some claim =>
    receipt.sourceAttemptRevisionId == claim.attemptRevisionId
      && receipt.strategyContractFingerprint == claim.strategyContractFingerprint
      && receipt.sourceRepositoryInstanceId == claim.sourceRepositoryInstanceId
      && receipt.sourceWorktreeInstanceId == claim.sourceWorktreeInstanceId
      && receipt.sourceSnapshotId == claim.sourceSnapshotId
      && receipt.affectedRelativePath == claim.affectedRelativePath
      && receipt.competingGroups == claim.competingGroups
      && receipt.targetWorktreeInstanceId == value.targetWorktreeInstanceId
      && some receipt.postApplicationSnapshotId == value.postApplicationSnapshotId
      && some receipt.operationId == value.operationId
      && some receipt.operationRevision == value.operationRevision
      && some receipt.executionLaneId == value.executionLaneId
      && some receipt.captureReceiptRevisionId == value.captureReceiptRevisionId
      && receipt.scopeEffectIds == value.scopeEffectIds
      && value.resultSourceObservationIds == [receipt.resultSourceObservationId]
      && value.verifierReceipts.any fun verifier =>
        verifier.verificationRevision == receipt.recoveryVerificationRevision
          && verifier.outcome == .applied
          && verifier.resultSourceObservationId == receipt.resultSourceObservationId
          && verifier.postApplicationSnapshotId == receipt.postApplicationSnapshotId

/-- mirrors evertrace-domain/src/repository/recovery.rs:791-835 -/
def validAnchorVerifierReceipts (value : RecoveryApplication) : Bool :=
  value.anchorVerifierReceipts.length ≤ 256
    && strictlyIncreasing (value.anchorVerifierReceipts.map RecoveryAnchorVerifierReceipt.attemptId)
    && (value.anchorVerifierReceipts.all fun receipt => receipt.validate.isOk)
    && value.anchorVerifierReceipts.all (anchorReceiptAgrees value)

namespace RecoveryApplication

/-- Nothing has been reported yet: what the first revision and every admitted one must be like.
mirrors evertrace-domain/src/repository/recovery.rs:625-633, 638-647 -/
def untouched (value : RecoveryApplication) : Bool :=
  value.inputDeliveryState == .admitted
    && value.applicationStatus == .unknown
    && value.postApplicationSnapshotId.isNone
    && value.operationId.isNone
    && value.executionLaneId.isNone
    && value.captureReceiptRevisionId.isNone
    && value.scopeEffectIds.isEmpty
    && value.inputSourceObservationIds.isEmpty
    && value.resultSourceObservationIds.isEmpty
    && value.verifierReceipts.isEmpty
    && value.anchorVerifierReceipts.isEmpty

/-- mirrors evertrace-domain/src/repository/recovery.rs:598-603 -/
def deliveredShape (value : RecoveryApplication) : Bool :=
  value.inputDeliveryState == .delivered
    && value.operationId.isSome
    && value.executionLaneId.isSome
    && value.captureReceiptRevisionId.isSome
    && !value.scopeEffectIds.isEmpty
    && !value.inputSourceObservationIds.isEmpty

/-- mirrors evertrace-domain/src/repository/recovery.rs:596-597 -/
def operationShape (value : RecoveryApplication) : Bool :=
  value.operationId.isSome == value.operationRevision.isSome && value.operationRevision.all fun revision => 0 < revision

/-- mirrors evertrace-domain/src/repository/recovery.rs:594-653 -/
def validate (value : RecoveryApplication) : Except RepositoryError Unit :=
  ensure .invalidRecovery (0 ≤ value.createdAtUs
    && value.ticketClaimsVersion != 0
    && !value.selectedCasRefs.isEmpty
    && sortedUpTo 256 value.selectedCasRefs
    && sortedUpTo 256 value.scopeEffectIds
    && sortedUpTo 256 value.inputSourceObservationIds
    && sortedUpTo 256 value.resultSourceObservationIds
    && validVerifierReceipts value.verifierReceipts
    && sortedUpTo 256 value.relevantAttemptAnchorIds
    && uniqueAnchorClaims value.attemptAnchorClaims
    && (value.attemptAnchorClaims.all fun claim => value.relevantAttemptAnchorIds.contains claim.attemptId)
    && validAnchorVerifierReceipts value
    && (value.anchorVerifierReceipts.isEmpty || value.applicationStatus == .applied)
    && value.operationShape
    && (!value.parentRevisionId.isNone || value.untouched)
    && (value.parentRevisionId.isNone || value.inputDeliveryState != .delivered || value.deliveredShape)
    && (value.inputDeliveryState != .admitted || value.untouched)
    && statusEvidenceIsValid value)

end RecoveryApplication

/-! ## Successors -/

/-- mirrors evertrace-domain/src/repository/recovery.rs:902-909 -/
def deliveryProgress (current next : RecoveryInputDeliveryState) : Bool :=
  current == next || (current == .admitted && next == .delivered)

/-- mirrors evertrace-domain/src/repository/recovery.rs:911-913 -/
def optionCompatible {α : Type} [DecidableEq α] (current next : Option α) : Bool :=
  current.isNone || decide (current = next)

/-- mirrors evertrace-domain/src/repository/recovery.rs:915-917 -/
def optionProgress {α : Type} (current next : Option α) : Bool := current.isNone && next.isSome

/-- mirrors evertrace-domain/src/repository/recovery.rs:923-925 -/
def containsAll {α : Type} [DecidableEq α] (values required : List α) : Bool :=
  required.all fun value => values.contains value

/-- mirrors evertrace-domain/src/repository/recovery.rs:927-929 -/
def strictSuperset {α : Type} [DecidableEq α] (current next : List α) : Bool :=
  current.length < next.length && containsAll next current

/-- mirrors evertrace-domain/src/repository/recovery.rs:895-900 -/
def verifierHistoryProgress (current next : List RecoveryVerifierReceipt) : Bool :=
  next.length == current.length + 1 && current.isPrefixOf next

/-- mirrors evertrace-domain/src/repository/recovery.rs:846-863 -/
def sameAnchor (prior successor : RecoveryAnchorVerifierReceipt) : Bool :=
  prior.attemptId == successor.attemptId
    && prior.sourceAttemptRevisionId == successor.sourceAttemptRevisionId
    && prior.strategyContractFingerprint == successor.strategyContractFingerprint
    && prior.sourceRepositoryInstanceId == successor.sourceRepositoryInstanceId
    && prior.sourceWorktreeInstanceId == successor.sourceWorktreeInstanceId
    && prior.sourceSnapshotId == successor.sourceSnapshotId
    && prior.targetRepositoryInstanceId == successor.targetRepositoryInstanceId
    && prior.targetWorktreeInstanceId == successor.targetWorktreeInstanceId
    && prior.postApplicationSnapshotId == successor.postApplicationSnapshotId
    && prior.affectedRelativePath == successor.affectedRelativePath
    && prior.competingGroups == successor.competingGroups
    && prior.operationId == successor.operationId
    && prior.operationRevision == successor.operationRevision
    && prior.executionLaneId == successor.executionLaneId
    && prior.captureReceiptRevisionId == successor.captureReceiptRevisionId
    && prior.scopeEffectIds == successor.scopeEffectIds
    && prior.resultSourceObservationId == successor.resultSourceObservationId
    && prior.recoveryVerificationRevision == successor.recoveryVerificationRevision

/-- mirrors evertrace-domain/src/repository/recovery.rs:837-869 -/
def anchorReceiptRevalidationProgress (current next : List RecoveryAnchorVerifierReceipt) : Bool :=
  if current.isEmpty then !next.isEmpty
  else current.length == next.length
    && ((current.zip next).all fun (prior, successor) => sameAnchor prior successor)
    && (current.zip next).any fun (prior, successor) =>
      prior.revalidatedAttemptRevisionId != successor.revalidatedAttemptRevisionId
        || prior.revalidatedCompetingGroups != successor.revalidatedCompetingGroups

namespace RecoveryApplication

/-- mirrors evertrace-domain/src/repository/recovery.rs:681-702 -/
def evidenceProgress (current next : RecoveryApplication) : Bool :=
  next.inputDeliveryState != current.inputDeliveryState
    || optionProgress current.operationId next.operationId
    || optionProgress current.executionLaneId next.executionLaneId
    || optionProgress current.captureReceiptRevisionId next.captureReceiptRevisionId
    || strictSuperset current.scopeEffectIds next.scopeEffectIds
    || strictSuperset current.inputSourceObservationIds next.inputSourceObservationIds
    || strictSuperset current.resultSourceObservationIds next.resultSourceObservationIds
    || optionProgress current.postApplicationSnapshotId next.postApplicationSnapshotId
    || verifierHistoryProgress current.verifierReceipts next.verifierReceipts
    || anchorReceiptRevalidationProgress current.anchorVerifierReceipts next.anchorVerifierReceipts

/-- mirrors evertrace-domain/src/repository/recovery.rs:703-707 -/
def verificationProgress (current next : RecoveryApplication) : Bool :=
  optionProgress current.postApplicationSnapshotId next.postApplicationSnapshotId
    || verifierHistoryProgress current.verifierReceipts next.verifierReceipts

/-- The ticket is the same.
mirrors evertrace-domain/src/repository/recovery.rs:708-719 -/
def sameTicket (current next : RecoveryApplication) : Bool :=
  next.recoveryApplicationId == current.recoveryApplicationId
    && next.revisionId != current.revisionId
    && next.parentRevisionId == some current.revisionId
    && next.recoveryBundleId == current.recoveryBundleId
    && next.targetWorktreeInstanceId == current.targetWorktreeInstanceId
    && next.preApplicationSnapshotId == current.preApplicationSnapshotId
    && next.applicationKind == current.applicationKind
    && next.ticketClaimsVersion == current.ticketClaimsVersion
    && next.selectedCasRefs == current.selectedCasRefs
    && next.relevantAttemptAnchorIds == current.relevantAttemptAnchorIds
    && next.attemptAnchorClaims == current.attemptAnchorClaims
    && next.inputDeliveryKind == current.inputDeliveryKind

/-- What was reported stays reported.
mirrors evertrace-domain/src/repository/recovery.rs:720-744 -/
def keepsReports (current next : RecoveryApplication) : Bool :=
  deliveryProgress current.inputDeliveryState next.inputDeliveryState
    && optionCompatible current.operationId next.operationId
    && optionCompatible current.operationRevision next.operationRevision
    && optionCompatible current.executionLaneId next.executionLaneId
    && optionCompatible current.captureReceiptRevisionId next.captureReceiptRevisionId
    && containsAll next.scopeEffectIds current.scopeEffectIds
    && containsAll next.inputSourceObservationIds current.inputSourceObservationIds
    && containsAll next.resultSourceObservationIds current.resultSourceObservationIds
    && optionCompatible current.postApplicationSnapshotId next.postApplicationSnapshotId
    && (decide (next.verifierReceipts = current.verifierReceipts)
      || verifierHistoryProgress current.verifierReceipts next.verifierReceipts)
    && (decide (next.anchorVerifierReceipts = current.anchorVerifierReceipts)
      || anchorReceiptRevalidationProgress current.anchorVerifierReceipts next.anchorVerifierReceipts)

/-- mirrors evertrace-domain/src/repository/recovery.rs:745-763 -/
def statusProgress (current next : RecoveryApplication) : Bool :=
  match current.applicationStatus with
  | .applied => next.applicationStatus == .applied && (verificationProgress current next
    || anchorReceiptRevalidationProgress current.anchorVerifierReceipts next.anchorVerifierReceipts)
  | .failed => next.applicationStatus == .failed && verificationProgress current next
  | .partiallyApplied =>
    (next.applicationStatus == .partiallyApplied || next.applicationStatus == .applied
      || next.applicationStatus == .failed) && evidenceProgress current next
  | .unknown => evidenceProgress current next

/-- mirrors evertrace-domain/src/repository/recovery.rs:673-765 -/
def isSuccessorOf (next current : RecoveryApplication) : Bool :=
  next.validate.isOk && current.validate.isOk
    && sameTicket current next
    && keepsReports current next
    && statusProgress current next
    && current.createdAtUs ≤ next.createdAtUs

end RecoveryApplication

end EverTrace.L2.Recovery
