import EverTrace.L1Encoding.Canonical
import EverTrace.L2Machine.Draft
/-!
# Revision proposals (`evertrace-domain/src/semantic/proposal.rs`)

A proposal is a chain of revisions. Its fingerprint is a digest of what is
proposed; the digest and the TOML serializer are parameters. There are three
successor rules: the ordinary one freezes the content, a deferred proposal may
come back on a new base, and a background review (`procedure_review_v1`) may
change the content of a procedure proposal but not its status.

Results:
* `Follows`, `validateSuccessor_follows`: what all three rules keep, in one statement.
-/
namespace EverTrace.L2.Semantic
open EverTrace.Lib EverTrace.L1 EverTrace.L1.Canonical EverTrace.L2.Recall

/-! ## Payloads -/

/-- mirrors evertrace-domain/src/semantic/proposal.rs:31-37 -/
inductive ProposalTargetKind where
  | procedure
  | atom
  | coreMembership
  deriving DecidableEq, Repr

/-- mirrors evertrace-domain/src/semantic/proposal.rs:40-46 -/
def ProposalTargetKind.asStr : ProposalTargetKind → String
  | .procedure => "procedure"
  | .atom => "atom"
  | .coreMembership => "core_membership"

/-- mirrors evertrace-domain/src/semantic/proposal.rs:49-60 -/
inductive ProposalTargetId where
  | procedure (id : ProcedureId)
  | atom (id : AtomId)
  | coreMembership (id : CoreMembershipId)
  deriving DecidableEq

/-- mirrors evertrace-domain/src/semantic/proposal.rs:63-69 -/
def ProposalTargetId.kind : ProposalTargetId → ProposalTargetKind
  | .procedure _ => .procedure
  | .atom _ => .atom
  | .coreMembership _ => .coreMembership

/-- The id as `recompute_fingerprint` writes it. -/
def ProposalTargetId.toText : ProposalTargetId → String
  | .procedure id => id.toText
  | .atom id => id.toText
  | .coreMembership id => id.toText

/-- mirrors evertrace-domain/src/semantic/proposal.rs:72-81 -/
inductive ProposalOperation where
  | create
  | replace
  | merge
  | split
  | deprecate
  | reclassify
  deriving DecidableEq, Repr

/-- mirrors evertrace-domain/src/semantic/proposal.rs:84-93 -/
def ProposalOperation.asStr : ProposalOperation → String
  | .create => "create"
  | .replace => "replace"
  | .merge => "merge"
  | .split => "split"
  | .deprecate => "deprecate"
  | .reclassify => "reclassify"

/-- mirrors evertrace-domain/src/semantic/proposal.rs:96-118 -/
inductive AtomProposalPayload where
  | create (draft : AtomDraft)
  | replace (draft : AtomDraft)
  | merge (draft : AtomDraft) (mergedRevisionRefs : List RevisionId)
  | split (drafts : List AtomDraft)
  | deprecate (reason : String)
  | reclassify (draft : AtomDraft)
  deriving DecidableEq

/-- mirrors evertrace-domain/src/semantic/proposal.rs:121-130 -/
def AtomProposalPayload.operation : AtomProposalPayload → ProposalOperation
  | .create _ => .create
  | .replace _ => .replace
  | .merge _ _ => .merge
  | .split _ => .split
  | .deprecate _ => .deprecate
  | .reclassify _ => .reclassify

/-- mirrors evertrace-domain/src/semantic/proposal.rs:802-804 -/
def validReviewText (value : String) : Bool :=
  utf8 value ≠ [] && (utf8 value).length ≤ 2048 && !value.toList.contains '\x00'

/-- mirrors evertrace-domain/src/semantic/proposal.rs:132-167 -/
def AtomProposalPayload.validate : AtomProposalPayload → Except SemanticError Unit
  | .create draft | .replace draft | .reclassify draft => draft.validateUnprivileged
  | .merge draft mergedRevisionRefs => do
    draft.validateUnprivileged
    ensure .invalidProposal (2 ≤ mergedRevisionRefs.length && sortedUpTo 256 mergedRevisionRefs)
  | .split drafts => do
    ensure .invalidProposal (2 ≤ drafts.length && drafts.length ≤ 16)
    drafts.forM AtomDraft.validateUnprivileged
  | .deprecate reason => ensure .invalidProposal (validReviewText reason)

/-- mirrors evertrace-domain/src/semantic/proposal.rs:187-192 -/
inductive ProcedureProposalPayload where
  | create (draft : ProcedureDraft)
  | replace (draft : ProcedureDraft)
  deriving DecidableEq

/-- mirrors evertrace-domain/src/semantic/proposal.rs:195-200 -/
def ProcedureProposalPayload.operation : ProcedureProposalPayload → ProposalOperation
  | .create _ => .create
  | .replace _ => .replace

/-- mirrors evertrace-domain/src/semantic/proposal.rs:202-206 -/
def ProcedureProposalPayload.draft : ProcedureProposalPayload → ProcedureDraft
  | .create draft | .replace draft => draft

/-- mirrors evertrace-domain/src/semantic/scenario_core.rs:157-162 -/
inductive CoreScopeIdentity where
  | global
  | repository (id : RepositoryId)
  deriving DecidableEq

/-- mirrors evertrace-domain/src/semantic/proposal.rs:209-221 -/
inductive CoreMembershipProposalPayload where
  | create (atomRevisionId : RevisionId) (scopeIdentity : CoreScopeIdentity)
  | resolveConflict (leftAtomRevisionId rightAtomRevisionId : RevisionId) (scopeIdentity : CoreScopeIdentity)
  deriving DecidableEq

/-- mirrors evertrace-domain/src/semantic/proposal.rs:170-185 -/
inductive ProposalPayload where
  | atom (payload : AtomProposalPayload)
  | procedure (payload : ProcedureProposalPayload)
  | coreMembership (payload : CoreMembershipProposalPayload)
  | reservedTarget (schemaVersion : Nat) (summary : String)
  deriving DecidableEq

/-- mirrors evertrace-domain/src/semantic/proposal.rs:232-253 -/
def ProposalPayload.validate (payload : ProposalPayload) (targetKind : ProposalTargetKind) :
    Except SemanticError Unit :=
  match targetKind, payload with
  | .atom, .atom payload => payload.validate
  | .procedure, .procedure payload => payload.draft.validate
  | .coreMembership, .coreMembership payload =>
    match payload with
    | .resolveConflict left right _ => ensure .invalidProposal (left != right)
    | .create _ _ => .ok ()
  | .coreMembership, .reservedTarget schemaVersion summary =>
    ensure .invalidProposal (schemaVersion == 1 && validReviewText summary)
  | _, _ => .error .invalidProposal

/-! ## Proposals -/

/-- mirrors evertrace-domain/src/semantic/proposal.rs:256-262 -/
inductive ProposalEligibility where
  | manualRequired
  | autoEligible
  | autoEligibleFull
  deriving DecidableEq, Repr

/-- mirrors evertrace-domain/src/semantic/proposal.rs:264-273 -/
inductive ProposalStatus where
  | pending
  | validating
  | accepted
  | rejected
  | deferred
  | superseded
  deriving DecidableEq, Repr

/-- mirrors evertrace-domain/src/semantic/proposal.rs:291-296 -/
def ProposalStatus.isTerminal : ProposalStatus → Bool
  | .accepted | .rejected | .deferred | .superseded => true
  | .pending | .validating => false

/-- mirrors evertrace-domain/src/semantic/proposal.rs:299-307 -/
inductive ProposalWaitingOn where
  | newEvidence
  | targetRevisionChange
  | objectiveVerifier
  | conflictResolution
  | manualReview
  deriving DecidableEq, Repr

instance : LinearOrder ProposalWaitingOn :=
  LinearOrder.lift' ProposalWaitingOn.ctorIdx fun a b h => by cases a <;> cases b <;> first | rfl | cases h

/-- mirrors evertrace-domain/src/semantic/proposal.rs:309-315 -/
inductive ProposalCreatedBy where
  | system
  | user
  | agent
  deriving DecidableEq, Repr

/-- mirrors evertrace-domain/src/semantic/proposal.rs:317-330 -/
inductive ProposalAcceptanceAuthority where
  | currentTaskExactMessage (userSourceObservationRef : SourceObservationId)
  | tuiAcceptance (userSourceObservationRef : SourceObservationId) (authorizedScopeCeiling : AtomScope)
  | objectiveEvidence (userSourceObservationRef : SourceObservationId)
  deriving DecidableEq

/-- The optional audit of a procedure is left out: nothing here reads it.
mirrors evertrace-domain/src/semantic/proposal.rs:344-361 -/
inductive AcceptedProposalTarget where
  | atom (atomId : AtomId) (atomRevisionId : RevisionId) (structureHash : Digest)
  | coreMembership (coreMembershipId : CoreMembershipId) (membershipRevisionId : RevisionId)
  | procedure (procedureId : ProcedureId) (procedureRevisionId : RevisionId)
  deriving DecidableEq

def AcceptedProposalTarget.kind : AcceptedProposalTarget → ProposalTargetKind
  | .atom _ _ _ => .atom
  | .coreMembership _ _ => .coreMembership
  | .procedure _ _ => .procedure

/-- mirrors evertrace-domain/src/semantic/proposal.rs:332-342 -/
structure ProposalAcceptance where
  reviewerIdentity : String
  acceptanceEventRef : String
  reviewedProposalRevisionId : RevisionId
  reviewedFingerprint : Digest
  acceptedTarget : AcceptedProposalTarget
  authorityBasis : ProposalAcceptanceAuthority
  acceptedAtUs : Int
  deriving DecidableEq

/-- mirrors evertrace-domain/src/semantic/proposal.rs:379-387 -/
def ProposalAcceptance.validate (acceptance : ProposalAcceptance) : Except SemanticError Unit :=
  ensure .invalidProposal (validIdentifier acceptance.reviewerIdentity
    && validIdentifier acceptance.acceptanceEventRef
    && 0 ≤ acceptance.acceptedAtUs)

/-- mirrors evertrace-domain/src/semantic/proposal.rs:390-413 -/
structure RevisionProposal where
  proposalId : RevisionProposalId
  proposalRevisionId : RevisionId
  parentProposalRevisionId : Option RevisionId
  targetKind : ProposalTargetKind
  targetId : Option ProposalTargetId
  baseRevisionId : Option RevisionId
  operation : ProposalOperation
  payload : ProposalPayload
  evidenceRefs : List String
  sourceCohortRefs : List String
  sourceCohortHash : Digest
  fingerprint : Digest
  eligibility : ProposalEligibility
  status : ProposalStatus
  waitingOn : List ProposalWaitingOn
  reviewReason : Option String
  createdBy : ProposalCreatedBy
  acceptance : Option ProposalAcceptance
  createdAtUs : Int
  reviewedAtUs : Option Int
  deriving DecidableEq

/-- The hash and the serializer the contracts call: SHA-256 and `toml::to_string`, which may fail. -/
structure ProposalHashing where
  sha : Sha256
  toml : ProposalPayload → Option String

namespace RevisionProposal

variable (P : ProposalHashing)

/-- mirrors evertrace-domain/src/semantic/proposal.rs:737-750 -/
def recomputeSourceCohortHash (p : RevisionProposal) : Except SemanticError Digest :=
  (sha256 P.sha "revision_proposal_source_cohort_v1" 1 (.sequence (p.sourceCohortRefs.map .string))).mapError
    fun _ => .invalidProposal

/-- mirrors evertrace-domain/src/semantic/proposal.rs:758-788 -/
def fingerprintValue (p : RevisionProposal) (serialized : String) : CanonicalValue :=
  .map [
    ("target_kind", .string p.targetKind.asStr),
    ("target_id", p.targetId.elim .null fun value => .string value.toText),
    ("base_revision_id", p.baseRevisionId.elim .null fun value => .string value.toText),
    ("operation", .string p.operation.asStr),
    ("payload", .string serialized),
    ("source_cohort_hash", .bytes p.sourceCohortHash.bytes)]

/-- mirrors evertrace-domain/src/semantic/proposal.rs:752-791 -/
def recomputeFingerprint (p : RevisionProposal) : Except SemanticError Digest := do
  let serialized ← okOr .invalidProposal (P.toml p.payload)
  (sha256 P.sha "revision_proposal_fingerprint_v1" 1 (p.fingerprintValue serialized)).mapError
    fun _ => .invalidProposal

/-- mirrors evertrace-domain/src/semantic/proposal.rs:545-571 -/
def validateShape (p : RevisionProposal) : Except SemanticError Unit := do
  match p.payload with
  | .atom payload => ensure .invalidProposal (payload.operation == p.operation)
  | .procedure payload => ensure .invalidProposal (payload.operation == p.operation)
  | .coreMembership _ => ensure .invalidProposal (p.operation == .create)
  | .reservedTarget _ _ => .ok ()
  match p.operation with
  | .create => ensure .invalidProposal (p.targetId.isNone && p.baseRevisionId.isNone)
  | _ => ensure .invalidProposal (p.targetId.isSome && p.baseRevisionId.isSome)

/-- mirrors evertrace-domain/src/semantic/proposal.rs:588-616 -/
def validateAcceptance (p : RevisionProposal) (acceptance : ProposalAcceptance) : Except SemanticError Unit := do
  match p.payload with
  | .coreMembership (.resolveConflict _ _ _) => .error .invalidProposal
  | _ => .ok ()
  acceptance.validate
  ensure .invalidProposal (acceptance.acceptedTarget.kind == p.targetKind
    && acceptance.reviewedFingerprint == p.fingerprint
    && acceptance.reviewedProposalRevisionId != p.proposalRevisionId)

/-- mirrors evertrace-domain/src/semantic/proposal.rs:573-618 -/
def validateStatus (p : RevisionProposal) : Except SemanticError Unit := do
  if p.status = .deferred then ensure .invalidProposal (!p.waitingOn.isEmpty && p.reviewedAtUs.isSome)
  else ensure .invalidProposal p.waitingOn.isEmpty
  ensure .invalidProposal (p.status.isTerminal == p.reviewedAtUs.isSome
    && (p.status == .accepted) == p.acceptance.isSome)
  match p.acceptance with
  | none => .ok ()
  | some acceptance => p.validateAcceptance acceptance

/-- The checks on the fields themselves.
mirrors evertrace-domain/src/semantic/proposal.rs:510-533 -/
def fieldsValid (p : RevisionProposal) : Bool :=
  0 ≤ p.createdAtUs
    && p.reviewedAtUs.all (fun reviewed => p.createdAtUs ≤ reviewed)
    && !p.evidenceRefs.isEmpty
    && sortedUpTo 256 p.evidenceRefs
    && !p.sourceCohortRefs.isEmpty
    && sortedUpTo 256 p.sourceCohortRefs
    && (p.evidenceRefs ++ p.sourceCohortRefs).all validIdentifier
    && sortedUpTo 256 p.waitingOn
    && p.reviewReason.all validReviewText
    && p.targetId.all (fun target => target.kind == p.targetKind)

/-- mirrors evertrace-domain/src/semantic/proposal.rs:508-542 -/
def validate (p : RevisionProposal) : Except SemanticError Unit := do
  p.payload.validate p.targetKind
  ensure .invalidProposal p.fieldsValid
  let sourceCohortHash ← p.recomputeSourceCohortHash P
  ensure .invalidProposal (p.sourceCohortHash == sourceCohortHash)
  let fingerprint ← p.recomputeFingerprint P
  ensure .invalidProposal (p.fingerprint == fingerprint)
  ensure .invalidProposal (p.parentProposalRevisionId.isSome || p.status == .pending)
  p.validateShape
  p.validateStatus

/-! ## Successors -/

/-- mirrors evertrace-domain/src/semantic/proposal.rs:877-879 -/
def isStrictSuperset (values required : List String) : Bool :=
  required.length < values.length && containsAll values required

/-- What both ordinary rules ask first.
mirrors evertrace-domain/src/semantic/proposal.rs:627-640 -/
def followsOpen (p next : RevisionProposal) : Bool :=
  p.proposalId == next.proposalId
    && next.parentProposalRevisionId == some p.proposalRevisionId
    && p.targetKind == next.targetKind
    && p.targetId == next.targetId
    && p.createdAtUs ≤ next.createdAtUs
    && !(p.status == .accepted || p.status == .rejected || p.status == .superseded)

/-- A deferred proposal comes back when what it waited for changed.
mirrors evertrace-domain/src/semantic/proposal.rs:642-658 -/
def reopens (p next : RevisionProposal) : Bool :=
  (p.waitingOn != next.waitingOn
      && (p.baseRevisionId != next.baseRevisionId
        || p.sourceCohortHash != next.sourceCohortHash
        || isStrictSuperset next.evidenceRefs p.evidenceRefs))
    && (next.status == .pending || next.status == .validating)
    && p.operation == next.operation
    && p.payload == next.payload
    && p.eligibility == next.eligibility
    && p.createdBy == next.createdBy
    && containsAll next.evidenceRefs p.evidenceRefs

/-- mirrors evertrace-domain/src/semantic/proposal.rs:671-689 -/
def ordinaryStatus : ProposalStatus → ProposalStatus → Bool
  | .pending, .pending | .pending, .validating | .pending, .rejected | .pending, .deferred
  | .pending, .superseded => true
  | .validating, .validating | .validating, .accepted | .validating, .rejected | .validating, .deferred
  | .validating, .superseded => true
  | _, _ => false

/-- The content stays; the status moves on, or something else is new.
mirrors evertrace-domain/src/semantic/proposal.rs:660-696 -/
def advances (p next : RevisionProposal) : Bool :=
  p.baseRevisionId == next.baseRevisionId
    && p.operation == next.operation
    && p.payload == next.payload
    && p.sourceCohortRefs == next.sourceCohortRefs
    && p.sourceCohortHash == next.sourceCohortHash
    && p.fingerprint == next.fingerprint
    && p.createdBy == next.createdBy
    && containsAll next.evidenceRefs p.evidenceRefs
    && ordinaryStatus p.status next.status
    && !(p.status == next.status && p.eligibility == next.eligibility
      && !isStrictSuperset next.evidenceRefs p.evidenceRefs)

/-- mirrors evertrace-domain/src/semantic/proposal.rs:710-733 -/
def reviewed (p next : RevisionProposal) (before after : ProcedureDraft) : Bool :=
  (p.status == .pending || p.status == .validating)
    && next.status == p.status
    && p.proposalId == next.proposalId
    && next.parentProposalRevisionId == some p.proposalRevisionId
    && p.proposalRevisionId != next.proposalRevisionId
    && p.targetKind == next.targetKind
    && p.targetId == next.targetId
    && p.baseRevisionId == next.baseRevisionId
    && p.operation == next.operation
    && p.createdBy == next.createdBy
    && containsAll next.sourceCohortRefs p.sourceCohortRefs
    && containsAll next.evidenceRefs p.evidenceRefs
    && before.scope == after.scope
    && containsAll after.evidenceRefs before.evidenceRefs
    && before.supportRevisionRefs == after.supportRevisionRefs
    && next.eligibility == .manualRequired
    && p.createdAtUs ≤ next.createdAtUs
    && next.reviewReason == some "procedure_review_v1"
    && p.payload != next.payload

/-- mirrors evertrace-domain/src/semantic/proposal.rs:703-735 -/
def validateProcedureReviewSuccessor (p next : RevisionProposal) : Except SemanticError Unit := do
  next.validate P
  match p.payload, next.payload with
  | .procedure before, .procedure after =>
    ensure .invalidProposalSuccessor (p.reviewed next before.draft after.draft)
  | _, _ => .error .invalidProposalSuccessor

/-- mirrors evertrace-domain/src/semantic/proposal.rs:620-699 -/
def validateSuccessor (p next : RevisionProposal) : Except SemanticError Unit :=
  if p.payload ≠ next.payload ∧ next.reviewReason = some "procedure_review_v1" then
    p.validateProcedureReviewSuccessor P next
  else do
    next.validate P
    ensure .invalidProposalSuccessor (p.followsOpen next)
    if p.status = .deferred then ensure .invalidProposalSuccessor (p.reopens next)
    else ensure .invalidProposalSuccessor (p.advances next)

/-- Accepted, rejected and superseded proposals are closed for good. -/
def isClosed (p : RevisionProposal) : Bool :=
  p.status == .accepted || p.status == .rejected || p.status == .superseded

/-- What holds of a revision and its successor, whichever rule let it pass. -/
structure Follows (p next : RevisionProposal) : Prop where
  valid : next.validate P = .ok ()
  sameProposal : p.proposalId = next.proposalId
  parent : next.parentProposalRevisionId = some p.proposalRevisionId
  wasLive : p.isClosed = false
  evidence : ∀ ref ∈ p.evidenceRefs, ref ∈ next.evidenceRefs
  newPayload : p.payload ≠ next.payload → next.eligibility = .manualRequired ∧ next.status = p.status
  acceptance : next.status = .accepted → p.status = .validating ∧ p.payload = next.payload ∧
    p.baseRevisionId = next.baseRevisionId ∧ p.operation = next.operation ∧
    p.sourceCohortRefs = next.sourceCohortRefs ∧ p.sourceCohortHash = next.sourceCohortHash ∧
    p.fingerprint = next.fingerprint

theorem containsAll_iff {α : Type} [DecidableEq α] {values required : List α} :
    containsAll values required = true ↔ ∀ a ∈ required, a ∈ values := by
  simp [containsAll]

variable {P}

theorem reviewed_follows {p next : RevisionProposal} {before after : ProcedureDraft}
    (hvalid : next.validate P = .ok ()) (h : p.reviewed next before after = true) : p.Follows P next := by
  simp only [reviewed, Bool.and_eq_true, Bool.or_eq_true, beq_iff_eq, bne_iff_ne, containsAll_iff, and_assoc] at h
  obtain ⟨hopen, hstatus, hid, hparent, _, _, _, _, _, _, _, hevidence, _, _, _, heligible, _, _, hpayload⟩ := h
  have hlive : p.isClosed = false := by
    unfold isClosed
    rcases hopen with h | h <;> rw [h] <;> rfl
  refine ⟨hvalid, hid, hparent, hlive, hevidence, fun _ => ⟨heligible, hstatus⟩, fun haccepted => ?_⟩
  -- a review keeps the status, and it was open
  rw [hstatus] at haccepted
  rw [haccepted] at hopen
  rcases hopen with h | h <;> cases h

theorem reopens_follows {p next : RevisionProposal} (hvalid : next.validate P = .ok ())
    (hfollows : p.followsOpen next = true) (h : p.reopens next = true) : p.Follows P next := by
  simp only [followsOpen, Bool.and_eq_true, beq_iff_eq, and_assoc] at hfollows
  obtain ⟨hid, hparent, _, _, _, hlive⟩ := hfollows
  simp only [reopens, Bool.and_eq_true, Bool.or_eq_true, beq_iff_eq, bne_iff_ne, containsAll_iff, and_assoc] at h
  obtain ⟨_, _, hstatus, _, hpayload, _, _, hevidence⟩ := h
  refine ⟨hvalid, hid, hparent, by simpa [isClosed] using hlive, hevidence, fun hne => absurd hpayload hne,
    fun haccepted => ?_⟩
  rw [haccepted] at hstatus
  rcases hstatus with h | h <;> cases h

theorem advances_follows {p next : RevisionProposal} (hvalid : next.validate P = .ok ())
    (hfollows : p.followsOpen next = true) (h : p.advances next = true) : p.Follows P next := by
  simp only [followsOpen, Bool.and_eq_true, beq_iff_eq, and_assoc] at hfollows
  obtain ⟨hid, hparent, _, _, _, hlive⟩ := hfollows
  simp only [advances, Bool.and_eq_true, beq_iff_eq, containsAll_iff, and_assoc] at h
  obtain ⟨hbase, hoperation, hpayload, hrefs, hcohort, hfingerprint, _, hevidence, hstatus, _⟩ := h
  refine ⟨hvalid, hid, hparent, by simpa [isClosed] using hlive, hevidence, fun hne => absurd hpayload hne,
    fun haccepted => ?_⟩
  refine ⟨?_, hpayload, hbase, hoperation, hrefs, hcohort, hfingerprint⟩
  -- of the ordinary moves only the one from `validating` accepts
  rw [haccepted] at hstatus
  cases hp : p.status <;> rw [hp] at hstatus <;> first | rfl | cases hstatus

/-- A valid proposal carries the digests of its own content, and starts as pending. -/
theorem validate_digests {p : RevisionProposal} (h : p.validate P = .ok ()) :
    p.recomputeSourceCohortHash P = .ok p.sourceCohortHash ∧ p.recomputeFingerprint P = .ok p.fingerprint ∧
      (p.parentProposalRevisionId = none → p.status = .pending) := by
  obtain ⟨_, _, h⟩ := bind_eq_ok.mp h
  obtain ⟨_, _, h⟩ := bind_eq_ok.mp h
  obtain ⟨cohort, hcohort, h⟩ := bind_eq_ok.mp h
  obtain ⟨_, hsame, h⟩ := bind_eq_ok.mp h
  obtain ⟨fingerprint, hfingerprint, h⟩ := bind_eq_ok.mp h
  obtain ⟨_, hsame', h⟩ := bind_eq_ok.mp h
  obtain ⟨_, hroot, _⟩ := bind_eq_ok.mp h
  have hsame : p.sourceCohortHash = cohort := by simpa using hsame
  have hsame' : p.fingerprint = fingerprint := by simpa using hsame'
  rw [hsame, hsame']
  refine ⟨hcohort, hfingerprint, fun hnone => ?_⟩
  rw [hnone] at hroot
  simpa using hroot

/-- Whichever rule a successor passed under, it follows. -/
theorem validateSuccessor_follows {p next : RevisionProposal} (h : p.validateSuccessor P next = .ok ()) :
    p.Follows P next := by
  unfold validateSuccessor at h
  split at h
  · obtain ⟨_, hvalid, h⟩ := bind_eq_ok.mp h
    split at h
    · exact reviewed_follows hvalid (ensure_ok.mp h)
    · cases h
  · obtain ⟨_, hvalid, h⟩ := bind_eq_ok.mp h
    obtain ⟨_, hfollows, h⟩ := bind_eq_ok.mp h
    have hfollows := ensure_ok.mp hfollows
    split at h
    · exact reopens_follows hvalid hfollows (ensure_ok.mp h)
    · exact advances_follows hvalid hfollows (ensure_ok.mp h)

end RevisionProposal

end EverTrace.L2.Semantic
