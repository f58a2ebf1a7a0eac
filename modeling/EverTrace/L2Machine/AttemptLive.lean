import EverTrace.L2Machine.Attempt
/-!
# Transitions of an attempt that can be taken

The successor rule has a table of adoption states and one of verification states.
Three other rules decide with them whether a step of a table can be taken: a
revision keeps its integration events and verifier references, it has them exactly
in the states that need them, and an interrupted attempt was neither passed nor
failed.

**Results.** A step of the adoption table can be taken at every later watermark,
the rejection of a partially integrated attempt left aside; a step of the
verification table can, unless it passes or fails an interrupted attempt
(`transitions_live`). Either needs a generation number that is left.
-/
namespace EverTrace.L2.AttemptRevision
open EverTrace.Lib EverTrace.L1 EverTrace.L2.Work

/-- There is evidence that takes the attempt to the adoption state, in a revision that may follow. -/
def CanAdopt (H : Sha256) (a : Attempt) (fresh : RevisionId) (w : Nat) (status : AttemptAdoptionStatus) : Prop :=
  ∃ events new, reviseAdoption H a fresh status events w = .ok (.revision new) ∧ new.adoptionStatus = status ∧
    a.validateSuccessor H new = .ok ()

/-- There is evidence that takes the attempt to the verification state, in a revision that may follow. -/
def CanVerify (H : Sha256) (a : Attempt) (fresh : RevisionId) (w : Nat) (verification : AttemptVerification) : Prop :=
  ∃ verifiers new, reviseVerification H a fresh verification verifiers w = .ok (.revision new) ∧
    new.verification = verification ∧ a.validateSuccessor H new = .ok ()

/-- The states that are reached with a verifier's reference. -/
def AttemptVerification.isVerdict (verification : AttemptVerification) : Bool :=
  verification == .passed || verification == .failed

/-- The states that are reached with an integration event. -/
def AttemptAdoptionStatus.isIntegrated (status : AttemptAdoptionStatus) : Bool :=
  status == .partiallyIntegrated || status == .integrated

variable {H : Sha256} {a : Attempt} {fresh : RevisionId} {w : Nat}

theorem validate_iff : a.validate H = .ok () ↔ a.strategyContract.validate = .ok () ∧
    a.strategyContract.fingerprint H = .ok a.strategyContractFingerprint ∧ a.shapeOk = true := by
  unfold Attempt.validate
  simp only [bind_eq_ok, ensure_ok, Bool.and_eq_true, beq_iff_eq]
  constructor
  · rintro ⟨_, hcontract, fingerprint, hfingerprint, heq, hshape⟩
    exact ⟨hcontract, heq ▸ hfingerprint, hshape⟩
  · rintro ⟨hcontract, hfingerprint, hshape⟩
    exact ⟨(), hcontract, _, hfingerprint, rfl, hshape⟩

/-- The checks of a revision by name. -/
structure ShapeOk (a : Attempt) : Prop where
  generation : a.revisionGeneration ≠ 0
  watermark : a.sourceWatermark ≠ 0
  first : (a.revisionGeneration == 1) = a.predecessorRevisionId.isNone
  episode : (a.revisionGeneration == 1 && a.episodeId.isSome) = false
  runs : a.experimentRunIds.isEmpty = true
  bundles : a.recoveryBundleRefs.isEmpty = true
  applications : a.recoveryApplicationRefs.isEmpty = true
  lists : a.listsOk = true
  resumes : a.resumesFromAttemptId ≠ some a.attemptId
  composed : a.attemptId ∉ a.composedFromAttemptIds
  composedMany : (!a.composedFromAttemptIds.isEmpty && a.composedFromAttemptIds.length < 2) = false
  resume : a.resumeShape = true
  lanes : a.lanesShape = true
  outcome : a.outcomeShape = true
  interruption : a.interruptionShape = true
  abandons : (a.executionStatus == .abandoned) = !a.explicitAbandonRefs.isEmpty
  verifiers : a.verification.isVerdict = !a.parentVerificationRefs.isEmpty
  integrations : a.adoptionStatus.isIntegrated = !a.integrationEventRefs.isEmpty
  supersedes : (a.lifecycleStatus == .superseded) = !a.supersedeEvidenceRefs.isEmpty
  signature : a.failureSignature.all bounded = true

theorem shapeOk_iff : a.shapeOk = true ↔ ShapeOk a := by
  unfold Attempt.shapeOk
  simp only [Bool.and_eq_true, bne_iff_ne, beq_iff_eq, Bool.not_eq_true', List.contains_eq_mem, decide_eq_false_iff_not]
  constructor
  · rintro ⟨⟨⟨⟨⟨⟨⟨⟨⟨⟨⟨⟨⟨⟨⟨⟨⟨⟨⟨h1, h2⟩, h3⟩, h4⟩, h5⟩, h6⟩, h7⟩, h8⟩, h9⟩, h10⟩, h11⟩, h12⟩, h13⟩, h14⟩, h15⟩, h16⟩, h17⟩,
      h18⟩, h19⟩, h20⟩
    exact ⟨h1, h2, h3, h4, h5, h6, h7, h8, h9, h10, h11, h12, h13, h14, h15, h16, h17, h18, h19, h20⟩
  · intro h
    exact ⟨⟨⟨⟨⟨⟨⟨⟨⟨⟨⟨⟨⟨⟨⟨⟨⟨⟨⟨h.generation, h.watermark⟩, h.first⟩, h.episode⟩, h.runs⟩, h.bundles⟩, h.applications⟩,
      h.lists⟩, h.resumes⟩, h.composed⟩, h.composedMany⟩, h.resume⟩, h.lanes⟩, h.outcome⟩, h.interruption⟩, h.abandons⟩,
      h.verifiers⟩, h.integrations⟩, h.supersedes⟩, h.signature⟩

/-! ## Revisions that pass their own check -/

theorem ShapeOk.next (h : ShapeOk a) (hroom : Room a w) : ShapeOk (nextOf a fresh w) := by
  have hgeneration : a.revisionGeneration + 1 ≠ 1 := fun heq => h.generation (Nat.succ.inj heq)
  have hfirst : (a.revisionGeneration + 1 == 1) = false := beq_eq_false_iff_ne.mpr hgeneration
  refine { h with generation := Nat.succ_ne_zero _, watermark := ?_, first := hfirst, episode := ?_ }
  · have hlater := hroom.1
    have hw : w ≠ 0 := by omega
    exact hw
  · unfold nextOf
    rw [hfirst, Bool.false_and]

theorem ShapeOk.adopt (h : ShapeOk a) {status : AttemptAdoptionStatus} {events : List IntegrationEventId}
    (hevents : ids events = true) (hstatus : status.isIntegrated = !events.isEmpty) :
    ShapeOk { a with adoptionStatus := status, integrationEventRefs := events } := by
  refine { h with lists := ?_, integrations := hstatus }
  have hlists := h.lists
  unfold Attempt.listsOk at hlists ⊢
  simp only [Bool.and_eq_true] at hlists ⊢
  obtain ⟨⟨⟨hbefore, -⟩, hbindings⟩, htexts⟩ := hlists
  exact ⟨⟨⟨hbefore, hevents⟩, hbindings⟩, htexts⟩

theorem ShapeOk.verify (h : ShapeOk a) {verification : AttemptVerification} {verifiers : List String}
    (hverifiers : refs verifiers = true) (hverification : verification.isVerdict = !verifiers.isEmpty)
    (hinterrupted : a.executionStatus = .interrupted → verification.isVerdict = false) :
    ShapeOk { a with verification := verification, parentVerificationRefs := verifiers } := by
  refine { h with lists := ?_, verifiers := hverification, interruption := ?_ }
  · have hlists := h.lists
    unfold Attempt.listsOk at hlists ⊢
    simp only [Bool.and_eq_true, List.all_cons] at hlists ⊢
    obtain ⟨hids, hresume, hlocal, -, htexts⟩ := hlists
    exact ⟨hids, hresume, hlocal, hverifiers, htexts⟩
  · have hshape := h.interruption
    unfold Attempt.interruptionShape at hshape ⊢
    by_cases hstatus : a.executionStatus = .interrupted
    · have hno := hinterrupted hstatus
      rw [hstatus] at hshape ⊢
      simp only [bne_self_eq_false, Bool.false_or, Bool.and_eq_true] at hshape ⊢
      refine ⟨hshape.1, ?_⟩
      cases verification with
      | unverified => rfl
      | inconclusive => rfl
      | passed => cases hno
      | failed => cases hno
    · rw [bne_iff_ne.mpr hstatus, Bool.true_or]

theorem ShapeOk.integrationIds (h : ShapeOk a) : ids a.integrationEventRefs = true := by
  have hlists := h.lists
  unfold Attempt.listsOk at hlists
  simp only [Bool.and_eq_true] at hlists
  exact hlists.1.1.2

/-! ## The steps -/

/-- The successor check asks nothing more of a revision that an operation returns, for these two. -/
theorem validateSuccessor_perform (op : AttemptOperation) {new : Attempt} (ha : a.validate H = .ok ())
    (hfresh : fresh ≠ a.revisionId) (hkeeps : KeepsEvidence a op) (h : perform H a fresh w op = .ok (.revision new)) :
    a.validateSuccessor H new = .ok () := by
  obtain ⟨hsame, hvalid⟩ := perform_sameWork hfresh h
  exact (validateSuccessor_iff ha hvalid hsame).mpr ((follows_iff h).mpr hkeeps)

theorem ShapeOk.validate {b : Attempt} (hshape : ShapeOk b) (ha : a.validate H = .ok ())
    (hcontract : b.strategyContract = a.strategyContract)
    (hfingerprint : b.strategyContractFingerprint = a.strategyContractFingerprint) : b.validate H = .ok () := by
  obtain ⟨hvalid, hhash, -⟩ := validate_iff.mp ha
  refine validate_iff.mpr ⟨hcontract ▸ hvalid, ?_, shapeOk_iff.mpr hshape⟩
  rw [hcontract, hfingerprint]
  exact hhash

theorem reviseAdoption_eq {status : AttemptAdoptionStatus} {events : List IntegrationEventId} (hroom : Room a w)
    (hallowed : adoptionAllowed a.adoptionStatus status = true)
    (hvalid : Attempt.validate H { nextOf a fresh w with
      adoptionStatus := status
      integrationEventRefs := sortUnique (a.integrationEventRefs ++ events) } = .ok ()) :
    reviseAdoption H a fresh status events w = .ok (.revision { nextOf a fresh w with
      adoptionStatus := status
      integrationEventRefs := sortUnique (a.integrationEventRefs ++ events) }) := by
  unfold reviseAdoption
  rw [if_neg fun h => adoptionAllowed_ne hallowed h.1, ensure_bind_ok]
  exact ⟨hallowed, changed_ok.mpr ⟨hroom, rfl, hvalid⟩⟩

theorem reviseVerification_eq {verification : AttemptVerification} {verifiers : List String} (hroom : Room a w)
    (hallowed : verificationAllowed a.verification verification = true)
    (hvalid : Attempt.validate H { nextOf a fresh w with
      verification := verification
      parentVerificationRefs := sortUnique (a.parentVerificationRefs ++ verifiers) } = .ok ()) :
    reviseVerification H a fresh verification verifiers w = .ok (.revision { nextOf a fresh w with
      verification := verification
      parentVerificationRefs := sortUnique (a.parentVerificationRefs ++ verifiers) }) := by
  unfold reviseVerification
  rw [if_neg fun h => verificationAllowed_ne hallowed h.1, ensure_bind_ok]
  exact ⟨hallowed, changed_ok.mpr ⟨hroom, rfl, hvalid⟩⟩

/-- The events that a state needs: those that are there, or one. -/
def eventsFor (a : Attempt) (status : AttemptAdoptionStatus) : List IntegrationEventId :=
  if status.isIntegrated && a.integrationEventRefs.isEmpty then [⟨1⟩] else []

/-- With them the state has the events it needs, and no more. -/
theorem eventsFor_ok {status : AttemptAdoptionStatus} (h : ShapeOk a)
    (hallowed : adoptionAllowed a.adoptionStatus status = true)
    (hkept : ¬(a.adoptionStatus = .partiallyIntegrated ∧ status = .rejected)) :
    ids (sortUnique (a.integrationEventRefs ++ eventsFor a status)) = true ∧
      status.isIntegrated = !(sortUnique (a.integrationEventRefs ++ eventsFor a status)).isEmpty := by
  have hids := h.integrationIds
  have hintegrations := h.integrations
  unfold eventsFor
  cases hneeds : status.isIntegrated && a.integrationEventRefs.isEmpty with
  | true =>
    rw [Bool.and_eq_true, List.isEmpty_iff] at hneeds
    rw [if_pos rfl, hneeds.2, hneeds.1]
    exact ⟨rfl, rfl⟩
  | false =>
    rw [if_neg Bool.false_ne_true, sortUnique_append_of_subset (ids_iff.mp hids).2 (fun x hx => by cases hx)]
    refine ⟨hids, ?_⟩
    -- a state that is left for one without events had none
    cases hevents : a.integrationEventRefs.isEmpty with
    | true =>
      rw [hevents, Bool.and_true] at hneeds
      exact hneeds
    | false =>
      rw [hevents] at hintegrations
      revert hallowed hkept hintegrations
      cases a.adoptionStatus <;> cases status <;>
        simp [adoptionAllowed, AttemptAdoptionStatus.isIntegrated]

theorem canAdopt {status : AttemptAdoptionStatus} (ha : a.validate H = .ok ()) (hfresh : fresh ≠ a.revisionId)
    (hroom : Room a w) (hallowed : adoptionAllowed a.adoptionStatus status = true)
    (hkept : ¬(a.adoptionStatus = .partiallyIntegrated ∧ status = .rejected)) : CanAdopt H a fresh w status := by
  have hshape := shapeOk_iff.mp (validate_iff.mp ha).2.2
  obtain ⟨hids, hstatus⟩ := eventsFor_ok hshape hallowed hkept
  have hnext : ShapeOk (nextOf a fresh w) := hshape.next hroom
  have hvalid := (hnext.adopt hids hstatus).validate ha rfl rfl
  have hrevise := reviseAdoption_eq hroom hallowed hvalid
  exact ⟨_, _, hrevise, rfl, validateSuccessor_perform (.reviseAdoption _ _) ha hfresh trivial hrevise⟩

def verifiersFor (verification : AttemptVerification) : List String :=
  if verification.isVerdict then ["verifier"] else []

/-- Before a verdict there are none, so these are all. -/
theorem verifiersFor_ok {verification : AttemptVerification} (h : ShapeOk a)
    (hallowed : verificationAllowed a.verification verification = true) :
    sortUnique (a.parentVerificationRefs ++ verifiersFor verification) = verifiersFor verification := by
  have hverifiers := h.verifiers
  have hnone : a.verification.isVerdict = false := by
    revert hallowed
    cases a.verification <;> cases verification <;> simp [verificationAllowed, AttemptVerification.isVerdict]
  rw [hnone, eq_comm, Bool.not_eq_false', List.isEmpty_iff] at hverifiers
  rw [hverifiers]
  unfold verifiersFor
  cases verification.isVerdict <;> rfl

theorem canVerify {verification : AttemptVerification} (ha : a.validate H = .ok ()) (hfresh : fresh ≠ a.revisionId)
    (hroom : Room a w) (hallowed : verificationAllowed a.verification verification = true)
    (hinterrupted : a.executionStatus = .interrupted → verification.isVerdict = false) :
    CanVerify H a fresh w verification := by
  have hshape := shapeOk_iff.mp (validate_iff.mp ha).2.2
  have hsorted := verifiersFor_ok hshape hallowed
  have hrefs : refs (verifiersFor verification) = true ∧
      verification.isVerdict = !(verifiersFor verification).isEmpty := by
    unfold verifiersFor
    cases verification.isVerdict with
    | true => exact ⟨by decide, rfl⟩
    | false => exact ⟨rfl, rfl⟩
  have hnext : ShapeOk (nextOf a fresh w) := hshape.next hroom
  have hvalid := (hnext.verify hrefs.1 hrefs.2 hinterrupted).validate ha rfl rfl
  rw [← hsorted] at hvalid
  have hrevise := reviseVerification_eq hroom hallowed hvalid
  exact ⟨_, _, hrevise, rfl, validateSuccessor_perform (.reviseVerification _ _) ha hfresh trivial hrevise⟩

theorem ShapeOk.no_verdict (h : ShapeOk a) (hinterrupted : a.executionStatus = .interrupted) :
    a.verification.isVerdict = false := by
  have hshape := h.interruption
  unfold Attempt.interruptionShape at hshape
  rw [hinterrupted] at hshape
  simp only [bne_self_eq_false, Bool.false_or, Bool.and_eq_true] at hshape
  revert hshape
  cases a.verification <;> simp [AttemptVerification.isVerdict]

/-- **Which steps of the two tables can be taken** at a watermark: all adoption steps, but perhaps the rejection of a
partially integrated attempt, and all verification steps, but those that pass or fail an interrupted one. -/
theorem transitions_live (H : Sha256) (a : Attempt) (fresh : RevisionId) (w : Nat) (ha : a.validate H = .ok ())
    (hfresh : fresh ≠ a.revisionId) :
    (∀ status, adoptionAllowed a.adoptionStatus status = true →
      ¬(a.adoptionStatus = .partiallyIntegrated ∧ status = .rejected) →
      (CanAdopt H a fresh w status ↔ Room a w)) ∧
    (∀ verification, verificationAllowed a.verification verification = true →
      (CanVerify H a fresh w verification ↔
        Room a w ∧ ¬(a.executionStatus = .interrupted ∧ (verification = .passed ∨ verification = .failed)))) := by
  refine ⟨fun status hallowed hkept => ?_, fun verification hallowed => ?_⟩
  · constructor
    · intro ⟨events, new, hrevise, _⟩
      exact (reviseAdoption_ok hrevise).2.1
    · intro hroom
      exact canAdopt ha hfresh hroom hallowed hkept
  · have hverdict : verification.isVerdict = true ↔ verification = .passed ∨ verification = .failed := by
      cases verification <;> simp [AttemptVerification.isVerdict]
    rw [← hverdict]
    constructor
    · intro ⟨verifiers, new, hrevise, _⟩
      obtain ⟨-, hroom, hvalid, hnew⟩ := reviseVerification_ok hrevise
      refine ⟨hroom, fun ⟨hinterrupted, hpassed⟩ => ?_⟩
      have hnone := (shapeOk_iff.mp (validate_iff.mp hvalid).2.2).no_verdict (by rw [hnew]; exact hinterrupted)
      rw [hnew] at hnone
      rw [hpassed] at hnone
      cases hnone
    · intro ⟨hroom, hnot⟩
      refine canVerify ha hfresh hroom hallowed fun hinterrupted => ?_
      cases hpassed : verification.isVerdict with
      | false => rfl
      | true => exact absurd ⟨hinterrupted, hpassed⟩ hnot

/-! ## Steps that cannot be taken -/

/-- An attempt that was integrated in part, and interrupted. -/
def sampleStopped (fingerprint : Digest) : Attempt := { sampleAttempt fingerprint with
  adoptionStatus := .partiallyIntegrated
  integrationEventRefs := [⟨12⟩] }

theorem sampleStopped_valid (H : Sha256) : (sampleStopped (sampleFingerprint H)).validate H = .ok () :=
  validate_of_shape rfl rfl rfl

/-- **Neither can it be rejected nor can it pass**, whatever the hash: a rejected attempt has no integration event, and
an interrupted one no verdict. -/
theorem sampleStopped_dead :
    (∀ H : Sha256, (sampleStopped (sampleFingerprint H)).validate H = .ok () ∧
      adoptionAllowed (sampleStopped (sampleFingerprint H)).adoptionStatus .rejected = true ∧
      verificationAllowed (sampleStopped (sampleFingerprint H)).verification .passed = true) ∧
    ∀ (H : Sha256) (fresh : RevisionId) (w : Nat),
      ¬ CanAdopt H (sampleStopped (sampleFingerprint H)) fresh w .rejected ∧
      ¬ CanVerify H (sampleStopped (sampleFingerprint H)) fresh w .passed := by
  refine ⟨fun H => ⟨sampleStopped_valid H, rfl, rfl⟩, fun H fresh w => ⟨?_, ?_⟩⟩
  · rintro ⟨events, new, hrevise, -⟩
    obtain ⟨-, -, hvalid, hnew⟩ := reviseAdoption_ok hrevise
    have hintegrations := (shapeOk_iff.mp (validate_iff.mp hvalid).2.2).integrations
    have hstatus : new.adoptionStatus.isIntegrated = false := by
      rw [hnew]
      rfl
    have hmem : (⟨12⟩ : IntegrationEventId) ∈ new.integrationEventRefs := by
      rw [hnew]
      exact mem_sortUnique.mpr (List.mem_append_left _ (List.mem_singleton_self _))
    rw [hstatus, eq_comm, Bool.not_eq_false', List.isEmpty_iff] at hintegrations
    rw [hintegrations] at hmem
    cases hmem
  · rintro ⟨verifiers, new, hrevise, -⟩
    obtain ⟨-, -, hvalid, hnew⟩ := reviseVerification_ok hrevise
    have hnone := (shapeOk_iff.mp (validate_iff.mp hvalid).2.2).no_verdict (by rw [hnew]; rfl)
    rw [hnew] at hnone
    cases hnone

/-- It can still be integrated. -/
theorem transitions_live_sample :
    CanAdopt zeroSha (sampleStopped (sampleFingerprint zeroSha)) ⟨8⟩ 10 .integrated := by
  refine (((transitions_live zeroSha _ ⟨8⟩ 10 (sampleStopped_valid _) ?_).1 .integrated rfl ?_).mpr ?_)
  · exact (by decide : (⟨8⟩ : RevisionId) ≠ ⟨2⟩)
  · intro h
    cases h.2
  · exact ⟨(by decide : 9 < 10), (by decide : 4 + 1 < 2 ^ 64)⟩

end EverTrace.L2.AttemptRevision
