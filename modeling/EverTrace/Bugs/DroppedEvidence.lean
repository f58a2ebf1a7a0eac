import EverTrace.L2Machine.Attempt
/-!
# Operations that hand out a revision the store rejects

The operations on attempts call `validate` on the record they made, and
`record_attempt_revision` calls `validate_successor` on it later. Two of the
five can make a record that passes the first check and fails the second.

* `resume_same_attempt` asks for a lane that is new but not for evidence that is
  new. An attempt that was resumed before has references already, so resuming it
  again with none, or with the same ones, passes `validate`; the successor rule
  wants an added reference for every reopening.
* `supersede_attempt` replaces the evidence where its four siblings add to
  theirs. For an attempt that is superseded already, other evidence drops what
  was there.

**Condition.** A returned revision is recordable if and only if the resumption
brings a new reference and the superseding names all evidence already there
(`recordable_iff`).
-/
namespace EverTrace.Bugs.DroppedEvidence
open EverTrace.Lib EverTrace.L1 EverTrace.L2.AttemptRevision

/-- The same operation with the evidence that it left. The reason of an interruption is no evidence and stays free. -/
def again (new : Attempt) (reason : Option InterruptionReason) : AttemptOperation → AttemptOperation
  | .reviseExecution status _ _ _ _ =>
    .reviseExecution status new.executionLaneIds new.interruptionRefs reason new.explicitAbandonRefs
  | .reviseAdoption status _ => .reviseAdoption status new.integrationEventRefs
  | .reviseVerification verification _ => .reviseVerification verification new.parentVerificationRefs
  | .supersede _ => .supersede new.supersedeEvidenceRefs
  | .resumeSame lane assessment _ source target _ =>
    .resumeSame lane assessment new.resumeEventRefs source target new.worktreeTransitionRefs

/-- A further call makes no further revision. -/
def Settled (H : Sha256) (new : Attempt) (op : AttemptOperation) : Prop :=
  ∀ reason fresh w further, perform H new fresh w (again new reason op) ≠ .ok (.revision further)

section

variable {H : Sha256} {a new : Attempt} {fresh : RevisionId} {w : Nat}

/-- **The repeated operation makes no further revision**, whatever the first one kept. -/
theorem settled {op : AttemptOperation} (h : perform H a fresh w op = .ok (.revision new)) : Settled H new op := by
  intro reason fresh' w' further hagain
  cases op with
  | reviseExecution status lanes interruptions reason' abandons =>
    obtain ⟨-, -, -, hnew⟩ := reviseExecution_ok h
    obtain ⟨hallowed, -⟩ := reviseExecution_ok hagain
    subst hnew
    exact (executionAllowed_ne hallowed).1 rfl
  | reviseAdoption status events =>
    obtain ⟨-, -, -, hnew⟩ := reviseAdoption_ok h
    obtain ⟨hallowed, -⟩ := reviseAdoption_ok hagain
    subst hnew
    exact adoptionAllowed_ne hallowed rfl
  | reviseVerification verification verifiers =>
    obtain ⟨-, -, -, hnew⟩ := reviseVerification_ok h
    obtain ⟨hallowed, -⟩ := reviseVerification_ok hagain
    subst hnew
    exact verificationAllowed_ne hallowed rfl
  | supersede evidence =>
    obtain ⟨-, -, hnew⟩ := supersedeAttempt_ok h
    have hsame : new.lifecycleStatus = .superseded ∧ new.supersedeEvidenceRefs = new.supersedeEvidenceRefs := by
      rw [hnew]
      exact ⟨rfl, rfl⟩
    have hnone : supersedeAttempt H new fresh' new.supersedeEvidenceRefs w' = .ok .noDelta := if_pos hsame
    have hagain : supersedeAttempt H new fresh' new.supersedeEvidenceRefs w' = .ok (.revision further) := hagain
    rw [hnone] at hagain
    cases hagain
  | resumeSame lane assessment events source target transitions =>
    obtain ⟨-, -, -, hnew⟩ := resumeSameAttempt_ok h
    obtain ⟨⟨hinterrupted, -⟩, -⟩ := resumeSameAttempt_ok hagain
    rw [hnew] at hinterrupted
    cases hinterrupted

end

/-- **A returned revision can be recorded, and the operation is then settled, exactly when it keeps the evidence.**
`fresh` is the new revision id. -/
theorem recordable_iff (H : Sha256) (current : Attempt) (op : AttemptOperation) (fresh : RevisionId) (w : Nat)
    (new : Attempt) (hcurrent : current.validate H = .ok ()) (hfresh : fresh ≠ current.revisionId)
    (h : perform H current fresh w op = .ok (.revision new)) :
    (current.validateSuccessor H new = .ok () ∧ Settled H new op) ↔ KeepsEvidence current op := by
  obtain ⟨hsame, hvalid⟩ := perform_sameWork hfresh h
  rw [validateSuccessor_iff hcurrent hvalid hsame, follows_iff h]
  exact and_iff_left (settled h)

/-! ## An attempt that was resumed and interrupted again -/

/-- The sample resumed on another lane, with the given references. -/
def resumedAttempt (fingerprint : Digest) (events : List String) : Attempt :=
  { nextOf (sampleAttempt fingerprint) ⟨8⟩ 10 with
    executionStatus := .active
    executionLaneIds := sortUnique ([⟨6⟩] ++ [⟨9⟩])
    resumeStateAssessment := some .compatibleSameInstance
    resumeEventRefs := sortUnique (["resume:1"] ++ events)
    resumeSourceSnapshotId := none
    resumeTargetSnapshotId := some ⟨7⟩
    worktreeTransitionRefs := sortUnique ([] ++ []) }

theorem perform_resumedAttempt (H : Sha256) (events : List String)
    (hshape : (resumedAttempt (sampleFingerprint H) events).shapeOk = true) :
    perform H (sampleAttempt (sampleFingerprint H)) ⟨8⟩ 10
      (.resumeSame ⟨9⟩ .compatibleSameInstance events none ⟨7⟩ []) =
        .ok (.revision (resumedAttempt (sampleFingerprint H) events)) := by
  have hroom : Room (sampleAttempt (sampleFingerprint H)) 10 :=
    ⟨(by decide : 9 < 10), (by decide : 4 + 1 < 2 ^ 64)⟩
  exact ensure_bind_ok.mpr ⟨rfl, changed_ok.mpr ⟨hroom, rfl, validate_of_shape rfl rfl hshape⟩⟩

/-- **An interrupted attempt is resumed with the reference of its first resumption**, and what comes back is no
successor. -/
theorem reused_evidence : ¬ ∃ H : Sha256, ∀ current op fresh w new, current.validate H = .ok () →
    fresh ≠ current.revisionId → perform H current fresh w op = .ok (.revision new) →
      current.validateSuccessor H new = .ok () := by
  intro ⟨H, hall⟩
  have hperform := perform_resumedAttempt H ["resume:1"] rfl
  have hcurrent := sampleAttempt_valid H
  have hfresh : (⟨8⟩ : RevisionId) ≠ (sampleAttempt (sampleFingerprint H)).revisionId :=
    (by decide : (⟨8⟩ : RevisionId) ≠ ⟨2⟩)
  have hsuccessor := hall _ _ _ _ _ hcurrent hfresh hperform
  obtain ⟨hsame, hvalid⟩ := perform_sameWork hfresh hperform
  have hkeeps := (follows_iff hperform).mp ((validateSuccessor_iff hcurrent hvalid hsame).mp hsuccessor)
  have hnot : ¬ ∃ r ∈ ["resume:1"], r ∉ ["resume:1"] := by decide
  exact hnot hkeeps

/-- With a new reference the resumption is recordable. -/
theorem recordable_iff_resumed :
    (sampleAttempt (sampleFingerprint zeroSha)).validateSuccessor zeroSha
      (resumedAttempt (sampleFingerprint zeroSha) ["resume:2"]) = .ok () ∧
    Settled zeroSha (resumedAttempt (sampleFingerprint zeroSha) ["resume:2"])
      (.resumeSame ⟨9⟩ .compatibleSameInstance ["resume:2"] none ⟨7⟩ []) := by
  refine (recordable_iff zeroSha _ _ ⟨8⟩ 10 _ (sampleAttempt_valid _) ?_
    (perform_resumedAttempt zeroSha ["resume:2"] ?_)).mpr ?_
  · exact (by decide : (⟨8⟩ : RevisionId) ≠ ⟨2⟩)
  · rfl
  · exact (by decide : ∃ r ∈ ["resume:2"], r ∉ ["resume:1"])

end EverTrace.Bugs.DroppedEvidence
