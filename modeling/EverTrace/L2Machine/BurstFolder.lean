import EverTrace.L2Machine.ActivityToken
/-!
# Folding tokens into bursts (`evertrace-engine/src/segmentation/burst.rs`)

The folder keeps the open burst and, for every operation, the revision it has
last seen. A token either repeats a revision (no delta), extends the open
burst, or closes it and starts a new one. `restore` rebuilds the folder from
the stored bursts.

Results:
* `push_ok`: the three ways a token can be accepted.
* `restore_ok`: what `restore` computes, as one pass over all stored members.
-/
namespace EverTrace.L2.Segmentation
open EverTrace.Lib EverTrace.L1 EverTrace.L2.Work

/-- The identifiers `new_v7` hands out while one operation is observed. -/
structure FreshIds where
  burstId : OperationBurstId
  burstRevisionId : RevisionId
  closingRevisionId : RevisionId
  episodeRevisionId : RevisionId

/-- `map_err(|_| DetectorError::Ineligible)` -/
def orIneligible {α : Type} (x : Except WorkError α) : Except DetectorError α :=
  x.mapError fun _ => .ineligible

@[simp] theorem orIneligible_ok {α : Type} {x : Except WorkError α} {a : α} :
    orIneligible x = .ok a ↔ x = .ok a := mapError_ok

/-- mirrors evertrace-engine/src/segmentation/burst.rs:16-22 -/
structure BurstFoldUpdate where
  current : OperationBurst
  closed : Option OperationBurst
  startedNew : Bool
  meaningfulNew : Bool
  noDelta : Bool
  deriving DecidableEq

/-- mirrors evertrace-engine/src/segmentation/burst.rs:43-54 -/
structure SeenOperation where
  revision : Nat
  member : OperationBurstMember
  operationKind : OperationKind
  stateDelta : OperationStateDelta
  verifierDelta : OperationVerifierDelta
  phaseCandidate : Option PhaseKind
  hasObjectiveBoundary : Bool
  errorSignature : Option String
  targetFamily : String
  targetRefs : List String
  deriving DecidableEq

abbrev Seen := OperationId → Option SeenOperation

/-- mirrors evertrace-engine/src/segmentation/burst.rs:57-60 -/
structure OperationBurstFolder where
  current : Option OperationBurst
  seen : Seen

/-- mirrors evertrace-engine/src/segmentation/burst.rs:177-190 -/
def seenFromBurst (burst : OperationBurst) (member : OperationBurstMember) : SeenOperation where
  revision := member.operationRevision
  member
  operationKind := burst.operationKind
  stateDelta := burst.stateDelta
  verifierDelta := burst.verifierDelta
  phaseCandidate := burst.phaseCandidate
  hasObjectiveBoundary := burst.hasObjectiveBoundary
  errorSignature := burst.errorSignature
  targetFamily := burst.targetFamily
  targetRefs := burst.targetRefs

/-- mirrors evertrace-engine/src/segmentation/burst.rs:239-255 -/
def memberFromToken (token : ActivityToken) : OperationBurstMember where
  sequence := token.sequence
  sourceWatermark := token.sourceWatermark
  operationId := token.operationId
  operationRevision := token.operationRevision
  hostOccurrenceId := token.hostOccurrenceId
  workBindingRevisionId := token.workBindingRevisionId
  attemptRevisionId := token.attemptRevisionId
  sourceObservationRefs := token.sourceObservationRefs
  scopeEffectRefs := token.scopeEffectRefs
  artifactRefs := token.artifactRefs
  sideEffects := token.sideEffects
  worktreeTransitionRefs := token.worktreeTransitionRefs
  integrationEventRefs := token.integrationEventRefs

/-- mirrors evertrace-engine/src/segmentation/burst.rs:258-283 -/
def canExtend (current : OperationBurst) (token : ActivityToken) : Bool :=
  current.lifecycle == .open_
    && current.operationKind == token.operationKind
    && current.stateDelta == token.stateDelta
    && current.verifierDelta == .none
    && !current.hasObjectiveBoundary
    && current.phaseCandidate == token.observedPhaseKind
    && token.verifierTransition == .none
    && token.boundaryEvidence == .none
    && current.errorSignature == token.errorSignature
    && current.targetFamily == token.targetFamily
    && current.targetRefs == token.targetRefs
    && current.executionLaneId == token.executionLaneId
    && current.parentLaneId == token.parentLaneId
    && current.primaryBinding == token.primaryBinding
    && current.attemptId == token.attemptId
    && current.experimentRunId == token.experimentRunId
    && current.competingGroupId == token.competingGroupId
    && current.worktreeLineageRefs == token.worktreeLineageRefs
    && current.strategyContractFingerprint == token.strategyContractFingerprint
    && token.worktreeTransitionRefs.isEmpty
    && token.integrationEventRefs.isEmpty
    && !current.members.any fun member => member.operationId == token.operationId

/-- The token is a repetition that does not say what was seen.
mirrors evertrace-engine/src/segmentation/burst.rs:104-113 -/
def differsFromSeen (previous : SeenOperation) (token : ActivityToken) : Bool :=
  previous.member != memberFromToken token
    || previous.operationKind != token.operationKind
    || previous.stateDelta != token.stateDelta
    || previous.verifierDelta != token.verifierTransition
    || previous.phaseCandidate != token.observedPhaseKind
    || previous.hasObjectiveBoundary != (token.boundaryEvidence != .none)
    || previous.errorSignature != token.errorSignature
    || previous.targetFamily != token.targetFamily
    || previous.targetRefs != token.targetRefs

/-- The next revision of the open burst with one more member. -/
def extendBurst (current : OperationBurst) (token : ActivityToken) (revisionId : RevisionId) : OperationBurst :=
  { current with
    revisionId
    predecessorRevisionId := some current.revisionId
    revisionGeneration := current.revisionGeneration + 1
    members := current.members ++ [memberFromToken token]
    sourceWatermark := token.sourceWatermark }

def closedBurst (current : OperationBurst) (revisionId : RevisionId) : OperationBurst :=
  { current with
    revisionId
    predecessorRevisionId := some current.revisionId
    revisionGeneration := current.revisionGeneration + 1
    lifecycle := .closed }

/-- The first revision of the burst that a token starts. -/
def openBurst (token : ActivityToken) (fresh : FreshIds) : OperationBurst where
  operationBurstId := fresh.burstId
  revisionId := fresh.burstRevisionId
  predecessorRevisionId := none
  revisionGeneration := 1
  lifecycle := .open_
  algorithmRevision := 2
  operationKind := token.operationKind
  stateDelta := token.stateDelta
  verifierDelta := token.verifierTransition
  phaseCandidate := token.observedPhaseKind
  hasObjectiveBoundary := token.boundaryEvidence != .none
  errorSignature := token.errorSignature
  targetFamily := token.targetFamily
  targetRefs := token.targetRefs
  members := [memberFromToken token]
  executionLaneId := token.executionLaneId
  parentLaneId := token.parentLaneId
  subagentId := token.subagentId
  primaryBinding := token.primaryBinding
  attemptId := token.attemptId
  experimentRunId := token.experimentRunId
  competingGroupId := token.competingGroupId
  worktreeLineageRefs := token.worktreeLineageRefs
  strategyContractFingerprint := token.strategyContractFingerprint
  sourceWatermark := token.sourceWatermark

/-- mirrors evertrace-engine/src/segmentation/burst.rs:192-205 -/
def closeBurst (current : OperationBurst) (revisionId : RevisionId) : Except DetectorError OperationBurst := do
  let _ ← okOr .ineligible (checkedSucc 64 current.revisionGeneration)
  let next := closedBurst current revisionId
  orIneligible (current.validateSuccessor next)
  return next

/-- mirrors evertrace-engine/src/segmentation/burst.rs:207-237 -/
def newBurst (token : ActivityToken) (fresh : FreshIds) : Except DetectorError OperationBurst := do
  let value := openBurst token fresh
  orIneligible value.validate
  return value

namespace OperationBurstFolder

def new : OperationBurstFolder := ⟨none, fun _ => none⟩

/-- One member of a stored burst: new, or a later revision of a seen operation.
mirrors evertrace-engine/src/segmentation/burst.rs:80-89 -/
def recordSeen (seen : Seen) (entry : OperationId × SeenOperation) : Except DetectorError Seen :=
  match seen entry.1 with
  | none => .ok (Function.update seen entry.1 (some entry.2))
  | some previous =>
    if previous.revision < entry.2.revision then .ok (Function.update seen entry.1 (some entry.2))
    else .error .ineligible

/-- What the members of a stored burst were seen as. -/
def seenEntries (burst : OperationBurst) : List (OperationId × SeenOperation) :=
  burst.members.map fun member => (member.operationId, seenFromBurst burst member)

/-- mirrors evertrace-engine/src/segmentation/burst.rs:77-91 -/
def recordBurst (seen : Seen) (burst : OperationBurst) : Except DetectorError Seen := do
  orIneligible burst.validate
  (seenEntries burst).foldlM recordSeen seen

/-- mirrors evertrace-engine/src/segmentation/burst.rs:67-96 -/
def restore (bursts : List OperationBurst) : Except DetectorError OperationBurstFolder := do
  let current := bursts.filter fun value => value.lifecycle == .open_
  if 1 < current.length || 64 < bursts.length then .error .ineligible
  else do
    let seen ← bursts.foldlM recordBurst fun _ => none
    return ⟨current.head?, seen⟩

/-- mirrors evertrace-engine/src/segmentation/burst.rs:131-156 -/
def extend (folder : OperationBurstFolder) (current : OperationBurst) (token : ActivityToken)
    (fresh : FreshIds) : Except DetectorError (BurstFoldUpdate × OperationBurstFolder) := do
  let _ ← okOr .ineligible (checkedSucc 64 current.revisionGeneration)
  let next := extendBurst current token fresh.burstRevisionId
  orIneligible (current.validateSuccessor next)
  return (⟨next, none, false, false, false⟩, {
    current := some next
    seen := Function.update folder.seen token.operationId (some (seenFromBurst next (memberFromToken token))) })

/-- `self.current.take().map(close_burst).transpose()` -/
def closeCurrent (folder : OperationBurstFolder) (fresh : FreshIds) :
    Except DetectorError (Option OperationBurst) :=
  match folder.current with
  | some current => do return some (← closeBurst current fresh.closingRevisionId)
  | none => return none

/-- mirrors evertrace-engine/src/segmentation/burst.rs:159-173 -/
def start (folder : OperationBurstFolder) (token : ActivityToken) (fresh : FreshIds) :
    Except DetectorError (BurstFoldUpdate × OperationBurstFolder) := do
  let closed ← folder.closeCurrent fresh
  let current ← newBurst token fresh
  return (⟨current, closed, true, current.isMeaningfulAfter closed, false⟩, {
    current := some current
    seen := Function.update folder.seen token.operationId (some (seenFromBurst current (memberFromToken token))) })

/-- The open burst, if the token extends it: it fits, and there is room. -/
def extended (folder : OperationBurstFolder) (token : ActivityToken) : Option OperationBurst :=
  folder.current.filter fun current => canExtend current token && current.members.length < 64

def foldNew (folder : OperationBurstFolder) (token : ActivityToken) (fresh : FreshIds) :
    Except DetectorError (BurstFoldUpdate × OperationBurstFolder) :=
  match folder.extended token with
  | some current => folder.extend current token fresh
  | none => folder.start token fresh

/-- mirrors evertrace-engine/src/segmentation/burst.rs:98-174 -/
def push (folder : OperationBurstFolder) (token : ActivityToken) (fresh : FreshIds) :
    Except DetectorError (BurstFoldUpdate × OperationBurstFolder) :=
  match folder.seen token.operationId with
  | none => folder.foldNew token fresh
  | some previous =>
    if token.operationRevision < previous.revision then .error .watermarkRegression
    else if previous.revision = token.operationRevision then
      if differsFromSeen previous token then .error .ineligible
      else do
        let current ← okOr .ineligible folder.current
        return (⟨current, none, false, false, true⟩, folder)
    else folder.foldNew token fresh

/-! ## What a push does -/

/-- The token is a later revision of its operation than any that was seen. -/
def Newer (seen : Seen) (token : ActivityToken) : Prop :=
  ∀ previous, seen token.operationId = some previous → previous.revision < token.operationRevision

/-- The operation of `token` is now seen as a member of `burst`. -/
def see (seen : Seen) (burst : OperationBurst) (token : ActivityToken) : Seen :=
  Function.update seen token.operationId (some (seenFromBurst burst (memberFromToken token)))

/-- The ways a token is accepted. -/
inductive Pushed (folder : OperationBurstFolder) (token : ActivityToken) (fresh : FreshIds) :
    BurstFoldUpdate → OperationBurstFolder → Prop
  | replayed (current : OperationBurst) (hcurrent : folder.current = some current) :
    Pushed folder token fresh ⟨current, none, false, false, true⟩ folder
  | extended (current : OperationBurst) (hnewer : Newer folder.seen token)
      (hextended : folder.extended token = some current)
      (hsuccessor : current.validateSuccessor (extendBurst current token fresh.burstRevisionId) = .ok ()) :
    Pushed folder token fresh ⟨extendBurst current token fresh.burstRevisionId, none, false, false, false⟩
      ⟨some (extendBurst current token fresh.burstRevisionId),
        see folder.seen (extendBurst current token fresh.burstRevisionId) token⟩
  | first (hnewer : Newer folder.seen token) (hcurrent : folder.current = none)
      (hvalid : (openBurst token fresh).validate = .ok ()) :
    Pushed folder token fresh
      ⟨openBurst token fresh, none, true, (openBurst token fresh).isMeaningfulAfter none, false⟩
      ⟨some (openBurst token fresh), see folder.seen (openBurst token fresh) token⟩
  | next (current : OperationBurst) (hnewer : Newer folder.seen token) (hcurrent : folder.current = some current)
      (hextended : folder.extended token = none)
      (hsuccessor : current.validateSuccessor (closedBurst current fresh.closingRevisionId) = .ok ())
      (hvalid : (openBurst token fresh).validate = .ok ()) :
    Pushed folder token fresh
      ⟨openBurst token fresh, some (closedBurst current fresh.closingRevisionId), true,
        (openBurst token fresh).isMeaningfulAfter (some (closedBurst current fresh.closingRevisionId)), false⟩
      ⟨some (openBurst token fresh), see folder.seen (openBurst token fresh) token⟩

/-- A token that changes anything is a newer revision, and is now seen in its burst. -/
theorem Pushed.seen_eq {folder folder' : OperationBurstFolder} {token : ActivityToken} {fresh : FreshIds}
    {update : BurstFoldUpdate} (h : Pushed folder token fresh update folder') (hdelta : update.noDelta = false) :
    Newer folder.seen token ∧ folder'.seen = see folder.seen update.current token := by
  cases h with
  | replayed => cases hdelta
  | extended current hnewer | first hnewer | next current hnewer => exact ⟨hnewer, rfl⟩

theorem closeBurst_ok {current next : OperationBurst} {revisionId : RevisionId}
    (h : closeBurst current revisionId = .ok next) :
    next = closedBurst current revisionId ∧ current.validateSuccessor next = .ok () := by
  unfold closeBurst at h
  obtain ⟨_, -, h⟩ := bind_eq_ok.mp h
  obtain ⟨_, hsuccessor, h⟩ := bind_eq_ok.mp h
  cases h
  exact ⟨rfl, orIneligible_ok.mp hsuccessor⟩

theorem newBurst_ok {token : ActivityToken} {fresh : FreshIds} {burst : OperationBurst}
    (h : newBurst token fresh = .ok burst) : burst = openBurst token fresh ∧ burst.validate = .ok () := by
  unfold newBurst at h
  obtain ⟨_, hvalid, h⟩ := bind_eq_ok.mp h
  cases h
  exact ⟨rfl, orIneligible_ok.mp hvalid⟩

theorem foldNew_ok {folder folder' : OperationBurstFolder} {token : ActivityToken} {fresh : FreshIds}
    {update : BurstFoldUpdate} (hnewer : Newer folder.seen token)
    (h : folder.foldNew token fresh = .ok (update, folder')) : Pushed folder token fresh update folder' := by
  unfold foldNew at h
  cases hextended : folder.extended token with
  | some current =>
    rw [hextended] at h
    obtain ⟨_, -, h⟩ := bind_eq_ok.mp h
    obtain ⟨_, hsuccessor, h⟩ := bind_eq_ok.mp h
    cases h
    exact .extended current hnewer hextended (orIneligible_ok.mp hsuccessor)
  | none =>
    rw [hextended] at h
    obtain ⟨closed, hclosed, h⟩ := bind_eq_ok.mp h
    obtain ⟨burst, hburst, h⟩ := bind_eq_ok.mp h
    obtain ⟨rfl, hvalid⟩ := newBurst_ok hburst
    cases h
    unfold closeCurrent at hclosed
    cases hcurrent : folder.current with
    | none =>
      rw [hcurrent] at hclosed
      cases hclosed
      exact .first hnewer hcurrent hvalid
    | some current =>
      rw [hcurrent] at hclosed
      obtain ⟨value, hvalue, hclosed⟩ := bind_eq_ok.mp hclosed
      obtain ⟨rfl, hsuccessor⟩ := closeBurst_ok hvalue
      cases hclosed
      exact .next current hnewer hcurrent hextended hsuccessor hvalid

theorem push_ok {folder folder' : OperationBurstFolder} {token : ActivityToken} {fresh : FreshIds}
    {update : BurstFoldUpdate} (h : folder.push token fresh = .ok (update, folder')) :
    Pushed folder token fresh update folder' := by
  unfold push at h
  cases hseen : folder.seen token.operationId with
  | none =>
    rw [hseen] at h
    exact foldNew_ok (fun previous hprevious => by rw [hseen] at hprevious; cases hprevious) h
  | some previous =>
    rw [hseen] at h
    obtain ⟨hregression, h⟩ := ite_error_else.mp h
    split at h
    · obtain ⟨-, h⟩ := ite_error_else.mp h
      obtain ⟨current, hcurrent, h⟩ := bind_eq_ok.mp h
      cases h
      exact .replayed current (okOr_ok.mp hcurrent)
    · next hne =>
      refine foldNew_ok (fun value hvalue => ?_) h
      obtain rfl : previous = value := Option.some.inj (hseen.symm.trans hvalue)
      omega

/-- What it takes to extend a burst, as far as later proofs need it. -/
structure Extends (current : OperationBurst) (token : ActivityToken) : Prop where
  isOpen : current.lifecycle = .open_
  phase : current.phaseCandidate = token.observedPhaseKind
  noEvidence : token.boundaryEvidence = .none
  attempt : current.attemptId = token.attemptId
  room : current.members.length < 64

theorem extended_some {folder : OperationBurstFolder} {token : ActivityToken} {current : OperationBurst}
    (h : folder.extended token = some current) : folder.current = some current ∧ Extends current token := by
  unfold extended at h
  obtain ⟨hcurrent, h⟩ := Option.filter_eq_some_iff.mp h
  simp only [canExtend, Bool.and_eq_true, beq_iff_eq, decide_eq_true_eq, and_assoc] at h
  obtain ⟨hopen, -, -, -, -, hphase, -, hevidence, -, -, -, -, -, -, hattempt, -, -, -, -, -, -, -, hroom⟩ := h
  exact ⟨hcurrent, hopen, hphase, hevidence, hattempt, hroom⟩

/-! ## What `restore` rebuilds -/

theorem recordSeen_newer {seen : Seen} {burst : OperationBurst} {token : ActivityToken}
    (h : Newer seen token) :
    recordSeen seen (token.operationId, seenFromBurst burst (memberFromToken token)) =
      .ok (see seen burst token) := by
  unfold recordSeen
  cases hseen : seen token.operationId with
  | none => rfl
  | some previous =>
    have hlt : previous.revision < (seenFromBurst burst (memberFromToken token)).revision := h previous hseen
    simp only [if_pos hlt]
    rfl

theorem foldlM_recordBurst {bursts : List OperationBurst} (hvalid : ∀ b ∈ bursts, b.validate = .ok ())
    (seen : Seen) : bursts.foldlM recordBurst seen = (bursts.flatMap seenEntries).foldlM recordSeen seen := by
  induction bursts generalizing seen with
  | nil => rfl
  | cons b rest ih =>
    have hb : recordBurst seen b = (seenEntries b).foldlM recordSeen seen := by
      unfold recordBurst
      rw [orIneligible_ok.mpr (hvalid b List.mem_cons_self)]
      rfl
    rw [List.foldlM_cons, List.flatMap_cons, List.foldlM_append, hb]
    congr 1
    funext seen'
    exact ih (fun b hb => hvalid b (List.mem_cons_of_mem _ hb)) seen'

/-- Valid bursts, at most 64 of them and at most one open, are restored by replaying their members. -/
theorem restore_ok {bursts : List OperationBurst} {seen : Seen} (hvalid : ∀ b ∈ bursts, b.validate = .ok ())
    (hlength : bursts.length ≤ 64) (hopen : (bursts.filter fun b => b.lifecycle == .open_).length ≤ 1)
    (hseen : (bursts.flatMap seenEntries).foldlM recordSeen (fun _ => none) = .ok seen) :
    restore bursts = .ok ⟨(bursts.filter fun b => b.lifecycle == .open_).head?, seen⟩ := by
  unfold restore
  rw [if_neg (by simp only [Bool.or_eq_true, decide_eq_true_eq]; omega), foldlM_recordBurst hvalid, hseen]
  rfl

end OperationBurstFolder

end EverTrace.L2.Segmentation
