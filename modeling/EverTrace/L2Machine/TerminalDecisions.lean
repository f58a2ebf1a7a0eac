import EverTrace.L2Machine.RecallWorker
/-!
# Two ways to end a prospective need (`evertrace-engine/src/recall/`)

Detection ends the need recorded at the current boundary by a fold over the
conditions of its contracts, in the order of the index: the last decided one
stands (detector.rs:58-78). Validation first asks whether the need has expired
or was recorded for another context, then reads the need's contract ids and
returns at the first one that is missing or decided (validation.rs:159-217).
Both orders are those of the contract ids, so the two answers differ when
validation has one of its own (`expired`, `superseded`), or when the first and
the last decided contract do.

Result: `terminal_decisions`; `mixed_decisions` is a need whose first contract
is suppressed and whose second is resolved.
-/
namespace EverTrace.L2.Recall
open EverTrace.Lib EverTrace.L1 EverTrace.L1.Canonical EverTrace.L2.Work EverTrace.L2.Semantic

variable {H : Sha256} {context : RecallCurrentContext} {index : RecallTriggerIndex} {nowUs : Int64} {fresh : FreshIds}
  {need : RecallNeed}

/-! ## The decisions -/

/-- What a condition makes of a need that rests on its contract. -/
def decided (condition : FutureCueCandidateCondition) : Option RecallObligationState :=
  if condition.resolveTruth = .true_ then some .resolved
  else if condition.suppressTruth = .true_ then some .canceled
  else none

/-- The last decision among the conditions of the contracts. -/
def lastDecision (conditions : List FutureCueCandidateCondition) (contractIds : List Digest) :
    Option RecallObligationState :=
  ((conditions.filter fun condition => contractIds.contains condition.futureCueContractId).filterMap decided).getLast?

/-- The first answer along the contract ids: a contract without a condition supersedes the need. -/
def firstAnswer (conditions : List FutureCueCandidateCondition) : List Digest → Option RecallObligationState
  | [] => none
  | contractId :: rest =>
    match conditions.find? fun condition => condition.futureCueContractId = contractId with
    | none => some .superseded
    | some condition => (decided condition).or (firstAnswer conditions rest)

/-- The conditions that both functions look at. -/
def currentConditions (context : RecallCurrentContext) (index : RecallTriggerIndex) : List FutureCueCandidateCondition :=
  index.evaluate (checkpointState context.checkpoint) none

theorem decided_cases {condition : FutureCueCandidateCondition} {state : RecallObligationState}
    (h : decided condition = some state) : state = .resolved ∨ state = .canceled := by
  unfold decided at h
  split at h
  · exact .inl (Option.some.inj h).symm
  · split at h
    · exact .inr (Option.some.inj h).symm
    · cases h

theorem lastDecision_cases {conditions : List FutureCueCandidateCondition} {ids : List Digest}
    {state : RecallObligationState} (h : lastDecision conditions ids = some state) :
    state = .resolved ∨ state = .canceled := by
  obtain ⟨condition, -, hdecided⟩ := List.mem_filterMap.mp (List.mem_of_getLast? h)
  exact decided_cases hdecided

/-! ## Detection -/

theorem foldl_decided : ∀ (l : List FutureCueCandidateCondition) (init : Option RecallObligationState),
    l.foldl (fun terminal condition =>
      if condition.resolveTruth = .true_ then some .resolved
      else if condition.suppressTruth = .true_ then some .canceled
      else terminal) init = (l.filterMap decided).getLast?.or init := by
  intro l
  induction l with
  | nil => intro init; rfl
  | cons c l ih =>
    intro init
    have hstep : (if c.resolveTruth = .true_ then some RecallObligationState.resolved
        else if c.suppressTruth = .true_ then some .canceled else init) = (decided c).or init := by
      unfold decided
      split
      · rfl
      · split <;> rfl
    rw [List.foldl_cons, ih, List.filterMap_cons, hstep]
    cases decided c with
    | none => rfl
    | some state =>
      rw [List.getLast?_cons]
      cases (l.filterMap decided).getLast? <;> rfl

theorem endedBy_eq (conditions : List FutureCueCandidateCondition) (hfamily : need.triggerFamily = .prospectiveObligation) :
    endedBy conditions need = lastDecision conditions need.matchedContractIds := by
  unfold endedBy lastDecision
  rw [if_neg (not_not.mpr hfamily), foldl_decided, Option.or_none]

theorem detection_ended {ended : RecallNeed} {state : RecallObligationState}
    (h : detection context index nowUs = .ok (.ended ended state)) (hneed : need ∈ context.needs)
    (hboundary : need.boundaryEventRef = context.checkpoint.stableKey) :
    ended = need ∧ endedBy (currentConditions context index) need = some state := by
  unfold detection at h
  dsimp only at h
  split at h
  · cases h
  rw [ite_error_else] at h
  obtain ⟨hone, h⟩ := h
  have hmem : need ∈ context.needs.filter fun n => n.boundaryEventRef = context.checkpoint.stableKey :=
    List.mem_filter.mpr ⟨hneed, decide_eq_true hboundary⟩
  generalize (context.needs.filter fun n => n.boundaryEventRef = context.checkpoint.stableKey) = existing at h hone hmem
  have hhead : existing.head? = some need := by
    match existing, hone, hmem with
    | [n], _, hmem => rw [List.mem_singleton.mp hmem, List.head?_cons]
    | _ :: _ :: _, hone, _ => simp at hone
  split at h
  · next n st hended =>
    cases h
    rw [hhead, Option.bind_some] at hended
    obtain ⟨s, hs, heq⟩ := Option.map_eq_some_iff.mp hended
    cases heq
    exact ⟨rfl, hs⟩
  · split at h
    · cases h
    · split at h
      · cases h
      · split at h <;> cases h

theorem terminal_of_detect {event : RecallNeed}
    (h : detectCurrentContext H context index nowUs fresh = .ok (some (.needRecorded event)))
    (hterminal : event.obligationState ≠ .active) (hneed : need ∈ context.needs)
    (hfamily : need.triggerFamily = .prospectiveObligation)
    (hboundary : need.boundaryEventRef = context.checkpoint.stableKey) :
    event.recallNeedId = need.recallNeedId ∧
      lastDecision (currentConditions context index) need.matchedContractIds = some event.obligationState := by
  unfold detectCurrentContext at h
  obtain ⟨d, hd, h⟩ := bind_eq_ok.mp h
  cases d with
  | none => cases h
  | ended n state =>
    obtain ⟨rfl, hended⟩ := detection_ended hd hneed hboundary
    obtain ⟨e, he, h⟩ := bind_eq_ok.mp h
    cases h
    unfold terminalNeedEvent at he
    obtain ⟨_, -, he⟩ := bind_eq_ok.mp he
    obtain ⟨m, hm, he⟩ := bind_eq_ok.mp he
    cases he
    rw [mapError_ok] at hm
    obtain ⟨_, _, -, -, rfl⟩ := seal_eq_ok.mp hm
    rw [endedBy_eq _ hfamily] at hended
    exact ⟨rfl, hended⟩
  | record family contracts current =>
    obtain ⟨m, hm, h⟩ := bind_eq_ok.mp h
    rw [mapError_ok] at hm
    obtain ⟨_, _, -, -, rfl⟩ := seal_eq_ok.mp hm
    split at h
    · cases h
    · cases h
      exact absurd rfl hterminal

/-! ## Validation -/

theorem firstAnswer_of_matchedContracts {conditions : List FutureCueCandidateCondition} {state : RecallObligationState} :
    ∀ {ids : List Digest}, matchedContracts context index conditions ids = .error (.terminal state) →
      firstAnswer conditions ids = some state := by
  intro ids
  induction ids with
  | nil => intro h; cases h
  | cons id rest ih =>
    intro h
    unfold matchedContracts at h
    unfold firstAnswer
    cases hfind : conditions.find? (fun value => value.futureCueContractId = id) with
    | none =>
      rw [hfind] at h
      cases h
      rfl
    | some condition =>
      rw [hfind] at h
      dsimp only [decided] at h ⊢
      split at h
      · next hresolve =>
        cases h
        rw [if_pos hresolve]
        rfl
      next hresolve =>
      split at h
      · next hsuppress =>
        cases h
        rw [if_neg hresolve, if_pos hsuppress]
        rfl
      next hsuppress =>
      rw [if_neg hresolve, if_neg hsuppress]
      split at h
      · cases h
      · split at h
        · cases h
        · cases hrest : matchedContracts context index conditions rest with
          | ok tail => rw [hrest] at h; cases h
          | error e =>
            rw [hrest] at h
            cases h
            exact ih hrest

/-- What validation says of a need one of whose contracts is decided. -/
theorem terminal_of_validity {state state' : RecallObligationState}
    (h : currentNeedValidity H context need index nowUs = .ok (.terminal state'))
    (hfamily : need.triggerFamily = .prospectiveObligation)
    (hdecided : lastDecision (currentConditions context index) need.matchedContractIds = some state) :
    if need.obligationExpiresAtUs.any (fun expiry => expiry ≤ nowUs) then state' = .expired
    else if sameContext context need then firstAnswer (currentConditions context index) need.matchedContractIds = some state'
    else state' = .superseded := by
  unfold currentNeedValidity at h
  split at h
  · cases h
  split at h
  · next hexpired =>
    cases h
    rw [if_pos hexpired]
  next hexpired =>
  rw [if_neg hexpired]
  split at h
  · next hcontext =>
    cases h
    rw [if_neg (by simpa using hcontext)]
  next hcontext =>
  rw [if_pos (by simpa using hcontext)]
  unfold expectedContracts at h
  rw [hfamily] at h
  dsimp only at h
  cases hmatched : matchedContracts context index (index.evaluate (checkpointState context.checkpoint) none)
      need.matchedContractIds with
  | error validity =>
    rw [hmatched] at h
    cases h
    exact firstAnswer_of_matchedContracts hmatched
  | ok contracts =>
    -- a decided contract stops the loop
    obtain ⟨condition, hmem, hcondition⟩ := List.mem_filterMap.mp (List.mem_of_getLast? hdecided)
    obtain ⟨hmem, hin⟩ := List.mem_filter.mp hmem
    obtain ⟨hresolve, hsuppress⟩ := matchedContracts_not_ended (evaluate_distinct index _ _) _ contracts hmatched
      condition hmem (by simpa using hin)
    unfold decided at hcondition
    rw [if_neg hresolve, if_neg hsuppress] at hcondition
    cases hcondition

/-! ## A need with two answers -/

/-- A checkpoint of the delivery phase under a label. -/
def labelCheckpoint (label : String) : WorkCheckpoint where
  episodeId := ⟨0x70008000000000000010⟩
  episodeRevisionId := ⟨0x70008000000000000011⟩
  sourceWatermark := 4
  activeAttemptIds := []
  attemptRevisionRefs := []
  phaseContract := ⟨"g", .deliver, label, [], [], "a", "t"⟩
  openLoops := []
  verifierState := .passed
  verifierRefs := []
  currentWorktreeSnapshotId := none
  createdReason := .stop
  continuationCandidate := false
  activeLineageRefs := []
  captureReceiptRevisionIds := []
  captureGapRefs := []
  captureOutageRefs := []
  algorithmRevision := 1

def labelContext (label : String) (needs : List RecallNeed) : RecallCurrentContext where
  taskId := ⟨0x70008000000000000012⟩
  workstreamId := ⟨0x70008000000000000013⟩
  repositoryInstanceId := none
  activeWorktreeInstanceId := none
  hostSessionId := "s"
  executionLaneId := ⟨0x70008000000000000014⟩
  episodeRevisionId := ⟨0x70008000000000000011⟩
  checkpoint := labelCheckpoint label
  previousCheckpoint := none
  workBindingRevisionId := ⟨0x70008000000000000015⟩
  scopeEffectRefs := []
  needs := needs

/-- A contract that the label `done` suppresses; its id is the SHA-256 contract id at watermark 1. -/
def suppressedContract : FutureCueContract where
  futureCueContractId :=
    ⟨[0x4a, 0x1f, 0xea, 0xe4, 0x33, 0x48, 0x98, 0x07, 0x31, 0xa2, 0x8e, 0xb7, 0x1a, 0x1d, 0xeb, 0x42, 0x40, 0x3f, 0x42,
      0x42, 0xb5, 0xdb, 0x80, 0xd5, 0x85, 0x9b, 0xb4, 0xdf, 0xb0, 0x39, 0xc7, 0xec], rfl⟩
  sourceRevisionId := ⟨0x70008000000000000001⟩
  matchExpr := .eq .phaseKind (.text "deliver")
  suppressExpr := .eq .phase (.text "done")
  resolveExpr := .eq .verifierState (.text "failed")

/-- A contract that the label `done` resolves; its id is the SHA-256 contract id at watermark 2. -/
def resolvedContract : FutureCueContract where
  futureCueContractId :=
    ⟨[0x92, 0x81, 0xb0, 0x27, 0x0b, 0x3c, 0x78, 0x0a, 0x30, 0x60, 0x50, 0x19, 0xf7, 0xea, 0xff, 0x53, 0x64, 0x7b, 0x5d,
      0xac, 0x41, 0x8a, 0xbd, 0xf5, 0x5f, 0x2d, 0x92, 0x29, 0x08, 0xba, 0x40, 0x24], rfl⟩
  sourceRevisionId := ⟨0x70008000000000000002⟩
  matchExpr := .eq .phaseKind (.text "deliver")
  suppressExpr := .eq .verifierState (.text "failed")
  resolveExpr := .eq .phase (.text "done")

def twoIndex : RecallTriggerIndex where
  entries := [⟨suppressedContract, .task ⟨0x70008000000000000012⟩⟩, ⟨resolvedContract, .task ⟨0x70008000000000000012⟩⟩]
  sorted := by
    rw [List.pairwise_pair]
    decide +kernel

def labelFresh : FreshIds := ⟨⟨0x70008000000000000021⟩, ⟨0x70008000000000000022⟩, fun _ => ⟨0x70008000000000000023⟩⟩

/-- The SHA-256 values of the canonical encodings of the plan (242 bytes) and of the need (732 bytes). -/
def labelSha : Sha256 where
  digest b := if b.length = 242 then
      [0x2d, 0xc9, 0xe2, 0xd4, 0xc0, 0x5d, 0x71, 0x26, 0x21, 0xb5, 0x5a, 0x98, 0xaa, 0x10, 0x3e, 0x2f,
        0x37, 0x96, 0x63, 0x42, 0x12, 0x49, 0x54, 0x7d, 0x7c, 0x65, 0xfa, 0x9f, 0xa9, 0x4d, 0xab, 0x67]
    else
      [0xdb, 0x5e, 0x11, 0xd8, 0xb4, 0x72, 0x48, 0x54, 0xea, 0x10, 0x99, 0x99, 0x63, 0x6e, 0x4e, 0x9d,
        0x61, 0x4c, 0xe8, 0xe6, 0x70, 0xcd, 0x9a, 0x33, 0x0e, 0x02, 0xfe, 0x4c, 0x51, 0x09, 0xa1, 0x96]
  digest_length b := by split <;> rfl

/-- The need that detection records while the label is `p`. -/
def labelNeed : RecallNeed :=
  { detectedNeed (labelContext "p" []) 5 labelFresh .prospectiveObligation [suppressedContract, resolvedContract] none with
    recallPlanFingerprint := labelSha.hash (List.replicate 242 0)
    recallNeedHash := labelSha.hash [] }

/-- **Counterexample**: the need of both contracts, recorded under the label `p`. Under the label `done` detection ends
it as resolved, by its last contract, and validation as canceled, by its first. -/
theorem mixed_decisions :
    (detectCurrentContext labelSha (labelContext "p" []) twoIndex 5 labelFresh).toOption =
      some (some (.needRecorded labelNeed)) ∧
    labelNeed.obligationState = .active ∧ labelNeed.triggerFamily = .prospectiveObligation ∧
    labelNeed.boundaryEventRef = (labelContext "done" [labelNeed]).checkpoint.stableKey ∧
    (detectCurrentContext labelSha (labelContext "done" [labelNeed]) twoIndex 6 labelFresh).toOption =
      some (some (.needRecorded { labelNeed with
        parentRevisionId := some labelNeed.revisionId
        revisionId := ⟨0x70008000000000000023⟩
        obligationState := .resolved })) ∧
    (currentNeedValidity labelSha (labelContext "done" [labelNeed]) labelNeed twoIndex 6).toOption =
      some (.terminal .canceled) := by
  refine ⟨by decide +kernel, rfl, rfl, by decide +kernel, by decide +kernel, by decide +kernel⟩

/-! ## The two decisions -/

/-- Where every contract has a condition and the decided ones decide alike, the first answer is the last decision. -/
theorem firstAnswer_eq_lastDecision {conditions : List FutureCueCandidateCondition} {state state' : RecallObligationState}
    {ids : List Digest} (hlast : lastDecision conditions ids = some state)
    (hfirst : firstAnswer conditions ids = some state')
    (hpresent : ∀ id ∈ ids, ∃ c ∈ conditions, c.futureCueContractId = id)
    (halike : ∀ c ∈ conditions, ∀ d ∈ conditions, c.futureCueContractId ∈ ids → d.futureCueContractId ∈ ids →
      decided c ≠ none → decided d ≠ none → decided c = decided d) : state = state' := by
  obtain ⟨last, hmem, hdecided⟩ := List.mem_filterMap.mp (List.mem_of_getLast? hlast)
  obtain ⟨hlastMem, hlastIn⟩ := List.mem_filter.mp hmem
  -- the first answer is the decision of some condition
  have hanswer : ∀ rest : List Digest, (∀ id ∈ rest, id ∈ ids) → firstAnswer conditions rest = some state' →
      ∃ c ∈ conditions, c.futureCueContractId ∈ ids ∧ decided c = some state' := by
    intro rest
    induction rest with
    | nil => intro _ h; cases h
    | cons id rest ih =>
      intro hsub h
      obtain ⟨hid, hrest⟩ := List.forall_mem_cons.mp hsub
      unfold firstAnswer at h
      cases hfind : conditions.find? (fun c => c.futureCueContractId = id) with
      | none =>
        obtain ⟨c, hc, heq⟩ := hpresent id hid
        have := List.find?_eq_none.mp hfind c hc
        simp [heq] at this
      | some c =>
        rw [hfind] at h
        have hc := List.mem_of_find?_eq_some hfind
        have heq : c.futureCueContractId = id := of_decide_eq_true (List.find?_some hfind :)
        cases hd : decided c with
        | none =>
          dsimp only at h
          rw [hd, Option.none_or] at h
          exact ih hrest h
        | some st =>
          dsimp only at h
          rw [hd, Option.some_or] at h
          exact ⟨c, hc, heq ▸ hid, by rw [hd, h]⟩
  obtain ⟨first, hfirstMem, hfirstIn, hfirstDecided⟩ := hanswer ids (fun _ h => h) hfirst
  have := halike last hlastMem first hfirstMem (by simpa using hlastIn) hfirstIn (by rw [hdecided]; simp)
    (by rw [hfirstDecided]; simp)
  rw [hdecided, hfirstDecided] at this
  exact Option.some.inj this

/-- **The two terminal decisions.** Of a prospective need at the context's boundary that detection ends with
one state and validation with another or the same: detection's state is the last decision among the need's contracts;
validation's is `expired` for an expired need, `superseded` for another context, and else the first answer along the
contract ids. They are the same exactly for a need of this context that has not expired and whose first answer is the
last decision; it is when every contract has a condition and the decided ones decide alike. -/
theorem terminal_decisions (H : Sha256) (context : RecallCurrentContext) (index : RecallTriggerIndex) (nowUs : Int64)
    (fresh : FreshIds) (need event : RecallNeed) (state : RecallObligationState) (hneed : need ∈ context.needs)
    (hfamily : need.triggerFamily = .prospectiveObligation)
    (hboundary : need.boundaryEventRef = context.checkpoint.stableKey)
    (hdetect : detectCurrentContext H context index nowUs fresh = .ok (some (.needRecorded event)))
    (hterminal : event.obligationState ≠ .active)
    (hvalidity : currentNeedValidity H context need index nowUs = .ok (.terminal state)) :
    let conditions := currentConditions context index
    let expired := need.obligationExpiresAtUs.any fun expiry => expiry ≤ nowUs
    event.recallNeedId = need.recallNeedId ∧
      lastDecision conditions need.matchedContractIds = some event.obligationState ∧
      (if expired then state = .expired
        else if sameContext context need then firstAnswer conditions need.matchedContractIds = some state
        else state = .superseded) ∧
      (event.obligationState = state ↔ expired = false ∧ sameContext context need = true ∧
        firstAnswer conditions need.matchedContractIds = lastDecision conditions need.matchedContractIds) ∧
      (expired = false → sameContext context need = true →
        (∀ id ∈ need.matchedContractIds, ∃ c ∈ conditions, c.futureCueContractId = id) →
        (∀ c ∈ conditions, ∀ d ∈ conditions, c.futureCueContractId ∈ need.matchedContractIds →
          d.futureCueContractId ∈ need.matchedContractIds → decided c ≠ none → decided d ≠ none →
          decided c = decided d) →
        event.obligationState = state) := by
  obtain ⟨hid, hlast⟩ := terminal_of_detect hdetect hterminal hneed hfamily hboundary
  have hvalid := terminal_of_validity hvalidity hfamily hlast
  have hkind := lastDecision_cases hlast
  refine ⟨hid, hlast, hvalid, ?_, fun hexpired hsame hpresent halike => ?_⟩
  · rw [hlast]
    cases hexpired : need.obligationExpiresAtUs.any (fun expiry => expiry ≤ nowUs) with
    | true =>
      rw [hexpired, if_pos rfl] at hvalid
      rw [hvalid]
      exact ⟨fun h => by rw [h] at hkind; simp at hkind, fun h => by cases h.1⟩
    | false =>
      rw [hexpired, if_neg Bool.false_ne_true] at hvalid
      cases hsame : sameContext context need with
      | false =>
        rw [hsame, if_neg Bool.false_ne_true] at hvalid
        rw [hvalid]
        exact ⟨fun h => by rw [h] at hkind; simp at hkind, fun h => by cases h.2.1⟩
      | true =>
        rw [hsame, if_pos rfl] at hvalid
        rw [hvalid]
        exact ⟨fun h => ⟨rfl, rfl, by rw [h]⟩, fun h => (Option.some.inj h.2.2).symm⟩
  · rw [hexpired, if_neg Bool.false_ne_true, if_pos hsame] at hvalid
    exact firstAnswer_eq_lastDecision hlast hvalid hpresent halike

/-- The two decisions of the need above, taken apart: its first answer and its last decision differ. -/
theorem terminal_decisions_label :
    lastDecision (currentConditions (labelContext "done" [labelNeed]) twoIndex) labelNeed.matchedContractIds =
      some .resolved ∧
    firstAnswer (currentConditions (labelContext "done" [labelNeed]) twoIndex) labelNeed.matchedContractIds =
      some .canceled := by
  have h := terminal_decisions labelSha (labelContext "done" [labelNeed]) twoIndex 6 labelFresh labelNeed
    { labelNeed with
      parentRevisionId := some labelNeed.revisionId
      revisionId := ⟨0x70008000000000000023⟩
      obligationState := .resolved } .canceled List.mem_cons_self rfl (by decide +kernel)
    (toOption_eq_some.mp (by decide +kernel)) (by decide) (toOption_eq_some.mp (by decide +kernel))
  have hcontext : sameContext (labelContext "done" [labelNeed]) labelNeed = true := by decide +kernel
  refine ⟨h.2.1, ?_⟩
  have hanswer := h.2.2.1
  rw [if_neg (by decide +kernel), if_pos hcontext] at hanswer
  exact hanswer

end EverTrace.L2.Recall
