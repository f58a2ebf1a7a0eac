import EverTrace.L2Machine.RecallWorker
import EverTrace.Bugs.RecallRequestId
/-!
# A recall need that the worker writes and the ledger refuses

`detect_current_context` copies the checkpoint's attempts, the binding's scope
effects and the matched contracts' revisions into a new need and checks the
plan only (evertrace-engine/src/recall/detector.rs:128-130). The ledger checks
the whole need: at most 32 attempts, 32 scope effects and 32 source revisions
(evertrace-domain/src/recall.rs:152-162, 246-252), where a checkpoint and a
binding may hold 64 of each, and 32 contracts make 33 source revisions with the
episode's own. A need that is refused fails the whole journal command. Two
further ways to be refused are a clock at the end of its range, where the
presentation cannot expire later than now, and a need whose request id holds a
control character (`RecallRequestId`), of which no successor is valid.

Counterexample: a compact checkpoint with 33 active attempts.

`worker_accepted_iff` says exactly when the events of a context are accepted.
-/
namespace EverTrace.Bugs.RecallUnchecked
open EverTrace.Lib EverTrace.L1 EverTrace.L1.Canonical EverTrace.L2.Work EverTrace.L2.Recall
open EverTrace.Bugs.RecallRequestId

/-! ## The needs of a reachable ledger -/

/-- The request id of a need holds no control character. -/
def cleanNeed (need : RecallNeed) : Bool := need.activeRetrievalRequestId.all fun value => !hasControl value

/-- The need under a request id that is certainly valid. -/
def cleared (need : RecallNeed) : RecallNeed :=
  { need with activeRetrievalRequestId := need.activeRetrievalRequestId.map fun _ => "r" }

/-- The need is valid but for a control character in its request id. -/
def SoundNeed (H : Sha256) (need : RecallNeed) : Prop :=
  (cleared need).validate H = true ∧ need.activeRetrievalRequestId.all boundedText = true

variable {H : Sha256}

theorem validate_iff {n : RecallNeed} : n.validate H = true ↔ SoundNeed H n ∧ cleanNeed n = true := by
  have hr : boundedText "r" = true ∧ hasControl "r" = false := by decide +kernel
  unfold SoundNeed cleanNeed
  refine ⟨fun h => ?_, fun ⟨⟨h, hbounded⟩, hclean⟩ => ?_⟩
  · obtain ⟨ht, ha, hq⟩ := validate_axes_of h
    have hcleared : (cleared n).validate H = true := by
      refine validate_axes h ha (by rw [Option.isSome_map]; exact hq) ?_
      cases n.activeRetrievalRequestId <;> simp [hr.1, hr.2]
    cases hid : n.activeRetrievalRequestId with
    | none => exact ⟨⟨hcleared, rfl⟩, rfl⟩
    | some value =>
      rw [hid, Option.all_some, Bool.and_eq_true] at ht
      exact ⟨⟨hcleared, ht.1⟩, ht.2⟩
  · obtain ⟨-, ha, hq⟩ := validate_axes_of h
    have hvalid := validate_axes h ha (q := n.activeRetrievalRequestId)
      (by simpa [cleared] using hq) (by
        cases hid : n.activeRetrievalRequestId with
        | none => rfl
        | some value =>
          rw [hid, Option.all_some] at hbounded hclean
          rw [Option.all_some, hbounded, hclean]
          rfl)
    exact hvalid

/-- What every reachable ledger satisfies, whatever request ids it has taken. -/
structure Sound (H : Sha256) (s : RecallLedgerState) : Prop where
  key : ∀ {id n q}, s.needs.get id = some (n, q) → n.recallNeedId = id
  sound : ∀ {id n q}, s.needs.get id = some (n, q) → SoundNeed H n
  known : ∀ {id n q a}, s.needs.get id = some (n, q) → n.activePresentationAttemptId = some a →
    a ∈ s.presentationAttempts

variable {s s' : RecallLedgerState} {seq : UInt64} {e : RecallLedgerEvent}

theorem Sound.insert (h : Sound H s) {id : RecallNeedId} {n : RecallNeed}
    (needs : s'.needs = s.needs.insert id (n, seq)) (attempts : s.presentationAttempts ⊆ s'.presentationAttempts)
    (key : n.recallNeedId = id) (sound : SoundNeed H n)
    (known : ∀ a, n.activePresentationAttemptId = some a → a ∈ s'.presentationAttempts) : Sound H s' := by
  have hget : ∀ {k m q}, s'.needs.get k = some (m, q) → (k = id ∧ m = n) ∨ s.needs.get k = some (m, q) := by
    intro k m q hk
    rw [needs, OrdMap.get_insert] at hk
    split at hk
    · next hid =>
      cases hk
      exact .inl ⟨hid, rfl⟩
    · exact .inr hk
  refine ⟨fun hk => ?_, fun hk => ?_, fun hk ha => ?_⟩
  · rcases hget hk with ⟨rfl, rfl⟩ | hk
    · exact key
    · exact h.key hk
  · rcases hget hk with ⟨-, rfl⟩ | hk
    · exact sound
    · exact h.sound hk
  · rcases hget hk with ⟨-, rfl⟩ | hk
    · exact known _ ha
    · exact attempts (h.known hk ha)

/-- The axes of a sound need may change as long as their own clauses hold. -/
theorem SoundNeed.axes {n : RecallNeed} (h : SoundNeed H n) {d : RecallDeliveryState} {r : RecallAgentResponse}
    {a : Option PresentationAttemptId} {q : Option String} (ha : a.isSome = !d.claimable)
    (hq : q.isSome = (r != .notRetrieved)) (ht : q.all boundedText = true) :
    SoundNeed H { n with
      deliveryState := d
      agentResponse := r
      activePresentationAttemptId := a
      activeRetrievalRequestId := q } := by
  have hr : boundedText "r" = true ∧ hasControl "r" = false := by decide +kernel
  refine ⟨?_, ht⟩
  refine validate_axes h.1 (q := q.map fun _ => "r") ha (by rw [Option.isSome_map]; exact hq) ?_
  cases q <;> simp [hr.1, hr.2]

theorem SoundNeed.axes_of {n : RecallNeed} (h : SoundNeed H n) :
    n.activePresentationAttemptId.isSome = (!n.deliveryState.claimable) ∧
      n.activeRetrievalRequestId.isSome = (n.agentResponse != .notRetrieved) := by
  obtain ⟨-, ha, hq⟩ := validate_axes_of h.1
  exact ⟨ha, by simpa [cleared] using hq⟩

theorem step_sound (hstep : Step H s seq e s') (h : Sound H s) : Sound H s' := by
  cases hstep with
  | recordFirst valid _ _ _ _ attempt =>
    refine h.insert rfl (Finset.Subset.refl _) rfl (validate_iff.mp valid).1 fun a ha => ?_
    rw [attempt] at ha
    cases ha
  | recordNext valid found _ axes =>
    obtain ⟨-, -, hattempt, -⟩ := sameDeliveryAndAgentAxes_iff.mp axes
    refine h.insert rfl (Finset.Subset.refl _) rfl (validate_iff.mp valid).1 fun a ha => ?_
    rw [← hattempt] at ha
    exact h.known found ha
  | claim found =>
    have hkey := h.key found
    obtain ⟨-, hq⟩ := (h.sound found).axes_of
    refine h.insert rfl (Finset.subset_insert _ _) hkey ((h.sound found).axes rfl hq (h.sound found).2)
      fun a ha => ?_
    cases ha
    exact Finset.mem_insert_self _ _
  | @finish attempt need q found _ state own =>
    have hkey := h.key found
    obtain ⟨-, hq⟩ := (h.sound found).axes_of
    refine h.insert rfl (Finset.Subset.refl _) hkey ((h.sound found).axes ?_ hq (h.sound found).2)
      fun a ha => ?_
    · cases hs : attempt.state with
      | claimedForBoundary => exact absurd hs state
      | failedPreEmit => rfl
      | emitted | hostPresented | presentationUnknown => rw [own]; rfl
    · dsimp only at ha
      split at ha
      · cases ha
      · exact h.known found ha
  | retrieve text found =>
    have hkey := h.key found
    obtain ⟨ha, -⟩ := (h.sound found).axes_of
    exact h.insert rfl (Finset.Subset.refl _) hkey ((h.sound found).axes ha rfl text)
      fun a ha => h.known found ha
  | retrieved found _ _ _ own =>
    have hkey := h.key found
    obtain ⟨ha, -⟩ := (h.sound found).axes_of
    refine h.insert rfl (Finset.Subset.refl _) hkey ((h.sound found).axes ha ?_ (h.sound found).2)
      fun a ha => h.known found ha
    rw [own]
    split <;> rfl

theorem ledgerRun_sound (H : Sha256) (events : List (RecallLedgerEvent × UInt64)) : Sound H (ledgerRun H events) := by
  refine run_invariant events (fun s p _ h => ?_) _ ⟨fun h => ?_, fun h => ?_, fun h => ?_⟩
  · rcases apply_outcome H s p.1 p.2 with ⟨-, hstep⟩ | ⟨-, hsame⟩
    · exact step_sound hstep h
    · rw [ledgerNext, hsame]
      exact h
  · cases h
  · cases h
  · cases h

/-! ## What the ledger asks of a recorded need -/

theorem accepts_next_iff {n current : RecallNeed} {q : UInt64}
    (found : s.needs.get n.recallNeedId = some (current, q)) :
    ledgerAccepts H s (.needRecorded n, seq) = true ↔ n.validate H = true ∧
      n.parentRevisionId = some current.revisionId ∧ sameNeedIdentity current n = true ∧
      sameDeliveryAndAgentAxes current n = true ∧ legalObligationSuccessor current n = true := by
  unfold ledgerAccepts apply RecallLedgerEvent.validate recordNeed
  dsimp only
  rw [found]
  by_cases hv : n.validate H = true
  · rw [if_neg (by simp [hv])]
    dsimp only
    split
    · next h =>
      simp only [Bool.or_eq_true, bne_iff_ne, Bool.not_eq_true'] at h
      refine ⟨fun h => (by cases h), fun hall => ?_⟩
      obtain ⟨_, hp, hi, ha, hl⟩ := hall
      rw [hp, hi, ha, hl] at h
      simp at h
    · next h =>
      simp only [Bool.or_eq_true, bne_iff_ne, Bool.not_eq_true', not_or, not_not, Bool.not_eq_false] at h
      exact ⟨fun _ => ⟨hv, h.1.1.1, h.1.1.2, h.1.2, h.2⟩, fun _ => rfl⟩
  · rw [if_pos (by simpa using hv)]
    exact ⟨fun h => (by cases h), fun h => absurd h.1 hv⟩

theorem validate_of_accepts {n : RecallNeed} (h : ledgerAccepts H s (.needRecorded n, seq) = true) :
    n.validate H = true := by
  by_contra hv
  unfold ledgerAccepts apply RecallLedgerEvent.validate at h
  rw [if_pos (by simpa using hv)] at h
  cases h

theorem accepts_first_iff {n : RecallNeed} (absent : s.needs.get n.recallNeedId = none)
    (parent : n.parentRevisionId = none) (delivery : n.deliveryState = .detected)
    (response : n.agentResponse = .notRetrieved) (active : n.obligationState = .active)
    (attempt : n.activePresentationAttemptId = none) (request : n.activeRetrievalRequestId = none) :
    ledgerAccepts H s (.needRecorded n, seq) = true ↔ n.validate H = true := by
  unfold ledgerAccepts apply RecallLedgerEvent.validate recordNeed
  dsimp only
  rw [absent]
  dsimp only
  rw [parent, delivery, response, active, attempt, request]
  by_cases hv : n.validate H = true
  · simp [hv]
  · simp [hv]

/-- An event changes the need it is about and no other. -/
theorem ledgerNext_frame (p : RecallLedgerEvent × UInt64) {id : RecallNeedId} (hid : id ≠ p.1.needId) :
    (ledgerNext H s p).needs.get id = s.needs.get id := by
  rcases apply_outcome H s p.1 p.2 with ⟨-, hstep⟩ | ⟨-, hsame⟩
  · rw [ledgerNext]
    generalize (apply H s p.1 p.2).2 = s' at hstep
    generalize p.1 = e at hid hstep
    cases hstep with
    | recordFirst | recordNext | claim | finish | retrieve | retrieved =>
      exact OrdMap.get_insert_of_ne _ _ hid
  · rw [ledgerNext, hsame]

theorem SoundNeed.sealed {n : RecallNeed} (h : SoundNeed H n) :
    n.recallPlan.fingerprint H = .ok n.recallPlanFingerprint ∧ recallNeedHash H n = .ok n.recallNeedHash := by
  have hvalid := h.1
  unfold RecallNeed.validate at hvalid
  simp only [Bool.and_eq_true, beq_iff_eq] at hvalid
  obtain ⟨⟨⟨-, hf⟩, hh⟩, -⟩ := hvalid
  exact ⟨toOption_eq_some.mp hf, toOption_eq_some.mp hh⟩

/-- The next revision of a need, in another obligation state or with another expiry. -/
def successorOf (fresh : FreshIds) (n : RecallNeed) (state : RecallObligationState) (expiry : Int64) : RecallNeed :=
  { n with
    parentRevisionId := some n.revisionId
    revisionId := fresh.successor n.recallNeedId
    obligationState := state
    presentationExpiresAtUs := expiry }

/-- A successor that keeps what the digests cover is sealed already. -/
theorem SoundNeed.seal_successor {n : RecallNeed} (h : SoundNeed H n) (fresh : FreshIds)
    (state : RecallObligationState) (expiry : Int64) :
    (successorOf fresh n state expiry).seal H = .ok (successorOf fresh n state expiry) :=
  seal_of_sealed h.sealed.1 h.sealed.2

theorem SoundNeed.successor {n : RecallNeed} (h : SoundNeed H n) {fresh : FreshIds} (state : RecallObligationState)
    {expiry : Int64} (hfresh : fresh.successor n.recallNeedId ≠ n.revisionId) (hexpiry : n.createdAtUs < expiry) :
    SoundNeed H (successorOf fresh n state expiry) := by
  refine ⟨?_, h.2⟩
  have hvalid := h.1
  unfold RecallNeed.validate at hvalid ⊢
  simp only [Bool.and_eq_true, decide_eq_true_eq] at hvalid ⊢
  obtain ⟨⟨⟨⟨⟨⟨⟨⟨⟨⟨⟨⟨⟨⟨⟨⟨⟨⟨h1, h2⟩, -⟩, h4⟩, h5⟩, h6⟩, h7⟩, h8⟩, h9⟩, h10⟩, h11⟩, h12⟩, h13⟩, h14⟩, h15⟩, h16⟩, h17⟩,
    h18⟩, -⟩ := hvalid
  refine ⟨⟨⟨⟨⟨⟨⟨⟨⟨⟨⟨⟨⟨⟨⟨⟨⟨⟨h1, h2⟩, hexpiry⟩, h4⟩, h5⟩, h6⟩, h7⟩, h8⟩, h9⟩, h10⟩, h11⟩, h12⟩, h13⟩, h14⟩, h15⟩,
    h16⟩, h17⟩, h18⟩, ?_⟩
  simpa [cleared, successorOf] using Ne.symm hfresh

/-! ## One need -/

/-- Every event of the list is accepted, one after another. -/
def AllAccepted (H : Sha256) : RecallLedgerState → List (RecallLedgerEvent × UInt64) → Prop
  | _, [] => True
  | s, p :: rest => ledgerAccepts H s p = true ∧ AllAccepted H (ledgerNext H s p) rest

theorem allAccepted_append : ∀ (es fs : List (RecallLedgerEvent × UInt64)) (s : RecallLedgerState),
    AllAccepted H s (es ++ fs) ↔ AllAccepted H s es ∧ AllAccepted H (run (ledgerNext H) s es) fs := by
  intro es
  induction es with
  | nil => intro fs s; exact ⟨fun h => ⟨trivial, h⟩, fun h => h.2⟩
  | cons p rest ih =>
    intro fs s
    rw [List.cons_append, AllAccepted, AllAccepted, ih, and_assoc]
    rfl

theorem allAccepted_singleton (H : Sha256) (s : RecallLedgerState) (numbered : List (RecallLedgerEvent × UInt64))
    (h : numbered.map (ledgerAccepts H s) = [true]) : AllAccepted H s numbered := by
  obtain ⟨p, rfl, hacc⟩ := List.map_eq_singleton_iff.mp h
  exact ⟨hacc, trivial⟩

/-- What an action on a need asks for its event to be accepted: a need that expires in the last instant cannot be
re-armed. -/
def actionAllowed (need : RecallNeed) : NeedAction → Prop
  | .none | .terminal _ | .abandon _ => True
  | .rearm => need.presentationExpiresAtUs < Int64.maxValue

/-- The ledger holds the need as the context shows it, and `fresh` can name its next revision. -/
structure Held (H : Sha256) (fresh : FreshIds) (s : RecallLedgerState) (need : RecallNeed) : Prop where
  stored : ∃ q, s.needs.get need.recallNeedId = some (need, q)
  sound : SoundNeed H need
  active : need.obligationState = .active
  known : ∀ a, need.activePresentationAttemptId = some a → a ∈ s.presentationAttempts
  fresh : fresh.successor need.recallNeedId ≠ need.revisionId

theorem saturatingAdd_toInt (a b : Int64) :
    (saturatingAdd a b).toInt = max (-2 ^ 63) (min (2 ^ 63 - 1) (a.toInt + b.toInt)) := by
  unfold saturatingAdd
  rw [Int64.toInt_ofInt_of_le]
  · omega
  · omega

/-- Thirty seconds from now lie later than now unless now is the last instant. -/
theorem lt_saturatingAdd_iff {a : Int64} : a < saturatingAdd a 30000000 ↔ a < Int64.maxValue := by
  have hsum := saturatingAdd_toInt a 30000000
  have hmax := a.toInt_lt
  have hmin := a.le_toInt
  have hconst : (30000000 : Int64).toInt = 30000000 := by decide
  rw [Int64.lt_iff_toInt_lt, Int64.lt_iff_toInt_lt, hsum, hconst, Int64.toInt_maxValue]
  omega

variable {context : RecallCurrentContext} {index : RecallTriggerIndex} {nowUs : Int64} {fresh : FreshIds}
  {need : RecallNeed}

/-- A successor that keeps what the digests cover is accepted when the need is clean and the ledger's own rule for
successors holds. -/
theorem Held.accepts_successor (h : Held H fresh s need) (state : RecallObligationState) {expiry : Int64}
    (hexpiry : need.createdAtUs < expiry) :
    ledgerAccepts H s (.needRecorded (successorOf fresh need state expiry), seq) = true ↔
      cleanNeed need = true ∧ legalObligationSuccessor need (successorOf fresh need state expiry) = true := by
  obtain ⟨q, hq⟩ := h.stored
  have hfound : s.needs.get (successorOf fresh need state expiry).recallNeedId = some (need, q) := hq
  rw [accepts_next_iff hfound, validate_iff]
  have hsound := h.sound.successor state h.fresh hexpiry
  refine ⟨fun ⟨⟨_, hclean⟩, _, _, _, hlegal⟩ => ⟨hclean, hlegal⟩, fun ⟨hclean, hlegal⟩ => ?_⟩
  refine ⟨⟨hsound, hclean⟩, rfl, ?_, ?_, hlegal⟩
  · simp [sameNeedIdentity, successorOf]
  · simp [sameDeliveryAndAgentAxes, successorOf]

theorem SoundNeed.expires {n : RecallNeed} (h : SoundNeed H n) : n.createdAtUs < n.presentationExpiresAtUs := by
  have hvalid := h.1
  unfold RecallNeed.validate at hvalid
  simp only [Bool.and_eq_true, decide_eq_true_eq] at hvalid
  obtain ⟨⟨⟨⟨⟨⟨⟨⟨⟨⟨⟨⟨⟨⟨⟨⟨⟨⟨-, -⟩, h⟩, -⟩, -⟩, -⟩, -⟩, -⟩, -⟩, -⟩, -⟩, -⟩, -⟩, -⟩, -⟩, -⟩, -⟩, -⟩, -⟩ := hvalid
  exact h

theorem Held.accepts_terminal (h : Held H fresh s need) (seq : UInt64) {state : RecallObligationState}
    {event : RecallLedgerEvent} (hevent : terminalNeedEvent H fresh need state = .ok event) :
    event.needId = need.recallNeedId ∧ (ledgerAccepts H s (event, seq) = true ↔ cleanNeed need = true) := by
  unfold terminalNeedEvent at hevent
  obtain ⟨_, hguard, hevent⟩ := bind_eq_ok.mp hevent
  simp only [ensure_ok, Bool.and_eq_true, beq_iff_eq, bne_iff_ne] at hguard
  obtain ⟨m, hm, hevent⟩ := bind_eq_ok.mp hevent
  rw [mapError_ok] at hm
  cases hevent
  have hsealed : (successorOf fresh need state need.presentationExpiresAtUs).seal H = .ok m := hm
  rw [h.sound.seal_successor] at hsealed
  cases hsealed
  refine ⟨rfl, (h.accepts_successor state h.sound.expires).trans ⟨fun h => h.1, fun hclean => ⟨hclean, ?_⟩⟩⟩
  have hended : (successorOf fresh need state need.presentationExpiresAtUs).obligationState ≠ .active := hguard.2
  unfold legalObligationSuccessor
  rw [if_neg (not_not.mpr h.active), if_neg hended]
  simp [samePlan, successorOf]

theorem Held.accepts_rearm (h : Held H fresh s need) (seq : UInt64) {event : RecallLedgerEvent}
    (hevent : rearmEvent H fresh need nowUs = .ok event) (hexpired : need.presentationExpiresAtUs ≤ nowUs)
    (hfree : need.activePresentationAttemptId = none) (hclaimable : need.deliveryState.claimable = true) :
    event.needId = need.recallNeedId ∧ (ledgerAccepts H s (event, seq) = true ↔
      cleanNeed need = true ∧ need.presentationExpiresAtUs < Int64.maxValue) := by
  unfold rearmEvent at hevent
  obtain ⟨m, hm, hevent⟩ := bind_eq_ok.mp hevent
  rw [mapError_ok] at hm
  cases hevent
  have hsealed : (successorOf fresh need need.obligationState (saturatingAdd nowUs 30000000)).seal H = .ok m := hm
  rw [h.sound.seal_successor] at hsealed
  cases hsealed
  have hexpires := h.sound.expires
  have hsum := saturatingAdd_toInt nowUs 30000000
  have hmax := nowUs.toInt_lt
  have hconst : (30000000 : Int64).toInt = 30000000 := by decide
  rw [hconst] at hsum
  rw [Int64.le_iff_toInt_le] at hexpired
  rw [Int64.lt_iff_toInt_lt] at hexpires
  -- the new expiry lies after the old one unless the old one is the last instant
  have hlater : need.presentationExpiresAtUs < saturatingAdd nowUs 30000000 ↔
      need.presentationExpiresAtUs < Int64.maxValue := by
    rw [Int64.lt_iff_toInt_lt, Int64.lt_iff_toInt_lt, hsum, Int64.toInt_maxValue]
    omega
  refine ⟨rfl, (h.accepts_successor _ ?_).trans (and_congr_right fun _ => ?_)⟩
  · rw [Int64.lt_iff_toInt_lt, hsum]
    omega
  · rw [← hlater]
    have hstays : (successorOf fresh need need.obligationState (saturatingAdd nowUs 30000000)).obligationState =
        .active := h.active
    unfold legalObligationSuccessor
    rw [if_neg (not_not.mpr h.active), if_pos hstays]
    simp [samePlan, successorOf, hfree, hclaimable]

theorem Held.accepts_abandon (h : Held H fresh s need) (hnow : 0 ≤ nowUs)
    (hdelivery : need.deliveryState = .claimedForBoundary) {attemptId : PresentationAttemptId}
    (hattempt : need.activePresentationAttemptId = some attemptId) :
    ledgerAccepts H s (.presentationAttempt ⟨attemptId, need.recallNeedId, need.recallNeedHash,
      need.boundaryEventRef, .presentationUnknown, nowUs⟩, seq) = true := by
  obtain ⟨q, hq⟩ := h.stored
  have hknown := h.known attemptId hattempt
  have hbounded : boundedText need.boundaryEventRef = true := by
    have hvalid := h.sound.1
    unfold RecallNeed.validate at hvalid
    simp only [Bool.and_eq_true] at hvalid
    obtain ⟨⟨⟨⟨⟨⟨⟨⟨⟨⟨⟨⟨⟨⟨-, h⟩, -⟩, -⟩, -⟩, -⟩, -⟩, -⟩, -⟩, -⟩, -⟩, -⟩, -⟩, -⟩, -⟩ := hvalid
    exact h
  unfold ledgerAccepts apply RecallLedgerEvent.validate applyAttempt
  dsimp only
  rw [hq]
  simp [hbounded, hnow, h.active, hknown, hattempt, hdelivery]

/-! ## The needs of a context -/

variable {abandonClaims : Bool}

theorem clean_of_validity {validity : RecallNeedValidity}
    (h : currentNeedValidity H context need index nowUs = .ok validity) (hne : validity ≠ .unavailable) :
    cleanNeed need = true := by
  unfold currentNeedValidity at h
  split at h
  · cases h
    exact absurd rfl hne
  · next hvalid =>
    rw [not_or, Bool.not_eq_true', Bool.not_eq_false] at hvalid
    exact (validate_iff.mp hvalid.1).2

theorem needAction_cases {action : NeedAction} (h : needAction H context index nowUs abandonClaims need = .ok action) :
    (∃ state, action = .terminal state ∧ currentNeedValidity H context need index nowUs = .ok (.terminal state)) ∨
    (action = .none ∧ ∃ validity, currentNeedValidity H context need index nowUs = .ok validity ∧
      ∀ state, validity ≠ .terminal state) ∨
    (currentNeedValidity H context need index nowUs = .ok .valid ∧
      ((action = .rearm ∧ need.presentationExpiresAtUs ≤ nowUs ∧ need.activePresentationAttemptId = none ∧
          need.deliveryState.claimable = true) ∨
        ∃ attemptId, action = .abandon attemptId ∧ need.deliveryState = .claimedForBoundary ∧
          need.activePresentationAttemptId = some attemptId)) := by
  unfold needAction at h
  obtain ⟨validity, hvalidity, h⟩ := bind_eq_ok.mp h
  cases validity with
  | terminal state =>
    cases h
    exact .inl ⟨state, rfl, hvalidity⟩
  | unavailable =>
    cases h
    exact .inr (.inl ⟨rfl, _, hvalidity, fun _ h => by cases h⟩)
  | valid =>
    have hnone : action = .none → action = .none ∧ ∃ validity,
        currentNeedValidity H context need index nowUs = .ok validity ∧ ∀ state, validity ≠ .terminal state :=
      fun h => ⟨h, _, hvalidity, fun _ h => by cases h⟩
    dsimp only at h
    split at h
    · next hrearm =>
      cases h
      exact .inr (.inr ⟨hvalidity, .inl ⟨rfl, hrearm⟩⟩)
    · split at h
      · next hclaimed =>
        split at h
        · next attemptId hattempt =>
          cases h
          exact .inr (.inr ⟨hvalidity, .inr ⟨attemptId, rfl, hclaimed.1, hattempt⟩⟩)
        · cases h
          exact .inr (.inl (hnone rfl))
      · cases h
        exact .inr (.inl (hnone rfl))

/-- The event of an action, if any, is about its need and is accepted exactly when the action is allowed. -/
theorem Held.accepts_action (h : Held H fresh s need) (hnow : 0 ≤ nowUs) {action : NeedAction}
    (haction : needAction H context index nowUs abandonClaims need = .ok action)
    {numbered : List (RecallLedgerEvent × UInt64)} {flag : Bool}
    (hevent : actionEvent H fresh need nowUs action = .ok (numbered.map Prod.fst, flag)) :
    (∀ p ∈ numbered, p.1.needId = need.recallNeedId) ∧ (action = .none → numbered = []) ∧
      (AllAccepted H s numbered ↔ actionAllowed need action) := by
  -- the events of the other three actions are a list of one event
  have hone : ∀ {event : RecallLedgerEvent}, numbered.map Prod.fst = [event] → ∃ seq, numbered = [(event, seq)] := by
    intro event hmap
    obtain ⟨p, hp, rfl⟩ := List.map_eq_singleton_iff.mp hmap
    exact ⟨p.2, by rw [hp]⟩
  rcases needAction_cases haction with ⟨state, rfl, hvalidity⟩ | ⟨rfl, -⟩ | ⟨hvalidity,
    ⟨rfl, hexpired, hfree, hclaimable⟩ | ⟨attemptId, rfl, hdelivery, hattempt⟩⟩
  · obtain ⟨event, hterminal, hevent⟩ := bind_eq_ok.mp hevent
    obtain ⟨hmap, -⟩ := Prod.mk.inj (Except.ok.inj hevent)
    obtain ⟨seq, rfl⟩ := hone hmap.symm
    obtain ⟨hid, hiff⟩ := h.accepts_terminal seq hterminal
    refine ⟨fun p hp => ?_, fun h => (by cases h), ?_⟩
    · rw [List.mem_singleton.mp hp]
      exact hid
    · exact iff_of_true ⟨hiff.mpr (clean_of_validity hvalidity (by simp)), trivial⟩ trivial
  · obtain ⟨hmap, -⟩ := Prod.mk.inj (Except.ok.inj hevent)
    have hnil : numbered = [] := List.map_eq_nil_iff.mp hmap.symm
    subst hnil
    exact ⟨fun p hp => (by cases hp), fun _ => rfl, Iff.rfl⟩
  · obtain ⟨event, hrearm, hevent⟩ := bind_eq_ok.mp hevent
    obtain ⟨hmap, -⟩ := Prod.mk.inj (Except.ok.inj hevent)
    obtain ⟨seq, rfl⟩ := hone hmap.symm
    obtain ⟨hid, hiff⟩ := h.accepts_rearm seq hrearm hexpired hfree hclaimable
    refine ⟨fun p hp => ?_, fun h => (by cases h), ?_⟩
    · rw [List.mem_singleton.mp hp]
      exact hid
    · rw [AllAccepted, hiff, and_iff_right (clean_of_validity hvalidity (by simp))]
      exact and_iff_left trivial
  · obtain ⟨hmap, -⟩ := Prod.mk.inj (Except.ok.inj hevent)
    obtain ⟨seq, rfl⟩ := hone hmap.symm
    refine ⟨fun p hp => ?_, fun h => (by cases h), ?_⟩
    · rw [List.mem_singleton.mp hp]
      rfl
    · exact ⟨fun _ => trivial, fun _ => ⟨h.accepts_abandon hnow hdelivery hattempt, trivial⟩⟩

/-- Events about other needs leave a need as it was, and forget no attempt id. -/
theorem run_frame : ∀ (numbered : List (RecallLedgerEvent × UInt64)) (s : RecallLedgerState) {id : RecallNeedId},
    (∀ p ∈ numbered, p.1.needId ≠ id) → (run (ledgerNext H) s numbered).needs.get id = s.needs.get id := by
  intro numbered
  induction numbered with
  | nil => intro s id _; rfl
  | cons p rest ih =>
    intro s id h
    have hrest := ih (ledgerNext H s p) fun q hq => h q (List.mem_cons_of_mem _ hq)
    exact hrest.trans (ledgerNext_frame p (Ne.symm (h p List.mem_cons_self)))

theorem Held.frame (h : Held H fresh s need) {numbered : List (RecallLedgerEvent × UInt64)}
    (hother : ∀ p ∈ numbered, p.1.needId ≠ need.recallNeedId) :
    Held H fresh (run (ledgerNext H) s numbered) need := by
  obtain ⟨q, hq⟩ := h.stored
  exact ⟨⟨q, by rw [run_frame numbered s hother]; exact hq⟩, h.sound, h.active,
    fun a ha => (run_later H s numbered).attempts (h.known a ha), h.fresh⟩

/-- The action leaves room for a new need. -/
def quiet : NeedAction → Bool
  | .none | .abandon _ => true
  | .terminal _ | .rearm => false

theorem actionEvent_flag {action : NeedAction} {events : List RecallLedgerEvent} {flag : Bool}
    (h : actionEvent H fresh need nowUs action = .ok (events, flag)) : (!flag) = quiet action := by
  cases action with
  | none | abandon attemptId =>
    cases h
    rfl
  | terminal state | rearm =>
    obtain ⟨event, -, h⟩ := bind_eq_ok.mp h
    cases h
    rfl

/-- The loop over the needs: its events are about the needs it acts on, and all are accepted exactly when every
action is allowed. -/
theorem needsEvents_accepted (hnow : 0 ≤ nowUs) : ∀ (needs : List RecallNeed) (s : RecallLedgerState)
    (numbered : List (RecallLedgerEvent × UInt64)) (flag : Bool),
    needsEvents H context index nowUs abandonClaims fresh needs = .ok (numbered.map Prod.fst, flag) →
    needs.Pairwise (fun a b => a.recallNeedId ≠ b.recallNeedId) → (∀ n ∈ needs, Held H fresh s n) →
    (∀ p ∈ numbered, ∃ n ∈ needs, p.1.needId = n.recallNeedId ∧
      needAction H context index nowUs abandonClaims n ≠ .ok .none) ∧
    (AllAccepted H s numbered ↔ ∀ n ∈ needs, ∀ action,
      needAction H context index nowUs abandonClaims n = .ok action → actionAllowed n action) ∧
    (flag = false ↔ ∀ n ∈ needs, ∃ action, needAction H context index nowUs abandonClaims n = .ok action ∧
      quiet action = true) := by
  intro needs
  induction needs with
  | nil =>
    intro s numbered flag h _ _
    obtain ⟨hmap, hflag⟩ := Prod.mk.inj (Except.ok.inj h)
    have hnil : numbered = [] := List.map_eq_nil_iff.mp hmap.symm
    subst hnil
    exact ⟨fun p hp => (by cases hp), ⟨fun _ n hn => (by cases hn), fun _ => trivial⟩,
      ⟨fun _ n hn => (by cases hn), fun _ => hflag.symm⟩⟩
  | cons n rest ih =>
    intro s numbered flag h hdistinct hheld
    obtain ⟨hn, hrest⟩ := List.pairwise_cons.mp hdistinct
    unfold needsEvents at h
    obtain ⟨action, haction, h⟩ := bind_eq_ok.mp h
    obtain ⟨⟨events, flag₁⟩, hevent, h⟩ := bind_eq_ok.mp h
    obtain ⟨⟨later, flag₂⟩, hlater, h⟩ := bind_eq_ok.mp h
    obtain ⟨hmap, hflag⟩ := Prod.mk.inj (Except.ok.inj h)
    -- cut the numbered events where the need's own events end
    obtain ⟨first, last, rfl, rfl, rfl⟩ := List.map_eq_append_iff.mp hmap.symm
    have hhead := hheld n List.mem_cons_self
    obtain ⟨hown, hempty, hfirst⟩ := hhead.accepts_action hnow haction hevent
    have hother : ∀ m ∈ rest, ∀ p ∈ first, p.1.needId ≠ m.recallNeedId := by
      intro m hm p hp
      rw [hown p hp]
      exact hn m hm
    obtain ⟨hlast, hiff, hflags⟩ := ih (run (ledgerNext H) s first) last flag₂ hlater hrest fun m hm =>
      (hheld m (List.mem_cons_of_mem _ hm)).frame (hother m hm)
    refine ⟨fun p hp => ?_, ?_, ?_⟩
    · rcases List.mem_append.mp hp with hp | hp
      · refine ⟨n, List.mem_cons_self, hown p hp, fun hnone => ?_⟩
        rw [haction] at hnone
        rw [hempty (Except.ok.inj hnone)] at hp
        cases hp
      · obtain ⟨m, hm, hid, hact⟩ := hlast p hp
        exact ⟨m, List.mem_cons_of_mem _ hm, hid, hact⟩
    · rw [allAccepted_append, hfirst, hiff, List.forall_mem_cons]
      refine and_congr_left fun _ => ⟨fun h a ha => ?_, fun h => h action haction⟩
      rw [haction] at ha
      cases ha
      exact h
    · rw [← hflag, Bool.or_eq_false_iff, hflags, List.forall_mem_cons]
      refine and_congr_left fun _ => ⟨fun hfalse => ⟨action, haction, ?_⟩, fun ⟨a, ha, hquiet⟩ => ?_⟩
      · rw [← actionEvent_flag hevent, hfalse]
        rfl
      · rw [haction] at ha
        cases ha
        rw [← actionEvent_flag hevent] at hquiet
        simpa using hquiet

/-! ## The detected need -/

/-- What a need asks that detection does not check. -/
structure Bounded (context : RecallCurrentContext) (nowUs : Int64) (contracts : List FutureCueContract)
    (current : Option RecallNeed) : Prop where
  attempts : context.checkpoint.activeAttemptIds.length ≤ maxRecallRefs
  scope : context.scopeEffectRefs.length ≤ maxRecallRefs
  sources : (sourceRevisionsFor context contracts).length ≤ maxRecallRefs
  time : current = none → nowUs < Int64.maxValue
  clean : ∀ c, current = some c → cleanNeed c = true

theorem SoundNeed.times {n : RecallNeed} (h : SoundNeed H n) : n.createdAtUs ≥ 0 ∧
    n.presentationExpiresAtUs > n.createdAtUs ∧
    n.obligationExpiresAtUs.all (fun value => value > n.createdAtUs) = true := by
  have hvalid := h.1
  unfold RecallNeed.validate at hvalid
  simp only [Bool.and_eq_true, decide_eq_true_eq] at hvalid
  obtain ⟨⟨⟨⟨⟨⟨⟨⟨⟨⟨⟨⟨⟨⟨⟨⟨⟨⟨-, h2⟩, h3⟩, h4⟩, -⟩, -⟩, -⟩, -⟩, -⟩, -⟩, -⟩, -⟩, -⟩, -⟩, -⟩, -⟩, -⟩, -⟩, -⟩ := hvalid
  exact ⟨h2, h3, h4⟩

/-- What the context and the trigger guarantee of a detected need, and what is left to ask. -/
theorem detected_validate_iff {family : TriggerFamily} {contracts : List FutureCueContract}
    {current : Option RecallNeed} (h : Records context index nowUs family contracts current)
    (hsession : boundedText context.hostSessionId = true) (hscope : context.scopeEffectRefs.Pairwise (· < ·))
    (hcurrent : ∀ c, current = some c → Held H fresh s c)
    (hseal : (detectedNeed context nowUs fresh family contracts current).seal H = .ok need) :
    need.validate H = true ↔ Bounded context nowUs contracts current := by
  obtain ⟨fingerprint, hash, hf, hh, rfl⟩ := seal_eq_ok.mp hseal
  have hcheckpoint := h.checkpoint
  unfold WorkCheckpoint.validate at hcheckpoint
  obtain ⟨_, -, hcheckpoint⟩ := bind_eq_ok.mp hcheckpoint
  simp only [ensure_ok, Bool.and_eq_true, bne_iff_ne] at hcheckpoint
  obtain ⟨⟨⟨⟨⟨⟨⟨⟨⟨hwatermark, -⟩, hattempts⟩, -⟩, -⟩, -⟩, -⟩, -⟩, -⟩, -⟩ := hcheckpoint
  have hattempts := strictlyIncreasing_of_pairwise (ids_iff.mp hattempts).2
  have hscope := strictlyIncreasing_of_pairwise hscope
  have hwatermark : context.checkpoint.sourceWatermark > 0 := UInt64.pos_iff_ne_zero.mpr hwatermark
  have hsources : (sourceRevisionsFor context contracts).isEmpty = false ∧
      strictlyIncreasing (sourceRevisionsFor context contracts) = true := by
    refine ⟨?_, strictlyIncreasing_of_pairwise (sortUnique_pairwise _)⟩
    have hmem : context.episodeRevisionId ∈ sourceRevisionsFor context contracts := by simp [sourceRevisionsFor]
    exact List.isEmpty_eq_false_iff.mpr (List.ne_nil_of_mem hmem)
  have hmatched : contracts.length ≤ maxRecallRefs := by
    have hplan := h.planned
    unfold RecallPlan.validate at hplan
    simp only [planFor, Bool.and_eq_true, List.all_cons, decide_eq_true_eq, List.length_map] at hplan
    exact hplan.1.2.1.1.1
  have hids := strictlyIncreasing_of_pairwise (h.selected ▸
    contractsFor_sorted context index (evaluate_distinct index _ _))
  have hkey := context.checkpoint.boundedText_stableKey
  have hhash : (recallNeedHash H { detectedNeed context nowUs fresh family contracts current with
    recallPlanFingerprint := fingerprint, recallNeedHash := hash }).toOption = some hash :=
      toOption_eq_some.mpr hh
  unfold RecallNeed.validate
  rw [hhash]
  simp only [detectedNeed, RecallCurrentContext.triggerState, RecallTriggerState.validate, hwatermark, hattempts,
    hscope, hsources, hsession, hkey, hmatched, List.length_map, List.map_map, decide_true, Bool.true_and,
    Bool.and_true, Bool.not_false]
  have hplan : ((planFor context family contracts).fingerprint H).toOption = some fingerprint := toOption_eq_some.mpr hf
  have hids' : strictlyIncreasing (contracts.map (Digest.bytes ∘ FutureCueContract.futureCueContractId)) = true := hids
  rw [hplan, hids', h.planned]
  cases current with
  | none =>
    have hnow : nowUs ≥ 0 := Int64.not_lt.mp h.time
    simp only [Option.map_none, Option.getD_none, Option.bind_none, Option.all_none, Option.isSome_none,
      Option.isNone_none, hnow, decide_true, Bool.true_and, Bool.and_true, Bool.true_or, Bool.and_eq_true,
      beq_self_eq_true, bne_self_eq_false, RecallDeliveryState.claimable, Bool.not_true]
    refine ⟨fun hall => ?_, fun hb => ?_⟩
    · obtain ⟨⟨ht, ha, hs⟩, hsrc⟩ := hall
      exact ⟨of_decide_eq_true ha, of_decide_eq_true hs, of_decide_eq_true hsrc,
        fun _ => lt_saturatingAdd_iff.mp (of_decide_eq_true ht), fun c hc => (by cases hc)⟩
    exact ⟨⟨decide_eq_true (lt_saturatingAdd_iff.mpr (hb.time rfl)), decide_eq_true hb.attempts,
      decide_eq_true hb.scope⟩, decide_eq_true hb.sources⟩
  | some c =>
    have hheld := hcurrent c rfl
    obtain ⟨hcreated, hexpires, hobligation⟩ := hheld.sound.times
    obtain ⟨hattempt, hrequest⟩ := hheld.sound.axes_of
    have hfresh : (some c.revisionId != some (fresh.successor c.recallNeedId)) = true := by
      simpa using Ne.symm hheld.fresh
    have htext : c.activeRetrievalRequestId.all (fun value => boundedText value && !hasControl value) =
        cleanNeed c := by
      have hbounded := hheld.sound.2
      unfold cleanNeed
      cases hid : c.activeRetrievalRequestId with
      | none => rfl
      | some value =>
        rw [hid, Option.all_some] at hbounded
        rw [Option.all_some, Option.all_some, hbounded, Bool.true_and]
    simp only [Option.map_some, Option.getD_some, Option.bind_some, hcreated, hexpires, hattempt, hrequest,
      hfresh, htext, decide_true, Bool.true_and, Bool.and_true, Bool.or_true, Bool.and_eq_true, beq_self_eq_true]
    refine ⟨fun hall => ?_, fun hb => ?_⟩
    · obtain ⟨⟨⟨_, ha, hs⟩, hsrc⟩, hclean⟩ := hall
      exact ⟨of_decide_eq_true ha, of_decide_eq_true hs, of_decide_eq_true hsrc,
        fun hc => (by cases hc), fun d hd => Option.some.inj hd ▸ hclean⟩
    exact ⟨⟨⟨hobligation, decide_eq_true hb.attempts, decide_eq_true hb.scope⟩, decide_eq_true hb.sources⟩,
      hb.clean c rfl⟩

/-- A detected need is accepted exactly when it is bounded: the ledger's rules for a first record and for a successor
hold by construction. -/
theorem accepts_detected (seq : UInt64) {family : TriggerFamily} {contracts : List FutureCueContract}
    {current : Option RecallNeed} (h : Records context index nowUs family contracts current)
    (hsession : boundedText context.hostSessionId = true) (hscope : context.scopeEffectRefs.Pairwise (· < ·))
    (hcurrent : ∀ c, current = some c → Held H fresh s c ∧ (cleanNeed c = true → sameContext context c = true) ∧
      c.recallNeedHash ≠ need.recallNeedHash)
    (habsent : current = none → s.needs.get fresh.recallNeedId = none)
    (hseal : (detectedNeed context nowUs fresh family contracts current).seal H = .ok need) :
    ledgerAccepts H s (.needRecorded need, seq) = true ↔ Bounded context nowUs contracts current := by
  rw [← detected_validate_iff h hsession hscope (fun c hc => (hcurrent c hc).1) hseal]
  obtain ⟨fingerprint, hash, -, -, hneed⟩ := seal_eq_ok.mp hseal
  cases current with
  | none =>
    subst hneed
    exact accepts_first_iff (habsent rfl) rfl rfl rfl rfl rfl rfl
  | some c =>
    obtain ⟨hheld, hsame, hhash⟩ := hcurrent c rfl
    obtain ⟨q, hq⟩ := hheld.stored
    obtain ⟨-, -, hclaimable⟩ := h.found c rfl
    have hid : need.recallNeedId = c.recallNeedId := by
      rw [hneed]
      rfl
    have hfound : s.needs.get need.recallNeedId = some (c, q) := by
      rw [hid]
      exact hq
    rw [accepts_next_iff hfound]
    subst hneed
    refine ⟨fun h => h.1, fun hvalid => ?_⟩
    have hsame := hsame (validate_iff.mp hvalid).2
    refine ⟨hvalid, rfl, ?_, ?_, ?_⟩
    · simp only [sameContext, Bool.and_eq_true, beq_iff_eq] at hsame
      obtain ⟨⟨⟨⟨⟨⟨⟨⟨⟨h1, h2⟩, h3⟩, h4⟩, h5⟩, h6⟩, h7⟩, -⟩, h9⟩, -⟩ := hsame
      simp [sameNeedIdentity, detectedNeed, h1, h2, h3, h4, h5, h6, h7, h9]
    · simp [sameDeliveryAndAgentAxes, detectedNeed]
    · have hstays : (detectedNeed context nowUs fresh family contracts (some c)).obligationState = .active := rfl
      unfold legalObligationSuccessor
      rw [if_neg (not_not.mpr hheld.active), if_pos hstays]
      have hhash : (c.recallNeedHash != hash) = true := by simpa using hhash
      simp [detectedNeed, hclaimable, hhash]

/-! ## Contexts -/

/-- mirrors evertrace-domain/src/work.rs:699-705 -/
def validRef (value : String) : Bool := utf8 value ≠ [] && (utf8 value).length ≤ 256 && !hasControl value

/-- The active needs of a lane and an episode, in the order of their ids.
mirrors evertrace-store/src/projections.rs:9481-9492 -/
def currentNeeds (s : RecallLedgerState) (context : RecallCurrentContext) : List RecallNeed :=
  (s.needs.entries.map fun entry => entry.2.1).filter fun need =>
    need.sessionId == context.hostSessionId && need.executionLaneId == context.executionLaneId
      && need.episodeRevisionId == context.episodeRevisionId && need.obligationState == .active

/-- A context as the store reads it: the needs are those of the ledger, the lane and the binding were validated when
they were recorded (evertrace-domain/src/work.rs:285-292, work/binding.rs:127-130). -/
structure ContextOf (s : RecallLedgerState) (context : RecallCurrentContext) : Prop where
  needs : context.needs = currentNeeds s context
  session : validRef context.hostSessionId = true
  scope : context.scopeEffectRefs.length ≤ 64 ∧ strictlyOrderedUnique context.scopeEffectRefs = true

/-- What `new_v7` promises: ids that are not in use. -/
structure FreshFor (s : RecallLedgerState) (context : RecallCurrentContext) (fresh : FreshIds) : Prop where
  need : s.needs.get fresh.recallNeedId = none
  successor : ∀ n ∈ context.needs, fresh.successor n.recallNeedId ≠ n.revisionId

/-- No need of the context is ended or re-armed, so that the worker looks for a new one. -/
def Searches (H : Sha256) (context : RecallCurrentContext) (index : RecallTriggerIndex) (nowUs : Int64)
    (abandonClaims : Bool) : Prop :=
  ∀ n ∈ context.needs, ∃ action, needAction H context index nowUs abandonClaims n = .ok action ∧ quiet action = true

/-- The detected need is the current one again: it is not recorded. -/
def Unchanged (H : Sha256) (context : RecallCurrentContext) (nowUs : Int64) (fresh : FreshIds)
    (family : TriggerFamily) (contracts : List FutureCueContract) (current : Option RecallNeed) : Prop :=
  ∃ c need, current = some c ∧ (detectedNeed context nowUs fresh family contracts current).seal H = .ok need ∧
    c.recallNeedHash = need.recallNeedHash

/-- The condition under which the ledger takes what the worker writes for a context. -/
structure Admissible (H : Sha256) (context : RecallCurrentContext) (index : RecallTriggerIndex) (nowUs : Int64)
    (abandonClaims : Bool) (fresh : FreshIds) : Prop where
  acted : ∀ n ∈ context.needs, ∀ action, needAction H context index nowUs abandonClaims n = .ok action →
    actionAllowed n action
  ended : Searches H context index nowUs abandonClaims → ∀ n state,
    detection context index nowUs = .ok (.ended n state) → cleanNeed n = true
  recorded : Searches H context index nowUs abandonClaims → ∀ family contracts current,
    detection context index nowUs = .ok (.record family contracts current) →
      Unchanged H context nowUs fresh family contracts current ∨ Bounded context nowUs contracts current

/-! ## The defect -/

/-- The SHA-256 values of the canonical encodings of the plan and the need that are detected in `sampleContext`, with
1 and with 33 attempts. -/
def workerSha : Sha256 where
  digest b := if b.length = 160 then
      [0xd9, 0x65, 0xab, 0x7a, 0xe3, 0x19, 0xb7, 0x8c, 0xc5, 0x3f, 0xf5, 0xa2, 0x2c, 0x2c, 0xc1, 0x88,
        0x6a, 0x9a, 0x09, 0x85, 0xbf, 0x36, 0xe3, 0x1e, 0x50, 0x75, 0x7b, 0xcf, 0x77, 0x1e, 0xe8, 0xd4]
    else if b.length = 610 then
      [0xb1, 0x92, 0x64, 0x61, 0x7a, 0xa5, 0xae, 0x93, 0xb4, 0x64, 0x1f, 0xc9, 0x0f, 0x0b, 0xd7, 0x78,
        0x7d, 0x32, 0x73, 0x41, 0x65, 0x82, 0x59, 0x7a, 0x7f, 0x36, 0x21, 0xa0, 0xdb, 0x92, 0xd4, 0xfe]
    else
      [0x8e, 0x8a, 0x70, 0x98, 0x13, 0xbf, 0x8c, 0x34, 0x79, 0xd0, 0x9b, 0x68, 0x33, 0xda, 0x54, 0x0e,
        0xeb, 0xb3, 0x51, 0xd7, 0x60, 0xc4, 0x1c, 0xb8, 0xbf, 0x5a, 0x90, 0xc4, 0x88, 0x15, 0x02, 0xea]
  digest_length b := by
    split
    · rfl
    · split <;> rfl

/-- A checkpoint taken at a compaction, with an open loop and `attempts` active attempts. -/
def sampleCheckpoint (attempts : Nat) : WorkCheckpoint where
  episodeId := sampleId 8
  episodeRevisionId := sampleId 1
  sourceWatermark := 1
  activeAttemptIds := (List.range attempts).map fun n => ⟨Fin.ofNat _ (0x70008000000000000000 + n)⟩
  attemptRevisionRefs := []
  phaseContract := ⟨"g", .deliver, "p", [], [], "a", "t"⟩
  openLoops := ["l"]
  verifierState := .passed
  verifierRefs := []
  currentWorktreeSnapshotId := none
  createdReason := .compact
  continuationCandidate := true
  activeLineageRefs := []
  captureReceiptRevisionIds := []
  captureGapRefs := []
  captureOutageRefs := []
  algorithmRevision := 1

def sampleContext (attempts : Nat) : RecallCurrentContext where
  taskId := sampleId 3
  workstreamId := sampleId 4
  repositoryInstanceId := none
  activeWorktreeInstanceId := none
  hostSessionId := "s"
  executionLaneId := sampleId 2
  episodeRevisionId := sampleId 1
  checkpoint := sampleCheckpoint attempts
  previousCheckpoint := none
  workBindingRevisionId := sampleId 9
  scopeEffectRefs := []
  needs := []

def sampleFresh : FreshIds := ⟨sampleId 5, sampleId 6, fun _ => sampleId 7⟩

def sampleIndex : RecallTriggerIndex := ⟨[], .nil⟩

/-- The events for `sampleContext`, each with a sequence number. -/
@[irreducible] def sampleEmitted (attempts : Nat) : List (RecallLedgerEvent × UInt64) :=
  ((contextEvents workerSha (sampleContext attempts) sampleIndex 1 false sampleFresh).toOption.getD []).map (·, 1)

theorem sampleContext_of (attempts : Nat) : ContextOf (ledgerRun workerSha []) (sampleContext attempts) :=
  have hsession : validRef "s" = true := by decide +kernel
  ⟨rfl, hsession, by simp [sampleContext], rfl⟩

/-- **Counterexample**: the checkpoint is valid and the worker writes one event for its context, which the empty ledger
refuses. -/
theorem oversized_need_refused :
    ContextOf (ledgerRun workerSha []) (sampleContext 33) ∧
    (sampleContext 33).checkpoint.validate = .ok () ∧
    (contextEvents workerSha (sampleContext 33) sampleIndex 1 false sampleFresh).toOption =
      some ((sampleEmitted 33).map Prod.fst) ∧
    (sampleEmitted 33).map (ledgerAccepts workerSha (ledgerRun workerSha [])) = [false] := by
  refine ⟨sampleContext_of 33, ?_, ?_, ?_⟩
  · exact isOk_iff.mp (by decide +kernel)
  · decide +kernel
  · decide +kernel

variable {events : List (RecallLedgerEvent × UInt64)}

theorem ContextOf.held (h : ContextOf (ledgerRun H events) context)
    (hfresh : FreshFor (ledgerRun H events) context fresh) : ∀ n ∈ context.needs, Held H fresh (ledgerRun H events) n := by
  intro n hn
  have hsound := ledgerRun_sound H events
  have hin := hn
  rw [h.needs, currentNeeds, List.mem_filter] at hin
  obtain ⟨hin, hcondition⟩ := hin
  obtain ⟨⟨id, m, q⟩, hmem, rfl⟩ := List.mem_map.mp hin
  have hget := OrdMap.mem_entries.mp hmem
  have hid := hsound.key hget
  simp only [Bool.and_eq_true, beq_iff_eq] at hcondition
  exact ⟨⟨q, by rw [hid]; exact hget⟩, hsound.sound hget, hcondition.2, fun a ha => hsound.known hget ha,
    hfresh.successor m hn⟩

theorem ContextOf.distinct (h : ContextOf (ledgerRun H events) context) :
    context.needs.Pairwise fun a b => a.recallNeedId ≠ b.recallNeedId := by
  have hsound := ledgerRun_sound H events
  rw [h.needs, currentNeeds]
  refine List.Pairwise.filter _ (List.pairwise_map.mpr ?_)
  have hkeys := List.pairwise_map.mp (ledgerRun H events).needs.nodup_keys
  refine hkeys.imp_of_mem fun {a b} ha hb hne heq => hne ?_
  rw [← hsound.key (OrdMap.mem_entries.mp ha), ← hsound.key (OrdMap.mem_entries.mp hb)]
  exact heq

theorem ContextOf.boundedSession (h : ContextOf s context) : boundedText context.hostSessionId = true := by
  have hsession := h.session
  simp only [validRef, Bool.and_eq_true, decide_eq_true_eq] at hsession
  simp only [boundedText, Bool.and_eq_true, decide_eq_true_eq]
  exact ⟨hsession.1.1, le_trans hsession.1.2 (by decide)⟩

/-- A need on which the worker does nothing final was recorded for this context and has not expired. -/
theorem sameContext_of_quiet {action : NeedAction}
    (haction : needAction H context index nowUs abandonClaims need = .ok action) (hquiet : quiet action = true)
    (hvalidate : need.validate H = true) (hactive : need.obligationState = .active) : sameContext context need = true ∧
      need.obligationExpiresAtUs.any (fun expiry => expiry ≤ nowUs) = false := by
  rcases needAction_cases haction with ⟨state, rfl, -⟩ | ⟨-, validity, hvalidity, hlive⟩ | ⟨hvalid, -⟩
  · cases hquiet
  · exact sameContext_of_validity hvalidity hvalidate hactive hlive
  · exact sameContext_of_validity hvalid hvalidate hactive fun _ h => by cases h

theorem detected_valid (hheld : ∀ n ∈ context.needs, Held H fresh s n)
    (hsearch : Searches H context index nowUs abandonClaims)
    (hdetect : detectCurrentContext H context index nowUs fresh = .ok (some (.needRecorded need)))
    (hvalidate : need.validate H = true) (hactive : need.obligationState = .active) :
    currentNeedValidity H context need index nowUs = .ok .valid := by
  unfold detectCurrentContext at hdetect
  obtain ⟨d, hd, hdetect⟩ := bind_eq_ok.mp hdetect
  rcases detection_cases hd with rfl | ⟨n, state, rfl, -, -⟩ | ⟨family, contracts, current, rfl, hrecords⟩
  · cases hdetect
  · -- an ended need is not active
    obtain ⟨event, hterminal, hdetect⟩ := bind_eq_ok.mp hdetect
    cases hdetect
    unfold terminalNeedEvent at hterminal
    obtain ⟨_, hguard, hterminal⟩ := bind_eq_ok.mp hterminal
    obtain ⟨m, hm, hterminal⟩ := bind_eq_ok.mp hterminal
    rw [mapError_ok] at hm
    cases hterminal
    obtain ⟨_, _, -, -, rfl⟩ := seal_eq_ok.mp hm
    simp only [ensure_ok, Bool.and_eq_true, bne_iff_ne] at hguard
    exact absurd hactive hguard.2
  · obtain ⟨m, hm, hdetect⟩ := bind_eq_ok.mp hdetect
    rw [mapError_ok] at hm
    split at hdetect
    · cases hdetect
    · cases hdetect
      refine detectedNeed_valid hrecords hm hvalidate fun c hc => ?_
      obtain ⟨hin, -, -⟩ := hrecords.found c hc
      obtain ⟨action, haction, hquiet⟩ := hsearch c hin
      -- the detected need carries the request id of the current one
      have hclean : cleanNeed c = true := by
        have hclean := (validate_iff.mp hvalidate).2
        obtain ⟨_, _, -, -, hneed⟩ := seal_eq_ok.mp hm
        rw [hneed, hc] at hclean
        exact hclean
      exact (sameContext_of_quiet haction hquiet (validate_iff.mpr ⟨(hheld c hin).sound, hclean⟩)
        (hheld c hin).active).2

theorem accepts_detection (hcontext : ContextOf (ledgerRun H events) context)
    (hheld : ∀ n ∈ context.needs, needAction H context index nowUs abandonClaims n = .ok .none → Held H fresh s n)
    (hactive : ∀ n ∈ context.needs, n.obligationState = .active)
    (habsent : s.needs.get fresh.recallNeedId = none) (hsearch : Searches H context index nowUs abandonClaims)
    {detected : Option RecallLedgerEvent} (hdetect : detectCurrentContext H context index nowUs fresh = .ok detected)
    {numbered : List (RecallLedgerEvent × UInt64)} (hnumbered : numbered.map Prod.fst = detected.toList) :
    AllAccepted H s numbered ↔
      (∀ n state, detection context index nowUs = .ok (.ended n state) → cleanNeed n = true) ∧
      ∀ family contracts current, detection context index nowUs = .ok (.record family contracts current) →
        Unchanged H context nowUs fresh family contracts current ∨ Bounded context nowUs contracts current := by
  have hsome : ∀ {event}, detected = some event → ∃ seq, numbered = [(event, seq)] := by
    intro event hevent
    rw [hevent] at hnumbered
    obtain ⟨p, hp, rfl⟩ := List.map_eq_singleton_iff.mp hnumbered
    exact ⟨p.2, by rw [hp]⟩
  have hnone : detected = none → numbered = [] := by
    intro hevent
    rw [hevent] at hnumbered
    exact List.map_eq_nil_iff.mp hnumbered
  -- a need that detection is about is one on which the worker did nothing
  have huntouched : ∀ n ∈ context.needs, (endedBy (index.evaluate (checkpointState context.checkpoint) none) n ≠ none ∨
      n.deliveryState.claimable = true) → Held H fresh s n ∧
        (n.validate H = true → sameContext context n = true) := by
    intro n hn hcase
    obtain ⟨action, haction, hquiet⟩ := hsearch n hn
    have hsame := fun hvalidate => (sameContext_of_quiet haction hquiet hvalidate (hactive n hn)).1
    rcases needAction_cases haction with ⟨state, rfl, -⟩ | ⟨rfl, -⟩ | ⟨hvalid, ⟨rfl, -⟩ | ⟨attemptId, rfl, hdelivery, -⟩⟩
    · cases hquiet
    · exact ⟨hheld n hn haction, hsame⟩
    · cases hquiet
    · rcases hcase with hended | hclaimable
      · exact absurd (endedBy_of_valid hvalid) hended
      · rw [hdelivery] at hclaimable
        cases hclaimable
  unfold detectCurrentContext at hdetect
  obtain ⟨d, hd, hdetect⟩ := bind_eq_ok.mp hdetect
  rcases detection_cases hd with rfl | ⟨n, state, rfl, hn, hended⟩ | ⟨family, contracts, current, rfl, hrecords⟩
  · cases hdetect
    rw [hnone rfl]
    refine ⟨fun _ => ⟨fun n state h => ?_, fun family contracts current h => ?_⟩, fun _ => trivial⟩
    · rw [hd] at h
      cases h
    · rw [hd] at h
      cases h
  · obtain ⟨event, hterminal, hdetect⟩ := bind_eq_ok.mp hdetect
    cases hdetect
    obtain ⟨seq, hseq⟩ := hsome rfl
    obtain ⟨hholds, -⟩ := huntouched n hn (.inl (by rw [hended]; simp))
    rw [hseq, AllAccepted, (hholds.accepts_terminal seq hterminal).2]
    refine ⟨fun h => ⟨fun m st hm => ?_, fun family contracts current h => ?_⟩, fun h => ⟨h.1 n state hd, trivial⟩⟩
    · rw [hd] at hm
      cases hm
      exact h.1
    · rw [hd] at h
      cases h
  · obtain ⟨m, hm, hdetect⟩ := bind_eq_ok.mp hdetect
    rw [mapError_ok] at hm
    split at hdetect
    · next hsame =>
      cases hdetect
      rw [hnone rfl]
      refine ⟨fun _ => ⟨fun n state h => ?_, fun f cs c h => ?_⟩, fun _ => trivial⟩
      · rw [hd] at h
        cases h
      · rw [hd] at h
        cases h
        cases current with
        | none => cases hsame
        | some c => exact .inl ⟨c, m, rfl, hm, by simpa using hsame⟩
    · next hchanged =>
      cases hdetect
      obtain ⟨seq, hseq⟩ := hsome rfl
      have hcurrent : ∀ c, current = some c → Held H fresh s c ∧ (cleanNeed c = true → sameContext context c = true) ∧
          c.recallNeedHash ≠ m.recallNeedHash := by
        intro c hc
        obtain ⟨hin, -, hclaimable⟩ := hrecords.found c hc
        obtain ⟨hholds, hsame⟩ := huntouched c hin (.inr hclaimable)
        rw [hc] at hchanged
        exact ⟨hholds, fun hclean => hsame (validate_iff.mpr ⟨hholds.sound, hclean⟩), by simpa using hchanged⟩
      have hscope := strictlyOrderedUnique_iff.mp hcontext.scope.2
      rw [hseq, AllAccepted, accepts_detected seq hrecords hcontext.boundedSession hscope hcurrent
        (fun _ => habsent) hm]
      refine ⟨fun h => ⟨fun n state hn => ?_, fun f cs c h' => ?_⟩, fun h => ⟨?_, trivial⟩⟩
      · rw [hd] at hn
        cases hn
      · rw [hd] at h'
        cases h'
        exact .inr h.1
      · rcases h.2 family contracts current hd with ⟨c, m', hc, hm', hhash⟩ | hbounded
        · rw [hm] at hm'
          cases hm'
          exact absurd hhash (hcurrent c hc).2.2
        · exact hbounded

theorem ContextOf.valid_of_accepted (hcontext : ContextOf (ledgerRun H events) context)
    (hfresh : FreshFor (ledgerRun H events) context fresh) (hnow : 0 ≤ nowUs)
    {numbered : List (RecallLedgerEvent × UInt64)}
    (hemitted : contextEvents H context index nowUs abandonClaims fresh = .ok (numbered.map Prod.fst))
    (hall : AllAccepted H (ledgerRun H events) numbered) (hsearch : Searches H context index nowUs abandonClaims)
    (hdetect : detectCurrentContext H context index nowUs fresh = .ok (some (.needRecorded need)))
    (hactive : need.obligationState = .active) : currentNeedValidity H context need index nowUs = .ok .valid := by
  have hheld := hcontext.held hfresh
  unfold contextEvents at hemitted
  obtain ⟨⟨acted, flag⟩, hacted, hemitted⟩ := bind_eq_ok.mp hemitted
  cases flag with
  | true =>
    have hmap : numbered.map Prod.fst = acted := (Except.ok.inj hemitted).symm
    subst hmap
    obtain ⟨-, -, hflag⟩ := needsEvents_accepted hnow context.needs _ numbered true hacted hcontext.distinct hheld
    cases hflag.mpr hsearch
  | false =>
    obtain ⟨detected, hdetected, hemitted⟩ := bind_eq_ok.mp hemitted
    rw [hdetect] at hdetected
    cases hdetected
    obtain ⟨first, last, rfl, -, hlast⟩ := List.map_eq_append_iff.mp (Except.ok.inj hemitted).symm
    obtain ⟨⟨event, seq⟩, rfl, hevent⟩ := List.map_eq_singleton_iff.mp hlast
    subst hevent
    have haccepted := ((allAccepted_append first _ _).mp hall).2.1
    exact detected_valid hheld hsearch hdetect (validate_of_accepts haccepted) hactive

/-- **When the ledger accepts what the recall worker writes.** For every reachable ledger, every context read from it,
every index and every time that is not negative: all events the worker writes for the context are accepted in their
order, and the need it detects is valid for the same context, index and time, exactly when the context is
admissible. -/
theorem worker_accepted_iff (H : Sha256) (events : List (RecallLedgerEvent × UInt64))
    (context : RecallCurrentContext) (index : RecallTriggerIndex) (nowUs : Int64) (abandonClaims : Bool)
    (fresh : FreshIds) (hcontext : ContextOf (ledgerRun H events) context)
    (hfresh : FreshFor (ledgerRun H events) context fresh) (hnow : 0 ≤ nowUs)
    (numbered : List (RecallLedgerEvent × UInt64))
    (hemitted : contextEvents H context index nowUs abandonClaims fresh = .ok (numbered.map Prod.fst)) :
    (AllAccepted H (ledgerRun H events) numbered ∧
      (Searches H context index nowUs abandonClaims → ∀ need,
        detectCurrentContext H context index nowUs fresh = .ok (some (.needRecorded need)) →
        need.obligationState = .active → currentNeedValidity H context need index nowUs = .ok .valid)) ↔
    Admissible H context index nowUs abandonClaims fresh := by
  have hheld := hcontext.held hfresh
  rw [and_iff_left_of_imp fun hall hsearch need hdetect hactive =>
    hcontext.valid_of_accepted hfresh hnow hemitted hall hsearch hdetect hactive]
  unfold contextEvents at hemitted
  obtain ⟨⟨acted, flag⟩, hacted, hemitted⟩ := bind_eq_ok.mp hemitted
  cases flag with
  | true =>
    have hmap : numbered.map Prod.fst = acted := (Except.ok.inj hemitted).symm
    subst hmap
    obtain ⟨-, hiff, hflag⟩ := needsEvents_accepted hnow context.needs _ numbered true hacted hcontext.distinct hheld
    have hbusy : ¬ Searches H context index nowUs abandonClaims := fun h => by cases hflag.mpr h
    rw [hiff]
    exact ⟨fun h => ⟨h, fun hs => absurd hs hbusy, fun hs => absurd hs hbusy⟩, fun h => h.acted⟩
  | false =>
    obtain ⟨detected, hdetect, hemitted⟩ := bind_eq_ok.mp hemitted
    obtain ⟨first, last, rfl, rfl, hlast⟩ := List.map_eq_append_iff.mp (Except.ok.inj hemitted).symm
    obtain ⟨habout, hiff, hflag⟩ := needsEvents_accepted hnow context.needs _ first false hacted hcontext.distinct hheld
    have hsearch : Searches H context index nowUs abandonClaims := hflag.mp rfl
    -- the events so far are about other needs than one on which nothing was done
    have hholds : ∀ n ∈ context.needs, needAction H context index nowUs abandonClaims n = .ok .none →
        Held H fresh (run (ledgerNext H) (ledgerRun H events) first) n := by
      intro n hn haction
      refine (hheld n hn).frame fun p hp heq => ?_
      obtain ⟨m, hm, hid, hact⟩ := habout p hp
      obtain ⟨q, hq⟩ := (hheld n hn).stored
      obtain ⟨q', hq'⟩ := (hheld m hm).stored
      rw [← hid, heq, hq] at hq'
      cases hq'
      exact hact haction
    have habsent : (run (ledgerNext H) (ledgerRun H events) first).needs.get fresh.recallNeedId = none := by
      rw [run_frame first _ fun p hp heq => ?_]
      · exact hfresh.need
      · obtain ⟨m, hm, hid, -⟩ := habout p hp
        obtain ⟨q, hq⟩ := (hheld m hm).stored
        rw [← hid, heq, hfresh.need] at hq
        cases hq
    rw [allAccepted_append, hiff, accepts_detection hcontext hholds (fun n hn => (hheld n hn).active) habsent
      hsearch hdetect hlast]
    exact ⟨fun h => ⟨h.1, fun _ => h.2.1, fun _ => h.2.2⟩, fun h => ⟨h.acted, h.ended hsearch, h.recorded hsearch⟩⟩

/-- With one attempt the same context is admissible. -/
theorem worker_accepted_sample : Admissible workerSha (sampleContext 1) sampleIndex 1 false sampleFresh := by
  have hcontext := sampleContext_of 1
  have hfresh : FreshFor (ledgerRun workerSha []) (sampleContext 1) sampleFresh :=
    ⟨rfl, fun n hn => (by cases hn)⟩
  have haccepted : (sampleEmitted 1).map (ledgerAccepts workerSha (ledgerRun workerSha [])) = [true] := by
    decide +kernel
  have hall := allAccepted_singleton workerSha (ledgerRun workerSha []) (sampleEmitted 1) haccepted
  have hemitted : contextEvents workerSha (sampleContext 1) sampleIndex 1 false sampleFresh =
      .ok ((sampleEmitted 1).map Prod.fst) := toOption_eq_some.mp (by decide +kernel)
  exact (worker_accepted_iff workerSha [] (sampleContext 1) sampleIndex 1 false sampleFresh hcontext hfresh
    (by decide) (sampleEmitted 1) hemitted).mp ⟨hall, fun hsearch need hd ha =>
      hcontext.valid_of_accepted hfresh (by decide) hemitted hall hsearch hd ha⟩

end EverTrace.Bugs.RecallUnchecked
