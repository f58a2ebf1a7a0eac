import EverTrace.L2Machine.RecallLedger
/-!
# At-most-once delivery of recall needs

Over any run of the ledger from empty, refused events included, a need is
shown at most once, an attempt id is claimed at most once, a retrieval is
claimed at most once, and a need whose obligation is over takes no further
event.

The three axes are guarded by different checks, but all of them only move
forward: `Advances` says so for one need and `Later` for the whole ledger.
`Step.later` proves it for one accepted event; the rest is the run rules of
`Lib.Trace`.

Result: `recall_at_most_once`.
-/
namespace EverTrace.L2.Recall
open EverTrace.Lib EverTrace.L1

/-- The delivery states of a need that was shown, or may have been. -/
def RecallDeliveryState.presented : RecallDeliveryState → Bool
  | .emitted | .hostPresented | .presentationUnknown => true
  | _ => false

/-- The attempt states that put a need into a presented state. -/
def PresentationAttemptState.presented (state : PresentationAttemptState) : Bool :=
  state.delivery.presented

theorem presented_of_claimable {d : RecallDeliveryState} (h : d.claimable = true) :
    d.presented = false := by
  cases d <;> first | rfl | cases h

/-! ## What only moves forward -/

/-- A stored need and a later stored value of it. -/
structure Advances (n n' : RecallNeed) : Prop where
  identity : sameNeedIdentity n n' = true
  presented : n.deliveryState.presented = true → n'.deliveryState.presented = true
  retrieved : n.agentResponse ≠ .notRetrieved → n'.agentResponse ≠ .notRetrieved
  frozen : n.obligationState ≠ .active → n' = n

structure Later (s s' : RecallLedgerState) : Prop where
  needs : ∀ {id n q}, s.needs.get id = some (n, q) →
    ∃ n' q', s'.needs.get id = some (n', q') ∧ Advances n n'
  attempts : s.presentationAttempts ⊆ s'.presentationAttempts

theorem sameNeedIdentity_iff {n n' : RecallNeed} : sameNeedIdentity n n' = true ↔
    n.recallNeedId = n'.recallNeedId ∧ n.sessionId = n'.sessionId ∧
      n.executionLaneId = n'.executionLaneId ∧ n.taskId = n'.taskId ∧
      n.workstreamId = n'.workstreamId ∧ n.episodeRevisionId = n'.episodeRevisionId ∧
      n.repositoryId = n'.repositoryId ∧ n.worktreeId = n'.worktreeId ∧
      n.boundaryEventRef = n'.boundaryEventRef ∧ n.createdAtUs = n'.createdAtUs ∧
      n.obligationExpiresAtUs = n'.obligationExpiresAtUs := by
  simp only [sameNeedIdentity, Bool.and_eq_true, beq_iff_eq, and_assoc]

theorem sameNeedIdentity_refl (n : RecallNeed) : sameNeedIdentity n n = true := by
  simp [sameNeedIdentity_iff]

theorem sameNeedIdentity_trans {a b c : RecallNeed} (h₁ : sameNeedIdentity a b = true)
    (h₂ : sameNeedIdentity b c = true) : sameNeedIdentity a c = true := by
  rw [sameNeedIdentity_iff] at *
  simp_all

theorem Advances.refl (n : RecallNeed) : Advances n n :=
  ⟨sameNeedIdentity_refl n, id, id, fun _ => rfl⟩

theorem Advances.trans {a b c : RecallNeed} (h₁ : Advances a b) (h₂ : Advances b c) : Advances a c where
  identity := sameNeedIdentity_trans h₁.identity h₂.identity
  presented h := h₂.presented (h₁.presented h)
  retrieved h := h₂.retrieved (h₁.retrieved h)
  frozen h := by
    have hb := h₁.frozen h
    subst hb
    exact h₂.frozen h

theorem Later.refl (s : RecallLedgerState) : Later s s :=
  ⟨fun h => ⟨_, _, h, Advances.refl _⟩, Finset.Subset.refl _⟩

theorem Later.trans {a b c : RecallLedgerState} (h₁ : Later a b) (h₂ : Later b c) : Later a c := by
  refine ⟨fun h => ?_, h₁.attempts.trans h₂.attempts⟩
  obtain ⟨n', q', h', ha⟩ := h₁.needs h
  obtain ⟨n'', q'', h'', hb⟩ := h₂.needs h'
  exact ⟨n'', q'', h'', ha.trans hb⟩

/-- Writing one need over a value it advances, and keeping all attempt ids, is a later ledger. -/
theorem Later.of_insert {s s' : RecallLedgerState} {id : RecallNeedId} {n' : RecallNeed} {seq : UInt64}
    (needs : s'.needs = s.needs.insert id (n', seq))
    (attempts : s.presentationAttempts ⊆ s'.presentationAttempts)
    (advances : ∀ n q, s.needs.get id = some (n, q) → Advances n n') : Later s s' := by
  refine ⟨fun {k n q} h => ?_, attempts⟩
  rw [needs]
  by_cases hk : k = id
  · subst hk
    exact ⟨n', seq, OrdMap.get_insert_self _ _ _, advances n q h⟩
  · exact ⟨n, q, by rw [OrdMap.get_insert_of_ne _ _ hk, h], Advances.refl n⟩

/-- The axes a successor record repeats. -/
theorem sameDeliveryAndAgentAxes_iff {n n' : RecallNeed} : sameDeliveryAndAgentAxes n n' = true ↔
    n.deliveryState = n'.deliveryState ∧ n.agentResponse = n'.agentResponse ∧
      n.activePresentationAttemptId = n'.activePresentationAttemptId ∧
      n.activeRetrievalRequestId = n'.activeRetrievalRequestId := by
  simp only [sameDeliveryAndAgentAxes, Bool.and_eq_true, beq_iff_eq, and_assoc]

theorem legalObligationSuccessor_active {n n' : RecallNeed}
    (h : legalObligationSuccessor n n' = true) : n.obligationState = .active := by
  unfold legalObligationSuccessor at h
  split at h
  · cases h
  · next hactive => exact not_not.mp hactive

variable {H : Sha256} {s s' : RecallLedgerState} {seq : UInt64} {e : RecallLedgerEvent}

theorem Step.later (h : Step H s seq e s') : Later s s' := by
  cases h with
  | recordFirst _ absent =>
    refine Later.of_insert rfl (Finset.Subset.refl _) fun n q hn => ?_
    rw [absent] at hn
    cases hn
  | recordNext _ found identity axes legal =>
    refine Later.of_insert rfl (Finset.Subset.refl _) fun n q hn => ?_
    rw [found] at hn
    cases hn
    obtain ⟨hd, hr, -, -⟩ := sameDeliveryAndAgentAxes_iff.mp axes
    exact ⟨identity, by rw [hd]; exact id, by rw [hr]; exact id,
      fun hn => absurd (legalObligationSuccessor_active legal) hn⟩
  | claim found active _ _ claimable =>
    refine Later.of_insert rfl (Finset.subset_insert _ _) fun n q hn => ?_
    rw [found] at hn
    cases hn
    refine ⟨by simp [sameNeedIdentity_iff], fun hp => ?_, id, fun hn => absurd active hn⟩
    rw [presented_of_claimable claimable] at hp
    cases hp
  | finish found active _ _ claimed =>
    refine Later.of_insert rfl (Finset.Subset.refl _) fun n q hn => ?_
    rw [found] at hn
    cases hn
    refine ⟨by simp [sameNeedIdentity_iff], fun hp => ?_, id, fun hn => absurd active hn⟩
    rw [claimed] at hp
    cases hp
  | retrieve _ found active _ _ =>
    refine Later.of_insert rfl (Finset.Subset.refl _) fun n q hn => ?_
    rw [found] at hn
    cases hn
    exact ⟨by simp [sameNeedIdentity_iff], id, fun _ => by simp, fun hn => absurd active hn⟩
  | retrieved found active _ _ _ =>
    refine Later.of_insert rfl (Finset.Subset.refl _) fun n q hn => ?_
    rw [found] at hn
    cases hn
    refine ⟨by simp [sameNeedIdentity_iff], id, fun _ => ?_, fun hn => absurd active hn⟩
    dsimp only
    split <;> simp

/-! ## Runs -/

def ledgerAccepts (H : Sha256) (s : RecallLedgerState) (e : RecallLedgerEvent × UInt64) : Bool :=
  (apply H s e.1 e.2).1 == .ok ()

def ledgerNext (H : Sha256) (s : RecallLedgerState) (e : RecallLedgerEvent × UInt64) : RecallLedgerState :=
  (apply H s e.1 e.2).2

def ledgerRun (H : Sha256) (events : List (RecallLedgerEvent × UInt64)) : RecallLedgerState :=
  run (ledgerNext H) .empty events

/-- The events of a run from `s` that the ledger accepts, in order. -/
def acceptedEvents (H : Sha256) (s : RecallLedgerState) (events : List (RecallLedgerEvent × UInt64)) :
    List (RecallLedgerEvent × UInt64) :=
  accepted (ledgerAccepts H) (ledgerNext H) s events

theorem ledgerAccepts_step {p : RecallLedgerEvent × UInt64} (h : ledgerAccepts H s p = true) :
    Step H s p.2 p.1 (ledgerNext H s p) := by
  rcases apply_outcome H s p.1 p.2 with ⟨-, hstep⟩ | ⟨herr, -⟩
  · exact hstep
  · rw [ledgerAccepts, herr] at h
    cases h

theorem ledgerNext_later (H : Sha256) (s : RecallLedgerState) (p : RecallLedgerEvent × UInt64) :
    Later s (ledgerNext H s p) := by
  rcases apply_outcome H s p.1 p.2 with ⟨-, hstep⟩ | ⟨-, hsame⟩
  · exact hstep.later
  · rw [ledgerNext, hsame]
    exact Later.refl s

theorem run_later (H : Sha256) (s : RecallLedgerState) (events : List (RecallLedgerEvent × UInt64)) :
    Later s (run (ledgerNext H) s events) :=
  run_invariant events (fun s' p _ h => h.trans (ledgerNext_later H s' p)) s (Later.refl s)

/-! ## The states that refuse, for good -/

def Presented (id : RecallNeedId) (s : RecallLedgerState) : Prop :=
  ∃ n q, s.needs.get id = some (n, q) ∧ n.deliveryState.presented = true

def Retrieved (id : RecallNeedId) (s : RecallLedgerState) : Prop :=
  ∃ n q, s.needs.get id = some (n, q) ∧ n.agentResponse ≠ .notRetrieved

def Closed (id : RecallNeedId) (s : RecallLedgerState) : Prop :=
  ∃ n q, s.needs.get id = some (n, q) ∧ n.obligationState ≠ .active

theorem Presented.later {id : RecallNeedId} (h : Presented id s) (hl : Later s s') : Presented id s' := by
  obtain ⟨n, q, hn, hp⟩ := h
  obtain ⟨n', q', hn', ha⟩ := hl.needs hn
  exact ⟨n', q', hn', ha.presented hp⟩

theorem Retrieved.later {id : RecallNeedId} (h : Retrieved id s) (hl : Later s s') : Retrieved id s' := by
  obtain ⟨n, q, hn, hr⟩ := h
  obtain ⟨n', q', hn', ha⟩ := hl.needs hn
  exact ⟨n', q', hn', ha.retrieved hr⟩

theorem Closed.later {id : RecallNeedId} (h : Closed id s) (hl : Later s s') : Closed id s' := by
  obtain ⟨n, q, hn, hc⟩ := h
  obtain ⟨n', q', hn', ha⟩ := hl.needs hn
  have hsame := ha.frozen hc
  subst hsame
  exact ⟨n', q', hn', hc⟩

theorem Presented.refuses {a : RecallPresentationAttempt} (h : Presented a.recallNeedId s) :
    ¬ Step H s seq (.presentationAttempt a) s' := by
  intro hstep
  obtain ⟨n, q, hn, hp⟩ := h
  cases hstep with
  | claim found _ _ _ claimable =>
    rw [hn] at found
    cases found
    rw [presented_of_claimable claimable] at hp
    cases hp
  | finish found _ _ _ claimed =>
    rw [hn] at found
    cases found
    rw [claimed] at hp
    cases hp

theorem Retrieved.refuses {o : RecallRetrievalOutcome} (h : Retrieved o.recallNeedId s)
    (hstate : o.state = .claimed) : ¬ Step H s seq (.retrievalOutcome o) s' := by
  intro hstep
  obtain ⟨n, q, hn, hr⟩ := h
  cases hstep with
  | retrieve _ found _ _ response _ =>
    rw [hn] at found
    cases found
    exact hr response
  | retrieved _ _ state => exact state hstate

theorem Closed.refuses (h : Closed e.needId s) : ¬ Step H s seq e s' := by
  intro hstep
  obtain ⟨n, q, hn, hc⟩ := h
  cases hstep with
  | recordFirst _ absent =>
    rw [RecallLedgerEvent.needId, absent] at hn
    cases hn
  | recordNext _ found _ _ legal =>
    rw [RecallLedgerEvent.needId, found] at hn
    cases hn
    exact hc (legalObligationSuccessor_active legal)
  | claim found active | finish found active | retrieved found active =>
    rw [RecallLedgerEvent.needId, found] at hn
    cases hn
    exact hc active
  | retrieve _ found active =>
    rw [RecallLedgerEvent.needId, found] at hn
    cases hn
    exact hc active

theorem Step.presented {a : RecallPresentationAttempt} (h : Step H s seq (.presentationAttempt a) s')
    (hp : a.state.presented = true) : Presented a.recallNeedId s' := by
  cases h with
  | claim _ _ state => rw [state] at hp; cases hp
  | finish => exact ⟨_, seq, OrdMap.get_insert_self _ _ _, hp⟩

theorem Step.retrieved_claim {o : RecallRetrievalOutcome} (h : Step H s seq (.retrievalOutcome o) s')
    (hstate : o.state = .claimed) : Retrieved o.recallNeedId s' := by
  cases h with
  | retrieve => exact ⟨_, seq, OrdMap.get_insert_self _ _ _, by simp⟩
  | retrieved _ _ state => exact absurd hstate state

/-- A claim uses an attempt id that no need has used before. -/
theorem Step.claims {a : RecallPresentationAttempt} (h : Step H s seq (.presentationAttempt a) s')
    (hstate : a.state = .claimedForBoundary) :
    a.presentationAttemptId ∉ s.presentationAttempts ∧
      a.presentationAttemptId ∈ s'.presentationAttempts := by
  cases h with
  | claim _ _ _ fresh => exact ⟨fresh, Finset.mem_insert_self _ _⟩
  | finish _ _ state => exact absurd hstate state

/-! ## The kinds of event that are accepted at most once -/

/-- An attempt of need `id` that shows it, or may have. -/
def isPresented (id : RecallNeedId) : RecallLedgerEvent × UInt64 → Bool
  | (.presentationAttempt a, _) => a.recallNeedId == id && a.state.presented
  | _ => false

/-- A claim under the attempt id `id`, for any need. -/
def isClaim (id : PresentationAttemptId) : RecallLedgerEvent × UInt64 → Bool
  | (.presentationAttempt a, _) => a.presentationAttemptId == id && a.state == .claimedForBoundary
  | _ => false

/-- A retrieval claim for need `id`. -/
def isRetrievalClaim (id : RecallNeedId) : RecallLedgerEvent × UInt64 → Bool
  | (.retrievalOutcome o, _) => o.recallNeedId == id && o.state == .claimed
  | _ => false

theorem countP_isPresented_le_one (id : RecallNeedId) (events : List (RecallLedgerEvent × UInt64))
    (s : RecallLedgerState) : (acceptedEvents H s events).countP (isPresented id) ≤ 1 := by
  refine countP_accepted_le_one (P := Presented id)
    (fun s p h => h.later (ledgerNext_later H s p)) (fun s p h hacc => ?_) (fun s p hacc hq => ?_) events s
  · obtain ⟨e, seq⟩ := p
    cases e with
    | presentationAttempt a =>
      by_cases hid : a.recallNeedId = id
      · subst hid
        exact absurd (ledgerAccepts_step hacc) h.refuses
      · simp [isPresented, hid]
    | needRecorded | retrievalOutcome => rfl
  · obtain ⟨e, seq⟩ := p
    cases e with
    | presentationAttempt a =>
      simp only [isPresented, Bool.and_eq_true, beq_iff_eq] at hq
      rw [← hq.1]
      exact (ledgerAccepts_step hacc).presented hq.2
    | needRecorded | retrievalOutcome => cases hq

theorem countP_isClaim_le_one (id : PresentationAttemptId)
    (events : List (RecallLedgerEvent × UInt64)) (s : RecallLedgerState) :
    (acceptedEvents H s events).countP (isClaim id) ≤ 1 := by
  refine countP_accepted_le_one (P := fun s => id ∈ s.presentationAttempts)
    (fun s p h => (ledgerNext_later H s p).attempts h) (fun s p h hacc => ?_) (fun s p hacc hq => ?_)
    events s
  · obtain ⟨e, seq⟩ := p
    cases e with
    | presentationAttempt a =>
      by_contra hq
      simp only [isClaim, Bool.not_eq_false, Bool.and_eq_true, beq_iff_eq] at hq
      rw [← hq.1] at h
      exact ((ledgerAccepts_step hacc).claims hq.2).1 h
    | needRecorded | retrievalOutcome => rfl
  · obtain ⟨e, seq⟩ := p
    cases e with
    | presentationAttempt a =>
      simp only [isClaim, Bool.and_eq_true, beq_iff_eq] at hq
      rw [← hq.1]
      exact ((ledgerAccepts_step hacc).claims hq.2).2
    | needRecorded | retrievalOutcome => cases hq

theorem countP_isRetrievalClaim_le_one (id : RecallNeedId)
    (events : List (RecallLedgerEvent × UInt64)) (s : RecallLedgerState) :
    (acceptedEvents H s events).countP (isRetrievalClaim id) ≤ 1 := by
  refine countP_accepted_le_one (P := Retrieved id)
    (fun s p h => h.later (ledgerNext_later H s p)) (fun s p h hacc => ?_) (fun s p hacc hq => ?_) events s
  · obtain ⟨e, seq⟩ := p
    cases e with
    | retrievalOutcome o =>
      by_contra hq
      simp only [isRetrievalClaim, Bool.not_eq_false, Bool.and_eq_true, beq_iff_eq] at hq
      rw [← hq.1] at h
      exact h.refuses hq.2 (ledgerAccepts_step hacc)
    | needRecorded | presentationAttempt => rfl
  · obtain ⟨e, seq⟩ := p
    cases e with
    | retrievalOutcome o =>
      simp only [isRetrievalClaim, Bool.and_eq_true, beq_iff_eq] at hq
      rw [← hq.1]
      exact (ledgerAccepts_step hacc).retrieved_claim hq.2
    | needRecorded | presentationAttempt => cases hq

/-- **Recall is delivered at most once and terminals are frozen.** For every list of events fed to the
empty ledger: a refused event changes nothing; each need is presented by at most one accepted event,
and takes no attempt after it; each attempt id is claimed at most once over all needs; each need has
at most one claimed retrieval; identity fields never change; and a need whose obligation is over
takes no further event. -/
theorem recall_at_most_once (H : Sha256) (events : List (RecallLedgerEvent × UInt64)) :
    (∀ s e seq err, (apply H s e seq).1 = .error err → (apply H s e seq).2 = s) ∧
    (∀ id, (acceptedEvents H .empty events).countP (isPresented id) ≤ 1) ∧
    (∀ before a seq after,
      acceptedEvents H .empty events = before ++ (.presentationAttempt a, seq) :: after →
      a.state.presented = true →
        ∀ b seq', (.presentationAttempt b, seq') ∈ after → b.recallNeedId ≠ a.recallNeedId) ∧
    (∀ id, (acceptedEvents H .empty events).countP (isClaim id) ≤ 1) ∧
    (∀ id, (acceptedEvents H .empty events).countP (isRetrievalClaim id) ≤ 1) ∧
    (∀ es fs, events = es ++ fs → ∀ id n q, (ledgerRun H es).needs.get id = some (n, q) →
      ∃ n' q', (ledgerRun H events).needs.get id = some (n', q') ∧ sameNeedIdentity n n' = true) ∧
    (∀ es fs, events = es ++ fs → ∀ id n q, (ledgerRun H es).needs.get id = some (n, q) →
      n.obligationState ≠ .active →
        ∀ p ∈ acceptedEvents H (ledgerRun H es) fs, p.1.needId ≠ id) := by
  refine ⟨fun s e seq err herr => ?_, fun id => countP_isPresented_le_one id events _,
    fun before a seq after hsplit hp b seq' hb hid => ?_, fun id => countP_isClaim_le_one id events _,
    fun id => countP_isRetrievalClaim_le_one id events _, fun es fs hsplit id n q hn => ?_,
    fun es fs _ id n q hn hclosed => ?_⟩
  · rcases apply_outcome H s e seq with ⟨hok, -⟩ | ⟨-, hsame⟩
    · rw [hok] at herr
      cases herr
    · exact hsame
  · refine accepted_after (P := Presented a.recallNeedId)
      (Q := fun p => ∃ b seq, p = (.presentationAttempt b, seq) ∧ b.recallNeedId = a.recallNeedId)
      (fun s p h => h.later (ledgerNext_later H s p)) ?_
      (fun s hacc => (ledgerAccepts_step hacc).presented hp) events .empty before after hsplit _ hb
      ⟨b, seq', rfl, hid⟩
    intro s p h hacc ⟨b, seq, hp, hid⟩
    subst hp
    rw [← hid] at h
    exact h.refuses (ledgerAccepts_step hacc)
  · have hlater := run_later H (ledgerRun H es) fs
    rw [ledgerRun, ← run_append, ← hsplit] at hlater
    obtain ⟨n', q', hn', ha⟩ := hlater.needs hn
    exact ⟨n', q', hn', ha.identity⟩
  · refine accepted_avoid (P := Closed id) (Q := fun p => p.1.needId = id)
      (fun s p h => h.later (ledgerNext_later H s p)) ?_ fs _ ⟨n, q, hn, hclosed⟩
    intro s p h hacc hid
    rw [← hid] at h
    exact h.refuses (ledgerAccepts_step hacc)

end EverTrace.L2.Recall
