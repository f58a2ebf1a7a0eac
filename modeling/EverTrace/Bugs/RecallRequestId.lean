import EverTrace.L2Machine.RecallOnce
/-!
# A retrieval request id that makes its need unreadable

`RecallLedgerEvent::validate` (evertrace-domain/src/recall.rs:321-325) accepts
any non-empty `request_id` of at most 512 bytes. `apply` copies it into the
need's `active_retrieval_request_id`
(evertrace-store/src/projections/recall_ledger.rs:112), while
`RecallNeed::validate` (recall.rs:260-267) also asks that it hold no control
character. A claim whose request id holds one is accepted, is written out by
`rows`, and is refused by `restore` and `needOfRow` after a restart.

Counterexample: record a need, then claim a retrieval under the request id
`"\n"`: both events are accepted and the row of the need cannot be read.

In a run whose claims carry no control character the ledger stays readable
(`recall_readable`): the invariant is `Readable`, kept by every step
(`Step.readable`).
-/
namespace EverTrace.Bugs.RecallRequestId
open EverTrace.Lib EverTrace.L1 EverTrace.L2.Work EverTrace.L2.Recall

/-! ## The defect -/

/-- The SHA-256 values of the two canonical encodings of `sampleNeed`. -/
def sampleSha : Sha256 where
  digest b := if b.length = 141 then
      [0x9f, 0x3e, 0x4e, 0x58, 0x68, 0x80, 0x53, 0x95, 0xd6, 0x98, 0xb4, 0xc3, 0xe4, 0x39, 0x7d, 0x1b,
        0x58, 0x56, 0x7d, 0xa9, 0x19, 0x0c, 0x7b, 0xf9, 0x5e, 0x6a, 0xfc, 0xdc, 0xa6, 0xab, 0x5e, 0x6e]
    else
      [0xda, 0xd3, 0x28, 0x81, 0x3b, 0xa9, 0x06, 0x14, 0x6b, 0xab, 0x8e, 0x88, 0xa3, 0x5b, 0x6f, 0x8b,
        0x06, 0x84, 0xdd, 0x7b, 0x7f, 0x87, 0x64, 0x40, 0xb7, 0x42, 0xbf, 0x21, 0x1a, 0x00, 0x03, 0x81]
  digest_length b := by split <;> rfl

def sampleId {family : Family} (n : Fin 16) : Id family :=
  ⟨⟨0x70008000000000000000 + n.val, version7_lt n⟩⟩

def sampleNeed : RecallNeed where
  recallNeedId := sampleId 5
  revisionId := sampleId 6
  parentRevisionId := none
  recallNeedHash := sampleSha.hash []
  triggerFamily := .explicitOrRecovery
  sourceRevisionIds := [sampleId 1]
  matchedContractIds := []
  sessionId := "s"
  executionLaneId := sampleId 2
  taskId := sampleId 3
  workstreamId := sampleId 4
  episodeRevisionId := sampleId 1
  repositoryId := none
  worktreeId := none
  boundaryEventRef := "b"
  triggerState := ⟨.deliver, .passed, [], none, none, []⟩
  sourceWatermark := 1
  recallPlanFingerprint := sampleSha.hash (List.replicate 141 0)
  recallPlan := ⟨"r", [], some (sampleId 1), none, ["l"], [], []⟩
  deliveryState := .detected
  agentResponse := .notRetrieved
  obligationState := .active
  createdAtUs := 1
  presentationExpiresAtUs := 10
  obligationExpiresAtUs := none
  activePresentationAttemptId := none
  activeRetrievalRequestId := none

def sampleClaim (requestId : String) : RecallLedgerEvent :=
  .retrievalOutcome ⟨requestId, sampleId 5, sampleSha.hash [], .claimed, 4⟩

def sampleEvents (requestId : String) : List (RecallLedgerEvent × UInt64) :=
  [(.needRecorded sampleNeed, 1), (sampleClaim requestId, 2)]

/-- **Counterexample**: both events are accepted, and the need they leave behind is not valid and is
refused when its row is read. -/
theorem control_request_id_unreadable :
    (acceptedEvents sampleSha .empty (sampleEvents "\n")).length = 2 ∧
    ((ledgerRun sampleSha (sampleEvents "\n")).needs.get (sampleId 5)).map
      (fun p => p.1.validate sampleSha) = some false ∧
    ((restoreRows sampleSha .empty (rows (ledgerRun sampleSha (sampleEvents "\n")) 1)).toOption).isNone :=
  by decide +kernel

/-! ## What a readable ledger is -/

/-- A claim whose request id `RecallNeed::validate` accepts. -/
def CleanClaim : RecallLedgerEvent → Prop
  | .retrievalOutcome outcome => outcome.state = .claimed → hasControl outcome.requestId = false
  | _ => True

/-- Every stored need can be read back: it is valid, and the rows, in whatever order they are read,
restore a ledger with the same needs. -/
def Readback (H : Sha256) (s : RecallLedgerState) : Prop :=
  (∀ id n q, s.needs.get id = some (n, q) → n.validate H = true) ∧
  ∀ generation, ∀ order : List (RecallNeedId × RecallNeed × UInt64), order.Perm s.needs.entries →
    ∃ s', restoreRows H .empty (order.map (entryRow generation)) = .ok s' ∧
      ∀ id, s'.needs.get id = s.needs.get id

/-- The invariant behind `Readback`. -/
structure Readable (H : Sha256) (s : RecallLedgerState) : Prop where
  key : ∀ {id n q}, s.needs.get id = some (n, q) → n.recallNeedId = id
  valid : ∀ {id n q}, s.needs.get id = some (n, q) → n.validate H = true
  known : ∀ {id n q a}, s.needs.get id = some (n, q) → n.activePresentationAttemptId = some a →
    a ∈ s.presentationAttempts
  distinct : ∀ {id id' n n' q q' a}, s.needs.get id = some (n, q) → s.needs.get id' = some (n', q') →
    n.activePresentationAttemptId = some a → n'.activePresentationAttemptId = some a → id = id'

variable {H : Sha256} {s s' : RecallLedgerState} {seq : UInt64} {e : RecallLedgerEvent}

/-- Validity depends on the delivery and agent axes only through their own three clauses. -/
theorem validate_axes {n : RecallNeed} (h : n.validate H = true) {d : RecallDeliveryState}
    {r : RecallAgentResponse} {a : Option PresentationAttemptId} {q : Option String}
    (ha : a.isSome = !d.claimable) (hq : q.isSome = (r != .notRetrieved))
    (ht : q.all (fun value => boundedText value && !hasControl value) = true) :
    { n with
      deliveryState := d
      agentResponse := r
      activePresentationAttemptId := a
      activeRetrievalRequestId := q }.validate H = true := by
  unfold RecallNeed.validate at h ⊢
  simp only [Bool.and_eq_true, beq_iff_eq] at h ⊢
  obtain ⟨⟨⟨⟨⟨⟨⟨hrest, -⟩, -⟩, -⟩, hplan⟩, hprint⟩, hhash⟩, hparent⟩ := h
  exact ⟨⟨⟨⟨⟨⟨⟨hrest, ht⟩, ha⟩, hq⟩, hplan⟩, hprint⟩, hhash⟩, hparent⟩

theorem validate_axes_of {n : RecallNeed} (h : n.validate H = true) :
    n.activeRetrievalRequestId.all (fun value => boundedText value && !hasControl value) = true ∧
      n.activePresentationAttemptId.isSome = !n.deliveryState.claimable ∧
      n.activeRetrievalRequestId.isSome = (n.agentResponse != .notRetrieved) := by
  unfold RecallNeed.validate at h
  simp only [Bool.and_eq_true, beq_iff_eq] at h
  obtain ⟨⟨⟨⟨⟨⟨⟨-, ht⟩, ha⟩, hq⟩, -⟩, -⟩, -⟩, -⟩ := h
  exact ⟨ht, ha, hq⟩

/-- Writing one valid need under its own id, with no attempt id of another need, keeps the ledger
readable. -/
theorem Readable.insert (h : Readable H s) {id : RecallNeedId} {n : RecallNeed}
    (needs : s'.needs = s.needs.insert id (n, seq))
    (attempts : s.presentationAttempts ⊆ s'.presentationAttempts)
    (key : n.recallNeedId = id) (valid : n.validate H = true)
    (known : ∀ a, n.activePresentationAttemptId = some a → a ∈ s'.presentationAttempts)
    (fresh : ∀ a, n.activePresentationAttemptId = some a → ∀ id' n' q', s.needs.get id' = some (n', q') →
      n'.activePresentationAttemptId = some a → id' = id) : Readable H s' := by
  -- an entry of the new ledger is the written one, or an old one under another id
  have hget : ∀ {k m q}, s'.needs.get k = some (m, q) →
      (k = id ∧ m = n) ∨ (k ≠ id ∧ s.needs.get k = some (m, q)) := by
    intro k m q hk
    rw [needs] at hk
    by_cases hkid : k = id
    · subst hkid
      rw [OrdMap.get_insert_self] at hk
      cases hk
      exact .inl ⟨rfl, rfl⟩
    · rw [OrdMap.get_insert_of_ne _ _ hkid] at hk
      exact .inr ⟨hkid, hk⟩
  refine ⟨fun hk => ?_, fun hk => ?_, fun hk ha => ?_, fun hk hk' ha ha' => ?_⟩
  · rcases hget hk with ⟨rfl, rfl⟩ | ⟨-, hk⟩
    · exact key
    · exact h.key hk
  · rcases hget hk with ⟨-, rfl⟩ | ⟨-, hk⟩
    · exact valid
    · exact h.valid hk
  · rcases hget hk with ⟨-, rfl⟩ | ⟨-, hk⟩
    · exact known _ ha
    · exact attempts (h.known hk ha)
  · rcases hget hk with ⟨rfl, rfl⟩ | ⟨-, hk⟩
    · rcases hget hk' with ⟨rfl, -⟩ | ⟨-, hk'⟩
      · rfl
      · exact (fresh _ ha _ _ _ hk' ha').symm
    · rcases hget hk' with ⟨rfl, rfl⟩ | ⟨-, hk'⟩
      · exact fresh _ ha' _ _ _ hk ha
      · exact h.distinct hk hk' ha ha'

theorem step_readable (hstep : Step H s seq e s') (hclean : CleanClaim e) (h : Readable H s) :
    Readable H s' := by
  cases hstep with
  | recordFirst valid _ _ _ _ attempt =>
    refine h.insert rfl (Finset.Subset.refl _) rfl valid (fun a ha => ?_) (fun a ha => ?_)
    · rw [attempt] at ha; cases ha
    · rw [attempt] at ha; cases ha
  | recordNext valid found _ axes =>
    obtain ⟨-, -, hattempt, -⟩ := sameDeliveryAndAgentAxes_iff.mp axes
    refine h.insert rfl (Finset.Subset.refl _) rfl valid (fun a ha => ?_) (fun a ha id' n' q' hn' ha' => ?_)
    · rw [← hattempt] at ha
      exact h.known found ha
    · rw [← hattempt] at ha
      exact h.distinct hn' found ha' ha
  | claim found _ _ fresh =>
    have hkey := h.key found
    obtain ⟨ht, -, hq⟩ := validate_axes_of (h.valid found)
    refine h.insert rfl (Finset.subset_insert _ _) hkey
      (validate_axes (h.valid found) rfl hq ht) (fun a ha => ?_) (fun a ha id' n' q' hn' ha' => ?_)
    · cases ha
      exact Finset.mem_insert_self _ _
    · cases ha
      exact absurd (h.known hn' ha') fresh
  | @finish attempt need q found _ state own =>
    have hkey := h.key found
    obtain ⟨ht, -, hq⟩ := validate_axes_of (h.valid found)
    have hattempt : ∀ a, (if attempt.state = .failedPreEmit then none
        else need.activePresentationAttemptId) = some a → need.activePresentationAttemptId = some a := by
      intro a ha
      split at ha
      · cases ha
      · exact ha
    refine h.insert rfl (Finset.Subset.refl _) hkey (validate_axes (h.valid found) ?_ hq ht)
      (fun a ha => h.known found (hattempt a ha))
      (fun a ha id' n' q' hn' ha' => h.distinct hn' found ha' (hattempt a ha))
    cases hs : attempt.state with
    | claimedForBoundary => exact absurd hs state
    | failedPreEmit => rfl
    | emitted | hostPresented | presentationUnknown => rw [own]; rfl
  | retrieve text found _ state =>
    have hkey := h.key found
    obtain ⟨-, ha, -⟩ := validate_axes_of (h.valid found)
    refine h.insert rfl (Finset.Subset.refl _) hkey (validate_axes (h.valid found) ha rfl ?_)
      (fun a ha => h.known found ha) (fun a ha id' n' q' hn' ha' => h.distinct hn' found ha' ha)
    rw [Option.all_some, text, hclean state]
    rfl
  | retrieved found _ _ _ own =>
    have hkey := h.key found
    obtain ⟨ht, ha, -⟩ := validate_axes_of (h.valid found)
    refine h.insert rfl (Finset.Subset.refl _) hkey (validate_axes (h.valid found) ha ?_ ht)
      (fun a ha => h.known found ha) (fun a ha id' n' q' hn' ha' => h.distinct hn' found ha' ha)
    rw [own]
    split <;> rfl

/-! ## Reading the rows -/

theorem restore_entryRow (generation q : UInt64) (id : RecallNeedId) {n : RecallNeed}
    (valid : n.validate H = true) (absent : s.needs.get n.recallNeedId = none)
    (fresh : ∀ a, n.activePresentationAttemptId = some a → a ∉ s.presentationAttempts) :
    needOfRow H (entryRow generation (id, n, q)) = .ok (some n) ∧
    ∃ s', restore H s (entryRow generation (id, n, q)) n = (.ok (), s') ∧
      s'.needs = s.needs.insert n.recallNeedId (n, q) ∧
      ∀ a ∈ s'.presentationAttempts, a ∈ s.presentationAttempts ∨ n.activePresentationAttemptId = some a := by
  refine ⟨by simp [needOfRow, entryRow, needRow, valid], ?_⟩
  have hcheck : ¬ ((entryRow generation (id, n, q)).rowKind ≠ .data
      ∨ (entryRow generation (id, n, q)).rowClass ≠ some .runtime
      ∨ (entryRow generation (id, n, q)).objectFamily.isSome
      ∨ (entryRow generation (id, n, q)).objectKind ≠ some recallNeedKind
      ∨ (entryRow generation (id, n, q)).objectId.isSome
      ∨ (entryRow generation (id, n, q)).currentRevisionId ≠ some n.revisionId.toText
      ∨ (entryRow generation (id, n, q)).rowId ≠ needRowId n.recallNeedId
      ∨ !n.validate H ∨ (s.needs.get n.recallNeedId).isSome) := by
    simp [entryRow, needRow, valid, absent]
  rw [restore, if_neg hcheck]
  cases ha : n.activePresentationAttemptId with
  | none => exact ⟨_, rfl, rfl, fun a h => .inl h⟩
  | some a =>
    dsimp only
    rw [if_neg (fresh a ha)]
    refine ⟨_, rfl, rfl, fun b hb => ?_⟩
    rcases Finset.mem_insert.mp hb with rfl | hb
    · exact .inr rfl
    · exact .inl hb

/-- Rows of valid needs with distinct ids and distinct attempt ids are all restored. -/
theorem restoreRows_ok (generation : UInt64) :
    ∀ (l : List (RecallNeedId × RecallNeed × UInt64)) (s : RecallLedgerState),
      (∀ p ∈ l, p.2.1.recallNeedId = p.1 ∧ p.2.1.validate H = true) →
      l.Pairwise (fun p p' => p.1 ≠ p'.1 ∧ ∀ a, p.2.1.activePresentationAttemptId = some a →
        p'.2.1.activePresentationAttemptId ≠ some a) →
      (∀ p ∈ l, s.needs.get p.1 = none ∧
        ∀ a, p.2.1.activePresentationAttemptId = some a → a ∉ s.presentationAttempts) →
      ∃ s', restoreRows H s (l.map (entryRow generation)) = .ok s' ∧
        (∀ p ∈ l, s'.needs.get p.1 = some p.2) ∧
        ∀ id, (∀ p ∈ l, p.1 ≠ id) → s'.needs.get id = s.needs.get id := by
  intro l
  induction l with
  | nil => exact fun s _ _ _ => ⟨s, rfl, by simp, fun _ _ => rfl⟩
  | cons p rest ih =>
    intro s hvalid hpair hfree
    obtain ⟨id, n, q⟩ := p
    obtain ⟨hkey, hval⟩ := hvalid _ List.mem_cons_self
    dsimp only at hkey hval
    subst hkey
    obtain ⟨hhead, hpair'⟩ := List.pairwise_cons.mp hpair
    obtain ⟨habsent, hfresh⟩ := hfree _ List.mem_cons_self
    obtain ⟨hread, s₁, hrestore, hneeds, hattempts⟩ :=
      restore_entryRow generation q n.recallNeedId hval habsent hfresh
    obtain ⟨s', hs', hin, hout⟩ := ih s₁ (fun p hp => hvalid p (List.mem_cons_of_mem _ hp)) hpair' (by
      intro p hp
      obtain ⟨hne, hatt⟩ := hhead p hp
      obtain ⟨hpa, hpf⟩ := hfree p (List.mem_cons_of_mem _ hp)
      refine ⟨?_, fun a ha hmem => ?_⟩
      · rw [hneeds, OrdMap.get_insert_of_ne _ _ (Ne.symm hne)]
        exact hpa
      · rcases hattempts a hmem with hmem | hmem
        · exact hpf a ha hmem
        · exact hatt a hmem ha)
    refine ⟨s', ?_, fun p hp => ?_, fun id hid => ?_⟩
    · rw [List.map_cons, restoreRows, hread]
      dsimp only
      rw [hrestore]
      exact hs'
    · rcases List.mem_cons.mp hp with rfl | hp
      · dsimp only
        rw [hout _ fun p hp => Ne.symm (hhead p hp).1, hneeds, OrdMap.get_insert_self]
      · exact hin p hp
    · rw [hout id fun p hp => hid p (List.mem_cons_of_mem _ hp), hneeds,
        OrdMap.get_insert_of_ne _ _ (Ne.symm (hid _ List.mem_cons_self))]

theorem Readable.readback (h : Readable H s) : Readback H s := by
  refine ⟨fun id n q hn => h.valid hn, fun generation order hperm => ?_⟩
  have hmem : ∀ {p}, p ∈ order → s.needs.get p.1 = some p.2 := fun hp =>
    OrdMap.mem_entries.mp (hperm.mem_iff.mp hp)
  have hkeys : (order.map Prod.fst).Nodup := (hperm.map Prod.fst).nodup_iff.mpr s.needs.nodup_keys
  have hpair : order.Pairwise (fun p p' => p.1 ≠ p'.1 ∧ ∀ a,
      p.2.1.activePresentationAttemptId = some a → p'.2.1.activePresentationAttemptId ≠ some a) := by
    refine (List.pairwise_map.mp hkeys).imp_of_mem fun {p p'} hp hp' hne => ⟨hne, fun a ha ha' => ?_⟩
    exact hne (h.distinct (hmem hp) (hmem hp') ha ha')
  obtain ⟨s', hs', hin, hout⟩ := restoreRows_ok (H := H) generation order .empty
    (fun p hp => ⟨h.key (hmem hp), h.valid (hmem hp)⟩) hpair
    (fun p _ => ⟨rfl, fun a _ => Finset.notMem_empty a⟩)
  refine ⟨s', hs', fun id => ?_⟩
  cases hn : s.needs.get id with
  | none =>
    rw [hout id fun p hp heq => ?_]
    · rfl
    · rw [← heq, hmem hp] at hn
      cases hn
  | some v =>
    exact hin (id, v) (hperm.mem_iff.mpr (OrdMap.mem_entries.mpr hn))

/-! ## Runs -/

/-- The need holds a request id that makes it unreadable. -/
def Poisoned (id : RecallNeedId) (s : RecallLedgerState) : Prop :=
  ∃ n q r, s.needs.get id = some (n, q) ∧ n.activeRetrievalRequestId = some r ∧ hasControl r = true

/-- A control character in the stored request id stays: no event clears the id, and a new revision of
the need would have to repeat it and be valid. -/
theorem step_poisoned {id : RecallNeedId} (hstep : Step H s seq e s') (h : Poisoned id s) :
    Poisoned id s' := by
  obtain ⟨n, q, r, hn, hr, hc⟩ := h
  -- the event writes one need; under any other id nothing changes
  have hother : ∀ {k m}, s'.needs = s.needs.insert k (m, seq) → k ≠ id → Poisoned id s' :=
    fun hs hk => ⟨n, q, r, by rw [hs, OrdMap.get_insert_of_ne _ _ (Ne.symm hk)]; exact hn, hr, hc⟩
  have hsame : ∀ {m}, s'.needs = s.needs.insert id (m, seq) → m.activeRetrievalRequestId = some r →
      Poisoned id s' := fun hs hm => ⟨_, _, r, by rw [hs, OrdMap.get_insert_self], hm, hc⟩
  by_cases hid : e.needId = id
  · subst hid
    cases hstep with
    | recordFirst _ absent =>
      rw [RecallLedgerEvent.needId, absent] at hn
      cases hn
    | recordNext valid found _ axes =>
      rw [RecallLedgerEvent.needId, found] at hn
      cases hn
      obtain ⟨-, -, -, hrequest⟩ := sameDeliveryAndAgentAxes_iff.mp axes
      have htext := (validate_axes_of valid).1
      rw [← hrequest, hr, Option.all_some, hc] at htext
      simp at htext
    | claim found | finish found | retrieved found =>
      rw [RecallLedgerEvent.needId, found] at hn
      cases hn
      exact hsame rfl hr
    | retrieve _ found _ _ _ free =>
      rw [RecallLedgerEvent.needId, found] at hn
      cases hn
      rw [free] at hr
      cases hr
  · cases hstep with
    | recordFirst | recordNext | claim | finish | retrieve | retrieved => exact hother rfl hid

theorem next_readable {p : RecallLedgerEvent × UInt64} (hclean : CleanClaim p.1) (h : Readable H s) :
    Readable H (ledgerNext H s p) := by
  rcases apply_outcome H s p.1 p.2 with ⟨-, hstep⟩ | ⟨-, hsame⟩
  · exact step_readable hstep hclean h
  · rw [ledgerNext, hsame]
    exact h

theorem next_poisoned {id : RecallNeedId} (p : RecallLedgerEvent × UInt64) (h : Poisoned id s) :
    Poisoned id (ledgerNext H s p) := by
  rcases apply_outcome H s p.1 p.2 with ⟨-, hstep⟩ | ⟨-, hsame⟩
  · exact step_poisoned hstep h
  · rw [ledgerNext, hsame]
    exact h

theorem readable_empty (H : Sha256) : Readable H .empty := by
  refine ⟨fun h => ?_, fun h => ?_, fun h => ?_, fun h => ?_⟩ <;> cases h

/-- **The ledger stays readable exactly while its claims are clean.** If no claim of a run carries a
control character in its request id, every state of the run can be read back; and a run whose final
state can be read back has accepted no claim with one. -/
theorem recall_readable (H : Sha256) :
    (∀ events : List (RecallLedgerEvent × UInt64), (∀ p ∈ events, CleanClaim p.1) →
      ∀ es fs, events = es ++ fs → Readback H (ledgerRun H es)) ∧
    (∀ events : List (RecallLedgerEvent × UInt64), Readback H (ledgerRun H events) →
      ∀ p ∈ acceptedEvents H .empty events, CleanClaim p.1) := by
  refine ⟨fun events hclean es fs hsplit => ?_, fun events hread p hp => ?_⟩
  · subst hsplit
    refine Readable.readback (run_invariant es (fun s p hp h => next_readable ?_ h) _ (readable_empty H))
    exact hclean p (List.mem_append_left _ hp)
  · obtain ⟨e, seq⟩ := p
    cases e with
    | needRecorded | presentationAttempt => trivial
    | retrievalOutcome outcome =>
      intro hstate
      by_contra hcontrol
      rw [Bool.not_eq_false] at hcontrol
      have hpoisoned : Poisoned outcome.recallNeedId (ledgerRun H events) := by
        refine run_of_accepted (fun s p h => next_poisoned p h) (fun s hacc => ?_) events .empty hp
        have hstep := ledgerAccepts_step hacc
        generalize ledgerNext H s (.retrievalOutcome outcome, seq) = s' at hstep ⊢
        cases hstep with
        | retrieve => exact ⟨_, _, _, OrdMap.get_insert_self _ _ _, rfl, hcontrol⟩
        | retrieved _ _ state => exact absurd hstate state
      obtain ⟨n, q, r, hn, hr, hc⟩ := hpoisoned
      have htext := (validate_axes_of (hread.1 _ n q hn)).1
      rw [hr, Option.all_some, hc] at htext
      simp at htext

/-- The run of the counterexample with a clean request id is read back. -/
theorem recall_readable_sample : Readback sampleSha (ledgerRun sampleSha (sampleEvents "request:s22")) := by
  refine (recall_readable sampleSha).1 (sampleEvents "request:s22") (fun p hp => ?_) _ [] (by simp)
  simp only [sampleEvents, List.mem_cons, List.not_mem_nil, or_false] at hp
  rcases hp with rfl | rfl
  · trivial
  · exact fun _ => by decide +kernel

end EverTrace.Bugs.RecallRequestId
