import EverTrace.Bugs.RecallRequestId
import EverTrace.Lib.Bisim
/-!
# An attempt id that a restart forgets

The ledger keeps every attempt id that was ever claimed and refuses to claim
it again (evertrace-store/src/projections/recall_ledger.rs:44-47). The set is
not written out: `restore` (recall_ledger.rs:172-179) puts back the attempt ids
that a need still shows as active. `FailedPreEmit` clears the active id
(recall_ledger.rs:75-78), so the id of a failed attempt is in the live ledger's
set and not in the restored one's.

Counterexample: record a need, claim it under an attempt id and report the
attempt as failed. The live ledger refuses a second claim under that id; a
ledger restored from the rows accepts it.

When no claim after the restart carries the id of an attempt that failed before
it, the restored ledger answers every further event as the live one does and
ends with the same needs (`restore_transparent`). Both ledgers hold the same
needs all along; the live one knows more attempt ids, all of them failed.
-/
namespace EverTrace.Bugs.RecallAttemptReuse
open EverTrace.Lib EverTrace.L1 EverTrace.L2.Work EverTrace.L2.Recall EverTrace.Bugs.RecallRequestId

/-- One event, its answer and the ledger after it. -/
def ledgerStep (H : Sha256) (s : RecallLedgerState) (p : RecallLedgerEvent × UInt64) : Bool × RecallLedgerState :=
  (ledgerAccepts H s p, ledgerNext H s p)

/-- The event reports the attempt `id` as failed before it was emitted. -/
def Fails (id : PresentationAttemptId) : RecallLedgerEvent → Prop
  | .presentationAttempt attempt => attempt.presentationAttemptId = id ∧ attempt.state = .failedPreEmit
  | _ => False

/-- A claim under none of the attempt ids in `failed`. -/
def FreshClaim (failed : PresentationAttemptId → Prop) : RecallLedgerEvent → Prop
  | .presentationAttempt attempt => attempt.state = .claimedForBoundary → ¬ failed attempt.presentationAttemptId
  | _ => True

/-- The attempt ids that a run from the empty ledger reported as failed. -/
def failedAttempts (H : Sha256) (events : List (RecallLedgerEvent × UInt64)) (id : PresentationAttemptId) : Prop :=
  ∃ p ∈ acceptedEvents H .empty events, Fails id p.1

/-! ## The defect -/

def sampleAttempt (id : Fin 16) (state : PresentationAttemptState) : RecallLedgerEvent × UInt64 :=
  (.presentationAttempt ⟨sampleId id, sampleId 5, sampleSha.hash [], "b", state, 4⟩, 3)

def failedRun : List (RecallLedgerEvent × UInt64) :=
  [(.needRecorded sampleNeed, 1), sampleAttempt 7 .claimedForBoundary, sampleAttempt 7 .failedPreEmit]

/-- **Counterexample**: all three events are accepted; the live ledger refuses a second claim under the failed
attempt's id, the restored one accepts it. -/
theorem failed_attempt_forgotten :
    (acceptedEvents sampleSha .empty failedRun).length = 3 ∧
    answers (ledgerStep sampleSha) (ledgerRun sampleSha failedRun) [sampleAttempt 7 .claimedForBoundary] = [false] ∧
    (restoreRows sampleSha .empty (rows (ledgerRun sampleSha failedRun) 1)).toOption.map
      (answers (ledgerStep sampleSha) · [sampleAttempt 7 .claimedForBoundary]) = some [true] := by
  decide +kernel

/-! ## Ledgers that answer alike -/

/-- The same needs; the second ledger knows more attempt ids, all of them failed. -/
structure Alike (failed : PresentationAttemptId → Prop) (r s : RecallLedgerState) : Prop where
  needs : ∀ id, r.needs.get id = s.needs.get id
  attempts : r.presentationAttempts ⊆ s.presentationAttempts
  missing : ∀ a ∈ s.presentationAttempts, a ∉ r.presentationAttempts → failed a
  known : ∀ {id n q a}, r.needs.get id = some (n, q) → n.activePresentationAttemptId = some a →
    a ∈ r.presentationAttempts

variable {H : Sha256} {failed : PresentationAttemptId → Prop} {r s r' s' : RecallLedgerState}

theorem Alike.write (h : Alike failed r s) {id : RecallNeedId} {n : RecallNeed} (seq : UInt64)
    (hr : r'.needs = r.needs.insert id (n, seq)) (hs : s'.needs = s.needs.insert id (n, seq))
    (hra : r'.presentationAttempts = r.presentationAttempts) (hsa : s'.presentationAttempts = s.presentationAttempts)
    (known : ∀ a, n.activePresentationAttemptId = some a → a ∈ r.presentationAttempts) : Alike failed r' s' := by
  refine ⟨fun k => ?_, ?_, ?_, fun {k m q a} hk ha => ?_⟩
  · rw [hr, hs, OrdMap.get_insert, OrdMap.get_insert, h.needs]
  · rw [hra, hsa]
    exact h.attempts
  · rw [hra, hsa]
    exact h.missing
  · rw [hr, OrdMap.get_insert] at hk
    rw [hra]
    split at hk
    · cases hk
      exact known a ha
    · exact h.known hk ha

theorem recordNeed_alike (h : Alike failed r s) (need : RecallNeed) (seq : UInt64) :
    (recordNeed r need seq).1 = (recordNeed s need seq).1 ∧
      Alike failed (recordNeed r need seq).2 (recordNeed s need seq).2 := by
  unfold recordNeed
  rw [← h.needs]
  cases found : r.needs.get need.recallNeedId with
  | none =>
    dsimp only
    split
    · exact ⟨rfl, h⟩
    · next hfirst =>
      simp only [Bool.or_eq_true, Option.isSome_iff_ne_none, not_or, not_not] at hfirst
      refine ⟨rfl, h.write seq rfl rfl rfl rfl fun a ha => ?_⟩
      rw [hfirst.1.2] at ha
      cases ha
  | some p =>
    obtain ⟨current, q⟩ := p
    dsimp only
    split
    · exact ⟨rfl, h⟩
    · next hnext =>
      simp only [Bool.or_eq_true, Bool.not_eq_true', not_or, Bool.not_eq_false] at hnext
      obtain ⟨-, -, hattempt, -⟩ := sameDeliveryAndAgentAxes_iff.mp hnext.1.2
      refine ⟨rfl, h.write seq rfl rfl rfl rfl fun a ha => ?_⟩
      rw [← hattempt] at ha
      exact h.known found ha

/-- A fresh claim is accepted by both or by none: only a failed id tells them apart. -/
theorem Alike.claimed_iff (h : Alike failed r s) {a : PresentationAttemptId} (ha : ¬ failed a) :
    a ∈ r.presentationAttempts ↔ a ∈ s.presentationAttempts := by
  refine ⟨fun hr => h.attempts hr, fun hs => ?_⟩
  by_contra hr
  exact ha (h.missing a hs hr)

theorem Alike.claim (h : Alike failed r s) {id : RecallNeedId} {n : RecallNeed} (seq : UInt64)
    {a : PresentationAttemptId} (hr : r'.needs = r.needs.insert id (n, seq))
    (hs : s'.needs = s.needs.insert id (n, seq))
    (hra : r'.presentationAttempts = insert a r.presentationAttempts)
    (hsa : s'.presentationAttempts = insert a s.presentationAttempts)
    (own : n.activePresentationAttemptId = some a) : Alike failed r' s' := by
  refine ⟨fun k => ?_, ?_, fun b hb hb' => ?_, fun {k m q b} hk hb => ?_⟩
  · rw [hr, hs, OrdMap.get_insert, OrdMap.get_insert, h.needs]
  · rw [hra, hsa]
    exact Finset.insert_subset_insert a h.attempts
  · rw [hra, Finset.mem_insert, not_or] at hb'
    rw [hsa, Finset.mem_insert] at hb
    exact h.missing b (hb.resolve_left hb'.1) hb'.2
  · rw [hr, OrdMap.get_insert] at hk
    rw [hra, Finset.mem_insert]
    split at hk
    · cases hk
      rw [own] at hb
      exact .inl (Option.some.inj hb).symm
    · exact .inr (h.known hk hb)

theorem applyAttempt_alike (h : Alike failed r s) {attempt : RecallPresentationAttempt} (seq : UInt64)
    (fresh : FreshClaim failed (.presentationAttempt attempt)) :
    (applyAttempt r attempt seq).1 = (applyAttempt s attempt seq).1 ∧
      Alike failed (applyAttempt r attempt seq).2 (applyAttempt s attempt seq).2 := by
  unfold applyAttempt
  rw [← h.needs]
  cases found : r.needs.get attempt.recallNeedId with
  | none => exact ⟨rfl, h⟩
  | some p =>
    obtain ⟨need, q⟩ := p
    dsimp only
    split
    · exact ⟨rfl, h⟩
    by_cases hstate : attempt.state = .claimedForBoundary
    · rw [if_pos hstate, if_pos hstate]
      by_cases hfree : attempt.presentationAttemptId ∈ r.presentationAttempts ∨ (!need.deliveryState.claimable) = true
      · rw [if_pos hfree, if_pos (hfree.imp_left (h.claimed_iff (fresh hstate)).mp)]
        exact ⟨rfl, h⟩
      · rw [if_neg hfree, if_neg (mt (Or.imp_left (h.claimed_iff (fresh hstate)).mpr) hfree)]
        exact ⟨rfl, h.claim seq rfl rfl rfl rfl rfl⟩
    · rw [if_neg hstate, if_neg hstate]
      -- an attempt that is finished is the active one, and both ledgers know it
      by_cases hown : need.activePresentationAttemptId = some attempt.presentationAttemptId
      · have hr := h.known found hown
        have hs := h.attempts hr
        simp only [hr, hs, not_true_eq_false, false_or]
        split
        · exact ⟨rfl, h⟩
        · refine ⟨rfl, h.write seq rfl rfl rfl rfl fun a ha => ?_⟩
          dsimp only at ha
          split at ha
          · cases ha
          · rw [← Option.some.inj (hown.symm.trans ha)]
            exact hr
      · rw [if_pos (.inr (.inl hown)), if_pos (.inr (.inl hown))]
        exact ⟨rfl, h⟩

theorem applyOutcome_alike (h : Alike failed r s) (outcome : RecallRetrievalOutcome) (seq : UInt64) :
    (applyOutcome r outcome seq).1 = (applyOutcome s outcome seq).1 ∧
      Alike failed (applyOutcome r outcome seq).2 (applyOutcome s outcome seq).2 := by
  unfold applyOutcome
  rw [← h.needs]
  cases found : r.needs.get outcome.recallNeedId with
  | none => exact ⟨rfl, h⟩
  | some p =>
    obtain ⟨need, q⟩ := p
    dsimp only
    split
    · exact ⟨rfl, h⟩
    · split
      · split
        · exact ⟨rfl, h⟩
        · exact ⟨rfl, h.write seq rfl rfl rfl rfl fun a ha => h.known found ha⟩
      · split
        · exact ⟨rfl, h⟩
        · exact ⟨rfl, h.write seq rfl rfl rfl rfl fun a ha => h.known found ha⟩

/-- Alike ledgers answer one event alike and stay alike. -/
theorem apply_alike (h : Alike failed r s) {e : RecallLedgerEvent} (seq : UInt64) (fresh : FreshClaim failed e) :
    (apply H r e seq).1 = (apply H s e seq).1 ∧ Alike failed (apply H r e seq).2 (apply H s e seq).2 := by
  unfold apply
  split
  · exact ⟨rfl, h⟩
  · cases e with
    | needRecorded need => exact recordNeed_alike h need seq
    | presentationAttempt attempt => exact applyAttempt_alike h seq fresh
    | retrievalOutcome outcome => exact applyOutcome_alike h outcome seq

theorem ledgerStep_bisimulation (H : Sha256) (failed : PresentationAttemptId → Prop) :
    Bisimulation (ledgerStep H) (fun p => FreshClaim failed p.1) (Alike failed) := by
  intro r s p h fresh
  obtain ⟨hanswer, halike⟩ := apply_alike (H := H) h p.2 fresh
  refine ⟨?_, halike⟩
  unfold ledgerStep ledgerAccepts
  rw [hanswer]

/-! ## The restored ledger -/

/-- Every attempt id the ledger knows is active in a need or has failed. -/
def Accounted (failed : PresentationAttemptId → Prop) (s : RecallLedgerState) : Prop :=
  ∀ a ∈ s.presentationAttempts,
    (∃ id n q, s.needs.get id = some (n, q) ∧ n.activePresentationAttemptId = some a) ∨ failed a

/-- Writing a need that keeps the active attempt id it had keeps every id accounted for. -/
theorem Accounted.insert (h : Accounted failed s) {id : RecallNeedId} {n : RecallNeed} {seq : UInt64}
    (needs : s'.needs = s.needs.insert id (n, seq)) (attempts : s'.presentationAttempts = s.presentationAttempts)
    (keeps : ∀ n' q' a, s.needs.get id = some (n', q') → n'.activePresentationAttemptId = some a →
      n.activePresentationAttemptId = some a ∨ failed a) : Accounted failed s' := by
  intro a ha
  rw [attempts] at ha
  rcases h a ha with ⟨id', n', q', hn', ha'⟩ | hfailed
  · by_cases hid : id' = id
    · subst hid
      rcases keeps n' q' a hn' ha' with hkept | hfailed
      · exact .inl ⟨id', n, seq, by rw [needs, OrdMap.get_insert_self], hkept⟩
      · exact .inr hfailed
    · exact .inl ⟨id', n', q', by rw [needs, OrdMap.get_insert_of_ne _ _ hid]; exact hn', ha'⟩
  · exact .inr hfailed

theorem step_accounted {seq : UInt64} {e : RecallLedgerEvent} (hstep : Step H s seq e s')
    (counted : ∀ a, Fails a e → failed a) (hr : Readable H s) (h : Accounted failed s) : Accounted failed s' := by
  cases hstep with
  | recordFirst _ absent =>
    refine h.insert rfl rfl fun n' q' a hn' _ => ?_
    rw [absent] at hn'
    cases hn'
  | recordNext _ found _ axes =>
    obtain ⟨-, -, hattempt, -⟩ := sameDeliveryAndAgentAxes_iff.mp axes
    refine h.insert rfl rfl fun n' q' a hn' ha => ?_
    rw [found] at hn'
    cases hn'
    exact .inl (hattempt ▸ ha)
  | @claim attempt need q found _ _ _ claimable =>
    -- a need that can be claimed has no active attempt
    have hnone : need.activePresentationAttemptId = none := by
      have haxes := (validate_axes_of (hr.valid found)).2.1
      rw [claimable] at haxes
      simpa using haxes
    intro a ha
    rcases Finset.mem_insert.mp ha with rfl | ha
    · exact .inl ⟨_, _, _, OrdMap.get_insert_self _ _ _, rfl⟩
    · rcases h a ha with ⟨id', n', q', hn', ha'⟩ | hfailed
      · by_cases hid : id' = attempt.recallNeedId
        · subst hid
          rw [found] at hn'
          cases hn'
          rw [hnone] at ha'
          cases ha'
        · exact .inl ⟨id', n', q', by rw [OrdMap.get_insert_of_ne _ _ hid]; exact hn', ha'⟩
      · exact .inr hfailed
  | @finish attempt need q found _ _ own =>
    refine h.insert rfl rfl fun n' q' a hn' ha => ?_
    rw [found] at hn'
    cases hn'
    dsimp only
    by_cases hfailed : attempt.state = .failedPreEmit
    · rw [own] at ha
      exact .inr (counted a ⟨Option.some.inj ha, hfailed⟩)
    · rw [if_neg hfailed]
      exact .inl ha
  | retrieve _ found | retrieved found =>
    refine h.insert rfl rfl fun n' q' a hn' ha => ?_
    rw [found] at hn'
    cases hn'
    exact .inl ha

/-- The attempt ids the ledger knows are those that its needs show as active. -/
def Shown (s : RecallLedgerState) : Prop :=
  ∀ a, a ∈ s.presentationAttempts ↔ ∃ id n q, s.needs.get id = some (n, q) ∧ n.activePresentationAttemptId = some a

theorem restore_shown {row : ObjectRow} {need : RecallNeed} (h : restore H s row need = (.ok (), s')) (hs : Shown s) :
    Shown s' := by
  unfold restore at h
  split at h
  · cases h
  next hcheck =>
  simp only [not_or, Option.not_isSome_iff_eq_none] at hcheck
  obtain ⟨-, -, -, -, -, -, -, -, absent⟩ := hcheck
  -- what the new needs show: what the new need shows, or what was shown before
  have hshown : ∀ a, (∃ id n q, (s.needs.insert need.recallNeedId (need, row.sourceEventSeq)).get id = some (n, q) ∧
      n.activePresentationAttemptId = some a) ↔ need.activePresentationAttemptId = some a ∨
        a ∈ s.presentationAttempts := by
    intro a
    rw [hs a]
    refine ⟨fun ⟨id, n, q, hn, ha⟩ => ?_, fun h => ?_⟩
    · rw [OrdMap.get_insert] at hn
      split at hn
      · cases hn
        exact .inl ha
      · exact .inr ⟨id, n, q, hn, ha⟩
    · rcases h with ha | ⟨id, n, q, hn, ha⟩
      · exact ⟨_, _, _, OrdMap.get_insert_self _ _ _, ha⟩
      · refine ⟨id, n, q, ?_, ha⟩
        rw [OrdMap.get_insert_of_ne _ _ fun hid => ?_]
        · exact hn
        · rw [hid, absent] at hn
          cases hn
  split at h
  · next hnone =>
    cases h
    intro a
    rw [hshown a, hnone]
    simp
  · next b hsome =>
    split at h
    · cases h
    · cases h
      intro a
      rw [hshown a, hsome, Finset.mem_insert]
      simp [eq_comm]

/-- A restored ledger knows exactly the attempt ids that its needs show as active. -/
theorem restoreRows_shown : ∀ (l : List ObjectRow) (s s' : RecallLedgerState), restoreRows H s l = .ok s' →
    Shown s → Shown s' := by
  intro l
  induction l with
  | nil =>
    intro s s' h hs
    cases h
    exact hs
  | cons row rest ih =>
    intro s s' h hs
    unfold restoreRows at h
    split at h
    · cases h
    · exact ih s s' h hs
    · split at h
      · cases h
      · next hrestore => exact ih _ s' h (restore_shown hrestore hs)

/-- The ledger restored from the rows of an accounted one is alike to it. -/
theorem restored_alike {l : List ObjectRow} (hr : Readable H s) (ha : Accounted failed s)
    (hrestore : restoreRows H .empty l = .ok r) (needs : ∀ id, r.needs.get id = s.needs.get id) :
    Alike failed r s := by
  have hshown : Shown r := by
    refine restoreRows_shown l .empty r hrestore fun a => ?_
    simp [RecallLedgerState.empty]
  refine ⟨needs, fun a hmem => ?_, fun a hmem hmissing => ?_, fun {id n q a} hn hactive => ?_⟩
  · obtain ⟨id, n, q, hn, hactive⟩ := (hshown a).mp hmem
    rw [needs] at hn
    exact hr.known hn hactive
  · rcases ha a hmem with ⟨id, n, q, hn, hactive⟩ | hfailed
    · rw [← needs] at hn
      exact absurd ((hshown a).mpr ⟨id, n, q, hn, hactive⟩) hmissing
    · exact hfailed
  · exact (hshown a).mpr ⟨id, n, q, hn, hactive⟩

/-! ## Runs -/

theorem run_accounted {events : List (RecallLedgerEvent × UInt64)}
    (clean : ∀ p ∈ acceptedEvents H .empty events, CleanClaim p.1) :
    Readable H (ledgerRun H events) ∧ Accounted (failedAttempts H events) (ledgerRun H events) := by
  have hrule := @run_invariant_accepted _ _ (ledgerAccepts H) (ledgerNext H)
  refine hrule (P := fun s => Readable H s ∧ Accounted (failedAttempts H events) s) (fun s p hacc h => ?_) events .empty
    (fun s p hp hacc h => ?_) ⟨readable_empty H, fun a ha => absurd ha (Finset.notMem_empty a)⟩
  · rcases apply_outcome H s p.1 p.2 with ⟨hok, -⟩ | ⟨-, hsame⟩
    · rw [ledgerAccepts, hok] at hacc
      cases hacc
    · rw [ledgerNext, hsame]
      exact h
  · have hstep := ledgerAccepts_step hacc
    exact ⟨step_readable hstep (clean p hp) h.1, step_accounted hstep (fun a ha => ⟨p, hp, ha⟩) h.1 h.2⟩

theorem run_alike : ∀ (events : List (RecallLedgerEvent × UInt64)) (r s : RecallLedgerState), Alike failed r s →
    (∀ p ∈ events, FreshClaim failed p.1) → Alike failed (run (ledgerNext H) r events) (run (ledgerNext H) s events) := by
  intro events
  induction events with
  | nil => exact fun r s h _ => h
  | cons p rest ih =>
    intro r s h fresh
    exact ih _ _ (apply_alike h p.2 (fresh p List.mem_cons_self)).2
      fun x hx => fresh x (List.mem_cons_of_mem _ hx)

/-- **A restart is transparent unless a failed attempt id is claimed again.** Let `before` be a run whose accepted
retrieval claims carry no control character, and `after` further events of which no claim carries an attempt id that
`before` reported as failed. The rows after `before`, read in any order, restore a ledger that accepts and refuses
the same events of `after` as the live one does, and ends with the same needs. -/
theorem restore_transparent (H : Sha256) (before after : List (RecallLedgerEvent × UInt64))
    (clean : ∀ p ∈ acceptedEvents H .empty before, CleanClaim p.1)
    (fresh : ∀ p ∈ after, FreshClaim (failedAttempts H before) p.1) :
    ∀ generation, ∀ order : List (RecallNeedId × RecallNeed × UInt64),
      order.Perm (ledgerRun H before).needs.entries →
      ∃ r, restoreRows H .empty (order.map (entryRow generation)) = .ok r ∧
        answers (ledgerStep H) r after = answers (ledgerStep H) (ledgerRun H before) after ∧
        ∀ id, (run (ledgerNext H) r after).needs.get id = (ledgerRun H (before ++ after)).needs.get id := by
  intro generation order hperm
  obtain ⟨hreadable, haccounted⟩ := run_accounted clean
  obtain ⟨r, hrestore, hneeds⟩ := hreadable.readback.2 generation order hperm
  have halike := restored_alike hreadable haccounted hrestore hneeds
  refine ⟨r, hrestore, ?_, fun id => ?_⟩
  · exact (ledgerStep_bisimulation H (failedAttempts H before)).answers_eq after r _ halike fresh
  · have hend := (run_alike (H := H) after r _ halike fresh).needs id
    rw [hend, ledgerRun, ledgerRun, run_append]

/-- The run of the counterexample, continued with a claim under another attempt id. -/
theorem restore_transparent_sample :
    ∃ r, restoreRows sampleSha .empty (rows (ledgerRun sampleSha failedRun) 1) = .ok r ∧
      answers (ledgerStep sampleSha) r [sampleAttempt 8 .claimedForBoundary] = [true] := by
  have hevents : acceptedEvents sampleSha .empty failedRun = failedRun := by decide +kernel
  have hclean : ∀ p ∈ acceptedEvents sampleSha .empty failedRun, CleanClaim p.1 := by
    rw [hevents]
    intro p hp
    simp only [failedRun, List.mem_cons, List.not_mem_nil, or_false] at hp
    rcases hp with rfl | rfl | rfl <;> trivial
  have hfresh : ∀ p ∈ [sampleAttempt 8 .claimedForBoundary], FreshClaim (failedAttempts sampleSha failedRun) p.1 := by
    intro p hp
    rw [List.mem_singleton.mp hp]
    rintro _ ⟨x, hx, hfails⟩
    rw [hevents] at hx
    simp only [failedRun, List.mem_cons, List.not_mem_nil, or_false] at hx
    rcases hx with rfl | rfl | rfl
    · exact hfails
    · cases hfails.2
    · exact absurd hfails.1 (by decide)
  obtain ⟨r, hr, hanswers, -⟩ := restore_transparent sampleSha failedRun _ hclean hfresh 1 _ (.refl _)
  exact ⟨r, hr, hanswers.trans (by decide +kernel)⟩

end EverTrace.Bugs.RecallAttemptReuse
