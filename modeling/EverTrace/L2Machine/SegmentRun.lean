import EverTrace.L2Machine.SegmentInv
/-!
# What holds along every segmentation run

One cycle observes an operation, commits the step and acknowledges it. Here
`Inv` is shown to hold when a segmenter is started and to be kept by every
cycle, and by everything that other commands do in between.

Results:
* `cycle_ok`: what one cycle does to the bursts and to the candidate, and that `Inv` is kept.
* `run_inv`: `Inv` holds in every state of every run.
-/
namespace EverTrace.L2.Segmentation
open EverTrace.Lib EverTrace.L1 EverTrace.L2.Work
open SegmentationDetector OperationBurstFolder IncrementalSegmenter

/-! ## One cycle, piece by piece -/

/-- A step observed from the segmenter's own state. -/
structure Observed (s : IncrementalSegmenter) (p : SegmentationCurrentState) (e : WorkEpisode)
    (fresh : FreshIds) (pending : PendingTransition) : Prop where
  isOpen : s.closed = false
  openEpisode : e.lifecycleStatus = .open_
  compiled : Compiled p.authority s.episodeId e pending.step.token
  pushed : Pushed s.folder pending.step.token fresh pending.step.burst pending.nextFolder
  delta : pending.step.burst.noDelta = false
  detected : Detected s.detector pending.step.token pending.step.burst pending.step.detector pending.nextDetector
  revision : pending.step.episodeSuccessorRevisionId = fresh.episodeRevisionId

theorem Inv.observed {s s' : IncrementalSegmenter} {p : SegmentationCurrentState} {e : WorkEpisode}
    {bursts : List OperationBurst} {operationId : OperationId} {facts : SegmentationFacts} {fresh : FreshIds}
    {step : IncrementalSegmentationStep} (h : Inv s p e bursts)
    (hobserve : s.observe p operationId facts fresh = (.ok (.delta step), s')) :
    ∃ pending, pending.step = step ∧ s' = { s with pending := some pending } ∧ Observed s p e fresh pending := by
  obtain ⟨episode, token, pending, hopen, hepisode, -, hlifecycle, htoken, hprepared, hstep, hs'⟩ :=
    observe_delta h.idle hobserve
  obtain rfl : episode = e := Option.some.inj (hepisode.symm.trans h.episode)
  have hcompiled := compileChecked_ok hepisode htoken
  obtain ⟨hfolded, hdelta, hdetected, rfl, hrevision⟩ := hprepared
  have hstream : pending.step.token.workstreamId = s.detector.workstreamId :=
    hcompiled.sameWorkstream.trans h.workstream.symm
  exact ⟨pending, hstep, hs', hopen, hlifecycle, hcompiled, OperationBurstFolder.push_ok hfolded, hdelta,
    SegmentationDetector.push_ok hstream hdetected, hrevision⟩

/-- A burst revision that the command of a step records. -/
inductive Recorded (step : IncrementalSegmentationStep) : OperationBurst → Prop
  | closed {v : OperationBurst} (h : step.burst.closed = some v) : Recorded step v
  | current : Recorded step step.burst.current
  | closing (revisionId : RevisionId) (h : (closedBurst step.burst.current revisionId).validate = .ok ()) :
    Recorded step (closedBurst step.burst.current revisionId)

/-- Either command revises the episode and records bursts of its step only. -/
theorem command_ok {e : WorkEpisode} {step : IncrementalSegmentationStep} {receipts : List CaptureReceipt}
    {command : SegmentationCommand} (h : CommandFor e step receipts command) :
    (∃ exitSnapshot, Revised e step receipts (step.detector.boundaryStatus == .confirmed) exitSnapshot
      command.episode) ∧ ∀ v ∈ command.bursts, Recorded step v := by
  have hconfirming : ∀ {confirming exitSnapshot next}, Revised e step receipts confirming exitSnapshot next →
      Revised e step receipts (step.detector.boundaryStatus == .confirmed) exitSnapshot next := by
    intro confirming exitSnapshot next hrevised
    have hplaced := hrevised.placed
    simp only [stepMisplaced, Bool.or_eq_false_iff, bne_eq_false_iff_eq] at hplaced
    obtain ⟨⟨⟨-, hstatus⟩, -⟩, -⟩ := hplaced
    rw [hstatus]
    exact hrevised
  cases h with
  | update h =>
    unfold saveSegmentationUpdate at h
    obtain ⟨episode, hrevise, h⟩ := bind_eq_ok.mp h
    cases h
    refine ⟨⟨none, hconfirming (revise_iff.mp hrevise)⟩, fun v hv => ?_⟩
    rcases List.mem_append.mp hv with hv | hv
    · exact .closed (Option.mem_toList.mp hv)
    · split at hv
      · rw [List.mem_singleton.mp hv]
        exact .current
      · cases hv
  | close exitSnapshot closingRevisionId withOpening h =>
    unfold closeEpisode at h
    obtain ⟨episode, hconfirm, h⟩ := bind_eq_ok.mp h
    obtain ⟨-, h⟩ := ite_error_else.mp h
    obtain ⟨closing, hclosing, h⟩ := bind_eq_ok.mp h
    cases h
    unfold confirmEpisodeBoundary at hconfirm
    obtain ⟨-, hrevise⟩ := ite_error_else.mp hconfirm
    obtain ⟨rfl, hsuccessor⟩ := closeBurst_ok (mapError_ok.mp hclosing)
    refine ⟨⟨exitSnapshot, hconfirming (revise_iff.mp hrevise)⟩, fun v hv => ?_⟩
    rcases List.mem_append.mp hv with hv | hv
    · rcases List.mem_append.mp hv with hv | hv
      · exact .closed (Option.mem_toList.mp hv)
      · split at hv
        · rw [List.mem_singleton.mp hv]
          exact .current
        · cases hv
    · rw [List.mem_singleton.mp hv]
      exact .closing _ (OperationBurst.validateSuccessor_successor hsuccessor).validated.2

/-- A whole cycle: the step, the episode's next revision and what the store shows afterwards. -/
structure Stepped (s s' : IncrementalSegmenter) (p p' : SegmentationCurrentState) (e e' : WorkEpisode)
    (fresh : FreshIds) (pending : PendingTransition) (stored : OperationBurst) : Prop
    extends Observed s p e fresh pending where
  unused : p.bursts fresh.burstId = none
  revised : ∃ receipts exitSnapshot,
    Revised e pending.step receipts (pending.step.detector.boundaryStatus == .confirmed) exitSnapshot e'
  recorded : ∀ id, p'.bursts id = p.bursts id ∨
    ∃ v, Recorded pending.step v ∧ v.operationBurstId = id ∧ p'.bursts id = some v
  promoted : Promoted { s with pending := some pending } p' pending e' stored s'

theorem Inv.stepped {s s' : IncrementalSegmenter} {p p' : Projection} {e : WorkEpisode} {bursts : List OperationBurst}
    {token : ActivityToken} (h : Inv s p.current e bursts) (hcycle : Cycle s s' p p' token) :
    ∃ e' fresh pending stored, pending.step.token = token ∧
      Stepped s s' p.current p'.current e e' fresh pending stored := by
  obtain ⟨operationId, facts, fresh, step, s₁, episode, receipts, command, hunused, hobserve, rfl, hepisode, hcommand,
    hcommit, hack⟩ := hcycle
  obtain rfl : episode = e := Option.some.inj (hepisode.symm.trans h.episode)
  obtain ⟨pending, rfl, rfl, hobserved⟩ := h.observed hobserve
  obtain ⟨promoting, e', stored, hstep, hpromoted⟩ := acknowledge_ok hack
  obtain rfl : pending = promoting := Option.some.inj hpromoted.wasPending
  obtain ⟨⟨exitSnapshot, hrevised⟩, hrecorded⟩ := command_ok hcommand
  obtain ⟨-, hauthority, hbursts⟩ := Projection.commit_ok hcommit
  -- the store shows the command's episode: the old one has another revision
  have hrevision : e'.revisionId = pending.step.episodeSuccessorRevisionId := by
    have := hpromoted.episodeMatches
    simp only [episodeMatches, Bool.and_eq_true, beq_iff_eq] at this
    exact this.1.1.1.1.1.1
  obtain ⟨stats, summary, -, -, hbuilt⟩ := hrevised.built
  have hnew : command.episode.revisionId = pending.step.episodeSuccessorRevisionId := by rw [hbuilt]; rfl
  have hsame : e'= command.episode := by
    have hstored : p'.current.episode s.episodeId = some e' := hpromoted.stored
    rcases hauthority with hauthority | hauthority
    · refine absurd ?_ hrevised.checked.newRevision
      have : e' = episode := by
        have : p'.current.episode s.episodeId = p.current.episode s.episodeId := by
          simp only [SegmentationCurrentState.episode, hauthority]
        rw [this, hepisode] at hstored
        exact (Option.some.inj hstored).symm
      rw [hnew, ← hrevision, this]
    · have hid : command.episode.episodeId = s.episodeId := by
        have hplaced := hrevised.placed
        simp only [stepMisplaced, Bool.or_eq_false_iff, bne_eq_false_iff_eq] at hplaced
        obtain ⟨⟨⟨⟨⟨⟨⟨⟨hplaced, -⟩, -⟩, -⟩, -⟩, -⟩, -⟩, -⟩, -⟩ := hplaced
        rw [hrevised.checked.sameEpisode, ← hplaced, hobserved.compiled.sameEpisode]
      simp only [SegmentationCurrentState.episode, hauthority, hid, Function.update_self] at hstored
      exact (Option.some.inj hstored).symm
  subst hsame
  refine ⟨_, fresh, pending, stored, rfl, hobserved, hunused, ⟨receipts, exitSnapshot, hrevised⟩, fun id => ?_,
    hpromoted⟩
  exact (hbursts id).imp_right fun ⟨v, hv, hid, hsome⟩ => ⟨v, hrecorded v hv, hid, hsome⟩

/-! ## The bursts after a cycle -/

section Cycle

variable {s s' : IncrementalSegmenter} {p p' : SegmentationCurrentState} {e e' : WorkEpisode}
  {bursts : List OperationBurst} {fresh : FreshIds} {pending : PendingTransition} {stored : OperationBurst}

theorem Observed.settles (h : Observed s p e fresh pending) : ∃ candidate status confirmation alignment retracted evidence,
    Settles s.detector pending.step.token pending.step.burst candidate status confirmation evidence ∧
    pending.step.detector =
      (s.detector.advance pending.step.token candidate status confirmation).update pending.step.token alignment retracted
        evidence ∧
    pending.nextDetector = if pending.step.burst.startedNew then
        (s.detector.advance pending.step.token candidate status confirmation).recordFeature pending.step.burst.current
      else s.detector.advance pending.step.token candidate status confirmation :=
  h.detected.effect

/-- A token that confirms the boundary has evidence, so it extends no burst. -/
theorem Inv.not_extended (h : Inv s p e bursts) (hstep : Observed s p e fresh pending)
    (hconfirmed : pending.step.detector.boundaryStatus = .confirmed) : s.folder.extended pending.step.token = none := by
  obtain ⟨candidate, status, confirmation, alignment, retracted, evidence, hsettles, hupdate, -⟩ := hstep.settles
  have hstatus : status = .confirmed := by
    rw [hupdate] at hconfirmed
    exact hconfirmed
  have hevidence := (hsettles.of_confirmed (h.not_confirmed hstep.isOpen) hstatus).2.1
  cases hextended : s.folder.extended pending.step.token with
  | none => rfl
  | some current => exact absurd (extended_some hextended).2.noEvidence hevidence

theorem Inv.lookup_kept (h : Inv s p e bursts) (hstep : Stepped s s' p p' e e' fresh pending stored)
    {b : OperationBurst} (hb : b ∈ bursts) (hcurrent : b.operationBurstId ≠ pending.step.burst.current.operationBurstId)
    (hclosed : ∀ v, pending.step.burst.closed = some v → b.operationBurstId ≠ v.operationBurstId) :
    p'.bursts b.operationBurstId = some b := by
  rcases hstep.recorded b.operationBurstId with hsame | ⟨v, hrecorded, hid, -⟩
  · rw [hsame]
    exact h.lookup b hb
  · cases hrecorded with
    | closed hv => exact absurd hid.symm (hclosed v hv)
    | current => exact absurd hid.symm hcurrent
    | closing revisionId => exact absurd hid.symm hcurrent

/-- What holds of the bursts after a cycle. -/
structure Carried (s' : IncrementalSegmenter) (p' : SegmentationCurrentState) (bursts' : List OperationBurst) : Prop where
  chain : Chain bursts'
  lookup : ∀ b ∈ bursts', p'.bursts b.operationBurstId = some b
  earlier : ∀ b ∈ bursts'.dropLast, b.lifecycle = .closed
  current : s'.closed = false → s'.folder.current = bursts'.getLast? ∧
    ∀ b, bursts'.getLast? = some b → b.lifecycle = .open_
  sealedLast : s'.closed = true → ∀ b, bursts'.getLast? = some b → b.lifecycle = .closed

theorem Inv.carried_extended (h : Inv s p e bursts) (hstep : Stepped s s' p p' e e' fresh pending stored)
    {current : OperationBurst} (hextended : s.folder.extended pending.step.token = some current)
    (hsuccessor : current.validateSuccessor (extendBurst current pending.step.token fresh.burstRevisionId) = .ok ())
    (hburst : pending.step.burst =
      ⟨extendBurst current pending.step.token fresh.burstRevisionId, none, false, false, false⟩)
    (hfolder : pending.nextFolder.current = some (extendBurst current pending.step.token fresh.burstRevisionId)) :
    ∃ bursts', Shape s.folder bursts pending.step.token pending.step.burst bursts' ∧ Carried s' p' bursts' := by
  obtain ⟨hcurrent, hextends⟩ := extended_some hextended
  have hlast : bursts.getLast? = some current := by rw [← (h.current hstep.isOpen).1, hcurrent]
  obtain ⟨init, hbursts⟩ := List.getLast?_eq_some_iff.mp hlast
  have hunconfirmed : pending.step.detector.boundaryStatus ≠ .confirmed := by
    intro hconfirmed
    rw [h.not_extended hstep.toObserved hconfirmed] at hextended
    cases hextended
  have hmatches := hstep.promoted.currentMatches
  rw [currentBurstMatches, if_neg (by simpa using hunconfirmed), beq_iff_eq] at hmatches
  have hshape := Shape.extended init current fresh.burstRevisionId hextended hbursts
  rw [← hburst] at hshape
  refine ⟨_, hshape, ?_, ?_, ?_, ?_, ?_⟩
  · refine (hbursts ▸ h.chain).replaceLast (OperationBurst.validateSuccessor_successor hsuccessor).validated.2 rfl ?_
    intro m hm
    rcases List.mem_append.mp hm with hm | hm
    · exact Or.inl hm
    · have hle := h.le_watermark (List.mem_of_mem_getLast? hlast)
      have hlater := hstep.detected.later
      rw [List.mem_singleton.mp hm]
      refine Or.inr ?_
      show current.sourceWatermark ≤ pending.step.token.sourceWatermark
      omega
  · intro b hb
    rcases List.mem_append.mp hb with hb | hb
    · refine h.lookup_kept hstep (hbursts ▸ List.mem_append_left _ hb) ?_ (by simp [hburst])
      have hdistinct := h.chain.distinct
      rw [hbursts, List.map_append, List.map_singleton, List.nodup_append] at hdistinct
      rw [hburst]
      exact hdistinct.2.2 _ (List.mem_map_of_mem hb) _ (List.mem_singleton_self _)
    · rw [List.mem_singleton.mp hb]
      have hstored := hstep.promoted.storedBurst
      rw [hmatches, hburst] at hstored
      exact hstored
  · rw [List.dropLast_concat]
    intro b hb
    refine h.earlier b ?_
    rw [hbursts, List.dropLast_concat]
    exact hb
  · intro _
    rw [hstep.promoted.result]
    refine ⟨by simpa using hfolder, fun b hb => ?_⟩
    rw [List.getLast?_concat, Option.some.injEq] at hb
    rw [← hb]
    exact hextends.isOpen
  · intro hclosed
    rw [hstep.promoted.result] at hclosed
    exact absurd (by simpa using hclosed) hunconfirmed

/-- The open burst, if there is one, gets its closing revision and stays in the store with it. -/
theorem Inv.sealed (h : Inv s p e bursts) (hstep : Stepped s s' p p' e e' fresh pending stored)
    (hnew : pending.step.burst.current = openBurst pending.step.token fresh)
    (hclosed : ∀ current, s.folder.current = some current → pending.step.burst.closed =
        some (closedBurst current fresh.closingRevisionId) ∧
      (closedBurst current fresh.closingRevisionId).validate = .ok ()) :
    ∃ sealedBursts, Sealed bursts sealedBursts ∧ ∀ b ∈ sealedBursts, p'.bursts b.operationBurstId = some b := by
  have hother : ∀ b ∈ bursts, b.operationBurstId ≠ pending.step.burst.current.operationBurstId := by
    intro b hb hid
    have hlookup := h.lookup b hb
    rw [hid, hnew] at hlookup
    rw [show (openBurst pending.step.token fresh).operationBurstId = fresh.burstId from rfl, hstep.unused] at hlookup
    cases hlookup
  have hlast := (h.current hstep.isOpen).1
  rcases List.eq_nil_or_concat bursts with rfl | ⟨init, current, hbursts⟩
  · exact ⟨[], .nil, fun b hb => by cases hb⟩
  · rw [List.concat_eq_append] at hbursts
    subst hbursts
    rw [List.getLast?_concat] at hlast
    obtain ⟨hsome, hvalid⟩ := hclosed current hlast
    refine ⟨_, .last init current fresh.closingRevisionId hvalid, fun b hb => ?_⟩
    rcases List.mem_append.mp hb with hb | hb
    · have hmem : b ∈ init ++ [current] := List.mem_append_left _ hb
      refine h.lookup_kept hstep hmem (hother b hmem) fun v hv => ?_
      obtain rfl : closedBurst current fresh.closingRevisionId = v := Option.some.inj (hsome.symm.trans hv)
      have hdistinct := h.chain.distinct
      rw [List.map_append, List.map_singleton, List.nodup_append] at hdistinct
      exact hdistinct.2.2 _ (List.mem_map_of_mem hb) _ (List.mem_singleton_self _)
    · rw [List.mem_singleton.mp hb]
      exact hstep.promoted.closedMatches _ hsome

theorem Stepped.stored_new (hstep : Stepped s s' p p' e e' fresh pending stored)
    (hnew : pending.step.burst.current = openBurst pending.step.token fresh)
    (hclosed : ∀ v, pending.step.burst.closed = some v → v.operationBurstId ≠ fresh.burstId) :
    pending.step.detector.boundaryStatus ≠ .confirmed ∧ stored = openBurst pending.step.token fresh ∨
      pending.step.detector.boundaryStatus = .confirmed ∧
        ∃ revisionId, stored = closedBurst (openBurst pending.step.token fresh) revisionId ∧
          stored.validate = .ok () := by
  have hmatches := hstep.promoted.currentMatches
  have hstored := hstep.promoted.storedBurst
  rw [hnew] at hstored
  by_cases hconfirmed : pending.step.detector.boundaryStatus = .confirmed
  · right
    rw [currentBurstMatches, if_pos (by simpa using hconfirmed), hnew, Bool.and_eq_true, beq_iff_eq] at hmatches
    refine ⟨hconfirmed, ?_⟩
    rcases hstep.recorded fresh.burstId with hsame | ⟨v, hrecorded, hid, hsome⟩
    · -- the id was free before the commit
      have : p'.bursts fresh.burstId = some stored := hstored
      rw [hsame, hstep.unused] at this
      cases this
    · obtain rfl : v = stored := Option.some.inj (hsome.symm.trans hstored)
      cases hrecorded with
      | closed hv => exact absurd hid (hclosed v hv)
      | current =>
        rw [hnew] at hmatches
        cases hmatches.1
      | closing revisionId hvalid =>
        rw [hnew] at hvalid ⊢
        exact ⟨revisionId, rfl, hvalid⟩
  · left
    rw [currentBurstMatches, if_neg (by simpa using hconfirmed), hnew, beq_iff_eq] at hmatches
    exact ⟨hconfirmed, hmatches⟩

theorem Inv.carried_started (h : Inv s p e bursts) (hstep : Stepped s s' p p' e e' fresh pending stored)
    (hextended : s.folder.extended pending.step.token = none)
    (hvalid : (openBurst pending.step.token fresh).validate = .ok ())
    (hnew : pending.step.burst.current = openBurst pending.step.token fresh)
    (hstarted : pending.step.burst.startedNew = true)
    (hclosed : ∀ current, s.folder.current = some current → pending.step.burst.closed =
        some (closedBurst current fresh.closingRevisionId) ∧
      (closedBurst current fresh.closingRevisionId).validate = .ok ())
    (hnone : s.folder.current = none → pending.step.burst.closed = none)
    (hfolder : pending.nextFolder.current = some (openBurst pending.step.token fresh)) :
    ∃ bursts', Shape s.folder bursts pending.step.token pending.step.burst bursts' ∧ Carried s' p' bursts' := by
  obtain ⟨sealedBursts, hsealed, hlookup⟩ := h.sealed hstep hnew hclosed
  have hfresh : fresh.burstId ∉ bursts.map (·.operationBurstId) := by
    intro hmem
    obtain ⟨b, hb, hid⟩ := List.mem_map.mp hmem
    have := h.lookup b hb
    rw [hid, hstep.unused] at this
    cases this
  have hold : ∀ v, pending.step.burst.closed = some v → v.operationBurstId ≠ fresh.burstId := by
    intro v hv hid
    cases hcurrent : s.folder.current with
    | none => rw [hnone hcurrent] at hv; cases hv
    | some current =>
      obtain rfl : closedBurst current fresh.closingRevisionId = v :=
        Option.some.inj ((hclosed current hcurrent).1.symm.trans hv)
      rw [(h.current hstep.isOpen).1] at hcurrent
      exact hfresh (List.mem_map.mpr ⟨current, List.mem_of_mem_getLast? hcurrent, hid⟩)
  have hstored := hstep.stored_new hnew hold
  have hstoredValid : stored.validate = .ok () := by
    rcases hstored with ⟨-, hstored⟩ | ⟨-, revisionId, -, hstoredValid⟩
    · rw [hstored]
      exact hvalid
    · exact hstoredValid
  have hid : stored.operationBurstId = fresh.burstId ∧ stored.members = [memberFromToken pending.step.token] := by
    rcases hstored with ⟨-, hstored⟩ | ⟨-, revisionId, hstored, -⟩
    · rw [hstored]
      exact ⟨rfl, rfl⟩
    · rw [hstored]
      exact ⟨rfl, rfl⟩
  have hlast : stored = openBurst pending.step.token fresh ∨
      ∃ revisionId, stored = closedBurst (openBurst pending.step.token fresh) revisionId := by
    rcases hstored with ⟨-, hstored⟩ | ⟨-, revisionId, hstored, -⟩
    · exact Or.inl hstored
    · exact Or.inr ⟨revisionId, hstored⟩
  refine ⟨_, .started sealedBursts _ fresh stored hextended hsealed hstarted hnew hlast, ?_, ?_, ?_, ?_, ?_⟩
  · refine (hsealed.chain h.chain).append hstoredValid (by rw [hid.1, hsealed.map_id]; exact hfresh) ?_
    intro a ha m hm
    obtain ⟨b, hb, hwatermark⟩ := hsealed.watermark_of_mem ha
    have hle := h.le_watermark hb
    have hlater := hstep.detected.later
    rw [hid.2] at hm
    rw [List.mem_singleton.mp hm]
    show a.sourceWatermark < pending.step.token.sourceWatermark
    omega
  · intro b hb
    rcases List.mem_append.mp hb with hb | hb
    · exact hlookup b hb
    · rw [List.mem_singleton.mp hb, hid.1]
      have := hstep.promoted.storedBurst
      rw [hnew] at this
      exact this
  · rw [List.dropLast_concat]
    exact hsealed.closed h.earlier
  · intro hopen
    rw [hstep.promoted.result] at hopen ⊢
    rcases hstored with ⟨-, hstored⟩ | ⟨hconfirmed, -⟩
    · rw [List.getLast?_concat, hstored]
      exact ⟨hfolder, fun b hb => by rw [← Option.some.inj hb]; rfl⟩
    · simp [hconfirmed] at hopen
  · intro hclosed'
    rw [hstep.promoted.result] at hclosed'
    rcases hstored with ⟨hunconfirmed, -⟩ | ⟨-, revisionId, hstored, -⟩
    · exact absurd (by simpa using hclosed') hunconfirmed
    · intro b hb
      rw [List.getLast?_concat, Option.some.injEq] at hb
      rw [← hb, hstored]
      rfl

theorem Inv.carried (h : Inv s p e bursts) (hstep : Stepped s s' p p' e e' fresh pending stored) :
    ∃ bursts', Shape s.folder bursts pending.step.token pending.step.burst bursts' ∧ Carried s' p' bursts' := by
  have hpushed := hstep.pushed
  have hdelta := hstep.delta
  generalize hburst : pending.step.burst = burst at hpushed hdelta
  generalize hfolder : pending.nextFolder = folder at hpushed
  rw [← hburst]
  cases hpushed with
  | replayed => cases hdelta
  | extended current _ hextended hsuccessor =>
    exact h.carried_extended hstep hextended hsuccessor hburst (by rw [hfolder])
  | first _ hcurrent hvalid =>
    refine h.carried_started hstep (by simp [extended, hcurrent]) hvalid (by rw [hburst]) (by rw [hburst]) ?_ ?_
      (by rw [hfolder])
    · intro current hsome
      rw [hcurrent] at hsome
      cases hsome
    · intro _
      rw [hburst]
  | next current _ hcurrent hextended hsuccessor hvalid =>
    refine h.carried_started hstep hextended hvalid (by rw [hburst]) (by rw [hburst]) ?_ ?_ (by rw [hfolder])
    · intro current' hsome
      obtain rfl : current = current' := Option.some.inj (hcurrent.symm.trans hsome)
      rw [hburst]
      exact ⟨rfl, (OperationBurst.validateSuccessor_successor hsuccessor).validated.2⟩
    · intro hnone
      rw [hcurrent] at hnone
      cases hnone

/-! ## The candidate after a cycle -/

theorem Inv.placed_next {bursts' : List OperationBurst} {candidate : Option Candidate} {status : BoundaryStatus}
    {confirmation : Nat} {evidence : List SourceObservationId} (h : Inv s p e bursts)
    (hstep : Observed s p e fresh pending)
    (hshape : Shape s.folder bursts pending.step.token pending.step.burst bursts')
    (hsettles : Settles s.detector pending.step.token pending.step.burst candidate status confirmation evidence)
    {c : Candidate} (hc : candidate = some c) :
    c.originalPhase = e.phaseContract.phaseKind ∧
      ∃ before b after, bursts' = before ++ b :: after ∧ Placed c b := by
  obtain ⟨before, b, hbursts', hlast, -, -, hfeature, -⟩ := hshape.last
  have hmember := List.mem_of_mem_getLast? hlast
  -- a candidate made by this token sits at the last burst
  have hhere : ∀ c : Candidate, c.feature = .fromBurst pending.step.burst.current →
      c.sourceWatermark = pending.step.token.sourceWatermark →
      (∀ id ∈ c.evidenceRefs, id ∈ pending.step.token.sourceObservationRefs) →
      ∃ before b after, bursts' = before ++ b :: after ∧ Placed c b := by
    intro c hcFeature hcWatermark hcEvidence
    exact ⟨before, b, [], hbursts', hcFeature.trans hfeature.symm, _, hmember, hcWatermark.symm, hcEvidence⟩
  cases hsettles with
  | idle | retracted | confirmed => cases hc
  | created hnone hstatus htrigger =>
    obtain rfl := Option.some.inj hc
    refine ⟨by rw [← h.contract]; rfl, hhere _ rfl rfl fun id hid => ?_⟩
    simp only [SegmentationDetector.created] at hid
    split at hid
    · next hsurprise =>
      simp only [structuredSurprise, Bool.and_eq_true] at hsurprise
      rw [hshape.started_members hsurprise.1.1.1, mem_sortUnique, List.flatMap_singleton] at hid
      exact hid
    · exact hstep.compiled.evidenceObserved id hid
  | upgraded held hheld =>
    obtain rfl := Option.some.inj hc
    exact ⟨h.original held hheld, hhere _ rfl rfl hstep.compiled.evidenceObserved⟩
  | kept held hheld =>
    obtain rfl := Option.some.inj hc
    obtain ⟨left, at_, right, hsplit, hplaced⟩ := h.placed held hheld
    obtain ⟨left', at', right', hsplit', -, hsame, hmembers, -⟩ := hshape.carry hsplit
    obtain ⟨hcFeature, m, hm, hw, hcEvidence⟩ := hplaced.grow hsame hmembers
    refine ⟨by simpa using h.original held hheld, left', at', right', hsplit', ?_⟩
    exact ⟨by simpa using hcFeature, m, hm, by simpa using hw, by simpa using hcEvidence⟩

/-! ## The invariant after a cycle -/

/-- Only the rolling features depend on whether the burst is recorded. -/
theorem next_eq (d : SegmentationDetector) (burst : BurstFoldUpdate) : ∃ rolling surpriseScores,
    (if burst.startedNew then d.recordFeature burst.current else d) = { d with rolling, surpriseScores } := by
  split
  · exact ⟨_, _, rfl⟩
  · exact ⟨_, _, rfl⟩

theorem Inv.window_next {bursts' : List OperationBurst} {d : SegmentationDetector} (h : Inv s p e bursts)
    (hshape : Shape s.folder bursts pending.step.token pending.step.burst bursts') (hfew : bursts'.length ≤ 64)
    (hrolling : d.rolling = s.detector.rolling) (hscores : d.surpriseScores = s.detector.surpriseScores) :
    Window (if pending.step.burst.startedNew then d.recordFeature pending.step.burst.current else d)
      (bursts'.map .fromBurst) := by
  have hwindow : Window d (bursts.map .fromBurst) :=
    ⟨by rw [hrolling]; exact h.window.shown, by rw [hscores]; exact h.window.scored⟩
  have hfeatures := hshape.map_feature
  split at hfeatures
  · next hnew =>
    have hlength := congrArg List.length hfeatures
    simp only [List.length_append, List.length_map, List.length_singleton] at hlength
    rw [hfeatures, if_pos hnew]
    exact recordFeature_window hwindow (by rw [List.length_map]; omega) _
  · next hold =>
    rw [hfeatures, if_neg hold]
    exact hwindow

/-- **One cycle keeps the invariant.** -/
theorem Inv.next (h : Inv s p e bursts) (hstep : Stepped s s' p p' e e' fresh pending stored) :
    ∃ bursts', Shape s.folder bursts pending.step.token pending.step.burst bursts' ∧ Inv s' p' e' bursts' := by
  obtain ⟨bursts', hshape, hcarried⟩ := h.carried hstep
  obtain ⟨candidate, status, confirmation, alignment, retracted, evidence, hsettles, hupdate, hnext⟩ := hstep.settles
  obtain ⟨receipts, exitSnapshot, hrevised⟩ := hstep.revised
  obtain ⟨stats, summary, -, -, hbuilt⟩ := hrevised.built
  obtain ⟨before, b, hbursts', hlast, hwatermark, hattempt, -, -⟩ := hshape.last
  have hresult := hstep.promoted.result
  have hdetector : s'.detector = pending.nextDetector := by rw [hresult]
  have hstatus : pending.step.detector.boundaryStatus = status := by rw [hupdate]; rfl
  have hrefs : ∀ id, id ∈ e'.operationBurstRefs ↔ id ∈ bursts'.map (·.operationBurstId) := by
    intro id
    rw [hshape.mem_map_id, ← h.refs, hbuilt]
    simp [successor]
  have hwindow : Window s'.detector (bursts'.map .fromBurst) := by
    rw [hdetector, hnext]
    exact h.window_next hshape (few_of_refs hrevised.checked.nextValid hcarried.chain.distinct fun b hb =>
      (hrefs _).mpr (List.mem_map_of_mem hb)) rfl rfl
  obtain ⟨rolling, scores, hframe⟩ := next_eq (s.detector.advance pending.step.token candidate status confirmation)
    pending.step.burst
  rw [hframe] at hnext
  rw [hnext] at hdetector
  have hreplayed : (replayed e' bursts').lastSequence = pending.step.token.sequence ∧
      (replayed e' bursts').sourceWatermark = pending.step.token.sourceWatermark ∧
      (replayed e' bursts').lastAttemptId = pending.step.token.attemptId := by
    simp only [replayed, hbursts', List.getLast?_concat, Option.bind_some, hlast, Option.elim_some, hwatermark, hattempt,
      and_true]
    rfl
  refine ⟨bursts', hshape, ?_⟩
  have hplaced : ∀ c, s'.detector.candidate = some c → c.originalPhase = e.phaseContract.phaseKind ∧
      ∃ before b after, bursts' = before ++ b :: after ∧ Placed c b := by
    intro c hc
    rw [hdetector] at hc
    exact h.placed_next hstep.toObserved hshape hsettles hc
  have hcase : (status = .confirmed ∧ candidate = none) ∨
      (status ≠ .confirmed ∧ confirmation = s.detector.confirmationWatermark) := by
    by_cases hconfirmed : status = .confirmed
    · exact Or.inl ⟨hconfirmed, (hsettles.of_confirmed (h.not_confirmed hstep.isOpen) hconfirmed).1⟩
    · exact Or.inr ⟨hconfirmed, hsettles.of_unconfirmed hconfirmed⟩
  exact {
    idle := by rw [hresult]
    episode := by
      have := hstep.promoted.stored
      rw [hresult]
      exact this
    revision := by rw [hresult]
    frontier := by rw [hresult]
    valid := hrevised.checked.nextValid
    closed := by
      rw [hresult, hbuilt]
      simp only [successor, hstep.openEpisode]
      cases pending.step.detector.boundaryStatus == .confirmed <;> rfl
    chain := hcarried.chain
    refs := hrefs
    lookup := hcarried.lookup
    earlier := hcarried.earlier
    current := hcarried.current
    sealedLast := hcarried.sealedLast
    seen := by
      rw [hshape.seenEntries_eq, List.foldlM_append, h.seen]
      have hseen := hstep.pushed.seen_eq hstep.delta
      rw [hresult]
      show [(pending.step.token.operationId, _)].foldlM recordSeen s.folder.seen = _
      rw [List.foldlM_cons, recordSeen_newer hseen.1, hseen.2]
      rfl
    window := hwindow
    task := by rw [hdetector, hbuilt]; exact h.task
    workstream := by rw [hdetector, hbuilt]; exact h.workstream
    episodeId := by rw [hdetector, hbuilt]; exact h.episodeId
    contract := by rw [hdetector, hbuilt]; exact h.contract
    lastSequence := by rw [hdetector, hreplayed.1]; rfl
    watermark := by rw [hdetector, hreplayed.2.1]; rfl
    lastAttempt := by rw [hdetector, hreplayed.2.2]; rfl
    synced := by
      intro _
      rw [hdetector, hbuilt]
      rfl
    status := by
      rw [hdetector, hbuilt]
      simp only [successor, hstatus, advance]
      by_cases hconfirmed : status = .confirmed
      · rw [if_pos (by simpa using hconfirmed), hconfirmed]
      · rw [if_neg (by simpa using hconfirmed)]
    confirmation := by
      have hnow : pending.step.detector.confirmationWatermark = confirmation := by rw [hupdate]; rfl
      rw [hdetector, hbuilt]
      simp only [successor, hstatus, hnow, advance]
      rcases hcase with ⟨hconfirmed, -⟩ | ⟨hconfirmed, hkept⟩
      · rw [if_pos (by simpa using hconfirmed)]
      · rw [if_neg (by simpa using hconfirmed), h.confirmation, hkept]
    candidate := by
      have hnow : pending.step.detector.candidateState = candidate.map Candidate.state := by
        rw [hupdate, candidateState_update]
        rfl
      rw [hdetector, hbuilt]
      simp only [successor, hstatus, hnow, advance]
      rcases hcase with ⟨hconfirmed, hnone⟩ | ⟨hconfirmed, -⟩
      · rw [if_pos (by simpa using hconfirmed), hnone]
        rfl
      · rw [if_neg (by simpa using hconfirmed)]
    original := by
      intro c hc
      rw [(hplaced c hc).1, hrevised.checked.sameContract]
    placed := fun c hc => (hplaced c hc).2 }

theorem Stepped.settled (hstep : Stepped s s' p p' e e' fresh pending stored) : ∃ status confirmation evidence,
    Settles s.detector pending.step.token pending.step.burst s'.detector.candidate status confirmation evidence := by
  obtain ⟨candidate, status, confirmation, alignment, retracted, evidence, hsettles, -, hnext⟩ := hstep.settles
  obtain ⟨rolling, scores, hframe⟩ := next_eq (s.detector.advance pending.step.token candidate status confirmation)
    pending.step.burst
  have hcandidate : s'.detector.candidate = candidate := by
    rw [hstep.promoted.result]
    show pending.nextDetector.candidate = candidate
    rw [hnext, hframe]
    rfl
  rw [hcandidate]
  exact ⟨status, confirmation, evidence, hsettles⟩

end Cycle

/-- **One cycle: how the bursts and the candidate change, and that the invariant is kept.** -/
theorem cycle_ok {s s' : IncrementalSegmenter} {p p' : Projection} {e : WorkEpisode} {bursts : List OperationBurst}
    {token : ActivityToken} (h : Inv s p.current e bursts) (hcycle : Cycle s s' p p' token) :
    ∃ e' bursts' burst status confirmation evidence, s.closed = false ∧ Shape s.folder bursts token burst bursts' ∧
      Settles s.detector token burst s'.detector.candidate status confirmation evidence ∧
      Inv s' p'.current e' bursts' := by
  obtain ⟨e', fresh, pending, stored, rfl, hstep⟩ := h.stepped hcycle
  obtain ⟨bursts', hshape, hinv⟩ := h.next hstep
  obtain ⟨status, confirmation, evidence, hsettles⟩ := hstep.settled
  exact ⟨e', bursts', _, status, confirmation, evidence, hstep.isOpen, hshape, hsettles, hinv⟩

/-! ## Whole runs -/

theorem new_ok {p : SegmentationCurrentState} {episodeId : WorkEpisodeId} {s : IncrementalSegmenter}
    (h : IncrementalSegmenter.new p episodeId = .ok s) :
    ∃ e, Inv s p e [] ∧ s.detector.candidate = none ∧ s.episodeId = episodeId := by
  unfold IncrementalSegmenter.new at h
  obtain ⟨e, hepisode, h⟩ := bind_eq_ok.mp h
  obtain ⟨hopen, h⟩ := ite_error_else.mp h
  obtain ⟨detector, hdetector, h⟩ := bind_eq_ok.mp h
  cases h
  unfold SegmentationDetector.new at hdetector
  obtain ⟨_, hvalid, hdetector⟩ := bind_eq_ok.mp hdetector
  obtain ⟨hfirst, hdetector⟩ := ite_error_else.mp hdetector
  cases hdetector
  have hvalid := WorkEpisode.validate_iff.mp (orIneligible_ok.mp hvalid)
  simp only [Bool.or_eq_true, bne_iff_ne, ne_eq, Bool.not_eq_true', not_or, not_not, Bool.not_eq_false,
    List.isEmpty_iff] at hopen
  simp only [Bool.or_eq_true, Bool.not_eq_true', not_or, Bool.not_eq_true, Option.isSome_eq_false_iff,
    Option.isNone_iff_eq_none, bne_eq_false_iff_eq] at hfirst
  obtain ⟨⟨-, hcandidate⟩, hstatus⟩ := hfirst
  have hconfirmation : e.confirmationWatermark = 0 := by
    by_contra hne
    rw [hvalid.confirmed.mpr hne] at hstatus
    cases hstatus
  refine ⟨e, ?_, rfl, rfl⟩
  exact {
    idle := rfl
    episode := okOr_ok.mp hepisode
    revision := rfl
    frontier := le_rfl
    valid := hvalid
    closed := by rw [hopen.1]; rfl
    chain := ⟨by simp, List.nodup_nil, .nil⟩
    refs := by rw [hopen.2]; simp
    lookup := by simp
    earlier := by simp
    current := fun _ => ⟨rfl, by simp⟩
    sealedLast := fun _ => by simp
    seen := rfl
    window := ⟨rfl, rfl⟩
    task := rfl
    workstream := rfl
    episodeId := rfl
    contract := rfl
    lastSequence := rfl
    watermark := rfl
    lastAttempt := rfl
    synced := fun hne => absurd rfl hne
    status := hstatus
    confirmation := hconfirmation
    candidate := hcandidate
    original := fun c hc => by cases hc
    placed := fun c hc => by cases hc }

/-- What other commands do leaves the invariant alone. -/
theorem Inv.others {s : IncrementalSegmenter} {p p' : Projection} {e : WorkEpisode} {bursts : List OperationBurst}
    (h : Inv s p.current e bursts) (hothers : Unchanged s.episodeId p p') : Inv s p'.current e bursts :=
  { h with
    episode := by rw [hothers.episode, h.episode]
    frontier := h.frontier.trans hothers.frontier
    lookup := by
      intro b hb
      rw [hothers.bursts e h.episode _ ((h.refs _).mpr (List.mem_map_of_mem hb))]
      exact h.lookup b hb }

/-- A property of the segmenter and its bursts that holds at the start and is kept by every step. -/
structure StepInvariant (good : IncrementalSegmenter → ActivityToken → Prop)
    (holds : IncrementalSegmenter → List OperationBurst → Nat → Prop) : Prop where
  start : ∀ s : IncrementalSegmenter, s.detector.candidate = none → holds s [] 0
  step : ∀ (s s' : IncrementalSegmenter) (p p' : SegmentationCurrentState) (e e' : WorkEpisode)
    (bursts bursts' : List OperationBurst) (token : ActivityToken) (burst : BurstFoldUpdate) (status : BoundaryStatus)
    (confirmation : Nat) (evidence : List SourceObservationId) (n : Nat),
    Inv s p e bursts → holds s bursts n → good s token → s.closed = false → Shape s.folder bursts token burst bursts' →
    Settles s.detector token burst s'.detector.candidate status confirmation evidence → Inv s' p' e' bursts' →
    holds s' bursts' (n + 1)

/-- **The invariant holds in every state of every run, and with it whatever every step keeps.** -/
theorem run_inv {episodeId : WorkEpisodeId} {good : IncrementalSegmenter → ActivityToken → Prop}
    {holds : IncrementalSegmenter → List OperationBurst → Nat → Prop} (hkept : StepInvariant good holds)
    {s : IncrementalSegmenter} {p : Projection} {n : Nat} (hrun : Run episodeId good s p n) :
    s.episodeId = episodeId ∧ ∃ e bursts, Inv s p.current e bursts ∧ holds s bursts n := by
  induction hrun with
  | start h =>
    obtain ⟨e, hinv, hnone, hid⟩ := new_ok h
    exact ⟨hid, e, [], hinv, hkept.start _ hnone⟩
  | others _ h ih =>
    obtain ⟨hid, e, bursts, hinv, hholds⟩ := ih
    exact ⟨hid, e, bursts, hinv.others (hid ▸ h), hholds⟩
  | cycle _ hgood h ih =>
    obtain ⟨hid, e, bursts, hinv, hholds⟩ := ih
    obtain ⟨e', bursts', burst, status, confirmation, evidence, hopen, hshape, hsettles, hinv'⟩ := cycle_ok hinv h
    refine ⟨?_, e', bursts', hinv', hkept.step _ _ _ _ _ _ _ _ _ _ _ _ _ _ hinv hholds hgood hopen hshape hsettles
      hinv'⟩
    obtain ⟨e'', fresh, pending, stored, -, hstep⟩ := hinv.stepped h
    rw [hstep.promoted.result]
    exact hid

end EverTrace.L2.Segmentation
