import EverTrace.L2Machine.SegmentPerform
import EverTrace.L2Machine.SegmentRestore
/-!
# A boundary candidate that its own burst outgrows

A candidate is stored with the watermark of the token that created it
(evertrace-engine/src/segmentation/detector.rs:360-384). `restore` looks that
watermark up among the stored bursts (detector.rs:219-253), and a burst carries
the watermark of its last member. When a later token extends the candidate's
burst and leaves the candidate in place, no burst carries its watermark any
more, and `restore` refuses the committed state with `Ineligible`.

Counterexample: a token that names another phase starts a burst and a candidate;
the next token, of the same kind and phase, extends that burst. Both steps are
committed and acknowledged, and the state cannot be restored.

In a run without such a step every state can be restored (`restore_succeeds`):
the candidate's burst keeps carrying the candidate's watermark (`Anchored`). The
first such step makes the state unrestorable.
-/
namespace EverTrace.Bugs.CandidateExtension
open EverTrace.Lib EverTrace.L1 EverTrace.L2.Work EverTrace.L2.Segmentation
open SegmentationDetector OperationBurstFolder

/-- The token extends the burst whose watermark the candidate is stored with, and does not name the original
phase, so that the candidate stays. -/
def outgrowsCandidate (s : IncrementalSegmenter) (token : ActivityToken) : Bool :=
  match s.folder.extended token, s.detector.candidate with
  | some current, some candidate => candidate.sourceWatermark == current.sourceWatermark
      && token.observedPhaseKind != some candidate.originalPhase
  | _, _ => false

theorem outgrowsCandidate_iff {s : IncrementalSegmenter} {token : ActivityToken} :
    outgrowsCandidate s token = true ↔ ∃ current candidate, s.folder.extended token = some current ∧
      s.detector.candidate = some candidate ∧ candidate.sourceWatermark = current.sourceWatermark ∧
      token.observedPhaseKind ≠ some candidate.originalPhase := by
  unfold outgrowsCandidate
  cases s.folder.extended token <;> cases s.detector.candidate <;> simp

/-! ## The defect -/

/-- The sample episode is in its implementation phase; the two operations are verifications. -/
def outgrowingRun : List Observation :=
  [sampleInput 2 "family" (some .verify) .none [sampleReceipt 1 1],
    sampleInput 3 "family" (some .verify) .none [sampleReceipt 1 1]]

/-- **Counterexample**: after the two committed steps `restore` fails. -/
theorem extended_candidate_unrestorable : ¬ ∀ (episodeId : WorkEpisodeId) (s : IncrementalSegmenter) (p : Projection)
    (n : Nat), Run episodeId (fun _ _ => True) s p n → ∃ r, IncrementalSegmenter.restore p.current episodeId = .ok r := by
  intro h
  have hfails : ((sampleRun (fun _ _ => true) [] 1 outgrowingRun).map fun result =>
      (IncrementalSegmenter.restore result.2.current (sampleId 1)).isOk) = some false := by decide +kernel
  obtain ⟨⟨s, p⟩, hrun, herror⟩ := Option.map_eq_some_iff.mp hfails
  obtain ⟨r, hr⟩ := h _ s p _ (sampleRun_run (fun _ _ _ => trivial) hrun)
  rw [hr] at herror
  cases herror

/-! ## Exactly when a state can be restored -/

/-- Some burst carries the candidate's watermark. -/
def Anchored (s : IncrementalSegmenter) (bursts : List OperationBurst) : Prop :=
  ∀ c, s.detector.candidate = some c → ∃ b ∈ bursts, b.sourceWatermark = c.sourceWatermark

theorem restore_iff_anchored {s : IncrementalSegmenter} {p : SegmentationCurrentState} {e : WorkEpisode}
    {bursts : List OperationBurst} (h : Inv s p e bursts) :
    (∃ r, IncrementalSegmenter.restore p s.episodeId = .ok r) ↔ Anchored s bursts := by
  simp only [h.restore_iff]
  unfold Anchored Relocated
  cases s.detector.candidate with
  | none =>
    refine ⟨fun _ c hc => ?_, fun _ => ⟨_, none, rfl, rfl⟩⟩
    cases hc
  | some c =>
    refine ⟨fun ⟨r, candidate, ⟨before, b, after, hsplit, hw, _⟩, _⟩ c' hc' => ?_, fun hanchored => ?_⟩
    · obtain rfl := Option.some.inj hc'
      exact ⟨b, hsplit ▸ List.mem_append_right _ List.mem_cons_self, hw⟩
    · obtain ⟨b, hb, hw⟩ := hanchored c rfl
      obtain ⟨before, after, hsplit⟩ := List.append_of_mem hb
      exact ⟨_, _, ⟨before, b, after, hsplit, hw, rfl⟩, rfl⟩

section Step

variable {s s' : IncrementalSegmenter} {p : SegmentationCurrentState} {e : WorkEpisode}
  {bursts bursts' : List OperationBurst} {token : ActivityToken} {burst : BurstFoldUpdate} {status : BoundaryStatus}
  {confirmation : Nat} {evidence : List SourceObservationId}

theorem Anchored.step (h : Anchored s bursts) (hgood : outgrowsCandidate s token = false)
    (hshape : Shape s.folder bursts token burst bursts')
    (hsettles : Settles s.detector token burst s'.detector.candidate status confirmation evidence) :
    Anchored s' bursts' := by
  intro c hc
  rw [hc] at hsettles
  -- a candidate made by this token has the watermark of the last burst
  obtain ⟨before, last, hbursts', -, hlast, -, -, -⟩ := hshape.last
  have hmem : last ∈ bursts' := by
    rw [hbursts']
    exact List.mem_append_right _ List.mem_cons_self
  generalize hcandidate : some c = candidate at hsettles
  cases hsettles with
  | idle | retracted | confirmed => cases hcandidate
  | created =>
    obtain rfl := Option.some.inj hcandidate
    exact ⟨last, hmem, hlast⟩
  | upgraded held =>
    obtain rfl := Option.some.inj hcandidate
    exact ⟨last, hmem, hlast⟩
  | kept held hheld hupholds =>
    obtain rfl := Option.some.inj hcandidate
    obtain ⟨b, hb, hw⟩ := h held hheld
    obtain ⟨left, right, hsplit⟩ := List.append_of_mem hb
    obtain ⟨left', b', right', hsplit', -, -, -, hcarried⟩ := hshape.carry hsplit
    rcases hcarried with hsame | hextended
    · refine ⟨b', ?_, by rw [observed_sourceWatermark, hsame, hw]⟩
      rw [hsplit']
      exact List.mem_append_right _ List.mem_cons_self
    · -- the candidate's own burst is extended: that step retracts the candidate
      have := outgrowsCandidate_iff.mpr ⟨b, held, hextended, hheld, hw.symm, hupholds.1⟩
      rw [hgood] at this
      cases this

theorem not_anchored_of_outgrown (h : Inv s p e bursts) (hopen : s.closed = false)
    (hbad : outgrowsCandidate s token = true) (hlater : s.detector.sourceWatermark < token.sourceWatermark)
    (hshape : Shape s.folder bursts token burst bursts')
    (hsettles : Settles s.detector token burst s'.detector.candidate status confirmation evidence) :
    ¬ Anchored s' bursts' := by
  obtain ⟨current, held, hextended, hheld, hwatermark, hphase⟩ := outgrowsCandidate_iff.mp hbad
  obtain ⟨hcurrent, hextends⟩ := extended_some hextended
  rw [(h.current hopen).1] at hcurrent
  cases hshape with
  | started _ _ _ _ hnone => rw [hextended] at hnone; cases hnone
  | extended init current' revisionId hextended' hbursts =>
    obtain rfl : current = current' := Option.some.inj (hextended.symm.trans hextended')
    -- the extended burst looks like the candidate itself, so nothing returns to its left
    have hfeature : held.feature = .fromBurst current := by
      obtain ⟨before, b, after, hsplit, hplaced, m, hm, hmember, -⟩ := h.placed held hheld
      have hb := (h.chain.burst_of_watermark hsplit hbursts hm (hwatermark.symm.trans hmember.symm)).2.1
      rw [hplaced, hb]
    have hstays : returnedLeft held (.fromBurst (extendBurst current token revisionId)) = false := by
      have hdistance : held.feature.distance (.fromBurst (extendBurst current token revisionId)) = 0 := by
        rw [hfeature]
        exact BurstFeature.distance_self _
      unfold returnedLeft
      cases held.leftFeature <;> simp [hdistance]
    intro hanchored
    have hkept : s'.detector.candidate = some (observed held) := by
      generalize s'.detector.candidate = candidate at hsettles
      cases hsettles with
      | idle hnone | created hnone => rw [hheld] at hnone; cases hnone
      | retracted held' hheld' hreturns =>
        obtain rfl : held = held' := Option.some.inj (hheld.symm.trans hheld')
        exact absurd ⟨hphase, hstays⟩ hreturns
      | upgraded _ _ _ _ hevidence | confirmed _ _ _ _ hevidence => exact absurd hextends.noEvidence hevidence
      | kept held' hheld' => rw [Option.some.inj (hheld.symm.trans hheld')]
    obtain ⟨b, hb, hw⟩ := hanchored _ hkept
    rw [observed_sourceWatermark, hwatermark] at hw
    have hle := h.le_watermark (List.mem_of_mem_getLast? hcurrent)
    have hordered := h.chain.ordered
    rw [hbursts] at hordered
    rcases List.mem_append.mp hb with hb | hb
    · have := (List.pairwise_append.mp hordered).2.2 b hb current List.mem_cons_self
      omega
    · rw [List.mem_singleton.mp hb] at hw
      have : token.sourceWatermark = current.sourceWatermark := hw
      omega

end Step

theorem anchored_stepInvariant : StepInvariant (fun s token => outgrowsCandidate s token = false)
    (fun s bursts _ => Anchored s bursts) where
  start := by
    intro s hnone c hc
    rw [hnone] at hc
    cases hc
  step := by
    intro s s' p p' e e' bursts bursts' token burst status confirmation evidence n _ hanchored hgood _ hshape hsettles _
    exact hanchored.step hgood hshape hsettles

/-- **Restorability.** In every run whose steps never outgrow the candidate, every state reached can be restored;
and a step that outgrows it leads to a state that cannot. -/
theorem restore_succeeds {episodeId : WorkEpisodeId} {s : IncrementalSegmenter} {p : Projection} {n : Nat}
    (hrun : Run episodeId (fun s token => outgrowsCandidate s token = false) s p n) :
    (∃ r, IncrementalSegmenter.restore p.current episodeId = .ok r) ∧
      ∀ s' p' token, outgrowsCandidate s token = true → Cycle s s' p p' token →
        ¬ ∃ r, IncrementalSegmenter.restore p'.current episodeId = .ok r := by
  obtain ⟨rfl, e, bursts, hinv, hanchored⟩ := run_inv anchored_stepInvariant hrun
  refine ⟨(restore_iff_anchored hinv).mpr hanchored, fun s' p' token hbad hcycle => ?_⟩
  obtain ⟨e', fresh, pending, stored, rfl, hstep⟩ := hinv.stepped hcycle
  obtain ⟨bursts', hshape, hinv'⟩ := hinv.next hstep
  obtain ⟨status, confirmation, evidence, hsettles⟩ := hstep.settled
  have hid : s'.episodeId = s.episodeId := by rw [hstep.promoted.result]
  rw [← hid, restore_iff_anchored hinv']
  exact not_anchored_of_outgrown hinv hstep.isOpen hbad hstep.detected.later hshape hsettles

/-- Two verifications on different targets: the second starts a burst of its own. -/
def anchoredRun : List Observation :=
  [sampleInput 2 "family" (some .verify) .none [sampleReceipt 1 1],
    sampleInput 3 "other family" (some .verify) .none [sampleReceipt 1 1]]

/-- The candidate of the first step survives the second, and the state is restored. -/
theorem restore_succeeds_sample : ∃ s p, Run (sampleId 1) (fun s token => outgrowsCandidate s token = false) s p 2 ∧
    s.detector.candidate.isSome = true ∧ ∃ r, IncrementalSegmenter.restore p.current (sampleId 1) = .ok r := by
  have hruns : ((sampleRun (fun s token => !outgrowsCandidate s token) [] 1 anchoredRun).map fun result =>
      result.1.detector.candidate.isSome) = some true := by decide +kernel
  obtain ⟨⟨s, p⟩, hresult, hsome⟩ := Option.map_eq_some_iff.mp hruns
  have hrun : Run (sampleId 1) (fun s token => outgrowsCandidate s token = false) s p 2 :=
    sampleRun_run (fun _ _ h => by simpa using h) hresult
  exact ⟨s, p, hrun, hsome, (restore_succeeds hrun).1⟩

end EverTrace.Bugs.CandidateExtension
