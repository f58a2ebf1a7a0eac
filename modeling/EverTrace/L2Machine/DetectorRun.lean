import EverTrace.L2Machine.SegmentPerform
/-!
# A boundary takes two observations

Runs of the detector from `new`: each accepted `push` extends the past. A token
of another workstream is accepted too (`WorkstreamSwitch`) and changes nothing,
whatever its phase and watermark.

`Inv` ties the held candidate to the past: an accepted token set it, or made it
objective, and no token of the workstream since then observed the episode's own
phase. A confirmation ends such a candidate.

Result: `confirmation_needs_two`.
-/
namespace EverTrace.L2.Segmentation.SegmentationDetector
open EverTrace.Lib EverTrace.L1 EverTrace.L2.Work

/-- The accepted calls of a run, oldest first. -/
abbrev Past := List (ActivityToken × BurstFoldUpdate)

/-- The detector after the accepted calls `past`. -/
inductive Run (episode : WorkEpisode) : Past → SegmentationDetector → Prop
  | start {d : SegmentationDetector} (hnew : new episode = .ok d) : Run episode [] d
  | push {past : Past} {d d' : SegmentationDetector} {token : ActivityToken} {burst : BurstFoldUpdate}
      {u : DetectorUpdate} (hrun : Run episode past d) (hpush : d.push token burst = .ok (u, d')) :
    Run episode (past ++ [(token, burst)]) d'

/-- The token set the candidate of `d'`, or made it an objective one. -/
def Sets (d : SegmentationDetector) (token : ActivityToken) (d' : SegmentationDetector) : Prop :=
  ∃ c, d'.candidate = some c ∧ c.sourceWatermark = token.sourceWatermark ∧
    c.proposedPhase = token.observedPhaseKind ∧
    (d.candidate = none ∨ ∃ old, d.candidate = some old ∧ old.kind = .structuredSurprise ∧ c.kind = .objective)

/-- The token belongs to the episode's workstream and observed the episode's own phase. -/
def OwnPhase (episode : WorkEpisode) (token : ActivityToken) : Prop :=
  token.workstreamId = episode.workstreamId ∧ token.observedPhaseKind = some episode.phaseContract.phaseKind

/-- An accepted token `first` set a candidate with this watermark and phase. -/
def SetBy (episode : WorkEpisode) (past : Past) (first : ActivityToken) (watermark : Nat)
    (phase : Option PhaseKind) : Prop :=
  ∃ before burst after d d' u, past = before ++ (first, burst) :: after ∧ Run episode before d ∧
    d.push first burst = .ok (u, d') ∧ Sets d first d' ∧
    first.sourceWatermark = watermark ∧ first.observedPhaseKind = phase

structure Inv (episode : WorkEpisode) (past : Past) (d : SegmentationDetector) : Prop where
  sameStream : d.workstreamId = episode.workstreamId
  samePhase : d.phaseContract = episode.phaseContract
  before : ∀ p ∈ past, p.1.workstreamId = episode.workstreamId → p.1.sourceWatermark ≤ d.sourceWatermark
  status : d.boundaryStatus = .candidate ↔ d.candidate.isSome = true
  confirmation : d.confirmationWatermark ≠ 0 ↔ d.boundaryStatus = .confirmed
  original : ∀ c, d.candidate = some c → c.originalPhase = episode.phaseContract.phaseKind
  held : ∀ c, d.candidate = some c →
    (∃ first, SetBy episode past first c.sourceWatermark c.proposedPhase) ∧
    c.sourceWatermark ≤ d.sourceWatermark ∧
    ∀ p ∈ past, c.sourceWatermark < p.1.sourceWatermark → ¬ OwnPhase episode p.1

/-! ## One call -/

/-- Recording a burst touches only the rolling features. -/
theorem recordFeature_advance (d : SegmentationDetector) (burst : OperationBurst) :
    (d.recordFeature burst).candidate = d.candidate ∧
      (d.recordFeature burst).boundaryStatus = d.boundaryStatus ∧
      (d.recordFeature burst).confirmationWatermark = d.confirmationWatermark ∧
      (d.recordFeature burst).sourceWatermark = d.sourceWatermark ∧
      (d.recordFeature burst).workstreamId = d.workstreamId ∧
      (d.recordFeature burst).phaseContract = d.phaseContract := ⟨rfl, rfl, rfl, rfl, rfl, rfl⟩

/-- What an accepted token of the workstream leaves, as far as the candidate goes. -/
structure Taken (d : SegmentationDetector) (token : ActivityToken) (burst : BurstFoldUpdate)
    (d' : SegmentationDetector) : Prop where
  later : d.sourceWatermark < token.sourceWatermark
  settles : ∃ evidence, Settles d token burst d'.candidate d'.boundaryStatus d'.confirmationWatermark evidence
  watermark : d'.sourceWatermark = token.sourceWatermark
  stream : d'.workstreamId = d.workstreamId
  phase : d'.phaseContract = d.phaseContract

/-- An accepted call: a token of the workstream, or a switch that changes nothing. -/
theorem push_cases {d d' : SegmentationDetector} {token : ActivityToken} {burst : BurstFoldUpdate}
    {u : DetectorUpdate} (h : d.push token burst = .ok (u, d')) :
    (token.workstreamId ≠ d.workstreamId ∧ d' = d) ∨
      (token.workstreamId = d.workstreamId ∧ Taken d token burst d') := by
  by_cases hstream : token.workstreamId = d.workstreamId
  · refine .inr ⟨hstream, ?_⟩
    obtain ⟨-, hlater, candidate, status, confirmation, _, _, evidence, hsettles, -, hd'⟩ := push_ok hstream h
    have hfields := recordFeature_advance (d.advance token candidate status confirmation) burst.current
    rw [hd']
    split
    · obtain ⟨h₁, h₂, h₃, h₄, h₅, h₆⟩ := hfields
      exact ⟨hlater, ⟨evidence, by rw [h₁, h₂, h₃]; exact hsettles⟩, h₄, h₅, h₆⟩
    · exact ⟨hlater, ⟨evidence, hsettles⟩, rfl, rfl, rfl⟩
  · refine .inl ⟨hstream, ?_⟩
    unfold push at h
    obtain ⟨-, h⟩ := ite_error_else.mp h
    rw [if_pos (by simpa using hstream)] at h
    exact (Prod.mk.inj (Except.ok.inj h)).2.symm

theorem created_originalPhase (d : SegmentationDetector) (token : ActivityToken) (burst : BurstFoldUpdate) :
    (d.created token burst).originalPhase = d.phaseContract.phaseKind := rfl

/-! ## Runs -/

theorem new_eq {episode : WorkEpisode} {d : SegmentationDetector} (h : new episode = .ok d) : d = empty episode := by
  unfold new at h
  obtain ⟨_, -, h⟩ := bind_eq_ok.mp h
  obtain ⟨-, h⟩ := ite_error_else.mp h
  exact (Except.ok.inj h).symm

theorem inv_new (episode : WorkEpisode) : Inv episode [] (empty episode) where
  sameStream := rfl
  samePhase := rfl
  before := fun p hp => by cases hp
  status := by simp [empty]
  confirmation := by simp [empty]
  original := fun c hc => by cases hc
  held := fun c hc => by cases hc

theorem SetBy.append {episode : WorkEpisode} {past : Past} {first : ActivityToken} {watermark : Nat}
    {phase : Option PhaseKind} (h : SetBy episode past first watermark phase) (p : ActivityToken × BurstFoldUpdate) :
    SetBy episode (past ++ [p]) first watermark phase := by
  obtain ⟨before, burst, after, d, d', u, rfl, h⟩ := h
  exact ⟨before, burst, after ++ [p], d, d', u, by simp, h⟩

theorem Inv.switch {episode : WorkEpisode} {past : Past} {d : SegmentationDetector} (h : Inv episode past d)
    {token : ActivityToken} {burst : BurstFoldUpdate} (hstream : token.workstreamId ≠ episode.workstreamId) :
    Inv episode (past ++ [(token, burst)]) d := by
  refine ⟨h.sameStream, h.samePhase, fun p hp hown => ?_, h.status, h.confirmation, h.original, fun c hc => ?_⟩
  · rcases List.mem_append.mp hp with hp | hp
    · exact h.before p hp hown
    · rw [List.mem_singleton.mp hp] at hown
      exact absurd hown hstream
  · obtain ⟨⟨first, hset⟩, hle, hquiet⟩ := h.held c hc
    refine ⟨⟨first, hset.append _⟩, hle, fun p hp hlt hown => ?_⟩
    rcases List.mem_append.mp hp with hp | hp
    · exact hquiet p hp hlt hown
    · rw [List.mem_singleton.mp hp] at hown
      exact hstream hown.1

theorem Inv.before_append {episode : WorkEpisode} {past : Past} {d d' : SegmentationDetector}
    (h : Inv episode past d) {token : ActivityToken} {burst : BurstFoldUpdate} (htaken : Taken d token burst d') :
    ∀ p ∈ past ++ [(token, burst)], p.1.workstreamId = episode.workstreamId →
      p.1.sourceWatermark ≤ d'.sourceWatermark := by
  intro p hp hown
  have hlater := htaken.later
  rw [htaken.watermark]
  rcases List.mem_append.mp hp with hp | hp
  · have := h.before p hp hown
    omega
  · rw [List.mem_singleton.mp hp]

/-- A token of the workstream keeps the invariant: the cases of `Settles`. -/
theorem Inv.take {episode : WorkEpisode} {past : Past} {d d' : SegmentationDetector} (hrun : Run episode past d)
    (h : Inv episode past d) {token : ActivityToken} {burst : BurstFoldUpdate} {u : DetectorUpdate}
    (hpush : d.push token burst = .ok (u, d')) (htaken : Taken d token burst d') :
    Inv episode (past ++ [(token, burst)]) d' := by
  have hbefore := h.before_append htaken
  have hstream := htaken.stream.trans h.sameStream
  have hphase := htaken.phase.trans h.samePhase
  have hpositive : token.sourceWatermark ≠ 0 := by
    have := htaken.later
    omega
  -- a candidate whose watermark is the token's: nothing comes after it yet
  have hfresh : ∀ c, d'.candidate = some c → c.sourceWatermark = token.sourceWatermark →
      c.proposedPhase = token.observedPhaseKind → Sets d token d' →
      (∃ first, SetBy episode (past ++ [(token, burst)]) first c.sourceWatermark c.proposedPhase) ∧
        c.sourceWatermark ≤ d'.sourceWatermark ∧
        ∀ p ∈ past ++ [(token, burst)], c.sourceWatermark < p.1.sourceWatermark → ¬ OwnPhase episode p.1 := by
    intro c hc hwatermark hproposed hsets
    refine ⟨⟨token, past, burst, [], d, d', u, rfl, hrun, hpush, hsets, hwatermark.symm, hproposed.symm⟩, ?_, ?_⟩
    · rw [hwatermark, htaken.watermark]
    · intro p hp hlt hown
      have := hbefore p hp hown.1
      rw [htaken.watermark] at this
      omega
  obtain ⟨evidence, hsettles⟩ := htaken.settles
  generalize hcandidate : d'.candidate = candidate at *
  generalize hstatus : d'.boundaryStatus = status at *
  generalize hconfirmation : d'.confirmationWatermark = confirmation at *
  cases hsettles with
  | idle hnone =>
    refine ⟨hstream, hphase, hbefore, ?_, ?_, ?_, ?_⟩
    · rw [hcandidate, hstatus, h.status, hnone]
    · rw [hconfirmation, hstatus, h.confirmation]
    · intro c hc
      rw [hcandidate] at hc
      cases hc
    · intro c hc
      rw [hcandidate] at hc
      cases hc
  | created hnone hunconfirmed =>
    refine ⟨hstream, hphase, hbefore, ?_, ?_, ?_, ?_⟩
    · rw [hcandidate, hstatus]
      simp
    · rw [hconfirmation, hstatus, h.confirmation]
      simp [hunconfirmed]
    · intro c hc
      rw [hcandidate] at hc
      cases hc
      rw [created_originalPhase, h.samePhase]
    · intro c hc
      have hc' := hcandidate.symm.trans hc
      cases hc'
      exact hfresh _ rfl rfl rfl ⟨_, hcandidate, rfl, rfl, .inl hnone⟩
  | retracted held hheld =>
    have hopen : d.boundaryStatus = .candidate := h.status.mpr (by rw [hheld]; rfl)
    refine ⟨hstream, hphase, hbefore, ?_, ?_, ?_, ?_⟩
    · rw [hcandidate, hstatus]
      simp
    · rw [hconfirmation, hstatus, h.confirmation, hopen]
      simp
    · intro c hc
      rw [hcandidate] at hc
      cases hc
    · intro c hc
      rw [hcandidate] at hc
      cases hc
  | upgraded held hheld hupholds hkind =>
    refine ⟨hstream, hphase, hbefore, ?_, ?_, ?_, ?_⟩
    · rw [hcandidate, hstatus, h.status, hheld]
      rfl
    · rw [hconfirmation, hstatus, h.confirmation]
    · intro c hc
      rw [hcandidate] at hc
      cases hc
      exact h.original held hheld
    · intro c hc
      have hc' := hcandidate.symm.trans hc
      cases hc'
      exact hfresh _ rfl rfl rfl ⟨_, hcandidate, rfl, rfl, .inr ⟨held, hheld, hkind, rfl⟩⟩
  | confirmed held hheld =>
    refine ⟨hstream, hphase, hbefore, ?_, ?_, ?_, ?_⟩
    · rw [hcandidate, hstatus]
      simp
    · rw [hconfirmation, hstatus]
      simpa using hpositive
    · intro c hc
      rw [hcandidate] at hc
      cases hc
    · intro c hc
      rw [hcandidate] at hc
      cases hc
  | kept held hheld hupholds =>
    obtain ⟨⟨first, hset⟩, hle, hquiet⟩ := h.held held hheld
    refine ⟨hstream, hphase, hbefore, ?_, ?_, ?_, ?_⟩
    · rw [hcandidate, hstatus, h.status, hheld]
      rfl
    · rw [hconfirmation, hstatus, h.confirmation]
    · intro c hc
      rw [hcandidate] at hc
      cases hc
      rw [observed_originalPhase]
      exact h.original held hheld
    · intro c hc
      rw [hcandidate] at hc
      cases hc
      rw [observed_sourceWatermark, observed_proposedPhase]
      refine ⟨⟨first, hset.append _⟩, ?_, fun p hp hlt hown => ?_⟩
      · have := htaken.later
        rw [htaken.watermark]
        omega
      · rcases List.mem_append.mp hp with hp | hp
        · exact hquiet p hp hlt hown
        · -- the token itself: it would have retracted the candidate
          rw [List.mem_singleton.mp hp] at hown
          apply hupholds.1
          rw [h.original held hheld]
          exact hown.2

theorem Run.inv {episode : WorkEpisode} {past : Past} {d : SegmentationDetector} (h : Run episode past d) :
    Inv episode past d := by
  induction h with
  | start hnew =>
    rw [new_eq hnew]
    exact inv_new episode
  | push hrun hpush ih =>
    rcases push_cases hpush with ⟨hswitch, rfl⟩ | ⟨-, htaken⟩
    · exact ih.switch (by rw [← ih.sameStream]; exact hswitch)
    · exact Inv.take hrun ih hpush htaken

/-- The update a call returns shows the status and the confirmation it leaves. -/
theorem push_reports {d d' : SegmentationDetector} {token : ActivityToken} {burst : BurstFoldUpdate}
    {u : DetectorUpdate} (h : d.push token burst = .ok (u, d')) :
    u.boundaryStatus = d'.boundaryStatus ∧ u.confirmationWatermark = d'.confirmationWatermark ∧
      u.candidateWatermark = d'.candidate.map (·.sourceWatermark) := by
  by_cases hstream : token.workstreamId = d.workstreamId
  · obtain ⟨-, -, candidate, status, confirmation, _, _, evidence, -, rfl, rfl⟩ := push_ok hstream h
    split <;> exact ⟨rfl, rfl, rfl⟩
  · unfold push at h
    obtain ⟨-, h⟩ := ite_error_else.mp h
    rw [if_pos (by simpa using hstream)] at h
    obtain ⟨rfl, rfl⟩ := Prod.mk.inj (Except.ok.inj h)
    exact ⟨rfl, rfl, rfl⟩

theorem push_confirmed {episode : WorkEpisode} {past : Past} {d d' : SegmentationDetector} (hinv : Inv episode past d)
    {token : ActivityToken} {burst : BurstFoldUpdate} {u : DetectorUpdate}
    (h : d.push token burst = .ok (u, d')) (hconfirmed : d.boundaryStatus = .confirmed) :
    d'.boundaryStatus = .confirmed ∧ d'.confirmationWatermark = d.confirmationWatermark := by
  rcases push_cases h with ⟨-, rfl⟩ | ⟨-, htaken⟩
  · exact ⟨hconfirmed, rfl⟩
  · have hnone : d.candidate = none := by
      have hstatus := hinv.status
      rw [hconfirmed] at hstatus
      simpa using hstatus
    obtain ⟨evidence, hsettles⟩ := htaken.settles
    generalize d'.candidate = candidate at hsettles
    generalize d'.boundaryStatus = status at hsettles ⊢
    generalize d'.confirmationWatermark = confirmation at hsettles ⊢
    cases hsettles with
    | idle => exact ⟨hconfirmed, rfl⟩
    | created _ hunconfirmed => exact absurd hconfirmed hunconfirmed
    | retracted held hheld | upgraded held hheld | confirmed held hheld | kept held hheld =>
      rw [hnone] at hheld
      cases hheld

/-- **A boundary takes two observations.** After every run, the status is `Candidate` exactly when a
candidate is held and the confirmation watermark is non-zero exactly when the status is `Confirmed`,
which is final. A call that confirms has objective evidence, and an earlier token set the candidate,
or made it objective, with the phase it now confirms; no token of the workstream between the two
observed the episode's own phase. -/
theorem confirmation_needs_two (episode : WorkEpisode) (past : Past) (d : SegmentationDetector)
    (hrun : Run episode past d) :
    (d.boundaryStatus = .candidate ↔ d.candidate.isSome = true) ∧
    (d.confirmationWatermark ≠ 0 ↔ d.boundaryStatus = .confirmed) ∧
    ∀ token burst u d', d.push token burst = .ok (u, d') →
      u.boundaryStatus = d'.boundaryStatus ∧ u.confirmationWatermark = d'.confirmationWatermark ∧
      (d.boundaryStatus = .confirmed →
        d'.boundaryStatus = .confirmed ∧ d'.confirmationWatermark = d.confirmationWatermark) ∧
      (d.boundaryStatus ≠ .confirmed → d'.boundaryStatus = .confirmed →
        d'.confirmationWatermark = token.sourceWatermark ∧ token.boundaryEvidence.objective = true ∧
        ∃ first w₀, SetBy episode past first w₀ token.observedPhaseKind ∧ w₀ < token.sourceWatermark ∧
          ∀ p ∈ past, w₀ < p.1.sourceWatermark → p.1.sourceWatermark < token.sourceWatermark →
            ¬ OwnPhase episode p.1) := by
  have hinv := hrun.inv
  refine ⟨hinv.status, hinv.confirmation, fun token burst u d' hpush => ?_⟩
  obtain ⟨hstatus, hwatermark, -⟩ := push_reports hpush
  refine ⟨hstatus, hwatermark, push_confirmed hinv hpush, fun hbefore hafter => ?_⟩
  rcases push_cases hpush with ⟨-, rfl⟩ | ⟨-, htaken⟩
  · exact absurd hafter hbefore
  · obtain ⟨evidence, hsettles⟩ := htaken.settles
    generalize d'.candidate = candidate at hsettles
    generalize d'.boundaryStatus = status at hsettles hafter
    generalize d'.confirmationWatermark = confirmation at hsettles ⊢
    cases hsettles with
    | idle | upgraded | kept => exact absurd hafter hbefore
    | created | retracted => cases hafter
    | confirmed held hheld hupholds hkind hevidence hphase =>
      obtain ⟨⟨first, hset⟩, hle, hquiet⟩ := hinv.held held hheld
      have hlater := htaken.later
      rw [← hphase] at hset
      exact ⟨rfl, by simpa [BoundaryEvidence.objective] using hevidence, first, held.sourceWatermark, hset,
        by omega, fun p hp hlt _ => hquiet p hp hlt⟩

/-! ## A token of another workstream between the two -/

/-- A token of the sample episode (`stream = 1`), or of another one. -/
def sampleToken (n : Fin 16) (stream : Fin 1024) (phase : PhaseKind) (evidence : BoundaryEvidence) : ActivityToken where
  sequence := n
  sourceWatermark := n
  operationId := sampleId (n.castLE sixteen_le)
  operationRevision := 1
  hostOccurrenceId := ⟨9⟩
  workBindingRevisionId := sampleId 1
  primaryBinding := ⟨some (sampleId 1), some (sampleId stream), some (sampleId stream), none, none, none⟩
  taskId := sampleId 1
  workstreamId := sampleId stream
  episodeId := sampleId stream
  attemptId := none
  attemptRevisionId := none
  experimentRunId := none
  competingGroupId := none
  executionLaneId := sampleId 1
  parentLaneId := none
  subagentId := none
  operationKind := .read
  targetRefs := ["target"]
  scopeEffectRefs := []
  worktreeLineageRefs := []
  artifactRefs := []
  sideEffects := []
  sourceObservationRefs := [sampleObservation]
  strategyContractFingerprint := none
  worktreeTransitionRefs := []
  integrationEventRefs := []
  targetFamily := "family"
  stateDelta := .none
  errorSignature := none
  verifierTransition := .none
  observedPhaseKind := some phase
  boundaryEvidence := evidence
  boundaryEvidenceRefs := [sampleObservation]
  sessionId := "session"
  captureReceipt := sampleReceipt 1 1

/-- The burst that a token with boundary evidence or a new phase starts. -/
def sampleBurst (token : ActivityToken) : BurstFoldUpdate :=
  ⟨openBurst token ⟨sampleId 100, sampleId 200, sampleId 300, sampleId 400⟩, none, true, true, false⟩

/-- Verification is observed, a token of another workstream observes the implementation phase, and
verification is observed again. -/
def firstToken : ActivityToken := sampleToken 1 1 .verify .phaseTransition

def foreignToken : ActivityToken := sampleToken 2 2 .implement .none

def secondToken : ActivityToken := sampleToken 3 1 .verify .phaseTransition

/-- The detector after a call, if it is accepted. -/
def after (d : Option SegmentationDetector) (token : ActivityToken) : Option SegmentationDetector :=
  d.bind fun d => (d.push token (sampleBurst token)).toOption.map Prod.snd

theorem after_run {past : Past} {d : Option SegmentationDetector} {token : ActivityToken}
    (h : ∀ x, d = some x → Run sampleEpisode past x) :
    ∀ x, after d token = some x → Run sampleEpisode (past ++ [(token, sampleBurst token)]) x := by
  intro x hx
  obtain ⟨y, hy, hx⟩ := Option.bind_eq_some_iff.mp hx
  obtain ⟨⟨u, z⟩, hpush, rfl⟩ := Option.map_eq_some_iff.mp hx
  cases hresult : y.push token (sampleBurst token) with
  | error e => rw [hresult] at hpush; cases hpush
  | ok result =>
    rw [hresult] at hpush
    cases hpush
    exact .push (h y hy) hresult

def sampleStart : Option SegmentationDetector := (new sampleEpisode).toOption

theorem sampleStart_run : ∀ x, sampleStart = some x → Run sampleEpisode [] x := by
  intro x hx
  unfold sampleStart at hx
  cases hnew : new sampleEpisode with
  | error e => rw [hnew] at hx; cases hx
  | ok d =>
    rw [hnew] at hx
    cases hx
    exact .start hnew

def samplePast : Past := [(firstToken, sampleBurst firstToken), (foreignToken, sampleBurst foreignToken)]

/-- The run reaches a candidate, and the third token confirms it. -/
theorem sample_confirms : ∃ d u d', Run sampleEpisode samplePast d ∧
    d.push secondToken (sampleBurst secondToken) = .ok (u, d') ∧ d.boundaryStatus = .candidate ∧
    d'.boundaryStatus = .confirmed := by
  have hrun := @after_run _ _ foreignToken (@after_run _ _ firstToken sampleStart_run)
  have hheld : (after (after sampleStart firstToken) foreignToken).map (·.boundaryStatus) = some .candidate := by
    decide +kernel
  obtain ⟨d, hd, hstatus⟩ := Option.map_eq_some_iff.mp hheld
  have hconfirmed : (after (after (after sampleStart firstToken) foreignToken) secondToken).map
      (·.boundaryStatus) = some .confirmed := by
    decide +kernel
  rw [hd] at hconfirmed
  obtain ⟨d', hd', hstatus'⟩ := Option.map_eq_some_iff.mp hconfirmed
  obtain ⟨⟨u, z⟩, hpush, rfl⟩ := Option.map_eq_some_iff.mp hd'
  refine ⟨d, u, z, hrun d hd, ?_, hstatus, hstatus'⟩
  cases hresult : d.push secondToken (sampleBurst secondToken) with
  | error e => rw [hresult] at hpush; cases hpush
  | ok result =>
    rw [hresult] at hpush
    cases hpush
    rfl

theorem sample_setBy {first : ActivityToken} {w₀ : Nat} {phase : Option PhaseKind}
    (h : SetBy sampleEpisode samplePast first w₀ phase) : w₀ = 1 := by
  obtain ⟨before, burst, later, d, d', u, hpast, hrun, hpush, hsets, rfl, -⟩ := h
  cases before with
  | nil =>
    obtain ⟨hfirst, -⟩ := List.cons.inj hpast
    rw [← (Prod.mk.inj hfirst).1]
    rfl
  | cons p before =>
    obtain ⟨rfl, hrest⟩ := List.cons.inj hpast
    cases before with
    | cons q before =>
      obtain ⟨-, hnone⟩ := List.cons.inj hrest
      cases before <;> cases hnone
    | nil =>
      -- the foreign token changes nothing, so it cannot have set the candidate
      obtain ⟨hforeign, -⟩ := List.cons.inj hrest
      obtain ⟨rfl, rfl⟩ := Prod.mk.inj hforeign
      have hinv := hrun.inv
      have hother : foreignToken.workstreamId ≠ d.workstreamId := by
        rw [hinv.sameStream]
        decide
      rcases push_cases hpush with ⟨-, rfl⟩ | ⟨hsame, -⟩
      · obtain ⟨c, hc, hwatermark, -⟩ := hsets
        obtain ⟨⟨setter, hset⟩, -⟩ := hinv.held c hc
        obtain ⟨earlier, setBurst, since, _, _, _, hsplit, -, -, -, hsetter, -⟩ := hset
        have hmem : (setter, setBurst) ∈ [(firstToken, sampleBurst firstToken)] := by
          rw [hsplit]
          exact List.mem_append_right _ List.mem_cons_self
        rw [(Prod.mk.inj (List.mem_singleton.mp hmem)).1, hwatermark] at hsetter
        cases hsetter
      · exact absurd hsame hother

/-- **A call of another workstream can lie between the two observations.** The call is accepted and
its token observed the phase of the episode, after the only token that set the candidate and before
the confirming one. -/
theorem foreign_phase_between : ∃ past d u d', Run sampleEpisode past d ∧
    d.push secondToken (sampleBurst secondToken) = .ok (u, d') ∧
    d.boundaryStatus ≠ .confirmed ∧ d'.boundaryStatus = .confirmed ∧
    ¬ ∃ first w₀, SetBy sampleEpisode past first w₀ secondToken.observedPhaseKind ∧
      w₀ < secondToken.sourceWatermark ∧
      ∀ p ∈ past, w₀ < p.1.sourceWatermark → p.1.sourceWatermark < secondToken.sourceWatermark →
        p.1.observedPhaseKind ≠ some sampleEpisode.phaseContract.phaseKind := by
  obtain ⟨d, u, d', hrun, hpush, hheld, hconfirmed⟩ := sample_confirms
  refine ⟨samplePast, d, u, d', hrun, hpush, by rw [hheld]; decide, hconfirmed, ?_⟩
  rintro ⟨first, w₀, hset, -, hquiet⟩
  obtain rfl := sample_setBy hset
  have hforeign : (foreignToken, sampleBurst foreignToken) ∈ samplePast := by simp [samplePast]
  exact hquiet _ hforeign (by decide) (by decide) rfl

/-- The sample run confirms on the strength of its first token. -/
theorem confirmation_needs_two_sample : ∃ d u d', Run sampleEpisode samplePast d ∧
    d.push secondToken (sampleBurst secondToken) = .ok (u, d') ∧ d'.confirmationWatermark = 3 ∧
    ∃ first w₀, SetBy sampleEpisode samplePast first w₀ (some .verify) ∧ w₀ < 3 := by
  obtain ⟨d, u, d', hrun, hpush, hheld, hconfirmed⟩ := sample_confirms
  obtain ⟨-, -, hcalls⟩ := confirmation_needs_two sampleEpisode samplePast d hrun
  obtain ⟨-, -, -, hconfirm⟩ := hcalls secondToken (sampleBurst secondToken) u d' hpush
  obtain ⟨hwatermark, -, first, w₀, hset, hlt, -⟩ := hconfirm (by rw [hheld]; decide) hconfirmed
  exact ⟨d, u, d', hrun, hpush, hwatermark, first, w₀, hset, hlt⟩

end EverTrace.L2.Segmentation.SegmentationDetector
