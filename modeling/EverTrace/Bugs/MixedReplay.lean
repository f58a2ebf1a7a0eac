import EverTrace.L2Machine.HarmReview
/-!
# The reviewer does not see the other replays

`select_negative_review` (evertrace-engine/src/procedure/usage.rs:1599-1702) offers
a decision only where all current replays since the evidence say the same.
`review_procedure_negative` (usage.rs:2143-2410) checks the results it is given, not
whether they are all there are. Where a usage has a passed and a failed replay,
nothing is offered, and the reviewer takes a dismissal on the one and a
confirmation of harm on the other.

Exact condition (`Unambiguous`): where the evidence is not bound to a local context,
a hold that says what to resume is not met by replays of both kinds; and where all
replays pass, the publication is known and says what to resume if it is on hold.
-/
namespace EverTrace.Bugs.MixedReplay
open EverTrace.Lib EverTrace.L1 EverTrace.L2.Procedure
open EverTrace.L2.Autoresearch (ResultEvidence ExperimentRun)
open EverTrace.L2.Purge (ProcedurePublicationState ProcedureStateEvent)

/-- The decisions that a replay or the results themselves prove. -/
def provable (decision : ProcedureNegativeReviewDecision) : Bool := decision != .requestRevision

/-- Every proof that is offered is taken, at any time from the current review on. -/
def Executable (view : UsageView) (id : ProcedureNegativeEvidenceId) : Prop :=
  ∀ selection decision proof current context, view.selectNegativeReview id = .ok selection → provable decision = true →
    selection.proof decision = some proof → view.negativeReviews.get id = some current →
    current.createdAtUs ≤ context.occurredAtUs → (view.reviewProcedureNegative context id proof).isOk = true

/-- No view lets the evidence be dismissed and be upheld. -/
def Consistent (view : UsageView) (id : ProcedureNegativeEvidenceId) : Prop :=
  ¬∃ passed failed context context', (view.reviewProcedureNegative context id (.replayDismissed passed)).isOk = true
    ∧ (view.reviewProcedureNegative context' id (.replayUpheld failed)).isOk = true

/-- All current replays since the evidence have passed. -/
def AllPassed (view : UsageView) (negative : ProcedureNegativeEvidence) (usage : ProcedureUsageRevision)
    (proofAfter : Nat) : Prop :=
  ∃ heads, (view.negativeReviewInputs negative.procedureRevisionId).currentResultHeads = .ok heads
    ∧ (view.negativeReviewInputs negative.procedureRevisionId).uniformPassed
      ((view.negativeReviewInputs negative.procedureRevisionId).resultsForUsage heads usage proofAfter) = true

/-- The records leave no choice between the two decisions, and the one that is offered can be carried out. -/
structure Unambiguous (view : UsageView) (negative : ProcedureNegativeEvidence) (usage : ProcedureUsageRevision)
    (proofAfter : Nat) : Prop where
  known : Matching negative usage → AllPassed view negative usage proofAfter → Liftable view negative
  unmixed : OnHold view negative → Liftable view negative → (∃ r, Replays view usage proofAfter replayPassed r) →
    ¬∃ r, Replays view usage proofAfter replayMismatch r

variable {view : UsageView} {id : ProcedureNegativeEvidenceId} {current : ProcedureNegativeReviewEvent}
  {negative : ProcedureNegativeEvidence} {usage : ProcedureUsageRevision} {proofAfter : Nat}

def contextAt (current : ProcedureNegativeReviewEvent) : ReviewContext := ⟨current.createdAtUs, ⟨0⟩, ⟨1⟩⟩

theorem unambiguous_of (hexecutable : Executable view id) (hconsistent : Consistent view id)
    (hu : UnderReview view id current negative usage proofAfter) (hpending : current.status = .pending)
    (hlevel : negative.level = .suspectedHarm) (hcontext : negative.localContext = none) :
    Unambiguous view negative usage proofAfter where
  known := by
    rintro hmatching ⟨heads, hheads, hpassed⟩
    have hselected := selectNegativeReview_eq hu hpending hmatching hheads
    generalize (view.negativeReviewInputs negative.procedureRevisionId).resultsForUsage heads usage proofAfter = ids
      at hpassed hselected
    have hoffered : ((view.negativeReviewInputs negative.procedureRevisionId).offer current negative usage ids).proof
        .dismissAttribution = some (.replayDismissed ids) := by
      simp [NegativeReviewInputs.offer, ProcedureNegativeReviewSelection.proof, hpending, hlevel, hpassed]
    have htaken := hexecutable _ .dismissAttribution _ current (contextAt current) hselected rfl hoffered hu.reviewed le_rfl
    exact ((dismissed_isOk_iff hu).mp htaken).2.2.2.2 hcontext
  unmixed := by
    rintro hhold hliftable ⟨passed, hpassed⟩ ⟨failed, hfailed⟩
    refine hconsistent ⟨[passed], [failed], contextAt current, contextAt current, (dismissed_isOk_iff hu).mpr ?_,
      (upheld_isOk_iff hu).mpr ?_⟩
    · refine ⟨⟨hpending, hlevel⟩, List.cons_ne_nil _ _, fun r hr => ?_, le_rfl, fun _ => hliftable⟩
      rw [List.mem_singleton.mp hr]
      exact hpassed
    · refine ⟨⟨hpending, hlevel⟩, List.cons_ne_nil _ _, fun r hr => ?_, le_rfl, hcontext, hhold⟩
      rw [List.mem_singleton.mp hr]
      exact hfailed

/-- An offered proof is one of three, and each is taken. -/
theorem executable_of (hcurrent : view.negativeReviews.get id = some current) (hpending : current.status = .pending)
    (h : ∀ negative usage proofAfter, UnderReview view id current negative usage proofAfter →
      negative.level = .suspectedHarm → negative.localContext = none → Unambiguous view negative usage proofAfter) :
    Executable view id := by
  intro selection decision proof current' context hselected hprovable hproof hcurrent' htime
  cases hcurrent.symm.trans hcurrent'
  obtain ⟨negative, usage, proofAfter, heads, hu, hmatching, hheads, rfl⟩ := of_selected hselected hcurrent hpending
  unfold ProcedureNegativeReviewSelection.proof NegativeReviewInputs.offer at hproof
  cases decision with
  | requestRevision => cases hprovable
  | resolveAsIneffective =>
    dsimp only at hproof
    split at hproof
    · next hlevel =>
      rw [Bool.and_eq_true, beq_iff_eq, beq_iff_eq] at hlevel
      exact offered_ineffective hu hmatching hpending hlevel.2 hproof htime
    · cases hproof
  | dismissAttribution =>
    dsimp only at hproof
    split at hproof
    · next hoffered =>
      cases hproof
      rw [Bool.and_eq_true, Bool.and_eq_true, beq_iff_eq, beq_iff_eq] at hoffered
      obtain ⟨⟨-, hlevel⟩, hpassed⟩ := hoffered
      obtain ⟨hne, hreplays⟩ := replays_of_uniform hheads hpassed
      refine (dismissed_isOk_iff hu).mpr ⟨⟨hpending, hlevel⟩, hne, hreplays, htime, fun hcontext => ?_⟩
      exact (h negative usage proofAfter hu hlevel hcontext).known hmatching ⟨heads, hheads, hpassed⟩
    · cases hproof
  | confirmHarm =>
    dsimp only at hproof
    split at hproof
    · next hoffered =>
      cases hproof
      simp only [Bool.and_eq_true, beq_iff_eq, Option.isNone_iff_eq_none] at hoffered
      obtain ⟨⟨⟨⟨-, hlevel⟩, hcontext⟩, hmismatch⟩, hhold⟩ := hoffered
      obtain ⟨hne, hreplays⟩ := replays_of_uniform hheads hmismatch
      obtain ⟨state, hstate, hto⟩ := Option.map_eq_some_iff.mp hhold
      exact (upheld_isOk_iff hu).mpr ⟨⟨hpending, hlevel⟩, hne, hreplays, htime, hcontext, state, hstate, hto⟩
    · cases hproof

theorem consistent_of (hcurrent : view.negativeReviews.get id = some current)
    (h : ∀ negative usage proofAfter, UnderReview view id current negative usage proofAfter →
      negative.level = .suspectedHarm → negative.localContext = none → Unambiguous view negative usage proofAfter) :
    Consistent view id := by
  rintro ⟨passed, failed, context, context', hdismissed, hupheld⟩
  obtain ⟨current', negative, usage, proofAfter, hu⟩ := underReview_of_isOk hdismissed
  cases hcurrent.symm.trans hu.reviewed
  obtain ⟨⟨-, hlevel⟩, hpassedNe, hpassed, -, hliftable⟩ := (dismissed_isOk_iff hu).mp hdismissed
  obtain ⟨-, hfailedNe, hfailed, -, hcontext, hhold⟩ := (upheld_isOk_iff hu).mp hupheld
  obtain ⟨r, hr⟩ := List.exists_mem_of_ne_nil _ hpassedNe
  obtain ⟨r', hr'⟩ := List.exists_mem_of_ne_nil _ hfailedNe
  exact (h negative usage proofAfter hu hlevel hcontext).unmixed hhold (hliftable hcontext) ⟨r, hpassed r hr⟩
    ⟨r', hfailed r' hr'⟩

/-- **Reviews of pending evidence can be carried out and do not contradict each other if and only if the records are
unambiguous wherever harm is suspected and not bound to a context.** -/
theorem executable_consistent_iff (view : UsageView) (id : ProcedureNegativeEvidenceId) (current : ProcedureNegativeReviewEvent)
    (hcurrent : view.negativeReviews.get id = some current) (hpending : current.status = .pending) :
    Executable view id ∧ Consistent view id ↔
      ∀ negative usage proofAfter, UnderReview view id current negative usage proofAfter →
        negative.level = .suspectedHarm → negative.localContext = none → Unambiguous view negative usage proofAfter := by
  constructor
  · rintro ⟨hexecutable, hconsistent⟩ negative usage proofAfter hu hlevel hcontext
    exact unambiguous_of hexecutable hconsistent hu hpending hlevel hcontext
  · intro h
    exact ⟨executable_of hcurrent hpending h, consistent_of hcurrent h⟩

/-! ## A passed and a failed replay -/

def sampleUsage : ProcedureUsageRevision where
  procedureUsageId := ⟨1⟩
  usageRevisionId := ⟨2⟩
  predecessorRevisionId := none
  revisionGeneration := 1
  procedureRevisionId := ⟨3⟩
  taskId := ⟨4⟩
  workstreamId := ⟨5⟩
  exposureEpisodeRevisionId := ⟨6⟩
  decisionBoundaryRef := "boundary"
  routeDecision := .apply_
  stage := .outcome
  attemptIds := [⟨7⟩]
  actionEpisodeRevisionIds := []
  verificationEpisodeRevisionIds := []
  actionOperationRefs := []
  verificationOperationRefs := []
  workBindingRevisionRefs := []
  scopeEffectRefs := []
  correlationState := .resolved
  eligible := .true_
  actionAligned := .true_
  verifierAligned := .true_
  outcomeSupported := .false_
  localContext := ⟨none, none, .atEntry, none⟩
  sourceWatermark := 1
  evidenceRefs := ["usage"]
  createdAtUs := 1

def sampleNegative : ProcedureNegativeEvidence where
  negativeEvidenceId := ⟨8⟩
  level := .suspectedHarm
  procedureRevisionId := ⟨3⟩
  procedureUsageId := ⟨1⟩
  taskId := ⟨4⟩
  sessionId := "session"
  evidenceRefs := ["failed"]
  observedEffect := "failure"
  expectedEffect := "success"
  confounders := ["causal_attribution_unconfirmed"]
  attributionBasis := .contextUnbounded
  decisionSource := .adoptedAttemptFailed
  localContext := none
  createdAtUs := 10

def sampleReview : ProcedureNegativeReviewEvent where
  reviewEventId := ⟨9⟩
  negativeEvidenceId := ⟨8⟩
  predecessorReviewEventId := none
  reviewGeneration := 1
  status := .pending
  successorUsageRevisionId := none
  reason := "initial_review"
  evidenceRefs := ["failed"]
  createdAtUs := 11

/-- The procedure was on probation and is on hold for the evidence. -/
def sampleHold : ProcedureStateEvent where
  stateEventId := ⟨10⟩
  procedureRevisionId := ⟨3⟩
  fromState := some .activeProbationary
  toState := .reviewHold
  reason := .suspectedHarm
  resumeState := some .activeProbationary
  evidenceRefs := [sampleNegative.negativeEvidenceId.toText]
  createdAtUs := 11

def sampleRun (H : Sha256) : ExperimentRun where
  runId := ⟨11⟩
  revisionId := ⟨12⟩
  parentRevisionId := none
  workstreamId := ⟨5⟩
  attemptId := some ⟨7⟩
  attemptBindingStatus := .resolved
  strategyContractFingerprint := H.hash []
  origin := .local_
  externalSystemId := none
  externalRunKey := none
  sourceReceiptRefs := [⟨13⟩]
  observability := .full
  executionStatus := .completed
  contractValidity := .valid
  experimentContractFingerprint := H.hash []
  codeSnapshotId := ⟨14⟩
  dataFingerprint := "data"
  normalizedConfig := []
  variableDeclaration := ⟨[], [], []⟩
  comparisonKey := H.hash []
  seedPolicy := .fixed
  seedValues := ["1"]
  nondeterministic := false
  metricDefinition := "verification"
  metricExtractorVersion := "parser-v1"
  multiCasMetricPolicy := .rejectMultipleParsed
  environmentFingerprint := "environment"
  comparisonExecutionBinding := none
  workArtifactRefs := []
  terminalEvidenceRefs := []
  createdAtUs := 1
  startedAtUs := some 1
  endedAtUs := some 2

/-- A complete result whose replay passed. -/
def passedResult (id : ResultEvidenceId) (revisionId : RevisionId) : ResultEvidence where
  resultEvidenceId := id
  revisionId := revisionId
  parentRevisionId := none
  experimentRunId := ⟨11⟩
  experimentRunRevisionId := ⟨12⟩
  resultScope := .partial_
  rawArtifactRefs := [⟨15⟩]
  rawCasRefs := []
  parsedMetric := some ⟨"0", "boolean", none⟩
  parserReceipt := ⟨"parser-v1", [⟨15⟩], [], .parsed, none⟩
  verifierReceipt := some ⟨"verifier-v1", .passed, none⟩
  completeness := .complete
  failure := none
  createdAtUs := 12

/-- A result whose replay came out differently. -/
def failedResult (id : ResultEvidenceId) (revisionId : RevisionId) : ResultEvidence :=
  { passedResult id revisionId with
    verifierReceipt := some ⟨"verifier-v1", .failed, some .deterministicReparseMismatch⟩
    completeness := .incomplete
    failure := some (.verifier .deterministicReparseMismatch) }

/-- The view with two results that came in behind the evidence. -/
def sampleView (H : Sha256) (first second : ResultEvidence) : UsageView where
  negatives := OrdMap.empty.insert ⟨8⟩ sampleNegative
  negativeSeqs := OrdMap.empty.insert ⟨8⟩ 10
  negativeReviews := OrdMap.empty.insert ⟨8⟩ sampleReview
  negativeReviewSeqs := OrdMap.empty.insert ⟨8⟩ 11
  usages := OrdMap.empty.insert ⟨1⟩ sampleUsage
  attempts := .empty
  runs := OrdMap.empty.insert ⟨11⟩ (sampleRun H)
  results := (OrdMap.empty.insert first.revisionId first).insert second.revisionId second
  resultSeqs := (OrdMap.empty.insert first.revisionId 12).insert second.revisionId 13
  keyed := by
    intro id result h
    rw [OrdMap.get_insert, OrdMap.get_insert] at h
    split at h
    · next hid =>
      cases h
      exact hid.symm
    · split at h
      · next hid =>
        cases h
        exact hid.symm
      · cases h
  procedures := OrdMap.empty.insert ⟨3⟩ ⟨⟨16⟩, ⟨3⟩, none⟩
  currentProcedures := OrdMap.empty.insert ⟨16⟩ ⟨3⟩
  publications := OrdMap.empty.insert ⟨3⟩ sampleHold

def mixedView (H : Sha256) : UsageView := sampleView H (passedResult ⟨20⟩ ⟨21⟩) (failedResult ⟨22⟩ ⟨23⟩)

/-- From one view the evidence can be dismissed, and the harm be confirmed. -/
theorem mixed_contradicts : ¬∃ H, Executable (mixedView H) ⟨8⟩ ∧ Consistent (mixedView H) ⟨8⟩ := by
  rintro ⟨H, -, hconsistent⟩
  exact hconsistent ⟨[⟨21⟩], [⟨23⟩], contextAt sampleReview, contextAt sampleReview, rfl, rfl⟩

def passedView : UsageView :=
  sampleView zeroSha (passedResult ⟨20⟩ ⟨21⟩) (passedResult ⟨22⟩ ⟨23⟩)

/-- Where both replays passed, the reviews can be carried out and do not contradict each other. -/
theorem executable_consistent_iff_sample : Executable passedView ⟨8⟩ ∧ Consistent passedView ⟨8⟩ := by
  refine (executable_consistent_iff passedView ⟨8⟩ sampleReview rfl rfl).mpr fun negative usage proofAfter hu _ _ => ?_
  have hrecorded : some sampleNegative = some negative := hu.recorded
  cases hrecorded
  refine ⟨fun _ _ => ⟨sampleHold, rfl, fun _ => rfl⟩, ?_⟩
  rintro - - - ⟨id, result, seq, hget, -, -, -, hmismatch⟩
  have hresults : result = passedResult ⟨22⟩ ⟨23⟩ ∨ result = passedResult ⟨20⟩ ⟨21⟩ := by
    unfold passedView sampleView at hget
    rw [OrdMap.get_insert, OrdMap.get_insert] at hget
    split at hget
    · exact .inl (Option.some.inj hget).symm
    · split at hget
      · exact .inr (Option.some.inj hget).symm
      · cases hget
  rcases hresults with rfl | rfl <;> cases hmismatch

end EverTrace.Bugs.MixedReplay
