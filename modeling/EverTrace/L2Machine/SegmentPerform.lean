import EverTrace.L2Machine.SegmentRun
/-!
# Performing a run

`performUpdates` runs the whole cycle on a list of inputs: observe, commit,
acknowledge. What it reaches is the state of a `Run`, so a concrete run can be
computed and every theorem about runs applied to it.

Results:
* `performUpdates_run`: what is performed is a run.
-/
namespace EverTrace.L2.Segmentation
open EverTrace.Lib EverTrace.L1 EverTrace.L2.Work

/-- The input of one cycle: the operation with its facts, the ids drawn for it and the receipts pinned. -/
structure Observation where
  operationId : OperationId
  facts : SegmentationFacts
  fresh : FreshIds
  receipts : List CaptureReceipt

/-- Observe, commit with `saveSegmentationUpdate` and acknowledge; `none` if one of them fails or there is no delta. -/
def performUpdate (s : IncrementalSegmenter) (p : Projection) (o : Observation) :
    Option (IncrementalSegmenter × Projection × ActivityToken) :=
  match s.observe p.current o.operationId o.facts o.fresh, p.current.episode s.episodeId with
  | (.ok (.delta step), s₁), some episode => do
    guard (p.current.bursts o.fresh.burstId).isNone
    let command ← (saveSegmentationUpdate episode step o.receipts).toOption
    let p' ← (p.commit command).toOption
    let s' ← (s₁.acknowledgeCommitted p'.current step).toOption
    return (s', p', step.token)
  | _, _ => none

theorem performUpdate_cycle {s s' : IncrementalSegmenter} {p p' : Projection} {o : Observation} {token : ActivityToken}
    (h : performUpdate s p o = some (s', p', token)) : Cycle s s' p p' token := by
  unfold performUpdate at h
  split at h
  · next step s₁ episode hobserve hepisode =>
    simp only [Option.bind_eq_bind, Option.bind_eq_some_iff, Option.guard_eq_some', toOption_eq_some, Option.pure_def,
      Option.some.injEq, Prod.mk.injEq] at h
    obtain ⟨_, hunused, command, hcommand, p₁, hcommit, s₂, hack, rfl, rfl, rfl⟩ := h
    exact ⟨o.operationId, o.facts, o.fresh, step, s₁, episode, o.receipts, command,
      by simpa using hunused, hobserve, rfl, hepisode, .update hcommand, hcommit, hack⟩
  · cases h

/-- One update after the other, as long as every token passes the check. -/
def performUpdates (check : IncrementalSegmenter → ActivityToken → Bool) : List Observation →
    IncrementalSegmenter → Projection → Option (IncrementalSegmenter × Projection)
  | [], s, p => some (s, p)
  | o :: rest, s, p => do
    let (s', p', token) ← performUpdate s p o
    guard (check s token)
    performUpdates check rest s' p'

/-- What is performed is a run. -/
theorem performUpdates_run {episodeId : WorkEpisodeId} {check : IncrementalSegmenter → ActivityToken → Bool}
    {good : IncrementalSegmenter → ActivityToken → Prop} (hcheck : ∀ s token, check s token = true → good s token)
    {observations : List Observation} {s s' : IncrementalSegmenter} {p p' : Projection} {n : Nat}
    (hrun : Run episodeId good s p n) (h : performUpdates check observations s p = some (s', p')) :
    Run episodeId good s' p' (n + observations.length) := by
  induction observations generalizing s p n with
  | nil =>
    cases h
    exact hrun
  | cons o rest ih =>
    simp only [performUpdates, Option.bind_eq_bind, Option.bind_eq_some_iff, Option.guard_eq_some'] at h
    obtain ⟨⟨s₁, p₁, token⟩, hupdate, _, hgood, hrest⟩ := h
    have := ih (.cycle hrun (hcheck s token hgood) (performUpdate_cycle hupdate)) hrest
    rw [List.length_cons, Nat.add_comm rest.length, ← Nat.add_assoc]
    exact this

/-! ## A sample store -/

theorem sixteen_le : 16 ≤ 1024 := by omega

def sampleId {family : Family} (n : Fin 1024) : Id family :=
  ⟨⟨0x70008000000000000000 + n.val, by omega⟩⟩

def sampleReceipt (n : Fin 1024) (importWatermark : Nat) : CaptureReceipt where
  captureReceiptRevisionId := sampleId n
  executionLaneId := sampleId n
  predecessorRevisionId := none
  adapterManifestIds := []
  eligibleEventManifestRefs := []
  sourceRevisionRefs := []
  sourceCloseWatermarkRefs := []
  sourceCloseReconciliationRefs := []
  admissionFailureEvidenceRefs := []
  admissionFailureObservability := .complete
  identityStrength := .stableNative
  delegationStartSeen := false
  childSessionLinked := false
  childSessionId := none
  parentSessionEndSeen := false
  lifecycleEndSeen := false
  terminalEventKind := none
  terminalEventRef := none
  terminationEvidenceRefs := []
  sourceClosedRefs := []
  livenessProbeRefs := []
  finalizationReason := none
  firstSequence := none
  lastSequence := none
  sequenceGaps := []
  captureGapMarkerRefs := []
  captureOutageIntervalRefs := []
  toolCallsSeen := []
  toolResultsSeen := []
  unmatchedToolCallIds := []
  unmatchedToolResultIds := []
  payloadTruncations := []
  redactionRefs := []
  corruptPayloadRefs := []
  unsupportedRecordTypes := []
  importWatermark
  finalized := false
  coverageLevel := .full
  sourceCoverage := .open_
  pairingIntegrity := .complete
  payloadIntegrity := .complete
  orderingIntegrity := .complete
  reasoningVisibility := []
  exactByteReplay := true
  resolverVersion := 1

/-- An open episode of the implementation phase, as `new_episode` starts it. -/
def sampleEpisode : WorkEpisode where
  episodeId := sampleId 1
  revisionId := sampleId 1
  predecessorRevisionId := none
  revisionGeneration := 1
  taskId := sampleId 1
  workstreamId := sampleId 1
  repositoryInstanceId := none
  worktreeInstanceId := none
  phaseContract := ⟨"goal", .implement, "label", ["target"], [], "accepted", "done"⟩
  lifecycleStatus := .open_
  boundaryStatus := .provisional
  sourceWatermark := 1
  semanticWatermark := 1
  confirmationWatermark := 0
  captureWatermark := 0
  entryWorktreeSnapshotId := none
  exitWorktreeSnapshotId := none
  sessionIds := []
  executionLaneIds := []
  attemptIds := []
  competingAttemptGroupIds := []
  operationBurstRefs := []
  worktreeTransitionRefs := []
  failedAttemptIds := []
  interruptedAttemptIds := []
  returnedButUnselectedAttemptIds := []
  selectedAttemptIds := []
  failureRefs := []
  interruptionRefs := []
  completedOutcomeRefs := []
  selectedOutcomeRefs := []
  verificationRefs := []
  openLoops := []
  checkpointRefs := []
  captureReceiptRevisionIds := []
  captureGapRefs := []
  captureOutageRefs := []
  pendingDeltaStats := ⟨0, 0, 0⟩
  pendingSemanticDelta := none
  boundaryCandidate := none
  captureSummary := .unavailable
  segmentationCorrectionRefs := []
  experimentRunRefs := []
  workArtifactRefs := []
  semanticDigestRefs := []

/-- The observation every sample operation rests on. -/
def sampleObservation : SourceObservationId := ⟨7⟩

/-- Every operation exists and is bound to the sample episode. It runs on lane 1, or on lane 2 if it is among
`second`; the receipt of lane 1 has been imported up to `imported`, that of lane 2 up to 1. -/
def sampleView (second : List OperationId) (imported : Nat) : SegmentationCurrentView where
  occurrence id := some {
    hostOccurrenceId := id
    correlationStrength := .exact
    sourceObservationRefs := [sampleObservation]
    normalizationState := .singleSource
    possibleDuplicateGroupId := none }
  operation id := some {
    hostOccurrenceId := ⟨9⟩
    executionLaneId := some (if second.contains id then sampleId 2 else sampleId 1)
    operationKind := .read
    inputSourceObservationRefs := [sampleObservation]
    resultSourceObservationRefs := []
    scopeEffectIds := []
    artifactRefs := []
    operationRevision := 1 }
  binding id := some {
    workBindingRevisionId := sampleId 1
    operationId := id
    primaryBinding := ⟨some (sampleId 1), some (sampleId 1), some (sampleId 1), none, none, none⟩
    assignmentStatus := .resolved }
  lane id := some {
    executionLaneId := id
    hostSessionId := "session"
    agentId := "agent"
    parentLaneId := none
    activeCaptureReceiptRevisionId := ⟨id.uuid⟩
    operationIds := List.ofFn fun i : Fin 16 => sampleId (i.castLE sixteen_le) }
  receipt id :=
    if id = sampleId 1 then some (sampleReceipt 1 imported)
    else if id = sampleId 2 then some (sampleReceipt 2 1) else none
  scopeEffect _ := none
  attempt _ := none
  group _ := none
  episode id := if id = sampleId 1 then some sampleEpisode else none
  workstream _ := some ⟨[], some (sampleId 1)⟩

def sampleProjection (second : List OperationId) (imported : Nat) : Projection where
  current := ⟨1, sampleView second imported, fun _ => none⟩
  episodeRevisions id := if id = sampleId 1 then some sampleEpisode else none
  burstRevisions _ := none

/-- Operation `n`, at sequence and watermark `n`, with its own fresh ids and the receipts given. -/
def sampleInput (n : Fin 16) (family : String) (phase : Option PhaseKind) (evidence : BoundaryEvidence)
    (receipts : List CaptureReceipt) : Observation where
  operationId := sampleId (n.castLE (by omega))
  facts := ⟨n, n, family, .none, none, .none, phase, evidence, [sampleObservation]⟩
  fresh := ⟨sampleId (100 + n.castLE (by omega)), sampleId (200 + n.castLE (by omega)),
    sampleId (300 + n.castLE (by omega)), sampleId (400 + n.castLE (by omega))⟩
  receipts

/-- The segmenter of the sample episode after some updates. -/
def sampleRun (check : IncrementalSegmenter → ActivityToken → Bool) (second : List OperationId) (imported : Nat)
    (observations : List Observation) : Option (IncrementalSegmenter × Projection) :=
  match IncrementalSegmenter.new (sampleProjection second imported).current (sampleId 1) with
  | .ok s => performUpdates check observations s (sampleProjection second imported)
  | .error _ => none

theorem sampleRun_run {check : IncrementalSegmenter → ActivityToken → Bool}
    {good : IncrementalSegmenter → ActivityToken → Prop} (hcheck : ∀ s token, check s token = true → good s token)
    {second : List OperationId} {imported : Nat} {observations : List Observation} {s : IncrementalSegmenter}
    {p : Projection} (h : sampleRun check second imported observations = some (s, p)) :
    Run (sampleId 1) good s p observations.length := by
  unfold sampleRun at h
  split at h
  · next s₀ hnew =>
    have := performUpdates_run hcheck (.start hnew) h
    rwa [Nat.zero_add] at this
  · cases h

end EverTrace.L2.Segmentation
