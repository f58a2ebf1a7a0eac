import EverTrace.L2Machine.Segmenter
/-!
# Committing a segmentation step (`evertrace-engine/src/work/episode.rs`,
# `evertrace-store/src/projections/segmentation.rs`)

A step becomes durable as one journal command: the burst revisions it produced
and the episode's next revision. `reviseEpisodeFromStep` builds that revision
from the step and the capture receipts of the episode's lanes, `commit` records
everything in the store's projection.

`Run` is what the engine does with one episode: start a segmenter, then observe,
commit and acknowledge, step by step, while other commands change the rest of
the store.
-/
namespace EverTrace.L2.Segmentation
open EverTrace.Lib EverTrace.L1 EverTrace.L2.Work

/-- mirrors evertrace-engine/src/work.rs:46-55 -/
inductive WorkIdentityError where
  | invalidInput
  deriving DecidableEq, Repr

/-! ## The episode's next revision -/

/-- The counters of an episode after a step, unless one of them overflows.
mirrors evertrace-engine/src/work/episode.rs:201-223 -/
def deltaStats (stats : PendingDeltaStats) (step : IncrementalSegmentationStep) : Option PendingDeltaStats := do
  let selectedTokenCount ←
    if !step.burst.noDelta then checkedSucc 32 stats.selectedTokenCount else some stats.selectedTokenCount
  let meaningfulBurstCount ←
    if step.burst.meaningfulNew then checkedSucc 32 stats.meaningfulBurstCount else some stats.meaningfulBurstCount
  let highValueSignalCount ←
    if step.token.boundaryEvidence != .none || step.token.verifierTransition != .none then
      checkedSucc 32 stats.highValueSignalCount
    else some stats.highValueSignalCount
  return { selectedTokenCount, meaningfulBurstCount, highValueSignalCount }

/-- The lanes the receipts have to cover: the episode's and the token's. -/
def expectedLaneIds (current : WorkEpisode) (token : ActivityToken) : List ExecutionLaneId :=
  sortUnique (current.executionLaneIds ++ [token.executionLaneId])

/-- `import_watermark` of the lane that is furthest behind, 0 without receipts. -/
def captureWatermark (receipts : List CaptureReceipt) : Nat := ((receipts.map (·.importWatermark)).min?).getD 0

/-- The successor that a step gives an episode.
mirrors evertrace-engine/src/work/episode.rs:169-259 -/
def successor (current : WorkEpisode) (step : IncrementalSegmentationStep) (pinnedReceipts : List CaptureReceipt)
    (confirming : Bool) (exitSnapshot : Option WorktreeSnapshotId) (stats : PendingDeltaStats)
    (summary : CaptureSummary) : WorkEpisode :=
  { current with
    revisionId := step.episodeSuccessorRevisionId
    predecessorRevisionId := some current.revisionId
    revisionGeneration := current.revisionGeneration + 1
    sourceWatermark := step.token.sourceWatermark
    boundaryStatus := if confirming then .confirmed else step.detector.boundaryStatus
    boundaryCandidate := if confirming then none else step.detector.candidateState
    sessionIds := sortUnique (current.sessionIds ++ [step.token.sessionId])
    executionLaneIds := sortUnique (current.executionLaneIds ++ [step.token.executionLaneId])
    attemptIds := sortUnique (current.attemptIds ++ step.token.attemptId.toList)
    competingAttemptGroupIds := sortUnique (current.competingAttemptGroupIds ++ step.token.competingGroupId.toList)
    worktreeTransitionRefs := sortUnique (current.worktreeTransitionRefs ++ step.token.worktreeTransitionRefs)
    operationBurstRefs := sortUnique (current.operationBurstRefs ++ [step.burst.current.operationBurstId])
    pendingDeltaStats := stats
    captureReceiptRevisionIds := sortUnique (pinnedReceipts.map (·.captureReceiptRevisionId))
    captureGapRefs := sortUnique (pinnedReceipts.flatMap (·.captureGapMarkerRefs))
    captureOutageRefs := sortUnique (pinnedReceipts.flatMap (·.captureOutageIntervalRefs))
    captureWatermark := captureWatermark pinnedReceipts
    captureSummary := summary
    pendingSemanticDelta :=
      if current.semanticWatermark < step.token.sourceWatermark then
        some { afterWatermark := current.semanticWatermark, throughWatermark := step.token.sourceWatermark }
      else none
    lifecycleStatus := if confirming then .closed else current.lifecycleStatus
    confirmationWatermark :=
      if confirming then step.detector.confirmationWatermark else current.confirmationWatermark
    exitWorktreeSnapshotId := if confirming then exitSnapshot else current.exitWorktreeSnapshotId }

/-- The step does not continue this revision of the episode.
mirrors evertrace-engine/src/work/episode.rs:134-145 -/
def stepMisplaced (current : WorkEpisode) (step : IncrementalSegmentationStep) (confirming : Bool) : Bool :=
  step.token.episodeId != current.episodeId
    || step.token.taskId != current.taskId
    || step.token.workstreamId != current.workstreamId
    || step.token.sourceWatermark < current.sourceWatermark
    || step.detector.episodeId != current.episodeId
    || step.detector.tokenWatermark != step.token.sourceWatermark
    || (step.detector.boundaryStatus == .confirmed) != confirming
    || step.burst.current.sourceWatermark != step.token.sourceWatermark
    || current.lifecycleStatus != .open_

/-- The receipts are not one for each lane, or miss the token's.
mirrors evertrace-engine/src/work/episode.rs:146-168 -/
def receiptsMisplaced (current : WorkEpisode) (token : ActivityToken) (pinnedReceipts : List CaptureReceipt) : Bool :=
  let providedReceiptIds := sortUnique (pinnedReceipts.map (·.captureReceiptRevisionId))
  let providedLaneIds := (pinnedReceipts.map (·.executionLaneId)).insertionSort (· ≤ ·)
  providedReceiptIds.length != pinnedReceipts.length
    || providedLaneIds.length != pinnedReceipts.length
    || adjacentDup id providedLaneIds
    || providedLaneIds != expectedLaneIds current token
    || !providedReceiptIds.contains token.captureReceipt.captureReceiptRevisionId

/-- mirrors evertrace-engine/src/work/episode.rs:124-264 -/
def reviseEpisodeFromStep (current : WorkEpisode) (step : IncrementalSegmentationStep)
    (pinnedReceipts : List CaptureReceipt) (confirming : Bool) (exitSnapshot : Option WorktreeSnapshotId) :
    Except WorkIdentityError WorkEpisode := do
  if stepMisplaced current step confirming || receiptsMisplaced current step.token pinnedReceipts then
    .error .invalidInput
  else
    let _ ← okOr .invalidInput (checkedSucc 64 current.revisionGeneration)
    let stats ← okOr .invalidInput (deltaStats current.pendingDeltaStats step)
    let summary ← (CaptureSummary.fromReceipts pinnedReceipts).mapError fun _ => WorkIdentityError.invalidInput
    let next := successor current step pinnedReceipts confirming exitSnapshot stats summary
    (current.validateSuccessor next).mapError fun _ => WorkIdentityError.invalidInput
    return next

/-- mirrors evertrace-engine/src/work/episode.rs:103-122 -/
def confirmEpisodeBoundary (current : WorkEpisode) (step : IncrementalSegmentationStep)
    (exitSnapshot : Option WorktreeSnapshotId) (pinnedReceipts : List CaptureReceipt) :
    Except WorkIdentityError WorkEpisode :=
  if current.lifecycleStatus != .open_
      || current.boundaryStatus != .candidate
      || step.detector.episodeId != current.episodeId
      || step.detector.boundaryStatus != .confirmed
      || step.detector.tokenWatermark != step.detector.confirmationWatermark
      || step.detector.confirmationEvidenceRefs.isEmpty
      || step.detector.confirmationWatermark ≤ current.sourceWatermark then
    .error .invalidInput
  else reviseEpisodeFromStep current step pinnedReceipts true exitSnapshot

/-- The records of one journal command. -/
structure SegmentationCommand where
  bursts : List OperationBurst
  episode : WorkEpisode

/-- mirrors evertrace-engine/src/work/episode.rs:266-294 -/
def saveSegmentationUpdate (current : WorkEpisode) (step : IncrementalSegmentationStep)
    (pinnedReceipts : List CaptureReceipt) : Except WorkIdentityError SegmentationCommand := do
  let episode ← reviseEpisodeFromStep current step pinnedReceipts false none
  return {
    bursts := step.burst.closed.toList ++ (if !step.burst.noDelta then [step.burst.current] else [])
    episode }

/-- The command that closes a confirmed episode: the burst the step closed and the closing revision
of the step's own burst. That burst is new, and the command of `close_episode_and_optionally_open`
leaves its first revision out; `withOpening` records it too.
mirrors evertrace-engine/src/work/episode.rs:499-583 -/
def closeEpisode (current : WorkEpisode) (step : IncrementalSegmentationStep)
    (exitSnapshot : Option WorktreeSnapshotId) (pinnedReceipts : List CaptureReceipt) (closingRevisionId : RevisionId)
    (withOpening : Bool) : Except WorkIdentityError SegmentationCommand := do
  let episode ← confirmEpisodeBoundary current step exitSnapshot pinnedReceipts
  if step.burst.current.lifecycle != .open_
      || !episode.operationBurstRefs.contains step.burst.current.operationBurstId then .error .invalidInput
  else
    let closing ← (closeBurst step.burst.current closingRevisionId).mapError fun _ => WorkIdentityError.invalidInput
    return {
      bursts := step.burst.closed.toList ++ (if withOpening then [step.burst.current] else []) ++ [closing]
      episode }

/-! ## Recording it -/

/-- The store's projection: the current snapshot and every revision ever recorded. -/
structure Projection where
  current : SegmentationCurrentState
  episodeRevisions : RevisionId → Option WorkEpisode
  burstRevisions : RevisionId → Option OperationBurst

namespace Projection

def insertEpisode (p : Projection) (value : WorkEpisode) : Projection :=
  { p with
    current := { p.current with
      authority := { p.current.authority with
        episode := Function.update p.current.authority.episode value.episodeId (some value) } }
    episodeRevisions := Function.update p.episodeRevisions value.revisionId (some value) }

def insertBurst (p : Projection) (value : OperationBurst) : Projection :=
  { p with
    current := { p.current with bursts := Function.update p.current.bursts value.operationBurstId (some value) }
    burstRevisions := Function.update p.burstRevisions value.revisionId (some value) }

/-- mirrors evertrace-store/src/projections/segmentation.rs:17-45 -/
def recordEpisode (p : Projection) (value : WorkEpisode) : Except StoreError Projection :=
  match p.episodeRevisions value.revisionId with
  | some existing => if existing = value then .ok p else .error .storeCorrupt
  | none =>
    match p.current.episode value.episodeId with
    | none =>
      if !value.validate.isOk || value.revisionGeneration != 1 || value.predecessorRevisionId.isSome then
        .error .storeCorrupt
      else .ok (p.insertEpisode value)
    | some existing =>
      if existing = value then .ok p
      else if (existing.validateSuccessor value).isOk then .ok (p.insertEpisode value)
      else .error .storeCorrupt

/-- mirrors evertrace-store/src/projections/segmentation.rs:48-77 -/
def recordOperationBurst (p : Projection) (value : OperationBurst) : Except StoreError Projection :=
  match p.burstRevisions value.revisionId with
  | some existing => if existing = value then .ok p else .error .storeCorrupt
  | none =>
    match p.current.bursts value.operationBurstId with
    | none =>
      if !value.validate.isOk || value.revisionGeneration != 1 || value.predecessorRevisionId.isSome then
        .error .storeCorrupt
      else .ok (p.insertBurst value)
    | some existing =>
      if existing = value then .ok p
      else if (existing.validateSuccessor value).isOk then .ok (p.insertBurst value)
      else .error .storeCorrupt

/-- Record the bursts, then the episode; every record is one event of the journal. -/
def commit (p : Projection) (command : SegmentationCommand) : Except StoreError Projection := do
  let recorded ← command.bursts.foldlM recordOperationBurst p
  let recorded ← recorded.recordEpisode command.episode
  return { recorded with
    current := { recorded.current with frontier := recorded.current.frontier + command.bursts.length + 1 } }

end Projection

/-! ## What revising and recording establish -/

/-- What a successful revision says about the step and its result. -/
structure Revised (current : WorkEpisode) (step : IncrementalSegmentationStep) (receipts : List CaptureReceipt)
    (confirming : Bool) (exitSnapshot : Option WorktreeSnapshotId) (next : WorkEpisode) : Prop where
  placed : stepMisplaced current step confirming = false
  covered : receiptsMisplaced current step.token receipts = false
  built : ∃ stats summary, deltaStats current.pendingDeltaStats step = some stats ∧
    CaptureSummary.fromReceipts receipts = .ok summary ∧
    next = successor current step receipts confirming exitSnapshot stats summary
  checked : current.Successor next

theorem revise_iff {current next : WorkEpisode} {step : IncrementalSegmentationStep} {receipts : List CaptureReceipt}
    {confirming : Bool} {exitSnapshot : Option WorktreeSnapshotId} :
    reviseEpisodeFromStep current step receipts confirming exitSnapshot = .ok next ↔
      Revised current step receipts confirming exitSnapshot next := by
  unfold reviseEpisodeFromStep
  rw [ite_error_else, Bool.or_eq_true, not_or, Bool.not_eq_true, Bool.not_eq_true]
  simp only [bind_eq_ok, okOr_ok, checkedSucc_eq_some, mapError_ok, pure_eq_ok]
  -- a step leaves the semantic part of the episode alone
  have hchecked : ∀ stats summary,
      current.validateSuccessor (successor current step receipts confirming exitSnapshot stats summary) = .ok () ↔
        current.Successor (successor current step receipts confirming exitSnapshot stats summary) :=
    fun _ _ => WorkEpisode.validateSuccessor_iff rfl rfl
  constructor
  · rintro ⟨⟨hplaced, hcovered⟩, _, _, stats, hstats, summary, hsummary, _, hvalid, hnext⟩
    subst hnext
    exact ⟨hplaced, hcovered, ⟨stats, summary, hstats, hsummary, rfl⟩, (hchecked stats summary).mp hvalid⟩
  · rintro ⟨hplaced, hcovered, ⟨stats, summary, hstats, hsummary, hnext⟩, hvalid⟩
    subst hnext
    exact ⟨⟨hplaced, hcovered⟩, _, ⟨hvalid.room, rfl⟩, stats, hstats, summary, hsummary, (),
      (hchecked stats summary).mpr hvalid, rfl⟩

namespace Projection

theorem recordOperationBurst_ok {p p' : Projection} {value : OperationBurst}
    (h : p.recordOperationBurst value = .ok p') : p' = p ∨ p' = p.insertBurst value := by
  unfold recordOperationBurst at h
  repeat' split at h
  all_goals first
    | cases h; exact .inl rfl
    | cases h; exact .inr rfl
    | cases h

theorem recordEpisode_ok {p p' : Projection} {value : WorkEpisode}
    (h : p.recordEpisode value = .ok p') : p' = p ∨ p' = p.insertEpisode value := by
  unfold recordEpisode at h
  repeat' split at h
  all_goals first
    | cases h; exact .inl rfl
    | cases h; exact .inr rfl
    | cases h

theorem recordBursts_ok {bursts : List OperationBurst} {p p' : Projection}
    (h : bursts.foldlM recordOperationBurst p = .ok p') :
    p'.current.frontier = p.current.frontier ∧ p'.current.authority = p.current.authority ∧
      ∀ id, p'.current.bursts id = p.current.bursts id ∨
        ∃ v ∈ bursts, v.operationBurstId = id ∧ p'.current.bursts id = some v := by
  induction bursts generalizing p with
  | nil =>
    cases h
    exact ⟨rfl, rfl, fun id => .inl rfl⟩
  | cons b rest ih =>
    rw [List.foldlM_cons] at h
    obtain ⟨q, hq, hrest⟩ := bind_eq_ok.mp h
    obtain ⟨hfrontier, hauthority, hbursts⟩ := ih hrest
    rcases recordOperationBurst_ok hq with rfl | rfl
    · refine ⟨hfrontier, hauthority, fun id => (hbursts id).imp_right ?_⟩
      intro ⟨v, hv, hid, hstored⟩
      exact ⟨v, List.mem_cons_of_mem _ hv, hid, hstored⟩
    · refine ⟨hfrontier, hauthority, fun id => ?_⟩
      rcases hbursts id with hsame | ⟨v, hv, hid, hstored⟩
      · by_cases hid : id = b.operationBurstId
        · refine .inr ⟨b, List.mem_cons_self, hid.symm, ?_⟩
          rw [hsame, hid]
          simp [insertBurst]
        · refine .inl ?_
          rw [hsame]
          simp [insertBurst, hid]
      · exact .inr ⟨v, List.mem_cons_of_mem _ hv, hid, hstored⟩

/-- A commit changes the recorded bursts and, if at all, the recorded episode. -/
theorem commit_ok {p p' : Projection} {command : SegmentationCommand} (h : p.commit command = .ok p') :
    p.current.frontier < p'.current.frontier ∧
    (p'.current.authority = p.current.authority ∨
      p'.current.authority = { p.current.authority with
        episode := Function.update p.current.authority.episode command.episode.episodeId (some command.episode) }) ∧
      ∀ id, p'.current.bursts id = p.current.bursts id ∨
        ∃ v ∈ command.bursts, v.operationBurstId = id ∧ p'.current.bursts id = some v := by
  unfold commit at h
  obtain ⟨recorded, hbursts, h⟩ := bind_eq_ok.mp h
  obtain ⟨final, hepisode, h⟩ := bind_eq_ok.mp h
  cases h
  obtain ⟨hfrontier, hauthority, hid⟩ := recordBursts_ok hbursts
  rcases recordEpisode_ok hepisode with rfl | rfl
  · refine ⟨?_, .inl hauthority, hid⟩
    show p.current.frontier < final.current.frontier + command.bursts.length + 1
    omega
  · refine ⟨?_, .inr ?_, hid⟩
    · show p.current.frontier < recorded.current.frontier + command.bursts.length + 1
      omega
    · rw [← hauthority]
      rfl

end Projection

/-! ## Runs -/

/-- Other commands came between: everything may have changed but this episode and its bursts. -/
structure Unchanged (episodeId : WorkEpisodeId) (before after : Projection) : Prop where
  frontier : before.current.frontier ≤ after.current.frontier
  episode : after.current.episode episodeId = before.current.episode episodeId
  bursts : ∀ episode, before.current.episode episodeId = some episode →
    ∀ id ∈ episode.operationBurstRefs, after.current.bursts id = before.current.bursts id

/-- The journal command of a step: an update while the episode stays open, the closing command once the
boundary is confirmed. -/
inductive CommandFor (episode : WorkEpisode) (step : IncrementalSegmentationStep)
    (receipts : List CaptureReceipt) : SegmentationCommand → Prop
  | update {command : SegmentationCommand} (h : saveSegmentationUpdate episode step receipts = .ok command) :
    CommandFor episode step receipts command
  | close {command : SegmentationCommand} (exitSnapshot : Option WorktreeSnapshotId) (closingRevisionId : RevisionId)
      (withOpening : Bool)
      (h : closeEpisode episode step exitSnapshot receipts closingRevisionId withOpening = .ok command) :
    CommandFor episode step receipts command

/-- One full cycle: an operation is observed with a delta, the step's command is committed and the
segmenter acknowledges it. The burst id that `new_v7` draws is not yet in the store. -/
def Cycle (s s' : IncrementalSegmenter) (p p' : Projection) (token : ActivityToken) : Prop :=
  ∃ operationId facts fresh step pendingSegmenter episode receipts command,
    p.current.bursts fresh.burstId = none ∧
    s.observe p.current operationId facts fresh = (.ok (.delta step), pendingSegmenter) ∧
    step.token = token ∧
    p.current.episode s.episodeId = some episode ∧
    CommandFor episode step receipts command ∧
    p.commit command = .ok p' ∧
    pendingSegmenter.acknowledgeCommitted p'.current step = .ok s'

/-- The runs of one segmenter in which every step met `good` when it was taken; the last argument
counts the committed steps. Observations without a delta leave the segmenter as it is. -/
inductive Run (episodeId : WorkEpisodeId) (good : IncrementalSegmenter → ActivityToken → Prop) :
    IncrementalSegmenter → Projection → Nat → Prop
  | start {s : IncrementalSegmenter} {p : Projection} (h : IncrementalSegmenter.new p.current episodeId = .ok s) :
    Run episodeId good s p 0
  | others {s : IncrementalSegmenter} {p p' : Projection} {n : Nat} (hrun : Run episodeId good s p n)
      (h : Unchanged episodeId p p') : Run episodeId good s p' n
  | cycle {s s' : IncrementalSegmenter} {p p' : Projection} {n : Nat} {token : ActivityToken}
      (hrun : Run episodeId good s p n) (hgood : good s token) (h : Cycle s s' p p' token) :
    Run episodeId good s' p' (n + 1)

end EverTrace.L2.Segmentation
