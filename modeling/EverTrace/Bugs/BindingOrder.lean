import EverTrace.L2Machine.ProcedureSearch
import EverTrace.L2Machine.SegmentPerform
/-!
# A search rejects the context it assembled

`route_search_rows` (evertrace-engine/src/procedure/usage.rs:287-460) binds the
phase of the checkpoint and, behind it, the verifier state of the active attempt.
`ConstraintState::validate` wants the fields in the order of the enumeration,
where the verifier state stands before the phase: with an active attempt the
search always ends in `InvalidInput`. Without one it does so where the phase label
is longer than 256 bytes or has a control character, which a phase contract may
have (4096 bytes, evertrace-domain/src/work/workstream.rs:41-54).

Exact condition (`Bindable`): no attempt is active, and the label of the newest
checkpoint, if there is one, is a constraint value.
-/
namespace EverTrace.Bugs.BindingOrder
open EverTrace.Lib EverTrace.L1 EverTrace.L2.Semantic EverTrace.L2.Procedure
open EverTrace.L2.Recall (WorkCheckpoint phaseText hasControl strictlyIncreasing)
open EverTrace.L2.Work (WorkEpisode PhaseKind bounded)
open EverTrace.L2.AttemptRevision (Attempt)

/-- What is assembled passes its own check, and the search goes on with it. -/
def Accepts (compileRows : CompileRows) (view : WorkView) (rows : List SearchRow) (anchor : McpQueryAnchor) : Prop :=
  ∃ constraints, routeConstraints compileRows view rows anchor = .ok (some constraints) ∧ constraints.validate = .ok ()

/-- A label that is a constraint value. -/
def ShortLabel (label : String) : Prop := (utf8 label).length ≤ maxFieldValueBytes ∧ hasControl label = false

/-- No attempt is active, and the label of the newest checkpoint can be bound. -/
def Bindable (compileRows : CompileRows) (view : WorkView) (rows : List SearchRow) (anchor : McpQueryAnchor)
    (episode : WorkEpisode) : Prop :=
  let held := newest view episode (scenarioScope episode anchor) rows
  activeAttempt compileRows view rows episode anchor held = none
    ∧ ∀ checkpoint ∈ held.checkpoint, ShortLabel checkpoint.1.phaseContract.phaseLabel

/-! ## The check of what is bound -/

theorem ne_nil_of_bounded {label : String} (h : bounded label = true) : utf8 label ≠ [] := by
  intro hnil
  rw [utf8_eq_nil.mp hnil] at h
  revert h
  decide

theorem validate_phaseText (kind : PhaseKind) : (ConstraintValue.text (phaseText kind)).validate = .ok () := by
  cases kind <;> decide +kernel

theorem validate_label {label : String} (h : bounded label = true) :
    (ConstraintValue.text label).validate = .ok () ↔ ShortLabel label := by
  unfold ConstraintValue.validate ShortLabel
  rw [ite_error_ok]
  have hne := ne_nil_of_bounded h
  constructor
  · intro hnone
    refine ⟨?_, ?_⟩
    · by_contra hlong
      exact hnone (.inr (.inl (by omega)))
    · by_contra hcontrol
      exact hnone (.inr (.inr (Bool.not_eq_false _ ▸ hcontrol)))
  · rintro ⟨hshort, hcontrol⟩ (hnil | hlong | hctl)
    · exact hne hnil
    · omega
    · rw [hcontrol] at hctl
      cases hctl

theorem bounded_label {checkpoint : WorkCheckpoint} (h : checkpoint.validate = .ok ()) :
    bounded checkpoint.phaseContract.phaseLabel = true := by
  unfold WorkCheckpoint.validate at h
  obtain ⟨u, hcontract, -⟩ := bind_eq_ok.mp h
  unfold L2.Work.PhaseContract.validate at hcontract
  rw [ite_error_ok] at hcontract
  simp only [Bool.or_eq_true, Bool.not_eq_true', not_or, Bool.not_eq_false] at hcontract
  exact hcontract.1.1.1.1.2

/-- A checkpoint alone is bound in order; its label decides. -/
theorem validate_checkpoint {checkpoint : WorkCheckpoint} (h : checkpoint.validate = .ok ()) :
    (ConstraintState.mk (checkpointBindings checkpoint)).validate = .ok () ↔
      ShortLabel checkpoint.phaseContract.phaseLabel := by
  rw [← validate_label (bounded_label h)]
  unfold ConstraintState.validate checkpointBindings
  have hordered : (decide (3 ≤ maxExprNodes) && strictlyIncreasing
      [ConstraintField.phaseKind, .revisionActive, .phase]) = true := by decide
  have hensure : ensure SemanticError.invalidConstraintState (decide (3 ≤ maxExprNodes) && strictlyIncreasing
      [ConstraintField.phaseKind, .revisionActive, .phase]) = .ok () := ensure_ok.mpr hordered
  change (ensure SemanticError.invalidConstraintState (decide (3 ≤ maxExprNodes) && strictlyIncreasing
      [ConstraintField.phaseKind, .revisionActive, .phase]) >>= fun _ => _) = .ok () ↔ _
  rw [hensure, ok_bind, forM_eq_ok]
  simp only [List.forall_mem_cons, validate_phaseText, ok_bind]
  constructor
  · rintro ⟨-, -, hlabel, -⟩
    obtain ⟨u, hvalid, -⟩ := bind_eq_ok.mp hlabel
    exact hvalid
  · intro hlabel
    refine ⟨rfl, rfl, ?_, by simp⟩
    rw [hlabel, ok_bind]
    rfl

/-- Behind the phase the verifier state is out of order. -/
theorem validate_attempt {checkpoint : WorkCheckpoint} {attempt : Attempt} :
    (ConstraintState.mk (checkpointBindings checkpoint ++ attemptBindings attempt)).validate ≠ .ok () := by
  intro h
  unfold ConstraintState.validate at h
  obtain ⟨hordered, -⟩ := ensure_bind_ok.mp h
  rw [Bool.and_eq_true] at hordered
  have hstrict := hordered.2
  have hfields : ((checkpointBindings checkpoint ++ attemptBindings attempt).map ConstraintBinding.field) =
      .phaseKind :: .revisionActive :: .phase :: .verifierState ::
        (attempt.failureSignature.toList.map fun _ => ConstraintField.failureSignature) := by
    cases hsignature : attempt.failureSignature <;> simp [checkpointBindings, attemptBindings, hsignature]
  dsimp only at hstrict
  rw [hfields] at hstrict
  have hnot : decide (ConstraintField.phase < ConstraintField.verifierState) = false := by decide
  rw [strictlyIncreasing, strictlyIncreasing, strictlyIncreasing, hnot, Bool.false_and, Bool.and_false,
    Bool.and_false] at hstrict
  cases hstrict

/-! ## When a search accepts what it assembled -/

section Search
variable {compileRows : CompileRows} {view : WorkView} {rows : List SearchRow} {anchor : McpQueryAnchor}
  {episode : WorkEpisode}

/-- Without a checkpoint the scenario is not fresh. -/
theorem activeAttempt_of_none {held : Held} (h : held.checkpoint = none) :
    activeAttempt compileRows view rows episode anchor held = none := by
  unfold activeAttempt scenarioFresh
  rw [h]
  rfl

theorem accepts_iff_validate (hepisode : anchoredEpisode view anchor = some episode) (hrows : Decoded rows) :
    Accepts compileRows view rows anchor ↔
      (searchState (newest view episode (scenarioScope episode anchor) rows)
        (activeAttempt compileRows view rows episode anchor
          (newest view episode (scenarioScope episode anchor) rows))).validate = .ok () := by
  unfold Accepts
  rw [routeConstraints_eq hepisode hrows]
  dsimp only
  constructor
  · rintro ⟨constraints, hroute, hvalid⟩
    obtain ⟨u, hchecked, -⟩ := bind_eq_ok.mp hroute
    exact mapError_ok.mp hchecked
  · intro hvalid
    refine ⟨_, ?_, hvalid⟩
    rw [mapError_ok.mpr hvalid, ok_bind]
    rfl

/-- **A search accepts the context that it assembled if and only if no attempt is active and the phase label can be
bound.** -/
theorem accepts_iff (compileRows : CompileRows) (view : WorkView) (rows : List SearchRow) (anchor : McpQueryAnchor)
    (episode : WorkEpisode) (hepisode : anchoredEpisode view anchor = some episode) (hrows : Decoded rows) :
    Accepts compileRows view rows anchor ↔ Bindable compileRows view rows anchor episode := by
  rw [accepts_iff_validate hepisode hrows]
  unfold Bindable
  dsimp only
  generalize hheld : newest view episode (scenarioScope episode anchor) rows = held
  cases hcheckpoint : held.checkpoint with
  | none =>
    rw [activeAttempt_of_none hcheckpoint]
    unfold searchState
    rw [hcheckpoint]
    exact iff_of_true rfl ⟨rfl, by rintro _ ⟨⟩⟩
  | some checkpoint =>
    have hvalid : checkpoint.1.validate = .ok () := newest_valid hrows (hheld ▸ hcheckpoint)
    cases hattempt : activeAttempt compileRows view rows episode anchor held with
    | none =>
      have hstate : searchState held none = ⟨checkpointBindings checkpoint.1⟩ := by
        simp [searchState, hcheckpoint]
      rw [hstate, validate_checkpoint hvalid]
      simp
    | some attempt =>
      have hstate : searchState held (some attempt) = ⟨checkpointBindings checkpoint.1 ++ attemptBindings attempt⟩ := by
        simp [searchState, hcheckpoint]
      rw [hstate]
      exact iff_of_false validate_attempt fun h => by cases h.1

end Search

/-! ## An active attempt, and a long label -/

def sampleTask : TaskId := ⟨0x70008000000000000012⟩

def sampleWorkstream : WorkstreamId := ⟨0x70008000000000000013⟩

def sampleEpisodeId : WorkEpisodeId := ⟨0x70008000000000000010⟩

def sampleRepository : RepositoryId := ⟨0x70008000000000000020⟩

def sampleWorktree : WorktreeId := ⟨0x70008000000000000030⟩

/-- The checkpoint of an episode with one active attempt. -/
def sampleCheckpoint (label : String) : WorkCheckpoint where
  episodeId := sampleEpisodeId
  episodeRevisionId := ⟨0x70008000000000000011⟩
  sourceWatermark := 4
  activeAttemptIds := [⟨0x70008000000000000001⟩]
  attemptRevisionRefs := [toLex (⟨0x70008000000000000001⟩, ⟨0x70008000000000000002⟩)]
  phaseContract := ⟨"g", .implement, label, [], [], "a", "t"⟩
  openLoops := []
  verifierState := .unverified
  verifierRefs := []
  currentWorktreeSnapshotId := none
  createdReason := .stop
  continuationCandidate := false
  activeLineageRefs := []
  captureReceiptRevisionIds := []
  captureGapRefs := []
  captureOutageRefs := []
  algorithmRevision := 1

def sampleEpisode (label : String) : WorkEpisode :=
  { L2.Segmentation.sampleEpisode with
    episodeId := sampleEpisodeId
    revisionId := ⟨0x70008000000000000011⟩
    taskId := sampleTask
    workstreamId := sampleWorkstream
    phaseContract := ⟨"g", .implement, label, [], [], "a", "t"⟩
    sourceWatermark := 4
    attemptIds := [⟨0x70008000000000000001⟩]
    checkpointRefs := [(sampleCheckpoint label).stableKey] }

def sampleAttempt : Attempt :=
  { L2.AttemptRevision.sampleAttempt ⟨List.replicate 32 0, length_zeros⟩ with
    attemptId := ⟨0x70008000000000000001⟩
    revisionId := ⟨0x70008000000000000002⟩
    taskId := sampleTask
    workstreamId := sampleWorkstream
    episodeId := some sampleEpisodeId
    repositoryInstanceId := some sampleRepository
    worktreeInstanceIds := [sampleWorktree] }

/-- The scenario that names the attempt as the active one. -/
def sampleScenario : Scenario where
  -- the SHA-256 scenario id of the scope
  scenarioId := ⟨0xb93b7da4dfeb9eedf03058af53553f17e019402b33a81df953a23437507eabf5⟩
  revisionId := ⟨0x70008000000000000040⟩
  predecessorRevisionId := none
  revisionGeneration := 1
  scope := ⟨sampleTask, some sampleRepository, some sampleWorktree⟩
  activeWorktreeSnapshotId := none
  worktreeLineageRefs := []
  status := .active
  goal := "g"
  currentState := []
  activeLineage := ⟨some sampleWorkstream, some sampleEpisodeId, some ⟨0x70008000000000000001⟩, []⟩
  activeWorkstreams := [⟨sampleWorkstream, .implement, some sampleEpisodeId⟩]
  runningExperimentRefs := []
  constraints := []
  decisions := []
  openLoops := []
  activeFailures := []
  completedOutcomes := []
  relevantArtifacts := []
  supportAtomIds := []
  sourceWatermark := 4

def sampleView (label : String) : WorkView where
  episodes := OrdMap.empty.insert ⟨0x70008000000000000011⟩ (sampleEpisode label)
  currentEpisodeRevisions := OrdMap.empty.insert sampleEpisodeId ⟨0x70008000000000000011⟩
  attempts := OrdMap.empty.insert ⟨0x70008000000000000001⟩ sampleAttempt

def sampleAnchor : McpQueryAnchor :=
  ⟨some sampleTask, some sampleWorkstream, some ⟨0x70008000000000000011⟩, some sampleRepository, some sampleWorktree⟩

def checkpointRow (label : String) : SearchRow :=
  ⟨some "work_checkpoint", some (.workCheckpointRecorded (sampleCheckpoint label)), 7⟩

def scenarioRow : SearchRow := ⟨some "scenario", some (.scenarioRecorded sampleScenario), 8⟩

def upToDate : CompileRows := fun _ _ _ => .ok none

def longLabel : String := String.ofList (List.replicate 257 'p')

theorem not_accepts {compileRows : CompileRows} {view : WorkView} {rows : List SearchRow} {anchor : McpQueryAnchor}
    (h : (routeConstraints compileRows view rows anchor).isOk = false) : ¬Accepts compileRows view rows anchor := by
  rintro ⟨constraints, hroute, -⟩
  rw [hroute] at h
  cases h

theorem anchoredEpisode_sample (label : String) :
    anchoredEpisode (sampleView label) sampleAnchor = some (sampleEpisode label) := by
  rfl

theorem decoded_checkpoint {label : String} (h : (sampleCheckpoint label).validate = .ok ()) :
    Decoded [checkpointRow label] := by
  refine ⟨fun row hrow _ hnone => ?_, fun row hrow value hvalue => ?_⟩
  · rw [List.mem_singleton.mp hrow] at hnone
    cases hnone
  · rw [List.mem_singleton.mp hrow] at hvalue
    cases hvalue
    exact h

theorem decoded_scenario {rows : List SearchRow} (h : Decoded rows) : Decoded (scenarioRow :: rows) := by
  refine ⟨fun row hrow hkind hnone => ?_, fun row hrow value hvalue => ?_⟩
  · rcases List.mem_cons.mp hrow with rfl | hrow
    · cases hnone
    · exact h.1 row hrow hkind hnone
  · rcases List.mem_cons.mp hrow with rfl | hrow
    · cases hvalue
    · exact h.2 row hrow value hvalue

theorem validate_sampleCheckpoint : (sampleCheckpoint "p").validate = .ok () := by decide +kernel

theorem validate_longCheckpoint : (sampleCheckpoint longLabel).validate = .ok () := by decide +kernel

/-- A search with an active attempt, and one with a long phase label and no scenario: both name an open episode and
read decoded rows, and both are rejected. -/
theorem context_rejected :
    (anchoredEpisode (sampleView "p") sampleAnchor = some (sampleEpisode "p")
      ∧ Decoded [scenarioRow, checkpointRow "p"]
      ∧ ¬Accepts upToDate (sampleView "p") [scenarioRow, checkpointRow "p"] sampleAnchor)
    ∧ anchoredEpisode (sampleView longLabel) sampleAnchor = some (sampleEpisode longLabel)
      ∧ Decoded [checkpointRow longLabel]
      ∧ ¬Accepts upToDate (sampleView longLabel) [checkpointRow longLabel] sampleAnchor :=
  ⟨⟨anchoredEpisode_sample "p", decoded_scenario (decoded_checkpoint validate_sampleCheckpoint),
      not_accepts (by decide +kernel)⟩,
    anchoredEpisode_sample longLabel, decoded_checkpoint validate_longCheckpoint, not_accepts (by decide +kernel)⟩

/-- Without the scenario no attempt is active, and the short label is accepted. -/
theorem accepts_iff_sample : Accepts upToDate (sampleView "p") [checkpointRow "p"] sampleAnchor := by
  refine (accepts_iff upToDate (sampleView "p") [checkpointRow "p"] sampleAnchor (sampleEpisode "p")
    (anchoredEpisode_sample _) (decoded_checkpoint validate_sampleCheckpoint)).mpr ⟨by decide +kernel, ?_⟩
  intro checkpoint hcheckpoint
  have hlabel : (newest (sampleView "p") (sampleEpisode "p") (scenarioScope (sampleEpisode "p") sampleAnchor)
      [checkpointRow "p"]).checkpoint.map (fun checkpoint => checkpoint.1.phaseContract.phaseLabel) = some "p" := by
    decide +kernel
  rw [Option.mem_def.mp hcheckpoint] at hlabel
  have hphase : checkpoint.1.phaseContract.phaseLabel = "p" := Option.some.inj hlabel
  rw [hphase]
  unfold ShortLabel
  decide +kernel

end EverTrace.Bugs.BindingOrder
