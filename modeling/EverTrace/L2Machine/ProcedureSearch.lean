import EverTrace.Lib.Least
import EverTrace.L2Machine.Attempt
import EverTrace.L2Machine.RecallDetector
import EverTrace.L2Machine.ScenarioCore
import EverTrace.L2Machine.WorkEpisode
/-!
# The context of a procedure search (`evertrace-engine/src/procedure/usage.rs:287-437`)

A search for procedures is made from where the work stands: the open episode it
is anchored at, the newest checkpoint of that episode and the scenario of its
scope. From these `routeConstraints` assembles the state that the conditions of
the procedures are evaluated in, and checks it.

The rows are taken as they decode. Whether the scenario is up to date is what
`ScenarioCompiler::compile_rows` says: it is a parameter, and nothing is assumed of it.

Result: `routeConstraints_eq`, what is assembled from rows that decode and whose
checkpoints are valid.
-/
namespace EverTrace.L2.Procedure
open EverTrace.Lib EverTrace.L1 EverTrace.L2.Semantic
open EverTrace.L2.Recall (WorkCheckpoint phaseText)
open EverTrace.L2.Work (WorkEpisode EpisodeLifecycle)
open EverTrace.L2.AttemptRevision (Attempt AttemptLifecycleStatus AttemptVerification)

/-- mirrors evertrace-engine/src/semantic.rs:38-49 -/
inductive SemanticServiceError where
  | invalidInput
  | immutableConflict
  | baseConflict
  | unsupportedTarget
  | store
  deriving DecidableEq, Repr

/-- What a row decodes to: `JournalPayload` with the two kinds the search reads. -/
inductive RowPayload where
  | workCheckpointRecorded (value : WorkCheckpoint)
  | scenarioRecorded (value : Scenario)
  | other

/-- The columns that are read. The payload is `none` where the row has none or it does not decode. -/
structure SearchRow where
  objectKind : Option String
  payload : Option RowPayload
  sourceEventSeq : Nat

/-- The maps of `ProcedureUsageCurrentView` that are read.
mirrors evertrace-engine/src/procedure/usage.rs:33-70 -/
structure WorkView where
  episodes : OrdMap RevisionId WorkEpisode
  currentEpisodeRevisions : OrdMap WorkEpisodeId RevisionId
  attempts : OrdMap AttemptId Attempt

/-- mirrors evertrace-engine/src/service/scope.rs:15-26 -/
structure McpQueryAnchor where
  taskId : Option TaskId
  workstreamId : Option WorkstreamId
  episodeRevisionId : Option RevisionId
  repositoryId : Option RepositoryId
  worktreeId : Option WorktreeId

/-- The open episode that the anchor names.
mirrors evertrace-engine/src/procedure/usage.rs:298-307 -/
def anchoredEpisode (view : WorkView) (anchor : McpQueryAnchor) : Option WorkEpisode :=
  (anchor.episodeRevisionId.bind view.episodes.get).filter fun episode =>
    some episode.taskId == anchor.taskId
      && some episode.workstreamId == anchor.workstreamId
      && view.currentEpisodeRevisions.get episode.episodeId == some episode.revisionId
      && episode.lifecycleStatus == .open_

/-- mirrors evertrace-engine/src/procedure/usage.rs:314-318 -/
def scenarioScope (episode : WorkEpisode) (anchor : McpQueryAnchor) : ScenarioScope :=
  ⟨episode.taskId, anchor.repositoryId, anchor.worktreeId⟩

/-- mirrors evertrace-engine/src/procedure/usage.rs:335-348 -/
def ofEpisode (view : WorkView) (episode : WorkEpisode) (value : WorkCheckpoint) : Bool :=
  value.episodeId == episode.episodeId
    && value.sourceWatermark.toNat == episode.sourceWatermark
    && episode.checkpointRefs.contains value.stableKey
    && value.phaseContract == episode.phaseContract
    && value.attemptRevisionRefs.length == episode.attemptIds.length
    && value.attemptRevisionRefs.all fun reference =>
      episode.attemptIds.contains (ofLex reference).1
        && (view.attempts.get (ofLex reference).1).any fun attempt => attempt.revisionId == (ofLex reference).2

/-- The checkpoint with the sequence of its row, and the scenario, that the loop holds. -/
structure Held where
  checkpoint : Option (WorkCheckpoint × Nat)
  scenario : Option Scenario

/-- mirrors evertrace-engine/src/procedure/usage.rs:321-326 -/
def searchKind (row : SearchRow) : Bool :=
  row.objectKind == some "work_checkpoint" || row.objectKind == some "scenario"

/-- One pass of the loop over the rows.
mirrors evertrace-engine/src/procedure/usage.rs:327-369 -/
def readRow (view : WorkView) (episode : WorkEpisode) (scope : ScenarioScope) (held : Held) (row : SearchRow) :
    Except SemanticServiceError Held := do
  let payload ← okOr .invalidInput row.payload
  match payload with
  | .workCheckpointRecorded value =>
    if ofEpisode view episode value then do
      value.validate.mapError fun _ => .invalidInput
      return { held with checkpoint := newer Prod.snd held.checkpoint (value, row.sourceEventSeq) }
    else return held
  | .scenarioRecorded value =>
    if value.scope == scope then return { held with scenario := newer Scenario.revisionGeneration held.scenario value }
    else return held
  | .other => return held

/-- mirrors evertrace-engine/src/procedure/usage.rs:319-370 -/
def readRows (view : WorkView) (episode : WorkEpisode) (scope : ScenarioScope) (rows : List SearchRow) :
    Except SemanticServiceError Held :=
  (rows.filter searchKind).foldlM (readRow view episode scope) ⟨none, none⟩

/-- `ScenarioCompiler::compile_rows` on the rows of the search: the scenario as it would have to be recorded,
`none` where the recorded one is up to date. -/
abbrev CompileRows := List SearchRow → ScenarioScope → Scenario → Except SemanticServiceError (Option Scenario)

/-- mirrors evertrace-engine/src/procedure/usage.rs:371-381 -/
def scenarioFresh (compileRows : CompileRows) (rows : List SearchRow) (scope : ScenarioScope) (episode : WorkEpisode)
    (held : Held) : Bool :=
  held.checkpoint.isSome && held.scenario.any fun scenario =>
    scenario.activeLineage.activeEpisodeId == some episode.episodeId
      && match compileRows rows scope scenario with
        | .ok update => update.isNone
        | .error _ => false

/-- mirrors evertrace-engine/src/procedure/usage.rs:391-403 -/
def isActiveAttempt (episode : WorkEpisode) (anchor : McpQueryAnchor) (checkpoint : WorkCheckpoint) (attempt : Attempt) :
    Bool :=
  checkpoint.activeAttemptIds == [attempt.attemptId]
    && (checkpoint.attemptRevisionRefs.any fun reference =>
      (ofLex reference).1 == attempt.attemptId && (ofLex reference).2 == attempt.revisionId)
    && attempt.taskId == episode.taskId
    && attempt.workstreamId == episode.workstreamId
    && attempt.episodeId == some episode.episodeId
    && attempt.repositoryInstanceId == anchor.repositoryId
    && anchor.worktreeId.any attempt.worktreeInstanceIds.contains
    && attempt.lifecycleStatus == .active

/-- The attempt that a fresh scenario names, where the checkpoint agrees.
mirrors evertrace-engine/src/procedure/usage.rs:383-406 -/
def activeAttempt (compileRows : CompileRows) (view : WorkView) (rows : List SearchRow) (episode : WorkEpisode)
    (anchor : McpQueryAnchor) (held : Held) : Option Attempt :=
  if scenarioFresh compileRows rows (scenarioScope episode anchor) episode held then
    ((held.scenario.bind fun scenario => scenario.activeLineage.activeAttemptId).bind view.attempts.get).filter fun attempt =>
      held.checkpoint.any fun checkpoint => isActiveAttempt episode anchor checkpoint.1 attempt
  else none

/-- mirrors evertrace-engine/src/procedure/usage.rs:433-439 -/
def verificationText : AttemptVerification → String
  | .unverified => "unverified"
  | .passed => "passed"
  | .failed => "failed"
  | .inconclusive => "inconclusive"

/-- mirrors evertrace-engine/src/procedure/usage.rs:410-427 -/
def checkpointBindings (checkpoint : WorkCheckpoint) : List ConstraintBinding :=
  [⟨.phaseKind, .text (phaseText checkpoint.phaseContract.phaseKind)⟩,
    ⟨.revisionActive, .boolean true⟩,
    ⟨.phase, .text checkpoint.phaseContract.phaseLabel⟩]

/-- mirrors evertrace-engine/src/procedure/usage.rs:430-447 -/
def attemptBindings (attempt : Attempt) : List ConstraintBinding :=
  ⟨.verifierState, .text (verificationText attempt.verification)⟩ ::
    (attempt.failureSignature.toList.map fun signature => ⟨.failureSignature, .text signature⟩)

/-- The bindings in the order in which they are added. -/
def searchState (held : Held) (attempt : Option Attempt) : ConstraintState :=
  ⟨(held.checkpoint.toList.flatMap fun checkpoint => checkpointBindings checkpoint.1)
    ++ attempt.toList.flatMap attemptBindings⟩

/-- The constraints of a search, `none` where no open episode is named.
mirrors evertrace-engine/src/procedure/usage.rs:287-451 -/
def routeConstraints (compileRows : CompileRows) (view : WorkView) (rows : List SearchRow) (anchor : McpQueryAnchor) :
    Except SemanticServiceError (Option ConstraintState) := do
  match anchoredEpisode view anchor with
  | none => return none
  | some episode => do
    let held ← readRows view episode (scenarioScope episode anchor) rows
    let constraints := searchState held (activeAttempt compileRows view rows episode anchor held)
    constraints.validate.mapError fun _ => .invalidInput
    return some constraints

/-! ## What the rows hold -/

section Rows
variable {view : WorkView} {episode : WorkEpisode} {scope : ScenarioScope} {rows : List SearchRow}

/-- The checkpoint of the episode that a row holds, with the sequence of the row. -/
def rowCheckpoint (view : WorkView) (episode : WorkEpisode) (row : SearchRow) : Option (WorkCheckpoint × Nat) :=
  match row.payload with
  | some (.workCheckpointRecorded value) => if ofEpisode view episode value then some (value, row.sourceEventSeq) else none
  | _ => none

/-- The scenario of the scope that a row holds. -/
def rowScenario (scope : ScenarioScope) (row : SearchRow) : Option Scenario :=
  match row.payload with
  | some (.scenarioRecorded value) => if value.scope == scope then some value else none
  | _ => none

/-- The newest checkpoint of the episode and the newest scenario of the scope. -/
def newest (view : WorkView) (episode : WorkEpisode) (scope : ScenarioScope) (rows : List SearchRow) : Held where
  checkpoint := latest Prod.snd ((rows.filter searchKind).filterMap (rowCheckpoint view episode))
  scenario := latest Scenario.revisionGeneration ((rows.filter searchKind).filterMap (rowScenario scope))

/-- The rows of the two kinds decode, and those that hold a checkpoint hold a valid one. -/
structure Decoded (rows : List SearchRow) : Prop where
  payload : ∀ row ∈ rows, searchKind row = true → row.payload ≠ none
  valid : ∀ row ∈ rows, ∀ value, row.payload = some (.workCheckpointRecorded value) → value.validate = .ok ()

theorem readRow_eq {held : Held} {row : SearchRow} (hpayload : row.payload ≠ none)
    (hvalid : ∀ value, row.payload = some (.workCheckpointRecorded value) → value.validate = .ok ()) :
    readRow view episode scope held row =
      .ok ⟨(rowCheckpoint view episode row).elim held.checkpoint (newer Prod.snd held.checkpoint),
        (rowScenario scope row).elim held.scenario (newer Scenario.revisionGeneration held.scenario)⟩ := by
  unfold readRow rowCheckpoint rowScenario
  cases hrow : row.payload with
  | none => exact absurd hrow hpayload
  | some payload =>
    cases payload with
    | workCheckpointRecorded value =>
      dsimp only [okOr, bind, Except.bind]
      split
      · rw [hvalid value hrow]
        rfl
      · rfl
    | scenarioRecorded value =>
      dsimp only [okOr, bind, Except.bind]
      split <;> rfl
    | other => rfl

theorem readRows_eq (h : Decoded rows) :
    readRows view episode scope rows = .ok (newest view episode scope rows) := by
  unfold readRows newest
  have hrows : ∀ row ∈ rows.filter searchKind, row.payload ≠ none
      ∧ ∀ value, row.payload = some (.workCheckpointRecorded value) → value.validate = .ok () := by
    intro row hrow
    obtain ⟨hmem, hkind⟩ := List.mem_filter.mp hrow
    exact ⟨h.payload row hmem hkind, h.valid row hmem⟩
  generalize rows.filter searchKind = found at hrows ⊢
  induction found using List.reverseRecOn with
  | nil => rfl
  | append_singleton found row ih =>
    have hlast := hrows row (List.mem_append_right found (List.mem_singleton_self row))
    rw [List.foldlM_append, ih fun r hr => hrows r (List.mem_append_left [row] hr), ok_bind, List.foldlM_cons,
      readRow_eq hlast.1 hlast.2, ok_bind, List.foldlM_nil, List.filterMap_append, List.filterMap_append]
    cases hcheckpoint : rowCheckpoint view episode row <;> cases hscenario : rowScenario scope row <;>
      simp [hcheckpoint, hscenario, latest_append_singleton, pure, Except.pure]

/-- What is assembled where an open episode is named and the rows decode: the check is all that is left. -/
theorem routeConstraints_eq {compileRows : CompileRows} {anchor : McpQueryAnchor} (hepisode : anchoredEpisode view anchor = some episode)
    (h : Decoded rows) :
    routeConstraints compileRows view rows anchor = (do
      let held := newest view episode (scenarioScope episode anchor) rows
      let constraints := searchState held (activeAttempt compileRows view rows episode anchor held)
      constraints.validate.mapError fun _ => .invalidInput
      return some constraints) := by
  unfold routeConstraints
  rw [hepisode]
  dsimp only
  rw [readRows_eq h, ok_bind]

/-- The checkpoint that is held is one of the rows', and valid as they are. -/
theorem newest_valid (h : Decoded rows) {checkpoint : WorkCheckpoint × Nat}
    (hc : (newest view episode scope rows).checkpoint = some checkpoint) : checkpoint.1.validate = .ok () := by
  obtain ⟨row, hrow, heq⟩ := List.mem_filterMap.mp (mem_of_latest hc)
  unfold rowCheckpoint at heq
  split at heq
  · next value hpayload =>
    split at heq
    · cases heq
      exact h.valid row (List.mem_of_mem_filter hrow) value hpayload
    · cases heq
  · cases heq

end Rows

end EverTrace.L2.Procedure
