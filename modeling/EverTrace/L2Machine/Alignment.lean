import EverTrace.L2Machine.Draft
/-!
# Procedure alignment (`evertrace-engine/src/procedure/alignment.rs`)

A trace is a list of frames, each a constraint state with the sequence number it
was taken at. `alignWithWindows` follows the steps of a procedure through it: it
looks for the entry of a step, then for its completion; while the step runs, a
branch of recovery steps may be entered, once or several times, and is followed
to its end first. What was completed is written down as windows of sequence
numbers.

An index that is out of range panics in the source and is the fault `outOfRange`
here. The inner loop has no bound in the source; here it has a budget of one turn
for each frame and one more, and `outOfFuel` is the fault of a loop that needs
more.

The source references of a frame are not read by the alignment.
-/
namespace EverTrace.L2.Alignment
open EverTrace.Lib EverTrace.L2.Semantic

/-- mirrors evertrace-engine/src/procedure.rs:1090-1097 -/
inductive ProcedurePhase where
  | beforeEntry
  | atEntry
  | inProgress
  | recoverableDeviation
  | alreadyCompleted
  | incompatible
  deriving DecidableEq, Repr

theorem ProcedurePhase.ctorIdx_injective : Function.Injective ProcedurePhase.ctorIdx := by
  intro a b h
  cases a <;> cases b <;> first | rfl | cases h

/-- mirrors evertrace-engine/src/procedure/alignment.rs:17-25 -/
structure StageFrame where
  state : ConstraintState
  sequence : Nat
  verifierWitness : Option Nat
  deriving DecidableEq

/-- mirrors evertrace-engine/src/procedure/alignment.rs:27-31 -/
structure StageTrace where
  frames : List StageFrame
  truncated : Bool
  deriving DecidableEq

/-- mirrors evertrace-engine/src/procedure/alignment.rs:33-39 -/
structure ActionWindow where
  text : String
  afterSequence : Nat
  beforeSequence : Option Nat
  deriving DecidableEq

/-- The triple that an alignment returns. -/
structure Aligned where
  phase : ProcedurePhase
  actions : ProcedureActions
  windows : List ActionWindow
  deriving DecidableEq

inductive AlignFault where
  | outOfRange
  | outOfFuel
  deriving DecidableEq, Repr

/-- A part of the work either ends the alignment or hands a result on. -/
inductive Next (α : Type) where
  | done (result : Option Aligned)
  | go (value : α)

/-- `values[index]` -/
def indexed {α : Type} (values : List α) (index : Nat) : Except AlignFault α := okOr .outOfRange values[index]?

namespace StageTrace

/-- The indices `first..self.frames.len()`. -/
def indices (t : StageTrace) (first : Nat) : List Nat := List.range' first (t.frames.length - first)

/-- `index.checked_sub(1).map(|prior| &self.frames[prior].state)` -/
def previousOf (t : StageTrace) : Nat → Except AlignFault (Option ConstraintState)
  | 0 => return none
  | prior + 1 => do
    let frame ← indexed t.frames prior
    return some frame.state

/-- An expression at a frame. -/
def evaluateAt (t : StageTrace) (expr : ConstraintExpr) (index : Nat) : Except AlignFault ConstraintTruth := do
  let frame ← indexed t.frames index
  let previous ← t.previousOf index
  return expr.evaluate frame.state previous

/-! ## Searches -/

def entryIn (t : StageTrace) (step : ProcedureStepAlignment) : List Nat → Except AlignFault (Option Nat)
  | [] => return none
  | index :: rest => do
    let value ← t.evaluateAt step.entry index
    if value = .true_ then return some index else t.entryIn step rest

/-- mirrors evertrace-engine/src/procedure/alignment.rs:559-566 -/
def entry (t : StageTrace) (step : ProcedureStepAlignment) (first : Nat) : Except AlignFault (Option Nat) :=
  t.entryIn step (t.indices first)

/-- `state` without its verifier binding. -/
def withoutVerifier (state : ConstraintState) : ConstraintState :=
  ⟨state.bindings.filter fun binding => binding.field != .verifierState⟩

/-- The loop of `completed`; `seen` is `seen_not_complete`.
mirrors evertrace-engine/src/procedure/alignment.rs:570-606 -/
def completedIn (t : StageTrace) (step : ProcedureStepAlignment) (entry first : Nat) (seen : Bool) :
    List Nat → Except AlignFault (Option Nat)
  | [] => return none
  | index :: rest => do
    let value ← t.evaluateAt step.completed index
    let seen := seen || value == .false_
    let frame ← indexed t.frames index
    let entryFrame ← indexed t.frames entry
    let freshVerifier := frame.verifierWitness.any (entryFrame.sequence < ·)
    let previous ← t.previousOf index
    let newPositive := freshVerifier && value == .true_
      && step.completed.evaluate (withoutVerifier frame.state) previous != .true_
    if entry < index && first ≤ index && (seen || newPositive) && value == .true_
        && (!step.completed.referencedFields.contains .verifierState || freshVerifier) then
      return some index
    else t.completedIn step entry first seen rest

/-- mirrors evertrace-engine/src/procedure/alignment.rs:568-607 -/
def completed (t : StageTrace) (step : ProcedureStepAlignment) (entry first : Nat) :
    Except AlignFault (Option Nat) :=
  t.completedIn step entry first false (t.indices entry)

/-- mirrors evertrace-engine/src/procedure/alignment.rs:321-326 -/
def current (t : StageTrace) : Option ConstraintState := t.frames.getLast?.map StageFrame.state

def previous (t : StageTrace) : Option ConstraintState := (t.frames.dropLast).getLast?.map StageFrame.state

/-- mirrors evertrace-engine/src/procedure/alignment.rs:609-622 -/
def position (t : StageTrace) (step : ProcedureStepAlignment) : Option ProcedurePhase := do
  let current ← t.current
  if step.completed.evaluate current t.previous ≠ .false_ then none
  else if step.progress.evaluate current t.previous = .true_ then some .inProgress
  else if step.entry.evaluate current t.previous = .true_ then some .atEntry
  else none

/-- mirrors evertrace-engine/src/procedure/alignment.rs:422-428 -/
def actionWindow (t : StageTrace) (text : String) (entry : Nat) (completed : Option Nat) :
    Except AlignFault ActionWindow := do
  let after ← indexed t.frames entry
  match completed with
  | none => return ⟨text, after.sequence, none⟩
  | some index => do
    let before ← indexed t.frames index
    return ⟨text, after.sequence, some before.sequence⟩

end StageTrace

section Align

variable (t : StageTrace) (draft : ProcedureDraft)

/-! ## Branches -/

/-- The branches of a main step whose condition holds at a frame; `none` when one is unknown.
mirrors evertrace-engine/src/procedure/alignment.rs:470-486 -/
def matchBranches (mainIndex index : Nat) : List (ProcedureBranchAlignment × Nat) →
    Except AlignFault (Option (List (ProcedureBranchAlignment × Nat)))
  | [] => return some []
  | (branch, branchIndex) :: rest =>
    if branch.atMainStep ≠ mainIndex then matchBranches mainIndex index rest
    else do
      let actions ← indexed draft.actions.branches branchIndex
      let condition ← t.evaluateAt actions.condition index
      match condition with
      | .true_ => do
        let found ← matchBranches mainIndex index rest
        return found.map ((branch, branchIndex) :: ·)
      | .unknown => return none
      | .false_ => matchBranches mainIndex index rest

structure Selected where
  index : Nat
  branchIndex : Nat
  branch : ProcedureBranchAlignment

/-- The search for a branch, up to the completion of the main step.
mirrors evertrace-engine/src/procedure/alignment.rs:465-494 -/
def selectBranch (mapping : ProcedureStageAlignment) (mainIndex : Nat) (mainCompleted : Option Nat) :
    List Nat → Except AlignFault (Next (Option Selected))
  | [] => return .go none
  | index :: rest =>
    if mainCompleted.any (· ≤ index) then return .go none
    else do
      let found ← matchBranches t draft mainIndex index mapping.branches.zipIdx
      match found with
      | none => return .done none
      | some [] => selectBranch mapping mainIndex mainCompleted rest
      | some [(branch, branchIndex)] => return .go (some ⟨index, branchIndex, branch⟩)
      | some _ => return .done none

/-- The branch step is not completed: the alignment ends in a deviation.
mirrors evertrace-engine/src/procedure/alignment.rs:507-522 -/
def deviation (mainIndex entered branchIndex stepIndex entry : Nat) (step : ProcedureStepAlignment)
    (windows : List ActionWindow) : Except AlignFault (Option Aligned) :=
  match t.position step with
  | none => return none
  | some _ => do
    let branch ← indexed draft.actions.branches branchIndex
    let text ← indexed branch.stages stepIndex
    let window ← t.actionWindow text entry none
    let mainText ← indexed draft.actions.stages mainIndex
    let mainWindow ← t.actionWindow mainText entered none
    return some {
      phase := .recoverableDeviation
      actions := { draft.actions with stages := branch.stages.drop stepIndex, branches := [] }
      windows := windows ++ [window, mainWindow] }

/-- What a loop hands on: where it got to, and the windows so far. -/
structure Progress where
  cursor : Nat
  windows : List ActionWindow

/-- The steps of an entered branch, from the one numbered `stepIndex` on.
mirrors evertrace-engine/src/procedure/alignment.rs:496-524 -/
def runBranch (mainIndex entered branchIndex : Nat) : Nat → List ProcedureStepAlignment → Progress →
    Except AlignFault (Next Progress)
  | _, [], progress => return .go progress
  | stepIndex, step :: rest, progress => do
    let entry ← t.entry step progress.cursor
    match entry with
    | none => return .done none
    | some entry => do
      let completed ← t.completed step entry entry
      match completed with
      | some completed => do
        let branch ← indexed draft.actions.branches branchIndex
        let text ← indexed branch.stages stepIndex
        let window ← t.actionWindow text entry (some completed)
        runBranch mainIndex entered branchIndex (stepIndex + 1) rest ⟨completed, progress.windows ++ [window]⟩
      | none => do
        let result ← deviation t draft mainIndex entered branchIndex stepIndex entry step progress.windows
        return .done result

/-! ## Main steps -/

/-- The end of a main step's loop, when no branch is entered any more.
mirrors evertrace-engine/src/procedure/alignment.rs:531-545 -/
def closeStep (mainIndex entered : Nat) (step : ProcedureStepAlignment) (mainCompleted : Option Nat)
    (windows : List ActionWindow) : Except AlignFault (Next Progress) :=
  match mainCompleted with
  | some completed => do
    let text ← indexed draft.actions.stages mainIndex
    let window ← t.actionWindow text entered (some completed)
    return .go ⟨completed, windows ++ [window]⟩
  | none =>
    match t.position step with
    | none => return .done none
    | some phase => do
      let text ← indexed draft.actions.stages mainIndex
      let window ← t.actionWindow text entered none
      return .done (some {
        phase := phase
        actions := { draft.actions with stages := draft.actions.stages.drop mainIndex, branches := [] }
        windows := windows ++ [window] })

/-- The loop of one main step: completion, then the next branch. `branchFrom` is where the search for a
branch starts.
mirrors evertrace-engine/src/procedure/alignment.rs:463-546 -/
def runStep (mapping : ProcedureStageAlignment) (mainIndex entered : Nat) (step : ProcedureStepAlignment) :
    Nat → Nat → Progress → Except AlignFault (Next Progress)
  | 0, _, _ => .error .outOfFuel
  | fuel + 1, branchFrom, progress => do
    let mainCompleted ← t.completed step entered progress.cursor
    let selected ← selectBranch t draft mapping mainIndex mainCompleted (t.indices branchFrom)
    match selected with
    | .done result => return .done result
    | .go none => closeStep t draft mainIndex entered step mainCompleted progress.windows
    | .go (some s) => do
      let run ← runBranch t draft mainIndex entered s.branchIndex 0 s.branch.steps ⟨s.index, progress.windows⟩
      match run with
      | .done result => return .done result
      -- the main step may share this completion, another branch starts strictly later
      | .go progress => runStep mapping mainIndex entered step fuel (progress.cursor + 1) progress

/-- Every expression of the step is false at every frame. -/
def neverNear (step : ProcedureStepAlignment) : List Nat → Except AlignFault Bool
  | [] => return true
  | index :: rest => do
    let entry ← t.evaluateAt step.entry index
    let progress ← t.evaluateAt step.progress index
    let completed ← t.evaluateAt step.completed index
    if entry = .false_ ∧ progress = .false_ ∧ completed = .false_ then neverNear step rest else return false

/-- A main step whose entry is not found.
mirrors evertrace-engine/src/procedure/alignment.rs:443-459 -/
def notEntered (mainIndex : Nat) (step : ProcedureStepAlignment) (windows : List ActionWindow) :
    Except AlignFault (Option Aligned) := do
  let far ← neverNear t step (t.indices 0)
  if mainIndex = 0 ∧ far then
    return some { phase := .beforeEntry, actions := { draft.actions with branches := [] }, windows := windows }
  else return none

/-- The main steps, from the one numbered `mainIndex` on.
mirrors evertrace-engine/src/procedure/alignment.rs:440-556 -/
def runMain (mapping : ProcedureStageAlignment) : Nat → List ProcedureStepAlignment → Progress →
    Except AlignFault (Option Aligned)
  | _, [], progress => return some {
      phase := .alreadyCompleted
      actions := { stages := [], branches := [], avoid := draft.actions.avoid }
      windows := progress.windows }
  | mainIndex, step :: rest, progress => do
    let entered ← t.entry step progress.cursor
    match entered with
    | none => notEntered t draft mainIndex step progress.windows
    | some entered => do
      let run ← runStep t draft mapping mainIndex entered step (t.frames.length + 1) entered
        ⟨entered, progress.windows⟩
      match run with
      | .done result => return result
      | .go progress => runMain mapping (mainIndex + 1) rest progress

/-- mirrors evertrace-engine/src/procedure/alignment.rs:430-557 -/
def alignWithWindows : Except AlignFault (Option Aligned) :=
  match draft.stageAlignment with
  | none => return none
  | some mapping =>
    if t.truncated || t.frames.isEmpty then return none
    else runMain t draft mapping 0 mapping.main ⟨0, []⟩

end Align

/-! ## What the searches find -/

namespace StageTrace

variable (t : StageTrace)

/-- The state before a frame. -/
def prior : Nat → Option ConstraintState
  | 0 => none
  | index + 1 => t.frames[index]?.map StageFrame.state

/-- The truth of an expression at a frame; unknown where there is none. -/
def truth (expr : ConstraintExpr) (index : Nat) : ConstraintTruth :=
  match t.frames[index]? with
  | none => .unknown
  | some frame => expr.evaluate frame.state (t.prior index)

def firstFrom (first : Nat) (p : Nat → Bool) : Option Nat := (t.indices first).find? p

/-- The verifier was seen after the entry. -/
def freshAt (entry index : Nat) : Bool :=
  match t.frames[index]?, t.frames[entry]? with
  | some frame, some entryFrame => frame.verifierWitness.any (entryFrame.sequence < ·)
  | _, _ => false

/-- The completion without the verifier's binding. -/
def truthWithout (expr : ConstraintExpr) (index : Nat) : ConstraintTruth :=
  match t.frames[index]? with
  | none => .unknown
  | some frame => expr.evaluate (withoutVerifier frame.state) (t.prior index)

/-- The step was not complete at some frame from its entry on, before `index`. -/
def openBetween (step : ProcedureStepAlignment) (entry index : Nat) : Bool :=
  (List.range' entry (index - entry)).any fun j => t.truth step.completed j == .false_

/-- A frame completes a step that was entered at `entry`. -/
def completes (step : ProcedureStepAlignment) (entry index : Nat) : Bool :=
  entry < index && t.truth step.completed index == .true_
    && (t.openBetween step entry index
      || (t.freshAt entry index && t.truthWithout step.completed index != .true_))
    && (!step.completed.referencedFields.contains .verifierState || t.freshAt entry index)

variable {t}

theorem mem_indices {first i : Nat} : i ∈ t.indices first ↔ first ≤ i ∧ i < t.frames.length := by
  unfold indices
  rw [List.mem_range'_1]
  omega

theorem firstFrom_eq_some {first i : Nat} {p : Nat → Bool} : t.firstFrom first p = some i ↔
    first ≤ i ∧ i < t.frames.length ∧ p i = true ∧ ∀ j, first ≤ j → j < i → p j = false := by
  unfold firstFrom indices
  rw [List.find?_range'_eq_some, List.mem_range'_1]
  simp only [Bool.not_eq_true']
  constructor
  · rintro ⟨hp, ⟨hle, hlt⟩, hbefore⟩
    exact ⟨hle, by omega, hp, hbefore⟩
  · rintro ⟨hle, hlt, hp, hbefore⟩
    exact ⟨hp, ⟨hle, by omega⟩, hbefore⟩

theorem firstFrom_eq_none {first : Nat} {p : Nat → Bool} : t.firstFrom first p = none ↔
    ∀ i, first ≤ i → i < t.frames.length → p i = false := by
  unfold firstFrom
  simp only [List.find?_eq_none, mem_indices, Bool.not_eq_true]
  exact ⟨fun h i hle hlt => h i ⟨hle, hlt⟩, fun h i hi => h i hi.1 hi.2⟩

theorem indexed_eq {α : Type} {values : List α} {i : Nat} (h : i < values.length) :
    indexed values i = .ok values[i] := by
  rw [indexed, List.getElem?_eq_getElem h]
  rfl

theorem indexed_ok {α : Type} {values : List α} {i : Nat} {a : α} : indexed values i = .ok a ↔ values[i]? = some a := by
  rw [indexed, okOr_ok]

theorem previousOf_eq {i : Nat} (h : i ≤ t.frames.length) : t.previousOf i = .ok (t.prior i) := by
  cases i with
  | zero => rfl
  | succ prior =>
    rw [previousOf, indexed_eq (by omega), StageTrace.prior, List.getElem?_eq_getElem (by omega)]
    rfl

theorem evaluateAt_eq {expr : ConstraintExpr} {i : Nat} (h : i < t.frames.length) :
    t.evaluateAt expr i = .ok (t.truth expr i) := by
  rw [evaluateAt, indexed_eq h, truth, List.getElem?_eq_getElem h, previousOf_eq (by omega)]
  rfl

theorem entryIn_eq (step : ProcedureStepAlignment) : ∀ {l : List Nat}, (∀ i ∈ l, i < t.frames.length) →
    t.entryIn step l = .ok (l.find? fun i => t.truth step.entry i == .true_) := by
  intro l
  induction l with
  | nil => intro _; rfl
  | cons i rest ih =>
    intro h
    obtain ⟨hi, hrest⟩ := List.forall_mem_cons.mp h
    rw [entryIn, evaluateAt_eq hi, List.find?_cons]
    by_cases htrue : t.truth step.entry i = .true_
    · simp [htrue, bind, Except.bind, pure, Except.pure]
    · rw [beq_false_of_ne htrue]
      simp [htrue, bind, Except.bind, ih hrest]

theorem entry_eq (step : ProcedureStepAlignment) (first : Nat) :
    t.entry step first = .ok (t.firstFrom first fun i => t.truth step.entry i == .true_) :=
  entryIn_eq step fun _ hi => (mem_indices.mp hi).2

/-- The loop, at a place where `seen` tells whether the step was open before. -/
theorem completedIn_eq (step : ProcedureStepAlignment) (entry first : Nat) : ∀ (n i : Nat), i + n = t.frames.length →
    entry ≤ i → t.completedIn step entry first (t.openBetween step entry i) (List.range' i n) =
      .ok ((List.range' i n).find? fun j => first ≤ j && t.completes step entry j) := by
  intro n
  induction n with
  | zero => intro i _ _; rfl
  | succ n ih =>
    intro i hlen hle
    have hi : i < t.frames.length := by omega
    have hentry : entry < t.frames.length := by omega
    have hseen : t.openBetween step entry (i + 1) =
        (t.openBetween step entry i || t.truth step.completed i == .false_) := by
      unfold openBetween
      rw [show i + 1 - entry = i - entry + 1 by omega, List.range'_concat, List.any_append]
      simp [show entry + (i - entry) = i by omega]
    have hnext := ih (i + 1) (by omega) (by omega)
    rw [hseen] at hnext
    rw [List.range'_succ, completedIn, evaluateAt_eq hi, indexed_eq hi, indexed_eq hentry, previousOf_eq (by omega),
      List.find?_cons]
    have hfresh : (t.frames[i].verifierWitness.any fun x => decide (t.frames[entry].sequence < x)) =
        t.freshAt entry i := by
      rw [freshAt, List.getElem?_eq_getElem hi, List.getElem?_eq_getElem hentry]
    have hwithout : step.completed.evaluate (withoutVerifier t.frames[i].state) (t.prior i) =
        t.truthWithout step.completed i := by
      rw [truthWithout, List.getElem?_eq_getElem hi]
    have hcond : (entry < i && first ≤ i && (t.openBetween step entry i || t.truth step.completed i == .false_
        || (t.freshAt entry i && t.truth step.completed i == .true_ && t.truthWithout step.completed i != .true_))
        && t.truth step.completed i == .true_
        && (!step.completed.referencedFields.contains .verifierState || t.freshAt entry i)) =
          (first ≤ i && t.completes step entry i) := by
      have hft : (ConstraintTruth.false_ == ConstraintTruth.true_) = false := rfl
      have hut : (ConstraintTruth.unknown == ConstraintTruth.true_) = false := rfl
      have htf : (ConstraintTruth.true_ == ConstraintTruth.false_) = false := rfl
      unfold completes
      cases t.truth step.completed i <;> simp [Bool.and_left_comm, Bool.and_assoc, hft, hut, htf]
    simp only [bind, Except.bind, pure, Except.pure, hfresh, hwithout, hcond]
    cases hfound : (decide (first ≤ i) && t.completes step entry i) with
    | true => rfl
    | false => exact hnext

/-- The completion of a step is the first frame from `first` on that completes it. -/
theorem completed_eq (step : ProcedureStepAlignment) (entry first : Nat) :
    t.completed step entry first = .ok (t.firstFrom entry fun i => first ≤ i && t.completes step entry i) := by
  unfold completed firstFrom indices
  by_cases hle : entry ≤ t.frames.length
  · have h := completedIn_eq (t := t) step entry first (t.frames.length - entry) entry (by omega) le_rfl
    have hopen : t.openBetween step entry entry = false := by simp [openBetween]
    rw [hopen] at h
    exact h
  · rw [show t.frames.length - entry = 0 by omega]
    rfl

end StageTrace

end EverTrace.L2.Alignment
