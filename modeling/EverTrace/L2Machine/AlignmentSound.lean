import EverTrace.L2Machine.Alignment
/-!
# Alignment is sound (`evertrace-engine/src/procedure/alignment.rs`)

For a draft that validates, no index is out of range and the loop of a main step
ends within its budget: each branch that is entered starts after the branch
before it ended. When an alignment says that the procedure is completed, every
main step has an entry and a completion, each the one the source looks for, and
the windows are those of the steps and of the branches followed inside them.

Result: `align_sound`.
-/
namespace EverTrace.L2.Alignment
open EverTrace.Lib EverTrace.L2.Semantic

/-! ## What a completed alignment consists of -/

/-- Where a step was entered and completed. -/
structure Span where
  entry : Nat
  completed : Nat
  deriving DecidableEq

/-- One pass through a recovery branch. -/
structure Episode where
  start : Nat
  branchIndex : Nat
  spans : List Span
  deriving DecidableEq

/-- Where the last of the steps was completed. -/
def lastCompleted (first : Nat) (spans : List Span) : Nat := (spans.getLast?.map Span.completed).getD first

def Episode.stop (e : Episode) : Nat := lastCompleted e.start e.spans

/-- A main step from its entry to its completion. -/
structure StepRun where
  entered : Nat
  completed : Nat
  episodes : List Episode
  deriving DecidableEq

def StageTrace.sequenceAt (t : StageTrace) (index : Nat) : Nat := (t.frames[index]?.map StageFrame.sequence).getD 0

def StageTrace.closedWindow (t : StageTrace) (text : String) (span : Span) : ActionWindow :=
  ⟨text, t.sequenceAt span.entry, some (t.sequenceAt span.completed)⟩

def Episode.windows (t : StageTrace) (draft : ProcedureDraft) (e : Episode) : List ActionWindow :=
  match draft.actions.branches[e.branchIndex]? with
  | none => []
  | some branch => branch.stages.zipWith t.closedWindow e.spans

def StepRun.windows (t : StageTrace) (draft : ProcedureDraft) (mainIndex : Nat) (run : StepRun) : List ActionWindow :=
  run.episodes.flatMap (Episode.windows t draft) ++
    [t.closedWindow (draft.actions.stages.getD mainIndex "") ⟨run.entered, run.completed⟩]

/-- The steps of a branch, each entered at or after the completion of the one before. -/
def Follows (t : StageTrace) : Nat → List ProcedureStepAlignment → List Span → Prop
  | _, [], [] => True
  | first, step :: steps, span :: spans =>
    t.firstFrom first (fun i => t.truth step.entry i == .true_) = some span.entry ∧
      t.firstFrom span.entry (fun i => span.entry ≤ i && t.completes step span.entry i) = some span.completed ∧
      Follows t span.completed steps spans
  | _, _, _ => False

/-- The branch of the episode belongs to the main step, its condition holds where it starts, and its steps
are followed from there. -/
def Episode.Sound (t : StageTrace) (draft : ProcedureDraft) (mapping : ProcedureStageAlignment) (mainIndex : Nat)
    (e : Episode) : Prop :=
  ∃ branch actions, mapping.branches[e.branchIndex]? = some branch ∧
    draft.actions.branches[e.branchIndex]? = some actions ∧ branch.atMainStep = mainIndex ∧
    t.truth actions.condition e.start = .true_ ∧ Follows t e.start branch.steps e.spans

/-- What an alignment that completes a main step has found. -/
structure StepRun.Sound (t : StageTrace) (draft : ProcedureDraft) (mapping : ProcedureStageAlignment)
    (mainIndex first : Nat) (step : ProcedureStepAlignment) (run : StepRun) : Prop where
  /-- the entry is the first frame from `first` on where the entry condition holds -/
  entry : first ≤ run.entered ∧ t.truth step.entry run.entered = .true_ ∧
    ∀ j, first ≤ j → j < run.entered → t.truth step.entry j ≠ .true_
  later : run.entered < run.completed ∧ run.completed < t.frames.length
  complete : t.truth step.completed run.completed = .true_
  /-- it was not complete before, or a new verifier result makes it so -/
  opened : (∃ j, run.entered ≤ j ∧ j < run.completed ∧ t.truth step.completed j = .false_) ∨
    (t.freshAt run.entered run.completed = true ∧ t.truthWithout step.completed run.completed ≠ .true_)
  verifier : ConstraintField.verifierState ∈ step.completed.referencedFields →
    t.freshAt run.entered run.completed = true
  episodes : ∀ e ∈ run.episodes, e.Sound t draft mapping mainIndex
  /-- branch windows lie inside the window of the main step -/
  inside : ∀ e ∈ run.episodes, ∀ span ∈ e.spans,
    run.entered ≤ span.entry ∧ span.entry < span.completed ∧ span.completed ≤ run.completed
  /-- a branch starts strictly after the one before it ended -/
  apart : run.episodes.Pairwise fun e next => e.stop < next.start

/-- The main steps, each entered at or after the completion of the one before. -/
def Runs (t : StageTrace) (draft : ProcedureDraft) (mapping : ProcedureStageAlignment) :
    Nat → Nat → List ProcedureStepAlignment → List StepRun → Prop
  | _, _, [], [] => True
  | mainIndex, first, step :: steps, run :: runs =>
    run.Sound t draft mapping mainIndex first step ∧ Runs t draft mapping (mainIndex + 1) run.completed steps runs
  | _, _, _, _ => False

def runWindows (t : StageTrace) (draft : ProcedureDraft) : Nat → List StepRun → List ActionWindow
  | _, [] => []
  | mainIndex, run :: runs => run.windows t draft mainIndex ++ runWindows t draft (mainIndex + 1) runs

/-! ## A draft that validates -/

/-- The lists of a draft and of its alignment have the same lengths. -/
structure Fitting (draft : ProcedureDraft) (mapping : ProcedureStageAlignment) : Prop where
  main : mapping.main.length = draft.actions.stages.length
  branches : mapping.branches.length = draft.actions.branches.length
  steps : ∀ {i : Nat} {branch : ProcedureBranchAlignment} {actions : ProcedureBranch},
    mapping.branches[i]? = some branch → draft.actions.branches[i]? = some actions →
    branch.steps.length = actions.stages.length

theorem fitting_of_validate {draft : ProcedureDraft} {mapping : ProcedureStageAlignment} (h : draft.validate = .ok ())
    (hmapping : draft.stageAlignment = some mapping) : Fitting draft mapping := by
  have halign : validateAlignment draft.actions mapping = .ok () := by
    unfold ProcedureDraft.validate at h
    rw [hmapping] at h
    obtain ⟨_, -, h⟩ := bind_eq_ok.mp h
    obtain ⟨_, -, h⟩ := bind_eq_ok.mp h
    obtain ⟨_, -, h⟩ := bind_eq_ok.mp h
    obtain ⟨_, -, h⟩ := bind_eq_ok.mp h
    obtain ⟨_, h, -⟩ := bind_eq_ok.mp h
    exact h
  unfold validateAlignment at halign
  rw [ensure_bind_ok, ensure_bind_ok] at halign
  obtain ⟨hlengths, hzip, -⟩ := halign
  simp only [Bool.and_eq_true, beq_iff_eq] at hlengths
  refine ⟨hlengths.1.1, hlengths.1.2, fun {i branch actions} hbranch hactions => ?_⟩
  have hmem : (branch, actions) ∈ mapping.branches.zip draft.actions.branches := by
    refine List.mem_of_getElem? (i := i) ?_
    rw [List.getElem?_zip_eq_some]
    exact ⟨hbranch, hactions⟩
  have hone := List.all_eq_true.mp hzip _ hmem
  simp only [Bool.and_eq_true, beq_iff_eq] at hone
  exact hone.2

theorem lastCompleted_cons (first : Nat) (span : Span) (spans : List Span) :
    lastCompleted first (span :: spans) = lastCompleted span.completed spans := by
  cases spans with
  | nil => rfl
  | cons next rest => simp [lastCompleted, List.getLast?_cons]

theorem follows_bounds {t : StageTrace} : ∀ {steps : List ProcedureStepAlignment} {first : Nat} {spans : List Span},
    first < t.frames.length → Follows t first steps spans →
    first ≤ lastCompleted first spans ∧ lastCompleted first spans < t.frames.length ∧
      ∀ span ∈ spans, first ≤ span.entry ∧ span.entry < span.completed ∧ span.completed ≤ lastCompleted first spans := by
  intro steps
  induction steps with
  | nil =>
    intro first spans hfirst h
    cases spans with
    | nil => exact ⟨le_rfl, hfirst, by simp⟩
    | cons span rest => cases h
  | cons step steps ih =>
    intro first spans hfirst h
    cases spans with
    | nil => cases h
    | cons span rest =>
      obtain ⟨hentry, hcompleted, hrest⟩ := h
      obtain ⟨hfrom, -, -, -⟩ := StageTrace.firstFrom_eq_some.mp hentry
      obtain ⟨-, hlen, hc, -⟩ := StageTrace.firstFrom_eq_some.mp hcompleted
      have hlt : span.entry < span.completed := by
        simp only [StageTrace.completes, Bool.and_eq_true, decide_eq_true_eq] at hc
        exact hc.2.1.1.1
      obtain ⟨hle, hend, hall⟩ := ih hlen hrest
      rw [lastCompleted_cons]
      refine ⟨by omega, hend, fun s hs => ?_⟩
      rcases List.mem_cons.mp hs with rfl | hs
      · exact ⟨hfrom, hlt, hle⟩
      · obtain ⟨h1, h2, h3⟩ := hall s hs
        exact ⟨by omega, h2, h3⟩

/-! ## The parts of a step -/

section Parts

variable {t : StageTrace} {draft : ProcedureDraft} {mapping : ProcedureStageAlignment} {mainIndex : Nat}

def NotCompleted (result : Option Aligned) : Prop := ∀ a, result = some a → a.phase ≠ .alreadyCompleted

theorem notCompleted_none : NotCompleted none := fun _ h => by cases h

theorem position_ne {step : ProcedureStepAlignment} {phase : ProcedurePhase} (h : t.position step = some phase) :
    phase ≠ .alreadyCompleted := by
  unfold StageTrace.position at h
  obtain ⟨current, -, h⟩ := Option.bind_eq_some_iff.mp h
  split at h
  · cases h
  · split at h
    · cases h
      decide
    · split at h
      · cases h
        decide
      · cases h

theorem actionWindow_closed {text : String} {entry completed : Nat} (hentry : entry < t.frames.length)
    (hcompleted : completed < t.frames.length) :
    t.actionWindow text entry (some completed) = .ok (t.closedWindow text ⟨entry, completed⟩) := by
  simp [StageTrace.actionWindow, StageTrace.closedWindow, StageTrace.sequenceAt, StageTrace.indexed_eq hentry,
    StageTrace.indexed_eq hcompleted, hentry, hcompleted, bind, Except.bind, pure, Except.pure]

theorem actionWindow_open {text : String} {entry : Nat} (hentry : entry < t.frames.length) :
    t.actionWindow text entry none = .ok ⟨text, t.sequenceAt entry, none⟩ := by
  unfold StageTrace.actionWindow StageTrace.sequenceAt
  rw [StageTrace.indexed_eq hentry, List.getElem?_eq_getElem hentry]
  rfl

theorem matchBranches_ok {index : Nat} (hindex : index < t.frames.length) :
    ∀ {l : List (ProcedureBranchAlignment × Nat)}, (∀ x ∈ l, x.2 < draft.actions.branches.length) →
    ∃ r, matchBranches t draft mainIndex index l = .ok r ∧ ∀ found, r = some found → ∀ x ∈ found, x ∈ l ∧
      x.1.atMainStep = mainIndex ∧
      ∃ actions, draft.actions.branches[x.2]? = some actions ∧ t.truth actions.condition index = .true_ := by
  intro l
  induction l with
  | nil =>
    intro _
    refine ⟨some [], rfl, fun found h x hx => ?_⟩
    cases h
    cases hx
  | cons first rest ih =>
    intro h
    obtain ⟨branch, branchIndex⟩ := first
    obtain ⟨hfirst, hrest⟩ := List.forall_mem_cons.mp h
    obtain ⟨r, hr, hfound⟩ := ih hrest
    have hlater : ∀ found, r = some found → ∀ x ∈ found, x ∈ (branch, branchIndex) :: rest ∧
        x.1.atMainStep = mainIndex ∧
        ∃ actions, draft.actions.branches[x.2]? = some actions ∧ t.truth actions.condition index = .true_ :=
      fun found h x hx => ⟨List.mem_cons_of_mem _ (hfound found h x hx).1, (hfound found h x hx).2⟩
    unfold matchBranches
    by_cases hmain : branch.atMainStep ≠ mainIndex
    · rw [if_pos hmain]
      exact ⟨r, hr, hlater⟩
    · rw [if_neg hmain, StageTrace.indexed_eq hfirst]
      simp only [bind, Except.bind, StageTrace.evaluateAt_eq hindex]
      cases hcondition : t.truth draft.actions.branches[branchIndex].condition index with
      | unknown => exact ⟨none, rfl, fun found h => (by cases h)⟩
      | false_ => exact ⟨r, hr, hlater⟩
      | true_ =>
        rw [hr]
        refine ⟨r.map ((branch, branchIndex) :: ·), rfl, fun found h x hx => ?_⟩
        obtain ⟨more, hmore, rfl⟩ := Option.map_eq_some_iff.mp h
        rcases List.mem_cons.mp hx with rfl | hx
        · exact ⟨List.mem_cons_self, not_not.mp hmain, _, List.getElem?_eq_getElem hfirst, hcondition⟩
        · exact hlater more hmore x hx

theorem zipIdx_lt {x : ProcedureBranchAlignment × Nat} (hfit : Fitting draft mapping)
    (hx : x ∈ mapping.branches.zipIdx) :
    mapping.branches[x.2]? = some x.1 ∧ x.2 < draft.actions.branches.length := by
  have hget := List.mk_mem_zipIdx_iff_getElem?.mp hx
  refine ⟨hget, ?_⟩
  rw [← hfit.branches]
  exact (List.getElem?_eq_some_iff.mp hget).1

/-- The search ends without a fault; a branch that it selects is one of the main step's, its condition holds
there, and the main step is not completed by then. -/
theorem selectBranch_ok (hfit : Fitting draft mapping) (mainCompleted : Option Nat) : ∀ {l : List Nat},
    (∀ i ∈ l, i < t.frames.length) →
    ∃ r, selectBranch t draft mapping mainIndex mainCompleted l = .ok r ∧ (∀ a, r ≠ .done (some a)) ∧
      ∀ s, r = .go (some s) → s.index ∈ l ∧ mapping.branches[s.branchIndex]? = some s.branch ∧
        s.branch.atMainStep = mainIndex ∧
        ∃ actions, draft.actions.branches[s.branchIndex]? = some actions ∧
          t.truth actions.condition s.index = .true_ := by
  intro l
  induction l with
  | nil => exact fun _ => ⟨.go none, rfl, fun a h => (by cases h), fun s h => (by cases h)⟩
  | cons index rest ih =>
    intro h
    obtain ⟨hindex, hrest⟩ := List.forall_mem_cons.mp h
    obtain ⟨r, hr, hnone, hsome⟩ := ih hrest
    obtain ⟨found, hmatch, hfound⟩ := @matchBranches_ok t draft mainIndex index hindex
      mapping.branches.zipIdx fun x hx => (zipIdx_lt hfit hx).2
    unfold selectBranch
    by_cases hpast : mainCompleted.any (· ≤ index) = true
    · rw [if_pos hpast]
      exact ⟨.go none, rfl, fun a h => (by cases h), fun s h => (by cases h)⟩
    · rw [if_neg hpast, hmatch]
      simp only [bind, Except.bind]
      split
      · exact ⟨.done none, rfl, fun a h => (by cases h), fun s h => (by cases h)⟩
      · refine ⟨r, hr, hnone, fun s hs => ?_⟩
        obtain ⟨hmem, hmore⟩ := hsome s hs
        exact ⟨List.mem_cons_of_mem _ hmem, hmore⟩
      · next branch branchIndex =>
        refine ⟨_, rfl, fun a h => (by cases h), fun s hs => ?_⟩
        cases hs
        obtain ⟨hmem, hmain, hactions⟩ := hfound _ rfl _ List.mem_cons_self
        exact ⟨List.mem_cons_self, (zipIdx_lt hfit hmem).1, hmain, hactions⟩
      · exact ⟨.done none, rfl, fun a h => (by cases h), fun s h => (by cases h)⟩

/-- A branch step that is not completed ends the alignment, with indices in range. -/
theorem deviation_ok {entered branchIndex stepIndex entry : Nat} {step : ProcedureStepAlignment}
    {windows : List ActionWindow} {actions : ProcedureBranch}
    (hactions : draft.actions.branches[branchIndex]? = some actions) (hstep : stepIndex < actions.stages.length)
    (hmain : mainIndex < draft.actions.stages.length) (hentry : entry < t.frames.length)
    (hentered : entered < t.frames.length) :
    ∃ r, deviation t draft mainIndex entered branchIndex stepIndex entry step windows = .ok r ∧ NotCompleted r := by
  unfold deviation
  split
  · exact ⟨none, rfl, notCompleted_none⟩
  · rw [StageTrace.indexed_ok.mpr hactions]
    simp only [bind, Except.bind, StageTrace.indexed_eq hstep, StageTrace.indexed_eq hmain, actionWindow_open hentry,
      actionWindow_open hentered]
    refine ⟨_, rfl, fun a h => ?_⟩
    cases h
    exact (by decide : ProcedurePhase.recoverableDeviation ≠ .alreadyCompleted)

def stageWindows (t : StageTrace) (actions : ProcedureBranch) (stepIndex : Nat) (spans : List Span) :
    List ActionWindow :=
  (actions.stages.drop stepIndex).zipWith t.closedWindow spans

/-- The steps of a branch are followed to the end, or the alignment ends before. -/
theorem runBranch_ok {entered branchIndex : Nat} {actions : ProcedureBranch}
    (hactions : draft.actions.branches[branchIndex]? = some actions) (hmain : mainIndex < draft.actions.stages.length)
    (hentered : entered < t.frames.length) : ∀ (steps : List ProcedureStepAlignment) (stepIndex : Nat)
    (progress : Progress), stepIndex + steps.length = actions.stages.length →
    ∃ r, runBranch t draft mainIndex entered branchIndex stepIndex steps progress = .ok r ∧
      (∀ result, r = .done result → NotCompleted result) ∧
      ∀ next, r = .go next → ∃ spans, Follows t progress.cursor steps spans ∧
        next.cursor = lastCompleted progress.cursor spans ∧
        next.windows = progress.windows ++ stageWindows t actions stepIndex spans := by
  intro steps
  induction steps with
  | nil =>
    intro stepIndex progress _
    refine ⟨.go progress, rfl, fun _ h => (by cases h), fun next h => ?_⟩
    cases h
    refine ⟨[], trivial, rfl, ?_⟩
    rw [stageWindows, List.zipWith_nil_right, List.append_nil]
  | cons step rest ih =>
    intro stepIndex progress hlength
    rw [List.length_cons] at hlength
    unfold runBranch
    rw [StageTrace.entry_eq]
    simp only [bind, Except.bind]
    cases hentry : t.firstFrom progress.cursor (fun i => t.truth step.entry i == .true_) with
    | none => exact ⟨.done none, rfl, fun r h => (by cases h; exact notCompleted_none), fun _ h => (by cases h)⟩
    | some entry =>
      dsimp only
      rw [StageTrace.completed_eq]
      dsimp only
      have hlt := (StageTrace.firstFrom_eq_some.mp hentry).2.1
      cases hcompleted : t.firstFrom entry (fun i => entry ≤ i && t.completes step entry i) with
      | none =>
        dsimp only
        obtain ⟨r, hr, hnot⟩ := @deviation_ok t draft mainIndex entered branchIndex stepIndex entry step
          progress.windows actions hactions (by omega) hmain hlt hentered
        rw [hr]
        exact ⟨.done r, rfl, fun result h => (by cases h; exact hnot), fun _ h => (by cases h)⟩
      | some completed =>
        have hlt' := (StageTrace.firstFrom_eq_some.mp hcompleted).2.1
        have hstep : stepIndex < actions.stages.length := by omega
        dsimp only
        rw [StageTrace.indexed_ok.mpr hactions]
        dsimp only
        rw [StageTrace.indexed_eq hstep]
        dsimp only
        rw [actionWindow_closed hlt hlt']
        dsimp only
        obtain ⟨r, hr, hdone, hgo⟩ := ih (stepIndex + 1)
          ⟨completed, progress.windows ++ [t.closedWindow actions.stages[stepIndex] ⟨entry, completed⟩]⟩ (by omega)
        refine ⟨r, hr, hdone, fun next h => ?_⟩
        obtain ⟨spans, hfollows, hcursor, hwindows⟩ := hgo next h
        refine ⟨⟨entry, completed⟩ :: spans, ⟨hentry, hcompleted, hfollows⟩, ?_, ?_⟩
        · rw [hcursor, lastCompleted_cons]
        · rw [hwindows, stageWindows, stageWindows, List.drop_eq_getElem_cons hstep, List.zipWith_cons_cons,
            List.append_assoc]
          rfl

/-! ## A main step -/

/-- The passes through branches in one main step, from `first` on; each starts strictly after the one before
it ended. -/
def Passes (t : StageTrace) (draft : ProcedureDraft) (mapping : ProcedureStageAlignment) (mainIndex : Nat) :
    Nat → List Episode → Prop
  | _, [] => True
  | first, e :: rest => first ≤ e.start ∧ e.start < t.frames.length ∧ e.Sound t draft mapping mainIndex ∧
    Passes t draft mapping mainIndex (e.stop + 1) rest

def lastStop (cursor : Nat) (episodes : List Episode) : Nat := (episodes.getLast?.map Episode.stop).getD cursor

theorem lastStop_cons (cursor : Nat) (e : Episode) (rest : List Episode) :
    lastStop cursor (e :: rest) = lastStop e.stop rest := by
  cases rest with
  | nil => rfl
  | cons next rest => simp [lastStop, List.getLast?_cons]

theorem Episode.Sound.bounds {e : Episode} (h : e.Sound t draft mapping mainIndex) (hstart : e.start < t.frames.length) :
    e.start ≤ e.stop ∧ e.stop < t.frames.length ∧
      ∀ span ∈ e.spans, e.start ≤ span.entry ∧ span.entry < span.completed ∧ span.completed ≤ e.stop := by
  obtain ⟨branch, actions, -, -, -, -, hfollows⟩ := h
  exact follows_bounds hstart hfollows

theorem Passes.bounds : ∀ {episodes : List Episode} {first : Nat}, Passes t draft mapping mainIndex first episodes →
    ∀ (cursor : Nat), ∀ e ∈ episodes, first ≤ e.start ∧ e.start < t.frames.length ∧ e.stop ≤ lastStop cursor episodes := by
  intro episodes
  induction episodes with
  | nil => intro _ _ _ e he; cases he
  | cons e rest ih =>
    intro first h cursor
    obtain ⟨hfrom, hstart, hsound, hrest⟩ := h
    obtain ⟨hle, -, -⟩ := hsound.bounds hstart
    rw [lastStop_cons]
    intro f hf
    rcases List.mem_cons.mp hf with rfl | hf
    · refine ⟨hfrom, hstart, ?_⟩
      cases rest with
      | nil => exact le_rfl
      | cons next rest =>
        obtain ⟨hnext, hlt, hstop⟩ := ih hrest f.stop next List.mem_cons_self
        have hafter := (hrest.2.2.1.bounds hlt).1
        omega
    · obtain ⟨h1, h2, h3⟩ := ih hrest e.stop f hf
      exact ⟨by omega, h2, h3⟩

theorem Passes.sound : ∀ {episodes : List Episode} {first : Nat}, Passes t draft mapping mainIndex first episodes →
    ∀ e ∈ episodes, e.Sound t draft mapping mainIndex := by
  intro episodes
  induction episodes with
  | nil => intro _ _ e he; cases he
  | cons e rest ih =>
    intro first h f hf
    rcases List.mem_cons.mp hf with rfl | hf
    · exact h.2.2.1
    · exact ih h.2.2.2 f hf

theorem Passes.apart : ∀ {episodes : List Episode} {first : Nat}, Passes t draft mapping mainIndex first episodes →
    episodes.Pairwise fun e next => e.stop < next.start := by
  intro episodes
  induction episodes with
  | nil => intro _ _; exact List.Pairwise.nil
  | cons e rest ih =>
    intro first h
    refine List.Pairwise.cons (fun f hf => ?_) (ih h.2.2.2)
    have := (h.2.2.2.bounds 0 f hf).1
    omega

/-- The end of a step: it is completed, or the alignment ends. -/
theorem closeStep_ok {entered : Nat} {step : ProcedureStepAlignment} {mainCompleted : Option Nat}
    {windows : List ActionWindow} (hmain : mainIndex < draft.actions.stages.length) (hentered : entered < t.frames.length)
    (hcompleted : ∀ c, mainCompleted = some c → c < t.frames.length) :
    ∃ r, closeStep t draft mainIndex entered step mainCompleted windows = .ok r ∧
      (∀ result, r = .done result → NotCompleted result) ∧
      ∀ next, r = .go next → mainCompleted = some next.cursor ∧
        next.windows = windows ++ [t.closedWindow (draft.actions.stages.getD mainIndex "") ⟨entered, next.cursor⟩] := by
  unfold closeStep
  cases mainCompleted with
  | some completed =>
    simp only [bind, Except.bind, StageTrace.indexed_eq hmain, actionWindow_closed hentered (hcompleted _ rfl)]
    refine ⟨_, rfl, fun _ h => (by cases h), fun next h => ?_⟩
    cases h
    refine ⟨rfl, ?_⟩
    rw [List.getD_eq_getElem?_getD, List.getElem?_eq_getElem hmain]
    rfl
  | none =>
    dsimp only
    split
    · exact ⟨.done none, rfl, fun _ h => (by cases h; exact notCompleted_none), fun _ h => (by cases h)⟩
    · next phase hphase =>
      simp only [bind, Except.bind, StageTrace.indexed_eq hmain, actionWindow_open hentered]
      refine ⟨_, rfl, fun result h a ha => ?_, fun _ h => (by cases h)⟩
      cases h
      cases ha
      exact position_ne hphase

/-- The loop of a main step ends within its budget, with indices in range; if it completes the step, then
after the passes it followed. -/
theorem runStep_ok (hfit : Fitting draft mapping) {entered : Nat} {step : ProcedureStepAlignment}
    (hmain : mainIndex < draft.actions.stages.length) (hentered : entered < t.frames.length) :
    ∀ (fuel branchFrom : Nat) (progress : Progress), branchFrom ≤ t.frames.length →
    t.frames.length < fuel + branchFrom →
    ∃ r, runStep t draft mapping mainIndex entered step fuel branchFrom progress = .ok r ∧
      (∀ result, r = .done result → NotCompleted result) ∧
      ∀ next, r = .go next → ∃ episodes, Passes t draft mapping mainIndex branchFrom episodes ∧
        t.firstFrom entered (fun i => lastStop progress.cursor episodes ≤ i && t.completes step entered i) =
          some next.cursor ∧
        next.windows = progress.windows ++ (episodes.flatMap (Episode.windows t draft) ++
          [t.closedWindow (draft.actions.stages.getD mainIndex "") ⟨entered, next.cursor⟩]) := by
  intro fuel
  induction fuel with
  | zero => intro branchFrom progress hle hlt; omega
  | succ fuel ih =>
    intro branchFrom progress hle hlt
    unfold runStep
    rw [StageTrace.completed_eq]
    obtain ⟨selected, hselect, hnone, hsome⟩ := @selectBranch_ok t draft mapping mainIndex hfit
      (t.firstFrom entered fun i => progress.cursor ≤ i && t.completes step entered i)
      (t.indices branchFrom) fun i hi => (StageTrace.mem_indices.mp hi).2
    simp only [bind, Except.bind, hselect]
    match selected with
    | .done none => exact ⟨.done none, rfl, fun _ h => (by cases h; exact notCompleted_none), fun _ h => (by cases h)⟩
    | .done (some a) => exact absurd rfl (hnone a)
    | .go none =>
      obtain ⟨r, hr, hdone, hgo⟩ := @closeStep_ok t draft mainIndex entered step _ progress.windows hmain
        hentered fun c hc => (StageTrace.firstFrom_eq_some.mp hc).2.1
      refine ⟨r, hr, hdone, fun next h => ?_⟩
      obtain ⟨hcursor, hwindows⟩ := hgo next h
      exact ⟨[], trivial, hcursor, hwindows⟩
    | .go (some s) =>
      obtain ⟨hs, hbranch, hat, actions, hactions, hcondition⟩ := hsome s rfl
      obtain ⟨hfrom, hindex⟩ := StageTrace.mem_indices.mp hs
      obtain ⟨run, hrun, hdone, hgo⟩ := runBranch_ok hactions hmain hentered s.branch.steps 0
        ⟨s.index, progress.windows⟩ (by rw [Nat.zero_add]; exact hfit.steps hbranch hactions)
      dsimp only
      rw [hrun]
      match run with
      | .done result => exact ⟨.done result, rfl, fun _ h => (by cases h; exact hdone _ rfl), fun _ h => (by cases h)⟩
      | .go after =>
        obtain ⟨spans, hfollows, hcursor, hwindows⟩ := hgo after rfl
        have hsound : Episode.Sound t draft mapping mainIndex ⟨s.index, s.branchIndex, spans⟩ :=
          ⟨s.branch, actions, hbranch, hactions, hat, hcondition, hfollows⟩
        obtain ⟨hstart, hstop, -⟩ := hsound.bounds hindex
        have hafter : after.cursor = Episode.stop ⟨s.index, s.branchIndex, spans⟩ := hcursor
        obtain ⟨r, hr, hdone', hgo'⟩ := ih (after.cursor + 1) after (by rw [hafter]; exact hstop) (by rw [hafter]; dsimp only at hstart; omega)
        refine ⟨r, hr, hdone', fun next h => ?_⟩
        obtain ⟨episodes, hpasses, hcompleted, hnext⟩ := hgo' next h
        refine ⟨⟨s.index, s.branchIndex, spans⟩ :: episodes, ⟨hfrom, hindex, hsound, ?_⟩, ?_, ?_⟩
        · rw [← hafter]
          exact hpasses
        · rw [lastStop_cons, ← hafter]
          exact hcompleted
        · rw [hnext, hwindows, List.flatMap_cons, List.append_assoc, List.append_assoc]
          congr 1
          rw [Episode.windows, hactions]
          rfl

/-- A completed step as the claim reads it. -/
theorem stepRun_sound {first : Nat} {step : ProcedureStepAlignment} {run : StepRun}
    (hentry : t.firstFrom first (fun i => t.truth step.entry i == .true_) = some run.entered)
    (hpasses : Passes t draft mapping mainIndex run.entered run.episodes)
    (hcompleted : t.firstFrom run.entered (fun i => lastStop run.entered run.episodes ≤ i &&
      t.completes step run.entered i) = some run.completed) :
    run.Sound t draft mapping mainIndex first step := by
  obtain ⟨hfirst, -, htrue, hbefore⟩ := StageTrace.firstFrom_eq_some.mp hentry
  obtain ⟨-, hlen, hc, -⟩ := StageTrace.firstFrom_eq_some.mp hcompleted
  simp only [StageTrace.completes, Bool.and_eq_true, Bool.or_eq_true, decide_eq_true_eq, beq_iff_eq, bne_iff_ne,
    Bool.not_eq_true'] at hc
  obtain ⟨hlast, ⟨⟨hlt, hcomplete⟩, hopened⟩, hverifier⟩ := hc
  refine ⟨⟨hfirst, beq_iff_eq.mp htrue, fun j hj hlt => beq_eq_false_iff_ne.mp (hbefore j hj hlt)⟩, ⟨hlt, hlen⟩,
    hcomplete, ?_, ?_, hpasses.sound, ?_, hpasses.apart⟩
  · refine hopened.imp (fun h => ?_) id
    obtain ⟨j, hj, hfalse⟩ := List.any_eq_true.mp h
    obtain ⟨hle, hlt⟩ := List.mem_range'_1.mp hj
    exact ⟨j, hle, by omega, beq_iff_eq.mp hfalse⟩
  · intro hmem
    rcases hverifier with h | h
    · exact absurd (List.contains_iff_mem.mpr hmem) (by rw [h]; exact Bool.false_ne_true)
    · exact h
  · intro e he span hspan
    obtain ⟨hstart, hend, hstop⟩ := hpasses.bounds run.entered e he
    obtain ⟨-, -, hspans⟩ := (hpasses.sound e he).bounds hend
    obtain ⟨h1, h2, h3⟩ := hspans span hspan
    exact ⟨by omega, h2, by omega⟩

/-- A step that is not entered does not complete the procedure. -/
theorem notEntered_ok {step : ProcedureStepAlignment} {windows : List ActionWindow} :
    ∃ r, notEntered t draft mainIndex step windows = .ok r ∧ NotCompleted r := by
  have hfar : ∀ l : List Nat, (∀ i ∈ l, i < t.frames.length) → ∃ far, neverNear t step l = .ok far := by
    intro l
    induction l with
    | nil => exact fun _ => ⟨true, rfl⟩
    | cons i rest ih =>
      intro h
      obtain ⟨hi, hrest⟩ := List.forall_mem_cons.mp h
      simp only [neverNear, bind, Except.bind, StageTrace.evaluateAt_eq hi]
      split
      · exact ih hrest
      · exact ⟨false, rfl⟩
  obtain ⟨far, hfar⟩ := hfar (t.indices 0) fun i hi => (StageTrace.mem_indices.mp hi).2
  unfold notEntered
  simp only [bind, Except.bind, hfar]
  split
  · refine ⟨_, rfl, fun a h => ?_⟩
    cases h
    exact (by decide : ProcedurePhase.beforeEntry ≠ .alreadyCompleted)
  · exact ⟨none, rfl, notCompleted_none⟩

/-- The main steps end without a fault; if all are completed, each has a sound run. -/
theorem runMain_ok (hfit : Fitting draft mapping) : ∀ (steps : List ProcedureStepAlignment) (mainIndex : Nat)
    (progress : Progress), mainIndex + steps.length = draft.actions.stages.length →
    ∃ r, runMain t draft mapping mainIndex steps progress = .ok r ∧
      ∀ a, r = some a → a.phase = .alreadyCompleted → ∃ runs,
        Runs t draft mapping mainIndex progress.cursor steps runs ∧
        a.windows = progress.windows ++ runWindows t draft mainIndex runs := by
  intro steps
  induction steps with
  | nil =>
    intro mainIndex progress _
    refine ⟨_, rfl, fun a h _ => ?_⟩
    cases h
    exact ⟨[], trivial, (List.append_nil _).symm⟩
  | cons step rest ih =>
    intro mainIndex progress hlength
    rw [List.length_cons] at hlength
    unfold runMain
    rw [StageTrace.entry_eq]
    simp only [bind, Except.bind]
    cases hentry : t.firstFrom progress.cursor (fun i => t.truth step.entry i == .true_) with
    | none =>
      obtain ⟨r, hr, hnot⟩ := @notEntered_ok t draft mainIndex step progress.windows
      exact ⟨r, hr, fun a h hphase => absurd hphase (hnot a h)⟩
    | some entered =>
      dsimp only
      have hentered := (StageTrace.firstFrom_eq_some.mp hentry).2.1
      obtain ⟨run, hrun, hdone, hgo⟩ := @runStep_ok t draft mapping mainIndex hfit entered step (by omega) hentered
        (t.frames.length + 1) entered ⟨entered, progress.windows⟩ (by omega) (by omega)
      rw [hrun]
      match run with
      | .done result => exact ⟨result, rfl, fun a h hphase => absurd hphase (hdone result rfl a h)⟩
      | .go next =>
        obtain ⟨episodes, hpasses, hcompleted, hwindows⟩ := hgo next rfl
        obtain ⟨r, hr, hsome⟩ := ih (mainIndex + 1) next (by omega)
        refine ⟨r, hr, fun a h hphase => ?_⟩
        obtain ⟨runs, hruns, heq⟩ := hsome a h hphase
        refine ⟨⟨entered, next.cursor, episodes⟩ :: runs, ⟨stepRun_sound hentry hpasses hcompleted, hruns⟩, ?_⟩
        rw [heq, hwindows, runWindows, StepRun.windows, List.append_assoc]

end Parts

/-- **Alignment is sound.** For a draft that validates, the alignment ends without an index out of range; when
it says that the procedure is completed, every main step was entered and completed in order, branches were
followed one after the other inside their step, and the windows are exactly theirs. -/
theorem align_sound (t : StageTrace) (draft : ProcedureDraft) (hvalid : draft.validate = .ok ()) :
    (∃ r, alignWithWindows t draft = .ok r) ∧
      ∀ a, alignWithWindows t draft = .ok (some a) → a.phase = .alreadyCompleted →
        ∃ mapping runs, draft.stageAlignment = some mapping ∧ Runs t draft mapping 0 0 mapping.main runs ∧
          a.windows = runWindows t draft 0 runs := by
  unfold alignWithWindows
  cases hmapping : draft.stageAlignment with
  | none => exact ⟨⟨none, rfl⟩, fun a h => (by cases h)⟩
  | some mapping =>
    dsimp only
    by_cases hskip : (t.truncated || t.frames.isEmpty) = true
    · rw [if_pos hskip]
      exact ⟨⟨none, rfl⟩, fun a h => (by cases h)⟩
    · rw [if_neg hskip]
      have hfit := fitting_of_validate hvalid hmapping
      obtain ⟨r, hr, hsome⟩ := @runMain_ok t draft mapping hfit mapping.main 0 ⟨0, []⟩
        (by rw [Nat.zero_add]; exact hfit.main)
      refine ⟨⟨r, hr⟩, fun a h hphase => ?_⟩
      rw [hr] at h
      obtain ⟨runs, hruns, hwindows⟩ := hsome a (Except.ok.inj h) hphase
      exact ⟨mapping, runs, rfl, hruns, hwindows⟩

def phaseIs (value : String) : ConstraintExpr := .eq .phase (.text value)

def stepThrough (entry completed : String) : ProcedureStepAlignment where
  entry := phaseIs entry
  progress := phaseIs entry
  completed := phaseIs completed

/-- One main step with one recovery branch. -/
def sampleDraft : ProcedureDraft where
  scope := .worktree ⟨Fin.ofNat _ 0x70008000000000000000⟩ ⟨Fin.ofNat _ 0x70008000000000000001⟩
  title := "build"
  summary := "build and repair"
  kind := .workflow
  when_ := ⟨[], [], [], "build", [], []⟩
  conditionIrVersion := 1
  applicabilityExpr := phaseIs "building"
  avoidExpr := phaseIs "stopped"
  completionExpr := phaseIs "done"
  stageAlignment := some ⟨[stepThrough "building" "done"], [⟨0, [stepThrough "broken" "repaired"]⟩]⟩
  actions := ⟨["build"], [⟨"repair", phaseIs "broken", ["repair"]⟩], []⟩
  done := ⟨["done"], ["stopped"], ["verified"]⟩
  pitfalls := []
  evidenceRefs := ["evidence"]
  supportRevisionRefs := []

def framesOf (phases : List String) : List StageFrame :=
  phases.zipIdx.map fun (phase, sequence) => ⟨⟨[⟨.phase, .text phase⟩]⟩, sequence, none⟩

/-- The step breaks twice and is repaired twice before it is done. -/
def sampleTrace : StageTrace := ⟨framesOf ["building", "broken", "repaired", "broken", "repaired", "done"], false⟩

theorem align_sound_sample : ∃ mapping runs, sampleDraft.stageAlignment = some mapping ∧
    Runs sampleTrace sampleDraft mapping 0 0 mapping.main runs ∧
    [⟨"repair", 1, some 2⟩, ⟨"repair", 3, some 4⟩, ⟨"build", 0, some 5⟩] = runWindows sampleTrace sampleDraft 0 runs :=
  (align_sound sampleTrace sampleDraft (by decide +kernel)).2
    ⟨.alreadyCompleted, ⟨[], [], []⟩, [⟨"repair", 1, some 2⟩, ⟨"repair", 3, some 4⟩, ⟨"build", 0, some 5⟩]⟩
    (by decide +kernel) rfl

end EverTrace.L2.Alignment
