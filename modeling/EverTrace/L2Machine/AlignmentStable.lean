import EverTrace.L2Machine.AlignmentSound
/-!
# Alignment is stable (`evertrace-engine/src/procedure/alignment.rs`)

A trace grows at its end. What a search has found below the old end it finds
again; where it found nothing, it can only find something at or after the old
end. So every step that was completed is completed again, with the same windows,
and where the alignment of the shorter trace stopped, the longer one goes on from
the same windows. Windows are only appended, so the closed ones stay.

Result: `align_stable`.
-/
namespace EverTrace.L2.Alignment
open EverTrace.Lib EverTrace.L2.Semantic

def StageTrace.extended (t : StageTrace) (extra : List StageFrame) : StageTrace :=
  { t with frames := t.frames ++ extra }

/-- The windows of steps that are completed. -/
def closed (windows : List ActionWindow) : List ActionWindow := windows.filter fun w => w.beforeSequence.isSome

/-! ## Searches in a longer trace -/

/-- A search below `n` compared with one that may go on: the same result, or one at or after `n`. -/
inductive Extends (n : Nat) : Option Nat → Option Nat → Prop
  | same {i : Nat} (h : i < n) : Extends n (some i) (some i)
  | nothing : Extends n none none
  | after {i : Nat} (h : n ≤ i) : Extends n none (some i)

namespace StageTrace

variable {t : StageTrace} {extra : List StageFrame} {i entry : Nat}

theorem extended_length : (t.extended extra).frames.length = t.frames.length + extra.length := List.length_append

theorem extended_getElem? (h : i < t.frames.length) : (t.extended extra).frames[i]? = t.frames[i]? :=
  List.getElem?_append_left h

theorem extended_prior (h : i ≤ t.frames.length) : (t.extended extra).prior i = t.prior i := by
  cases i with
  | zero => rfl
  | succ i => rw [prior, prior, extended_getElem? h]

theorem extended_truth (expr : ConstraintExpr) (h : i < t.frames.length) :
    (t.extended extra).truth expr i = t.truth expr i := by
  rw [truth, truth, extended_getElem? h, extended_prior (by omega)]

theorem extended_truthWithout (expr : ConstraintExpr) (h : i < t.frames.length) :
    (t.extended extra).truthWithout expr i = t.truthWithout expr i := by
  rw [truthWithout, truthWithout, extended_getElem? h, extended_prior (by omega)]

theorem extended_openBetween (step : ProcedureStepAlignment) (h : i < t.frames.length) :
    (t.extended extra).openBetween step entry i = t.openBetween step entry i := by
  unfold openBetween
  rw [Bool.eq_iff_iff, List.any_eq_true, List.any_eq_true]
  refine exists_congr fun j => and_congr_right fun hj => ?_
  obtain ⟨hle, hlt⟩ := List.mem_range'_1.mp hj
  rw [extended_truth _ (by omega)]

theorem extended_completes (step : ProcedureStepAlignment) (h : i < t.frames.length) :
    (t.extended extra).completes step entry i = t.completes step entry i := by
  unfold completes
  by_cases hlt : entry < i
  · have hfresh : (t.extended extra).freshAt entry i = t.freshAt entry i := by
      rw [freshAt, freshAt, extended_getElem? h, extended_getElem? (by omega)]
    rw [extended_truth _ h, extended_openBetween step h, extended_truthWithout _ h, hfresh]
  · simp [hlt]

theorem extended_evaluateAt (expr : ConstraintExpr) (h : i < t.frames.length) :
    (t.extended extra).evaluateAt expr i = t.evaluateAt expr i := by
  rw [evaluateAt_eq h, evaluateAt_eq (by rw [extended_length]; omega), extended_truth expr h]

/-- Two searches whose conditions agree below the end of the shorter trace. -/
theorem firstFrom_extends {first : Nat} {p q : Nat → Bool} (hpq : ∀ i, i < t.frames.length → q i = p i) :
    Extends t.frames.length (t.firstFrom first p) ((t.extended extra).firstFrom first q) := by
  cases hp : t.firstFrom first p with
  | some i =>
    obtain ⟨hle, hlt, htrue, hbefore⟩ := firstFrom_eq_some.mp hp
    have hq : (t.extended extra).firstFrom first q = some i := by
      refine firstFrom_eq_some.mpr ⟨hle, by rw [extended_length]; omega, by rw [hpq i hlt]; exact htrue, ?_⟩
      intro j hj hji
      rw [hpq j (by omega)]
      exact hbefore j hj hji
    rw [hq]
    exact .same hlt
  | none =>
    have hnone := firstFrom_eq_none.mp hp
    cases hq : (t.extended extra).firstFrom first q with
    | none => exact .nothing
    | some i =>
      obtain ⟨hle, -, htrue, -⟩ := firstFrom_eq_some.mp hq
      refine .after (Nat.le_of_not_lt fun hlt => ?_)
      have hfalse := hnone i hle hlt
      rw [← hpq i hlt, htrue] at hfalse
      cases hfalse

theorem entry_extends (step : ProcedureStepAlignment) (first : Nat) : Extends t.frames.length
    (t.firstFrom first fun i => t.truth step.entry i == .true_)
    ((t.extended extra).firstFrom first fun i => (t.extended extra).truth step.entry i == .true_) :=
  firstFrom_extends fun i hi => by rw [extended_truth _ hi]

theorem completed_extends (step : ProcedureStepAlignment) (entry first : Nat) : Extends t.frames.length
    (t.firstFrom entry fun i => first ≤ i && t.completes step entry i)
    ((t.extended extra).firstFrom entry fun i => first ≤ i && (t.extended extra).completes step entry i) :=
  firstFrom_extends fun i hi => by rw [extended_completes _ hi]

theorem extended_actionWindow {text : String} {completed : Option Nat} (hentry : entry < t.frames.length)
    (hcompleted : ∀ c, completed = some c → c < t.frames.length) :
    (t.extended extra).actionWindow text entry completed = t.actionWindow text entry completed := by
  have hindexed : ∀ j, j < t.frames.length → indexed (t.extended extra).frames j = indexed t.frames j := by
    intro j hj
    rw [indexed, indexed, extended_getElem? hj]
  unfold actionWindow
  rw [hindexed entry hentry]
  cases completed with
  | none => rfl
  | some c => simp only [hindexed c (hcompleted c rfl)]

/-- The indices of the longer trace are those of the shorter one and then the new ones. -/
theorem extended_indices {first : Nat} (h : first ≤ t.frames.length) :
    (t.extended extra).indices first = t.indices first ++ List.range' t.frames.length extra.length := by
  unfold indices
  rw [extended_length, show t.frames.length + extra.length - first = (t.frames.length - first) + extra.length by omega,
    ← List.range'_append_1, show first + (t.frames.length - first) = t.frames.length by omega]

theorem actionWindow_none {text : String} {w : ActionWindow} (h : t.actionWindow text entry none = .ok w) :
    w.beforeSequence = none := by
  unfold actionWindow at h
  obtain ⟨after, -, h⟩ := bind_eq_ok.mp h
  cases h
  rfl

end StageTrace

/-! ## Windows only grow -/

/-- The windows a part of the work ends with, if it ends with some. -/
def windowsOf : Except AlignFault (Next Progress) → Option (List ActionWindow)
  | .ok (.done (some a)) => some a.windows
  | .ok (.go next) => some next.windows
  | _ => none

/-- The windows from before are kept, and others come after them. -/
def Grows (before : List ActionWindow) (x : Except AlignFault (Next Progress)) : Prop :=
  ∀ windows, windowsOf x = some windows → before <+: windows

theorem Grows.bind {α : Type} {before : List ActionWindow} {m : Except AlignFault α}
    {f : α → Except AlignFault (Next Progress)} (h : ∀ a, m = .ok a → Grows before (f a)) : Grows before (m >>= f) := by
  cases m with
  | error e => intro windows hw; cases hw
  | ok a => exact h a rfl

theorem Grows.none {before : List ActionWindow} : Grows before (.ok (.done none)) := fun _ h => by cases h

theorem Grows.of_prefix {before after : List ActionWindow} {x : Except AlignFault (Next Progress)}
    (h : before <+: after) (hx : Grows after x) : Grows before x := fun windows hw => h.trans (hx windows hw)

section Growth

variable {t : StageTrace} {draft : ProcedureDraft} {mapping : ProcedureStageAlignment} {mainIndex entered : Nat}

theorem deviation_windows {branchIndex stepIndex entry : Nat} {step : ProcedureStepAlignment}
    {windows : List ActionWindow} {a : Aligned}
    (h : deviation t draft mainIndex entered branchIndex stepIndex entry step windows = .ok (some a)) :
    ∃ more, a.windows = windows ++ more ∧ closed more = [] := by
  unfold deviation at h
  split at h
  · cases h
  · obtain ⟨branch, -, h⟩ := bind_eq_ok.mp h
    obtain ⟨text, -, h⟩ := bind_eq_ok.mp h
    obtain ⟨window, hwindow, h⟩ := bind_eq_ok.mp h
    obtain ⟨mainText, -, h⟩ := bind_eq_ok.mp h
    obtain ⟨mainWindow, hmain, h⟩ := bind_eq_ok.mp h
    cases h
    refine ⟨[window, mainWindow], rfl, ?_⟩
    simp [closed, StageTrace.actionWindow_none hwindow, StageTrace.actionWindow_none hmain]

/-- A step that is not completed ends the alignment, with an open window. -/
theorem closeStep_none {step : ProcedureStepAlignment} {windows : List ActionWindow} {r : Next Progress}
    (h : closeStep t draft mainIndex entered step none windows = .ok r) :
    r = .done none ∨ ∃ a more, r = .done (some a) ∧ a.windows = windows ++ more ∧ closed more = [] := by
  unfold closeStep at h
  dsimp only at h
  split at h
  · cases h
    exact .inl rfl
  · obtain ⟨text, -, h⟩ := bind_eq_ok.mp h
    obtain ⟨window, hwindow, h⟩ := bind_eq_ok.mp h
    cases h
    exact .inr ⟨_, [window], rfl, rfl, by simp [closed, StageTrace.actionWindow_none hwindow]⟩

theorem runBranch_grows {branchIndex : Nat} : ∀ (steps : List ProcedureStepAlignment) (stepIndex : Nat)
    (progress : Progress),
    Grows progress.windows (runBranch t draft mainIndex entered branchIndex stepIndex steps progress) := by
  intro steps
  induction steps with
  | nil =>
    intro stepIndex progress windows h
    cases h
    exact List.prefix_rfl
  | cons step rest ih =>
    intro stepIndex progress
    unfold runBranch
    refine Grows.bind fun entry _ => ?_
    cases entry with
    | none => exact Grows.none
    | some entry =>
      refine Grows.bind fun completed _ => ?_
      cases completed with
      | some completed =>
        refine Grows.bind fun branch _ => Grows.bind fun text _ => Grows.bind fun window _ => ?_
        exact Grows.of_prefix (List.prefix_append _ _) (ih (stepIndex + 1) ⟨completed, _⟩)
      | none =>
        refine Grows.bind fun result hresult windows h => ?_
        cases result with
        | none => cases h
        | some a =>
          cases h
          obtain ⟨more, heq, -⟩ := deviation_windows hresult
          rw [heq]
          exact List.prefix_append _ _

theorem closeStep_grows {step : ProcedureStepAlignment} {mainCompleted : Option Nat} {windows : List ActionWindow} :
    Grows windows (closeStep t draft mainIndex entered step mainCompleted windows) := by
  cases mainCompleted with
  | some completed =>
    refine Grows.bind fun text _ => Grows.bind fun window _ after h => ?_
    cases h
    exact List.prefix_append _ _
  | none =>
    intro after h
    cases hclose : closeStep t draft mainIndex entered step none windows with
    | error e =>
      rw [hclose] at h
      cases h
    | ok r =>
      rw [hclose] at h
      rcases closeStep_none hclose with rfl | ⟨a, more, rfl, heq, -⟩
      · cases h
      · cases h
        rw [heq]
        exact List.prefix_append _ _

theorem selectBranch_done {mainCompleted : Option Nat} : ∀ {l : List Nat} {result : Option Aligned},
    selectBranch t draft mapping mainIndex mainCompleted l = .ok (.done result) → result = none := by
  intro l
  induction l with
  | nil => intro result h; cases h
  | cons index rest ih =>
    intro result h
    unfold selectBranch at h
    split at h
    · cases h
    · obtain ⟨found, -, h⟩ := bind_eq_ok.mp h
      split at h
      · cases h
        rfl
      · exact ih h
      · cases h
      · cases h
        rfl

theorem selectBranch_mem {mainCompleted : Option Nat} : ∀ {l : List Nat} {s : Selected},
    selectBranch t draft mapping mainIndex mainCompleted l = .ok (.go (some s)) → s.index ∈ l := by
  intro l
  induction l with
  | nil => intro s h; cases h
  | cons index rest ih =>
    intro s h
    unfold selectBranch at h
    split at h
    · cases h
    · obtain ⟨found, -, h⟩ := bind_eq_ok.mp h
      split at h
      · cases h
      · exact List.mem_cons_of_mem _ (ih h)
      · cases h
        exact List.mem_cons_self
      · cases h

theorem runStep_grows {step : ProcedureStepAlignment} : ∀ (fuel branchFrom : Nat) (progress : Progress),
    Grows progress.windows (runStep t draft mapping mainIndex entered step fuel branchFrom progress) := by
  intro fuel
  induction fuel with
  | zero => intro branchFrom progress windows h; cases h
  | succ fuel ih =>
    intro branchFrom progress
    unfold runStep
    refine Grows.bind fun mainCompleted _ => Grows.bind fun selected hselected => ?_
    cases selected with
    | done result =>
      rw [selectBranch_done hselected]
      exact Grows.none
    | go selected =>
      cases selected with
      | none => exact closeStep_grows
      | some s =>
        refine Grows.bind fun run hrun => ?_
        have hgrows := @runBranch_grows t draft mainIndex entered s.branchIndex s.branch.steps 0
          ⟨s.index, progress.windows⟩
        rw [hrun] at hgrows
        cases run with
        | done result => exact hgrows
        | go next => exact Grows.of_prefix (hgrows next.windows rfl) (ih _ next)

theorem runMain_grows : ∀ {steps : List ProcedureStepAlignment} {mainIndex : Nat} {progress : Progress} {a : Aligned},
    runMain t draft mapping mainIndex steps progress = .ok (some a) → progress.windows <+: a.windows := by
  intro steps
  induction steps with
  | nil =>
    intro mainIndex progress a h
    cases h
    exact List.prefix_rfl
  | cons step rest ih =>
    intro mainIndex progress a h
    unfold runMain at h
    obtain ⟨entered, -, h⟩ := bind_eq_ok.mp h
    cases entered with
    | none =>
      obtain ⟨far, -, h⟩ := bind_eq_ok.mp h
      split at h
      · cases h
        exact List.prefix_rfl
      · cases h
    | some entered =>
      obtain ⟨run, hrun, h⟩ := bind_eq_ok.mp h
      have hgrows := @runStep_grows t draft mapping mainIndex entered step (t.frames.length + 1) entered
        ⟨entered, progress.windows⟩
      rw [hrun] at hgrows
      cases run with
      | done result =>
        cases h
        exact hgrows a.windows rfl
      | go next => exact (hgrows next.windows rfl).trans (ih h)

end Growth

/-! ## The longer trace follows the shorter one -/

/-- A part of the work on the shorter trace, and the same part on the longer one: what is handed on is the
same, and where the shorter alignment stops its closed windows are kept. -/
structure Stable (x x' : Except AlignFault (Next Progress)) : Prop where
  go : ∀ {next}, x = .ok (.go next) → x' = .ok (.go next)
  done : ∀ {a windows}, x = .ok (.done (some a)) → windowsOf x' = some windows → closed a.windows <+: closed windows

theorem Stable.bind {α : Type} {m : Except AlignFault α} {f f' : α → Except AlignFault (Next Progress)}
    (h : ∀ a, m = .ok a → Stable (f a) (f' a)) : Stable (m >>= f) (m >>= f') := by
  cases m with
  | error e => exact ⟨fun h => (by cases h), fun h => (by cases h)⟩
  | ok a => exact h a rfl

theorem Stable.none {x' : Except AlignFault (Next Progress)} : Stable (.ok (.done none)) x' :=
  ⟨fun h => (by cases h), fun h => (by cases h)⟩

/-- The shorter alignment stops with open windows, the longer one goes on from the same windows. -/
theorem Stable.stop {a : Aligned} {before more : List ActionWindow} {x' : Except AlignFault (Next Progress)}
    (ha : a.windows = before ++ more) (hmore : closed more = []) (hgrows : Grows before x') :
    Stable (.ok (.done (some a))) x' := by
  refine ⟨fun h => (by cases h), fun h hw => ?_⟩
  cases h
  have hclosed : closed a.windows = closed before := by
    rw [ha, closed, List.filter_append]
    show closed before ++ closed more = closed before
    rw [hmore, List.append_nil]
  rw [hclosed]
  exact (hgrows _ hw).filter _

theorem Stable.andThen {x x' : Except AlignFault (Next Progress)} {f f' : Progress → Except AlignFault (Next Progress)}
    (h : Stable x x') (hgo : ∀ next, x = .ok (.go next) → Stable (f next) (f' next))
    (hgrows : ∀ next, Grows next.windows (f' next)) :
    Stable (x >>= fun run => match run with | .done result => return .done result | .go next => f next)
      (x' >>= fun run => match run with | .done result => return .done result | .go next => f' next) := by
  cases hx : x with
  | error e => exact ⟨fun h => (by cases h), fun h => (by cases h)⟩
  | ok run =>
    match run with
    | .done .none => exact Stable.none
    | .done (.some a) =>
      refine ⟨fun h => (by cases h), fun {b windows} hb hw => ?_⟩
      cases hb
      cases hx' : x' with
      | error e =>
        rw [hx'] at hw
        cases hw
      | ok run' =>
        rw [hx'] at hw h
        match run' with
        | .done result => exact h.done hx hw
        | .go next => exact (h.done hx rfl).trans ((hgrows next windows hw).filter _)
    | .go next =>
      rw [h.go hx]
      exact hgo next hx

section Stability

variable {t : StageTrace} {extra : List StageFrame} {draft : ProcedureDraft} {mapping : ProcedureStageAlignment}
  {mainIndex entered : Nat}

theorem extended_matchBranches {index : Nat} (h : index < t.frames.length) :
    ∀ {l : List (ProcedureBranchAlignment × Nat)},
    matchBranches (t.extended extra) draft mainIndex index l = matchBranches t draft mainIndex index l := by
  intro l
  induction l with
  | nil => rfl
  | cons first rest ih =>
    obtain ⟨branch, branchIndex⟩ := first
    unfold matchBranches
    simp only [StageTrace.extended_evaluateAt _ h, ih]

/-- The completion of the main step is the same or comes after the old end, so up to there the same branches
are looked at. -/
theorem selectBranch_stable {mc mc' : Option Nat} (hmc : Extends t.frames.length mc mc') {more : List Nat}
    (hmore : ∀ i ∈ more, t.frames.length ≤ i) : ∀ {l : List Nat}, (∀ i ∈ l, i < t.frames.length) →
    ∀ {r : Option Selected}, selectBranch t draft mapping mainIndex mc l = .ok (.go r) →
    (mc = none → r ≠ none) →
    selectBranch (t.extended extra) draft mapping mainIndex mc' (l ++ more) = .ok (.go r) := by
  intro l
  induction l with
  | nil =>
    intro _ r h hr
    cases h
    cases hmc with
    | nothing => exact absurd rfl (hr rfl)
    | after _ => exact absurd rfl (hr rfl)
    | same hlt =>
      cases more with
      | nil => rfl
      | cons index rest =>
        have hle := hmore index List.mem_cons_self
        rw [List.nil_append, selectBranch, if_pos (by simp; omega)]
        rfl
  | cons index rest ih =>
    intro hl r h hr
    obtain ⟨hindex, hrest⟩ := List.forall_mem_cons.mp hl
    have hany : mc'.any (· ≤ index) = mc.any (· ≤ index) := by
      cases hmc with
      | same _ => rfl
      | nothing => rfl
      | after hle => simp; omega
    rw [List.cons_append]
    unfold selectBranch at h ⊢
    rw [hany]
    by_cases hpast : mc.any (· ≤ index) = true
    · rw [if_pos hpast] at h ⊢
      exact h
    · rw [if_neg hpast] at h ⊢
      rw [extended_matchBranches hindex]
      obtain ⟨found, hfound, h⟩ := bind_eq_ok.mp h
      rw [hfound]
      match found with
      | none => cases h
      | some [] => exact ih hrest h hr
      | some [_] => exact h
      | some (_ :: _ :: _) => cases h

theorem runBranch_stable {branchIndex : Nat} : ∀ {steps : List ProcedureStepAlignment} {stepIndex : Nat}
    {progress : Progress}, Stable (runBranch t draft mainIndex entered branchIndex stepIndex steps progress)
      (runBranch (t.extended extra) draft mainIndex entered branchIndex stepIndex steps progress) := by
  intro steps
  induction steps with
  | nil =>
    intro stepIndex progress
    exact ⟨id, fun h => (by cases h)⟩
  | cons step rest ih =>
    intro stepIndex progress
    have hgrows := @runBranch_grows (t.extended extra) draft mainIndex entered branchIndex (step :: rest) stepIndex
      progress
    unfold runBranch at hgrows ⊢
    rw [StageTrace.entry_eq, ok_bind] at hgrows ⊢
    rw [StageTrace.entry_eq, ok_bind]
    cases hfound : t.firstFrom progress.cursor (fun i => t.truth step.entry i == .true_) with
    | none => exact Stable.none
    | some entry =>
      have hentry := @StageTrace.entry_extends t extra step progress.cursor
      rw [hfound] at hentry
      generalize (t.extended extra).firstFrom progress.cursor
        (fun i => (t.extended extra).truth step.entry i == .true_) = found' at hentry hgrows ⊢
      cases hentry with
      | same hlt =>
        dsimp only at hgrows ⊢
        rw [StageTrace.completed_eq, ok_bind] at hgrows ⊢
        rw [StageTrace.completed_eq, ok_bind]
        cases hfound : t.firstFrom entry (fun i => entry ≤ i && t.completes step entry i) with
        | none =>
          dsimp only
          cases hdeviation : deviation t draft mainIndex entered branchIndex stepIndex entry step progress.windows with
          | error e => exact ⟨fun h => (by cases h), fun h => (by cases h)⟩
          | ok result =>
            cases result with
            | none => exact Stable.none
            | some a =>
              obtain ⟨more, heq, hmore⟩ := deviation_windows hdeviation
              exact Stable.stop heq hmore hgrows
        | some completed =>
          have hcompleted := @StageTrace.completed_extends t extra step entry entry
          rw [hfound] at hcompleted
          generalize (t.extended extra).firstFrom entry
            (fun i => entry ≤ i && (t.extended extra).completes step entry i) = found' at hcompleted hgrows ⊢
          cases hcompleted with
          | same hlt' =>
            refine Stable.bind fun branch _ => Stable.bind fun text _ => ?_
            rw [StageTrace.extended_actionWindow hlt fun c hc => (by rw [← Option.some.inj hc]; exact hlt')]
            exact Stable.bind fun window _ => ih

theorem runBranch_cursor {branchIndex : Nat} : ∀ {steps : List ProcedureStepAlignment} {stepIndex : Nat}
    {progress next : Progress}, progress.cursor < t.frames.length →
    runBranch t draft mainIndex entered branchIndex stepIndex steps progress = .ok (.go next) →
    next.cursor < t.frames.length := by
  intro steps
  induction steps with
  | nil =>
    intro stepIndex progress next hlt h
    cases h
    exact hlt
  | cons step rest ih =>
    intro stepIndex progress next hlt h
    unfold runBranch at h
    obtain ⟨entry, -, h⟩ := bind_eq_ok.mp h
    cases entry with
    | none => cases h
    | some entry =>
      obtain ⟨completed, hcompleted, h⟩ := bind_eq_ok.mp h
      cases completed with
      | some completed =>
        obtain ⟨branch, -, h⟩ := bind_eq_ok.mp h
        obtain ⟨text, -, h⟩ := bind_eq_ok.mp h
        obtain ⟨window, -, h⟩ := bind_eq_ok.mp h
        rw [StageTrace.completed_eq] at hcompleted
        exact ih (StageTrace.firstFrom_eq_some.mp (Except.ok.inj hcompleted)).2.1 h
      | none =>
        obtain ⟨result, -, h⟩ := bind_eq_ok.mp h
        cases h

theorem closeStep_some {step : ProcedureStepAlignment} {completed : Nat} {windows : List ActionWindow}
    (hentered : entered < t.frames.length) (hcompleted : completed < t.frames.length) :
    Stable (closeStep t draft mainIndex entered step (some completed) windows)
      (closeStep (t.extended extra) draft mainIndex entered step (some completed) windows) := by
  refine Stable.bind fun text _ => ?_
  rw [StageTrace.extended_actionWindow hentered fun c hc => (by rw [← Option.some.inj hc]; exact hcompleted)]
  exact Stable.bind fun window _ => ⟨id, fun h => (by cases h)⟩

/-- A step that is not completed ends the shorter alignment; the longer one goes on. -/
theorem closeStep_stops {step : ProcedureStepAlignment} {windows : List ActionWindow}
    {x' : Except AlignFault (Next Progress)} (hgrows : Grows windows x') :
    Stable (closeStep t draft mainIndex entered step none windows) x' := by
  cases hclose : closeStep t draft mainIndex entered step none windows with
  | error e => exact ⟨fun h => (by cases h), fun h => (by cases h)⟩
  | ok r =>
    rcases closeStep_none hclose with rfl | ⟨a, more, rfl, heq, hmore⟩
    · exact Stable.none
    · exact Stable.stop heq hmore hgrows

theorem runStep_stable {step : ProcedureStepAlignment} (hentered : entered < t.frames.length) :
    ∀ {fuel fuel' branchFrom : Nat} {progress : Progress}, fuel ≤ fuel' → branchFrom ≤ t.frames.length →
    Stable (runStep t draft mapping mainIndex entered step fuel branchFrom progress)
      (runStep (t.extended extra) draft mapping mainIndex entered step fuel' branchFrom progress) := by
  intro fuel
  induction fuel with
  | zero => intro _ _ _ _ _; exact ⟨fun h => (by cases h), fun h => (by cases h)⟩
  | succ fuel ih =>
    intro fuel' branchFrom progress hfuel hfrom
    obtain ⟨fuel', rfl⟩ : ∃ n, fuel' = n + 1 := ⟨fuel' - 1, by omega⟩
    have hgrows := @runStep_grows (t.extended extra) draft mapping mainIndex entered step (fuel' + 1) branchFrom
      progress
    unfold runStep at hgrows ⊢
    rw [StageTrace.completed_eq, ok_bind, StageTrace.extended_indices hfrom] at hgrows ⊢
    rw [StageTrace.completed_eq, ok_bind]
    have hcompleted := @StageTrace.completed_extends t extra step entered progress.cursor
    generalize t.firstFrom entered (fun i => progress.cursor ≤ i && t.completes step entered i) = mc
      at hcompleted ⊢
    generalize (t.extended extra).firstFrom entered
      (fun i => progress.cursor ≤ i && (t.extended extra).completes step entered i) = mc' at hcompleted hgrows ⊢
    have hselect := @selectBranch_stable t extra draft mapping mainIndex mc mc' hcompleted
      (List.range' t.frames.length extra.length) (fun i hi => (List.mem_range'_1.mp hi).1) (t.indices branchFrom)
      (fun i hi => (StageTrace.mem_indices.mp hi).2)
    cases hselected : selectBranch t draft mapping mainIndex mc (t.indices branchFrom) with
    | error e => exact ⟨fun h => (by cases h), fun h => (by cases h)⟩
    | ok selected =>
      rw [ok_bind]
      cases selected with
      | done result =>
        rw [selectBranch_done hselected]
        exact Stable.none
      | go selected =>
        cases selected with
        | some s =>
          rw [hselect hselected fun _ => Option.some_ne_none s, ok_bind]
          have hindex := (StageTrace.mem_indices.mp (selectBranch_mem hselected)).2
          exact runBranch_stable.andThen (fun next hnext => ih (by omega) (runBranch_cursor hindex hnext))
            fun next => runStep_grows fuel' (next.cursor + 1) next
        | none =>
          cases hcompleted with
          | same hlt =>
            rw [hselect hselected fun h => (by cases h), ok_bind]
            exact closeStep_some hentered hlt
          | nothing => exact closeStep_stops hgrows
          | after hle => exact closeStep_stops hgrows

theorem notEntered_windows {step : ProcedureStepAlignment} {windows : List ActionWindow} {a : Aligned}
    (h : notEntered t draft mainIndex step windows = .ok (some a)) : a.windows = windows := by
  obtain ⟨far, -, h⟩ := bind_eq_ok.mp h
  split at h
  · cases h
    rfl
  · cases h

/-- What the main steps return on the shorter trace, and on the longer one. -/
theorem runMain_stable (hfit : Fitting draft mapping) : ∀ {steps : List ProcedureStepAlignment} {mainIndex : Nat}
    {progress : Progress} {a : Aligned}, mainIndex + steps.length = draft.actions.stages.length →
    runMain t draft mapping mainIndex steps progress = .ok (some a) →
    (a.phase = .alreadyCompleted →
      runMain (t.extended extra) draft mapping mainIndex steps progress = .ok (some a)) ∧
    ∀ b, runMain (t.extended extra) draft mapping mainIndex steps progress = .ok (some b) →
      closed a.windows <+: closed b.windows := by
  intro steps
  induction steps with
  | nil =>
    intro mainIndex progress a _ h
    refine ⟨fun _ => h, fun b hb => ?_⟩
    cases h
    cases hb
    exact List.prefix_rfl
  | cons step rest ih =>
    intro mainIndex progress a hlength h
    rw [List.length_cons] at hlength
    have hgrows := fun b => @runMain_grows (t.extended extra) draft mapping (step :: rest) mainIndex progress b
    unfold runMain at h hgrows ⊢
    rw [StageTrace.entry_eq, ok_bind] at h hgrows ⊢
    cases hfound : t.firstFrom progress.cursor (fun i => t.truth step.entry i == .true_) with
    | none =>
      rw [hfound] at h
      obtain ⟨r, hr, hnot⟩ := @notEntered_ok t draft mainIndex step progress.windows
      rw [Except.ok.inj (hr.symm.trans h)] at hnot
      refine ⟨fun hphase => absurd hphase (hnot a rfl), fun b hb => ?_⟩
      rw [notEntered_windows h]
      exact (hgrows b hb).filter _
    | some entered =>
      have hentered := (StageTrace.firstFrom_eq_some.mp hfound).2.1
      have hentry := @StageTrace.entry_extends t extra step progress.cursor
      rw [hfound] at h hentry
      generalize (t.extended extra).firstFrom progress.cursor
        (fun i => (t.extended extra).truth step.entry i == .true_) = found' at hentry ⊢
      cases hentry with
      | same _ =>
        obtain ⟨run, hrun, h⟩ := bind_eq_ok.mp h
        have hstable := @runStep_stable t extra draft mapping mainIndex entered step hentered
          (t.frames.length + 1) ((t.extended extra).frames.length + 1) entered ⟨entered, progress.windows⟩
          (by rw [StageTrace.extended_length]; omega) (by omega)
        cases run with
        | done result =>
          cases h
          obtain ⟨r, hr, hdone, -⟩ := @runStep_ok t draft mapping mainIndex hfit entered step (by omega) hentered
            (t.frames.length + 1) entered ⟨entered, progress.windows⟩ (by omega) (by omega)
          rw [hr] at hrun
          refine ⟨fun hphase => absurd hphase (hdone _ (Except.ok.inj hrun) a rfl), fun b hb => ?_⟩
          rw [← hr] at hrun
          obtain ⟨run', hrun', hb⟩ := bind_eq_ok.mp hb
          rw [hrun'] at hstable
          cases run' with
          | done result' =>
            cases hb
            exact hstable.done hrun rfl
          | go next => exact (hstable.done hrun rfl).trans ((runMain_grows hb).filter _)
        | go next =>
          dsimp only
          rw [hstable.go hrun, ok_bind]
          exact ih (by omega) h

end Stability

/-- **Alignment is stable as the trace grows.** A procedure that is completed stays completed with the same
windows, and whenever both traces align, the closed windows of the shorter one come first in the longer one.
A truncated trace never aligns. -/
theorem align_stable (t : StageTrace) (extra : List StageFrame) (draft : ProcedureDraft)
    (hvalid : draft.validate = .ok ()) :
    (∀ a, alignWithWindows t draft = .ok (some a) → a.phase = .alreadyCompleted →
      alignWithWindows (t.extended extra) draft = .ok (some a)) ∧
    ∀ a b, alignWithWindows t draft = .ok (some a) → alignWithWindows (t.extended extra) draft = .ok (some b) →
      closed a.windows <+: closed b.windows := by
  have hrun : ∀ a, alignWithWindows t draft = .ok (some a) → ∃ mapping, draft.stageAlignment = some mapping ∧
      runMain t draft mapping 0 mapping.main ⟨0, []⟩ = .ok (some a) ∧
      alignWithWindows (t.extended extra) draft =
        runMain (t.extended extra) draft mapping 0 mapping.main ⟨0, []⟩ := by
    intro a h
    unfold alignWithWindows at h ⊢
    cases hmapping : draft.stageAlignment with
    | none =>
      rw [hmapping] at h
      cases h
    | some mapping =>
      rw [hmapping] at h
      dsimp only at h ⊢
      by_cases hskip : (t.truncated || t.frames.isEmpty) = true
      · rw [if_pos hskip] at h
        cases h
      · rw [if_neg hskip] at h
        obtain ⟨htruncated, hempty⟩ := Bool.or_eq_false_iff.mp (Bool.not_eq_true _ ▸ hskip)
        have hkept : ((t.extended extra).truncated || (t.extended extra).frames.isEmpty) = false := by
          rw [Bool.or_eq_false_iff]
          refine ⟨htruncated, ?_⟩
          cases hframes : t.frames with
          | nil =>
            rw [hframes] at hempty
            cases hempty
          | cons frame rest => simp [StageTrace.extended, hframes]
        exact ⟨mapping, rfl, h, by rw [hkept]; rfl⟩
  refine ⟨fun a ha hphase => ?_, fun a b ha hb => ?_⟩
  · obtain ⟨mapping, hmapping, ha, heq⟩ := hrun a ha
    have hfit := fitting_of_validate hvalid hmapping
    rw [heq]
    exact (runMain_stable hfit (by rw [Nat.zero_add]; exact hfit.main) ha).1 hphase
  · obtain ⟨mapping, hmapping, ha, heq⟩ := hrun a ha
    have hfit := fitting_of_validate hvalid hmapping
    rw [heq] at hb
    exact (runMain_stable hfit (by rw [Nat.zero_add]; exact hfit.main) ha).2 b hb

/-- The sample is completed; the frames that come after it change nothing. -/
theorem align_stable_sample :
    alignWithWindows (sampleTrace.extended (framesOf ["broken", "building"])) sampleDraft =
      .ok (some ⟨.alreadyCompleted, ⟨[], [], []⟩,
        [⟨"repair", 1, some 2⟩, ⟨"repair", 3, some 4⟩, ⟨"build", 0, some 5⟩]⟩) :=
  (align_stable sampleTrace (framesOf ["broken", "building"]) sampleDraft (by decide +kernel)).1 _ (by decide +kernel) rfl

end EverTrace.L2.Alignment
