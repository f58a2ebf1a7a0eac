import Mathlib.Data.List.Basic
/-!
# Runs of a guarded state machine

A machine takes one event after another; each event is accepted or refused
(`accepts`) and leads to a next state (`next`). `run` is the state after a
list of events and `accepted` the events that were accepted, in order.

The rules below turn one-step facts into facts about every run:
* `run_invariant`, `run_invariant_accepted`: what every event, or every accepted
  event, preserves holds at the end of a run.
* `accepted_avoid`: a state that, for good, refuses a kind of event.
* `accepted_after`, `countP_accepted_le_one`: an accepted event that puts the
  machine into such a state is the last of its kind.
-/
namespace EverTrace.Lib

variable {σ ε : Type} (accepts : σ → ε → Bool) (next : σ → ε → σ)

def run (s : σ) (events : List ε) : σ := events.foldl next s

def accepted (s : σ) : List ε → List ε
  | [] => []
  | e :: rest => if accepts s e then e :: accepted (next s e) rest else accepted (next s e) rest

theorem run_append (s : σ) (es fs : List ε) : run next s (es ++ fs) = run next (run next s es) fs :=
  List.foldl_append

variable {accepts next}

theorem accepted_cons (s : σ) (e : ε) (rest : List ε) : accepted accepts next s (e :: rest) =
    if accepts s e then e :: accepted accepts next (next s e) rest else accepted accepts next (next s e) rest := rfl

theorem mem_of_mem_accepted {x : ε} : ∀ {events : List ε} {s : σ}, x ∈ accepted accepts next s events → x ∈ events := by
  intro events
  induction events with
  | nil => intro s h; exact h
  | cons e rest ih =>
    intro s h
    rw [accepted_cons] at h
    split at h
    · rcases List.mem_cons.mp h with rfl | h
      · exact List.mem_cons_self
      · exact List.mem_cons_of_mem _ (ih h)
    · exact List.mem_cons_of_mem _ (ih h)

/-- What every event of a run preserves holds at the end of it. -/
theorem run_invariant {P : σ → Prop} : ∀ (events : List ε), (∀ s, ∀ e ∈ events, P s → P (next s e)) →
    ∀ s, P s → P (run next s events) := by
  intro events
  induction events with
  | nil => exact fun _ s hs => hs
  | cons e rest ih =>
    intro keep s hs
    exact ih (fun s x hx => keep s x (List.mem_cons_of_mem _ hx)) (next s e)
      (keep s e List.mem_cons_self hs)

/-- What every accepted event of a run preserves, refused ones changing nothing that matters, holds at the end of
it. -/
theorem run_invariant_accepted {P : σ → Prop} (refused : ∀ s e, accepts s e = false → P s → P (next s e)) :
    ∀ (events : List ε) (s : σ),
      (∀ t, ∀ e ∈ accepted accepts next s events, accepts t e = true → P t → P (next t e)) →
      P s → P (run next s events) := by
  intro events
  induction events with
  | nil => exact fun s _ hs => hs
  | cons e rest ih =>
    intro s keep hs
    rw [accepted_cons] at keep
    by_cases hacc : accepts s e = true
    · rw [if_pos hacc] at keep
      exact ih _ (fun t x hx => keep t x (List.mem_cons_of_mem _ hx)) (keep s e List.mem_cons_self hacc hs)
    · rw [if_neg hacc] at keep
      exact ih _ keep (refused s e (by simpa using hacc) hs)

theorem run_of_accepted {P : σ → Prop} (keep : ∀ s e, P s → P (next s e)) {x : ε}
    (reach : ∀ s, accepts s x = true → P (next s x)) : ∀ (events : List ε) (s : σ),
    x ∈ accepted accepts next s events → P (run next s events) := by
  intro events
  induction events with
  | nil => intro s h; cases h
  | cons y rest ih =>
    intro s h
    rw [accepted_cons] at h
    split at h
    · next hacc =>
      rcases List.mem_cons.mp h with rfl | h
      · exact run_invariant rest (fun s e _ => keep s e) _ (reach s hacc)
      · exact ih _ h
    · exact ih _ h

/-- If `P` is kept by every event and refuses the events `Q`, none of them is accepted from `P` on. -/
theorem accepted_avoid {P : σ → Prop} {Q : ε → Prop} (keep : ∀ s e, P s → P (next s e))
    (block : ∀ s e, P s → accepts s e = true → ¬ Q e) :
    ∀ (events : List ε) (s : σ), P s → ∀ e ∈ accepted accepts next s events, ¬ Q e := by
  intro events
  induction events with
  | nil => intro s _ e he; cases he
  | cons x rest ih =>
    intro s hs e he
    rw [accepted_cons] at he
    split at he
    · next hacc =>
      rcases List.mem_cons.mp he with rfl | he
      · exact block s e hs hacc
      · exact ih _ (keep s x hs) e he
    · exact ih _ (keep s x hs) e he

theorem accepted_after {P : σ → Prop} {Q : ε → Prop} (keep : ∀ s e, P s → P (next s e))
    (block : ∀ s e, P s → accepts s e = true → ¬ Q e) {x : ε}
    (reach : ∀ s, accepts s x = true → P (next s x)) :
    ∀ (events : List ε) (s : σ) (before after : List ε),
      accepted accepts next s events = before ++ x :: after → ∀ e ∈ after, ¬ Q e := by
  intro events
  induction events with
  | nil => intro s before after h; cases before <;> cases h
  | cons y rest ih =>
    intro s before after h
    rw [accepted_cons] at h
    split at h
    · next hacc =>
      cases before with
      | nil =>
        obtain ⟨rfl, rfl⟩ := List.cons.inj h
        exact accepted_avoid keep block rest _ (reach s hacc)
      | cons b before =>
        obtain ⟨-, h⟩ := List.cons.inj h
        exact ih _ before after h
    · exact ih _ before after h

/-- A kind of event that refuses itself once accepted is accepted at most once. -/
theorem countP_accepted_le_one {P : σ → Prop} {q : ε → Bool} (keep : ∀ s e, P s → P (next s e))
    (block : ∀ s e, P s → accepts s e = true → q e = false)
    (reach : ∀ s e, accepts s e = true → q e = true → P (next s e)) :
    ∀ (events : List ε) (s : σ), (accepted accepts next s events).countP q ≤ 1 := by
  intro events
  induction events with
  | nil => intro s; simp [accepted]
  | cons e rest ih =>
    intro s
    rw [accepted_cons]
    split
    · next hacc =>
      by_cases hq : q e = true
      · have hnone := accepted_avoid keep (Q := fun e => q e = true)
          (fun s e hs h => by simpa using block s e hs h) rest _ (reach s e hacc hq)
        have hzero := List.countP_eq_zero.mpr hnone
        rw [List.countP_cons_of_pos hq]
        omega
      · rw [List.countP_cons_of_neg hq]
        exact ih _
    · exact ih _

end EverTrace.Lib
