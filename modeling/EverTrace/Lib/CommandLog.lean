import Mathlib.Data.List.Nodup
/-!
# Logs of commands

A client submits a command under a key of its own choice and gets an answer.
The log takes a key once: what it took stays, in order, with the receipt that
was made for it. The answer can be lost on its way back, so the client submits
the same command again; the log then answers with the receipt of the first time.

`Step` says what one submission may do, `Run` what a list of them may. A system
that is shown to make only such steps inherits what is proved of runs here: a
receipt once given stays the only one of its key (`Run.acknowledged_alike`), a key is
taken at most once (`Run.taken_once`), and an answered command is in the log from
then on (`Run.receipt_stays`).
-/
namespace EverTrace.Lib.CommandLog

/-- A command in the log: its key, what it says, and the receipt made for it. -/
structure Entry (κ γ ρ : Type) where
  key : κ
  content : γ
  receipt : ρ

/-- What the client hears. `refused` is every failure: nothing is said about the log. -/
inductive Answer (ρ : Type) where
  | taken (receipt : ρ)
  | repeated (receipt : ρ)
  | refused

/-- The receipt in an answer. -/
def Answer.receipt? {ρ : Type} : Answer ρ → Option ρ
  | .taken r | .repeated r => some r
  | .refused => none

variable {κ γ ρ : Type}

/-- What one submission may do. -/
inductive Step : List (Entry κ γ ρ) → κ → γ → Answer ρ → List (Entry κ γ ρ) → Prop where
  | taken {log k c r} (fresh : ∀ e ∈ log, e.key ≠ k) : Step log k c (.taken r) (log ++ [⟨k, c, r⟩])
  /-- The command was taken and the answer lost. -/
  | lost {log k c r} (fresh : ∀ e ∈ log, e.key ≠ k) : Step log k c .refused (log ++ [⟨k, c, r⟩])
  | repeated {log k c r} (mem : ⟨k, c, r⟩ ∈ log) : Step log k c (.repeated r) log
  | refused {log k c} : Step log k c .refused log

structure Exchange (κ γ ρ : Type) where
  key : κ
  content : γ
  answer : Answer ρ

inductive Run : List (Entry κ γ ρ) → List (Exchange κ γ ρ) → List (Entry κ γ ρ) → Prop where
  | nil {log} : Run log [] log
  | cons {log mid last x xs} (step : Step log x.key x.content x.answer mid) (rest : Run mid xs last) :
      Run log (x :: xs) last

def Distinct (log : List (Entry κ γ ρ)) : Prop := (log.map Entry.key).Nodup

variable {log log' : List (Entry κ γ ρ)} {k : κ} {c : γ} {a : Answer ρ} {xs : List (Exchange κ γ ρ)}

theorem Distinct.eq_of_key (h : Distinct log) {e e' : Entry κ γ ρ} (he : e ∈ log) (he' : e' ∈ log)
    (hk : e.key = e'.key) : e = e' := List.inj_on_of_nodup_map h he he' hk

theorem Distinct.concat (h : Distinct log) {e : Entry κ γ ρ} (fresh : ∀ e' ∈ log, e'.key ≠ e.key) :
    Distinct (log ++ [e]) := by
  rw [Distinct, List.map_append]
  refine List.Nodup.append h (List.nodup_singleton _) ?_
  intro x hx hx'
  obtain ⟨e', he', rfl⟩ := List.mem_map.mp hx
  exact fresh e' he' (List.mem_singleton.mp hx')

/-! ## One step -/

theorem Step.prefix_ (h : Step log k c a log') : log <+: log' := by
  cases h with
  | taken _ => exact List.prefix_append _ _
  | lost _ => exact List.prefix_append _ _
  | repeated _ => exact List.prefix_refl _
  | refused => exact List.prefix_refl _

theorem Step.distinct (h : Step log k c a log') (hd : Distinct log) : Distinct log' := by
  cases h with
  | taken fresh => exact hd.concat fresh
  | lost fresh => exact hd.concat fresh
  | repeated _ => exact hd
  | refused => exact hd

/-- A receipt is that of the entry in the log. -/
theorem Step.receipt (h : Step log k c a log') {r : ρ} (hr : a.receipt? = some r) : ⟨k, c, r⟩ ∈ log' := by
  cases h with
  | taken _ =>
    cases hr
    exact List.mem_append_right _ (List.mem_singleton.mpr rfl)
  | repeated mem =>
    cases hr
    exact mem
  | lost _ => cases hr
  | refused => cases hr

/-- Only a key the log does not hold is taken. -/
theorem Step.fresh_of_taken {r : ρ} (h : Step log k c (.taken r) log') : ∀ e ∈ log, e.key ≠ k := by
  cases h with
  | taken fresh => exact fresh

/-! ## Runs -/

theorem Run.prefix_ (h : Run log xs log') : log <+: log' := by
  induction h with
  | nil => exact List.prefix_refl _
  | cons step _ ih => exact step.prefix_.trans ih

theorem Run.distinct (h : Run log xs log') (hd : Distinct log) : Distinct log' := by
  induction h with
  | nil => exact hd
  | cons step _ ih => exact ih (step.distinct hd)

/-- An answered command is in the log at the end of the run, under the receipt of the answer. -/
theorem Run.receipt_stays (h : Run log xs log') {x : Exchange κ γ ρ} (hx : x ∈ xs) {r : ρ}
    (hr : x.answer.receipt? = some r) : ⟨x.key, x.content, r⟩ ∈ log' := by
  induction h with
  | nil => cases hx
  | cons step rest ih =>
    rcases List.mem_cons.mp hx with rfl | hx
    · exact rest.prefix_.subset (step.receipt hr)
    · exact ih hx

/-- Two answers with a receipt under one key are about the same command and give the same receipt. -/
theorem Run.acknowledged_alike (h : Run log xs log') (hd : Distinct log) {x y : Exchange κ γ ρ} (hx : x ∈ xs)
    (hy : y ∈ xs) (hk : x.key = y.key) {r s : ρ} (hr : x.answer.receipt? = some r)
    (hs : y.answer.receipt? = some s) : x.content = y.content ∧ r = s := by
  have heq := (h.distinct hd).eq_of_key (h.receipt_stays hx hr) (h.receipt_stays hy hs) hk
  exact ⟨congrArg Entry.content heq, congrArg Entry.receipt heq⟩

theorem Run.not_taken (h : Run log xs log') {e : Entry κ γ ρ} (he : e ∈ log) {x : Exchange κ γ ρ} (hx : x ∈ xs)
    (hk : x.key = e.key) {r : ρ} : x.answer ≠ .taken r := by
  induction h with
  | nil => cases hx
  | cons step _ ih =>
    rcases List.mem_cons.mp hx with rfl | hx
    · intro ha
      rw [ha] at step
      exact step.fresh_of_taken e he hk.symm
    · exact ih (step.prefix_.subset he) hx

def Answer.isTaken : Answer ρ → Bool
  | .taken _ => true
  | _ => false

theorem Step.length_of_acknowledged (h : Step log k c a log') (ha : a.receipt?.isSome = true) :
    log'.length = log.length + if a.isTaken then 1 else 0 := by
  cases h with
  | taken fresh => exact List.length_append
  | lost fresh => cases ha
  | repeated mem => rfl
  | refused => rfl

/-- Where every answer arrives, the log grows by the commands that were answered as new. -/
theorem Run.length_of_acknowledged (h : Run log xs log') (hall : ∀ x ∈ xs, x.answer.receipt?.isSome = true) :
    log'.length = log.length + xs.countP fun x => x.answer.isTaken := by
  induction h with
  | nil => rfl
  | @cons log mid last x xs step rest ih =>
    rw [ih fun y hy => hall y (List.mem_cons_of_mem _ hy), step.length_of_acknowledged (hall x List.mem_cons_self),
      List.countP_cons]
    omega

/-- The exchange took a command under this key. -/
def takes [DecidableEq κ] (k : κ) (x : Exchange κ γ ρ) : Bool := x.key = k && x.answer.isTaken

theorem takes_iff [DecidableEq κ] {x : Exchange κ γ ρ} : takes k x = true ↔ x.key = k ∧ ∃ r, x.answer = .taken r := by
  unfold takes
  rw [Bool.and_eq_true, decide_eq_true_iff]
  refine and_congr_right fun _ => ?_
  cases x.answer <;> simp [Answer.isTaken]

theorem Run.taken_once [DecidableEq κ] (h : Run log xs log') (k : κ) : xs.countP (takes k) ≤ 1 := by
  induction h with
  | nil => exact Nat.zero_le _
  | @cons log mid last x xs step rest ih =>
    by_cases hx : takes k x = true
    · obtain ⟨hk, r, ha⟩ := takes_iff.mp hx
      have hmem := step.receipt (r := r) (by rw [ha]; rfl)
      -- the rest of the run starts from a log that holds the key
      have hnone : xs.countP (takes k) = 0 := by
        refine List.countP_eq_zero.mpr fun y hy hty => ?_
        obtain ⟨hky, s, hs⟩ := takes_iff.mp hty
        exact rest.not_taken hmem hy (hky.trans hk.symm) hs
      have hone : (x :: xs).countP (takes k) = 1 := by rw [List.countP_cons_of_pos hx, hnone]
      exact Nat.le_of_eq hone
    · rw [List.countP_cons_of_neg hx]
      exact ih

end EverTrace.Lib.CommandLog
