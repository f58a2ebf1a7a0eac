import Mathlib.Tactic.Common
/-!
# Commands that may fail

A `Command σ ε α` acts on a state `σ` and returns a value or an error. A
failure does not undo anything: the state reached so far stays, as it does
for code that works on files.

`Triple P m Q E` says that `m`, run where `P` holds, ends in `Q` when it
returns and in `E` when it fails. There is one rule for each way a command
is built; `Triple.list` is the rule for a loop over a list.
-/
namespace EverTrace.Lib

/-- A command on a state `σ` that returns a value or fails; both keep the state reached. -/
def Command (σ ε α : Type) : Type := σ → Except ε α × σ

namespace Command

variable {σ ε α β : Type}

/-- Run `f` on the value, or pass the error on. -/
def andThen (m : Command σ ε α) (f : α → Command σ ε β) : Command σ ε β := fun s =>
  match m s with
  | (.ok a, s') => f a s'
  | (.error e, s') => (.error e, s')

instance : Monad (Command σ ε) where
  pure a := fun s => (.ok a, s)
  bind := andThen

def fail (e : ε) : Command σ ε α := fun s => (.error e, s)

def read (f : σ → α) : Command σ ε α := fun s => (.ok (f s), s)

def change (f : σ → σ) : Command σ ε Unit := fun s => (.ok (), f s)

/-- A pure computation that may fail. -/
def lift (x : Except ε α) : Command σ ε α := fun s => (x, s)

/-- Continue only if `c` holds. -/
def check (e : ε) (c : Bool) : Command σ ε Unit := if c then pure () else fail e

/-- Run a command and return its outcome, error or not. -/
def attempt (m : Command σ ε α) : Command σ ε (Except ε α) := fun s => (.ok (m s).1, (m s).2)

def forEach (f : α → Command σ ε Unit) : List α → Command σ ε Unit
  | [] => pure ()
  | a :: rest => do
    f a
    forEach f rest

/-- Run a command on each element of a list and collect what it returns. -/
def collect (f : α → Command σ ε β) : List α → Command σ ε (List β)
  | [] => pure []
  | a :: rest => do
    let b ← f a
    let bs ← collect f rest
    pure (b :: bs)

/-- `m`, run where `P` holds, ends in `Q` when it returns and in `E` when it fails. -/
def Triple (P : σ → Prop) (m : Command σ ε α) (Q : α → σ → Prop) (E : σ → Prop) : Prop :=
  ∀ s, P s → match m s with
    | (.ok a, s') => Q a s'
    | (.error _, s') => E s'

namespace Triple

variable {P P' : σ → Prop} {Q Q' : α → σ → Prop} {E : σ → Prop}

theorem pure {a : α} (h : ∀ s, P s → Q a s) : Triple P (Pure.pure a : Command σ ε α) Q E := h

theorem fail {e : ε} (h : ∀ s, P s → E s) : Triple P (Command.fail e : Command σ ε α) Q E := h

theorem change {f : σ → σ} {Q : Unit → σ → Prop} (h : ∀ s, P s → Q () (f s)) :
    Triple P (Command.change f : Command σ ε Unit) Q E := h

theorem bind {m : Command σ ε α} {f : α → Command σ ε β} {R : β → σ → Prop}
    (hm : Triple P m Q E) (hf : ∀ a, Triple (Q a) (f a) R E) : Triple P (m >>= f) R E := by
  intro s hs
  have h := hm s hs
  show match andThen m f s with | (.ok a, s') => R a s' | (.error _, s') => E s'
  unfold andThen
  split at h
  · next a s' _ => exact hf a s' h
  · exact h

/-- Reading needs no assertion of its own: the value is a function of the state. -/
theorem bind_read {f : σ → α} {g : α → Command σ ε β} {R : β → σ → Prop}
    (h : ∀ a, Triple (fun s => P s ∧ f s = a) (g a) R E) : Triple P (Command.read f >>= g) R E :=
  bind (Q := fun a s => P s ∧ f s = a) (fun _ hs => ⟨hs, rfl⟩) h

theorem lift {x : Except ε α} (h : ∀ s, P s → ∀ a, x = .ok a → Q a s) (he : ∀ s, P s → E s) :
    Triple P (Command.lift x : Command σ ε α) Q E := by
  intro s hs
  cases x with
  | ok a => exact h s hs a rfl
  | error e => exact he s hs

theorem check {e : ε} {c : Bool} {Q : Unit → σ → Prop} (h : ∀ s, P s → c = true → Q () s)
    (he : ∀ s, P s → E s) : Triple P (Command.check e c : Command σ ε Unit) Q E := by
  intro s hs
  cases c with
  | true => exact h s hs rfl
  | false => exact he s hs

/-- A pure computation leaves the state as it is. -/
theorem bind_lift {x : Except ε α} {f : α → Command σ ε β} {R : β → σ → Prop} (he : ∀ s, P s → E s)
    (hf : ∀ a, x = .ok a → Triple P (f a) R E) : Triple P (Command.lift x >>= f) R E := by
  cases x with
  | ok a => exact fun s hs => hf a rfl s hs
  | error e => exact fun s hs => he s hs

theorem bind_check {e : ε} {c : Bool} {f : Unit → Command σ ε β} {R : β → σ → Prop} (he : ∀ s, P s → E s)
    (hf : c = true → Triple P (f ()) R E) : Triple P (Command.check e c >>= f) R E := by
  cases c with
  | true => exact fun s hs => hf rfl s hs
  | false => exact fun s hs => he s hs

/-- What the precondition says apart from the state may be assumed. -/
theorem assume {m : Command σ ε α} {fact : Prop} (h : fact → Triple P m Q E) :
    Triple (fun s => P s ∧ fact) m Q E := fun s hs => h hs.2 s hs.1

theorem attempt {m : Command σ ε α} {R : Except ε α → σ → Prop} {E' : σ → Prop}
    (h : Triple P m Q E) (hok : ∀ a s, Q a s → R (.ok a) s) (herr : ∀ e s, E s → R (.error e) s) :
    Triple P (Command.attempt m) R E' := by
  intro s hs
  have h := h s hs
  show R (m s).1 (m s).2
  split at h
  · next a s' heq =>
    rw [heq]
    exact hok a s' h
  · next e s' heq =>
    rw [heq]
    exact herr e s' h

/-- How a run ends. -/
theorem result {m : Command σ ε α} (h : Triple P m Q E) {s : σ} (hs : P s) :
    (∃ a, (m s).1 = .ok a ∧ Q a (m s).2) ∨ ∃ e, (m s).1 = .error e ∧ E (m s).2 := by
  have h := h s hs
  split at h
  · next a s' heq => exact .inl ⟨a, by rw [heq], by rw [heq]; exact h⟩
  · next e s' heq => exact .inr ⟨e, by rw [heq], by rw [heq]; exact h⟩

/-- What holds at the end of a run either way. -/
theorem after {m : Command σ ε α} (h : Triple P m (fun _ => E) E) {s : σ} (hs : P s) : E (m s).2 := by
  rcases h.result hs with ⟨_, -, h⟩ | ⟨_, -, h⟩ <;> exact h

theorem weaken {m : Command σ ε α} {E' : σ → Prop} (h : Triple P' m Q' E') (hP : ∀ s, P s → P' s)
    (hQ : ∀ a s, Q' a s → Q a s) (hE : ∀ s, E' s → E s) : Triple P m Q E := by
  intro s hs
  have h := h s (hP s hs)
  split at h
  · next a s' _ => exact hQ a s' h
  · next s' _ => exact hE s' h

theorem ite {c : Prop} [Decidable c] {m m' : Command σ ε α} (h : c → Triple P m Q E)
    (h' : ¬ c → Triple P m' Q E) : Triple P (if c then m else m') Q E := by
  split
  · next hc => exact h hc
  · next hc => exact h' hc

theorem forEach {f : α → Command σ ε Unit} (h : ∀ a, Triple P (f a) (fun _ => P) E) :
    ∀ l, Triple P (Command.forEach f l) (fun _ => P) E := by
  intro l
  induction l with
  | nil => exact pure fun s hs => hs
  | cons a rest ih => exact bind (h a) fun _ => ih

/-- A loop that collects keeps what its body keeps, and each value has what the body says of it. -/
theorem collect {f : α → Command σ ε β} {V : β → Prop} {l : List α}
    (h : ∀ a ∈ l, Triple P (f a) (fun b s => P s ∧ V b) E) :
    Triple P (Command.collect f l) (fun bs s => P s ∧ ∀ b ∈ bs, V b) E := by
  induction l with
  | nil => exact pure fun s hs => ⟨hs, fun b hb => by cases hb⟩
  | cons a rest ih =>
    refine bind (h a List.mem_cons_self) fun b => ?_
    refine bind (Q := fun bs s => P s ∧ V b ∧ ∀ b ∈ bs, V b) ?_ fun bs => ?_
    · intro s ⟨hs, hb⟩
      have h := ih (fun a ha => h a (List.mem_cons_of_mem _ ha)) s hs
      split at h
      · exact ⟨h.1, hb, h.2⟩
      · exact h
    · refine pure fun s ⟨hs, hb, hbs⟩ => ⟨hs, fun x hx => ?_⟩
      rcases List.mem_cons.mp hx with rfl | hx
      · exact hb
      · exact hbs x hx

end Triple

end Command

end EverTrace.Lib
