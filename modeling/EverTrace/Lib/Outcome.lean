import EverTrace.Lib.Guard
/-!
# Outcomes of computations that may fail

`Yields bad post x`: the computation `x` does not end in the error `bad`, and what
it returns satisfies `post`. Other errors are allowed. The rules follow the code:
one for a sequence (`Yields.bind`), one for a loop with an invariant that may speak
of what is still to come (`Yields.foldlM`).

`Makes` says which checks a computation makes, in their order. Where a check spoils
the result without ending the computation, `Makes.yields_iff` says exactly when the
computation yields what it should.
-/
namespace EverTrace.Lib

variable {ε α β σ : Type} {bad : ε} {post : α → Prop} {x : Except ε α}

/-- No `bad` error, and a result with the property. -/
def Yields (bad : ε) (post : α → Prop) : Except ε α → Prop
  | .ok a => post a
  | .error e => e ≠ bad

theorem yields_iff : Yields bad post x ↔ x ≠ .error bad ∧ ∀ a, x = .ok a → post a := by
  cases x with
  | ok a => simp [Yields]
  | error e => simp [Yields]

theorem Yields.imp {post' : α → Prop} (h : Yields bad post x) (himp : ∀ a, post a → post' a) : Yields bad post' x := by
  cases x with
  | ok a => exact himp a h
  | error e => exact h

theorem Yields.bind {mid : α → Prop} {post : β → Prop} {f : α → Except ε β} (h : Yields bad mid x)
    (hnext : ∀ a, mid a → Yields bad post (f a)) : Yields bad post (x >>= f) := by
  cases x with
  | ok a => exact hnext a h
  | error e => exact h

/-- As `bind`, where what comes next may use which result it was. -/
theorem Yields.bind_ok {post : β → Prop} {f : α → Except ε β} (h : x ≠ .error bad)
    (hnext : ∀ a, x = .ok a → Yields bad post (f a)) : Yields bad post (x >>= f) := by
  cases x with
  | ok a => exact hnext a rfl
  | error e => exact fun he => h (congrArg Except.error he)

theorem okOr_ne {e : ε} (he : e ≠ bad) (o : Option α) : okOr e o ≠ .error bad := by
  cases o with
  | none => exact fun h => he (Except.error.inj h)
  | some a => exact nofun

theorem Yields.okOr {post : β → Prop} {e : ε} {o : Option α} {f : α → Except ε β} (he : e ≠ bad)
    (hnext : ∀ a, o = some a → Yields bad post (f a)) : Yields bad post (okOr e o >>= f) :=
  Yields.bind_ok (okOr_ne he o) fun a ha => hnext a (okOr_ok.mp ha)

theorem Yields.map {post : β → Prop} {f : α → β} (h : Yields bad (fun a => post (f a)) x) :
    Yields bad post (x.map f) := by
  cases x with
  | ok a => exact h
  | error e => exact h

/-- A loop keeps an invariant that may speak of the elements still to come. -/
theorem Yields.foldlM {step : σ → β → Except ε σ} {inv : List β → σ → Prop} : ∀ {l : List β} {s : σ}, inv l s →
    (∀ b rest s, b ∈ l → inv (b :: rest) s → Yields bad (inv rest) (step s b)) →
    Yields bad (inv []) (l.foldlM step s) := by
  intro l
  induction l with
  | nil => intro s hs _; exact hs
  | cons b rest ih =>
    intro s hs hstep
    rw [List.foldlM_cons]
    refine (hstep b rest s List.mem_cons_self hs).bind fun t ht => ?_
    exact ih ht fun c rest' u hc => hstep c rest' u (List.mem_cons_of_mem b hc)

/-! ## Checks in order -/

/-- A check that a computation makes: whether it passes, whether the computation counts on that, and whether what it is
made for spoils the result. -/
structure Check where
  passes : Bool
  required : Bool
  spoils : Bool
  deriving DecidableEq

/-- A check whose failure is an error like any other. -/
def Check.of (passes : Bool) : Check := ⟨passes, false, false⟩

def firstFailure (checks : List Check) : Option Check := checks.find? fun check => !check.passes

/-- The first check that fails is not one that must pass; where none fails, none spoils the result. -/
def Sound (checks : List Check) : Prop :=
  match firstFailure checks with
  | some check => check.required = false
  | none => ∀ check ∈ checks, check.spoils = false

theorem sound_of_refused (checks : List Check) : Sound (Check.of false :: checks) := rfl

/-- The computation makes these checks in this order: the first that fails ends it, with the `bad` error where it must
pass. The result is spoilt when it was before or when a check of it spoils it. -/
def Makes (bad : ε) (before : Prop) (spoilt : α → Prop) (checks : List Check) (x : Except ε α) : Prop :=
  match firstFailure checks with
  | some check => ∃ e, x = .error e ∧ (e = bad ↔ check.required = true)
  | none => ∃ a, x = .ok a ∧ ((before ∨ ∃ check ∈ checks, check.spoils = true) → spoilt a)

variable {before : Prop} {spoilt : α → Prop} {checks : List Check}

theorem Makes.ok {a : α} (h : before → spoilt a) : Makes bad before spoilt [] (.ok a) :=
  ⟨a, rfl, fun hbefore => h (hbefore.resolve_right (by simp))⟩

theorem Makes.weaken {before' : Prop} (h : Makes bad before spoilt checks x) (himp : before' → before) :
    Makes bad before' spoilt checks x := by
  unfold Makes at h ⊢
  cases hfirst : firstFailure checks with
  | some failed => rwa [hfirst] at h
  | none =>
    rw [hfirst] at h
    exact h.imp fun a ⟨ha, hspoilt⟩ => ⟨ha, fun hbefore => hspoilt (hbefore.imp_left himp)⟩

/-- A check, and what comes after it. -/
theorem Makes.cons {check : Check} {f : α → Except ε β} {spoilt : β → Prop}
    (hpass : check.passes = true → ∃ a, x = .ok a ∧
      Makes bad (before ∨ check.spoils = true) spoilt checks (f a))
    (hfail : check.passes = false → ∃ e, x = .error e ∧ (e = bad ↔ check.required = true)) :
    Makes bad before spoilt (check :: checks) (x >>= f) := by
  unfold Makes firstFailure
  rw [List.find?_cons]
  cases hcheck : check.passes with
  | false =>
    obtain ⟨e, rfl, hbad⟩ := hfail hcheck
    exact ⟨e, rfl, hbad⟩
  | true =>
    obtain ⟨a, rfl, hnext⟩ := hpass hcheck
    unfold Makes firstFailure at hnext
    cases hfirst : checks.find? fun check => !check.passes with
    | some failed => rwa [hfirst] at hnext
    | none =>
      rw [hfirst] at hnext
      obtain ⟨b, hb, hspoilt⟩ := hnext
      refine ⟨b, hb, fun h => hspoilt ?_⟩
      simpa only [List.mem_cons, exists_eq_or_imp, ← or_assoc] using h

/-- A check made of something whose error is translated. -/
theorem Makes.mapError {δ : Type} {check : Check} {checked : Except δ Unit} {g : δ → ε} {f : Unit → Except ε β}
    {spoilt : β → Prop} (hpasses : check.passes = true ↔ checked = .ok ())
    (hbad : ∀ e, g e = bad ↔ check.required = true)
    (hnext : checked = .ok () → Makes bad (before ∨ check.spoils = true) spoilt checks (f ())) :
    Makes bad before spoilt (check :: checks) (checked.mapError g >>= f) := by
  refine Makes.cons (fun hpass => ⟨(), ?_, hnext (hpasses.mp hpass)⟩) fun hfail => ?_
  · rw [hpasses.mp hpass]
    rfl
  · cases hchecked : checked with
    | ok u =>
      rw [hpasses.mpr hchecked] at hfail
      cases hfail
    | error e => exact ⟨g e, rfl, hbad e⟩

/-- A computation after another: first the checks of the one, then those of the other. -/
theorem Makes.bind {front back : List Check} {f : α → Except ε β} {spoilt' : β → Prop}
    (h : Makes bad before spoilt front x)
    (hnext : ∀ a, x = .ok a → Makes bad (spoilt a) spoilt' back (f a)) :
    Makes bad before spoilt' (front ++ back) (x >>= f) := by
  unfold Makes firstFailure at h ⊢
  rw [List.find?_append]
  cases hfront : front.find? fun check => !check.passes with
  | some failed =>
    rw [hfront] at h
    obtain ⟨e, rfl, hbad⟩ := h
    exact ⟨e, rfl, hbad⟩
  | none =>
    rw [hfront] at h
    obtain ⟨a, rfl, hspoilt⟩ := h
    have hback := hnext a rfl
    unfold Makes firstFailure at hback
    rw [Option.none_or]
    cases hfirst : back.find? fun check => !check.passes with
    | some failed => rwa [hfirst] at hback
    | none =>
      rw [hfirst] at hback
      obtain ⟨b, hb, hspoilt'⟩ := hback
      refine ⟨b, hb, fun h' => hspoilt' ?_⟩
      simp only [List.mem_append, or_and_right, exists_or, ← or_assoc] at h'
      exact h'.imp_left hspoilt

theorem Makes.map {f : α → β} {spoilt' : β → Prop} (h : Makes bad before spoilt checks x)
    (himp : ∀ a, spoilt a → spoilt' (f a)) : Makes bad before spoilt' checks (x.map f) := by
  have hbind := h.bind fun a _ => Makes.ok (himp a)
  rw [List.append_nil] at hbind
  cases x with
  | ok a => exact hbind
  | error e => exact hbind

/-- A loop makes the checks of its turns. -/
theorem Makes.foldlM {step : σ → β → Except ε σ} {checks : β → List Check} (spoilt : σ → Prop) :
    ∀ {l : List β} (s : σ), (∀ b ∈ l, ∀ s, Makes bad (spoilt s) spoilt (checks b) (step s b)) →
      Makes bad (spoilt s) spoilt (l.flatMap checks) (l.foldlM step s) := by
  intro l
  induction l with
  | nil => exact fun s _ => Makes.ok id
  | cons b rest ih =>
    intro s hstep
    rw [List.foldlM_cons, List.flatMap_cons]
    exact (hstep b List.mem_cons_self s).bind fun t _ => ih t fun c hc => hstep c (List.mem_cons_of_mem b hc)

/-- **When such a computation yields what it should**: that a spoilt result is not what it should be, and one of checks
that all pass and spoil nothing is. -/
theorem Makes.yields_iff (h : Makes bad before spoilt checks x) (hspoilt : ∀ a, spoilt a → ¬post a)
    (hgood : (∀ check ∈ checks, check.passes = true ∧ check.spoils = false) → Yields bad post x) :
    Yields bad post x ↔ Sound checks := by
  unfold Makes at h
  unfold Sound
  cases hfirst : firstFailure checks with
  | some failed =>
    rw [hfirst] at h
    obtain ⟨e, rfl, hbad⟩ := h
    exact (not_congr hbad).trans (Bool.not_eq_true _ ▸ Iff.rfl)
  | none =>
    rw [hfirst] at h
    obtain ⟨a, rfl, hspoils⟩ := h
    refine ⟨fun hpost check hcheck => ?_, fun hnone => hgood fun check hcheck => ⟨?_, hnone check hcheck⟩⟩
    · rw [← Bool.not_eq_true]
      exact fun hspoil => hspoilt a (hspoils (.inr ⟨check, hcheck, hspoil⟩)) hpost
    · simpa using List.find?_eq_none.mp hfirst check hcheck

end EverTrace.Lib
