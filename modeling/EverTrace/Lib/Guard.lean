import Mathlib.Tactic.Common
/-!
# Guards of fallible code

`ensure e c` is the guard `if !c { return Err(e) }`; a checked function is a
sequence of guards and bindings in `Except`. The lemmas say what a
successful run of such a sequence has established.
-/
namespace EverTrace.Lib

variable {ε α β : Type}

/-- Continue only if `c` holds. -/
def ensure (e : ε) (c : Bool) : Except ε Unit := if c then .ok () else .error e

/-- `Option::ok_or`. -/
def okOr (e : ε) : Option α → Except ε α
  | some a => .ok a
  | none => .error e

@[simp] theorem ensure_ok {e : ε} {c : Bool} {u : Unit} : ensure e c = .ok u ↔ c = true := by
  cases c <;> simp [ensure]

@[simp] theorem okOr_ok {e : ε} {o : Option α} {a : α} : okOr e o = .ok a ↔ o = some a := by
  cases o <;> simp [okOr]

theorem ok_bind {a : α} {f : α → Except ε β} : (Except.ok a >>= f) = f a := rfl

theorem bind_eq_ok {x : Except ε α} {f : α → Except ε β} {b : β} :
    (x >>= f) = .ok b ↔ ∃ a, x = .ok a ∧ f a = .ok b := by
  cases x <;> simp [bind, Except.bind]

@[simp] theorem ensure_bind_ok {e : ε} {c : Bool} {f : Unit → Except ε β} {b : β} :
    (ensure e c >>= f) = .ok b ↔ c = true ∧ f () = .ok b := by
  cases c <;> simp [ensure, bind, Except.bind]

@[simp] theorem pure_eq_ok {a b : α} : (pure a : Except ε α) = .ok b ↔ a = b := by
  simp [pure, Except.pure]

theorem mapError_ok {ε' : Type} {x : Except ε α} {f : ε → ε'} {a : α} : x.mapError f = .ok a ↔ x = .ok a := by
  cases x <;> simp [Except.mapError]

theorem toOption_eq_some {x : Except ε α} {a : α} : x.toOption = some a ↔ x = .ok a := by
  cases x <;> simp [Except.toOption]

@[simp] theorem isOk_iff {x : Except ε Unit} : x.isOk = true ↔ x = .ok () := by
  cases x <;> simp [Except.isOk, Except.toBool]

theorem exists_of_isOk {x : Except ε α} (h : x.isOk = true) : ∃ a, x = .ok a := by
  cases x with
  | error e => cases h
  | ok a => exact ⟨a, rfl⟩

theorem forM_eq_ok {f : α → Except ε Unit} {u : Unit} : ∀ {l : List α},
    l.forM f = .ok u ↔ ∀ a ∈ l, f a = .ok ()
  | [] => by simp [List.forM, pure, Except.pure]
  | a :: l => by
    rw [List.forM, bind_eq_ok, List.forall_mem_cons]
    exact ⟨fun ⟨_, ha, hl⟩ => ⟨ha, forM_eq_ok.mp hl⟩, fun ⟨ha, hl⟩ => ⟨(), ha, forM_eq_ok.mpr hl⟩⟩

theorem mapM_ok_of_forall {f : α → Except ε β} {g : α → β} : ∀ {l : List α},
    (∀ a ∈ l, f a = .ok (g a)) → l.mapM f = .ok (l.map g) := by
  intro l
  induction l with
  | nil => intro _; rfl
  | cons a rest ih =>
    intro h
    rw [List.mapM_cons, h a List.mem_cons_self, ih fun x hx => h x (List.mem_cons_of_mem _ hx)]
    rfl

/-- A conversion of a list succeeds exactly when it succeeds on every element. -/
theorem exists_mapM_ok {f : α → Except ε β} : ∀ {l : List α},
    (∃ bs, l.mapM f = .ok bs) ↔ ∀ a ∈ l, ∃ b, f a = .ok b := by
  intro l
  induction l with
  | nil => exact ⟨fun _ a h => (by cases h), fun _ => ⟨[], rfl⟩⟩
  | cons a rest ih =>
    rw [List.mapM_cons, List.forall_mem_cons, ← ih]
    refine ⟨fun ⟨bs, h⟩ => ?_, fun ⟨⟨b, hb⟩, ⟨bs, hbs⟩⟩ => ⟨b :: bs, ?_⟩⟩
    · obtain ⟨b, hb, h⟩ := bind_eq_ok.mp h
      obtain ⟨bs', hbs, -⟩ := bind_eq_ok.mp h
      exact ⟨⟨b, hb⟩, ⟨bs', hbs⟩⟩
    · rw [hb, hbs]
      rfl

theorem mem_mapM_ok {f : α → Except ε β} {b : β} : ∀ {l : List α} {bs : List β}, l.mapM f = .ok bs →
    (b ∈ bs ↔ ∃ a ∈ l, f a = .ok b) := by
  intro l
  induction l with
  | nil =>
    intro bs h
    cases h
    simp
  | cons a rest ih =>
    intro bs h
    rw [List.mapM_cons] at h
    obtain ⟨b', hb', h⟩ := bind_eq_ok.mp h
    obtain ⟨bs', hbs, h⟩ := bind_eq_ok.mp h
    cases h
    rw [List.mem_cons, ih hbs]
    refine ⟨fun hmem => ?_, fun ⟨x, hx, hxb⟩ => ?_⟩
    · rcases hmem with rfl | ⟨x, hx, hxb⟩
      · exact ⟨a, List.mem_cons_self, hb'⟩
      · exact ⟨x, List.mem_cons_of_mem _ hx, hxb⟩
    · rcases List.mem_cons.mp hx with rfl | hx
      · rw [hb'] at hxb
        exact .inl (Except.ok.inj hxb).symm
      · exact .inr ⟨x, hx, hxb⟩

/-- A field of the results that each element determines. -/
theorem map_mapM_ok {γ : Type} {f : α → Except ε β} {g : β → γ} {k : α → γ} : ∀ {l : List α} {bs : List β},
    l.mapM f = .ok bs → (∀ a ∈ l, ∀ b, f a = .ok b → g b = k a) → bs.map g = l.map k := by
  intro l
  induction l with
  | nil =>
    intro bs h _
    cases h
    rfl
  | cons a rest ih =>
    intro bs h hg
    rw [List.mapM_cons] at h
    obtain ⟨b, hb, h⟩ := bind_eq_ok.mp h
    obtain ⟨bs', hbs, h⟩ := bind_eq_ok.mp h
    cases h
    rw [List.map_cons, List.map_cons, hg a List.mem_cons_self b hb,
      ih hbs fun x hx => hg x (List.mem_cons_of_mem _ hx)]

/-- A second conversion that gives the same on every element gives the same list. -/
theorem mapM_ok_congr {f g : α → Except ε β} : ∀ {l : List α} {bs : List β}, l.mapM f = .ok bs →
    (∀ a ∈ l, ∀ b ∈ bs, f a = .ok b → g a = .ok b) → l.mapM g = .ok bs := by
  intro l
  induction l with
  | nil => intro bs h _; exact h
  | cons a rest ih =>
    intro bs h hg
    rw [List.mapM_cons] at h
    obtain ⟨b, hb, h⟩ := bind_eq_ok.mp h
    obtain ⟨bs', hbs, h⟩ := bind_eq_ok.mp h
    cases h
    rw [List.mapM_cons, hg a List.mem_cons_self b List.mem_cons_self hb,
      ih hbs fun x hx c hc => hg x (List.mem_cons_of_mem _ hx) c (List.mem_cons_of_mem _ hc)]
    rfl

/-- Looking every element up by its own key gives the list back. -/
theorem mapM_map_ok {f : β → Except ε α} {k : α → β} {l : List α} (h : ∀ a ∈ l, f (k a) = .ok a) :
    (l.map k).mapM f = .ok l := by
  rw [List.mapM_map]
  have hself := @mapM_ok_of_forall ε α α (f ∘ k) id l h
  rwa [List.map_id] at hself

/-- A chain of rejections passes exactly when none applies. -/
theorem ite_error_ok {c : Prop} [Decidable c] {e : ε} :
    (if c then .error e else .ok () : Except ε Unit) = .ok () ↔ ¬ c := by
  by_cases h : c <;> simp [h]

theorem ite_error_else {c : Prop} [Decidable c] {e : ε} {x : Except ε α} {a : α} :
    (if c then .error e else x) = .ok a ↔ ¬ c ∧ x = .ok a := by
  by_cases h : c <;> simp [h]

theorem foldlM_ok_of_forall {σ : Type} {f : σ → α → Except ε σ} {g : σ → α → σ} : ∀ {l : List α},
    (∀ a ∈ l, ∀ s, f s a = .ok (g s a)) → ∀ s, l.foldlM f s = .ok (l.foldl g s) := by
  intro l
  induction l with
  | nil => intro _ s; rfl
  | cons a rest ih =>
    intro h s
    rw [List.foldlM_cons, h a List.mem_cons_self, ok_bind, List.foldl_cons]
    exact ih (fun x hx => h x (List.mem_cons_of_mem _ hx)) (g s a)

theorem foldlM_congr {α σ ε : Type} {f g : σ → α → Except ε σ} : ∀ {l : List α}, (∀ a ∈ l, ∀ s, f s a = g s a) →
    ∀ s, l.foldlM f s = l.foldlM g s := by
  intro l
  induction l with
  | nil => intro _ s; rfl
  | cons a rest ih =>
    intro h s
    rw [List.foldlM_cons, List.foldlM_cons, h a List.mem_cons_self]
    exact congrArg (fun k => g s a >>= k) (funext (ih fun x hx => h x (List.mem_cons_of_mem _ hx)))

theorem foldlM_inv {σ : Type} {f : σ → α → Except ε σ} {P : σ → Prop} : ∀ {l : List α} {s t : σ},
    l.foldlM f s = .ok t → P s → (∀ a ∈ l, ∀ s t, f s a = .ok t → P s → P t) → P t := by
  intro l
  induction l with
  | nil => intro s t h hs _; cases h; exact hs
  | cons a rest ih =>
    intro s t h hs hstep
    rw [List.foldlM_cons] at h
    obtain ⟨u, hu, h⟩ := bind_eq_ok.mp h
    exact ih h (hstep a List.mem_cons_self s u hu hs) fun x hx => hstep x (List.mem_cons_of_mem _ hx)

/-- Two loops over the same list stay related when every step keeps them so. -/
theorem foldlM_rel {σ : Type} {f : σ → α → Except ε σ} {R : σ → σ → Prop} : ∀ {l : List α} {s s' t t' : σ},
    l.foldlM f s = .ok t → l.foldlM f s' = .ok t' → R s s' →
    (∀ a ∈ l, ∀ s s' t t', f s a = .ok t → f s' a = .ok t' → R s s' → R t t') → R t t' := by
  intro l
  induction l with
  | nil => intro s s' t t' h h' hs _; cases h; cases h'; exact hs
  | cons a rest ih =>
    intro s s' t t' h h' hs hstep
    rw [List.foldlM_cons] at h h'
    obtain ⟨u, hu, h⟩ := bind_eq_ok.mp h
    obtain ⟨u', hu', h'⟩ := bind_eq_ok.mp h'
    exact ih h h' (hstep a List.mem_cons_self s s' u u' hu hu' hs) fun x hx => hstep x (List.mem_cons_of_mem _ hx)

end EverTrace.Lib
