import EverTrace.Lib.Guard
/-!
# Transactions of one connection on a file that others can change

A file holds contents and counts the commits other connections made to it. A
connection remembers the count it saw: it is only ever allowed to write on top
of contents whose count it knows. A transaction checks this once before it
begins and again when it holds the write lock; then it runs `body` and commits.

Everything around `body` can fail, and a foreign commit can come in wherever the
lock is not held. `Faults` says what happens during one transaction. An outcome
that is uncertain (a failed rollback or commit, or a check that fails after the
commit) poisons the connection: it is closed and refuses everything from then on.

* `transact_effect`: without foreign commits a transaction writes what `body`
  says, whole, or nothing; it writes nothing unless it says so or poisons.
* `transact_knows`: the count a connection knows stays the one it was opened with.
-/
namespace EverTrace.Lib.Transaction

variable {τ ε α : Type}

structure File (τ : Type) where
  contents : τ
  /-- Commits by other connections. -/
  version : Nat

structure Handle where
  connected : Bool
  version : Nat
  known : Bool
  poisoned : Bool

/-- How the commit statement ends; a failed one may have reached the file. -/
inductive CommitEnd where
  | done
  | failed (landed : Bool)

/-- What happens around the body of one transaction. -/
structure Faults (τ ε : Type) where
  identity : Option ε
  foreignBefore : Option τ
  begins : Option ε
  physical : Option ε
  statement : Option ε
  rollbackFails : Bool
  commit : CommitEnd
  foreignAfter : Option τ
  identityAfter : Bool

/-- No fault, and no other connection. -/
def Faults.none : Faults τ ε := ⟨.none, .none, .none, .none, .none, false, .done, .none, false⟩

/-- The errors of the checks themselves. -/
structure Errors (ε : Type) where
  io : ε
  corrupt : ε

def File.foreign (file : File τ) : Option τ → File τ
  | some contents => ⟨contents, file.version + 1⟩
  | .none => file

@[simp] theorem File.foreign_none (file : File τ) : file.foreign .none = file := rfl

def Handle.poison (handle : Handle) : Handle := { handle with poisoned := true, connected := false }

def fault (fails : Option ε) : Except ε Unit :=
  match fails with
  | some e => .error e
  | .none => .ok ()

variable (E : Errors ε)

/-- Compare the count with the one that is known. -/
def observe (file : File τ) (handle : Handle) : Except ε Unit × Handle :=
  if !handle.connected then (.error E.io, handle)
  else if handle.known && file.version != handle.version then (.error E.corrupt, handle.poison)
  else (.ok (), { handle with version := file.version, known := true })

/-- The checks that come before anything else: usable, the same file, no foreign commit. -/
def enter (identity : Option ε) (file : File τ) (handle : Handle) : Except ε Unit × Handle :=
  if handle.poisoned then (.error E.io, handle)
  else match fault identity with
    | .error e => (.error e, handle)
    | .ok () => observe E file handle

/-- A query: the checks surround it, and it changes neither the file nor the connection. -/
def query (fails : Option ε) (q : τ → Except ε α) (file : File τ) (handle : Handle) : Except ε α := do
  ensure E.io (!handle.poisoned)
  fault fails
  ensure E.io handle.connected
  ensure E.corrupt (handle.known && file.version == handle.version)
  q file.contents

/-- What runs while the write lock is held. -/
def inside (f : Faults τ ε) (body : τ → Except ε (τ × Bool)) (file : File τ) (handle : Handle) :
    Except ε (τ × Bool) := do
  fault f.physical
  ensure E.corrupt (handle.known && file.version == handle.version)
  fault f.statement
  body file.contents

/-- After `BEGIN`: run the body, then commit or roll back. -/
def locked (f : Faults τ ε) (body : τ → Except ε (τ × Bool)) (file : File τ) (handle : Handle) :
    Except ε Bool × File τ × Handle :=
  match inside E f body file handle with
  | .error e => if f.rollbackFails then (.error E.io, file, handle.poison) else (.error e, file, handle)
  | .ok (contents, changed) =>
    if !changed then
      if f.rollbackFails then (.error E.io, file, handle.poison) else (.ok false, file, handle)
    else match f.commit with
      | .failed landed => (.error E.io, if landed then { file with contents } else file, handle.poison)
      | .done =>
        let file := ({ file with contents } : File τ).foreign f.foreignAfter
        if f.identityAfter || file.version != handle.version then (.error E.io, file, handle.poison)
        else (.ok true, file, handle)

/-- One transaction. `precheck` is what is checked between `observe` and `BEGIN`; the body gives
the new contents and whether they differ. -/
def transact (f : Faults τ ε) (precheck : Except ε Unit) (body : τ → Except ε (τ × Bool)) (file : File τ)
    (handle : Handle) : Except ε Bool × File τ × Handle :=
  match enter E f.identity file handle with
  | (.error e, handle) => (.error e, file.foreign f.foreignBefore, handle)
  | (.ok (), handle) =>
    match precheck with
    | .error e => (.error e, file.foreign f.foreignBefore, handle)
    | .ok () =>
      let file := file.foreign f.foreignBefore
      match f.begins with
      | some e => (.error e, file, handle)
      | .none => locked E f body file handle

variable {E} {f : Faults τ ε} {precheck : Except ε Unit} {body : τ → Except ε (τ × Bool)} {file file' : File τ}
  {handle handle' : Handle}

/-! ## The checks -/

/-- The connection is usable and knows the contents. -/
structure Current (file : File τ) (handle : Handle) : Prop where
  live : handle.poisoned = false
  connected : handle.connected = true
  known : handle.known = true
  version : handle.version = file.version

/-- The connection cannot be used any more: it is closed, or there was a foreign commit. -/
def Stale (file : File τ) (handle : Handle) : Prop :=
  handle.poisoned = true ∨ handle.known = true ∧ handle.version < file.version

theorem File.version_le_foreign (file : File τ) (t : Option τ) : file.version ≤ (file.foreign t).version := by
  cases t with
  | none => exact Nat.le_refl _
  | some contents => exact Nat.le_succ _

theorem observe_ok (h : observe E file handle = (.ok (), handle')) :
    handle.connected = true ∧ handle' = { handle with version := file.version, known := true } := by
  unfold observe at h
  split at h
  · cases h
  · next hc =>
    split at h
    · cases h
    · exact ⟨by simpa using hc, (Prod.mk.inj h).2.symm⟩

theorem enter_ok {identity : Option ε} (h : enter E identity file handle = (.ok (), handle')) :
    Current file handle' := by
  unfold enter at h
  split at h
  · cases h
  · next hp =>
    split at h
    · cases h
    · obtain ⟨hc, rfl⟩ := observe_ok h
      exact ⟨by simpa using hp, hc, rfl, rfl⟩

theorem enter_live {identity : Option ε} (h : enter E identity file handle = (.ok (), handle')) :
    handle.poisoned = false := by
  unfold enter at h
  split at h
  · cases h
  · next hp => simpa using hp

theorem enter_error {identity : Option ε} {e : ε} (h : enter E identity file handle = (.error e, handle')) :
    handle' = handle ∨ handle'.poisoned = true := by
  unfold enter observe at h
  split at h
  · exact .inl (Prod.mk.inj h).2.symm
  · split at h
    · exact .inl (Prod.mk.inj h).2.symm
    · split at h
      · exact .inl (Prod.mk.inj h).2.symm
      · split at h
        · obtain ⟨-, rfl⟩ := Prod.mk.inj h
          exact .inr rfl
        · cases h

/-- A current connection passes the checks unchanged. -/
theorem Current.enter (h : Current file handle) : enter E .none file handle = (.ok (), handle) := by
  obtain ⟨hl, hc, hk, hv⟩ := h
  cases handle
  simp only at hl hc hk hv
  subst hl hc hk hv
  simp [Transaction.enter, observe, fault]

theorem Current.query {q : τ → Except ε α} (h : Current file handle) :
    query E .none q file handle = q file.contents := by
  obtain ⟨hl, hc, hk, hv⟩ := h
  simp [Transaction.query, hl, hc, hk, hv, fault, ensure, bind, Except.bind]

/-- A query that answers was made by a current connection. -/
theorem query_ok {fails : Option ε} {q : τ → Except ε α} {a : α} (h : query E fails q file handle = .ok a) :
    Current file handle ∧ q file.contents = .ok a := by
  unfold Transaction.query at h
  rw [ensure_bind_ok, bind_eq_ok] at h
  obtain ⟨hl, -, -, h⟩ := h
  rw [ensure_bind_ok, ensure_bind_ok, Bool.and_eq_true, beq_iff_eq] at h
  exact ⟨⟨by simpa using hl, h.1, h.2.1.1, h.2.1.2.symm⟩, h.2.2⟩

theorem Stale.enter (h : Stale file handle) (identity : Option ε) :
    ∃ e, enter E identity file handle = (.error e, handle) ∨ enter E identity file handle = (.error e, handle.poison) := by
  unfold Transaction.enter
  split
  · exact ⟨_, .inl rfl⟩
  · next hp =>
    split
    · exact ⟨_, .inl rfl⟩
    · unfold observe
      split
      · exact ⟨_, .inl rfl⟩
      · obtain ⟨hk, hv⟩ := h.resolve_left hp
        rw [if_pos (by simp [hk]; omega)]
        exact ⟨_, .inr rfl⟩

/-! ## A whole transaction -/

/-- What a transaction may do when no other connection commits. -/
inductive Effect (body : τ → Except ε (τ × Bool)) (file : File τ) : Except ε Bool → File τ → Handle → Prop where
  /-- Nothing was written. -/
  | failed {e handle} : Effect body file (.error e) file handle
  | unchanged {contents handle} (run : body file.contents = .ok (contents, false)) : Effect body file (.ok false) file handle
  | written {contents handle} (run : body file.contents = .ok (contents, true)) (current : Current file handle) :
      Effect body file (.ok true) { file with contents } handle
  /-- It was written, but the caller does not learn that, and the connection is closed. -/
  | uncertain {contents e handle} (run : body file.contents = .ok (contents, true)) :
      Effect body file (.error e) { file with contents } (Handle.poison handle)

theorem inside_ok {contents : τ} {changed : Bool} (h : inside E f body file handle = .ok (contents, changed)) :
    body file.contents = .ok (contents, changed) := by
  unfold inside at h
  obtain ⟨-, -, h⟩ := bind_eq_ok.mp h
  obtain ⟨-, h⟩ := ensure_bind_ok.mp h
  obtain ⟨-, -, h⟩ := bind_eq_ok.mp h
  exact h

theorem locked_effect (hf : f.foreignAfter = .none) (hc : Current file handle) :
    Effect body file (locked E f body file handle).1 (locked E f body file handle).2.1
      (locked E f body file handle).2.2 := by
  unfold locked
  split
  · -- the body failed: rolled back
    split
    · exact .failed
    · exact .failed
  · next contents changed hin =>
    have hrun := inside_ok hin
    cases changed with
    | false =>
      simp only [Bool.not_false, if_true]
      split
      · exact .failed
      · exact .unchanged hrun
    | true =>
      simp only [Bool.not_true, Bool.false_eq_true, if_false]
      split
      · next landed _ =>
        cases landed with
        | true => exact .uncertain hrun
        | false => exact .failed
      · rw [hf, File.foreign_none]
        split
        · exact .uncertain hrun
        · exact .written hrun hc

variable (E precheck body file handle) in
/-- A transaction writes what its body says, whole, or nothing. -/
theorem transact_effect (hb : f.foreignBefore = .none) (ha : f.foreignAfter = .none) :
    Effect body file (transact E f precheck body file handle).1 (transact E f precheck body file handle).2.1
      (transact E f precheck body file handle).2.2 := by
  unfold transact
  split
  · rw [hb]
    exact .failed
  · next handle' henter =>
    split
    · rw [hb]
      exact .failed
    · rw [hb, File.foreign_none]
      dsimp only
      split
      · exact .failed
      · exact locked_effect ha (enter_ok henter)

/-! ### The count a connection knows -/

/-- The connection is closed, or it knows the count `v`. -/
def Handle.Knows (handle : Handle) (v : Nat) : Prop := handle.poisoned = true ∨ handle.known = true ∧ handle.version = v

theorem knows_poison {v : Nat} : handle.poison.Knows v := .inl rfl

/-- Once the count of the file is another one, the connection is outdated. -/
theorem Handle.Knows.stale {v : Nat} (h : handle.Knows v) (hlt : v < file.version) : Stale file handle :=
  h.imp_right fun (hk : handle.known = true ∧ handle.version = v) => ⟨hk.1, hk.2 ▸ hlt⟩

variable (E file) in
/-- A connection does not learn a new count. -/
theorem enter_knows {v : Nat} (h : handle.Knows v) (identity : Option ε) :
    (enter E identity file handle).2.Knows v := by
  unfold enter
  split
  · exact h
  · next hp =>
    obtain ⟨hk, hv⟩ := h.resolve_left hp
    split
    · exact .inr ⟨hk, hv⟩
    · unfold observe
      split
      · exact .inr ⟨hk, hv⟩
      · split
        · exact knows_poison
        · next hversion =>
          simp only [hk, Bool.true_and, bne_iff_ne, ne_eq, not_not] at hversion
          exact .inr ⟨rfl, hversion.trans hv⟩

theorem locked_knows {v : Nat} (h : handle.Knows v) : (locked E f body file handle).2.2.Knows v := by
  unfold locked
  split
  · split
    · exact knows_poison
    · exact h
  · split
    · split
      · exact knows_poison
      · exact h
    · split
      · exact knows_poison
      · dsimp only
        split
        · exact knows_poison
        · exact h

variable (E f precheck body file) in
theorem transact_knows {v : Nat} (h : handle.Knows v) : (transact E f precheck body file handle).2.2.Knows v := by
  have henter := enter_knows E file h f.identity
  unfold transact
  split
  · next heq =>
    rw [heq] at henter
    exact henter
  · next heq =>
    rw [heq] at henter
    split
    · exact henter
    · dsimp only
      split
      · exact henter
      · exact locked_knows henter

theorem version_le_locked : file.version ≤ (locked E f body file handle).2.1.version := by
  unfold locked
  split
  · split <;> exact Nat.le_refl _
  · split
    · split <;> exact Nat.le_refl _
    · split
      · dsimp only
        split <;> exact Nat.le_refl _
      · next contents _ _ _ _ _ =>
        have hle := File.version_le_foreign (⟨contents, file.version⟩ : File τ) f.foreignAfter
        dsimp only
        split <;> exact hle

variable (E f precheck body file handle) in
theorem version_le_transact : file.version ≤ (transact E f precheck body file handle).2.1.version := by
  unfold transact
  split
  · exact File.version_le_foreign _ _
  · split
    · exact File.version_le_foreign _ _
    · dsimp only
      split
      · exact File.version_le_foreign _ _
      · exact Nat.le_trans (File.version_le_foreign _ _) version_le_locked

end EverTrace.Lib.Transaction
