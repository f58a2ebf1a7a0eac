import EverTrace.Lib.Bisim
import EverTrace.Lib.OrdMap
import EverTrace.Lib.SortedSet
import EverTrace.L2Machine.Rows
import EverTrace.L2Machine.Work
/-!
# Deletion ledgers (`evertrace-store/src/purge.rs`)

`ObjectDeletionState` and `ScopePurgeState` are one design: a map from what is
deleted to its current event, and a counter of deletions begun. A target enters
with the next generation; afterwards its event only moves on. The two differ in
their events and in what they let a backup put in place of a current event, so
the ledger is written once over `LedgerRules`.

A ledger is filled in three ways: `apply` takes the next event of the journal,
`restore` a persisted row, `importRestore` an event of another copy's ledger.

Results, over any lawful rules:
* `Inv`: the generations in use are exactly `1..n`, one for each target.
* `restoreAll_rows`: the rows give the ledger back, in any order.
* `importAll_current`: importing a later ledger's current events into an earlier
  one, in any order, gives the later one's events and generation.
* `Alike.answers_eq`: ledgers with the same events and generation answer every
  later event alike.
-/
namespace EverTrace.L2.Purge
open EverTrace.Lib EverTrace.L2.Store EverTrace.L2.Work

variable {κ τ ε : Type} [LinearOrder κ]

/-- What tells the two ledgers apart: the key and the target of an event, the
phase a target enters in, which event may follow which, and which event of a
backup may replace a current one. -/
structure LedgerRules (κ τ ε : Type) where
  key : ε → κ
  target : ε → τ
  generation : ε → Nat
  opens : ε → Bool
  validate : ε → Bool
  validateSuccessor : ε → ε → Bool
  importable : ε → ε → Bool

/-- The current event of each key with the sequence it was recorded at, and the last generation given out.
mirrors evertrace-store/src/purge.rs:595-599, 749-753 -/
structure Ledger (κ ε : Type) [LinearOrder κ] where
  events : OrdMap κ (ε × Nat)
  generation : Nat

namespace Ledger

/-- `Default`. -/
def empty : Ledger κ ε := ⟨.empty, 0⟩

/-- mirrors evertrace-store/src/purge.rs:623-628, 793-795 -/
def current (st : Ledger κ ε) (key : κ) : Option ε := (st.events.get key).map Prod.fst

/-- `events()`: the current events, in key order.
mirrors evertrace-store/src/purge.rs:681-683, 854-856 -/
def listed (st : Ledger κ ε) : List ε := st.events.values.map Prod.fst

end Ledger

/-- mirrors evertrace-store/src/purge.rs:634-657, 801-822 -/
def Ledger.apply (r : LedgerRules κ τ ε) (st : Ledger κ ε) (event : ε) (seq : Nat) (error : StoreError) :
    Except StoreError (Ledger κ ε) :=
  match st.events.get (r.key event) with
  | none =>
    if !r.opens event then .error error
    else do
      let next ← okOr error (checkedSucc 64 st.generation)
      if r.generation event ≠ next then .error error
      else .ok { events := st.events.insert (r.key event) (event, seq), generation := r.generation event }
  | some (current, _) =>
    if !r.validateSuccessor current event then .error error
    else .ok { st with events := st.events.insert (r.key event) (event, seq) }

/-- mirrors evertrace-store/src/purge.rs:602-621, 756-791 -/
def Ledger.importRestore [DecidableEq τ] (r : LedgerRules κ τ ε) (st : Ledger κ ε) (event : ε) (seq : Nat) :
    Except StoreError (Ledger κ ε) :=
  if !r.validate event
    || st.events.values.any (fun other =>
      r.generation other.1 == r.generation event && r.target other.1 != r.target event)
    || (st.current (r.key event)).any (fun current => !r.importable current event)
  then .error .storeCorrupt
  else .ok { events := st.events.insert (r.key event) (event, seq)
             generation := max st.generation (r.generation event) }

/-- mirrors evertrace-store/src/purge.rs:685-699, 858-872 -/
def Ledger.validateRestored (r : LedgerRules κ τ ε) (st : Ledger κ ε) : Except StoreError Unit :=
  let generations := sortUnique (st.listed.map r.generation)
  if generations.length ≠ st.events.entries.length
    ∨ generations ≠ List.range' 1 generations.length
    ∨ st.generation ≠ generations.length
  then .error .storeCorrupt
  else .ok ()

/-- A run of journal events, each of them accepted; the reducer's error is `StoreCorrupt`.
mirrors evertrace-store/src/projections.rs:12150-12170 -/
def Ledger.applyAll (r : LedgerRules κ τ ε) (st : Ledger κ ε) (events : List (ε × Nat)) :
    Except StoreError (Ledger κ ε) :=
  events.foldlM (fun st e => st.apply r e.1 e.2 .storeCorrupt) st

/-- The events of one restore command, each of them accepted.
mirrors evertrace-store/src/projections.rs:9858-9884 -/
def Ledger.importAll [DecidableEq τ] (r : LedgerRules κ τ ε) (st : Ledger κ ε) (events : List (ε × Nat)) :
    Except StoreError (Ledger κ ε) :=
  events.foldlM (fun st e => st.importRestore r e.1 e.2) st

/-- One further event: accepted, or refused with an error and nothing changed. -/
def Ledger.answer (r : LedgerRules κ τ ε) (st : Ledger κ ε) (further : ε × Nat × StoreError) :
    Except StoreError Unit × Ledger κ ε :=
  match st.apply r further.1 further.2.1 further.2.2 with
  | .ok next => (.ok (), next)
  | .error e => (.error e, st)

/-- What the proofs need of the rules: an import keeps target and generation, and
whatever the journal may record after an event may also be imported over it. -/
structure LedgerRules.Lawful (r : LedgerRules κ τ ε) : Prop where
  importable_refl : ∀ e, r.importable e e = true
  importable_trans : ∀ {a b c}, r.importable a b = true → r.importable b c = true → r.importable a c = true
  importable_of_successor : ∀ {a b}, r.validateSuccessor a b = true → r.importable a b = true
  importable_target : ∀ {a b}, r.importable a b = true → r.target a = r.target b
  importable_generation : ∀ {a b}, r.importable a b = true → r.generation a = r.generation b

namespace Ledger

variable {r : LedgerRules κ τ ε} {st st' : Ledger κ ε} {event : ε} {seq : Nat} {error : StoreError}

/-! ## One event -/

/-- Everything an accepted event does: it opens a new target under the next generation, or follows the target's
current event. -/
theorem apply_cases (h : st.apply r event seq error = .ok st') :
    (st.current (r.key event) = none ∧ r.opens event = true ∧ r.generation event = st.generation + 1 ∧
        st' = ⟨st.events.insert (r.key event) (event, seq), st.generation + 1⟩) ∨
      ∃ c, st.current (r.key event) = some c ∧ r.validateSuccessor c event = true ∧
        st' = ⟨st.events.insert (r.key event) (event, seq), st.generation⟩ := by
  unfold apply at h
  cases hget : st.events.get (r.key event) with
  | none =>
    rw [hget] at h
    obtain ⟨hopen, h⟩ := ite_error_else.mp h
    obtain ⟨next, hnext, h⟩ := bind_eq_ok.mp h
    obtain ⟨hgen, h⟩ := ite_error_else.mp h
    have hsucc := (checkedSucc_eq_some.mp (okOr_ok.mp hnext)).2
    have hgen : r.generation event = st.generation + 1 := (not_not.mp hgen).trans hsucc
    refine .inl ⟨by simp [current, hget], by simpa using hopen, hgen, ?_⟩
    rw [← Except.ok.inj h, hgen]
  | some c =>
    rw [hget] at h
    obtain ⟨hsucc, h⟩ := ite_error_else.mp h
    exact .inr ⟨c.1, by simp [current, hget], by simpa using hsucc, (Except.ok.inj h).symm⟩

theorem current_insert (m : OrdMap κ (ε × Nat)) (k : κ) (e : ε) (seq g : Nat) (k' : κ) :
    (Ledger.mk (m.insert k (e, seq)) g).current k' = if k' = k then some e else (m.get k').map Prod.fst := by
  unfold current
  rw [OrdMap.get_insert]
  split <;> rfl

theorem mem_listed {e : ε} : e ∈ st.listed ↔ ∃ k, st.current k = some e := by
  unfold listed current
  rw [List.mem_map]
  refine ⟨fun ⟨v, hv, he⟩ => ?_, fun ⟨k, hk⟩ => ?_⟩
  · obtain ⟨k, hk⟩ := OrdMap.mem_values.mp hv
    exact ⟨k, by rw [hk, ← he]; rfl⟩
  · obtain ⟨v, hv, he⟩ := Option.map_eq_some_iff.mp hk
    exact ⟨v, OrdMap.mem_values.mpr ⟨k, hv⟩, he⟩

theorem length_listed : st.listed.length = st.events.entries.length := by
  unfold listed OrdMap.values
  rw [List.length_map, List.length_map]

/-! ## Later ledgers -/

/-- Every target of `p` is in `s` with an event that may be imported over `p`'s. -/
structure Below (r : LedgerRules κ τ ε) (p s : Ledger κ ε) : Prop where
  moved : ∀ k c, p.current k = some c → ∃ c', s.current k = some c' ∧ r.importable c c' = true
  generation : p.generation ≤ s.generation

theorem Below.refl (lawful : r.Lawful) (p : Ledger κ ε) : Below r p p :=
  ⟨fun _ c hc => ⟨c, hc, lawful.importable_refl c⟩, Nat.le_refl _⟩

theorem Below.trans (lawful : r.Lawful) {p q s : Ledger κ ε} (hpq : Below r p q) (hqs : Below r q s) :
    Below r p s := by
  refine ⟨fun k c hc => ?_, Nat.le_trans hpq.generation hqs.generation⟩
  obtain ⟨d, hd, hcd⟩ := hpq.moved k c hc
  obtain ⟨e, he, hde⟩ := hqs.moved k d hd
  exact ⟨e, he, lawful.importable_trans hcd hde⟩

theorem apply_below (lawful : r.Lawful) (h : st.apply r event seq error = .ok st') : Below r st st' := by
  rcases apply_cases h with ⟨hnone, _, _, rfl⟩ | ⟨c, hc, hsucc, rfl⟩
  · refine ⟨fun k d hd => ⟨d, ?_, lawful.importable_refl d⟩, Nat.le_succ _⟩
    have hk : k ≠ r.key event := fun hk => by rw [hk, hnone] at hd; cases hd
    rw [current_insert, if_neg hk]
    exact hd
  · refine ⟨fun k d hd => ?_, Nat.le_refl _⟩
    by_cases hk : k = r.key event
    · rw [hk, hc] at hd
      refine ⟨event, by rw [current_insert, if_pos hk], ?_⟩
      rw [← Option.some.inj hd]
      exact lawful.importable_of_successor hsucc
    · refine ⟨d, ?_, lawful.importable_refl d⟩
      rw [current_insert, if_neg hk]
      exact hd

/-! ## The generations in use -/

/-- The generations in use are `1..generation`, each by one target. -/
structure Inv (r : LedgerRules κ τ ε) (st : Ledger κ ε) : Prop where
  keyed : ∀ k e, st.current k = some e → r.key e = k
  bound : ∀ k e, st.current k = some e → 0 < r.generation e ∧ r.generation e ≤ st.generation
  unique : ∀ k k' e e', st.current k = some e → st.current k' = some e' → r.generation e = r.generation e' → k = k'
  used : ∀ g, 0 < g → g ≤ st.generation → ∃ k e, st.current k = some e ∧ r.generation e = g

theorem inv_empty : Inv r empty where
  keyed := fun _ _ h => by cases h
  bound := fun _ _ h => by cases h
  unique := fun _ _ _ _ h => by cases h
  used := fun g hpos hle => absurd hpos (Nat.not_lt.mpr hle)

/-- A new target takes the next generation. -/
theorem Inv.open_ (inv : Inv r st) (hnone : st.current (r.key event) = none)
    (hgen : r.generation event = st.generation + 1) :
    Inv r ⟨st.events.insert (r.key event) (event, seq), st.generation + 1⟩ where
  keyed := fun k e h => by
    rw [current_insert] at h
    split at h
    · next hk => rw [hk, ← Option.some.inj h]
    · exact inv.keyed k e h
  bound := fun k e h => by
    rw [current_insert] at h
    split at h
    · rw [← Option.some.inj h, hgen]
      exact ⟨Nat.succ_pos _, Nat.le_refl _⟩
    · have hb := inv.bound k e h
      exact ⟨hb.1, Nat.le_succ_of_le hb.2⟩
  unique := fun k k' e e' h h' heq => by
    rw [current_insert] at h h'
    split at h <;> split at h'
    · next hk hk' => rw [hk, hk']
    · have hb := (inv.bound k' e' h').2
      rw [← heq, ← Option.some.inj h, hgen] at hb
      omega
    · have hb := (inv.bound k e h).2
      rw [heq, ← Option.some.inj h', hgen] at hb
      omega
    · exact inv.unique k k' e e' h h' heq
  used := fun g hpos hle => by
    by_cases hg : g = st.generation + 1
    · exact ⟨r.key event, event, by rw [current_insert, if_pos rfl], hgen.trans hg.symm⟩
    · have hle : g ≤ st.generation + 1 := hle
      obtain ⟨k, e, he, heq⟩ := inv.used g hpos (by omega)
      have hk : k ≠ r.key event := fun hk => by rw [hk, hnone] at he; cases he
      refine ⟨k, e, ?_, heq⟩
      rw [current_insert, if_neg hk]
      exact he

/-- An event in the place of another of the same target and generation changes no generation in use. -/
theorem Inv.replace (inv : Inv r st) {c : ε} (hc : st.current (r.key event) = some c)
    (hgen : r.generation c = r.generation event) :
    Inv r ⟨st.events.insert (r.key event) (event, seq), st.generation⟩ := by
  -- where the new ledger has an event, the old one has an event of the same generation
  have hold : ∀ k e, (Ledger.mk (st.events.insert (r.key event) (event, seq)) st.generation).current k = some e →
      ∃ d, st.current k = some d ∧ r.generation d = r.generation e ∧ (r.key d = k → r.key e = k) := by
    intro k e h
    rw [current_insert] at h
    split at h
    · next hk =>
      rw [← Option.some.inj h, hk]
      exact ⟨c, hc, hgen, fun _ => rfl⟩
    · exact ⟨e, h, rfl, id⟩
  refine ⟨fun k e h => ?_, fun k e h => ?_, fun k k' e e' h h' heq => ?_, fun g hpos hle => ?_⟩
  · obtain ⟨d, hd, _, hkey⟩ := hold k e h
    exact hkey (inv.keyed k d hd)
  · obtain ⟨d, hd, hde, _⟩ := hold k e h
    rw [← hde]
    exact inv.bound k d hd
  · obtain ⟨d, hd, hde, _⟩ := hold k e h
    obtain ⟨d', hd', hde', _⟩ := hold k' e' h'
    exact inv.unique k k' d d' hd hd' (by rw [hde, hde', heq])
  · obtain ⟨k, e, he, heq⟩ := inv.used g hpos hle
    by_cases hk : k = r.key event
    · rw [hk, hc] at he
      refine ⟨k, event, by rw [current_insert, if_pos hk], ?_⟩
      rw [← hgen, Option.some.inj he, heq]
    · refine ⟨k, e, ?_, heq⟩
      rw [current_insert, if_neg hk]
      exact he

theorem apply_inv (lawful : r.Lawful) (inv : Inv r st) (h : st.apply r event seq error = .ok st') : Inv r st' := by
  rcases apply_cases h with ⟨hnone, _, hgen, rfl⟩ | ⟨c, hc, hsucc, rfl⟩
  · exact inv.open_ hnone hgen
  · exact inv.replace hc (lawful.importable_generation (lawful.importable_of_successor hsucc))

theorem Inv.keys_listed (inv : Inv r st) : st.listed.map r.key = st.events.entries.map Prod.fst := by
  unfold listed OrdMap.values
  rw [List.map_map, List.map_map]
  refine List.map_congr_left fun x hx => inv.keyed x.1 x.2.1 ?_
  unfold current
  rw [OrdMap.mem_entries.mp (show (x.1, x.2) ∈ st.events.entries from hx)]
  rfl

/-- **The generations in use are `1..n` for the `n` targets.** -/
theorem Inv.generations_perm (inv : Inv r st) :
    (st.listed.map r.generation).Perm (List.range' 1 st.generation) := by
  have hnodup : (st.listed.map r.generation).Nodup := by
    have hsorted := st.events.sorted
    unfold listed OrdMap.values
    rw [List.map_map, List.map_map, List.Nodup, List.pairwise_map]
    refine List.Pairwise.imp_of_mem (fun {a b} ha hb hlt heq => ?_) hsorted
    have hcurrent : ∀ x ∈ st.events.entries, st.current x.1 = some x.2.1 := fun x hx => by
      unfold current
      rw [OrdMap.mem_entries.mp (show (x.1, x.2) ∈ st.events.entries from hx)]
      rfl
    exact absurd (inv.unique _ _ _ _ (hcurrent a ha) (hcurrent b hb) heq) hlt.ne
  refine (List.perm_ext_iff_of_nodup hnodup List.nodup_range').mpr fun g => ?_
  rw [List.mem_map, List.mem_range'_1]
  refine ⟨fun ⟨e, he, hg⟩ => ?_, fun hg => ?_⟩
  · obtain ⟨k, hk⟩ := mem_listed.mp he
    have hb := inv.bound k e hk
    omega
  · obtain ⟨k, e, he, heq⟩ := inv.used g (by omega) (by omega)
    exact ⟨e, mem_listed.mpr ⟨k, he⟩, heq⟩

theorem Inv.generation_eq_length (inv : Inv r st) : st.generation = st.events.entries.length := by
  have h := inv.generations_perm.length_eq
  rw [List.length_map, List.length_range', length_listed] at h
  exact h.symm

theorem Inv.validateRestored (inv : Inv r st) : st.validateRestored r = .ok () := by
  have hset : sortUnique (st.listed.map r.generation) = List.range' 1 st.generation := by
    rw [sortUnique_eq_of_perm inv.generations_perm]
    exact sortUnique_eq_self List.pairwise_lt_range'
  unfold Ledger.validateRestored
  rw [hset]
  dsimp only
  rw [List.length_range']
  refine if_neg fun h => ?_
  rcases h with h | h | h
  · exact h inv.generation_eq_length
  · exact h rfl
  · exact h rfl

/-! ## Whole runs -/

theorem applyAll_append {pre post : List (ε × Nat)} :
    st.applyAll r (pre ++ post) = .ok st' ↔ ∃ mid, st.applyAll r pre = .ok mid ∧ mid.applyAll r post = .ok st' := by
  unfold applyAll
  rw [List.foldlM_append, bind_eq_ok]

/-- What every accepted event preserves, every accepted run preserves. -/
theorem applyAll_induct {P : Ledger κ ε → Prop} :
    ∀ {es : List (ε × Nat)} {st st' : Ledger κ ε},
      (∀ e ∈ es, ∀ st st', st.apply r e.1 e.2 .storeCorrupt = .ok st' → P st → P st') →
      st.applyAll r es = .ok st' → P st → P st' := by
  intro es
  induction es with
  | nil =>
    intro st st' _ h hst
    rw [← Except.ok.inj h]
    exact hst
  | cons e rest ih =>
    intro st st' keep h hst
    obtain ⟨mid, hmid, h⟩ := bind_eq_ok.mp h
    exact ih (fun x hx => keep x (List.mem_cons_of_mem _ hx)) h (keep e List.mem_cons_self st mid hmid hst)

theorem applyAll_inv (lawful : r.Lawful) {es : List (ε × Nat)} (h : st.applyAll r es = .ok st') (inv : Inv r st) :
    Inv r st' :=
  applyAll_induct (fun _ _ _ _ happ hinv => apply_inv lawful hinv happ) h inv

theorem applyAll_below (lawful : r.Lawful) {es : List (ε × Nat)} (h : st.applyAll r es = .ok st') :
    Below r st st' :=
  applyAll_induct (P := Below r st)
    (fun _ _ _ _ happ hbelow => hbelow.trans lawful (apply_below lawful happ)) h (Below.refl lawful st)

/-- The current events are valid and were recorded at journal sequences. -/
def Sound (r : LedgerRules κ τ ε) (st : Ledger κ ε) : Prop :=
  ∀ k v, st.events.get k = some v → r.validate v.1 = true ∧ 0 < v.2

theorem applyAll_sound {es : List (ε × Nat)} (hes : ∀ e ∈ es, r.validate e.1 = true ∧ 0 < e.2)
    (h : st.applyAll r es = .ok st') (sound : Sound r st) : Sound r st' := by
  refine applyAll_induct (fun e he st st' happ hst => ?_) h sound
  have hevents : st'.events = st.events.insert (r.key e.1) (e.1, e.2) := by
    rcases apply_cases happ with ⟨_, _, _, rfl⟩ | ⟨_, _, _, rfl⟩ <;> rfl
  intro k v hv
  rw [hevents, OrdMap.get_insert] at hv
  split at hv
  · rw [← Option.some.inj hv]
    exact hes e he
  · exact hst k v hv

/-! ## Taking events in -/

/-- The ledger after events were put in place of their targets' current ones. -/
def absorb (r : LedgerRules κ τ ε) (st : Ledger κ ε) (events : List (ε × Nat)) : Ledger κ ε :=
  ⟨st.events.insertAll (events.map fun e => (r.key e.1, e)),
    events.foldl (fun g e => max g (r.generation e.1)) st.generation⟩

theorem absorb_cons (e : ε × Nat) (rest : List (ε × Nat)) :
    absorb r st (e :: rest) =
      absorb r ⟨st.events.insert (r.key e.1) e, max st.generation (r.generation e.1)⟩ rest := rfl

omit [LinearOrder κ] in
/-- A bound of the old generation and of the events' bounds the generation after taking them in. -/
theorem absorb_generation_le {bound : Nat} : ∀ {events : List (ε × Nat)} {g : Nat}, g ≤ bound →
    (∀ e ∈ events, r.generation e.1 ≤ bound) →
    events.foldl (fun g e => max g (r.generation e.1)) g ≤ bound := by
  intro events
  induction events with
  | nil => intro g hg _; exact hg
  | cons e rest ih =>
    intro g hg hall
    have he := hall e List.mem_cons_self
    exact ih (Nat.max_le.mpr ⟨hg, he⟩) fun x hx => hall x (List.mem_cons_of_mem _ hx)

omit [LinearOrder κ] in
theorem le_absorb_generation : ∀ {events : List (ε × Nat)} {g : Nat},
    g ≤ events.foldl (fun g e => max g (r.generation e.1)) g ∧
      ∀ e ∈ events, r.generation e.1 ≤ events.foldl (fun g e => max g (r.generation e.1)) g := by
  intro events
  induction events with
  | nil => intro g; exact ⟨Nat.le_refl _, fun _ h => by cases h⟩
  | cons e rest ih =>
    intro g
    obtain ⟨hle, hall⟩ := ih (g := max g (r.generation e.1))
    refine ⟨Nat.le_trans (Nat.le_max_left _ _) hle, fun x hx => ?_⟩
    rcases List.mem_cons.mp hx with rfl | hx
    · exact Nat.le_trans (Nat.le_max_right _ _) hle
    · exact hall x hx

/-- Taking in all current events of a ledger, from below it, reaches its generation. -/
theorem absorb_generation_eq (inv : Inv r st) {events : List (ε × Nat)}
    (hevents : ∀ e, e ∈ events.map Prod.fst ↔ e ∈ st.listed) {g : Nat} (hg : g ≤ st.generation) :
    events.foldl (fun g e => max g (r.generation e.1)) g = st.generation := by
  refine Nat.le_antisymm (absorb_generation_le hg fun e he => ?_) ?_
  · obtain ⟨k, hk⟩ := mem_listed.mp ((hevents e.1).mp (List.mem_map_of_mem he))
    exact (inv.bound k e.1 hk).2
  · by_cases hzero : st.generation = 0
    · omega
    · obtain ⟨k, e, he, heq⟩ := inv.used st.generation (by omega) (Nat.le_refl _)
      obtain ⟨x, hx, hxe⟩ := List.mem_map.mp ((hevents e).mpr (mem_listed.mpr ⟨k, he⟩))
      rw [← heq, ← hxe]
      exact le_absorb_generation.2 x hx

/-! ## Restored rows -/

/-- The generation is the largest of the current events', zero when there are none. -/
structure Largest (r : LedgerRules κ τ ε) (st : Ledger κ ε) : Prop where
  bound : ∀ k e, st.current k = some e → r.generation e ≤ st.generation
  reached : st.generation = 0 ∨ ∃ k e, st.current k = some e ∧ r.generation e = st.generation

theorem Largest.insert (largest : Largest r st) (hnone : st.events.get (r.key event) = none) :
    Largest r ⟨st.events.insert (r.key event) (event, seq), max st.generation (r.generation event)⟩ := by
  refine ⟨fun k e h => ?_, ?_⟩
  · rw [current_insert] at h
    split at h
    · rw [← Option.some.inj h]
      exact Nat.le_max_right _ _
    · exact Nat.le_trans (largest.bound k e h) (Nat.le_max_left _ _)
  · by_cases hle : r.generation event ≤ st.generation
    · rw [Nat.max_eq_left hle]
      refine largest.reached.imp_right fun ⟨k, e, he, heq⟩ => ⟨k, e, ?_, heq⟩
      have hk : k ≠ r.key event := fun hk => by rw [current, hk, hnone] at he; cases he
      rw [current_insert, if_neg hk]
      exact he
    · rw [Nat.max_eq_right (Nat.le_of_not_le hle)]
      exact .inr ⟨r.key event, event, by rw [current_insert, if_pos rfl], rfl⟩

/-- One row read back: a valid event of a target that is not there yet goes in as it was. -/
def Restores (r : LedgerRules κ τ ε) (row : ε → Nat → ObjectRow ε)
    (restore : Ledger κ ε → ObjectRow ε → ε → Except StoreError (Ledger κ ε)) : Prop :=
  ∀ (st : Ledger κ ε) (event : ε) (seq : Nat), r.validate event = true → 0 < seq →
    st.events.get (r.key event) = none → Largest r st →
    restore st (row event seq) event =
      .ok ⟨st.events.insert (r.key event) (event, seq), max st.generation (r.generation event)⟩

/-- The rows of a snapshot read back one after another, each with its decoded payload.
mirrors evertrace-store/src/projections.rs:13891-13904 -/
def restoreAll (restore : Ledger κ ε → ObjectRow ε → ε → Except StoreError (Ledger κ ε)) (st : Ledger κ ε)
    (rows : List (ObjectRow ε)) : Except StoreError (Ledger κ ε) :=
  rows.foldlM (fun st row => restore st row row.payload) st

theorem restoreAll_eq {row : ε → Nat → ObjectRow ε}
    {restore : Ledger κ ε → ObjectRow ε → ε → Except StoreError (Ledger κ ε)}
    (hrow : ∀ event seq, (row event seq).payload = event ∧ (row event seq).sourceEventSeq = seq)
    (hrestore : Restores r row restore) :
    ∀ {events : List (ε × Nat)} {st : Ledger κ ε},
      (∀ e ∈ events, r.validate e.1 = true ∧ 0 < e.2) → (events.map fun e => r.key e.1).Nodup →
      (∀ e ∈ events, st.events.get (r.key e.1) = none) → Largest r st →
      restoreAll restore st (events.map fun e => row e.1 e.2) = .ok (absorb r st events) := by
  intro events
  induction events with
  | nil => intro st _ _ _ _; rfl
  | cons e rest ih =>
    intro st hvalid hnodup hfresh largest
    rw [List.map_cons, List.nodup_cons] at hnodup
    have hnone := hfresh e List.mem_cons_self
    have he := hvalid e List.mem_cons_self
    have hstep : restore st (row e.1 e.2) (row e.1 e.2).payload =
        .ok ⟨st.events.insert (r.key e.1) e, max st.generation (r.generation e.1)⟩ := by
      rw [(hrow e.1 e.2).1]
      exact hrestore st e.1 e.2 he.1 he.2 hnone largest
    refine bind_eq_ok.mpr ⟨_, hstep, ?_⟩
    rw [absorb_cons]
    refine ih (fun x hx => hvalid x (List.mem_cons_of_mem _ hx)) hnodup.2 (fun x hx => ?_) (largest.insert hnone)
    have hne : r.key x.1 ≠ r.key e.1 := fun heq =>
      hnodup.1 (heq ▸ List.mem_map_of_mem (f := fun e => r.key e.1) hx)
    rw [OrdMap.get_insert_of_ne _ _ hne]
    exact hfresh x (List.mem_cons_of_mem _ hx)

def rowsOf (row : ε → Nat → ObjectRow ε) (st : Ledger κ ε) : List (ObjectRow ε) :=
  st.events.values.map fun v => row v.1 v.2

/-- **The rows of a ledger give it back, in any order.** -/
theorem restoreAll_rows {row : ε → Nat → ObjectRow ε}
    {restore : Ledger κ ε → ObjectRow ε → ε → Except StoreError (Ledger κ ε)}
    (hrow : ∀ event seq, (row event seq).payload = event ∧ (row event seq).sourceEventSeq = seq)
    (hrestore : Restores r row restore)
    (inv : Inv r st) (sound : Sound r st) {rows : List (ObjectRow ε)} (hperm : rows.Perm (rowsOf row st)) :
    restoreAll restore empty rows = .ok st := by
  -- the rows are those of some order of the ledger's events
  let events := rows.map fun row => (row.payload, row.sourceEventSeq)
  have hevents : events.Perm st.events.values := by
    have h := hperm.map fun row => (row.payload, row.sourceEventSeq)
    unfold rowsOf at h
    rw [List.map_map] at h
    refine h.trans (List.Perm.of_eq ?_)
    refine (List.map_congr_left fun v _ => ?_).trans (List.map_id _)
    exact Prod.ext (hrow v.1 v.2).1 (hrow v.1 v.2).2
  have hrows : events.map (fun e => row e.1 e.2) = rows := by
    rw [List.map_map]
    refine (List.map_congr_left fun x hx => ?_).trans (List.map_id _)
    obtain ⟨v, _, rfl⟩ := List.mem_map.mp (hperm.mem_iff.mp hx)
    rw [Function.comp_apply, (hrow v.1 v.2).1, (hrow v.1 v.2).2]
    rfl
  have hentries : (events.map fun e => (r.key e.1, e)).Perm st.events.entries := by
    refine (hevents.map _).trans (List.Perm.of_eq ?_)
    unfold OrdMap.values
    rw [List.map_map]
    refine (List.map_congr_left fun x hx => ?_).trans (List.map_id _)
    have hget := OrdMap.mem_entries.mp (show (x.1, x.2) ∈ st.events.entries from hx)
    exact Prod.ext (inv.keyed x.1 x.2.1 (by unfold current; rw [hget]; rfl)) rfl
  rw [← hrows, restoreAll_eq hrow hrestore]
  · refine congrArg Except.ok ?_
    have hlisted : ∀ e, e ∈ events.map Prod.fst ↔ e ∈ st.listed := fun e => (hevents.map Prod.fst).mem_iff
    have hgen := absorb_generation_eq inv hlisted (Nat.zero_le _)
    have hmap := OrdMap.insertAll_eq_of_perm hentries
    change Ledger.mk (OrdMap.empty.insertAll _) (events.foldl _ 0) = st
    rw [hmap, hgen]
  · intro e he
    obtain ⟨k, hk⟩ := OrdMap.mem_values.mp (hevents.mem_iff.mp he)
    exact sound k e hk
  · have hkeys := (hentries.map Prod.fst).nodup_iff.mpr st.events.nodup_keys
    rw [List.map_map] at hkeys
    exact hkeys
  · exact fun _ _ => rfl
  · exact ⟨fun _ _ h => (by cases h), .inl rfl⟩

/-! ## Imported events -/

theorem importRestore_cases [DecidableEq τ] (h : st.importRestore r event seq = .ok st') :
    (∀ c, st.current (r.key event) = some c → r.importable c event = true) ∧
      st' = ⟨st.events.insert (r.key event) (event, seq), max st.generation (r.generation event)⟩ := by
  obtain ⟨hpass, h⟩ := ite_error_else.mp h
  rw [Bool.or_eq_true, not_or] at hpass
  refine ⟨fun c hc => ?_, (Except.ok.inj h).symm⟩
  have himport := hpass.2
  rw [hc, Option.any_some] at himport
  simpa using himport

/-- An event the ledger takes in, from the journal or from a backup, leaves every target with its event or with
one that may be imported over it. -/
theorem taken_moved [DecidableEq τ] (lawful : r.Lawful)
    (h : st.apply r event seq error = .ok st' ∨ st.importRestore r event seq = .ok st') {k : κ} {c : ε}
    (hc : st.current k = some c) : ∃ c', st'.current k = some c' ∧ r.importable c c' = true := by
  rcases h with h | h
  · exact (apply_below lawful h).moved k c hc
  · obtain ⟨himport, rfl⟩ := importRestore_cases h
    by_cases hk : k = r.key event
    · rw [hk] at hc
      exact ⟨event, by rw [current_insert, if_pos hk], himport c hc⟩
    · refine ⟨c, ?_, lawful.importable_refl c⟩
      rw [current_insert, if_neg hk]
      exact hc

/-- A current event of a later ledger may always be imported. -/
theorem importRestore_ok [DecidableEq τ] (lawful : r.Lawful) {p s : Ledger κ ε} (hbelow : Below r p s) (inv : Inv r s)
    {e : ε × Nat} (hcurrent : s.current (r.key e.1) = some e.1) (hvalid : r.validate e.1 = true) :
    p.importRestore r e.1 e.2 =
      .ok ⟨p.events.insert (r.key e.1) e, max p.generation (r.generation e.1)⟩ := by
  refine if_neg fun h => ?_
  rw [Bool.or_eq_true, Bool.or_eq_true] at h
  rcases h with (h | h) | h
  · rw [hvalid] at h
    cases h
  · -- another target of the same generation is the same target in `s`
    obtain ⟨other, hother, hclash⟩ := List.any_eq_true.mp h
    rw [Bool.and_eq_true, beq_iff_eq, bne_iff_ne] at hclash
    obtain ⟨k, hk⟩ := OrdMap.mem_values.mp hother
    obtain ⟨c, hc, himport⟩ := hbelow.moved k other.1 (by unfold current; rw [hk]; rfl)
    have hgen : r.generation c = r.generation e.1 := (lawful.importable_generation himport).symm.trans hclash.1
    have hkey := inv.unique _ _ _ _ hc hcurrent hgen
    rw [hkey, hcurrent] at hc
    rw [← Option.some.inj hc] at himport
    exact hclash.2 (lawful.importable_target himport)
  · cases hc : p.current (r.key e.1) with
    | none =>
      rw [hc] at h
      cases h
    | some c =>
      obtain ⟨c', hc', hcc'⟩ := hbelow.moved _ c hc
      rw [hcurrent] at hc'
      rw [hc, Option.any_some, Option.some.inj hc', hcc'] at h
      cases h

/-- After such an import the ledger is still below the later one. -/
theorem Below.absorb (lawful : r.Lawful) {p s : Ledger κ ε} (hbelow : Below r p s) (inv : Inv r s) {e : ε × Nat}
    (hcurrent : s.current (r.key e.1) = some e.1) :
    Below r ⟨p.events.insert (r.key e.1) e, max p.generation (r.generation e.1)⟩ s := by
  refine ⟨fun k c hc => ?_, Nat.max_le.mpr ⟨hbelow.generation, (inv.bound _ _ hcurrent).2⟩⟩
  rw [show e = (e.1, e.2) from rfl, current_insert] at hc
  split at hc
  · next hk =>
    rw [← Option.some.inj hc, hk]
    exact ⟨e.1, hcurrent, lawful.importable_refl _⟩
  · exact hbelow.moved k c hc

theorem importAll_eq [DecidableEq τ] (lawful : r.Lawful) {s : Ledger κ ε} (inv : Inv r s) (sound : Sound r s) :
    ∀ {events : List (ε × Nat)} {p : Ledger κ ε}, Below r p s → (∀ e ∈ events, e.1 ∈ s.listed) →
      p.importAll r events = .ok (absorb r p events) := by
  intro events
  induction events with
  | nil => intro p _ _; rfl
  | cons e rest ih =>
    intro p hbelow hmem
    obtain ⟨k, hk⟩ := mem_listed.mp (hmem e List.mem_cons_self)
    have hcurrent : s.current (r.key e.1) = some e.1 := by rw [inv.keyed k e.1 hk]; exact hk
    have hvalid : r.validate e.1 = true := by
      obtain ⟨v, hv, he⟩ := Option.map_eq_some_iff.mp hk
      rw [← he]
      exact (sound k v hv).1
    refine bind_eq_ok.mpr ⟨_, importRestore_ok lawful hbelow inv hcurrent hvalid, ?_⟩
    rw [absorb_cons]
    exact ih (hbelow.absorb lawful inv hcurrent) fun x hx => hmem x (List.mem_cons_of_mem _ hx)

/-- The same current events and the same generation. -/
structure Alike (s t : Ledger κ ε) : Prop where
  current : ∀ k, s.current k = t.current k
  generation : s.generation = t.generation

/-- **Importing a later ledger's current events, in any order, gives its events and generation.** -/
theorem importAll_current [DecidableEq τ] (lawful : r.Lawful) {p s : Ledger κ ε} (hbelow : Below r p s) (inv : Inv r s)
    (sound : Sound r s) {events : List (ε × Nat)} (hperm : (events.map Prod.fst).Perm s.listed) :
    ∃ merged, p.importAll r events = .ok merged ∧ Alike merged s := by
  refine ⟨_, importAll_eq lawful inv sound hbelow fun e he => hperm.mem_iff.mp (List.mem_map_of_mem he), ?_, ?_⟩
  · intro k
    have hkeys : ((events.map fun e => (r.key e.1, e)).map Prod.fst).Perm (s.events.entries.map Prod.fst) := by
      rw [List.map_map]
      have h := hperm.map r.key
      rw [inv.keys_listed, List.map_map] at h
      exact h
    have hnodup := hkeys.nodup_iff.mpr s.events.nodup_keys
    unfold current absorb
    cases hk : s.events.get k with
    | some v =>
      have hcurrent : s.current k = some v.1 := by unfold current; rw [hk]; rfl
      obtain ⟨e, he, hev⟩ := List.mem_map.mp (hperm.mem_iff.mpr (mem_listed.mpr ⟨k, hcurrent⟩))
      have hkey : r.key e.1 = k := by rw [hev]; exact inv.keyed k v.1 hcurrent
      have hmem : (k, e) ∈ events.map fun e => (r.key e.1, e) := List.mem_map.mpr ⟨e, he, by rw [hkey]⟩
      rw [OrdMap.get_insertAll_of_mem hnodup hmem, Option.map_some, Option.map_some, hev]
    | none =>
      have hnot : k ∉ (events.map fun e => (r.key e.1, e)).map Prod.fst := fun hmem => by
        obtain ⟨e, he, hek⟩ := List.mem_map.mp (hkeys.mem_iff.mp hmem)
        have hsome := OrdMap.mem_entries.mp (show (e.1, e.2) ∈ s.events.entries from he)
        rw [hek, hk] at hsome
        cases hsome
      rw [OrdMap.get_insertAll_of_notMem hnot, Option.map_none]
      -- a target that `s` does not have, `p` does not have either
      cases hp : p.events.get k with
      | none => rfl
      | some v =>
        obtain ⟨c, hc, _⟩ := hbelow.moved k v.1 (by unfold current; rw [hp]; rfl)
        rw [current, hk] at hc
        cases hc
  · exact absorb_generation_eq inv (fun e => hperm.mem_iff) hbelow.generation

theorem Alike.listed_eq {s t : Ledger κ ε} (h : Alike s t) : s.listed = t.listed := by
  have hmap : s.events.mapVal Prod.fst = t.events.mapVal Prod.fst :=
    OrdMap.ext_get fun k => by rw [OrdMap.get_mapVal, OrdMap.get_mapVal]; exact h.current k
  have hvalues := congrArg OrdMap.values hmap
  rw [OrdMap.values_mapVal, OrdMap.values_mapVal] at hvalues
  exact hvalues

theorem Alike.inv {s t : Ledger κ ε} (h : Alike s t) (inv : Inv r t) : Inv r s where
  keyed := fun k e he => inv.keyed k e (h.current k ▸ he)
  bound := fun k e he => by
    rw [h.generation]
    exact inv.bound k e (h.current k ▸ he)
  unique := fun k k' e e' he he' => inv.unique k k' e e' (h.current k ▸ he) (h.current k' ▸ he')
  used := fun g hpos hle => by
    rw [h.generation] at hle
    obtain ⟨k, e, he, heq⟩ := inv.used g hpos hle
    exact ⟨k, e, by rw [h.current k]; exact he, heq⟩

theorem Alike.insert_both {s t : Ledger κ ε} (h : Alike s t) (k : κ) (v : ε × Nat) (g : Nat) :
    Alike ⟨s.events.insert k v, g⟩ ⟨t.events.insert k v, g⟩ := by
  refine ⟨fun k' => ?_, rfl⟩
  rw [show v = (v.1, v.2) from rfl, current_insert, current_insert]
  split
  · rfl
  · exact h.current k'

theorem answer_bisim : Bisimulation (Ledger.answer r) (fun _ => True) Alike := by
  intro s t further halike _
  have hstep : Matches Alike (s.apply r further.1 further.2.1 further.2.2)
      (t.apply r further.1 further.2.1 further.2.2) := by
    have hcurrent := halike.current (r.key further.1)
    unfold current at hcurrent
    unfold apply
    cases hs : s.events.get (r.key further.1) with
    | none =>
      rw [hs] at hcurrent
      rw [Option.map_eq_none_iff.mp hcurrent.symm, halike.generation]
      refine Matches.guard Iff.rfl fun _ => Matches.bind_same _ fun next _ => Matches.guard Iff.rfl fun _ => ?_
      exact halike.insert_both _ _ _
    | some v =>
      rw [hs] at hcurrent
      obtain ⟨w, hw, hvw⟩ := Option.map_eq_some_iff.mp hcurrent.symm
      rw [hw]
      dsimp only
      rw [hvw]
      refine Matches.guard Iff.rfl fun _ => ?_
      rw [halike.generation]
      exact halike.insert_both _ _ _
  unfold answer
  cases hs : s.apply r further.1 further.2.1 further.2.2 <;>
    cases ht : t.apply r further.1 further.2.1 further.2.2 <;> rw [hs, ht] at hstep
  · exact ⟨congrArg Except.error hstep, halike⟩
  · exact hstep.elim
  · exact hstep.elim
  · exact ⟨rfl, hstep⟩

/-- **Ledgers with the same events and generation answer every later event alike.** -/
theorem Alike.answers_eq {s t : Ledger κ ε} (h : Alike s t) (further : List (ε × Nat × StoreError)) :
    answers (Ledger.answer r) s further = answers (Ledger.answer r) t further :=
  answer_bisim.answers_eq further s t h fun _ _ => trivial

/-! ## Backups -/

/-- What the callers of `apply` promise of its events: the payload was validated and the row has a sequence.
mirrors evertrace-store/src/projections.rs:11757-11758 -/
def Promised (r : LedgerRules κ τ ε) (es : List (ε × Nat)) : Prop :=
  ∀ e ∈ es, r.validate e.1 = true ∧ 0 < e.2

/-- A ledger `st` reached by the run `es` survives a backup: its generations are
`1..n`, its rows give it back in any order, and its current events, imported in any
order into the ledger of any earlier moment of the run, give the same ledger. -/
structure Survives [DecidableEq τ] (r : LedgerRules κ τ ε)
    (rows : Ledger κ ε → Except StoreError (List (ObjectRow ε)))
    (restore : Ledger κ ε → ObjectRow ε → ε → Except StoreError (Ledger κ ε)) (es : List (ε × Nat))
    (st : Ledger κ ε) : Prop where
  generations : (st.listed.map r.generation).Perm (List.range' 1 st.events.entries.length)
  restored : st.validateRestored r = .ok ()
  rebuilt : Promised r es → ∃ out, rows st = .ok out ∧
    ∀ shuffled : List (ObjectRow ε), shuffled.Perm out → restoreAll restore empty shuffled = .ok st
  imported : Promised r es → ∀ pre post, es = pre ++ post → ∃ before, empty.applyAll r pre = .ok before ∧
    ∀ events : List (ε × Nat), (events.map Prod.fst).Perm st.listed →
      ∃ merged, before.importAll r events = .ok merged ∧ merged.listed = st.listed ∧
        merged.generation = st.generation ∧ merged.validateRestored r = .ok () ∧
        ∀ further, answers (answer r) merged further = answers (answer r) st further

theorem survives [DecidableEq τ] (lawful : r.Lawful) {row : ε → Nat → ObjectRow ε}
    {rows : Ledger κ ε → Except StoreError (List (ObjectRow ε))}
    {restore : Ledger κ ε → ObjectRow ε → ε → Except StoreError (Ledger κ ε)}
    (hrow : ∀ event seq, (row event seq).payload = event ∧ (row event seq).sourceEventSeq = seq)
    (hrows : ∀ st, Sound r st → rows st = .ok (rowsOf row st)) (hrestore : Restores r row restore)
    {es : List (ε × Nat)} {st : Ledger κ ε} (h : empty.applyAll r es = .ok st) :
    Survives r rows restore es st := by
  have inv : Inv r st := applyAll_inv lawful h inv_empty
  have hsound : Promised r es → Sound r st := fun promised =>
    applyAll_sound promised h fun _ _ hv => by cases hv
  refine ⟨?_, inv.validateRestored, fun promised => ?_, fun promised pre post hsplit => ?_⟩
  · rw [← inv.generation_eq_length]
    exact inv.generations_perm
  · exact ⟨_, hrows st (hsound promised), fun _ hperm =>
      restoreAll_rows hrow hrestore inv (hsound promised) hperm⟩
  · rw [hsplit] at h
    obtain ⟨before, hbefore, hafter⟩ := applyAll_append.mp h
    refine ⟨before, hbefore, fun events hperm => ?_⟩
    obtain ⟨merged, hmerged, halike⟩ :=
      importAll_current lawful (applyAll_below lawful hafter) inv (hsound promised) hperm
    exact ⟨merged, hmerged, halike.listed_eq, halike.generation, (halike.inv inv).validateRestored,
      halike.answers_eq⟩

end Ledger

end EverTrace.L2.Purge
