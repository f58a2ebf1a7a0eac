import EverTrace.L1Encoding.CanonicalParse
import EverTrace.L2Machine.CoreRows
import EverTrace.Bugs.CutChain
/-!
# A core whose memberships and atoms are ordered differently

`core_rows` (evertrace-store/src/projections/s23.rs:1055-1128) sorts the listed
memberships of a scope by their revision id and writes two parallel lists, the
membership revisions and their atom revisions. `L3CoreProjection::validate`
(evertrace-domain/src/semantic/scenario_core.rs:323-331) demands that both be
strictly increasing. Nothing relates the two orders: ids grow with time, so the
second list only increases when the atoms were promoted in the order in which
they were made.

Counterexample: two atoms, the newer one promoted first, both into the global
core. The rows of the whole store fail with `StoreCorrupt`.

`rows_ok_iff` says exactly when the rows can be built: any two listed memberships
of a scope are ordered by atom as they are by membership revision (`AlikeOrdered`).
-/
namespace EverTrace.Bugs.CoreOrder
open EverTrace.Lib EverTrace.L1 EverTrace.L1.Canonical EverTrace.L2.Semantic EverTrace.L2.Store
open EverTrace.L2.Support EverTrace.Bugs.CutChain
open EverTrace.L2.Recall (strictlyIncreasing strictlyIncreasing_of_pairwise pairwise_of_strictlyIncreasing)

/-! ## What the rows should list -/

def listedIn (s : S23State) (atoms : Atoms) (scope : CoreScopeIdentity) : List MembershipEntry :=
  s.memberships.values.filter fun e => s.listed atoms e.1 && decide (e.1.scopeIdentity = scope)

/-- The core of the scope, if the row carries it. -/
def coreOf (scope : CoreScopeIdentity) (row : CoreRow) : Option L3CoreProjection :=
  match row.payload with
  | .core projection => if projection.scopeIdentity = scope then some projection else none
  | .journal _ => none

/-- The projection lists exactly these memberships, each with its own atom. -/
def Pairs (projection : L3CoreProjection) (members : List MembershipEntry) : Prop :=
  projection.activeMembershipRevisionIds.length = projection.atomRevisionIds.length ∧
  (projection.activeMembershipRevisionIds.zip projection.atomRevisionIds).Perm
    (members.map fun e => (e.1.membershipRevisionId, e.1.atomRevisionId))

/-- Each scope with listed memberships has one projection, which lists exactly those; no other scope has one. -/
def ListsCore (s : S23State) (atoms : Atoms) (rows : List CoreRow) : Prop :=
  ∀ scope, (listedIn s atoms scope = [] → rows.filterMap (coreOf scope) = []) ∧
    (listedIn s atoms scope ≠ [] → ∃ projection, rows.filterMap (coreOf scope) = [projection] ∧
      Pairs projection (listedIn s atoms scope))

/-- Two listed memberships of a scope are ordered by atom as by revision. -/
def AlikeOrdered (s : S23State) (atoms : Atoms) : Prop :=
  ∀ scope, ∀ a ∈ listedIn s atoms scope, ∀ b ∈ listedIn s atoms scope,
    a.1.membershipRevisionId < b.1.membershipRevisionId → a.1.atomRevisionId < b.1.atomRevisionId

def activeIn (s : S23State) (scope : CoreScopeIdentity) : List MembershipEntry :=
  s.memberships.values.filter fun e => e.1.active && decide (e.1.scopeIdentity = scope)

variable {H : Sha256} {s : S23State} {atoms : Atoms} {generation : Nat} {scope : CoreScopeIdentity}

theorem length_listedIn_le : (listedIn s atoms scope).length ≤ (activeIn s scope).length := by
  have hsub : listedIn s atoms scope = (activeIn s scope).filter fun e => s.listed atoms e.1 := by
    unfold listedIn activeIn
    rw [List.filter_filter]
    refine List.filter_congr fun e _ => ?_
    by_cases hlisted : s.listed atoms e.1 = true
    · have hactive : e.1.active = true := by
        simp only [S23State.listed, Bool.and_eq_true] at hlisted
        exact hlisted.1.1.1
      rw [hlisted, hactive, Bool.true_and, Bool.true_and]
    · rw [Bool.not_eq_true] at hlisted
      rw [hlisted]
      rfl
  rw [hsub]
  exact List.length_filter_le _ _

/-! ## One scope -/

/-- The members of a scope in the order in which they are written. -/
def writtenIn (s : S23State) (atoms : Atoms) (scope : CoreScopeIdentity) : List MembershipEntry :=
  sortByKey (fun e => e.1.membershipRevisionId)
    ((listedIn s atoms scope).map fun e => (e.1, s.watermark atoms e))

theorem projectionId_ok (H : Sha256) (scope : CoreScopeIdentity) : ∃ id, scope.projectionId H = .ok id := by
  have hshort : ∀ text : String, text.length ≤ 45 →
      ∃ digest, sha256 H "evertrace.core.scope" 1 (.string text) = .ok digest := by
    intro text htext
    have hbytes := length_utf8_le text
    have hne : decide (utf8 "evertrace.core.scope" ≠ []) = true := by decide
    have htag : (utf8 "evertrace.core.scope").length < 2 ^ 64 := by decide
    have hlen : (utf8 text).length < 2 ^ 64 := by omega
    rw [sha256, encode, hne, pushLen_ok.mpr ⟨htag, rfl⟩, encodeValue, pushLen_ok.mpr ⟨hlen, rfl⟩]
    exact ⟨_, rfl⟩
  unfold CoreScopeIdentity.projectionId
  cases scope with
  | global =>
    obtain ⟨digest, hdigest⟩ := hshort "global" (by decide)
    dsimp only
    rw [hdigest]
    exact ⟨_, rfl⟩
  | repository id =>
    obtain ⟨digest, hdigest⟩ := hshort id.toText (length_toText_le id)
    dsimp only
    rw [hdigest]
    exact ⟨_, rfl⟩

theorem get_coreScopes : (s.coreScopes atoms).get scope =
    if listedIn s atoms scope = [] then none
    else some ((listedIn s atoms scope).map fun e => (e.1, s.watermark atoms e)) := by
  have hfilter : listedIn s atoms scope = s.memberships.values.filter fun e =>
      s.listed atoms e.1 && @decide _ (LinearOrder.toDecidableEq e.1.scopeIdentity scope) :=
    List.filter_congr fun e _ => congrArg _ (decide_eq_decide.mpr Iff.rfl)
  rw [hfilter]
  exact OrdMap.get_groupBy _ _

theorem coreRow_ok {members : List MembershipEntry} {row : CoreRow} :
    coreRow H generation (scope, members) = .ok row ↔ ∃ id, scope.projectionId H = .ok id ∧
      (coreProjection id scope (sortByKey (fun e => e.1.membershipRevisionId) members)).validate = .ok () ∧
      row = projectionRow (coreProjection id scope (sortByKey (fun e => e.1.membershipRevisionId) members))
        generation := by
  unfold coreRow
  constructor
  · intro h
    obtain ⟨id, hid, h⟩ := bind_eq_ok.mp h
    obtain ⟨_, hvalid, h⟩ := bind_eq_ok.mp h
    exact ⟨id, mapError_ok.mp hid, mapError_ok.mp hvalid, (pure_eq_ok.mp h).symm⟩
  · rintro ⟨id, hid, hvalid, rfl⟩
    rw [mapError_ok.mpr hid]
    dsimp only [bind, Except.bind]
    rw [mapError_ok.mpr hvalid]
    rfl

theorem validate_ok {id : CoreProjectionId} {members : List MembershipEntry} :
    (coreProjection id scope members).validate = .ok () ↔ members.length ≤ maxRefs ∧
      members.Pairwise (fun a b => a.1.membershipRevisionId < b.1.membershipRevisionId) ∧
      members.Pairwise (fun a b => a.1.atomRevisionId < b.1.atomRevisionId) := by
  have hincreasing : ∀ f : MembershipEntry → RevisionId,
      strictlyIncreasing (members.map f) = true ↔ members.Pairwise fun a b => f a < f b := by
    intro f
    rw [← List.pairwise_map]
    exact ⟨pairwise_of_strictlyIncreasing, strictlyIncreasing_of_pairwise⟩
  simp only [L3CoreProjection.validate, coreProjection, ensure_ok, boundedSorted, sortedUpTo, Bool.and_eq_true,
    beq_iff_eq, List.length_map, decide_eq_true_eq, true_and, hincreasing]
  tauto

/-! ## All rows -/

theorem rows_ok {rows : List CoreRow} : s.rows H atoms generation = .ok rows ↔
    ∃ front core, s.coreRows H atoms generation = .ok core ∧ rows = front ++ core ∧
      (∃ memberships validations,
        (s.membershipRevisions.entries.map Prod.fst).mapM (s.membershipRow generation) = .ok memberships ∧
        (s.validations.entries.map Prod.fst).mapM (s.validationRow generation) = .ok validations ∧
        front = s.scenarioRevisions.entries.map (scenarioRow generation) ++ memberships
          ++ s.contracts.entries.map (contractRow generation) ++ validations) := by
  unfold S23State.rows
  constructor
  · intro h
    obtain ⟨memberships, hm, h⟩ := bind_eq_ok.mp h
    obtain ⟨validations, hv, h⟩ := bind_eq_ok.mp h
    obtain ⟨core, hc, h⟩ := bind_eq_ok.mp h
    exact ⟨_, core, hc, (pure_eq_ok.mp h).symm, memberships, validations, hm, hv, rfl⟩
  · rintro ⟨front, core, hc, rfl, memberships, validations, hm, hv, rfl⟩
    rw [hm, hv, hc]
    rfl

/-- Only the rows of the core can fail. -/
theorem exists_rows : (∃ rows, s.rows H atoms generation = .ok rows) ↔
    ∃ core, s.coreRows H atoms generation = .ok core := by
  constructor
  · rintro ⟨rows, h⟩
    obtain ⟨front, core, hc, -⟩ := rows_ok.mp h
    exact ⟨core, hc⟩
  · rintro ⟨core, hc⟩
    have hm : ∃ memberships,
        (s.membershipRevisions.entries.map Prod.fst).mapM (s.membershipRow generation) = .ok memberships := by
      refine exists_mapM_ok.mpr fun revision hrevision => ?_
      obtain ⟨entry, hentry, rfl⟩ := List.mem_map.mp hrevision
      rw [S23State.membershipRow, OrdMap.mem_entries.mp hentry]
      exact ⟨_, rfl⟩
    have hv : ∃ validations, (s.validations.entries.map Prod.fst).mapM (s.validationRow generation) = .ok validations := by
      refine exists_mapM_ok.mpr fun revision hrevision => ?_
      obtain ⟨entry, hentry, rfl⟩ := List.mem_map.mp hrevision
      rw [S23State.validationRow, OrdMap.mem_entries.mp hentry]
      exact ⟨_, rfl⟩
    obtain ⟨memberships, hm⟩ := hm
    obtain ⟨validations, hv⟩ := hv
    exact ⟨_, rows_ok.mpr ⟨_, core, hc, rfl, memberships, validations, hm, hv, rfl⟩⟩

theorem exists_rows_iff : (∃ rows, s.rows H atoms generation = .ok rows) ↔
    ∀ scope, listedIn s atoms scope ≠ [] → (writtenIn s atoms scope).length ≤ maxRefs ∧
      (writtenIn s atoms scope).Pairwise (fun a b => a.1.membershipRevisionId < b.1.membershipRevisionId) ∧
      (writtenIn s atoms scope).Pairwise (fun a b => a.1.atomRevisionId < b.1.atomRevisionId) := by
  rw [exists_rows]
  unfold S23State.coreRows
  rw [exists_mapM_ok]
  constructor
  · intro h scope hne
    have hget : (s.coreScopes atoms).get scope = some _ := get_coreScopes.trans (if_neg hne)
    obtain ⟨row, hrow⟩ := h _ (OrdMap.mem_entries.mpr hget)
    obtain ⟨id, -, hvalid, -⟩ := coreRow_ok.mp hrow
    exact validate_ok.mp hvalid
  · rintro h ⟨scope, members⟩ hentry
    have hget := OrdMap.mem_entries.mp hentry
    rw [get_coreScopes] at hget
    split at hget
    · cases hget
    · next hne =>
      cases hget
      obtain ⟨id, hid⟩ := projectionId_ok H scope
      exact ⟨_, coreRow_ok.mpr ⟨id, hid, validate_ok.mpr (h scope hne), rfl⟩⟩

/-! ## What is written is what is listed -/

/-- The projections of a scope among the rows of some scopes. -/
theorem cores_of_mapM : ∀ {l : List (CoreScopeIdentity × List MembershipEntry)} {rows : List CoreRow},
    l.mapM (coreRow H generation) = .ok rows → (l.map Prod.fst).Nodup →
    (∀ members, (scope, members) ∈ l → ∃ id, rows.filterMap (coreOf scope) =
      [coreProjection id scope (sortByKey (fun e => e.1.membershipRevisionId) members)]) ∧
    (scope ∉ l.map Prod.fst → rows.filterMap (coreOf scope) = []) := by
  intro l
  induction l with
  | nil =>
    intro rows h _
    cases h
    exact ⟨fun members hmem => (by cases hmem), fun _ => rfl⟩
  | cons entry l ih =>
    intro rows h hnodup
    obtain ⟨scope', members'⟩ := entry
    rw [List.mapM_cons] at h
    obtain ⟨row, hrow, h⟩ := bind_eq_ok.mp h
    obtain ⟨rest, hrest, h⟩ := bind_eq_ok.mp h
    cases pure_eq_ok.mp h
    obtain ⟨id, -, -, rfl⟩ := coreRow_ok.mp hrow
    obtain ⟨hnew, hnodup⟩ := List.nodup_cons.mp hnodup
    obtain ⟨hin, hout⟩ := ih hrest hnodup
    rw [List.filterMap_cons]
    by_cases hscope : scope' = scope
    · subst hscope
      have hself : coreOf scope' (projectionRow (coreProjection id scope'
          (sortByKey (fun e => e.1.membershipRevisionId) members')) generation) =
          some (coreProjection id scope' (sortByKey (fun e => e.1.membershipRevisionId) members')) := if_pos rfl
      rw [hself, hout hnew]
      refine ⟨fun members hmem => ?_, fun hno => absurd List.mem_cons_self hno⟩
      rcases List.mem_cons.mp hmem with heq | hmem
      · cases heq
        exact ⟨id, rfl⟩
      · exact absurd (List.mem_map_of_mem hmem) hnew
    · have hother : coreOf scope (projectionRow (coreProjection id scope'
          (sortByKey (fun e => e.1.membershipRevisionId) members')) generation) = none := if_neg hscope
      rw [hother]
      refine ⟨fun members hmem => ?_, fun hno => hout fun hmem => hno (List.mem_cons_of_mem _ hmem)⟩
      rcases List.mem_cons.mp hmem with heq | hmem
      · cases heq
        exact absurd rfl hscope
      · exact hin members hmem

theorem pairs_writtenIn (id : CoreProjectionId) :
    Pairs (coreProjection id scope (writtenIn s atoms scope)) (listedIn s atoms scope) := by
  refine ⟨by simp [coreProjection], ?_⟩
  simp only [coreProjection, List.zip_map']
  refine ((sortByKey_perm _ _).map _).trans (List.Perm.of_eq ?_)
  rw [List.map_map]
  rfl

theorem listsCore_of_rows {rows : List CoreRow} (h : s.rows H atoms generation = .ok rows) :
    ListsCore s atoms rows := by
  obtain ⟨front, core, hcore, rfl, memberships, validations, hm, hv, rfl⟩ := rows_ok.mp h
  have hjournal : ∀ scope, ∀ row ∈ s.scenarioRevisions.entries.map (scenarioRow generation) ++ memberships
      ++ s.contracts.entries.map (contractRow generation) ++ validations, coreOf scope row = none := by
    intro scope row hrow
    simp only [List.mem_append, List.mem_map] at hrow
    rcases hrow with ((⟨e, -, rfl⟩ | hrow) | ⟨e, -, rfl⟩) | hrow
    · rfl
    · obtain ⟨revision, -, hrow⟩ := (mem_mapM_ok hm).mp hrow
      obtain ⟨e, -, hrow⟩ := bind_eq_ok.mp hrow
      cases pure_eq_ok.mp hrow
      rfl
    · rfl
    · obtain ⟨revision, -, hrow⟩ := (mem_mapM_ok hv).mp hrow
      obtain ⟨e, -, hrow⟩ := bind_eq_ok.mp hrow
      cases pure_eq_ok.mp hrow
      rfl
  intro scope
  obtain ⟨hin, hout⟩ := @cores_of_mapM H generation scope _ core hcore (OrdMap.nodup_keys _)
  rw [List.filterMap_append, List.filterMap_eq_nil_iff.mpr (hjournal scope), List.nil_append]
  constructor
  · intro hnil
    refine hout fun hmem => ?_
    obtain ⟨⟨scope', members⟩, hentry, rfl⟩ := List.mem_map.mp hmem
    have hget := OrdMap.mem_entries.mp hentry
    rw [get_coreScopes, if_pos hnil] at hget
    cases hget
  · intro hne
    obtain ⟨id, hid⟩ := hin _ (OrdMap.mem_entries.mpr (get_coreScopes.trans (if_neg hne)))
    exact ⟨_, hid, pairs_writtenIn id⟩

/-! ## The two orders -/

/-- In a list sorted by revision and by atom, the atoms are ordered as the revisions. -/
theorem atom_lt_of_pairwise {l : List MembershipEntry}
    (hrev : l.Pairwise fun a b => a.1.membershipRevisionId < b.1.membershipRevisionId)
    (hatom : l.Pairwise fun a b => a.1.atomRevisionId < b.1.atomRevisionId) {a b : MembershipEntry} (ha : a ∈ l)
    (hb : b ∈ l) (hab : a.1.membershipRevisionId < b.1.membershipRevisionId) :
    a.1.atomRevisionId < b.1.atomRevisionId := by
  let before := fun x y : MembershipEntry =>
    x.1.membershipRevisionId < y.1.membershipRevisionId ∧ x.1.atomRevisionId < y.1.atomRevisionId
  have hsymm : Std.Symm fun x y => before x y ∨ before y x := ⟨fun x y h => h.symm⟩
  have hboth : l.Pairwise fun x y => before x y ∨ before y x := (hrev.and hatom).imp fun h => .inl h
  have hne : a ≠ b := by
    rintro rfl
    exact lt_irrefl _ hab
  rcases hboth.forall ha hb hne with h | h
  · exact h.2
  · exact absurd (lt_trans hab h.1) (lt_irrefl _)

/-- **When the core can be written**: exactly when the listed memberships of each scope are ordered by atom as they
are by revision. -/
theorem rows_ok_iff (H : Sha256) (generation : Nat) (entries : List (SupportPayload × Nat)) (atoms : Atoms)
    (s : S23State) (hrun : applyAll H entries = .ok s) (hlimit : ∀ scope, (activeIn s scope).length ≤ maxRefs) :
    (∃ rows, s.rows H atoms generation = .ok rows ∧ ListsCore s atoms rows) ↔ AlikeOrdered s atoms := by
  obtain ⟨ms, held⟩ := applyAll_memberships hrun
  have hlists : (∃ rows, s.rows H atoms generation = .ok rows ∧ ListsCore s atoms rows) ↔
      ∃ rows, s.rows H atoms generation = .ok rows :=
    ⟨fun ⟨rows, h, _⟩ => ⟨rows, h⟩, fun ⟨rows, h⟩ => ⟨rows, h, listsCore_of_rows h⟩⟩
  rw [hlists, exists_rows_iff]
  have hwritten : ∀ scope, (writtenIn s atoms scope).Perm
      ((listedIn s atoms scope).map fun e => (e.1, s.watermark atoms e)) := fun scope => sortByKey_perm _ _
  constructor
  · intro h scope a ha b hb hab
    obtain ⟨-, hrev, hatom⟩ := h scope (List.ne_nil_of_mem ha)
    have hmem : ∀ e ∈ listedIn s atoms scope, (e.1, s.watermark atoms e) ∈ writtenIn s atoms scope := fun e he =>
      (hwritten scope).mem_iff.mpr (List.mem_map_of_mem he)
    have hlt := atom_lt_of_pairwise hrev hatom (hmem a ha) (hmem b hb) hab
    exact hlt
  · intro halike scope _
    have hlength : (writtenIn s atoms scope).length ≤ maxRefs := by
      rw [(hwritten scope).length_eq, List.length_map]
      exact Nat.le_trans length_listedIn_le (hlimit scope)
    -- no two current memberships have the same revision
    have hrevs : ((writtenIn s atoms scope).map fun e => e.1.membershipRevisionId).Nodup := by
      rw [((hwritten scope).map _).nodup_iff, List.map_map]
      refine List.Nodup.map_on (fun a ha b hb hab => ?_) ?_
      · obtain ⟨ka, hka⟩ := OrdMap.mem_values.mp (List.mem_filter.mp ha).1
        obtain ⟨kb, hkb⟩ := OrdMap.mem_values.mp (List.mem_filter.mp hb).1
        exact held.eq_of_rev (held.mem_of_current hka).1 (held.mem_of_current hkb).1 hab
      · refine List.Nodup.filter _ (List.Nodup.of_map (fun e => e.1.coreMembershipId) ?_)
        have hkeys : s.memberships.values.map (fun e => e.1.coreMembershipId) = s.memberships.entries.map Prod.fst := by
          rw [OrdMap.values, List.map_map]
          exact List.map_congr_left fun x hx => (held.mem_of_current (OrdMap.mem_entries.mp hx)).2
        rw [hkeys]
        exact s.memberships.nodup_keys
    have hrev : (writtenIn s atoms scope).Pairwise
        fun a b => a.1.membershipRevisionId < b.1.membershipRevisionId := by
      have hsorted : (writtenIn s atoms scope).Pairwise
          fun a b => a.1.membershipRevisionId ≤ b.1.membershipRevisionId := sortByKey_pairwise _ _
      have hne := List.pairwise_map.mp hrevs
      exact (hsorted.and hne).imp fun h => lt_of_le_of_ne h.1 h.2
    refine ⟨hlength, hrev, hrev.imp_of_mem fun {a b} ha hb hab => ?_⟩
    obtain ⟨a', ha', rfl⟩ := List.mem_map.mp ((hwritten scope).mem_iff.mp ha)
    obtain ⟨b', hb', rfl⟩ := List.mem_map.mp ((hwritten scope).mem_iff.mp hb)
    exact halike scope a' ha' b' hb' hab

/-! ## The defect -/

/-- The SHA-256 value of the encoding of the global scope. -/
def scopeSha : Sha256 where
  digest _ := [0xb1, 0x99, 0x29, 0x0f, 0x78, 0x19, 0xe3, 0xab, 0x29, 0x7b, 0x45, 0xcb, 0xcf, 0x5e, 0xef, 0x2b,
    0x88, 0x3f, 0xc6, 0x2b, 0x02, 0x78, 0xcf, 0x9a, 0xd3, 0xbb, 0x01, 0xe4, 0xfb, 0xde, 0x68, 0xf2]
  digest_length _ := rfl

def twoAtoms : Atoms := (OrdMap.empty.insert (sampleId 16) (⟨[]⟩, 1)).insert (sampleId 17) (⟨[]⟩, 2)

/-- The atoms 16 and 17 promoted into the global core, the given one first. -/
def promotions (first second : Fin 256) : List (SupportPayload × Nat) :=
  [(.globalSupportContractRecorded (contract 20 first), 3),
    (.globalSupportValidationRecorded (validation 21 first 20), 4),
    (.coreMembershipRecorded (membership 1 22 first 20 none), 5),
    (.globalSupportContractRecorded (contract 30 second), 6),
    (.globalSupportValidationRecorded (validation 31 second 30), 7),
    (.coreMembershipRecorded (membership 2 32 second 30 none), 8)]

/-- What `rows` answers after some payloads. -/
def rowsError (entries : List (SupportPayload × Nat)) : Option (Option StoreError) :=
  match applyAll scopeSha entries with
  | .error _ => none
  | .ok s =>
    match s.rows scopeSha twoAtoms 1 with
    | .error e => some (some e)
    | .ok _ => some none

/-- No scope has too many active memberships, and no two of a scope name the same atom. -/
def Roomy (s : S23State) : Prop :=
  s.memberships.values.length ≤ maxRefs ∧ (s.memberships.values.map fun e => e.1.atomRevisionId).Nodup

instance (s : S23State) : Decidable (Roomy s) := inferInstanceAs (Decidable (_ ∧ _))

theorem Roomy.length_activeIn_le (h : Roomy s) (scope : CoreScopeIdentity) :
    (activeIn s scope).length ≤ maxRefs :=
  Nat.le_trans (List.length_filter_le _ _) h.1

/-- The newer atom was promoted first: the store has no rows any more. -/
theorem promoted_out_of_order : ∃ s, applyAll scopeSha (promotions 17 16) = .ok s ∧ Roomy s ∧
    s.rows scopeSha twoAtoms 1 = .error .storeCorrupt := by
  have hrows : rowsError (promotions 17 16) = some (some .storeCorrupt) := by decide +kernel
  have hroomy : ((applyAll scopeSha (promotions 17 16)).toOption.any fun s => decide (Roomy s)) = true := by
    decide +kernel
  unfold rowsError at hrows
  cases hs : applyAll scopeSha (promotions 17 16) with
  | error e =>
    rw [hs] at hrows
    cases hrows
  | ok s =>
    rw [hs] at hrows hroomy
    dsimp only at hrows
    refine ⟨s, rfl, of_decide_eq_true hroomy, ?_⟩
    cases hrebuild : s.rows scopeSha twoAtoms 1 with
    | ok rows =>
      rw [hrebuild] at hrows
      cases hrows
    | error e =>
      rw [hrebuild] at hrows
      rw [Option.some.inj (Option.some.inj hrows)]

/-- Promoted in the order in which they were made, the two atoms are listed. -/
theorem promoted_in_order : ∃ s, applyAll scopeSha (promotions 16 17) = .ok s ∧
    ∃ rows, s.rows scopeSha twoAtoms 1 = .ok rows ∧ ListsCore s twoAtoms rows := by
  have hrun : ((applyAll scopeSha (promotions 16 17)).toOption.any fun s => decide (Roomy s)) = true := by
    decide +kernel
  have hvalues : (applyAll scopeSha (promotions 16 17)).toOption.map (fun s => s.memberships.values) =
      some [(membership 1 22 16 20 none, 5), (membership 2 32 17 30 none, 8)] := by decide +kernel
  cases hs : applyAll scopeSha (promotions 16 17) with
  | error e =>
    rw [hs] at hrun
    cases hrun
  | ok s =>
    rw [hs] at hrun hvalues
    have hroomy : Roomy s := of_decide_eq_true hrun
    have hvalues : s.memberships.values = _ := Option.some.inj hvalues
    refine ⟨s, rfl, (rows_ok_iff scopeSha 1 _ twoAtoms s hs hroomy.length_activeIn_le).mpr ?_⟩
    intro scope a ha b hb hab
    have ha := (List.mem_filter.mp ha).1
    have hb := (List.mem_filter.mp hb).1
    rw [hvalues] at ha hb
    simp only [List.mem_cons, List.not_mem_nil, or_false] at ha hb
    rcases ha with rfl | rfl
    · rcases hb with rfl | rfl
      · exact absurd hab (lt_irrefl _)
      · decide
    · rcases hb with rfl | rfl
      · exact absurd hab (by decide)
      · exact absurd hab (lt_irrefl _)

end EverTrace.Bugs.CoreOrder
