import EverTrace.L2Machine.SupportChains
/-!
# Restoring and rebuilding the support state

The stored revisions of a state, restored in any order into an empty state and
rebuilt, give the state back (`Held.survives`). Scenarios and validations are
rebuilt by sorting, so the sort key has to grow along each chain: the generation
of a scenario does, and so does a validation's generation with its journal
sequence (`scenario_order`, `validation_order`). A membership chain is followed
from its only root; no two of its revisions supersede the same one
(`superseded_nodup`).
-/
namespace EverTrace.L2.Support
open EverTrace.Lib EverTrace.L1 EverTrace.L2.Semantic EverTrace.L2.Store

variable {H : Sha256} {s : S23State} {bound : Nat} {scs : List ScenarioEntry} {ms : List MembershipEntry}
  {vs : List ValidationEntry}

/-! ## Scenarios -/

theorem scenario_order {l : List ScenarioEntry} (h : Linked (checkScenario H) l) :
    l.Pairwise fun a b => a.1.revisionGeneration < b.1.revisionGeneration := by
  refine Linked.pairwise (R := fun a b => a.1.revisionGeneration < b.1.revisionGeneration)
    (fun a b c hab hbc => Nat.lt_trans hab hbc) (fun c e hce => ?_) h
  obtain ⟨_, -, hce⟩ := bind_eq_ok.mp (mapError_ok.mp hce)
  obtain ⟨_, -, hce⟩ := bind_eq_ok.mp hce
  simp only [ensure_ok, Bool.and_eq_true, beq_iff_eq] at hce
  omega

theorem Held.rebuildScenarios (held : Held H s bound scs ms vs) :
    rebuildScenarios H s.scenarioRevisions = .ok s.scenarios :=
  held.scenarios.replay_sorted (fun k => scenario_order (held.scenarios.linked k))

/-! ## Memberships -/

theorem checkMembership_some {c e : MembershipEntry} (h : checkMembership (some c) e = .ok ()) :
    e.1.supersedesMembershipRevisionId = some c.1.membershipRevisionId := by
  obtain ⟨_, -, h⟩ := bind_eq_ok.mp (mapError_ok.mp h)
  obtain ⟨_, -, h⟩ := bind_eq_ok.mp h
  simp only [ensure_ok, Bool.and_eq_true, beq_iff_eq] at h
  exact h.1.1.2

theorem checkMembership_none {e : MembershipEntry} (h : checkMembership none e = .ok ()) :
    e.1.supersedesMembershipRevisionId = none := by
  simpa [checkMembership] using h

theorem superseded_eq {l : List MembershipEntry} (h : Linked checkMembership l) :
    l.map (fun e => e.1.supersedesMembershipRevisionId) =
      (none :: l.map fun e => some e.1.membershipRevisionId).dropLast := by
  induction l using List.reverseRecOn with
  | nil => rfl
  | append_singleton l e ih =>
    obtain ⟨hl, he⟩ := linked_concat.mp h
    rw [List.map_append, ih hl, List.map_append, List.map_singleton, List.map_singleton, ← List.cons_append,
      List.dropLast_concat]
    rcases List.eq_nil_or_concat' l with rfl | ⟨front, c, rfl⟩
    · rw [checkMembership_none he]
      rfl
    · rw [List.getLast?_concat] at he
      rw [checkMembership_some he, List.map_append, List.map_singleton, ← List.cons_append, List.dropLast_concat]

theorem superseded_nodup {l : List MembershipEntry} (h : Linked checkMembership l)
    (hrev : (l.map membershipRevision).Nodup) :
    (l.map fun e => e.1.supersedesMembershipRevisionId).Nodup := by
  rw [superseded_eq h]
  refine List.Nodup.sublist (List.dropLast_sublist _) (List.nodup_cons.mpr ⟨by simp, ?_⟩)
  have hmap : (l.map fun e => some e.1.membershipRevisionId) = (l.map membershipRevision).map some := by
    rw [List.map_map]
    rfl
  rw [hmap]
  exact hrev.map (Option.some_injective _)

/-- Following a chain from one of its revisions reaches its last one. -/
theorem followMembership_eq {members chain : List MembershipEntry} (hperm : members.Perm chain)
    (hlinked : Linked checkMembership chain) (hrev : (chain.map membershipRevision).Nodup) :
    ∀ {post pre : List MembershipEntry} {current : MembershipEntry}, chain = pre ++ current :: post →
      followMembership members post.length current = .ok (post.getLast?.getD current) := by
  have hnodup := superseded_nodup hlinked hrev
  intro post
  induction post with
  | nil => intro pre current _; rfl
  | cons next post ih =>
    intro pre current hchain
    have hcheck : checkMembership (some current) next = .ok () := by
      have := hlinked (pre ++ [current]) next post (by rw [hchain]; simp)
      rwa [List.getLast?_concat] at this
    have honly : (members.filter fun entry =>
        entry.1.supersedesMembershipRevisionId == some current.1.membershipRevisionId) = [next] := by
      have hnext : next ∈ chain := by rw [hchain]; simp
      rw [← checkMembership_some hcheck, ← filter_eq_singleton hperm hnodup hnext]
      exact List.filter_congr fun a _ => beq_eq_decide _ _
    rw [List.length_cons, followMembership, honly]
    have hsucc : ((current.1.validateSuccessor next.1).mapError fun _ => StoreError.storeCorrupt) = .ok () :=
      hcheck
    dsimp only
    rw [hsucc]
    have hrest := @ih (pre ++ [current]) next (by rw [hchain]; simp)
    cases post with
    | nil => exact hrest
    | cons x post => exact hrest

theorem rebuildMembership_eq {members chain : List MembershipEntry} (hperm : members.Perm chain)
    (hlinked : Linked checkMembership chain) (hrev : (chain.map membershipRevision).Nodup) {last : MembershipEntry}
    (hlast : chain.getLast? = some last) : rebuildMembership members = .ok last := by
  cases chain with
  | nil => cases hlast
  | cons root post =>
    have hnone : root.1.supersedesMembershipRevisionId = none :=
      checkMembership_none (hlinked [] root post rfl)
    have honly : (members.filter fun entry => entry.1.supersedesMembershipRevisionId.isNone) = [root] := by
      have h := filter_eq_singleton hperm (superseded_nodup hlinked hrev) List.mem_cons_self
      rw [hnone] at h
      rw [← h]
      refine List.filter_congr fun a _ => ?_
      cases a.1.supersedesMembershipRevisionId with
      | none => rfl
      | some r => rfl
    have hlen : members.length - 1 = post.length := by
      rw [hperm.length_eq]
      rfl
    rw [rebuildMembership, honly]
    dsimp only
    rw [hlen, @followMembership_eq members (root :: post) hperm hlinked hrev post [] root rfl]
    rw [List.getLast?_cons] at hlast
    exact congrArg Except.ok (Option.some.inj hlast)

/-- Computing one value for each key and inserting it. -/
theorem foldlM_insert {κ α ε : Type} [LinearOrder κ] {f : κ → Except ε α} : ∀ {ids : List κ} {m : OrdMap κ α},
    (∀ id ∈ ids, ∃ a, f id = .ok a) → ∃ pairs : List (κ × α), pairs.map Prod.fst = ids ∧
      (∀ p ∈ pairs, f p.1 = .ok p.2) ∧
      ids.foldlM (fun m id => do let a ← f id; return m.insert id a) m = .ok (m.insertAll pairs) := by
  intro ids
  induction ids with
  | nil => intro m _; exact ⟨[], rfl, by simp, rfl⟩
  | cons id ids ih =>
    intro m h
    obtain ⟨a, ha⟩ := h id List.mem_cons_self
    obtain ⟨pairs, hkeys, hvalues, hfold⟩ := @ih (m.insert id a) fun x hx => h x (List.mem_cons_of_mem _ hx)
    refine ⟨(id, a) :: pairs, by rw [List.map_cons, hkeys], ?_, ?_⟩
    · intro p hp
      rcases List.mem_cons.mp hp with rfl | hp
      · exact ha
      · exact hvalues p hp
    · rw [List.foldlM_cons, ha]
      exact hfold

theorem Held.rebuildMemberships (held : Held H s bound scs ms vs) :
    rebuildMemberships s.membershipRevisions = .ok s.memberships := by
  have hperm := held.memberships.values_perm
  have hrev : ∀ k, ((chainIn membershipKey ms k).map membershipRevision).Nodup := by
    intro k
    refine List.Nodup.map_on (fun a ha b hb hab => ?_) (held.memberships.distinct.filter _)
    exact held.memberships.eq_of_rev (mem_chainIn.mp ha).1 (mem_chainIn.mp hb).1 hab
  have hids : ∀ k, k ∈ sortUnique (s.membershipRevisions.values.map fun entry => entry.1.coreMembershipId) ↔
      chainIn membershipKey ms k ≠ [] := by
    intro k
    rw [sortUnique, mem_dedupAdjacent, List.mem_insertionSort, List.mem_map]
    refine ⟨fun ⟨e, he, hk⟩ hnil => ?_, fun hne => ?_⟩
    · have : e ∈ chainIn membershipKey ms k := mem_chainIn.mpr ⟨hperm.mem_iff.mp he, hk⟩
      rw [hnil] at this
      cases this
    · obtain ⟨e, he⟩ := List.exists_mem_of_ne_nil _ hne
      obtain ⟨he, hk⟩ := mem_chainIn.mp he
      exact ⟨e, hperm.mem_iff.mpr he, hk⟩
  have hmembers : ∀ k, (s.membershipRevisions.values.filter fun entry => entry.1.coreMembershipId = k) =
      chainIn membershipKey s.membershipRevisions.values k := by
    intro k
    refine List.filter_congr fun a _ => ?_
    exact decide_eq_decide.mpr Iff.rfl
  -- each membership with revisions has a current one, and following its chain finds it
  have hcurrent : ∀ k ∈ sortUnique (s.membershipRevisions.values.map fun entry => entry.1.coreMembershipId),
      ∃ e, s.memberships.get k = some e ∧
        rebuildMembership (s.membershipRevisions.values.filter fun entry => entry.1.coreMembershipId = k) = .ok e := by
    intro k hk
    cases he : (chainIn membershipKey ms k).getLast? with
    | none => exact absurd (List.getLast?_eq_none_iff.mp he) ((hids k).mp hk)
    | some e =>
      refine ⟨e, (held.memberships.heads k).trans he, ?_⟩
      rw [hmembers]
      exact rebuildMembership_eq (hperm.filter _) (held.memberships.linked k) (hrev k) he
  obtain ⟨pairs, hkeys, hvalues, hfold⟩ := @foldlM_insert _ _ _ _ (fun k => rebuildMembership
    (s.membershipRevisions.values.filter fun entry => entry.1.coreMembershipId = k)) _ .empty
    fun k hk => (hcurrent k hk).imp fun e he => he.2
  refine hfold.trans (congrArg Except.ok (OrdMap.ext_get fun k => ?_))
  by_cases hk : k ∈ sortUnique (s.membershipRevisions.values.map fun entry => entry.1.coreMembershipId)
  · obtain ⟨e, hget, hok⟩ := hcurrent k hk
    rw [← hkeys] at hk
    obtain ⟨p, hp, rfl⟩ := List.mem_map.mp hk
    have hval := (hvalues p hp).symm.trans hok
    cases hval
    rw [hget]
    refine OrdMap.get_insertAll_of_mem ?_ hp
    rw [hkeys]
    exact sortUnique_nodup _
  · have hnil : chainIn membershipKey ms k = [] := not_not.mp fun hne => hk ((hids k).mpr hne)
    rw [held.memberships.heads k, hnil, OrdMap.get_insertAll_of_notMem (by rw [hkeys]; exact hk)]
    rfl

/-! ## Validations -/

/-- Along the validations of a contract the generation does not fall; the journal sequence grows. -/
theorem validation_order {l : List ValidationEntry} (h : Linked checkValidation l)
    (horder : l.Pairwise fun a b => a.2 < b.2) :
    l.Pairwise fun a b => (toLex (a.1.dependencyGeneration, a.2) : Nat ×ₗ Nat) <
      toLex (b.1.dependencyGeneration, b.2) := by
  have hgen : l.Pairwise fun a b => a.1.dependencyGeneration ≤ b.1.dependencyGeneration := by
    refine Linked.pairwise (R := fun a b => a.1.dependencyGeneration ≤ b.1.dependencyGeneration)
      (fun a b c hab hbc => Nat.le_trans hab hbc) (fun c e hce => ?_) h
    simp only [checkValidation, validateValidationSuccessor, ensure_bind_ok, ensure_ok, Bool.and_eq_true,
      Bool.or_eq_true, beq_iff_eq] at hce
    omega
  refine (hgen.and horder).imp fun {a b} hab => ?_
  rw [Prod.Lex.toLex_lt_toLex]
  omega

theorem placeValidation_eq {contracts : OrdMap RevisionId ContractEntry} {v : ValidationEntry}
    (h : checkContract contracts v = .ok ()) (current : OrdMap RevisionId ValidationEntry) :
    placeValidation contracts current v = place validationKey checkValidation current v := by
  unfold placeValidation
  rw [h]
  rfl

theorem Held.rebuildValidations (held : Held H s bound scs ms vs) :
    rebuildValidations s.contracts s.validations = .ok s.currentValidations := by
  have hmem : ∀ v ∈ s.validations.values, v ∈ vs := fun v hv => held.validations.values_perm.mem_iff.mp hv
  rw [Support.rebuildValidations, foldlM_congr fun v hv current =>
    placeValidation_eq (held.contracted v (hmem v ((sortByKey_perm _ _).mem_iff.mp hv))) current]
  exact held.validations.replay_sorted
    fun k => validation_order (held.validations.linked k) (held.inOrder.filter _)

/-- **The current maps are computed again from the revisions.** -/
theorem Held.rebuild (held : Held H s bound scs ms vs) {t : S23State}
    (hscenarios : t.scenarioRevisions = s.scenarioRevisions)
    (hmemberships : t.membershipRevisions = s.membershipRevisions) (hcontracts : t.contracts = s.contracts)
    (hvalidations : t.validations = s.validations) : t.rebuild H = .ok s := by
  rw [S23State.rebuild, hscenarios, hmemberships, hcontracts, hvalidations, held.rebuildScenarios,
    held.rebuildMemberships, held.rebuildValidations]
  cases t
  cases s
  cases hscenarios
  cases hmemberships
  cases hcontracts
  cases hvalidations
  rfl

/-! ## Restoring -/

/-- The stored revisions of a state. -/
def S23State.stored (s : S23State) : List (SupportPayload × Nat) :=
  (s.scenarioRevisions.values.map fun e => (.scenarioRecorded e.1, e.2)) ++
  (s.membershipRevisions.values.map fun e => (.coreMembershipRecorded e.1, e.2)) ++
  (s.contracts.values.map fun e => (.globalSupportContractRecorded e.1, e.2)) ++
  (s.validations.values.map fun e => (.globalSupportValidationRecorded e.1, e.2))

def restoreAll (entries : List (SupportPayload × Nat)) : Except StoreError S23State :=
  entries.foldlM (fun s e => s.restore e.1 e.2) .empty

def scenarioOf : SupportPayload × Nat → Option (RevisionId × ScenarioEntry)
  | (.scenarioRecorded value, seq) => some (value.revisionId, (value, seq))
  | _ => none

def membershipOf : SupportPayload × Nat → Option (RevisionId × MembershipEntry)
  | (.coreMembershipRecorded value, seq) => some (value.membershipRevisionId, (value, seq))
  | _ => none

def contractOf : SupportPayload × Nat → Option (RevisionId × ContractEntry)
  | (.globalSupportContractRecorded value, seq) => some (value.supportContractRevisionId, (value, seq))
  | _ => none

def validationOf : SupportPayload × Nat → Option (RevisionId × ValidationEntry)
  | (.globalSupportValidationRecorded value, seq) => some (value.validationRevisionId, (value, seq))
  | _ => none

/-- Entries with different keys, none of them taken. -/
def Fresh {α : Type} (m : OrdMap RevisionId α) (l : List (RevisionId × α)) : Prop :=
  (l.map Prod.fst).Nodup ∧ ∀ k ∈ l.map Prod.fst, m.get k = none

theorem Fresh.cons {α : Type} {m : OrdMap RevisionId α} {k : RevisionId} {v : α} {l : List (RevisionId × α)}
    (h : Fresh m ((k, v) :: l)) : m.get k = none ∧ Fresh (m.insert k v) l := by
  obtain ⟨hnodup, hfree⟩ := h
  obtain ⟨hk, hnodup⟩ := List.nodup_cons.mp hnodup
  refine ⟨hfree k List.mem_cons_self, hnodup, fun k' hk' => ?_⟩
  rw [OrdMap.get_insert_of_ne]
  · exact hfree k' (List.mem_cons_of_mem _ hk')
  · rintro rfl
    exact hk hk'

theorem foldlM_restore : ∀ {entries : List (SupportPayload × Nat)} {s : S23State},
    Fresh s.scenarioRevisions (entries.filterMap scenarioOf) →
    Fresh s.membershipRevisions (entries.filterMap membershipOf) →
    Fresh s.contracts (entries.filterMap contractOf) →
    Fresh s.validations (entries.filterMap validationOf) →
    entries.foldlM (fun s e => s.restore e.1 e.2) s = .ok { s with
      scenarioRevisions := s.scenarioRevisions.insertAll (entries.filterMap scenarioOf)
      membershipRevisions := s.membershipRevisions.insertAll (entries.filterMap membershipOf)
      contracts := s.contracts.insertAll (entries.filterMap contractOf)
      validations := s.validations.insertAll (entries.filterMap validationOf) } := by
  intro entries
  induction entries with
  | nil => intros; rfl
  | cons e rest ih =>
    intro s hs hm hc hv
    obtain ⟨payload, seq⟩ := e
    rw [List.foldlM_cons]
    cases payload with
    | scenarioRecorded value =>
      obtain ⟨hnew, hs⟩ := hs.cons
      have hstep : s.restore (.scenarioRecorded value) seq = .ok { s with
          scenarioRevisions := s.scenarioRevisions.insert value.revisionId (value, seq) } := by
        rw [S23State.restore, insertNew_ok.mpr ⟨hnew, rfl⟩]
        rfl
      rw [hstep]
      exact ih hs hm hc hv
    | coreMembershipRecorded value =>
      obtain ⟨hnew, hm⟩ := hm.cons
      have hstep : s.restore (.coreMembershipRecorded value) seq = .ok { s with
          membershipRevisions := s.membershipRevisions.insert value.membershipRevisionId (value, seq) } := by
        rw [S23State.restore, insertNew_ok.mpr ⟨hnew, rfl⟩]
        rfl
      rw [hstep]
      exact ih hs hm hc hv
    | globalSupportContractRecorded value =>
      obtain ⟨hnew, hc⟩ := hc.cons
      have hstep : s.restore (.globalSupportContractRecorded value) seq = .ok { s with
          contracts := s.contracts.insert value.supportContractRevisionId (value, seq) } := by
        rw [S23State.restore, insertNew_ok.mpr ⟨hnew, rfl⟩]
        rfl
      rw [hstep]
      exact ih hs hm hc hv
    | globalSupportValidationRecorded value =>
      obtain ⟨hnew, hv⟩ := hv.cons
      have hstep : s.restore (.globalSupportValidationRecorded value) seq = .ok { s with
          validations := s.validations.insert value.validationRevisionId (value, seq) } := by
        rw [S23State.restore, insertNew_ok.mpr ⟨hnew, rfl⟩]
        rfl
      rw [hstep]
      exact ih hs hm hc hv

/-- Values under their own keys are the entries of the map. -/
theorem entries_of_values {α : Type} {m : OrdMap RevisionId α} {key : α → RevisionId}
    (h : ∀ k v, m.get k = some v → key v = k) : (m.values.map fun v => (key v, v)) = m.entries := by
  rw [OrdMap.values, List.map_map]
  refine (List.map_congr_left fun e he => ?_).trans (List.map_id _)
  have hk := h e.1 e.2 (OrdMap.mem_entries.mp he)
  simp only [Function.comp_apply, hk, id_eq]

theorem fresh_of_perm {α : Type} {m : OrdMap RevisionId α} {l : List (RevisionId × α)} (h : l.Perm m.entries) :
    Fresh OrdMap.empty l :=
  ⟨(h.map Prod.fst).nodup_iff.mpr m.nodup_keys, fun _ _ => rfl⟩

/-- What is restored from the stored revisions of a state, in any order: its revisions. -/
theorem Held.restoreAll (held : Held H s bound scs ms vs) {entries : List (SupportPayload × Nat)}
    (hperm : entries.Perm s.stored) : restoreAll entries = .ok { S23State.empty with
      scenarioRevisions := s.scenarioRevisions
      membershipRevisions := s.membershipRevisions
      contracts := s.contracts
      validations := s.validations } := by
  have hsc : (entries.filterMap scenarioOf).Perm s.scenarioRevisions.entries := by
    rw [← entries_of_values fun k v h => ((held.scenarios.stored k v).mp h).2]
    refine (hperm.filterMap _).trans (List.Perm.of_eq ?_)
    simp only [S23State.stored, List.filterMap_append, List.filterMap_map, Function.comp_def, scenarioOf,
      List.filterMap_none, List.append_nil, List.filterMap_eq_map']
    rfl
  have hm : (entries.filterMap membershipOf).Perm s.membershipRevisions.entries := by
    rw [← entries_of_values fun k v h => ((held.memberships.stored k v).mp h).2]
    refine (hperm.filterMap _).trans (List.Perm.of_eq ?_)
    simp only [S23State.stored, List.filterMap_append, List.filterMap_map, Function.comp_def, membershipOf,
      List.filterMap_none, List.append_nil, List.nil_append, List.filterMap_eq_map']
    rfl
  have hc : (entries.filterMap contractOf).Perm s.contracts.entries := by
    rw [← entries_of_values held.contractKeys]
    refine (hperm.filterMap _).trans (List.Perm.of_eq ?_)
    simp only [S23State.stored, List.filterMap_append, List.filterMap_map, Function.comp_def, contractOf,
      List.filterMap_none, List.append_nil, List.nil_append, List.filterMap_eq_map']
  have hv : (entries.filterMap validationOf).Perm s.validations.entries := by
    rw [← entries_of_values fun k v h => ((held.validations.stored k v).mp h).2]
    refine (hperm.filterMap _).trans (List.Perm.of_eq ?_)
    simp only [S23State.stored, List.filterMap_append, List.filterMap_map, Function.comp_def, validationOf,
      List.filterMap_none, List.append_nil, List.nil_append, List.filterMap_eq_map']
    rfl
  rw [Support.restoreAll, foldlM_restore (fresh_of_perm hsc) (fresh_of_perm hm) (fresh_of_perm hc) (fresh_of_perm hv)]
  simp only [S23State.empty, OrdMap.insertAll_eq_of_perm hsc, OrdMap.insertAll_eq_of_perm hm,
    OrdMap.insertAll_eq_of_perm hc, OrdMap.insertAll_eq_of_perm hv]

/-- The stored revisions, restored in any order and rebuilt, give the state back. -/
def Survives (H : Sha256) (s : S23State) : Prop :=
  ∀ entries, entries.Perm s.stored → (restoreAll entries >>= S23State.rebuild H) = .ok s

/-- **A state that holds its chains survives a restart.** -/
theorem Held.survives (held : Held H s bound scs ms vs) : Survives H s := by
  intro entries hperm
  rw [held.restoreAll hperm]
  exact held.rebuild rfl rfl rfl rfl

end EverTrace.L2.Support
