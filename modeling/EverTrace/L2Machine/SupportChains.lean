import EverTrace.L2Machine.SupportState
import Mathlib.Data.List.Chain
/-!
# What the support state holds

Scenarios, memberships and validations are each kept as revision chains
(`Lib.Chains`): every revision by its own id and the last of each chain as the
current one. `Held` says so for a state; `apply` keeps it (`Held.apply`), and
so does `forget` when it takes membership chains out whole (`Held.forget`).

From a held state alone, the current maps can be computed again:
`Held.rebuild` and `Held.restoreAll` say that restoring the stored revisions
in any order and rebuilding gives the state back.
-/
namespace EverTrace.L2.Support
open EverTrace.Lib EverTrace.L1 EverTrace.L2.Semantic EverTrace.L2.Store

/-! ## The invariant -/

def scenarioKey (entry : ScenarioEntry) : ScenarioId := entry.1.scenarioId

def scenarioRevision (entry : ScenarioEntry) : RevisionId := entry.1.revisionId

def membershipKey (entry : MembershipEntry) : CoreMembershipId := entry.1.coreMembershipId

def membershipRevision (entry : MembershipEntry) : RevisionId := entry.1.membershipRevisionId

def validationKey (entry : ValidationEntry) : RevisionId := entry.1.supportContractRef

def validationRevision (entry : ValidationEntry) : RevisionId := entry.1.validationRevisionId

/-- The state holds these accepted scenario, membership and validation revisions, all recorded before `bound`. -/
structure Held (H : Sha256) (s : S23State) (bound : Nat) (scs : List ScenarioEntry) (ms : List MembershipEntry)
    (vs : List ValidationEntry) : Prop where
  scenarios : Chains scenarioKey scenarioRevision (checkScenario H) scs s.scenarios s.scenarioRevisions
  memberships : Chains membershipKey membershipRevision checkMembership ms s.memberships s.membershipRevisions
  validations : Chains validationKey validationRevision checkValidation vs s.currentValidations s.validations
  contracted : ∀ v ∈ vs, checkContract s.contracts v = .ok ()
  contractKeys : ∀ id c, s.contracts.get id = some c → c.1.supportContractRevisionId = id
  inOrder : vs.Pairwise fun a b => a.2 < b.2
  bounded : ∀ v ∈ vs, v.2 < bound

theorem held_empty (H : Sha256) : Held H .empty 0 [] [] [] where
  scenarios := Chains.empty
  memberships := Chains.empty
  validations := Chains.empty
  contracted := by simp
  contractKeys := by intro id c h; cases h
  inOrder := List.Pairwise.nil
  bounded := by simp

/-! ## One payload -/

theorem insertNew_ok {α : Type} {map map' : OrdMap RevisionId α} {id : RevisionId} {value : α} :
    insertNew map id value = .ok map' ↔ map.get id = none ∧ map' = map.insert id value := by
  simp only [insertNew, ensure_bind_ok, pure_eq_ok, Option.isNone_iff_eq_none]
  exact ⟨fun h => ⟨h.1, h.2.symm⟩, fun h => ⟨h.1, h.2.symm⟩⟩

variable {H : Sha256} {s s' : S23State} {bound seq : Nat} {scs : List ScenarioEntry} {ms : List MembershipEntry}
  {vs : List ValidationEntry}

/-- What an accepted payload does. -/
theorem apply_cases {payload : SupportPayload} (h : s.apply H payload seq = .ok s') :
    (∃ value, payload = .scenarioRecorded value ∧
      checkScenario H (s.scenarios.get value.scenarioId) (value, seq) = .ok () ∧
      s.scenarioRevisions.get value.revisionId = none ∧
      s' = { s with
        scenarioRevisions := s.scenarioRevisions.insert value.revisionId (value, seq)
        scenarios := s.scenarios.insert value.scenarioId (value, seq) }) ∨
    (∃ value, payload = .coreMembershipRecorded value ∧
      checkMembership (s.memberships.get value.coreMembershipId) (value, seq) = .ok () ∧
      s.membershipRevisions.get value.membershipRevisionId = none ∧
      s' = { s with
        membershipRevisions := s.membershipRevisions.insert value.membershipRevisionId (value, seq)
        memberships := s.memberships.insert value.coreMembershipId (value, seq) }) ∨
    (∃ value, payload = .globalSupportContractRecorded value ∧
      s.contracts.get value.supportContractRevisionId = none ∧
      s' = { s with contracts := s.contracts.insert value.supportContractRevisionId (value, seq) }) ∨
    (∃ value, payload = .globalSupportValidationRecorded value ∧
      checkContract s.contracts (value, seq) = .ok () ∧
      checkValidation (s.currentValidations.get value.supportContractRef) (value, seq) = .ok () ∧
      s.validations.get value.validationRevisionId = none ∧
      s' = { s with
        validations := s.validations.insert value.validationRevisionId (value, seq)
        currentValidations := s.currentValidations.insert value.supportContractRef (value, seq) }) := by
  cases payload with
  | scenarioRecorded value =>
    obtain ⟨_, hcheck, h⟩ := bind_eq_ok.mp h
    obtain ⟨map, hmap, h⟩ := bind_eq_ok.mp h
    obtain ⟨hnew, rfl⟩ := insertNew_ok.mp hmap
    exact .inl ⟨value, rfl, hcheck, hnew, (pure_eq_ok.mp h).symm⟩
  | coreMembershipRecorded value =>
    obtain ⟨_, hcheck, h⟩ := bind_eq_ok.mp h
    obtain ⟨map, hmap, h⟩ := bind_eq_ok.mp h
    obtain ⟨hnew, rfl⟩ := insertNew_ok.mp hmap
    exact .inr (.inl ⟨value, rfl, hcheck, hnew, (pure_eq_ok.mp h).symm⟩)
  | globalSupportContractRecorded value =>
    obtain ⟨map, hmap, h⟩ := bind_eq_ok.mp h
    obtain ⟨hnew, rfl⟩ := insertNew_ok.mp hmap
    exact .inr (.inr (.inl ⟨value, rfl, hnew, (pure_eq_ok.mp h).symm⟩))
  | globalSupportValidationRecorded value =>
    obtain ⟨_, hcontract, h⟩ := bind_eq_ok.mp h
    obtain ⟨_, hcheck, h⟩ := bind_eq_ok.mp h
    obtain ⟨map, hmap, h⟩ := bind_eq_ok.mp h
    obtain ⟨hnew, rfl⟩ := insertNew_ok.mp hmap
    exact .inr (.inr (.inr ⟨value, rfl, hcontract, hcheck, hnew, (pure_eq_ok.mp h).symm⟩))

theorem checkContract_congr {contracts contracts' : OrdMap RevisionId ContractEntry} {v : ValidationEntry}
    (h : contracts'.get v.1.supportContractRef = contracts.get v.1.supportContractRef) :
    checkContract contracts' v = checkContract contracts v := by
  unfold checkContract
  rw [h]

theorem contract_of_check {contracts : OrdMap RevisionId ContractEntry} {v : ValidationEntry}
    (h : checkContract contracts v = .ok ()) : ∃ c, contracts.get v.1.supportContractRef = some c := by
  obtain ⟨c, hc, -⟩ := bind_eq_ok.mp h
  exact ⟨c, okOr_ok.mp hc⟩

/-- **`apply` keeps the chains.** -/
theorem Held.apply (held : Held H s bound scs ms vs) (hseq : bound ≤ seq) {payload : SupportPayload}
    (h : s.apply H payload seq = .ok s') : ∃ scs' ms' vs', Held H s' (seq + 1) scs' ms' vs' := by
  have hbound : ∀ v ∈ vs, v.2 < seq + 1 := fun v hv => by
    have := held.bounded v hv
    omega
  rcases apply_cases h with ⟨value, -, hcheck, hnew, rfl⟩ | ⟨value, -, hcheck, hnew, rfl⟩ | ⟨value, -, hnew, rfl⟩ |
    ⟨value, -, hcontract, hcheck, hnew, rfl⟩
  · exact ⟨scs ++ [(value, seq)], ms, vs, { held with
      scenarios := held.scenarios.record (e := (value, seq)) hnew hcheck
      bounded := hbound }⟩
  · exact ⟨scs, ms ++ [(value, seq)], vs, { held with
      memberships := held.memberships.record (e := (value, seq)) hnew hcheck
      bounded := hbound }⟩
  · refine ⟨scs, ms, vs, { held with contracted := ?_, contractKeys := ?_, bounded := hbound }⟩
    · intro v hv
      obtain ⟨c, hc⟩ := contract_of_check (held.contracted v hv)
      have hne : v.1.supportContractRef ≠ value.supportContractRevisionId := by
        intro heq
        rw [heq, hnew] at hc
        cases hc
      rw [checkContract_congr (OrdMap.get_insert_of_ne s.contracts (value, seq) hne), held.contracted v hv]
    · intro id c hc
      rw [OrdMap.get_insert] at hc
      split at hc
      · next hid =>
        cases hc
        exact hid.symm
      · exact held.contractKeys id c hc
  · refine ⟨scs, ms, vs ++ [(value, seq)], { held with
      validations := held.validations.record (e := (value, seq)) hnew hcheck
      contracted := ?_
      inOrder := ?_
      bounded := ?_ }⟩
    · intro v hv
      rcases List.mem_append.mp hv with hv | hv
      · exact held.contracted v hv
      · rw [List.mem_singleton.mp hv]
        exact hcontract
    · refine List.pairwise_append.mpr ⟨held.inOrder, List.pairwise_singleton _ _, fun a ha b hb => ?_⟩
      rw [List.mem_singleton.mp hb]
      exact Nat.lt_of_lt_of_le (held.bounded a ha) hseq
    · intro v hv
      rcases List.mem_append.mp hv with hv | hv
      · exact hbound v hv
      · rw [List.mem_singleton.mp hv]
        exact Nat.lt_succ_self seq

/-- The memberships of a state that accepted payloads make, at whatever sequences, are chains. -/
theorem applyAll_memberships {entries : List (SupportPayload × Nat)} (h : applyAll H entries = .ok s) :
    ∃ ms, Chains membershipKey membershipRevision checkMembership ms s.memberships s.membershipRevisions := by
  suffices hfold : ∀ {entries : List (SupportPayload × Nat)} {s s' : S23State} {ms : List MembershipEntry},
      Chains membershipKey membershipRevision checkMembership ms s.memberships s.membershipRevisions →
      entries.foldlM (fun s e => s.apply H e.1 e.2) s = .ok s' →
      ∃ ms', Chains membershipKey membershipRevision checkMembership ms' s'.memberships s'.membershipRevisions from
    hfold Chains.empty h
  intro entries
  induction entries with
  | nil =>
    intro s s' ms held h
    cases h
    exact ⟨ms, held⟩
  | cons e entries ih =>
    intro s s' ms held h
    rw [List.foldlM_cons] at h
    obtain ⟨mid, hmid, h⟩ := bind_eq_ok.mp h
    rcases apply_cases hmid with ⟨value, -, -, -, rfl⟩ | ⟨value, -, hcheck, hnew, rfl⟩ | ⟨value, -, -, rfl⟩ |
      ⟨value, -, -, -, -, rfl⟩
    · exact ih (by exact held) h
    · exact ih (held.record (e := (value, e.2)) hnew hcheck) h
    · exact ih (by exact held) h
    · exact ih (by exact held) h

/-! ## Forgetting whole chains -/

/-- The deletion names all revisions of a membership or none. -/
def WholeChains (s : S23State) (revisionIds : List RevisionId) (membershipIds : List CoreMembershipId) : Prop :=
  ∀ a ∈ s.membershipRevisions.values, ∀ b ∈ s.membershipRevisions.values,
    a.1.coreMembershipId = b.1.coreMembershipId → hit revisionIds membershipIds a = hit revisionIds membershipIds b

theorem Held.forget_memberships (held : Held H s bound scs ms vs) (revisionIds : List RevisionId)
    (membershipIds : List CoreMembershipId) :
    (s.forget revisionIds membershipIds).memberships =
        s.memberships.retain (fun _ e => !hit revisionIds membershipIds e) ∧
      (s.forget revisionIds membershipIds).membershipRevisions =
        s.membershipRevisions.retain (fun _ e => !hit revisionIds membershipIds e) := by
  constructor
  · refine OrdMap.ext_get fun k => Option.ext fun e => ?_
    simp only [S23State.forget, OrdMap.get_retain]
    refine and_congr_right fun he => ?_
    have hk : e.1.coreMembershipId = k := (held.memberships.mem_of_current he).2
    rw [hit, hk]
    simp only [Bool.not_or]
  · refine OrdMap.ext_get fun k => Option.ext fun e => ?_
    simp only [S23State.forget, OrdMap.get_retain]
    refine and_congr_right fun he => ?_
    have hk : e.1.membershipRevisionId = k := ((held.memberships.stored k e).mp he).2
    rw [hit, hk]
    simp only [Bool.not_or, Bool.and_eq_true]
    tauto

/-- **`forget` keeps the chains when it takes them out whole.** -/
theorem Held.forget (held : Held H s bound scs ms vs) {revisionIds : List RevisionId}
    {membershipIds : List CoreMembershipId} (hwhole : WholeChains s revisionIds membershipIds) :
    ∃ ms' vs', Held H (s.forget revisionIds membershipIds) bound scs ms' vs' := by
  obtain ⟨hcurrent, hrevisions⟩ := held.forget_memberships revisionIds membershipIds
  have hmem : ∀ e ∈ ms, e ∈ s.membershipRevisions.values := fun e he =>
    held.memberships.values_perm.mem_iff.mpr he
  have hcurrentValidations : (s.forget revisionIds membershipIds).currentValidations =
      s.currentValidations.retain fun _ e => !(s.removedContracts revisionIds membershipIds).contains
        e.1.supportContractRef := by
    refine OrdMap.ext_get fun k => Option.ext fun e => ?_
    simp only [S23State.forget, OrdMap.get_retain]
    refine and_congr_right fun he => ?_
    have hk : e.1.supportContractRef = k := (held.validations.mem_of_current he).2
    rw [hk]
  refine ⟨ms.filter fun e => !hit revisionIds membershipIds e,
    vs.filter fun e => !(s.removedContracts revisionIds membershipIds).contains e.1.supportContractRef,
    ⟨held.scenarios, ?_, ?_, ?_, ?_, held.inOrder.filter _, ?_⟩⟩
  · rw [hcurrent, hrevisions]
    refine held.memberships.retain fun a ha b hb hkey => ?_
    rw [hwhole a (hmem a ha) b (hmem b hb) hkey]
  · rw [hcurrentValidations]
    refine held.validations.retain fun a ha b hb hkey => ?_
    have hkey : a.1.supportContractRef = b.1.supportContractRef := hkey
    rw [hkey]
  · intro v hv
    obtain ⟨hv, hkept⟩ := List.mem_filter.mp hv
    obtain ⟨c, hc⟩ := contract_of_check (held.contracted v hv)
    have hget : (s.forget revisionIds membershipIds).contracts.get v.1.supportContractRef =
        s.contracts.get v.1.supportContractRef := by
      rw [hc]
      exact OrdMap.get_retain.mpr ⟨hc, hkept⟩
    rw [checkContract_congr hget, held.contracted v hv]
  · intro id c hc
    exact held.contractKeys id c (OrdMap.get_retain.mp hc).1
  · exact fun v hv => held.bounded v (List.mem_filter.mp hv).1

end EverTrace.L2.Support
