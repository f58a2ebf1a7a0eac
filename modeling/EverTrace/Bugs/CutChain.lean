import EverTrace.L2Machine.SupportRebuild
/-!
# A deletion that cuts a membership chain

`S23State::forget` (evertrace-store/src/projections/s23.rs:65-108) decides for
each membership revision by itself whether a deletion names it: by its own id,
its membership, or its atom. `rebuild` needs whole chains, with a root and every
revision superseded by the next. When the revisions of one membership name
different atoms, deleting one of the atoms takes some of them and leaves the
others, and the store no longer opens.

Counterexample: a membership of one atom, superseded by a membership of another
atom; the first atom is deleted. The remaining revision supersedes one that is
gone, so its chain has no root and `rebuild` answers `StoreCorrupt`.

A second way to the same kind of damage: `forget` removes the contract of every
membership revision it takes, also when a remaining one names the same contract.

`runs_survive_iff` says exactly which deletions do no damage: those that name all
revisions of a membership or none, and no contract that a remaining membership
needs (`Whole`).
-/
namespace EverTrace.Bugs.CutChain
open EverTrace.Lib EverTrace.L1 EverTrace.L2.Semantic EverTrace.L2.Store EverTrace.L2.Support

/-- Runs from the empty state: payloads at growing journal sequences, and deletions of the given kind. All
sequences used are below the number. -/
inductive Run (H : Sha256) (allowed : S23State → List RevisionId → List CoreMembershipId → Prop) :
    Nat → S23State → Prop
  | empty : Run H allowed 0 .empty
  | apply {bound seq : Nat} {s s' : S23State} {payload : SupportPayload} : Run H allowed bound s → bound ≤ seq →
      s.apply H payload seq = .ok s' → Run H allowed (seq + 1) s'
  | forget {bound : Nat} {s : S23State} {revisionIds : List RevisionId} {membershipIds : List CoreMembershipId} :
      Run H allowed bound s → allowed s revisionIds membershipIds →
      Run H allowed bound (s.forget revisionIds membershipIds)

/-- A remaining membership that had its contract still has it, and a remaining contract that had a current
validation still has it. -/
def Kept (s s' : S23State) : Prop :=
  (∀ e ∈ s'.membershipRevisions.values, (s.contracts.get e.1.supportContractRef).isSome →
    (s'.contracts.get e.1.supportContractRef).isSome) ∧
  ∀ id, (s'.contracts.get id).isSome → (s.currentValidations.get id).isSome →
    (s'.currentValidations.get id).isSome

/-- No contract of a remaining membership is removed. -/
def SparesContracts (s : S23State) (revisionIds : List RevisionId) (membershipIds : List CoreMembershipId) : Prop :=
  ∀ e ∈ s.membershipRevisions.values, hit revisionIds membershipIds e = false →
    (s.contracts.get e.1.supportContractRef).isSome →
      e.1.supportContractRef ∉ s.removedContracts revisionIds membershipIds

/-- The deletion names all revisions of a membership or none, and no contract that a remaining one needs. -/
def Whole (s : S23State) (revisionIds : List RevisionId) (membershipIds : List CoreMembershipId) : Prop :=
  WholeChains s revisionIds membershipIds ∧ SparesContracts s revisionIds membershipIds

variable {H : Sha256} {s s' : S23State} {bound : Nat} {scs : List ScenarioEntry} {ms : List MembershipEntry}
  {vs : List ValidationEntry} {revisionIds : List RevisionId} {membershipIds : List CoreMembershipId}

theorem Run.held (h : Run H Whole bound s) : ∃ scs ms vs, Held H s bound scs ms vs := by
  induction h with
  | empty => exact ⟨[], [], [], held_empty H⟩
  | apply _ hseq happly ih =>
    obtain ⟨scs, ms, vs, held⟩ := ih
    exact held.apply hseq happly
  | forget _ hwhole ih =>
    obtain ⟨scs, ms, vs, held⟩ := ih
    obtain ⟨ms', vs', held'⟩ := held.forget hwhole.1
    exact ⟨scs, ms', vs', held'⟩

/-! ## What is kept -/

theorem mem_forget (held : Held H s bound scs ms vs) {e : MembershipEntry} :
    e ∈ (s.forget revisionIds membershipIds).membershipRevisions.values ↔
      e ∈ s.membershipRevisions.values ∧ hit revisionIds membershipIds e = false := by
  rw [(held.forget_memberships revisionIds membershipIds).2, OrdMap.mem_values, OrdMap.mem_values]
  simp only [OrdMap.get_retain, Bool.not_eq_true']
  exact ⟨fun ⟨k, hk, hhit⟩ => ⟨⟨k, hk⟩, hhit⟩, fun ⟨⟨k, hk⟩, hhit⟩ => ⟨k, hk, hhit⟩⟩

theorem get_forget_contracts {id : RevisionId} :
    ((s.forget revisionIds membershipIds).contracts.get id).isSome ↔
      (s.contracts.get id).isSome ∧ id ∉ s.removedContracts revisionIds membershipIds := by
  simp only [Option.isSome_iff_exists, S23State.forget, OrdMap.get_retain, Bool.not_eq_true',
    List.contains_eq_mem, decide_eq_false_iff_not]
  constructor
  · rintro ⟨c, hc, hout⟩
    exact ⟨⟨c, hc⟩, hout⟩
  · rintro ⟨⟨c, hc⟩, hout⟩
    exact ⟨c, hc, hout⟩

theorem kept_iff (held : Held H s bound scs ms vs) :
    Kept s (s.forget revisionIds membershipIds) ↔ SparesContracts s revisionIds membershipIds := by
  constructor
  · intro hkept e he hhit hcontract
    exact (get_forget_contracts.mp (hkept.1 e ((mem_forget held).mpr ⟨he, hhit⟩) hcontract)).2
  · intro hspares
    refine ⟨fun e he hcontract => ?_, fun id hcontract hcurrent => ?_⟩
    · obtain ⟨he, hhit⟩ := (mem_forget held).mp he
      exact get_forget_contracts.mpr ⟨hcontract, hspares e he hhit hcontract⟩
    · obtain ⟨v, hv⟩ := Option.isSome_iff_exists.mp hcurrent
      have hout := (get_forget_contracts.mp hcontract).2
      refine Option.isSome_iff_exists.mpr ⟨v, OrdMap.get_retain.mpr ⟨hv, ?_⟩⟩
      simpa using hout

/-! ## A cut chain does not survive -/

/-- The revision a member of a chain supersedes is the one before it. -/
theorem superseded_at {chain : List MembershipEntry} (hlinked : Linked checkMembership chain) {j : Nat}
    {e : MembershipEntry} {r : RevisionId} (he : chain[j]? = some e)
    (hr : e.1.supersedesMembershipRevisionId = some r) :
    ∃ i c, j = i + 1 ∧ chain[i]? = some c ∧ c.1.membershipRevisionId = r := by
  obtain ⟨hj, rfl⟩ := List.getElem?_eq_some_iff.mp he
  have hcheck := hlinked (chain.take j) chain[j] (chain.drop (j + 1))
    (by rw [← List.drop_eq_getElem_cons hj, List.take_append_drop])
  cases j with
  | zero =>
    rw [List.take_zero, List.getLast?_nil] at hcheck
    rw [checkMembership_none hcheck] at hr
    cases hr
  | succ i =>
    have hlast : (chain.take (i + 1)).getLast? = some chain[i] := by
      rw [List.take_succ_eq_append_getElem (by omega), List.getLast?_concat]
    rw [hlast] at hcheck
    rw [checkMembership_some hcheck] at hr
    exact ⟨i, chain[i], rfl, List.getElem?_eq_getElem (by omega), Option.some.inj hr⟩

theorem followMembership_at {members chain : List MembershipEntry} (hsub : ∀ e ∈ members, e ∈ chain)
    (hlinked : Linked checkMembership chain) (hrev : (chain.map membershipRevision).Nodup) :
    ∀ {rounds i : Nat} {current last : MembershipEntry}, chain[i]? = some current →
      followMembership members rounds current = .ok last → chain[i + rounds]? = some last := by
  intro rounds
  induction rounds with
  | zero =>
    intro i current last hi h
    cases h
    exact hi
  | succ rounds ih =>
    intro i current last hi h
    rw [followMembership] at h
    split at h
    · next next hnext =>
      obtain ⟨_, -, h⟩ := bind_eq_ok.mp h
      have hmem : next ∈ members.filter fun entry =>
          entry.1.supersedesMembershipRevisionId == some current.1.membershipRevisionId := by
        rw [hnext]
        simp
      obtain ⟨hmem, hsup⟩ := List.mem_filter.mp hmem
      obtain ⟨j, hj⟩ := List.mem_iff_getElem?.mp (hsub next hmem)
      obtain ⟨i', c, rfl, hc, hrevc⟩ := superseded_at hlinked hj (by simpa using hsup)
      -- the revision before `next` is `current`, so it stands at the same place
      have hsame : i' = i := by
        obtain ⟨hi', -⟩ := List.getElem?_eq_some_iff.mp hc
        have hrevs : (chain.map membershipRevision)[i']? = (chain.map membershipRevision)[i]? := by
          rw [List.getElem?_map, List.getElem?_map, hc, hi]
          exact congrArg some hrevc
        exact (List.getElem?_inj (by rw [List.length_map]; exact hi') hrev).mp hrevs
      subst hsame
      have := ih hj h
      rwa [Nat.add_assoc, Nat.add_comm 1 rounds] at this
    · cases h

theorem rebuild_memberships {t : S23State} (h : t.rebuild H = .ok s) :
    rebuildMemberships s.membershipRevisions = .ok s.memberships := by
  obtain ⟨scenarios, -, h⟩ := bind_eq_ok.mp h
  obtain ⟨memberships, hm, h⟩ := bind_eq_ok.mp h
  obtain ⟨currentValidations, -, h⟩ := bind_eq_ok.mp h
  cases pure_eq_ok.mp h
  exact hm

theorem get_of_foldlM_insert {κ α ε : Type} [LinearOrder κ] {f : κ → Except ε α} : ∀ {ids : List κ}
    {m m' : OrdMap κ α}, ids.foldlM (fun m id => do let a ← f id; return m.insert id a) m = .ok m' →
    ∀ k, (k ∈ ids → ∃ a, f k = .ok a ∧ m'.get k = some a) ∧ (k ∉ ids → m'.get k = m.get k) := by
  intro ids
  induction ids with
  | nil =>
    intro m m' h k
    cases h
    exact ⟨fun hk => (by cases hk), fun _ => rfl⟩
  | cons id ids ih =>
    intro m m' h k
    rw [List.foldlM_cons] at h
    obtain ⟨m₁, hm₁, h⟩ := bind_eq_ok.mp h
    obtain ⟨a, ha, hm₁⟩ := bind_eq_ok.mp hm₁
    cases pure_eq_ok.mp hm₁
    obtain ⟨hin, hout⟩ := ih h k
    by_cases hk : k ∈ ids
    · exact ⟨fun _ => hin hk, fun hno => absurd (List.mem_cons_of_mem _ hk) hno⟩
    · refine ⟨fun hmem => ?_, fun hno => ?_⟩
      · rcases List.mem_cons.mp hmem with rfl | hmem
        · exact ⟨a, ha, by rw [hout hk, OrdMap.get_insert_self]⟩
        · exact absurd hmem hk
      · rw [hout hk, OrdMap.get_insert_of_ne]
        rintro rfl
        exact hno List.mem_cons_self

/-- A rebuilt chain has as many revisions as it goes back. -/
theorem rebuildMembership_at {members chain : List MembershipEntry} (hsub : ∀ e ∈ members, e ∈ chain)
    (hlinked : Linked checkMembership chain) (hrev : (chain.map membershipRevision).Nodup) {last : MembershipEntry}
    (h : rebuildMembership members = .ok last) :
    members ≠ [] ∧ chain[members.length - 1]? = some last := by
  unfold rebuildMembership at h
  split at h
  · next root hroot =>
    have hmem : root ∈ members.filter fun entry => entry.1.supersedesMembershipRevisionId.isNone := by
      rw [hroot]
      simp
    obtain ⟨hmem, hnone⟩ := List.mem_filter.mp hmem
    refine ⟨List.ne_nil_of_mem hmem, ?_⟩
    obtain ⟨i, hi⟩ := List.mem_iff_getElem?.mp (hsub root hmem)
    -- only the first revision of a chain supersedes nothing
    have hfirst : i = 0 := by
      cases i with
      | zero => rfl
      | succ i =>
        obtain ⟨hlt, rfl⟩ := List.getElem?_eq_some_iff.mp hi
        have hcheck := hlinked (chain.take (i + 1)) chain[i + 1] (chain.drop (i + 1 + 1))
          (by rw [← List.drop_eq_getElem_cons hlt, List.take_append_drop])
        rw [List.take_succ_eq_append_getElem (by omega), List.getLast?_concat] at hcheck
        rw [checkMembership_some hcheck] at hnone
        cases hnone
    subst hfirst
    have := followMembership_at hsub hlinked hrev hi h
    rwa [Nat.zero_add] at this
  · cases h

theorem values_retain {κ α : Type} [LinearOrder κ] (m : OrdMap κ α) (p : α → Bool) :
    (m.retain fun _ v => p v).values = m.values.filter p := by
  simp only [OrdMap.values, OrdMap.retain, List.filter_map]
  rfl

theorem whole_of_survives (held : Held H s bound scs ms vs)
    (h : Survives H (s.forget revisionIds membershipIds)) : WholeChains s revisionIds membershipIds := by
  obtain ⟨t, -, ht⟩ := bind_eq_ok.mp (h _ (List.Perm.refl _))
  have hrebuilt := rebuild_memberships ht
  obtain ⟨hcurrent, hrevisions⟩ := held.forget_memberships revisionIds membershipIds
  -- enough: no revision that is hit has one beside it in its chain that is not
  suffices hcut : ∀ a ∈ s.membershipRevisions.values, ∀ b ∈ s.membershipRevisions.values,
      a.1.coreMembershipId = b.1.coreMembershipId → hit revisionIds membershipIds a = true →
      hit revisionIds membershipIds b = true by
    intro a ha b hb hkey
    exact Bool.eq_iff_iff.mpr ⟨hcut a ha b hb hkey, hcut b hb a ha hkey.symm⟩
  intro a ha b hb hkey hhit
  by_contra hb'
  have hnot : hit revisionIds membershipIds b = false := Bool.eq_false_iff.mpr hb'
  let k := b.1.coreMembershipId
  let chain := chainIn membershipKey ms k
  let members := (s.forget revisionIds membershipIds).membershipRevisions.values.filter
    fun entry => entry.1.coreMembershipId = k
  have hperm : members.Perm (chain.filter fun e => !hit revisionIds membershipIds e) := by
    have hvalues : (s.forget revisionIds membershipIds).membershipRevisions.values =
        s.membershipRevisions.values.filter fun e => !hit revisionIds membershipIds e := by
      rw [hrevisions]
      exact values_retain s.membershipRevisions _
    have hmembers : members = chainIn membershipKey (s.membershipRevisions.values.filter
        fun e => !hit revisionIds membershipIds e) k := by
      change List.filter _ _ = _
      rw [hvalues]
      exact List.filter_congr fun e _ => decide_eq_decide.mpr Iff.rfl
    rw [hmembers, chainIn, List.filter_filter]
    refine (held.memberships.values_perm.filter _).trans (List.Perm.of_eq ?_)
    change _ = (ms.filter _).filter _
    rw [List.filter_filter]
    exact List.filter_congr fun e _ => Bool.and_comm _ _
  have hrev : (chain.map membershipRevision).Nodup := by
    refine List.Nodup.map_on (fun x hx y hy hxy => ?_) (held.memberships.distinct.filter _)
    exact held.memberships.eq_of_rev (mem_chainIn.mp hx).1 (mem_chainIn.mp hy).1 hxy
  have hkin : k ∈ sortUnique ((s.forget revisionIds membershipIds).membershipRevisions.values.map
      fun entry => entry.1.coreMembershipId) := by
    rw [sortUnique, mem_dedupAdjacent, List.mem_insertionSort]
    exact List.mem_map.mpr ⟨b, (mem_forget held).mpr ⟨hb, hnot⟩, rfl⟩
  obtain ⟨last, hlast, hget⟩ := (get_of_foldlM_insert hrebuilt k).1 hkin
  rw [hcurrent] at hget
  have hend : chain[chain.length - 1]? = some last := by
    rw [← List.getLast?_eq_getElem?, ← held.memberships.heads k]
    exact (OrdMap.get_retain.mp hget).1
  obtain ⟨hne, hat⟩ := rebuildMembership_at (fun e he => (List.mem_filter.mp (hperm.mem_iff.mp he)).1)
    (held.memberships.linked k) hrev hlast
  -- the revision that was hit is missing, so the chain was followed for too few rounds
  have hlt : members.length < chain.length := by
    rw [hperm.length_eq]
    refine List.length_filter_lt_length_iff_exists.mpr ⟨a, mem_chainIn.mpr ⟨?_, hkey⟩, by simp [hhit]⟩
    exact held.memberships.values_perm.mem_iff.mp ha
  have hpos : 0 < members.length := List.length_pos_iff.mpr hne
  have hsame : members.length - 1 = chain.length - 1 := by
    have hnodup : chain.Nodup := List.Nodup.of_map _ hrev
    exact (List.getElem?_inj (by omega) hnodup).mp (hat.trans hend.symm)
  omega

/-- **Which deletions a state survives.** A run whose deletions take whole chains, and no contract that is still
needed, only reaches states that survive a restart; a further deletion keeps that, and the contracts and validations
of what remains, exactly when it is of this kind too. -/
theorem runs_survive_iff (H : Sha256) (bound : Nat) (s : S23State) (h : Run H Whole bound s) :
    Survives H s ∧ ∀ revisionIds membershipIds,
      (Survives H (s.forget revisionIds membershipIds) ∧ Kept s (s.forget revisionIds membershipIds)) ↔
        Whole s revisionIds membershipIds := by
  obtain ⟨scs, ms, vs, held⟩ := h.held
  refine ⟨held.survives, fun revisionIds membershipIds => ⟨fun ⟨hsurvives, hkept⟩ => ?_, fun hwhole => ?_⟩⟩
  · exact ⟨whole_of_survives held hsurvives, (kept_iff held).mp hkept⟩
  · obtain ⟨ms', vs', held'⟩ := held.forget hwhole.1
    exact ⟨held'.survives, (kept_iff held).mpr hwhole.2⟩

/-! ## The defect -/

theorem Run.foldlM {allowed : S23State → List RevisionId → List CoreMembershipId → Prop} :
    ∀ {entries : List (SupportPayload × Nat)} {bound : Nat} {s s' : S23State}, Run H allowed bound s →
      (∀ e ∈ entries, bound ≤ e.2) → entries.Pairwise (fun a b => a.2 < b.2) →
      entries.foldlM (fun s e => s.apply H e.1 e.2) s = .ok s' → ∃ bound', Run H allowed bound' s' := by
  intro entries
  induction entries with
  | nil =>
    intro bound s s' hrun _ _ h
    cases h
    exact ⟨bound, hrun⟩
  | cons e entries ih =>
    intro bound s s' hrun hbound hsorted h
    rw [List.foldlM_cons] at h
    obtain ⟨mid, hmid, h⟩ := bind_eq_ok.mp h
    obtain ⟨hlater, hsorted⟩ := List.pairwise_cons.mp hsorted
    exact ih (hrun.apply (hbound e List.mem_cons_self) hmid) (fun x hx => hlater x hx) hsorted h

def sampleId {family : Family} (n : Fin 256) : Id family := ⟨⟨0x70008000000000000000 + n.val, by omega⟩⟩

/-- Revision `n` of a global membership: its atom, its contract and the revision before it. -/
def membership (id n atom contract : Fin 256) (supersedes : Option (Fin 256)) : CoreMembership where
  coreMembershipId := sampleId id
  membershipRevisionId := sampleId n
  atomRevisionId := sampleId atom
  scopeIdentity := .global
  supportContractRef := sampleId contract
  authorizationRevisionRefs := [sampleId 2]
  supersedesMembershipRevisionId := supersedes.map sampleId
  createdByAcceptanceRef := sampleId 3
  active := true

def contract (n atom : Fin 256) : GlobalSuccessorSupportContract where
  supportContractRevisionId := sampleId n
  successorRevisionOrMembershipRef := (sampleId atom : RevisionId).toText
  supportRevisionRefs := [sampleId 4]
  authorizationRevisionRefs := [sampleId 2]
  evidenceCohortHash := zeroSha.hash []
  supportThresholdSnapshot := ⟨1, true⟩
  promotionProposalRevisionId := sampleId 5
  promotionValidatorRevision := 1
  applicabilityContractHash := zeroSha.hash []
  createdAtUs := 10

def validation (n atom contract : Fin 256) : GlobalSupportValidationEvent where
  validationRevisionId := sampleId n
  supportContractRef := sampleId contract
  successorRef := (sampleId atom : RevisionId).toText
  dependencyGeneration := 1
  state := .valid
  provenanceDegraded := false
  survivingSupportRefs := [sampleId 4]
  invalidOrMissingRefs := []
  triggerRefs := []
  validatorRevision := 1
  createdAtUs := 10

/-- A membership of one atom (16), superseded by a membership of another (32), each with its contract and a
validation. -/
def movedMembership : List (SupportPayload × Nat) :=
  [(.globalSupportContractRecorded (contract 17 16), 1),
    (.globalSupportValidationRecorded (validation 18 16 17), 2),
    (.coreMembershipRecorded (membership 1 19 16 17 none), 3),
    (.globalSupportContractRecorded (contract 33 32), 4),
    (.globalSupportValidationRecorded (validation 34 32 33), 5),
    (.coreMembershipRecorded (membership 1 35 32 33 (some 19)), 6)]

/-- What a restart answers after the deletion of some revisions. -/
def restartError (entries : List (SupportPayload × Nat)) (revisionIds : List RevisionId) :
    Option (Option StoreError) :=
  match applyAll zeroSha entries with
  | .error _ => none
  | .ok s =>
    match restoreAll (s.forget revisionIds []).stored >>= S23State.rebuild zeroSha with
    | .error e => some (some e)
    | .ok _ => some none

/-- The first atom is deleted; the store does not open again. -/
theorem deleted_atom_corrupts : ∃ bound s, Run zeroSha (fun _ _ _ => True) bound s ∧ ¬ Survives zeroSha s ∧
    (restoreAll s.stored >>= S23State.rebuild zeroSha) = .error .storeCorrupt := by
  have hrestart : restartError movedMembership [sampleId 16] = some (some .storeCorrupt) := by decide
  unfold restartError at hrestart
  cases hs : applyAll zeroSha movedMembership with
  | error e =>
    rw [hs] at hrestart
    cases hrestart
  | ok s =>
    rw [hs] at hrestart
    dsimp only at hrestart
    obtain ⟨bound, hrun⟩ := Run.foldlM (@Run.empty zeroSha fun _ _ _ => True) (by simp) (by decide) hs
    have hcorrupt : (restoreAll (s.forget [sampleId 16] []).stored >>= S23State.rebuild zeroSha) =
        .error .storeCorrupt := by
      cases hrebuild : restoreAll (s.forget [sampleId 16] []).stored >>= S23State.rebuild zeroSha with
      | ok s' =>
        rw [hrebuild] at hrestart
        cases hrestart
      | error e =>
        rw [hrebuild] at hrestart
        rw [Option.some.inj (Option.some.inj hrestart)]
    refine ⟨bound, s.forget [sampleId 16] [], hrun.forget trivial, fun hsurvives => ?_, hcorrupt⟩
    rw [hsurvives _ (List.Perm.refl _)] at hcorrupt
    cases hcorrupt

theorem whole_of_all (h : s.membershipRevisions.values.all (hit revisionIds membershipIds) = true) :
    Whole s revisionIds membershipIds := by
  rw [List.all_eq_true] at h
  refine ⟨fun a ha b hb _ => (h a ha).trans (h b hb).symm, fun e he hhit => ?_⟩
  rw [h e he] at hhit
  cases hhit

/-- The same history survives as it stands, and after both atoms are deleted. -/
theorem moved_membership_survives : ∃ s, applyAll zeroSha movedMembership = .ok s ∧
    Survives zeroSha (s.forget [sampleId 16, sampleId 32] []) ∧ Kept s (s.forget [sampleId 16, sampleId 32] []) ∧
    ¬(Survives zeroSha (s.forget [sampleId 16] []) ∧ Kept s (s.forget [sampleId 16] [])) := by
  have hhits : (applyAll zeroSha movedMembership).toOption.map (fun s =>
      (s.membershipRevisions.values.all (hit [sampleId 16, sampleId 32] []),
        s.membershipRevisions.values.map fun e => (e.1.coreMembershipId, hit [sampleId 16] [] e))) =
      some (true, [(sampleId 1, true), (sampleId 1, false)]) := by decide
  obtain ⟨s, hs, hhits⟩ := Option.map_eq_some_iff.mp hhits
  rw [toOption_eq_some] at hs
  obtain ⟨hall, hcut⟩ := Prod.mk.inj hhits
  obtain ⟨bound, hrun⟩ := Run.foldlM (@Run.empty zeroSha Whole) (by simp) (by decide) hs
  have hkeeps := (runs_survive_iff zeroSha bound s hrun).2
  have hwhole := whole_of_all hall
  refine ⟨s, hs, (runs_survive_iff zeroSha bound _ (hrun.forget hwhole)).1, ((hkeeps _ _).mpr hwhole).2, fun h => ?_⟩
  -- of the two revisions of the membership one is hit
  have hchains := ((hkeeps _ _).mp h).1
  obtain ⟨a, rest, hvalues, ha, hrest⟩ := List.map_eq_cons_iff.mp hcut
  obtain ⟨b, rest, rfl, hb, -⟩ := List.map_eq_cons_iff.mp hrest
  have hsame := hchains a (by simp [hvalues]) b (by simp [hvalues])
    ((Prod.mk.inj ha).1.trans (Prod.mk.inj hb).1.symm)
  rw [(Prod.mk.inj ha).2, (Prod.mk.inj hb).2] at hsame
  cases hsame

end EverTrace.Bugs.CutChain
