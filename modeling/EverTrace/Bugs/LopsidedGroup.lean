import EverTrace.L2Machine.NormalizeOperations
/-!
# Bug: one intent with a probe blocks the whole normalization

`pairing_state` counts intents and results. An operation lists its intents as
inputs and every other member, of whatever role, as results, and
`Operation::validate` wants an `UnmatchedIntent` operation to have no results.
So an exact group of an executable family with one intent, no result and a
probe, an artifact or a lifecycle record has an operation that its own check
refuses, and `normalize` returns `InvalidResult` for the whole batch.

* `normalize_ok_iff`: nothing else makes normalization of valid observations fail.
* `probed_intent_blocks`: two valid observations that do.
-/
namespace EverTrace.Bugs.LopsidedGroup
open EverTrace.Lib EverTrace.L1 EverTrace.L1.Canonical EverTrace.L2.Work EverTrace.L2.Evidence EverTrace.L2.Normalize

variable {H : Sha256} {n : PhysicalNormalizer} {fresh : FreshIds} {observations : List SourceObservation}
  {previous : Option NormalizationSnapshot}

/-- No exact group of an executable family is lopsided. -/
def Balanced (observations : List SourceObservation) : Prop :=
  ∀ key, key.canonicalEventFamily.operationKind.isSome → ¬ Lopsided (exactMembers observations key)

/-! ## Earlier runs -/

/-- What a chain of earlier runs over parts of these observations can have left: nothing, or the
snapshot of the last one. The number counts the runs. -/
inductive Reached (H : Sha256) : Nat → List SourceObservation → Option NormalizationSnapshot → Prop
  | first {observations : List SourceObservation} : Reached H 0 observations none
  | run {k : Nat} {part observations : List SourceObservation} {previous : Option NormalizationSnapshot}
      {n : PhysicalNormalizer} {fresh : FreshIds} {s : NormalizationSnapshot} :
      Reached H k part previous → normalize H n fresh part previous = .ok s → part.Sublist observations →
      Reached H (k + 1) observations (some s)

/-- No revision of the snapshot is above the number. -/
structure RevisionsLe (k : Nat) (s : NormalizationSnapshot) : Prop where
  occurrence : ∀ o ∈ s.occurrences, o.normalizationRevision.toNat ≤ k
  operation : ∀ op ∈ s.operations, op.operationRevision.toNat ≤ k

theorem toNat_succ_le (r : UInt32) : (r + 1).toNat ≤ r.toNat + 1 := by
  rw [UInt32.toNat_add, UInt32.toNat_one]
  exact Nat.mod_le _ _

theorem updateOccurrenceRevision_le {current : HostOccurrence} {earlier : Option HostOccurrence} {k : Nat}
    (hcurrent : current.normalizationRevision = 1)
    (h : ∀ p, earlier = some p → p.normalizationRevision.toNat ≤ k) :
    (updateOccurrenceRevision current earlier).normalizationRevision.toNat ≤ k + 1 := by
  unfold updateOccurrenceRevision
  split
  · rw [hcurrent, UInt32.toNat_one]
    omega
  · next p =>
    have hp := h p rfl
    split
    · omega
    · have hsucc := toNat_succ_le p.normalizationRevision
      show (p.normalizationRevision + 1).toNat ≤ k + 1
      omega

theorem updateOperationRevision_le {op : Operation} {earlier : Option Operation} {k : Nat}
    (hop : op.operationRevision = 1) (h : ∀ p, earlier = some p → p.operationRevision.toNat ≤ k) :
    (updateOperationRevision op earlier).operationRevision.toNat ≤ k + 1 := by
  unfold updateOperationRevision
  split
  · rw [hop, UInt32.toNat_one]
    omega
  · next p =>
    have hp := h p rfl
    split
    · omega
    · have hsucc := toNat_succ_le p.operationRevision
      show (p.operationRevision + 1).toNat ≤ k + 1
      omega

theorem buildOccurrences_revision {refs : List String} {earlier : OrdMap HostOccurrenceId HostOccurrence}
    {values : List SourceObservation} {occurrences : List HostOccurrence}
    (h : buildOccurrences H n refs earlier values = .ok occurrences) {o : HostOccurrence} (ho : o ∈ occurrences) :
    ∃ current id, current.normalizationRevision = 1 ∧ o = updateOccurrenceRevision current (earlier.get id) := by
  unfold buildOccurrences at h
  obtain ⟨exact, hexact, h⟩ := bind_eq_ok.mp h
  obtain ⟨nonexact, hnonexact, h⟩ := bind_eq_ok.mp h
  cases h
  rcases List.mem_append.mp ((sortByKey_perm _ _).mem_iff.mp ho) with ho | ho
  · obtain ⟨group, -, hbuild⟩ := (mem_mapM_ok hexact).mp ho
    unfold buildExactOccurrence at hbuild
    obtain ⟨id, -, hbuild⟩ := bind_eq_ok.mp hbuild
    obtain ⟨_, -, hbuild⟩ := bind_eq_ok.mp hbuild
    cases hbuild
    exact ⟨exactOccurrence n id group.1 group.2, id, rfl, rfl⟩
  · obtain ⟨x, -, hbuild⟩ := (mem_mapM_ok hnonexact).mp ho
    unfold buildNonexactOccurrence at hbuild
    obtain ⟨id, -, hbuild⟩ := bind_eq_ok.mp hbuild
    obtain ⟨_, -, hbuild⟩ := bind_eq_ok.mp hbuild
    cases hbuild
    exact ⟨nonexactOccurrence n id (nonexactStrength refs x) x, id, rfl, rfl⟩

theorem deriveOperation_revision {earlier : Earlier} {byId : OrdMap SourceObservationId SourceObservation}
    {logical : OrdMap HostOccurrenceId SourceLocalPairing} {o : HostOccurrence} {d : Operation × List ScopeEffect}
    (h : deriveOperation n fresh earlier byId logical o = .ok (some d)) :
    ∃ op, op.operationRevision = 1 ∧
      d.1 = updateOperationRevision op (earlier.operations.get o.hostOccurrenceId) := by
  unfold deriveOperation at h
  obtain ⟨members, -, h⟩ := bind_eq_ok.mp h
  dsimp only at h
  split at h
  · cases h
  · next kind _ =>
    obtain ⟨claims, -, h⟩ := bind_eq_ok.mp h
    obtain ⟨effects, -, h⟩ := bind_eq_ok.mp h
    obtain ⟨_, -, h⟩ := bind_eq_ok.mp h
    cases h
    exact ⟨newOperation n o members (logical.get o.hostOccurrenceId) kind
      (operationIdOf fresh earlier o.hostOccurrenceId) (sortByKey (·.scopeEffectId) effects), rfl, rfl⟩

/-- A chain of `k` runs leaves a checked snapshot with revisions up to `k`. -/
theorem Reached.bounded {k : Nat} (h : Reached H k observations previous) :
    ∀ s, previous = some s → CheckedSnapshot H s ∧ RevisionsLe k s := by
  induction h with
  | first => intro s hs; cases hs
  | @run k part observations previous n fresh s hreached hrun hsub ih =>
    intro s' hs
    cases hs
    obtain ⟨byId, logical, derived, -, -, hbuild, -, hderived, hresult, hvalid⟩ := normalize_ok hrun
    refine ⟨snapshot_validate_iff.mp hvalid, fun o ho => ?_, fun op hop => ?_⟩
    · obtain ⟨current, id, hcurrent, rfl⟩ := buildOccurrences_revision hbuild ho
      refine updateOccurrenceRevision_le hcurrent fun p hp => ?_
      obtain ⟨-, s₀, hs₀, hp⟩ := earlier_occurrence hp
      exact (ih s₀ hs₀).2.occurrence p hp
    · rw [hresult] at hop
      obtain ⟨d, hd, rfl⟩ := List.mem_map.mp ((sortByKey_perm _ _).mem_iff.mp hop)
      rw [List.reduceOption_mem_iff] at hd
      obtain ⟨o, -, hd⟩ := (mem_mapM_ok hderived).mp hd
      obtain ⟨op, hop, heq⟩ := deriveOperation_revision hd
      rw [heq]
      refine updateOperationRevision_le hop fun p hp => ?_
      obtain ⟨-, s₀, hs₀, hp⟩ := earlier_operation hp
      exact (ih s₀ hs₀).2.operation p hp

/-! ## When normalization succeeds -/

theorem lopsided_perm {members members' : List SourceObservation} (h : members.Perm members') :
    Lopsided members ↔ Lopsided members' := by
  unfold Lopsided
  rw [h.countP_eq, h.countP_eq, h.length_eq]

section Run

variable (hvalid : ∀ o ∈ observations, o.validate H = .ok ())
  (hnodup : (observations.map (·.sourceObservationId)).Nodup) {k : Nat}
  (hreached : Reached H k observations previous) (hk : k + 1 < 2 ^ 32)
  (hnew : fresh.New H observations previous)
include hvalid hnodup hreached hk hnew

/-- An occurrence derives its operation unless it is made of a lopsided group. -/
theorem derive_ok_iff {o : HostOccurrence} {members : List SourceObservation}
    (hbuilt : Built H n (conflictingPartialRefs observations) (byIdOf observations).values o members) :
    (∃ d, deriveOperation n fresh (Earlier.of previous) (byIdOf observations) .empty o = .ok d) ↔
      ∀ key, members = exactMembers (byIdOf observations).values key →
        key.canonicalEventFamily.operationKind.isSome → ¬ Lopsided members := by
  have hm : ∀ x ∈ observations, CheckedObservation x := fun x hx => checkedObservation (hvalid x hx)
  have hprevious : ∀ s, previous = some s → CheckedSnapshot H s := fun s hs => (hreached.bounded s hs).1
  have hvalues := values_byIdOf hnodup
  have hmem : ∀ x ∈ members, x ∈ observations := fun x hx => hvalues.mem_iff.mp (hbuilt.mem x hx)
  obtain ⟨keys, hkeysnodup, hkeys, heq⟩ := @deriveOperation_eq _ n fresh _ _ hm hnodup hprevious _ _ hmem
    hbuilt.refs_eq .empty
  have hplay : InPlay H observations o.hostOccurrenceId := by
    obtain ⟨x, hx⟩ := List.exists_mem_of_ne_nil _ hbuilt.ne_nil
    exact ⟨x, hmem x hx, (hbuilt.id_eq x hx).symm⟩
  have hperm := sortByKey_perm (fun x : SourceObservation => x.sourceObservationId) members
  have hmembers : (members.map (·.sourceObservationId)).Nodup := by
    rcases hbuilt.origin with ⟨key, hkey, -⟩ | ⟨x, -, hx, -⟩
    · rw [hkey]
      exact ((hvalues.map _).nodup_iff.mpr hnodup).sublist (List.filter_sublist.map _)
    · rw [hx]
      simp
  -- the operation checks itself exactly when its pairing state fits
  have hcheck : ∀ kind, (operationFor n fresh (Earlier.of previous) o members none kind keys).validate = .ok () ↔
      (plainOperation n fresh (Earlier.of previous) o members none kind keys).contradictsPairing = false := by
    intro kind
    obtain ⟨revision, earlier, hrevision, hshape⟩ := @updateOperationRevision_eq
      (plainOperation n fresh (Earlier.of previous) o members none kind keys)
      ((Earlier.of previous).operations.get o.hostOccurrenceId) rfl (by
        intro p hp
        obtain ⟨-, s, hs, hmemop⟩ := earlier_operation hp
        have hle := (hreached.bounded s hs).2.operation p hmemop
        exact ⟨((hprevious s hs).operation p hmemop).1, by omega⟩)
    unfold operationFor
    rw [hshape]
    refine newOperation_validate ((hperm.map _).nodup_iff.mpr hmembers) (fun h => hbuilt.ne_nil ?_) (fun p hp => ?_)
      ?_ hrevision
    · rw [h] at hperm
      exact hperm.nil_eq.symm
    · cases hp
    · exact effectsOf_nodup hprevious hnew hplay hmem hkeysnodup fun key hkey => (hkeys key).mp hkey
  have hpairs : ∀ kind, PairsMembers (plainOperation n fresh (Earlier.of previous) o members none kind keys) members :=
    fun kind => newOperation_pairs hperm
  rw [heq, OrdMap.get_empty]
  cases hkind : operationKindOf o none with
  | none =>
    refine iff_of_true ⟨none, rfl⟩ fun key hkey hexec => ?_
    rcases hbuilt.origin with ⟨key', hkey', _, _, ho⟩ | ⟨x, hx, hmx, -⟩
    · -- the group has one key, so the family of `key` is that of the occurrence
      obtain ⟨x, hx⟩ := List.exists_mem_of_ne_nil _ hbuilt.ne_nil
      have h₁ : x.correlation.exactKey = some key := by
        have h := hx
        rw [hkey] at h
        simpa [exactMembers] using (List.mem_filter.mp h).2
      have h₂ : x.correlation.exactKey = some key' := by
        have h := hx
        rw [hkey'] at h
        simpa [exactMembers] using (List.mem_filter.mp h).2
      rw [h₁, Option.some.injEq] at h₂
      subst h₂
      rw [ho] at hkind
      simp [operationKindOf, withRevision, exactOccurrence] at hkind
      rw [hkind] at hexec
      cases hexec
    · have h : x ∈ exactMembers (byIdOf observations).values key := by rw [← hkey, hmx]; exact List.mem_singleton.mpr rfl
      simp [exactMembers, hx] at h
  | some kind =>
    have hok : (∃ d, checkedDerivation (operationFor n fresh (Earlier.of previous) o members none kind keys)
        (effectsOf fresh (Earlier.of previous) o.hostOccurrenceId members keys) = .ok d) ↔
        (plainOperation n fresh (Earlier.of previous) o members none kind keys).contradictsPairing = false := by
      rw [← hcheck kind]
      exact ⟨fun h => (checkedDerivation_ok.mp h.choose_spec).1, fun h => ⟨_, checkedDerivation_ok.mpr ⟨h, rfl⟩⟩⟩
    show (∃ d, checkedDerivation _ _ = .ok d) ↔ _
    rw [hok]
    rcases hbuilt.origin with ⟨key, hkey, _, _, ho⟩ | ⟨x, hx, hmx, _, _, ho⟩
    · have hstate : (plainOperation n fresh (Earlier.of previous) o members none kind keys).pairingState =
          pairingState members true := by
        show o.pairingState = _
        rw [ho]
        rfl
      have hexec : key.canonicalEventFamily.operationKind.isSome := by
        rw [ho] at hkind
        simp only [operationKindOf, withRevision, exactOccurrence, Option.bind_some, Option.map_none,
          Option.or_none] at hkind
        rw [hkind]
        rfl
      rw [← Bool.not_eq_true, contradictsPairing_exact (hpairs kind) hbuilt.ne_nil hstate]
      exact ⟨fun h _ _ _ => h, fun h => h key hkey hexec⟩
    · have hstate : (plainOperation n fresh (Earlier.of previous) o members none kind keys).pairingState =
          if executable x then pairingState [x] false else .notApplicable := by
        show o.pairingState = _
        rw [ho]
        rfl
      have hfits := contradictsPairing_nonexact (hmx ▸ hpairs kind) hstate
      refine iff_of_true hfits fun key _ _ hlopsided => ?_
      rw [hmx] at hlopsided
      exact absurd hlopsided.2.2 (by simp)

end Run

/-- **Normalization of valid observations fails exactly on a lopsided group.** The observations check
themselves, have distinct ids and carry no source-local evidence; the previous snapshot is what a chain of
fewer than `2 ^ 32 - 1` runs over parts of them left, if anything. -/
theorem normalize_ok_iff (H : Sha256) (n : PhysicalNormalizer) (fresh : FreshIds)
    (observations : List SourceObservation) (previous : Option NormalizationSnapshot) (k : Nat)
    (hvalid : ∀ o ∈ observations, o.validate H = .ok ())
    (hnodup : (observations.map (·.sourceObservationId)).Nodup)
    (hlocal : ∀ o ∈ observations, o.sourceLocalEvidence = none)
    (hreached : Reached H k observations previous) (hk : k + 1 < 2 ^ 32)
    (hnew : fresh.New H observations previous) (hcollision : NoCollision H observations) :
    (∃ s, normalize H n fresh observations previous = .ok s) ↔ Balanced observations := by
  have hm : ∀ x ∈ observations, CheckedObservation x := fun x hx => checkedObservation (hvalid x hx)
  have hprevious : ∀ s, previous = some s → CheckedSnapshot H s := fun s hs => (hreached.bounded s hs).1
  have hvalues := values_byIdOf hnodup
  have hmv : ∀ x ∈ (byIdOf observations).values, CheckedObservation x := fun x hx => hm x (hvalues.mem_iff.mp hx)
  have hnv : ((byIdOf observations).values.map (·.sourceObservationId)).Nodup := (hvalues.map _).nodup_iff.mpr hnodup
  have hexact : ∀ key, (exactMembers (byIdOf observations).values key).Perm (exactMembers observations key) :=
    fun key => hvalues.filter _
  have hcollect : collectById H .empty observations = .ok (byIdOf observations) :=
    collectById_eq hvalid hnodup fun _ _ => rfl
  refine ⟨fun ⟨s, hs⟩ key hexec hlopsided => ?_, fun hbalanced => ?_⟩
  · -- the occurrence of the group has no operation that checks itself
    obtain ⟨byId, logical, derived, hbyId, -, hbuild, hlogical, hderived, -, -⟩ := normalize_ok hs
    rw [hcollect, Except.ok.injEq] at hbyId
    subst hbyId
    rw [sourceLocalPairs_none hlocal, Except.ok.injEq] at hlogical
    subst hlogical
    have hne : exactMembers (byIdOf observations).values key ≠ [] := by
      intro hnil
      have hlen := (lopsided_perm (hexact key)).mpr hlopsided
      rw [hnil] at hlen
      exact absurd hlen.2.2 (by simp)
    obtain ⟨x, hx⟩ := List.exists_mem_of_ne_nil _ hne
    obtain ⟨hxv, hxk⟩ := List.mem_filter.mp hx
    obtain ⟨o, ho, members, hbuilt, hxm⟩ := (buildOccurrences_built hmv hbuild).2 x hxv
    have hmembers : members = exactMembers (byIdOf observations).values key := by
      rcases hbuilt.origin with ⟨key', hkey', -⟩ | ⟨y, hy, hmy, -⟩
      · rw [hkey'] at hxm ⊢
        have hx' := (List.mem_filter.mp hxm).2
        rw [decide_eq_true_eq] at hxk hx'
        rw [hxk, Option.some.injEq] at hx'
        rw [hx']
      · rw [hmy, List.mem_singleton] at hxm
        subst hxm
        rw [decide_eq_true_eq, hy] at hxk
        cases hxk
    have hderive := exists_mapM_ok.mp ⟨_, hderived⟩ o ho
    refine (derive_ok_iff hvalid hnodup hreached hk hnew hbuilt).mp hderive key hmembers hexec ?_
    rw [hmembers]
    exact (lopsided_perm (hexact key)).mpr hlopsided
  · have hcounts : ∀ id, CountsOn H ((Earlier.of previous).occurrences.get id) := by
      intro id p hp
      obtain ⟨-, s, hs, hmem⟩ := earlier_occurrence hp
      have hle := (hreached.bounded s hs).2.occurrence p hmem
      exact ⟨(hprevious s hs).occurrence p hmem, by omega⟩
    obtain ⟨occurrences, hbuild⟩ := @buildOccurrences_ok _ n (conflictingPartialRefs observations) _ _
      hmv hnv hcounts
    obtain ⟨hbuilts, -⟩ := buildOccurrences_built hmv hbuild
    have hderived : ∃ derived, occurrences.mapM (deriveOperation n fresh (Earlier.of previous)
        (byIdOf observations) .empty) = .ok derived := by
      refine exists_mapM_ok.mpr fun o ho => ?_
      obtain ⟨members, hbuilt⟩ := hbuilts o ho
      refine (derive_ok_iff hvalid hnodup hreached hk hnew hbuilt).mpr fun key hkey hexec hlopsided => ?_
      rw [hkey] at hlopsided
      exact hbalanced key hexec ((lopsided_perm (hexact key)).mp hlopsided)
    obtain ⟨derived, hderived⟩ := hderived
    have hocc : (occurrences.map (·.hostOccurrenceId)).Nodup := by
      refine buildOccurrences_nodup hmv hnv (fun a ha b hb hid => ?_) hbuild
      exact hcollision.occurrenceIdOf_inj hm (hvalues.mem_iff.mp ha) (hvalues.mem_iff.mp hb) hid
    have hfacts : ∀ o ∈ occurrences, ∀ d, deriveOperation n fresh (Earlier.of previous) (byIdOf observations) .empty o =
        .ok (some d) → d.1.hostOccurrenceId = o.hostOccurrenceId ∧ Derived H fresh observations previous d := by
      intro o ho d hd
      obtain ⟨members, hbuilt⟩ := hbuilts o ho
      exact derived_of_built hm hnodup hprevious hnew (fun x hx => hvalues.mem_iff.mp hx) hbuilt hd
    have hds : ∀ d ∈ derived.reduceOption, ∃ o ∈ occurrences, d.1.hostOccurrenceId = o.hostOccurrenceId ∧
        Derived H fresh observations previous d := by
      intro d hd
      rw [List.reduceOption_mem_iff] at hd
      obtain ⟨o, ho, hd⟩ := (mem_mapM_ok hderived).mp hd
      exact ⟨o, ho, hfacts o ho d hd⟩
    have hhosts : (derived.reduceOption.map (·.1.hostOccurrenceId)).Nodup :=
      hocc.sublist (reduceOption_sublist hderived fun o ho d hd => (hfacts o ho d hd).1)
    have hchecked := snapshot_checked hprevious hnew (fun d hd => (hds d hd).choose_spec.2.2) hhosts hocc
      (fun o ho => (hbuilts o ho).choose_spec.valid) fun d hd => by
        obtain ⟨o, ho, hhost, -⟩ := hds d hd
        exact hhost ▸ List.mem_map_of_mem ho
    refine ⟨{
      occurrences
      operations := sortByKey (·.operationId) (derived.reduceOption.map Prod.fst)
      scopeEffects := sortByKey (·.scopeEffectId) (derived.reduceOption.flatMap Prod.snd) }, ?_⟩
    unfold L2.Normalize.normalize
    refine bind_eq_ok.mpr ⟨_, hcollect, bind_eq_ok.mpr ⟨(), forM_eq_ok.mpr fun s hs => ?_, ?_⟩⟩
    · exact snapshot_validate_iff.mpr (hprevious s (Option.mem_toList.mp hs))
    · refine bind_eq_ok.mpr ⟨_, hbuild, bind_eq_ok.mpr ⟨_, sourceLocalPairs_none hlocal _, ?_⟩⟩
      refine bind_eq_ok.mpr ⟨_, hderived, bind_eq_ok.mpr ⟨(), snapshot_validate_iff.mpr hchecked, rfl⟩⟩

/-! ## Two observations that block the batch -/

def sampleIntent : SourceObservation := intentRecord exactCorrelation

def sampleProbe : SourceObservation := sampleObservation "probe" (exactCorrelation .stateProbe)
  0xfa6fd4ad398b30c2af6ceb2aa7f44fb73765ea223ad1630f1164f0f72f5ebd92
  0x9632680e76dd0c4acb3482fd91fd2742b191ff3176ec97a8ecf41d896bd49faf

theorem samples_valid : sampleIntent.validate sampleSha = .ok () ∧ sampleProbe.validate sampleSha = .ok () := by
  rw [← isOk_iff, ← isOk_iff]
  decide +kernel

/-- **Counterexample**: an intent and a state probe of one call, both valid, and normalization fails. -/
theorem probed_intent_blocks :
    (∀ o ∈ [sampleIntent, sampleProbe], o.validate sampleSha = .ok () ∧ o.sourceLocalEvidence = none) ∧
      ([sampleIntent, sampleProbe].map (·.sourceObservationId)).Nodup ∧
      normalize sampleSha sampleNormalizer sampleFresh [sampleIntent, sampleProbe] none = .error .invalidResult := by
  refine ⟨?_, by decide, ?_⟩
  · intro o ho
    rcases List.mem_cons.mp ho with rfl | ho
    · exact ⟨samples_valid.1, rfl⟩
    · rw [List.mem_singleton.mp ho]
      exact ⟨samples_valid.2, rfl⟩
  · decide +kernel

/-- The intent alone normalizes. -/
theorem lone_intent_normalizes :
    ∃ s, normalize sampleSha sampleNormalizer sampleFresh [sampleIntent] none = .ok s := by
  have hone : ∀ {o : SourceObservation}, o ∈ [sampleIntent] → o = sampleIntent := fun h => List.mem_singleton.mp h
  refine (normalize_ok_iff sampleSha sampleNormalizer sampleFresh [sampleIntent] none 0 (fun o ho => ?_) (by simp)
    (fun o ho => ?_) .first (by decide) ⟨?_, ?_, ?_, ?_⟩ ?_).mpr fun key _ hlopsided => ?_
  · rw [hone ho]
    exact samples_valid.1
  · rw [hone ho]
    rfl
  · rintro h h' ⟨o, ho, rfl⟩ ⟨o', ho', rfl⟩ _
    rw [hone ho, hone ho']
  · intro _ _ s hs
    cases hs
  · rintro _ _ k _ _ _ ⟨o, ho, claim, hclaim, -⟩
    rw [hone ho] at hclaim
    cases hclaim
  · intro _ _ _ _ s hs
    cases hs
  · intro a ha b hb e f he hf _
    rw [hone ha] at he
    rw [hone hb, he] at hf
    exact Except.ok.inj hf
  · have hlen : (exactMembers [sampleIntent] key).length ≤ [sampleIntent].length := List.length_filter_le _ _
    have hmany := hlopsided.2.2
    simp only [List.length_singleton] at hlen
    omega

end EverTrace.Bugs.LopsidedGroup
