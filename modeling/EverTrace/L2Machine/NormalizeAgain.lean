import EverTrace.L2Machine.NormalizePartition
/-!
# A run on top of its own result

The occurrences of a run come back when the run is made again with its result as
the earlier snapshot: each finds itself there and keeps its revision. So does the
operation of an occurrence when the occurrence carries the same source-local
pairing: its id, its effects and its revision are all found in the result, and
nothing is drawn. What is left is the pairings.

Result: `Run.again_iff`.
-/
namespace EverTrace.L2.Normalize
open EverTrace.Lib EverTrace.L1 EverTrace.L1.Canonical EverTrace.L2.Work EverTrace.L2.Evidence

variable {H : Sha256} {n : PhysicalNormalizer} {fresh fresh' : FreshIds} {observations : List SourceObservation}
  {previous : Option NormalizationSnapshot} {out : NormalizationSnapshot}

/-! ## Occurrences -/

/-- Counting on from the occurrence itself changes nothing. -/
theorem updateOccurrenceRevision_self (current : HostOccurrence) (revision : UInt32) (earlier : Option UInt32) :
    updateOccurrenceRevision current (some (withRevision current revision earlier)) =
      withRevision current revision earlier :=
  if_pos rfl

section Occurrences

variable {refs : List String} {earlier earlier' : OrdMap HostOccurrenceId HostOccurrence}

theorem buildExactOccurrence_again {group : HostOccurrenceExactKey × List SourceObservation} {o : HostOccurrence}
    (h : buildExactOccurrence H n earlier group = .ok o) (hget : earlier'.get o.hostOccurrenceId = some o) :
    buildExactOccurrence H n earlier' group = .ok o := by
  unfold buildExactOccurrence at h ⊢
  obtain ⟨id, hid, h⟩ := bind_eq_ok.mp h
  obtain ⟨_, hvalid, h⟩ := bind_eq_ok.mp h
  cases h
  obtain ⟨revision, before, hshape⟩ := updateOccurrenceRevision_shape (exactOccurrence n id group.1 group.2)
    (earlier.get id) rfl
  rw [hshape] at hvalid hget ⊢
  have hfound : earlier'.get id = some (withRevision (exactOccurrence n id group.1 group.2) revision before) := hget
  refine bind_eq_ok.mpr ⟨id, hid, ?_⟩
  rw [hfound, updateOccurrenceRevision_self]
  exact bind_eq_ok.mpr ⟨(), hvalid, rfl⟩

theorem buildNonexactOccurrence_again {x : SourceObservation} {o : HostOccurrence}
    (h : buildNonexactOccurrence H n refs earlier x = .ok o) (hget : earlier'.get o.hostOccurrenceId = some o) :
    buildNonexactOccurrence H n refs earlier' x = .ok o := by
  unfold buildNonexactOccurrence at h ⊢
  obtain ⟨id, hid, h⟩ := bind_eq_ok.mp h
  obtain ⟨_, hvalid, h⟩ := bind_eq_ok.mp h
  cases h
  obtain ⟨revision, before, hshape⟩ := updateOccurrenceRevision_shape
    (nonexactOccurrence n id (nonexactStrength refs x) x) (earlier.get id) rfl
  rw [hshape] at hvalid hget ⊢
  have hfound : earlier'.get id =
      some (withRevision (nonexactOccurrence n id (nonexactStrength refs x) x) revision before) := hget
  refine bind_eq_ok.mpr ⟨id, hid, ?_⟩
  dsimp only
  rw [hfound, updateOccurrenceRevision_self]
  exact bind_eq_ok.mpr ⟨(), hvalid, rfl⟩

theorem buildOccurrences_again {values : List SourceObservation} {occurrences : List HostOccurrence}
    (h : buildOccurrences H n refs earlier values = .ok occurrences)
    (hget : ∀ o ∈ occurrences, earlier'.get o.hostOccurrenceId = some o) :
    buildOccurrences H n refs earlier' values = .ok occurrences := by
  unfold buildOccurrences at h ⊢
  obtain ⟨exact, hexact, h⟩ := bind_eq_ok.mp h
  obtain ⟨nonexact, hnonexact, h⟩ := bind_eq_ok.mp h
  cases h
  have hfind : ∀ o, o ∈ exact ∨ o ∈ nonexact → earlier'.get o.hostOccurrenceId = some o := fun o ho =>
    hget o ((sortByKey_perm _ _).mem_iff.mpr (List.mem_append.mpr ho))
  refine bind_eq_ok.mpr ⟨exact, ?_, bind_eq_ok.mpr ⟨nonexact, ?_, rfl⟩⟩
  · exact mapM_ok_congr hexact fun group _ o ho hbuild => buildExactOccurrence_again hbuild (hfind o (.inl ho))
  · exact mapM_ok_congr hnonexact fun x _ o ho hbuild => buildNonexactOccurrence_again hbuild (hfind o (.inr ho))

end Occurrences

/-! ## Operations -/

theorem updateOperationRevision_self (op : Operation) (revision : UInt32) (earlier : Option UInt32) :
    updateOperationRevision op (some (withOperationRevision op revision earlier)) =
      withOperationRevision op revision earlier :=
  if_pos rfl

theorem effectFor_subject {effects : List ScopeEffect} {newId : ScopeClaimKey → ScopeEffectId} {op : OperationId}
    (claim : ScopeEffectClaim) :
    (effectFor effects newId op claim).operationId = op ∧ effectSubject (effectFor effects newId op claim) = subject claim := by
  unfold effectFor
  cases hfind : effects.find? fun effect => effect.operationId == op && effectMatchesClaim effect claim with
  | none => exact ⟨rfl, rfl⟩
  | some e =>
    have hmatch := List.find?_some hfind
    rw [Bool.and_eq_true, beq_iff_eq, effectMatchesClaim_iff] at hmatch
    exact hmatch

/-- An effect that is the only one of its operation about its subject is kept. -/
theorem effectFor_eq_of_unique {effects : List ScopeEffect} {newId : ScopeClaimKey → ScopeEffectId}
    {claim : ScopeEffectClaim} {e : ScopeEffect} (he : e ∈ effects) (hsubject : effectSubject e = subject claim)
    (hunique : ∀ e' ∈ effects, e'.operationId = e.operationId → effectSubject e' = effectSubject e → e' = e) :
    effectFor effects newId e.operationId claim = e := by
  unfold effectFor
  cases hfind : effects.find? fun effect => effect.operationId == e.operationId && effectMatchesClaim effect claim with
  | none =>
    have hmiss := List.find?_eq_none.mp hfind e he
    rw [Bool.and_eq_true, beq_iff_eq, effectMatchesClaim_iff] at hmiss
    exact absurd ⟨rfl, hsubject⟩ hmiss
  | some e' =>
    have hmatch := List.find?_some hfind
    rw [Bool.and_eq_true, beq_iff_eq, effectMatchesClaim_iff, ← hsubject] at hmatch
    exact hunique e' (List.mem_of_find?_eq_some hfind) hmatch.1 hmatch.2

theorem mergeScopeClaims_nodup {members : List SourceObservation} {claims : List ScopeEffectClaim}
    (h : mergeScopeClaims members = .ok claims) : (claims.map subject).Nodup := by
  unfold mergeScopeClaims at h
  obtain ⟨merged, -, h⟩ := bind_eq_ok.mp h
  cases h
  rw [List.map_map]
  exact merged.nodup_keys

theorem derived_shape {earlier : Earlier} {byId : OrdMap SourceObservationId SourceObservation}
    {logical : OrdMap HostOccurrenceId SourceLocalPairing} {o : HostOccurrence} {d : Operation × List ScopeEffect}
    (h : deriveOperation n fresh earlier byId logical o = .ok (some d)) :
    ∃ members kind claims, o.sourceObservationRefs.mapM (fun id => okOr NormalizeError.invalidResult (byId.get id)) =
        .ok members ∧
      operationKindOf o (logical.get o.hostOccurrenceId) = some kind ∧ mergeScopeClaims members = .ok claims ∧
      d.2 = sortByKey (·.scopeEffectId) (claims.map (effectFor earlier.effects (fresh.scopeEffect o.hostOccurrenceId)
        (operationIdOf fresh earlier o.hostOccurrenceId))) ∧
      ∃ revision before, d.1 = withOperationRevision (newOperation n o members (logical.get o.hostOccurrenceId) kind
        (operationIdOf fresh earlier o.hostOccurrenceId) d.2) revision before := by
  obtain ⟨members, hmembers, ⟨-, h⟩ | ⟨kind, claims, effects, hkind, hclaims, heffects, h⟩⟩ := deriveOperation_ok.mp h
  · cases h
  · obtain ⟨-, h⟩ := checkedDerivation_ok.mp h
    cases h
    have hmade : effects.map id = claims.map (effectFor earlier.effects (fresh.scopeEffect o.hostOccurrenceId)
        (operationIdOf fresh earlier o.hostOccurrenceId)) := by
      refine map_mapM_ok heffects fun claim _ e he => ?_
      unfold deriveEffect at he
      obtain ⟨_, -, he⟩ := bind_eq_ok.mp he
      cases he
      rfl
    rw [List.map_id] at hmade
    refine ⟨members, kind, claims, hmembers, hkind, hclaims, congrArg _ hmade, ?_⟩
    exact updateOperationRevision_shape _ _ rfl

/-- The effects of an operation belong to it, and no two are about the same. -/
theorem derived_effects {earlier : Earlier} {byId : OrdMap SourceObservationId SourceObservation}
    {logical : OrdMap HostOccurrenceId SourceLocalPairing} {o : HostOccurrence} {d : Operation × List ScopeEffect}
    (h : deriveOperation n fresh earlier byId logical o = .ok (some d)) :
    (∀ e ∈ d.2, e.operationId = d.1.operationId) ∧ (d.2.map effectSubject).Nodup := by
  obtain ⟨-, hid, -⟩ := derived_operation h
  obtain ⟨members, kind, claims, -, -, hclaims, heffects, -⟩ := derived_shape h
  rw [heffects, hid]
  constructor
  · intro e he
    obtain ⟨claim, -, rfl⟩ := List.mem_map.mp ((sortByKey_perm _ _).mem_iff.mp he)
    exact (effectFor_subject claim).1
  · rw [((sortByKey_perm _ _).map _).nodup_iff, List.map_map]
    have hsubjects : claims.map (effectSubject ∘ effectFor earlier.effects (fresh.scopeEffect o.hostOccurrenceId)
        (operationIdOf fresh earlier o.hostOccurrenceId)) = claims.map subject :=
      List.map_congr_left fun claim _ => (effectFor_subject claim).2
    rw [hsubjects]
    exact mergeScopeClaims_nodup hclaims

namespace Run

variable {logical logical' : OrdMap HostOccurrenceId SourceLocalPairing}
  {derived derived' : List (Option (Operation × List ScopeEffect))}
  (h : Run H n fresh observations previous out logical derived)
include h

theorem earlier_occurrence {o : HostOccurrence} (ho : o ∈ out.occurrences) :
    (Earlier.of (some out)).occurrences.get o.hostOccurrenceId = some o := by
  refine OrdMap.get_insertAll_of_mem ?_ (List.mem_map.mpr ⟨o, by simpa using ho, rfl⟩)
  simpa [List.map_map, Function.comp_def] using h.snapshot.occurrences_nodup

theorem earlier_operation {op : Operation} (hop : op ∈ out.operations) :
    (Earlier.of (some out)).operations.get op.hostOccurrenceId = some op := by
  refine OrdMap.get_insertAll_of_mem ?_ (List.mem_map.mpr ⟨op, by simpa using hop, rfl⟩)
  simpa [List.map_map, Function.comp_def] using h.hosts_nodup

theorem mem_effects {e : ScopeEffect} : e ∈ out.scopeEffects ↔ ∃ o ∈ out.occurrences, ∃ d,
    deriveOperation n fresh (Earlier.of previous) (byIdOf observations) logical o = .ok (some d) ∧ e ∈ d.2 := by
  rw [h.effects, (sortByKey_perm _ _).mem_iff, List.mem_flatMap]
  constructor
  · rintro ⟨d, hd, he⟩
    rw [List.reduceOption_mem_iff, mem_mapM_ok h.derives] at hd
    obtain ⟨o, ho, hd⟩ := hd
    exact ⟨o, ho, d, hd, he⟩
  · rintro ⟨o, ho, d, hd, he⟩
    refine ⟨d, ?_, he⟩
    rw [List.reduceOption_mem_iff, mem_mapM_ok h.derives]
    exact ⟨o, ho, hd⟩

theorem effects_of {o : HostOccurrence} (ho : o ∈ out.occurrences) {d : Operation × List ScopeEffect}
    (hd : deriveOperation n fresh (Earlier.of previous) (byIdOf observations) logical o = .ok (some d))
    {e : ScopeEffect} : e ∈ out.scopeEffects ∧ e.operationId = d.1.operationId ↔ e ∈ d.2 := by
  constructor
  · rintro ⟨he, hop⟩
    obtain ⟨o', ho', d', hd', he⟩ := h.mem_effects.mp he
    rw [(derived_effects hd').1 e he] at hop
    have hops : d'.1 = d.1 := List.inj_on_of_nodup_map h.snapshot.operations_nodup
      (h.mem_operations.mpr ⟨o', ho', d'.2, hd'⟩) (h.mem_operations.mpr ⟨o, ho, d.2, hd⟩) hop
    have hhost : o' = o := by
      refine h.eq_of_id ho' ho ?_
      rw [← (derived_operation hd').1, ← (derived_operation hd).1, hops]
    rw [hhost, hd, Except.ok.injEq, Option.some.injEq] at hd'
    rw [hd']
    exact he
  · intro he
    exact ⟨h.mem_effects.mpr ⟨o, ho, d, hd, he⟩, (derived_effects hd).1 e he⟩

theorem effects_unique {e e' : ScopeEffect} (he : e ∈ out.scopeEffects) (he' : e' ∈ out.scopeEffects)
    (hop : e'.operationId = e.operationId) (hsubject : effectSubject e' = effectSubject e) : e' = e := by
  obtain ⟨o, ho, d, hd, hmem⟩ := h.mem_effects.mp he
  have hmem' : e' ∈ d.2 := (h.effects_of ho hd).mp ⟨he', hop.trans ((derived_effects hd).1 e hmem)⟩
  exact List.inj_on_of_nodup_map (derived_effects hd).2 hmem' hmem hsubject

/-- **An occurrence with the same pairing derives the same operation**, whatever ids are drawn. -/
theorem derive_again {o : HostOccurrence} (ho : o ∈ out.occurrences) {d : Option (Operation × List ScopeEffect)}
    (hd : deriveOperation n fresh (Earlier.of previous) (byIdOf observations) logical o = .ok d)
    (hsame : logical'.get o.hostOccurrenceId = logical.get o.hostOccurrenceId) :
    deriveOperation n fresh' (Earlier.of (some out)) (byIdOf observations) logical' o = .ok d := by
  obtain ⟨members, hmembers, hcase⟩ := deriveOperation_ok.mp hd
  refine deriveOperation_ok.mpr ⟨members, hmembers, ?_⟩
  rw [hsame]
  rcases hcase with ⟨hkind, hnone⟩ | ⟨kind, claims, effects, hkind, hclaims, heffects, hchecked⟩
  · exact .inl ⟨hkind, hnone⟩
  · obtain ⟨hvalid, rfl⟩ := checkedDerivation_ok.mp hchecked
    obtain ⟨hhost, hid, -⟩ := derived_operation hd
    dsimp only at hhost hid
    have hop := h.mem_operations.mpr ⟨o, ho, _, hd⟩
    have hfound := h.earlier_operation hop
    rw [hhost] at hfound
    have hids : operationIdOf fresh' (Earlier.of (some out)) o.hostOccurrenceId =
        operationIdOf fresh (Earlier.of previous) o.hostOccurrenceId := by
      rw [← hid]
      unfold operationIdOf
      rw [hfound]
      rfl
    refine .inr ⟨kind, claims, effects, hkind, hclaims, ?_, ?_⟩
    · -- each effect is in the result, alone with its operation and subject
      refine mapM_ok_congr heffects fun claim hclaim e he heff => ?_
      unfold deriveEffect at heff ⊢
      obtain ⟨_, hevalid, heff⟩ := bind_eq_ok.mp heff
      cases heff
      set e := effectFor (Earlier.of previous).effects (fresh.scopeEffect o.hostOccurrenceId)
        (operationIdOf fresh (Earlier.of previous) o.hostOccurrenceId) claim with hedef
      obtain ⟨heop, hesubject⟩ := @effectFor_subject (Earlier.of previous).effects
        (fresh.scopeEffect o.hostOccurrenceId) (operationIdOf fresh (Earlier.of previous) o.hostOccurrenceId) claim
      rw [← hedef] at heop hesubject
      have hmem : e ∈ out.scopeEffects := h.mem_effects.mpr ⟨o, ho, _, hd, (sortByKey_perm _ _).mem_iff.mpr he⟩
      have heq : effectFor (Earlier.of (some out)).effects (fresh'.scopeEffect o.hostOccurrenceId)
          (operationIdOf fresh' (Earlier.of (some out)) o.hostOccurrenceId) claim = e := by
        rw [hids, ← heop]
        exact effectFor_eq_of_unique (earlier_effects.mpr ⟨out, rfl, hmem⟩) hesubject fun e' he' => by
          obtain ⟨s, hs, he'⟩ := earlier_effects.mp he'
          cases hs
          exact h.effects_unique hmem he'
      rw [heq]
      exact bind_eq_ok.mpr ⟨(), hevalid, rfl⟩
    · obtain ⟨revision, before, hshape⟩ := updateOperationRevision_shape (newOperation n o members
        (logical.get o.hostOccurrenceId) kind (operationIdOf fresh (Earlier.of previous) o.hostOccurrenceId)
        (sortByKey (·.scopeEffectId) effects)) ((Earlier.of previous).operations.get o.hostOccurrenceId) rfl
      rw [hids, hfound, hshape, updateOperationRevision_self, ← hshape]
      exact hchecked

/-- The pairing of an occurrence is that of its operation. -/
theorem get_logical {o : HostOccurrence} (ho : o ∈ out.occurrences) {pairing : SourceLocalPairing} :
    logical.get o.hostOccurrenceId = some pairing ↔ ∃ op ∈ out.operations, op.hostOccurrenceId = o.hostOccurrenceId ∧
      op.sourceLocalPairing = some pairing := by
  constructor
  · intro hget
    obtain ⟨d, hd⟩ := exists_mapM_ok.mp ⟨_, h.derives⟩ o ho
    cases d with
    | none =>
      obtain ⟨members, -, ⟨hkind, -⟩ | ⟨_, _, _, -, -, -, hchecked⟩⟩ := deriveOperation_ok.mp hd
      · rw [operationKindOf, hget, Option.or_eq_none_iff] at hkind
        cases hkind.2
      · cases (checkedDerivation_ok.mp hchecked).2
    | some d =>
      obtain ⟨hhost, -, hpairing⟩ := derived_operation hd
      exact ⟨d.1, h.mem_operations.mpr ⟨o, ho, d.2, hd⟩, hhost, hpairing.trans hget⟩
  · rintro ⟨op, hop, hhost, hpairing⟩
    obtain ⟨effects, hd⟩ := h.derives_of_host ho hop hhost
    rw [← (derived_operation hd).2.2]
    exact hpairing

/-- **A run on top of itself changes nothing exactly when its occurrences get the same pairings.** -/
theorem again_iff : normalize H n fresh' observations (some out) = .ok out ↔
    ∃ logical', sourceLocalPairs observations out.occurrences (some out) = .ok logical' ∧
      ∀ o ∈ out.occurrences, logical'.get o.hostOccurrenceId = logical.get o.hostOccurrenceId := by
  rw [normalize_iff]
  constructor
  · rintro ⟨logical', derived', hagain⟩
    refine ⟨logical', hagain.pairs, fun o ho => Option.ext fun pairing => ?_⟩
    rw [hagain.get_logical ho, h.get_logical ho]
  · rintro ⟨logical', hpairs, hsame⟩
    refine ⟨logical', derived, h.valid, h.nodup, fun s hs => ?_, ?_, hpairs, ?_, h.operations, h.effects, h.snapshot⟩
    · cases hs
      exact h.snapshot
    · exact buildOccurrences_again h.built fun o ho => h.earlier_occurrence ho
    · exact mapM_ok_congr h.derives fun o ho d _ hd => h.derive_again ho hd (hsame o ho)

end Run

end EverTrace.L2.Normalize
