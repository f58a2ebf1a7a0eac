import EverTrace.L2Machine.NormalizeOperations
/-!
# What every run of the normalizer gives

Whatever the earlier snapshot, a run that succeeds puts each observation into
one occurrence, two observations into the same one exactly when their exact keys
are the same, and each executable occurrence has one operation whose inputs and
results are its observations. Without source-local evidence the order of the
observations does not matter.

Results: `normalize_partitions`, `normalize_perm`.
-/
namespace EverTrace.L2.Normalize
open EverTrace.Lib EverTrace.L1 EverTrace.L1.Canonical EverTrace.L2.Work EverTrace.L2.Evidence

/-- The observations of a run are divided among its occurrences, and those of an occurrence among the inputs
and results of its operation. -/
structure Partitions (observations : List SourceObservation) (out : NormalizationSnapshot) : Prop where
  covered : ∀ o ∈ out.occurrences, ∀ id ∈ o.sourceObservationRefs, ∃ x ∈ observations, x.sourceObservationId = id
  one : ∀ x ∈ observations, ∃! o, o ∈ out.occurrences ∧ x.sourceObservationId ∈ o.sourceObservationRefs
  shared : ∀ x ∈ observations, ∀ y ∈ observations, x ≠ y →
    ((∃ o ∈ out.occurrences, x.sourceObservationId ∈ o.sourceObservationRefs ∧
      y.sourceObservationId ∈ o.sourceObservationRefs) ↔
        ∃ key, x.correlation.exactKey = some key ∧ y.correlation.exactKey = some key)
  /-- at most one operation, and one when the family is executable -/
  operations : ∀ o ∈ out.occurrences,
    (out.operations.filter fun op => op.hostOccurrenceId = o.hostOccurrenceId).length ≤ 1 ∧
      ((o.canonicalEventFamily.bind CanonicalEventFamily.operationKind).isSome →
        (out.operations.filter fun op => op.hostOccurrenceId = o.hostOccurrenceId).length = 1)
  members : ∀ o ∈ out.occurrences, ∀ op ∈ out.operations, op.hostOccurrenceId = o.hostOccurrenceId →
    (op.inputSourceObservationRefs ++ op.resultSourceObservationRefs).Perm o.sourceObservationRefs

variable {H : Sha256} {n : PhysicalNormalizer} {fresh : FreshIds} {observations : List SourceObservation}
  {previous : Option NormalizationSnapshot} {out : NormalizationSnapshot}

/-! ## The parts of a run -/

/-- The stages of a run that succeeds. -/
structure Run (H : Sha256) (n : PhysicalNormalizer) (fresh : FreshIds) (observations : List SourceObservation)
    (previous : Option NormalizationSnapshot) (out : NormalizationSnapshot)
    (logical : OrdMap HostOccurrenceId SourceLocalPairing) (derived : List (Option (Operation × List ScopeEffect))) :
    Prop where
  valid : ∀ o ∈ observations, o.validate H = .ok ()
  nodup : (observations.map (·.sourceObservationId)).Nodup
  earlier : ∀ s, previous = some s → CheckedSnapshot H s
  built : buildOccurrences H n (conflictingPartialRefs observations) (Earlier.of previous).occurrences
    (byIdOf observations).values = .ok out.occurrences
  pairs : sourceLocalPairs observations out.occurrences previous = .ok logical
  derives : out.occurrences.mapM (deriveOperation n fresh (Earlier.of previous) (byIdOf observations) logical) =
    .ok derived
  operations : out.operations = sortByKey (·.operationId) (derived.reduceOption.map Prod.fst)
  effects : out.scopeEffects = sortByKey (·.scopeEffectId) (derived.reduceOption.flatMap Prod.snd)
  snapshot : CheckedSnapshot H out

theorem collectById_ok : ∀ {observations : List SourceObservation} {byId r : OrdMap SourceObservationId SourceObservation},
    collectById H byId observations = .ok r → (∀ o ∈ observations, o.validate H = .ok ()) ∧
      (observations.map (·.sourceObservationId)).Nodup ∧
      (∀ o ∈ observations, byId.get o.sourceObservationId = none) ∧
      r = byId.insertAll (observations.map fun o => (o.sourceObservationId, o)) := by
  intro observations
  induction observations with
  | nil =>
    intro byId r h
    cases h
    exact ⟨by simp, .nil, by simp, rfl⟩
  | cons o rest ih =>
    intro byId r h
    unfold collectById at h
    obtain ⟨_, hvalid, h⟩ := bind_eq_ok.mp h
    obtain ⟨hfree, h⟩ := ensure_bind_ok.mp h
    obtain ⟨hrest, hnodup, hnew, hr⟩ := ih h
    have hne : ∀ x ∈ rest, x.sourceObservationId ≠ o.sourceObservationId := by
      intro x hx heq
      have hget := hnew x hx
      rw [heq, OrdMap.get_insert_self] at hget
      cases hget
    refine ⟨List.forall_mem_cons.mpr ⟨mapError_ok.mp hvalid, hrest⟩, ?_, ?_, hr⟩
    · rw [List.map_cons, List.nodup_cons]
      refine ⟨fun hmem => ?_, hnodup⟩
      obtain ⟨x, hx, heq⟩ := List.mem_map.mp hmem
      exact hne x hx heq
    · refine List.forall_mem_cons.mpr ⟨Option.isNone_iff_eq_none.mp hfree, fun x hx => ?_⟩
      have hget := hnew x hx
      rw [OrdMap.get_insert_of_ne _ _ (hne x hx)] at hget
      exact hget

theorem normalize_iff : normalize H n fresh observations previous = .ok out ↔
    ∃ logical derived, Run H n fresh observations previous out logical derived := by
  constructor
  · intro h
    obtain ⟨byId, logical, derived, hbyId, hprevious, hbuild, hlogical, hderived, hout, hvalid⟩ := normalize_ok h
    obtain ⟨hchecked, hnodup, -, rfl⟩ := collectById_ok hbyId
    refine ⟨logical, derived, hchecked, hnodup, fun s hs => snapshot_validate_iff.mp (hprevious s hs), hbuild, hlogical,
      hderived, ?_, ?_, snapshot_validate_iff.mp hvalid⟩
    · exact congrArg NormalizationSnapshot.operations hout
    · exact congrArg NormalizationSnapshot.scopeEffects hout
  · rintro ⟨logical, derived, h⟩
    unfold Normalize.normalize
    refine bind_eq_ok.mpr ⟨_, collectById_eq h.valid h.nodup fun _ _ => rfl, bind_eq_ok.mpr ⟨(), ?_, ?_⟩⟩
    · exact forM_eq_ok.mpr fun s hs => snapshot_validate_iff.mpr (h.earlier s (Option.mem_toList.mp hs))
    · refine bind_eq_ok.mpr ⟨_, h.built, bind_eq_ok.mpr ⟨_, h.pairs, bind_eq_ok.mpr ⟨_, h.derives, ?_⟩⟩⟩
      rw [← h.operations, ← h.effects]
      exact bind_eq_ok.mpr ⟨(), snapshot_validate_iff.mpr h.snapshot, rfl⟩

/-- What the derivation of an occurrence has computed: nothing, or an operation of its members. -/
theorem deriveOperation_ok {earlier : Earlier} {byId : OrdMap SourceObservationId SourceObservation}
    {logical : OrdMap HostOccurrenceId SourceLocalPairing} {o : HostOccurrence}
    {d : Option (Operation × List ScopeEffect)} :
    deriveOperation n fresh earlier byId logical o = .ok d ↔
      ∃ members, o.sourceObservationRefs.mapM (fun id => okOr NormalizeError.invalidResult (byId.get id)) = .ok members ∧
        ((operationKindOf o (logical.get o.hostOccurrenceId) = none ∧ d = none) ∨
          ∃ kind claims effects, operationKindOf o (logical.get o.hostOccurrenceId) = some kind ∧
            mergeScopeClaims members = .ok claims ∧
            claims.mapM (deriveEffect earlier.effects (fresh.scopeEffect o.hostOccurrenceId)
              (operationIdOf fresh earlier o.hostOccurrenceId)) = .ok effects ∧
            checkedDerivation (updateOperationRevision (newOperation n o members (logical.get o.hostOccurrenceId) kind
              (operationIdOf fresh earlier o.hostOccurrenceId) (sortByKey (·.scopeEffectId) effects))
              (earlier.operations.get o.hostOccurrenceId)) (sortByKey (·.scopeEffectId) effects) = .ok d) := by
  unfold deriveOperation
  rw [bind_eq_ok]
  refine exists_congr fun members => and_congr_right fun _ => ?_
  dsimp only
  cases hkind : operationKindOf o (logical.get o.hostOccurrenceId) with
  | none =>
    simp only [pure_eq_ok, true_and, reduceCtorEq, false_and, exists_false, or_false]
    exact eq_comm
  | some kind =>
    simp only [reduceCtorEq, false_and, false_or, Option.some.injEq]
    constructor
    · intro h
      obtain ⟨claims, hclaims, h⟩ := bind_eq_ok.mp h
      obtain ⟨effects, heffects, h⟩ := bind_eq_ok.mp h
      exact ⟨kind, claims, effects, rfl, hclaims, heffects, h⟩
    · rintro ⟨_, claims, effects, rfl, hclaims, heffects, h⟩
      exact bind_eq_ok.mpr ⟨claims, hclaims, bind_eq_ok.mpr ⟨effects, heffects, h⟩⟩

theorem derived_operation {earlier : Earlier} {byId : OrdMap SourceObservationId SourceObservation}
    {logical : OrdMap HostOccurrenceId SourceLocalPairing} {o : HostOccurrence} {d : Operation × List ScopeEffect}
    (h : deriveOperation n fresh earlier byId logical o = .ok (some d)) :
    d.1.hostOccurrenceId = o.hostOccurrenceId ∧ d.1.operationId = operationIdOf fresh earlier o.hostOccurrenceId ∧
      d.1.sourceLocalPairing = logical.get o.hostOccurrenceId := by
  obtain ⟨members, -, ⟨-, h⟩ | ⟨kind, claims, effects, -, -, -, h⟩⟩ := deriveOperation_ok.mp h
  · cases h
  · obtain ⟨-, h⟩ := checkedDerivation_ok.mp h
    cases h
    obtain ⟨_, _, hshape⟩ := updateOperationRevision_shape (newOperation n o members (logical.get o.hostOccurrenceId)
      kind (operationIdOf fresh earlier o.hostOccurrenceId) (sortByKey (·.scopeEffectId) effects))
      (earlier.operations.get o.hostOccurrenceId) rfl
    dsimp only
    rw [hshape]
    exact ⟨rfl, rfl, rfl⟩

namespace Run

variable {logical : OrdMap HostOccurrenceId SourceLocalPairing} {derived : List (Option (Operation × List ScopeEffect))}
  (h : Run H n fresh observations previous out logical derived)
include h

theorem checked (x : SourceObservation) (hx : x ∈ observations) : CheckedObservation x := checkedObservation (h.valid x hx)

theorem mem_values {x : SourceObservation} : x ∈ (byIdOf observations).values ↔ x ∈ observations :=
  (values_byIdOf h.nodup).mem_iff

/-- The members of the occurrences, and the occurrence of an observation. -/
theorem members : (∀ o ∈ out.occurrences, ∃ members,
      Built H n (conflictingPartialRefs observations) (byIdOf observations).values o members) ∧
    ∀ x ∈ observations, ∃ o ∈ out.occurrences, ∃ members,
      Built H n (conflictingPartialRefs observations) (byIdOf observations).values o members ∧ x ∈ members := by
  obtain ⟨hbuilt, hcover⟩ := buildOccurrences_built (fun x hx => h.checked x (h.mem_values.mp hx)) h.built
  exact ⟨hbuilt, fun x hx => hcover x (h.mem_values.mpr hx)⟩

theorem mem_refs {o : HostOccurrence} {members : List SourceObservation}
    (hbuilt : Built H n (conflictingPartialRefs observations) (byIdOf observations).values o members)
    {x : SourceObservation} (hx : x ∈ observations) : x.sourceObservationId ∈ o.sourceObservationRefs ↔ x ∈ members := by
  rw [hbuilt.refs_eq, List.mem_insertionSort, List.mem_map]
  refine ⟨fun ⟨y, hy, heq⟩ => ?_, fun hx => ⟨x, hx, rfl⟩⟩
  rw [← List.inj_on_of_nodup_map h.nodup (h.mem_values.mp (hbuilt.mem y hy)) hx heq]
  exact hy

theorem id_of_mem {o : HostOccurrence} (ho : o ∈ out.occurrences) {x : SourceObservation} (hx : x ∈ observations)
    (hmem : x.sourceObservationId ∈ o.sourceObservationRefs) :
    o.hostOccurrenceId = occurrenceIdOf H (conflictingPartialRefs observations) x := by
  obtain ⟨members, hbuilt⟩ := h.members.1 o ho
  exact hbuilt.id_eq x ((h.mem_refs hbuilt hx).mp hmem)

theorem eq_of_id {o o' : HostOccurrence} (ho : o ∈ out.occurrences) (ho' : o' ∈ out.occurrences)
    (hid : o.hostOccurrenceId = o'.hostOccurrenceId) : o = o' :=
  List.inj_on_of_nodup_map h.snapshot.occurrences_nodup ho ho' hid

theorem mem_operations {op : Operation} : op ∈ out.operations ↔ ∃ o ∈ out.occurrences, ∃ effects,
    deriveOperation n fresh (Earlier.of previous) (byIdOf observations) logical o = .ok (some (op, effects)) := by
  rw [h.operations, (sortByKey_perm _ _).mem_iff, List.mem_map]
  constructor
  · rintro ⟨d, hd, rfl⟩
    rw [List.reduceOption_mem_iff, mem_mapM_ok h.derives] at hd
    obtain ⟨o, ho, hd⟩ := hd
    exact ⟨o, ho, d.2, hd⟩
  · rintro ⟨o, ho, effects, hd⟩
    refine ⟨(op, effects), ?_, rfl⟩
    rw [List.reduceOption_mem_iff, mem_mapM_ok h.derives]
    exact ⟨o, ho, hd⟩

/-- Each occurrence has one operation at most. -/
theorem hosts_nodup : (out.operations.map (·.hostOccurrenceId)).Nodup := by
  rw [h.operations, ((sortByKey_perm _ _).map _).nodup_iff, List.map_map]
  refine h.snapshot.occurrences_nodup.sublist (reduceOption_sublist h.derives fun o _ d hd => ?_)
  exact (derived_operation hd).1

/-- The operation of an occurrence, if there is one, is what was derived from it. -/
theorem derives_of_host {o : HostOccurrence} (ho : o ∈ out.occurrences) {op : Operation} (hop : op ∈ out.operations)
    (hid : op.hostOccurrenceId = o.hostOccurrenceId) : ∃ effects,
    deriveOperation n fresh (Earlier.of previous) (byIdOf observations) logical o = .ok (some (op, effects)) := by
  obtain ⟨o', ho', effects, hd⟩ := h.mem_operations.mp hop
  have hhost := (derived_operation hd).1
  rw [h.eq_of_id ho' ho (hhost.symm.trans hid)] at hd
  exact ⟨effects, hd⟩

end Run

theorem filter_host_le {ops : List Operation} (hn : (ops.map (·.hostOccurrenceId)).Nodup) (id : HostOccurrenceId) :
    (ops.filter fun op => op.hostOccurrenceId = id).length ≤ 1 ∧
      ∀ op ∈ ops, op.hostOccurrenceId = id → (ops.filter fun op => op.hostOccurrenceId = id).length = 1 := by
  have hone : ∀ op ∈ ops, op.hostOccurrenceId = id → (ops.filter fun op => op.hostOccurrenceId = id).length = 1 := by
    intro op hop hid
    subst hid
    rw [filter_key_eq_singleton hn op hop]
    rfl
  refine ⟨?_, hone⟩
  cases hfilter : ops.filter fun op => op.hostOccurrenceId = id with
  | nil => exact Nat.zero_le _
  | cons op rest =>
    have hmem : op ∈ ops.filter fun op => op.hostOccurrenceId = id := by rw [hfilter]; exact List.mem_cons_self
    obtain ⟨hop, hid⟩ := List.mem_filter.mp hmem
    rw [← hfilter, hone op hop (of_decide_eq_true hid)]

/-- **A run divides the observations among its occurrences and operations.** -/
theorem normalize_partitions (h : normalize H n fresh observations previous = .ok out) : Partitions observations out := by
  obtain ⟨logical, derived, hrun⟩ := normalize_iff.mp h
  obtain ⟨hbuilts, hcover⟩ := hrun.members
  refine ⟨fun o ho id hid => ?_, fun x hx => ?_, fun x hx y hy hne => ⟨?_, ?_⟩, fun o ho => ?_, fun o ho op hop hid => ?_⟩
  · obtain ⟨members, hbuilt⟩ := hbuilts o ho
    rw [hbuilt.refs_eq, List.mem_insertionSort] at hid
    obtain ⟨x, hx, rfl⟩ := List.mem_map.mp hid
    exact ⟨x, hrun.mem_values.mp (hbuilt.mem x hx), rfl⟩
  · obtain ⟨o, ho, members, hbuilt, hmem⟩ := hcover x hx
    refine ⟨o, ⟨ho, (hrun.mem_refs hbuilt hx).mpr hmem⟩, fun o' ⟨ho', hmem'⟩ => ?_⟩
    refine hrun.eq_of_id ho' ho ?_
    rw [hrun.id_of_mem ho' hx hmem', hbuilt.id_eq x hmem]
  · rintro ⟨o, ho, hxo, hyo⟩
    obtain ⟨members, hbuilt⟩ := hbuilts o ho
    rw [hrun.mem_refs hbuilt hx] at hxo
    rw [hrun.mem_refs hbuilt hy] at hyo
    rcases hbuilt.origin with ⟨key, hkey, -⟩ | ⟨z, -, hz, -⟩
    · rw [hkey] at hxo hyo
      exact ⟨key, of_decide_eq_true (List.mem_filter.mp hxo).2, of_decide_eq_true (List.mem_filter.mp hyo).2⟩
    · rw [hz, List.mem_singleton] at hxo hyo
      exact absurd (hxo.trans hyo.symm) hne
  · rintro ⟨key, hxkey, hykey⟩
    obtain ⟨o, ho, members, hbuilt, hmem⟩ := hcover x hx
    refine ⟨o, ho, (hrun.mem_refs hbuilt hx).mpr hmem, (hrun.mem_refs hbuilt hy).mpr ?_⟩
    rcases hbuilt.origin with ⟨key', hkey', -⟩ | ⟨z, hzkey, hz, -⟩
    · rw [hkey'] at hmem ⊢
      have hx' := of_decide_eq_true (List.mem_filter.mp hmem).2
      rw [hxkey, Option.some.injEq] at hx'
      refine List.mem_filter.mpr ⟨hrun.mem_values.mpr hy, ?_⟩
      rw [hykey, hx']
      exact decide_eq_true rfl
    · rw [hz, List.mem_singleton] at hmem
      rw [← hmem, hxkey] at hzkey
      cases hzkey
  · obtain ⟨hle, hone⟩ := filter_host_le hrun.hosts_nodup o.hostOccurrenceId
    refine ⟨hle, fun hexec => ?_⟩
    obtain ⟨d, hd⟩ := exists_mapM_ok.mp ⟨_, hrun.derives⟩ o ho
    obtain ⟨members, -, ⟨hkind, -⟩ | ⟨kind, claims, effects, -, -, -, hchecked⟩⟩ := deriveOperation_ok.mp hd
    · rw [operationKindOf] at hkind
      rw [(Option.or_eq_none_iff.mp hkind).1] at hexec
      cases hexec
    · obtain ⟨-, rfl⟩ := checkedDerivation_ok.mp hchecked
      exact hone _ (hrun.mem_operations.mpr ⟨o, ho, _, hd⟩) (derived_operation hd).1
  · obtain ⟨effects, hd⟩ := hrun.derives_of_host ho hop hid
    obtain ⟨members, hmembers, ⟨-, hnone⟩ | ⟨kind, claims, effects, -, -, -, hchecked⟩⟩ := deriveOperation_ok.mp hd
    · cases hnone
    · obtain ⟨-, heq⟩ := checkedDerivation_ok.mp hchecked
      cases heq
      obtain ⟨_, _, hshape⟩ := updateOperationRevision_shape (newOperation n o members
        (logical.get o.hostOccurrenceId) kind (operationIdOf fresh (Earlier.of previous) o.hostOccurrenceId)
        (sortByKey (·.scopeEffectId) effects)) ((Earlier.of previous).operations.get o.hostOccurrenceId) rfl
      have hids : members.map (·.sourceObservationId) = o.sourceObservationRefs.map id := by
        refine map_mapM_ok hmembers fun id _ x hx => ?_
        exact ((get_byIdOf hrun.nodup).mp (okOr_ok.mp hx)).2
      rw [List.map_id] at hids
      rw [hshape, ← hids]
      refine ((List.perm_insertionSort _ _).append (List.perm_insertionSort _ _)).trans ?_
      rw [← List.map_append]
      exact (List.filter_append_perm _ members).map _

/-! ## The order of the observations -/

/-- What an observation adds to the tuples of a partial reference. -/
def partialOf (reference : String) (o : SourceObservation) : Option PartialTuple :=
  if o.correlation.partialCorrelationRef = some reference then some (.from_ o) else none

theorem foldl_addPartial (reference : String) : ∀ (observations : List SourceObservation)
    (values : OrdMap String (List PartialTuple)), (∀ r l, values.get r = some l → l.Nodup) →
    (∀ r l, (observations.foldl addPartial values).get r = some l → l.Nodup) ∧
      ∀ t, t ∈ ((observations.foldl addPartial values).get reference).getD [] ↔
        t ∈ (values.get reference).getD [] ∨ ∃ o ∈ observations, partialOf reference o = some t := by
  intro observations
  induction observations with
  | nil => intro values h; exact ⟨h, by simp⟩
  | cons o rest ih =>
    intro values h
    rw [List.foldl_cons]
    cases hr : o.correlation.partialCorrelationRef with
    | none =>
      have hadd : addPartial values o = values := by unfold addPartial; rw [hr]
      obtain ⟨hn, hmem⟩ := ih values h
      rw [hadd]
      refine ⟨hn, fun t => ?_⟩
      rw [hmem t]
      simp [partialOf, hr]
    | some r =>
      have hadd : addPartial values o = values.insert r (((values.get r).getD []).insert (.from_ o)) := by
        unfold addPartial; rw [hr]
      have hnodup : ∀ r' l, (addPartial values o).get r' = some l → l.Nodup := by
        intro r' l hl
        rw [hadd, OrdMap.get_insert] at hl
        split at hl
        · cases hl
          refine List.Nodup.insert ?_
          cases hget : values.get r with
          | none => exact .nil
          | some l => exact h r l hget
        · exact h r' l hl
      obtain ⟨hn, hmem⟩ := ih (addPartial values o) hnodup
      refine ⟨hn, fun t => ?_⟩
      rw [hmem t, hadd, OrdMap.get_insert]
      by_cases hreference : reference = r
      · subst hreference
        rw [if_pos rfl, Option.getD_some, List.mem_insert_iff]
        simp only [partialOf, hr, if_true, List.exists_mem_cons_iff, Option.some.injEq]
        rw [eq_comm (a := t), or_comm (a := _ = t), or_assoc]
      · rw [if_neg hreference]
        simp [partialOf, hr, Ne.symm hreference]

theorem mem_conflictingPartialRefs {r : String} : r ∈ conflictingPartialRefs observations ↔
    1 < (((observations.foldl addPartial .empty).get r).getD []).length := by
  unfold conflictingPartialRefs
  rw [List.mem_filterMap]
  constructor
  · rintro ⟨⟨k, l⟩, hmem, hk⟩
    split at hk
    · next hlen =>
      cases hk
      rw [OrdMap.mem_entries.mp hmem]
      exact hlen
    · cases hk
  · intro hlen
    cases hget : (observations.foldl addPartial .empty).get r with
    | none =>
      rw [hget] at hlen
      exact absurd hlen (by simp)
    | some l =>
      rw [hget] at hlen
      exact ⟨(r, l), OrdMap.mem_entries.mpr hget, if_pos hlen⟩

theorem conflictingPartialRefs_perm {observations' : List SourceObservation} (hperm : observations'.Perm observations) :
    conflictingPartialRefs observations' = conflictingPartialRefs observations := by
  have hsorted : ∀ l : List SourceObservation, (conflictingPartialRefs l).Pairwise (· < ·) := by
    intro l
    unfold conflictingPartialRefs
    refine List.Pairwise.filterMap _ (fun a b hab k hk k' hk' => ?_) (l.foldl addPartial .empty).sorted
    split at hk
    · split at hk'
      · cases hk
        cases hk'
        exact hab
      · cases hk'
    · cases hk
  refine (hsorted observations').eq_of_mem_iff (hsorted observations) fun r => ?_
  rw [mem_conflictingPartialRefs, mem_conflictingPartialRefs]
  obtain ⟨hn, hmem⟩ := foldl_addPartial r observations .empty (fun _ _ h => by cases h)
  obtain ⟨hn', hmem'⟩ := foldl_addPartial r observations' .empty (fun _ _ h => by cases h)
  have hnodup : ∀ {o : Option (List PartialTuple)}, (∀ l, o = some l → l.Nodup) → (o.getD []).Nodup := by
    intro o ho
    cases o with
    | none => exact .nil
    | some l => exact ho l rfl
  have hlists : (((observations'.foldl addPartial .empty).get r).getD []).Perm
      (((observations.foldl addPartial .empty).get r).getD []) := by
    refine (List.perm_ext_iff_of_nodup (hnodup fun l hl => hn' r l hl) (hnodup fun l hl => hn r l hl)).mpr fun t => ?_
    rw [hmem t, hmem' t]
    simp only [hperm.mem_iff]
  rw [hlists.length_eq]

theorem byIdOf_perm {observations' : List SourceObservation} (hperm : observations'.Perm observations)
    (hn : (observations.map (·.sourceObservationId)).Nodup) : byIdOf observations' = byIdOf observations := by
  refine OrdMap.ext_get fun id => Option.ext fun o => ?_
  rw [get_byIdOf hn, get_byIdOf ((hperm.map _).nodup_iff.mpr hn), hperm.mem_iff]

theorem collectById_error : ∀ {observations : List SourceObservation} {byId : OrdMap SourceObservationId SourceObservation}
    {e : NormalizeError}, collectById H byId observations = .error e → e = .invalidInput := by
  intro observations
  induction observations with
  | nil => intro byId e h; cases h
  | cons o rest ih =>
    intro byId e h
    unfold collectById at h
    cases hvalid : o.validate H with
    | error _ =>
      rw [hvalid] at h
      cases h
      rfl
    | ok _ =>
      rw [hvalid] at h
      cases hfree : (byId.get o.sourceObservationId).isNone with
      | false =>
        rw [hfree] at h
        cases h
        rfl
      | true =>
        rw [hfree] at h
        exact ih h

/-- Collecting by id forgets the order. -/
theorem collectById_perm {observations' : List SourceObservation} (hperm : observations'.Perm observations) :
    collectById H .empty observations' = collectById H .empty observations := by
  by_cases hgood : (∀ o ∈ observations, o.validate H = .ok ()) ∧ (observations.map (·.sourceObservationId)).Nodup
  · obtain ⟨hvalid, hn⟩ := hgood
    rw [collectById_eq hvalid hn fun _ _ => rfl, collectById_eq (fun o ho => hvalid o (hperm.mem_iff.mp ho))
      ((hperm.map _).nodup_iff.mpr hn) fun _ _ => rfl]
    exact congrArg _ (byIdOf_perm hperm hn)
  · have herror : ∀ l : List SourceObservation, l.Perm observations → collectById H .empty l = .error .invalidInput := by
      intro l hl
      cases h : collectById H .empty l with
      | error e => rw [collectById_error h]
      | ok r =>
        obtain ⟨hvalid, hn, -⟩ := collectById_ok h
        exact absurd ⟨fun o ho => hvalid o (hl.mem_iff.mpr ho), (hl.map _).nodup_iff.mp hn⟩ hgood
    rw [herror observations' hperm, herror observations (.refl _)]

/-- **Without source-local evidence the order of the observations does not matter**: the result is the same
for the same drawn ids. -/
theorem normalize_perm {observations' : List SourceObservation} (hperm : observations'.Perm observations)
    (hlocal : ∀ o ∈ observations, o.sourceLocalEvidence = none) :
    normalize H n fresh observations' previous = normalize H n fresh observations previous := by
  have hpairs : ∀ occurrences, sourceLocalPairs observations' occurrences previous =
      sourceLocalPairs observations occurrences previous := by
    intro occurrences
    rw [sourceLocalPairs_none hlocal, sourceLocalPairs_none fun o ho => hlocal o (hperm.mem_iff.mp ho)]
  unfold Normalize.normalize
  rw [collectById_perm hperm, conflictingPartialRefs_perm hperm]
  simp only [hpairs]

end EverTrace.L2.Normalize
