import EverTrace.L2Machine.NormalizeAnchors
/-!
# A run on an earlier snapshot against one from scratch

Two runs over the same observations, one on top of an earlier snapshot. They
build the same occurrences but for the revisions, and the operations they both
make of an occurrence agree in everything that comes from its observations. Two
things are kept from the earlier snapshot on purpose: an effect that is already
there is taken over with the evidence it had, since the store refuses a second
effect under its id, and a source-local call stays at the occurrence that
anchored it first.

Results: `normalize_incremental`, and two runs where what is kept makes a
difference (`batch_differs`).
-/
namespace EverTrace.L2.Normalize
open EverTrace.Lib EverTrace.L1 EverTrace.L1.Canonical EverTrace.L2.Work EverTrace.L2.Evidence

variable {H : Sha256} {n : PhysicalNormalizer} {fresh fresh' : FreshIds} {observations : List SourceObservation}
  {previous previous' : Option NormalizationSnapshot} {out out' : NormalizationSnapshot}

/-! ## Occurrences -/

/-- An occurrence without its revision counters. -/
def plainOccurrence (o : HostOccurrence) : HostOccurrence := withRevision o 1 none

theorem plainOccurrence_fields {o o' : HostOccurrence} (h : plainOccurrence o' = plainOccurrence o) :
    o'.hostOccurrenceId = o.hostOccurrenceId ∧ o'.sourceObservationRefs = o.sourceObservationRefs ∧
      o'.canonicalEventFamily = o.canonicalEventFamily ∧ o'.pairingState = o.pairingState := by
  unfold plainOccurrence withRevision at h
  injection h with hhost _ _ _ _ hfamily _ _ _ hrefs _ _ hpairing
  exact ⟨hhost, hrefs, hfamily, hpairing⟩

/-- The occurrences of a run before their revisions are counted on. -/
def plainOccurrences (H : Sha256) (n : PhysicalNormalizer) (refs : List String) (values : List SourceObservation) :
    List HostOccurrence :=
  sortByKey (·.hostOccurrenceId)
    ((exactGroups values).entries.map (fun group => exactOccurrence n (exactIdOf H group.1) group.1 group.2) ++
      (values.filter (·.correlation.exactKey.isNone)).map fun x =>
        nonexactOccurrence n (occurrenceIdOf H refs x) (nonexactStrength refs x) x)

theorem buildOccurrences_plain {refs : List String} {earlier : OrdMap HostOccurrenceId HostOccurrence}
    {values : List SourceObservation} (hm : ∀ x ∈ values, CheckedObservation x) {occurrences : List HostOccurrence}
    (h : buildOccurrences H n refs earlier values = .ok occurrences) :
    occurrences.map plainOccurrence = plainOccurrences H n refs values := by
  unfold buildOccurrences at h
  obtain ⟨exact, hexact, h⟩ := bind_eq_ok.mp h
  obtain ⟨nonexact, hnonexact, h⟩ := bind_eq_ok.mp h
  cases h
  have hplain : exact.map plainOccurrence =
      (exactGroups values).entries.map fun group => exactOccurrence n (exactIdOf H group.1) group.1 group.2 := by
    refine map_mapM_ok hexact fun group hgroup o ho => ?_
    obtain ⟨-, hne, hchecked, -, hkey⟩ := exactGroup_members hm hgroup
    unfold buildExactOccurrence at ho
    obtain ⟨id, hid, ho⟩ := bind_eq_ok.mp ho
    rw [mapError_ok, hostOccurrenceIdForExact_ok (group_key_validate hchecked hne hkey)] at hid
    cases hid
    obtain ⟨_, -, ho⟩ := bind_eq_ok.mp ho
    cases ho
    obtain ⟨_, _, hshape⟩ := updateOccurrenceRevision_shape
      (exactOccurrence n (exactIdOf H group.1) group.1 group.2) (earlier.get (exactIdOf H group.1)) rfl
    rw [hshape]
    rfl
  have hplain' : nonexact.map plainOccurrence = (values.filter (·.correlation.exactKey.isNone)).map fun x =>
      nonexactOccurrence n (occurrenceIdOf H refs x) (nonexactStrength refs x) x := by
    refine map_mapM_ok hnonexact fun x hx o ho => ?_
    have hkey := Option.isNone_iff_eq_none.mp (List.mem_filter.mp hx).2
    unfold buildNonexactOccurrence at ho
    obtain ⟨id, hid, ho⟩ := bind_eq_ok.mp ho
    rw [mapError_ok, hostOccurrenceIdForNonexact_ok refs hkey] at hid
    cases hid
    obtain ⟨_, -, ho⟩ := bind_eq_ok.mp ho
    cases ho
    obtain ⟨_, _, hshape⟩ := updateOccurrenceRevision_shape
      (nonexactOccurrence n (occurrenceIdOf H refs x) (nonexactStrength refs x) x)
      (earlier.get (occurrenceIdOf H refs x)) rfl
    rw [hshape]
    rfl
  unfold plainOccurrences
  rw [← hplain, ← hplain', ← List.map_append, sortByKey_map]
  rfl

/-! ## Operations -/

/-- Two operations agree in everything but their ids, the ids of their effects, their revisions and their
source-local pairing. -/
def SameOperation (op op' : Operation) : Prop :=
  { op with
    operationId := op'.operationId
    scopeEffectIds := op'.scopeEffectIds
    operationRevision := op'.operationRevision
    previousOperationRevision := op'.previousOperationRevision
    sourceLocalPairing := op'.sourceLocalPairing } = op'

/-- The effect is about the same as the other one. It is one of the earlier effects; or none of these belongs to
its operation and is about the same, and it has the evidence of the other one. -/
structure SameEffect (earlier : List ScopeEffect) (e e' : ScopeEffect) : Prop where
  subject : effectSubject e = effectSubject e'
  evidence : e ∈ earlier ∨ e.evidenceRefs = e'.evidenceRefs ∧
    ∀ e₀ ∈ earlier, e₀.operationId = e.operationId → effectSubject e₀ ≠ effectSubject e

variable {logical logical' : OrdMap HostOccurrenceId SourceLocalPairing}
  {derived derived' : List (Option (Operation × List ScopeEffect))}

theorem same_derived {o o' : HostOccurrence} (heq : plainOccurrence o' = plainOccurrence o)
    {d d' : Operation × List ScopeEffect}
    (hd : deriveOperation n fresh (Earlier.of previous) (byIdOf observations) logical o = .ok (some d))
    (hd' : deriveOperation n fresh' (Earlier.of previous') (byIdOf observations) logical' o' = .ok (some d')) :
    SameOperation d.1 d'.1 ∧ ∃ claims : List ScopeEffectClaim,
      d.2.Perm (claims.map (effectFor (Earlier.of previous).effects (fresh.scopeEffect o.hostOccurrenceId)
        (operationIdOf fresh (Earlier.of previous) o.hostOccurrenceId))) ∧
      d'.2.Perm (claims.map (effectFor (Earlier.of previous').effects (fresh'.scopeEffect o'.hostOccurrenceId)
        (operationIdOf fresh' (Earlier.of previous') o'.hostOccurrenceId))) := by
  obtain ⟨members, kind, claims, hmembers, hkind, hclaims, heffects, _, _, hop⟩ := derived_shape hd
  obtain ⟨members', kind', claims', hmembers', hkind', hclaims', heffects', _, _, hop'⟩ := derived_shape hd'
  obtain ⟨hhost, hrefs, hfamily, hpairing⟩ := plainOccurrence_fields heq
  rw [hrefs, hmembers, Except.ok.injEq] at hmembers'
  subst hmembers'
  rw [hclaims, Except.ok.injEq] at hclaims'
  subst hclaims'
  have hkinds : kind' = kind := by
    unfold operationKindOf at hkind hkind'
    rw [hfamily] at hkind'
    cases hfam : o.canonicalEventFamily.bind CanonicalEventFamily.operationKind with
    | some k =>
      rw [hfam, Option.some_or] at hkind hkind'
      exact Option.some.inj (hkind'.symm.trans hkind)
    | none =>
      rw [hfam, Option.none_or, Option.map_eq_some_iff] at hkind hkind'
      obtain ⟨-, -, hk⟩ := hkind
      obtain ⟨-, -, hk'⟩ := hkind'
      exact hk'.symm.trans hk
  have hperm := sortByKey_perm (fun e : ScopeEffect => e.scopeEffectId)
    (claims.map (effectFor (Earlier.of previous).effects (fresh.scopeEffect o.hostOccurrenceId)
      (operationIdOf fresh (Earlier.of previous) o.hostOccurrenceId)))
  have hperm' := sortByKey_perm (fun e : ScopeEffect => e.scopeEffectId)
    (claims.map (effectFor (Earlier.of previous').effects (fresh'.scopeEffect o'.hostOccurrenceId)
      (operationIdOf fresh' (Earlier.of previous') o'.hostOccurrenceId)))
  rw [← heffects] at hperm
  rw [← heffects'] at hperm'
  refine ⟨?_, claims, hperm, hperm'⟩
  -- the artifacts are those of the claims
  have hartifacts : ∀ {effects : List ScopeEffect} {f : ScopeEffectClaim → ScopeEffect}, effects.Perm (claims.map f) →
      (∀ claim, effectSubject (f claim) = subject claim) →
      sortUnique (effects.flatMap (·.artifactRefs)) = sortUnique (claims.flatMap (·.artifactRefs)) := by
    intro effects f hp hf
    have hflat : (claims.map f).flatMap (·.artifactRefs) = claims.flatMap (·.artifactRefs) := by
      rw [List.flatMap_map]
      exact List.flatMap_congr fun claim _ => congrArg ScopeClaimKey.artifactRefs (hf claim)
    rw [← hflat]
    exact sortUnique_eq_of_perm (hp.flatMap_right _)
  have hrefs₁ := hartifacts hperm fun claim => (effectFor_subject claim).2
  have hrefs₂ := hartifacts hperm' fun claim => (effectFor_subject claim).2
  rw [hop, hop', hkinds]
  unfold SameOperation withOperationRevision newOperation
  simp only [hrefs₁, hrefs₂, hhost, hpairing]

theorem effectFor_same {effects : List ScopeEffect} {newId newId' : ScopeClaimKey → ScopeEffectId}
    {op op' : OperationId} (claim : ScopeEffectClaim) :
    SameEffect effects (effectFor effects newId op claim) (effectFor [] newId' op' claim) := by
  refine ⟨(effectFor_subject claim).2.trans (effectFor_subject claim).2.symm, ?_⟩
  unfold effectFor
  cases hfind : effects.find? fun effect => effect.operationId == op && effectMatchesClaim effect claim with
  | some e => exact .inl (List.mem_of_find?_eq_some hfind)
  | none =>
    refine .inr ⟨rfl, fun e₀ he₀ hop hsubject => ?_⟩
    have hmiss := List.find?_eq_none.mp hfind e₀ he₀
    rw [Bool.and_eq_true, beq_iff_eq, effectMatchesClaim_iff] at hmiss
    exact hmiss ⟨hop, hsubject⟩

namespace Run

variable (h : Run H n fresh observations previous out logical derived)
include h

theorem exists_operation_iff {o : HostOccurrence} (ho : o ∈ out.occurrences) :
    (∃ op ∈ out.operations, op.hostOccurrenceId = o.hostOccurrenceId) ↔
      (operationKindOf o (logical.get o.hostOccurrenceId)).isSome := by
  obtain ⟨d, hd⟩ := exists_mapM_ok.mp ⟨_, h.derives⟩ o ho
  constructor
  · rintro ⟨op, hop, hhost⟩
    obtain ⟨effects, hd⟩ := h.derives_of_host ho hop hhost
    obtain ⟨members, -, ⟨-, hnone⟩ | ⟨kind, _, _, hkind, -, -, -⟩⟩ := deriveOperation_ok.mp hd
    · cases hnone
    · rw [hkind]
      rfl
  · intro hsome
    obtain ⟨members, -, ⟨hkind, -⟩ | ⟨kind, _, _, -, -, -, hchecked⟩⟩ := deriveOperation_ok.mp hd
    · rw [hkind] at hsome
      cases hsome
    · obtain ⟨-, rfl⟩ := checkedDerivation_ok.mp hchecked
      exact ⟨_, h.mem_operations.mpr ⟨o, ho, _, hd⟩, (derived_operation hd).1⟩

variable (h' : Run H n fresh' observations previous' out' logical' derived')
include h'

/-- **Two runs over the same observations have the same occurrences but for the revisions.** -/
theorem occurrences_eq : out.occurrences.map plainOccurrence = out'.occurrences.map plainOccurrence := by
  rw [buildOccurrences_plain (fun x hx => h.checked x (h.mem_values.mp hx)) h.built,
    buildOccurrences_plain (fun x hx => h'.checked x (h'.mem_values.mp hx)) h'.built]

theorem counterpart {o : HostOccurrence} (ho : o ∈ out.occurrences) :
    ∃ o' ∈ out'.occurrences, plainOccurrence o' = plainOccurrence o := by
  have hmem : plainOccurrence o ∈ out'.occurrences.map plainOccurrence := by
    rw [← h.occurrences_eq h']
    exact List.mem_map_of_mem ho
  exact List.mem_map.mp hmem

theorem exists_counterpart {o : HostOccurrence} (ho : o ∈ out.occurrences)
    (hexec : (o.canonicalEventFamily.bind CanonicalEventFamily.operationKind).isSome) :
    ∃ op ∈ out'.operations, op.hostOccurrenceId = o.hostOccurrenceId := by
  obtain ⟨o', ho', heq⟩ := h.counterpart h' ho
  obtain ⟨hhost, -, hfamily, -⟩ := plainOccurrence_fields heq
  rw [← hhost]
  refine (h'.exists_operation_iff ho').mpr ?_
  unfold operationKindOf
  rw [hfamily, Option.isSome_or, hexec, Bool.true_or]

theorem counterpart_of_unpaired {op : Operation} (hop : op ∈ out.operations) (hpairing : op.sourceLocalPairing = none) :
    ∃ op' ∈ out'.operations, op'.hostOccurrenceId = op.hostOccurrenceId := by
  obtain ⟨o, ho, effects, hd⟩ := h.mem_operations.mp hop
  obtain ⟨hhost, -, hlogical⟩ := derived_operation hd
  dsimp only at hhost hlogical
  rw [hhost]
  refine h.exists_counterpart h' ho ?_
  have hsome := (h.exists_operation_iff ho).mp ⟨op, hop, hhost⟩
  rw [operationKindOf, ← hlogical, hpairing, Option.map_none, Option.or_none] at hsome
  exact hsome

/-- **Operations of one occurrence agree in what comes from its observations.** -/
theorem same_operation {op op' : Operation} (hop : op ∈ out.operations) (hop' : op' ∈ out'.operations)
    (hhost : op.hostOccurrenceId = op'.hostOccurrenceId) : SameOperation op op' := by
  obtain ⟨o, ho, effects, hd⟩ := h.mem_operations.mp hop
  obtain ⟨o', ho', heq⟩ := h.counterpart h' ho
  have hid : op'.hostOccurrenceId = o'.hostOccurrenceId := by
    rw [← hhost, (plainOccurrence_fields heq).1]
    exact (derived_operation hd).1
  obtain ⟨effects', hd'⟩ := h'.derives_of_host ho' hop' hid
  exact (same_derived heq hd hd').1

end Run

section Batch

variable {logical logical' : OrdMap HostOccurrenceId SourceLocalPairing}
  {derived derived' : List (Option (Operation × List ScopeEffect))}
  (h : Run H n fresh observations previous out logical derived)
  (h' : Run H n fresh' observations none out' logical' derived')
include h h'

/-- **The effects of an occurrence are about the same**; each is taken over from the earlier snapshot or has the
evidence of the run from scratch. -/
theorem Run.same_effects {op op' : Operation} (hop : op ∈ out.operations) (hop' : op' ∈ out'.operations)
    (hhost : op.hostOccurrenceId = op'.hostOccurrenceId) :
    (∀ e ∈ out.scopeEffects, e.operationId = op.operationId →
      ∃ e' ∈ out'.scopeEffects, e'.operationId = op'.operationId ∧ SameEffect (Earlier.of previous).effects e e') ∧
    ∀ e' ∈ out'.scopeEffects, e'.operationId = op'.operationId →
      ∃ e ∈ out.scopeEffects, e.operationId = op.operationId ∧ SameEffect (Earlier.of previous).effects e e' := by
  obtain ⟨o, ho, effects, hd⟩ := h.mem_operations.mp hop
  obtain ⟨o', ho', heq⟩ := h.counterpart h' ho
  have hid : op'.hostOccurrenceId = o'.hostOccurrenceId := by
    rw [← hhost, (plainOccurrence_fields heq).1]
    exact (derived_operation hd).1
  obtain ⟨effects', hd'⟩ := h'.derives_of_host ho' hop' hid
  obtain ⟨-, claims, hperm, hperm'⟩ := same_derived heq hd hd'
  constructor
  · intro e he hope
    obtain ⟨claim, hclaim, rfl⟩ := List.mem_map.mp (hperm.mem_iff.mp ((h.effects_of ho hd).mp ⟨he, hope⟩))
    obtain ⟨hmem, hope'⟩ := (h'.effects_of ho' hd').mpr (hperm'.mem_iff.mpr (List.mem_map_of_mem hclaim))
    exact ⟨_, hmem, hope', effectFor_same claim⟩
  · intro e' he' hope'
    obtain ⟨claim, hclaim, rfl⟩ := List.mem_map.mp (hperm'.mem_iff.mp ((h'.effects_of ho' hd').mp ⟨he', hope'⟩))
    obtain ⟨hmem, hope⟩ := (h.effects_of ho hd).mpr (hperm.mem_iff.mpr (List.mem_map_of_mem hclaim))
    exact ⟨_, hmem, hope, effectFor_same claim⟩

end Batch

/-! ## Source-local pairings -/

/-- Where a pairing of the run from scratch belongs: at the occurrence where the earlier run anchored its call,
if it did. -/
def placeOf (earlier : NormalizationSnapshot) (op : Operation) (pairing : SourceLocalPairing) : HostOccurrenceId :=
  (previousAnchor (some earlier) (pairedKey pairing)).getD op.hostOccurrenceId

/-- Occurrence ids of single observations tell them apart, whatever their strength. -/
def DistinctIds (H : Sha256) (observations : List SourceObservation) : Prop :=
  ∀ x ∈ observations, ∀ y ∈ observations, x.correlation.exactKey = none → y.correlation.exactKey = none →
    ∀ refs refs', occurrenceIdOf H refs x = occurrenceIdOf H refs' y → x = y

section Pairings

variable {earlier : NormalizationSnapshot} {logical logical' : OrdMap HostOccurrenceId SourceLocalPairing}
  {derived derived' : List (Option (Operation × List ScopeEffect))}
  {groups : OrdMap LocalCallKey (List LocalMember)} (hgroups : localGroups observations = .ok groups)
  (h' : Run H n fresh' observations none out' logical' derived')
include hgroups h'

theorem Run.call_of (earlier : NormalizationSnapshot) {op' : Operation} (hop' : op' ∈ out'.operations) {pairing : SourceLocalPairing}
    (hpairing : op'.sourceLocalPairing = some pairing) : ∃ c ∈ pairedCalls groups, c.pairing = pairing ∧
      placeOf earlier op' pairing = slotOf H observations (some earlier) c := by
  obtain ⟨c, ⟨hc, hslot, -⟩, rfl⟩ := (h'.pairing_iff hgroups hop').mp hpairing
  refine ⟨c, hc, rfl, ?_⟩
  show (previousAnchor (some earlier) c.key).getD op'.hostOccurrenceId = _
  rw [← hslot]
  rfl

theorem Run.paired_of (earlier : NormalizationSnapshot) {c : PairedCall} (hc : c ∈ pairedCalls groups) : ∃ op' ∈ out'.operations,
    op'.sourceLocalPairing = some c.pairing ∧
      placeOf earlier op' c.pairing = slotOf H observations (some earlier) c := by
  obtain ⟨s, -, hfirst⟩ := first_nonexact hgroups
  obtain ⟨op', hop', hhost, hpairing⟩ := h'.exists_carrier hgroups ⟨c.first, (hfirst c hc).1, rfl⟩
    (h'.holds_own hgroups hc)
  refine ⟨op', hop', hpairing, ?_⟩
  show (previousAnchor (some earlier) c.key).getD op'.hostOccurrenceId = _
  rw [hhost]
  rfl

variable (h : Run H n fresh observations (some earlier) out logical derived)
include h

theorem Run.pairing_from {op : Operation} (hop : op ∈ out.operations) {pairing : SourceLocalPairing}
    (hpairing : op.sourceLocalPairing = some pairing) : ∃ op' ∈ out'.operations,
      op'.sourceLocalPairing = some pairing ∧ op.hostOccurrenceId = placeOf earlier op' pairing := by
  obtain ⟨c, ⟨hc, hslot, -⟩, rfl⟩ := (h.pairing_iff hgroups hop).mp hpairing
  obtain ⟨op', hop', hpairing', hplace⟩ := Run.paired_of hgroups h' earlier hc
  exact ⟨op', hop', hpairing', hslot.symm.trans hplace.symm⟩

/-- A pairing of the run from scratch is at its place in the run, if that is an occurrence, or another call is. -/
theorem Run.pairing_to {op' : Operation} (hop' : op' ∈ out'.operations) {pairing : SourceLocalPairing}
    (hpairing : op'.sourceLocalPairing = some pairing)
    (hplace : ∃ o ∈ out.occurrences, o.hostOccurrenceId = placeOf earlier op' pairing) :
    (∃ op ∈ out.operations, op.hostOccurrenceId = placeOf earlier op' pairing ∧ op.sourceLocalPairing = some pairing) ∨
      ∃ op'' ∈ out'.operations, ∃ pairing', pairing' ≠ pairing ∧ op''.sourceLocalPairing = some pairing' ∧
        placeOf earlier op'' pairing' = placeOf earlier op' pairing := by
  obtain ⟨c, hc, rfl, hslot⟩ := Run.call_of hgroups h' earlier hop' hpairing
  by_cases hother : ∃ c' ∈ pairedCalls groups, c.key < c'.key ∧
      slotOf H observations (some earlier) c' = placeOf earlier op' c.pairing
  · obtain ⟨c', hc', hlt, hslot'⟩ := hother
    obtain ⟨op'', hop'', hpairing'', hplace''⟩ := Run.paired_of hgroups h' earlier hc'
    refine .inr ⟨op'', hop'', c'.pairing, fun heq => ?_, hpairing'', hplace''.trans hslot'⟩
    have hkey : c'.key = c.key := congrArg pairedKey heq
    rw [hkey] at hlt
    exact lt_irrefl _ hlt
  · refine .inl (h.exists_carrier hgroups (h.inPlay_iff.mpr hplace) ⟨hc, hslot.symm, fun c' hc' hlt heq => ?_⟩)
    exact hother ⟨c', hc', hlt, heq⟩

end Pairings

/-- **The places of two calls are two occurrences**, when the earlier run was made over the first of the
observations and ids do not collide. -/
theorem placeOf_inj {first rest : List SourceObservation} {earlier : NormalizationSnapshot}
    {logical logical' : OrdMap HostOccurrenceId SourceLocalPairing}
    {derived derived' : List (Option (Operation × List ScopeEffect))}
    (h : Run H n fresh first none earlier logical derived)
    (h' : Run H n fresh' (first ++ rest) none out' logical' derived') (hids : DistinctIds H (first ++ rest))
    {op op' : Operation} (hop : op ∈ out'.operations) (hop' : op' ∈ out'.operations)
    {pairing pairing' : SourceLocalPairing} (hpairing : op.sourceLocalPairing = some pairing)
    (hpairing' : op'.sourceLocalPairing = some pairing')
    (hplace : placeOf earlier op pairing = placeOf earlier op' pairing') : pairing = pairing' := by
  obtain ⟨groups, hgroups⟩ := h'.localGroups_ok
  obtain ⟨groups₁, hgroups₁⟩ := h.localGroups_ok
  obtain ⟨s, hs, hfirst⟩ := first_nonexact hgroups
  obtain ⟨s₁, hs₁, hfirst₁⟩ := first_nonexact hgroups₁
  -- the place of a call is the occurrence, in one of the two runs, of an observation that belongs to it
  have hplaced : ∀ c ∈ pairedCalls groups, ∃ x ∈ first ++ rest, x.correlation.exactKey = none ∧
      localKey s x.sourceObservationId = some c.key ∧
        ∃ refs, slotOf H (first ++ rest) (some earlier) c = occurrenceIdOf H refs x := by
    intro c hc
    obtain ⟨hmem, hexact, hkey⟩ := hfirst c hc
    unfold slotOf
    cases hanchor : previousAnchor (some earlier) c.key with
    | none => exact ⟨c.first, hmem, hexact, hkey, _, rfl⟩
    | some id =>
      obtain ⟨op₀, hop₀, rfl, pairing₀, hpairing₀, hkey₀⟩ := previousAnchor_eq_some hanchor
      obtain ⟨c₀, ⟨hc₀, hslot₀, -⟩, rfl⟩ := (h.pairing_iff hgroups₁ hop₀).mp hpairing₀
      obtain ⟨hmem₀, hexact₀, hlocal₀⟩ := hfirst₁ c₀ hc₀
      refine ⟨c₀.first, List.mem_append_left _ hmem₀, hexact₀, ?_, conflictingPartialRefs first, hslot₀.symm⟩
      rw [← hkey₀]
      exact localKey_append h'.nodup hs₁ hs hmem₀ hlocal₀
  obtain ⟨c, hc, rfl, hslot⟩ := Run.call_of hgroups h' earlier hop hpairing
  obtain ⟨c', hc', rfl, hslot'⟩ := Run.call_of hgroups h' earlier hop' hpairing'
  obtain ⟨x, hx, hxe, hxk, refs, hxid⟩ := hplaced c hc
  obtain ⟨y, hy, hye, hyk, refs', hyid⟩ := hplaced c' hc'
  have hxy : x = y := by
    refine hids x hx y hy hxe hye refs refs' ?_
    rw [← hxid, ← hyid, ← hslot, ← hslot', hplace]
  rw [hxy, hyk, Option.some.injEq] at hxk
  rw [eq_of_key_eq (pairedCalls_sorted groups) hc' hc hxk]

/-! ## An earlier run over the first observations -/

/-- What a run on top of an earlier snapshot has in common with a run from scratch over the same observations. -/
structure Continues (earlier out batch : NormalizationSnapshot) : Prop where
  occurrences : out.occurrences.map plainOccurrence = batch.occurrences.map plainOccurrence
  /-- an executable occurrence has an operation in both -/
  executable : ∀ o ∈ batch.occurrences, (o.canonicalEventFamily.bind CanonicalEventFamily.operationKind).isSome →
    (∃ op ∈ out.operations, op.hostOccurrenceId = o.hostOccurrenceId) ∧
      ∃ op ∈ batch.operations, op.hostOccurrenceId = o.hostOccurrenceId
  /-- an operation that only one of them has carries a source-local pairing -/
  alone : (∀ op ∈ out.operations, (∀ op' ∈ batch.operations, op'.hostOccurrenceId ≠ op.hostOccurrenceId) →
      op.sourceLocalPairing.isSome) ∧
    ∀ op' ∈ batch.operations, (∀ op ∈ out.operations, op.hostOccurrenceId ≠ op'.hostOccurrenceId) →
      op'.sourceLocalPairing.isSome
  operations : ∀ op ∈ out.operations, ∀ op' ∈ batch.operations, op.hostOccurrenceId = op'.hostOccurrenceId →
    SameOperation op op'
  effects : ∀ op ∈ out.operations, ∀ op' ∈ batch.operations, op.hostOccurrenceId = op'.hostOccurrenceId →
    (∀ e ∈ out.scopeEffects, e.operationId = op.operationId →
      ∃ e' ∈ batch.scopeEffects, e'.operationId = op'.operationId ∧ SameEffect earlier.scopeEffects e e') ∧
    ∀ e' ∈ batch.scopeEffects, e'.operationId = op'.operationId →
      ∃ e ∈ out.scopeEffects, e.operationId = op.operationId ∧ SameEffect earlier.scopeEffects e e'
  pairings : ∀ op ∈ out.operations, ∀ pairing, op.sourceLocalPairing = some pairing →
    ∃ op' ∈ batch.operations, op'.sourceLocalPairing = some pairing ∧
      op.hostOccurrenceId = placeOf earlier op' pairing
  /-- each pairing of the run from scratch is at its place, if that is an occurrence and no other call's place -/
  placed : ∀ op' ∈ batch.operations, ∀ pairing, op'.sourceLocalPairing = some pairing →
    (∃ o ∈ out.occurrences, o.hostOccurrenceId = placeOf earlier op' pairing) →
    (∃ op ∈ out.operations, op.hostOccurrenceId = placeOf earlier op' pairing ∧
      op.sourceLocalPairing = some pairing) ∨
    ∃ op'' ∈ batch.operations, ∃ pairing', pairing' ≠ pairing ∧ op''.sourceLocalPairing = some pairing' ∧
      placeOf earlier op'' pairing' = placeOf earlier op' pairing

/-- **Incremental normalization against batch normalization.** A run over all observations on top of a run over
the first of them agrees with a run from scratch, but that effects already there keep their evidence and calls
already anchored stay where they are. -/
theorem normalize_incremental (H : Sha256) (n : PhysicalNormalizer) (fresh fresh' fresh'' : FreshIds)
    (first all : List SourceObservation) (earlier out batch : NormalizationSnapshot) (hfirst : first <+: all)
    (hearlier : normalize H n fresh first none = .ok earlier)
    (hout : normalize H n fresh' all (some earlier) = .ok out)
    (hbatch : normalize H n fresh'' all none = .ok batch) :
    Continues earlier out batch ∧
      (DistinctIds H all → ∀ op ∈ batch.operations, ∀ op' ∈ batch.operations, ∀ pairing pairing',
        op.sourceLocalPairing = some pairing → op'.sourceLocalPairing = some pairing' →
          placeOf earlier op pairing = placeOf earlier op' pairing' → pairing = pairing') := by
  obtain ⟨rest, rfl⟩ := hfirst
  obtain ⟨_, _, h₀⟩ := normalize_iff.mp hearlier
  obtain ⟨_, _, h⟩ := normalize_iff.mp hout
  obtain ⟨_, _, h'⟩ := normalize_iff.mp hbatch
  obtain ⟨groups, hgroups⟩ := h'.localGroups_ok
  have heffects : (Earlier.of (some earlier)).effects = earlier.scopeEffects := by simp [Earlier.of]
  refine ⟨⟨h.occurrences_eq h', fun o ho hexec => ?_, ⟨fun op hop halone => ?_, fun op' hop' halone => ?_⟩,
    fun op hop op' hop' => h.same_operation h' hop hop', fun op hop op' hop' hhost => ?_,
    fun op hop pairing hpairing => Run.pairing_from hgroups h' h hop hpairing,
    fun op' hop' pairing hpairing => Run.pairing_to hgroups h' h hop' hpairing⟩,
    fun hids op hop op' hop' pairing pairing' hp hp' => placeOf_inj h₀ h' hids hop hop' hp hp'⟩
  · exact ⟨h'.exists_counterpart h ho hexec, h'.exists_counterpart h' ho hexec⟩
  · rw [Option.isSome_iff_ne_none]
    intro hnone
    obtain ⟨op', hop', hhost⟩ := h.counterpart_of_unpaired h' hop hnone
    exact halone op' hop' hhost
  · rw [Option.isSome_iff_ne_none]
    intro hnone
    obtain ⟨op, hop, hhost⟩ := h'.counterpart_of_unpaired h hop' hnone
    exact halone op hop hhost
  · have hsame := h.same_effects h' hop hop' hhost
    rw [heffects] at hsame
    exact hsame

/-! ## Late evidence and a late witness -/

/-- A change of one artifact, for which the record itself is the evidence. -/
def sampleClaim : ScopeEffectClaim where
  effectRole := .mutate
  repositoryInstanceId := none
  worktreeInstanceId := none
  preSnapshotId := none
  postSnapshotId := none
  experimentRunIds := []
  artifactRefs := [⟨1⟩]
  evidenceRefs := []

def claimedIntent : SourceObservation := { intentRecord exactCorrelation with scopeEffectClaims := [sampleClaim] }

def claimedResult : SourceObservation := { resultRecord exactCorrelation with scopeEffectClaims := [sampleClaim] }

/-- A result without a witness of its own. -/
def unwitnessedResult : SourceObservation :=
  sampleObservation "earlier" (partialCorrelation "request" none .result)
    0x7e10dfeaaab3dcc32c371c2df8c8404e0470a2d8b5283fe2a3426f5bbd894ccb
    0xf91abb8562c004e69a53bd84a9aea32f16efb905b05e65a6d7e233acf5856ee7

/-- The late witness of the first result. -/
def lateWitness : SourceObservation :=
  { sampleObservation "witness" (partialCorrelation "request" none .stateProbe)
      0x7def7d6aba48a7e2f0e8dc0b63a398aecfe3229bf69ad06765542b3d483c21c2
      0x0cc5004538116213a3dd25a8d3cd719ce5722a39e0d4a9759b4001d85e580e33 with
    sourceLocalEvidence :=
      some (.namespaceWitness sampleWitness (sampleCall none) [unwitnessedResult.sourceObservationId]) }

/-- The records of the call before the late witness. -/
def callRecords : List SourceObservation := [unwitnessedResult, witnessedResult none, witnessedIntent]

/-- The run over the first observations, the run over all on top of it, and the run over all from scratch. -/
def sampleRuns (first rest : List SourceObservation) :
    Except NormalizeError (NormalizationSnapshot × NormalizationSnapshot × NormalizationSnapshot) := do
  let earlier ← sampleRun first none
  let out ← sampleRun (first ++ rest) (some earlier)
  let batch ← sampleRun (first ++ rest) none
  return (earlier, out, batch)

theorem sampleRuns_ok {first rest : List SourceObservation} {r : NormalizationSnapshot × NormalizationSnapshot × NormalizationSnapshot}
    (h : sampleRuns first rest = .ok r) : sampleRun first none = .ok r.1 ∧
      sampleRun (first ++ rest) (some r.1) = .ok r.2.1 ∧ sampleRun (first ++ rest) none = .ok r.2.2 := by
  unfold sampleRuns at h
  obtain ⟨earlier, hearlier, h⟩ := bind_eq_ok.mp h
  obtain ⟨out, hout, h⟩ := bind_eq_ok.mp h
  obtain ⟨batch, hbatch, h⟩ := bind_eq_ok.mp h
  cases h
  exact ⟨hearlier, hout, hbatch⟩

/-- The late result claims the same change as the intent: its evidence is only in the run from scratch. -/
theorem late_evidence : ∃ r, sampleRuns [claimedIntent] [claimedResult] = .ok r ∧
    r.2.1.scopeEffects.map (·.evidenceRefs) = [[claimedIntent.sourceObservationId]] ∧
    r.2.2.scopeEffects.map (·.evidenceRefs) =
      [[claimedIntent.sourceObservationId, claimedResult.sourceObservationId]] := by
  have hruns : (sampleRuns [claimedIntent] [claimedResult]).map (fun r =>
      (r.2.1.scopeEffects.map (·.evidenceRefs), r.2.2.scopeEffects.map (·.evidenceRefs))) =
      .ok ([[claimedIntent.sourceObservationId]],
        [[claimedIntent.sourceObservationId, claimedResult.sourceObservationId]]) := by
    decide +kernel
  cases h : sampleRuns [claimedIntent] [claimedResult] with
  | error e =>
    rw [h] at hruns
    cases hruns
  | ok r =>
    rw [h] at hruns
    obtain ⟨hout, hbatch⟩ := Prod.mk.inj (Except.ok.inj hruns)
    exact ⟨r, rfl, hout, hbatch⟩

/-- The late witness makes an earlier record the first result of the call: the call moves there only in the run
from scratch. -/
theorem late_witness : ∃ r, sampleRuns callRecords [lateWitness] = .ok r ∧
    r.2.1.operations.map (·.hostOccurrenceId) = [occurrenceIdOf sampleSha [] (witnessedResult none)] ∧
    r.2.2.operations.map (·.hostOccurrenceId) = [occurrenceIdOf sampleSha [] unwitnessedResult] ∧
    occurrenceIdOf sampleSha [] (witnessedResult none) ≠ occurrenceIdOf sampleSha [] unwitnessedResult := by
  have hruns : (sampleRuns callRecords [lateWitness]).map (fun r =>
      (r.2.1.operations.map (·.hostOccurrenceId), r.2.2.operations.map (·.hostOccurrenceId))) =
      .ok ([occurrenceIdOf sampleSha [] (witnessedResult none)], [occurrenceIdOf sampleSha [] unwitnessedResult]) := by
    decide +kernel
  cases h : sampleRuns callRecords [lateWitness] with
  | error e =>
    rw [h] at hruns
    cases hruns
  | ok r =>
    rw [h] at hruns
    obtain ⟨hout, hbatch⟩ := Prod.mk.inj (Except.ok.inj hruns)
    exact ⟨r, rfl, hout, hbatch, by decide +kernel⟩

/-- **Counterexample**: on top of a run over the first observations an effect keeps its first evidence, and a call
stays at its first anchor; from scratch neither is so. -/
theorem batch_differs :
    (∃ earlier out batch, sampleRun [claimedIntent] none = .ok earlier ∧
      sampleRun [claimedIntent, claimedResult] (some earlier) = .ok out ∧
      sampleRun [claimedIntent, claimedResult] none = .ok batch ∧
      out.scopeEffects.map (·.evidenceRefs) ≠ batch.scopeEffects.map (·.evidenceRefs)) ∧
    ∃ earlier out batch, sampleRun callRecords none = .ok earlier ∧
      sampleRun (callRecords ++ [lateWitness]) (some earlier) = .ok out ∧
      sampleRun (callRecords ++ [lateWitness]) none = .ok batch ∧
      out.operations.map (·.hostOccurrenceId) ≠ batch.operations.map (·.hostOccurrenceId) := by
  constructor
  · obtain ⟨r, hruns, hout, hbatch⟩ := late_evidence
    obtain ⟨h₁, h₂, h₃⟩ := sampleRuns_ok hruns
    refine ⟨r.1, r.2.1, r.2.2, h₁, h₂, h₃, ?_⟩
    rw [hout, hbatch]
    decide
  · obtain ⟨r, hruns, hout, hbatch, hne⟩ := late_witness
    obtain ⟨h₁, h₂, h₃⟩ := sampleRuns_ok hruns
    refine ⟨r.1, r.2.1, r.2.2, h₁, h₂, h₃, ?_⟩
    rw [hout, hbatch]
    exact fun heq => hne (List.cons.inj heq).1

/-- The late evidence is all that is different there. -/
theorem late_evidence_continues : ∃ earlier out batch, sampleRun [claimedIntent] none = .ok earlier ∧
    sampleRun [claimedIntent, claimedResult] (some earlier) = .ok out ∧
    sampleRun [claimedIntent, claimedResult] none = .ok batch ∧ Continues earlier out batch := by
  obtain ⟨r, hruns, -, -⟩ := late_evidence
  obtain ⟨h₁, h₂, h₃⟩ := sampleRuns_ok hruns
  exact ⟨r.1, r.2.1, r.2.2, h₁, h₂, h₃, (normalize_incremental _ _ _ _ _ _ _ _ _ _
    (List.prefix_append [claimedIntent] [claimedResult]) h₁ h₂ h₃).1⟩

end EverTrace.L2.Normalize
