import EverTrace.L2Machine.NormalizeRun
/-!
# Operations and scope effects of a run

Which ids operations and effects get, when an operation is refused, and that
the snapshot made of them passes its own check. Ids drawn with `new_v7` are new
(`FreshIds.New`); then an operation id belongs to one occurrence and an effect
id to one claim of one occurrence, kept or drawn alike.
-/
namespace EverTrace.L2.Normalize
open EverTrace.Lib EverTrace.L1 EverTrace.L1.Canonical EverTrace.L2.Work EverTrace.L2.Evidence

variable {H : Sha256} {n : PhysicalNormalizer} {fresh : FreshIds} {observations : List SourceObservation}
  {previous : Option NormalizationSnapshot}

/-- An occurrence id of a run over these observations. -/
def InPlay (H : Sha256) (observations : List SourceObservation) (id : HostOccurrenceId) : Prop :=
  ∃ o ∈ observations, occurrenceIdOf H (conflictingPartialRefs observations) o = id

/-- The ids drawn in a run differ from each other and from the ids of the earlier snapshot. -/
structure FreshIds.New (fresh : FreshIds) (H : Sha256) (observations : List SourceObservation)
    (previous : Option NormalizationSnapshot) : Prop where
  operation_inj : ∀ h h', InPlay H observations h → InPlay H observations h' →
    fresh.operation h = fresh.operation h' → h = h'
  operation_new : ∀ h, InPlay H observations h → ∀ s, previous = some s → ∀ op ∈ s.operations,
    op.operationId ≠ fresh.operation h
  effect_inj : ∀ h h' k k', InPlay H observations h → InPlay H observations h' → Claimed observations k →
    Claimed observations k' → fresh.scopeEffect h k = fresh.scopeEffect h' k' → h = h' ∧ k = k'
  effect_new : ∀ h k, InPlay H observations h → Claimed observations k → ∀ s, previous = some s →
    ∀ e ∈ s.scopeEffects, e.scopeEffectId ≠ fresh.scopeEffect h k

/-! ## The earlier snapshot -/

theorem earlier_effects {e : ScopeEffect} :
    e ∈ (Earlier.of previous).effects ↔ ∃ s, previous = some s ∧ e ∈ s.scopeEffects := by
  cases previous <;> simp [Earlier.of]

theorem earlier_operation {id : HostOccurrenceId} {op : Operation}
    (h : (Earlier.of previous).operations.get id = some op) :
    op.hostOccurrenceId = id ∧ ∃ s, previous = some s ∧ op ∈ s.operations := by
  rcases OrdMap.mem_of_get_insertAll h with h | h
  · obtain ⟨x, hx, heq⟩ := List.mem_map.mp h
    cases heq
    refine ⟨rfl, ?_⟩
    cases hp : previous with
    | none => rw [hp] at hx; simp at hx
    | some s => rw [hp] at hx; exact ⟨s, rfl, by simpa using hx⟩
  · cases h

theorem earlier_occurrence {id : HostOccurrenceId} {o : HostOccurrence}
    (h : (Earlier.of previous).occurrences.get id = some o) :
    o.hostOccurrenceId = id ∧ ∃ s, previous = some s ∧ o ∈ s.occurrences := by
  rcases OrdMap.mem_of_get_insertAll h with h | h
  · obtain ⟨x, hx, heq⟩ := List.mem_map.mp h
    cases heq
    refine ⟨rfl, ?_⟩
    cases hp : previous with
    | none => rw [hp] at hx; simp at hx
    | some s => rw [hp] at hx; exact ⟨s, rfl, by simpa using hx⟩
  · cases h

/-! ## Ids -/

section Ids

variable (hprevious : ∀ s, previous = some s → CheckedSnapshot H s) (hnew : fresh.New H observations previous)
include hprevious hnew

/-- One operation id for each occurrence. -/
theorem operationIdOf_inj {h h' : HostOccurrenceId} (hh : InPlay H observations h) (hh' : InPlay H observations h')
    (heq : operationIdOf fresh (Earlier.of previous) h = operationIdOf fresh (Earlier.of previous) h') : h = h' := by
  unfold operationIdOf at heq
  cases ho : (Earlier.of previous).operations.get h with
  | none =>
    rw [ho] at heq
    cases ho' : (Earlier.of previous).operations.get h' with
    | none =>
      rw [ho'] at heq
      exact hnew.operation_inj h h' hh hh' heq
    | some op' =>
      rw [ho'] at heq
      obtain ⟨-, s, hs, hop⟩ := earlier_operation ho'
      exact absurd heq.symm (hnew.operation_new h hh s hs op' hop)
  | some op =>
    rw [ho] at heq
    obtain ⟨hid, s, hs, hop⟩ := earlier_operation ho
    cases ho' : (Earlier.of previous).operations.get h' with
    | none =>
      rw [ho'] at heq
      exact absurd heq (hnew.operation_new h' hh' s hs op hop)
    | some op' =>
      rw [ho'] at heq
      obtain ⟨hid', s', hs', hop'⟩ := earlier_operation ho'
      rw [hs, Option.some.injEq] at hs'
      subst hs'
      have hsame := List.inj_on_of_nodup_map (hprevious s hs).operations_nodup hop hop' heq
      rw [← hid, ← hid', hsame]

omit hprevious hnew in
/-- An effect for a claim is an earlier one about the same, or new. -/
theorem effectFor_cases {effects : List ScopeEffect} {newId : ScopeClaimKey → ScopeEffectId} {op : OperationId}
    {key : ScopeClaimKey} (evidence : List SourceObservationId) :
    (∃ e, effects.find? (fun e => e.operationId == op && effectMatchesClaim e (key.claim [])) = some e ∧
      e ∈ effects ∧ e.operationId = op ∧ effectSubject e = key ∧
      effectFor effects newId op (key.claim evidence) = e) ∨
    (effects.find? (fun e => e.operationId == op && effectMatchesClaim e (key.claim [])) = none ∧
      effectFor effects newId op (key.claim evidence) = newEffect (newId key) op (key.claim evidence)) := by
  have hsame : effectFor effects newId op (key.claim evidence) =
      (effects.find? fun e => e.operationId == op && effectMatchesClaim e (key.claim [])).getD
        (newEffect (newId key) op (key.claim evidence)) := rfl
  rw [hsame]
  cases hfind : effects.find? fun e => e.operationId == op && effectMatchesClaim e (key.claim []) with
  | none => exact .inr ⟨rfl, rfl⟩
  | some e =>
    have hmatch := List.find?_some hfind
    rw [Bool.and_eq_true, beq_iff_eq, effectMatchesClaim_iff] at hmatch
    exact .inl ⟨e, rfl, List.mem_of_find?_eq_some hfind, hmatch.1, hmatch.2, rfl⟩

/-- The effect of an occurrence for what a key is about. -/
def effectOf (fresh : FreshIds) (earlier : Earlier) (h : HostOccurrenceId) (key : ScopeClaimKey)
    (evidence : List SourceObservationId) : ScopeEffect :=
  effectFor earlier.effects (fresh.scopeEffect h) (operationIdOf fresh earlier h) (key.claim evidence)

omit hprevious hnew in
theorem effectOf_operationId (earlier : Earlier) (h : HostOccurrenceId) (key : ScopeClaimKey)
    (evidence : List SourceObservationId) :
    (effectOf fresh earlier h key evidence).operationId = operationIdOf fresh earlier h ∧
      effectSubject (effectOf fresh earlier h key evidence) = key := by
  unfold effectOf
  rcases effectFor_cases evidence with ⟨e, -, -, hop, hkey, heq⟩ | ⟨-, heq⟩
  · rw [heq]
    exact ⟨hop, hkey⟩
  · rw [heq]
    exact ⟨rfl, rfl⟩

theorem effectOf_inj {h h' : HostOccurrenceId} {k k' : ScopeClaimKey} {v v' : List SourceObservationId}
    (hh : InPlay H observations h) (hh' : InPlay H observations h') (hk : Claimed observations k)
    (hk' : Claimed observations k')
    (heq : (effectOf fresh (Earlier.of previous) h k v).scopeEffectId =
      (effectOf fresh (Earlier.of previous) h' k' v').scopeEffectId) : h = h' ∧ k = k' := by
  unfold effectOf at heq
  rcases effectFor_cases v with ⟨e, -, he, hop, hkey, hef⟩ | ⟨-, hef⟩
  · rw [hef] at heq
    obtain ⟨s, hs, hes⟩ := earlier_effects.mp he
    rcases effectFor_cases v' with ⟨e', -, he', hop', hkey', hef'⟩ | ⟨-, hef'⟩
    · rw [hef'] at heq
      obtain ⟨s', hs', hes'⟩ := earlier_effects.mp he'
      rw [hs, Option.some.injEq] at hs'
      subst hs'
      have hsame := List.inj_on_of_nodup_map (hprevious s hs).effects_nodup hes hes' heq
      subst hsame
      exact ⟨operationIdOf_inj hprevious hnew hh hh' (hop ▸ hop'), hkey ▸ hkey'⟩
    · rw [hef'] at heq
      exact absurd heq (hnew.effect_new h' k' hh' hk' s hs e hes)
  · rw [hef] at heq
    rcases effectFor_cases v' with ⟨e', -, he', hop', hkey', hef'⟩ | ⟨-, hef'⟩
    · rw [hef'] at heq
      obtain ⟨s', hs', hes'⟩ := earlier_effects.mp he'
      exact absurd heq.symm (hnew.effect_new h k hh hk s' hs' e' hes')
    · rw [hef'] at heq
      exact hnew.effect_inj h h' k k' hh hh' hk hk' heq

end Ids

/-! ## Operations -/

def withOperationRevision (op : Operation) (revision : UInt32) (previous : Option UInt32) : Operation :=
  { op with operationRevision := revision, previousOperationRevision := previous }

theorem updateOperationRevision_shape (op : Operation) (previous : Option Operation)
    (h : op = withOperationRevision op 1 none) :
    ∃ revision earlier, updateOperationRevision op previous = withOperationRevision op revision earlier := by
  unfold updateOperationRevision
  split
  · exact ⟨_, _, h⟩
  · split
    · next heq => exact ⟨_, _, heq.symm⟩
    · exact ⟨_, _, rfl⟩

/-- What `Operation::validate` establishes. -/
structure CheckedOperation (op : Operation) : Prop where
  pairing : ∀ p, op.sourceLocalPairing = some p → p.validate = .ok ()
  version : op.operationResolverVersion ≠ 0
  revision : RevisionOk op.operationRevision op.previousOperationRevision
  inputs : op.inputSourceObservationRefs.Nodup
  results : op.resultSourceObservationRefs.Nodup
  effects : op.scopeEffectIds.Nodup
  artifacts : op.artifactRefs.Nodup
  disjoint : ∀ id ∈ op.inputSourceObservationRefs, id ∉ op.resultSourceObservationRefs
  fits : op.contradictsPairing = false
  filled : op.inputSourceObservationRefs ≠ [] ∨ op.resultSourceObservationRefs ≠ []

theorem checkedSucc_eq_some {p revision : UInt32} :
    Operation.checkedSucc p = some revision ↔ p + 1 = revision ∧ p.toNat + 1 < 2 ^ 32 := by
  unfold Operation.checkedSucc
  have hbound := p.toNat_lt
  by_cases hmax : p = UInt32.ofNat (2 ^ 32 - 1)
  · rw [if_pos hmax]
    refine ⟨fun h => (by cases h), fun h => ?_⟩
    rw [hmax] at h
    exact absurd h.2 (by decide)
  · rw [if_neg hmax, Option.some.injEq]
    refine ⟨fun h => ⟨h, ?_⟩, And.left⟩
    by_contra hlast
    refine hmax (UInt32.toNat_inj.mp ?_)
    show p.toNat = 2 ^ 32 - 1
    omega

/-- The head condition on the two revision fields says that they fit together. -/
theorem revision_head_iff {revision : UInt32} {previous : Option UInt32} :
    ((revision == 0) = false ∧
      previous.any (fun p => p == 0 || Operation.checkedSucc p != some revision) = false ∧
      (revision == 1 && previous.isSome) = false) ↔ RevisionOk revision previous := by
  refine ⟨fun ⟨hne, hstep, hfirst⟩ => ?_, fun h => ⟨h.occurrence.1, h.operation, h.occurrence.2.2⟩⟩
  have hstep' : ∀ p, previous = some p → p ≠ 0 ∧ Operation.checkedSucc p = some revision := by
    intro p hp
    rw [hp] at hstep
    simpa using hstep
  refine ⟨beq_eq_false_iff_ne.mp hne, fun p hp => (hstep' p hp).1,
    fun p hp => checkedSucc_eq_some.mp (hstep' p hp).2, fun hone => ?_⟩
  rw [hone] at hfirst
  simpa using hfirst

theorem operation_validate_iff {op : Operation} : op.validate = .ok () ↔ CheckedOperation op := by
  unfold Operation.validate
  refine ⟨fun h => ?_, fun h => ?_⟩
  · obtain ⟨_, hpairing, h⟩ := bind_eq_ok.mp h
    obtain ⟨hhead, h⟩ := ensure_bind_ok.mp h
    obtain ⟨_, hinputs, h⟩ := bind_eq_ok.mp h
    obtain ⟨_, hresults, h⟩ := bind_eq_ok.mp h
    obtain ⟨_, heffects, h⟩ := bind_eq_ok.mp h
    obtain ⟨_, hartifacts, h⟩ := bind_eq_ok.mp h
    obtain ⟨hlists, h⟩ := ensure_bind_ok.mp h
    simp only [Bool.not_eq_true', Bool.or_eq_false_iff] at hhead
    obtain ⟨⟨⟨hversion, hne⟩, hstep⟩, hfirst⟩ := hhead
    rw [Bool.not_eq_true', Bool.or_eq_false_iff, List.any_eq_false] at hlists
    refine ⟨fun p hp => forM_eq_ok.mp hpairing p (by simp [hp]), beq_eq_false_iff_ne.mp hversion,
      revision_head_iff.mp ⟨hne, hstep, hfirst⟩, requireUnique_ok.mp hinputs, requireUnique_ok.mp hresults,
      requireUnique_ok.mp heffects, requireUnique_ok.mp hartifacts, fun id hid => ?_, hlists.2, ?_⟩
    · simpa using hlists.1 id hid
    · simpa using ensure_ok.mp h
  · obtain ⟨hne, hstep, hfirst⟩ := revision_head_iff.mpr h.revision
    have hversion := beq_eq_false_iff_ne.mpr h.version
    have hdisjoint : op.inputSourceObservationRefs.any (op.resultSourceObservationRefs.contains ·) = false := by
      rw [List.any_eq_false]
      intro id hid
      simpa using h.disjoint id hid
    refine bind_eq_ok.mpr ⟨(), forM_eq_ok.mpr fun p hp => h.pairing p (Option.mem_toList.mp hp), ?_⟩
    refine ensure_bind_ok.mpr ⟨by simp only [hversion, hne, hstep, hfirst, Bool.or_false, Bool.not_false], ?_⟩
    refine bind_eq_ok.mpr ⟨(), requireUnique_ok.mpr h.inputs, ?_⟩
    refine bind_eq_ok.mpr ⟨(), requireUnique_ok.mpr h.results, ?_⟩
    refine bind_eq_ok.mpr ⟨(), requireUnique_ok.mpr h.effects, ?_⟩
    refine bind_eq_ok.mpr ⟨(), requireUnique_ok.mpr h.artifacts, ?_⟩
    refine ensure_bind_ok.mpr ⟨by simp only [hdisjoint, h.fits, Bool.or_false, Bool.not_false], ensure_ok.mpr ?_⟩
    simpa using h.filled

/-- Counting on changes the two revision fields, and they fit. -/
theorem updateOperationRevision_eq {op : Operation} {previous : Option Operation}
    (h : op = withOperationRevision op 1 none)
    (hprevious : ∀ p, previous = some p → p.validate = .ok () ∧ p.operationRevision.toNat + 1 < 2 ^ 32) :
    ∃ revision earlier, RevisionOk revision earlier ∧
      updateOperationRevision op previous = withOperationRevision op revision earlier := by
  unfold updateOperationRevision
  split
  · exact ⟨1, none, .one, h⟩
  · next p =>
    obtain ⟨hvalid, hlast⟩ := hprevious p rfl
    split
    · next heq => exact ⟨_, _, (operation_validate_iff.mp hvalid).revision, heq.symm⟩
    · exact ⟨_, _, .next (operation_validate_iff.mp hvalid).revision.ne_zero hlast, rfl⟩

section Pairing

variable {members : List SourceObservation}

theorem countP_roles (members : List SourceObservation) :
    members.countP (·.observationRole == .intent) + members.countP (·.observationRole != .intent) = members.length ∧
      members.countP (·.observationRole == .result) ≤ members.countP (·.observationRole != .intent) := by
  refine ⟨?_, ?_⟩
  · rw [List.length_eq_countP_add_countP (fun o : SourceObservation => o.observationRole == .intent)]
    congr 1
    refine List.countP_congr fun o _ => ?_
    simp
  · refine List.countP_mono_left fun o _ ho => ?_
    rw [beq_iff_eq] at ho
    rw [ho]
    rfl

/-- An operation of the members, as far as its pairing state goes. -/
structure PairsMembers (op : Operation) (members : List SourceObservation) : Prop where
  inputs : op.inputSourceObservationRefs.length = members.countP (·.observationRole == .intent)
  results : op.resultSourceObservationRefs.length = members.countP (·.observationRole != .intent)

/-- One intent, no result, and something else besides. -/
def Lopsided (members : List SourceObservation) : Prop :=
  members.countP (·.observationRole == .intent) = 1 ∧ members.countP (·.observationRole == .result) = 0 ∧
    1 < members.length

instance (members : List SourceObservation) : Decidable (Lopsided members) := by
  unfold Lopsided
  infer_instance

theorem pairingState_cases (members : List SourceObservation) :
    let intents := members.countP (·.observationRole == .intent)
    let results := members.countP (·.observationRole == .result)
    (pairingState members true = .conflicted ∧ (1 < intents ∨ 1 < results)) ∨
      (pairingState members true = .paired ∧ intents = 1 ∧ results = 1) ∨
      (pairingState members true = .unmatchedIntent ∧ intents = 1 ∧ results = 0) ∨
      (pairingState members true = .unmatchedResult ∧ intents = 0 ∧ results = 1) ∨
      (pairingState members true = .notApplicable ∧ intents = 0 ∧ results = 0) := by
  unfold pairingState
  dsimp only
  generalize members.countP (·.observationRole == .intent) = intents
  generalize members.countP (·.observationRole == .result) = results
  by_cases hmany : 1 < intents ∨ 1 < results
  · exact .inl ⟨if_pos (by simpa using hmany), hmany⟩
  · rw [if_neg (by simpa using hmany)]
    by_cases hi : intents = 1
    · by_cases hr : results = 1
      · exact .inr (.inl ⟨by simp [hi, hr], hi, hr⟩)
      · exact .inr (.inr (.inl ⟨by simp [hi, hr], hi, by omega⟩))
    · by_cases hr : results = 1
      · exact .inr (.inr (.inr (.inl ⟨by simp [hi, hr], by omega, hr⟩)))
      · exact .inr (.inr (.inr (.inr ⟨by simp [hi, hr], by omega, by omega⟩)))

/-- **The pairing state of an exact group contradicts the lists exactly when the group is lopsided.** -/
theorem contradictsPairing_exact {op : Operation} (h : PairsMembers op members) (hne : members ≠ [])
    (hstate : op.pairingState = pairingState members true) : op.contradictsPairing = true ↔ Lopsided members := by
  obtain ⟨hinputs, hresults⟩ := h
  obtain ⟨hsum, hle⟩ := countP_roles members
  have hpos : 0 < members.length := List.length_pos_of_ne_nil hne
  unfold Operation.contradictsPairing Lopsided
  rw [hstate]
  rcases pairingState_cases members with ⟨hs, hn⟩ | ⟨hs, hi, hr⟩ | ⟨hs, hi, hr⟩ | ⟨hs, hi, hr⟩ | ⟨hs, hi, hr⟩
  all_goals
    rw [hs]
    simp only [Bool.or_eq_true, Bool.and_eq_true, Bool.not_eq_true', decide_eq_true_eq, List.isEmpty_eq_false_iff,
      List.isEmpty_iff, ← List.length_eq_zero_iff, ne_eq, hinputs, hresults, Bool.false_eq_true, false_iff]
    omega

theorem contradictsPairing_nonexact {op : Operation} {x : SourceObservation} (h : PairsMembers op [x])
    (hstate : op.pairingState = if executable x then pairingState [x] false else .notApplicable) :
    op.contradictsPairing = false := by
  obtain ⟨hinputs, hresults⟩ := h
  unfold Operation.contradictsPairing
  rw [hstate]
  by_cases hexec : executable x
  · rw [if_pos hexec]
    unfold pairingState
    by_cases hi : x.observationRole = .intent
    · have hin : op.inputSourceObservationRefs ≠ [] := List.ne_nil_of_length_pos (by simp [hinputs, hi])
      have hout : op.resultSourceObservationRefs = [] := List.length_eq_zero_iff.mp (by simp [hresults, hi])
      simp [hi, hin, hout]
    · by_cases hr : x.observationRole = .result
      · have hin : op.inputSourceObservationRefs = [] := List.length_eq_zero_iff.mp (by simp [hinputs, hr])
        have hout : op.resultSourceObservationRefs ≠ [] := List.ne_nil_of_length_pos (by simp [hresults, hr])
        simp [hr, hin, hout]
      · simp [hi, hr]
  · rw [if_neg hexec]

end Pairing

/-- The operation of valid members checks itself exactly when its pairing state fits its lists. -/
theorem newOperation_validate {o : HostOccurrence} {members : List SourceObservation}
    {pairing : Option SourceLocalPairing} {kind : OperationKind} {operationId : OperationId}
    {effects : List ScopeEffect} (hn : (members.map (·.sourceObservationId)).Nodup) (hne : members ≠ [])
    (hpairing : ∀ p, pairing = some p → p.validate = .ok ())
    (heffects : (effects.map (·.scopeEffectId)).Nodup) {revision : UInt32} {earlier : Option UInt32}
    (hrevision : RevisionOk revision earlier) :
    (withOperationRevision (newOperation n o members pairing kind operationId effects) revision earlier).validate = .ok () ↔
      (newOperation n o members pairing kind operationId effects).contradictsPairing = false := by
  have hids : ∀ p : SourceObservation → Bool,
      (((members.filter p).map (·.sourceObservationId)).insertionSort (· ≤ ·)).Nodup := fun p =>
    (List.perm_insertionSort _ _).nodup_iff.mpr (hn.sublist (List.filter_sublist.map _))
  rw [operation_validate_iff]
  refine ⟨fun h => h.fits, fun h => ?_⟩
  refine ⟨hpairing, n.resolverVersion_ne, hrevision, hids _, hids _, heffects, sortUnique_nodup _, ?_, h, ?_⟩
  · intro id hid hid'
    simp only [withOperationRevision, newOperation, List.mem_insertionSort, List.mem_map, List.mem_filter] at hid hid'
    obtain ⟨x, ⟨hx, hxr⟩, rfl⟩ := hid
    obtain ⟨y, ⟨hy, hyr⟩, heq⟩ := hid'
    have hsame : y = x := List.inj_on_of_nodup_map hn hy hx heq
    rw [hsame, bne_iff_ne] at hyr
    exact hyr (beq_iff_eq.mp hxr)
  · obtain ⟨x, hx⟩ := List.exists_mem_of_ne_nil _ hne
    by_cases hrole : x.observationRole = .intent
    · refine .inl (List.ne_nil_of_mem (a := x.sourceObservationId) ?_)
      simpa [withOperationRevision, newOperation] using ⟨x, ⟨hx, hrole⟩, rfl⟩
    · refine .inr (List.ne_nil_of_mem (a := x.sourceObservationId) ?_)
      simpa [withOperationRevision, newOperation] using ⟨x, ⟨hx, hrole⟩, rfl⟩

theorem newOperation_pairs {o : HostOccurrence} {members members' : List SourceObservation}
    {pairing : Option SourceLocalPairing} {kind : OperationKind} {operationId : OperationId}
    {effects : List ScopeEffect} (hperm : members'.Perm members) :
    PairsMembers (newOperation n o members' pairing kind operationId effects) members := by
  refine ⟨?_, ?_⟩
  · simp only [newOperation, List.length_insertionSort, List.length_map, ← List.countP_eq_length_filter]
    exact hperm.countP_eq _
  · simp only [newOperation, List.length_insertionSort, List.length_map, ← List.countP_eq_length_filter]
    exact hperm.countP_eq _

/-! ## Deriving the operation of an occurrence -/

theorem evidenceFor_perm {members members' : List SourceObservation} (h : members.Perm members')
    (key : ScopeClaimKey) : sortUnique (evidenceFor members key) = sortUnique (evidenceFor members' key) :=
  sortUnique_eq_of_perm ((h.flatMap_right _).flatMap_right _)

theorem claimed_perm {members members' : List SourceObservation} (h : members.Perm members') {key : ScopeClaimKey} :
    Claimed members key ↔ Claimed members' key := by
  unfold Claimed
  simp only [h.mem_iff]

theorem Claimed.mono {members members' : List SourceObservation} (h : ∀ x ∈ members, x ∈ members')
    {key : ScopeClaimKey} (hk : Claimed members key) : Claimed members' key := by
  obtain ⟨o, ho, hclaim⟩ := hk
  exact ⟨o, h o ho, hclaim⟩

theorem effectOf_validate {members : List SourceObservation} (hm : ∀ o ∈ members, CheckedObservation o)
    (hprevious : ∀ s, previous = some s → CheckedSnapshot H s) {h : HostOccurrenceId} {key : ScopeClaimKey}
    (hkey : Claimed members key) :
    (effectOf fresh (Earlier.of previous) h key (sortUnique (evidenceFor members key))).validate = .ok () := by
  unfold effectOf
  rcases effectFor_cases (sortUnique (evidenceFor members key)) with ⟨e, -, he, -, -, heq⟩ | ⟨-, heq⟩
  · rw [heq]
    obtain ⟨s, hs, hes⟩ := earlier_effects.mp he
    exact ((hprevious s hs).effect e hes).1
  · rw [heq]
    exact merged_validate hm hkey

/-- The effects of an occurrence, in the order of their ids. -/
def effectsOf (fresh : FreshIds) (earlier : Earlier) (h : HostOccurrenceId) (members : List SourceObservation)
    (keys : List ScopeClaimKey) : List ScopeEffect :=
  sortByKey (·.scopeEffectId)
    (keys.map fun key => effectOf fresh earlier h key (sortUnique (evidenceFor members key)))

/-- The operation of an occurrence before it is checked. -/
def plainOperation (n : PhysicalNormalizer) (fresh : FreshIds) (earlier : Earlier) (o : HostOccurrence)
    (members : List SourceObservation) (pairing : Option SourceLocalPairing) (kind : OperationKind)
    (keys : List ScopeClaimKey) : Operation :=
  newOperation n o (sortByKey (·.sourceObservationId) members) pairing kind
    (operationIdOf fresh earlier o.hostOccurrenceId) (effectsOf fresh earlier o.hostOccurrenceId members keys)

def operationFor (n : PhysicalNormalizer) (fresh : FreshIds) (earlier : Earlier) (o : HostOccurrence)
    (members : List SourceObservation) (pairing : Option SourceLocalPairing) (kind : OperationKind)
    (keys : List ScopeClaimKey) : Operation :=
  updateOperationRevision (plainOperation n fresh earlier o members pairing kind keys)
    (earlier.operations.get o.hostOccurrenceId)

def checkedDerivation (operation : Operation) (effects : List ScopeEffect) :
    Except NormalizeError (Option (Operation × List ScopeEffect)) := do
  operation.validate.mapError fun _ => NormalizeError.invalidResult
  return some (operation, effects)

theorem checkedDerivation_ok {operation : Operation} {effects : List ScopeEffect}
    {derived : Option (Operation × List ScopeEffect)} : checkedDerivation operation effects = .ok derived ↔
      operation.validate = .ok () ∧ derived = some (operation, effects) := by
  unfold checkedDerivation
  rw [bind_eq_ok]
  refine ⟨fun ⟨_, hv, hd⟩ => ⟨mapError_ok.mp hv, ?_⟩, fun ⟨hv, hd⟩ => ⟨(), mapError_ok.mpr hv, hd ▸ rfl⟩⟩
  exact (pure_eq_ok.mp hd).symm

section Derive

variable (hm : ∀ o ∈ observations, CheckedObservation o) (hn : (observations.map (·.sourceObservationId)).Nodup)
  (hprevious : ∀ s, previous = some s → CheckedSnapshot H s) {o : HostOccurrence} {members : List SourceObservation}
  (hmem : ∀ x ∈ members, x ∈ observations)
  (hrefs : o.sourceObservationRefs = (members.map (·.sourceObservationId)).insertionSort (· ≤ ·))
include hn hmem hrefs

theorem members_lookup : o.sourceObservationRefs.mapM (fun id => okOr NormalizeError.invalidResult
    ((byIdOf observations).get id)) = .ok (sortByKey (·.sourceObservationId) members) := by
  have hsorted : o.sourceObservationRefs =
      (sortByKey (·.sourceObservationId) members).map (·.sourceObservationId) := by
    rw [hrefs]
    exact sortByKey_map (fun id => id) (·.sourceObservationId) members
  rw [hsorted]
  refine mapM_map_ok fun x hx => okOr_ok.mpr ((get_byIdOf hn).mpr ⟨?_, rfl⟩)
  exact hmem x ((sortByKey_perm _ _).mem_iff.mp hx)

include hm hprevious

/-- What an occurrence derives: nothing, or the operation of its members with one effect for each
key they claim, unless the operation does not check itself. -/
theorem deriveOperation_eq (logical : OrdMap HostOccurrenceId SourceLocalPairing) :
    ∃ keys : List ScopeClaimKey, keys.Nodup ∧ (∀ key, key ∈ keys ↔ Claimed members key) ∧
      deriveOperation n fresh (Earlier.of previous) (byIdOf observations) logical o =
        match operationKindOf o (logical.get o.hostOccurrenceId) with
        | none => .ok none
        | some kind => checkedDerivation
            (operationFor n fresh (Earlier.of previous) o members (logical.get o.hostOccurrenceId) kind keys)
            (effectsOf fresh (Earlier.of previous) o.hostOccurrenceId members keys) := by
  have hperm := sortByKey_perm (fun x : SourceObservation => x.sourceObservationId) members
  have hchecked : ∀ x ∈ sortByKey (·.sourceObservationId) members, CheckedObservation x := fun x hx =>
    hm x (hmem x (hperm.mem_iff.mp hx))
  obtain ⟨keys, hnodup, hkeys, hmerge⟩ := mergeScopeClaims_eq hchecked
  refine ⟨keys, hnodup, fun key => (hkeys key).trans (claimed_perm hperm), ?_⟩
  have heffects : (keys.map fun key => key.claim (sortUnique (evidenceFor
      (sortByKey (·.sourceObservationId) members) key))).mapM (deriveEffect (Earlier.of previous).effects
        (fresh.scopeEffect o.hostOccurrenceId) (operationIdOf fresh (Earlier.of previous) o.hostOccurrenceId)) =
      .ok (keys.map fun key => effectOf fresh (Earlier.of previous) o.hostOccurrenceId key
        (sortUnique (evidenceFor members key))) := by
    rw [List.mapM_map]
    refine mapM_ok_of_forall fun key hkey => ?_
    have hvalid := @effectOf_validate _ fresh _ _ hchecked hprevious o.hostOccurrenceId key
      ((hkeys key).mp hkey)
    unfold effectOf at hvalid
    rw [evidenceFor_perm hperm] at hvalid
    simp only [Function.comp_apply, deriveEffect, evidenceFor_perm hperm, hvalid, effectOf]
    rfl
  unfold deriveOperation
  simp only [members_lookup hn hmem hrefs, bind, Except.bind]
  cases operationKindOf o (logical.get o.hostOccurrenceId) with
  | none => rfl
  | some kind =>
    simp only [hmerge, heffects]
    rfl

end Derive

/-! ## The snapshot of a run -/

/-- An operation with its effects, as derived in a run. -/
structure Derived (H : Sha256) (fresh : FreshIds) (observations : List SourceObservation)
    (previous : Option NormalizationSnapshot) (d : Operation × List ScopeEffect) : Prop where
  inPlay : InPlay H observations d.1.hostOccurrenceId
  operationId : d.1.operationId = operationIdOf fresh (Earlier.of previous) d.1.hostOccurrenceId
  valid : d.1.validate = .ok ()
  declared : d.1.scopeEffectIds = d.2.map (·.scopeEffectId)
  nodup : (d.2.map (·.scopeEffectId)).Nodup
  effect_valid : ∀ e ∈ d.2, e.validate = .ok ()
  effect : ∀ e ∈ d.2, ∃ key evidence, Claimed observations key ∧
    e = effectOf fresh (Earlier.of previous) d.1.hostOccurrenceId key evidence

theorem Derived.effect_operationId {d : Operation × List ScopeEffect} (h : Derived H fresh observations previous d)
    {e : ScopeEffect} (he : e ∈ d.2) : e.operationId = d.1.operationId := by
  obtain ⟨key, evidence, -, rfl⟩ := h.effect e he
  rw [(@effectOf_operationId fresh (Earlier.of previous) d.1.hostOccurrenceId key evidence).1, h.operationId]

section Snapshot

variable (hprevious : ∀ s, previous = some s → CheckedSnapshot H s) (hnew : fresh.New H observations previous)
  {occurrences : List HostOccurrence} {ds : List (Operation × List ScopeEffect)}
  (hds : ∀ d ∈ ds, Derived H fresh observations previous d) (hhosts : (ds.map (·.1.hostOccurrenceId)).Nodup)
include hprevious hnew hds hhosts

theorem derived_operations_nodup : (ds.map (·.1.operationId)).Nodup := by
  have hids : ds.map (·.1.operationId) =
      (ds.map (·.1.hostOccurrenceId)).map (operationIdOf fresh (Earlier.of previous)) := by
    rw [List.map_map]
    exact List.map_congr_left fun d hd => (hds d hd).operationId
  rw [hids]
  refine hhosts.map_on fun h hh h' hh' heq => ?_
  obtain ⟨d, hd, rfl⟩ := List.mem_map.mp hh
  obtain ⟨d', hd', rfl⟩ := List.mem_map.mp hh'
  exact operationIdOf_inj hprevious hnew (hds d hd).inPlay (hds d' hd').inPlay heq

theorem derived_effects_nodup : ((ds.flatMap Prod.snd).map (·.scopeEffectId)).Nodup := by
  rw [List.map_flatMap, List.nodup_flatMap]
  refine ⟨fun d hd => (hds d hd).nodup, ?_⟩
  refine ((List.pairwise_map.mp hhosts).imp_of_mem ?_)
  intro d d' hd hd' hne id hid hid'
  obtain ⟨e, he, rfl⟩ := List.mem_map.mp hid
  obtain ⟨e', he', heq⟩ := List.mem_map.mp hid'
  obtain ⟨key, _, hkey, rfl⟩ := (hds d hd).effect e he
  obtain ⟨key', _, hkey', rfl⟩ := (hds d' hd').effect e' he'
  exact hne (effectOf_inj hprevious hnew (hds d' hd').inPlay (hds d hd).inPlay hkey' hkey heq).1.symm

/-- **The snapshot of the derived operations passes its own check.** -/
theorem snapshot_checked (hocc : (occurrences.map (·.hostOccurrenceId)).Nodup)
    (hvalid : ∀ o ∈ occurrences, o.validate H = .ok ())
    (hknown : ∀ d ∈ ds, d.1.hostOccurrenceId ∈ occurrences.map (·.hostOccurrenceId)) :
    CheckedSnapshot H {
      occurrences
      operations := sortByKey (·.operationId) (ds.map Prod.fst)
      scopeEffects := sortByKey (·.scopeEffectId) (ds.flatMap Prod.snd) } := by
  have hops := derived_operations_nodup hprevious hnew hds hhosts
  have hopmem : ∀ op, op ∈ sortByKey (·.operationId) (ds.map Prod.fst) ↔ ∃ d ∈ ds, d.1 = op := fun op => by
    rw [(sortByKey_perm _ _).mem_iff, List.mem_map]
  have heffmem : ∀ e, e ∈ sortByKey (·.scopeEffectId) (ds.flatMap Prod.snd) ↔ ∃ d ∈ ds, e ∈ d.2 := fun e => by
    rw [(sortByKey_perm _ _).mem_iff, List.mem_flatMap]
  refine ⟨hocc, ?_, ?_, hvalid, fun op hop => ?_, fun e he => ?_, fun op hop id => ?_⟩
  · rw [((sortByKey_perm _ _).map _).nodup_iff, List.map_map]
    exact hops
  · rw [((sortByKey_perm _ _).map _).nodup_iff]
    exact derived_effects_nodup hprevious hnew hds hhosts
  · obtain ⟨d, hd, rfl⟩ := (hopmem op).mp hop
    exact ⟨(hds d hd).valid, hknown d hd⟩
  · obtain ⟨d, hd, he⟩ := (heffmem e).mp he
    refine ⟨(hds d hd).effect_valid e he, List.mem_map.mpr ⟨d.1, (hopmem _).mpr ⟨d, hd, rfl⟩, ?_⟩⟩
    exact ((hds d hd).effect_operationId he).symm
  · obtain ⟨d, hd, rfl⟩ := (hopmem op).mp hop
    rw [(hds d hd).declared]
    simp only [List.mem_map, List.mem_filter, heffmem, beq_iff_eq]
    refine ⟨?_, ?_⟩
    · rintro ⟨e, ⟨⟨d', hd', he⟩, hop⟩, rfl⟩
      rw [(hds d' hd').effect_operationId he] at hop
      have hsame : d' = d := List.inj_on_of_nodup_map hops hd' hd hop
      subst hsame
      exact ⟨e, he, rfl⟩
    · rintro ⟨e, he, rfl⟩
      exact ⟨e, ⟨⟨d, hd, he⟩, (hds d hd).effect_operationId he⟩, rfl⟩

end Snapshot

/-- A field of what some elements give, in the order of the elements. -/
theorem reduceOption_sublist {ε α β γ : Type} {f : α → Except ε (Option β)} {g : β → γ} {k : α → γ} :
    ∀ {l : List α} {bs : List (Option β)}, l.mapM f = .ok bs →
      (∀ a ∈ l, ∀ b, f a = .ok (some b) → g b = k a) → (bs.reduceOption.map g).Sublist (l.map k) := by
  intro l
  induction l with
  | nil =>
    intro bs h _
    cases h
    exact .slnil
  | cons a rest ih =>
    intro bs h hg
    rw [List.mapM_cons] at h
    obtain ⟨b, hb, h⟩ := bind_eq_ok.mp h
    obtain ⟨bs', hbs, h⟩ := bind_eq_ok.mp h
    cases h
    have hrest := ih hbs fun x hx => hg x (List.mem_cons_of_mem _ hx)
    cases b with
    | none => exact hrest.cons _
    | some b =>
      rw [List.reduceOption_cons_of_some, List.map_cons, List.map_cons, hg a List.mem_cons_self b hb]
      exact hrest.cons_cons _

section Derivation

variable (hm : ∀ o ∈ observations, CheckedObservation o) (hn : (observations.map (·.sourceObservationId)).Nodup)
  (hprevious : ∀ s, previous = some s → CheckedSnapshot H s) (hnew : fresh.New H observations previous)
include hm hn hprevious hnew

omit hm hn in
theorem effectsOf_nodup {h : HostOccurrenceId} (hh : InPlay H observations h) {members : List SourceObservation}
    (hmem : ∀ x ∈ members, x ∈ observations) {keys : List ScopeClaimKey} (hnodup : keys.Nodup)
    (hkeys : ∀ key ∈ keys, Claimed members key) :
    ((effectsOf fresh (Earlier.of previous) h members keys).map (·.scopeEffectId)).Nodup := by
  unfold effectsOf
  rw [((sortByKey_perm _ _).map _).nodup_iff, List.map_map]
  refine hnodup.map_on fun k hk k' hk' heq => ?_
  exact (effectOf_inj hprevious hnew hh hh ((hkeys k hk).mono hmem) ((hkeys k' hk').mono hmem) heq).2

theorem derived_of_built {values : List SourceObservation} (hvalues : ∀ x ∈ values, x ∈ observations)
    {o : HostOccurrence} {members : List SourceObservation}
    (hbuilt : Built H n (conflictingPartialRefs observations) values o members)
    {logical : OrdMap HostOccurrenceId SourceLocalPairing} {d : Operation × List ScopeEffect}
    (hd : deriveOperation n fresh (Earlier.of previous) (byIdOf observations) logical o = .ok (some d)) :
    d.1.hostOccurrenceId = o.hostOccurrenceId ∧ Derived H fresh observations previous d := by
  have hmem : ∀ x ∈ members, x ∈ observations := fun x hx => hvalues x (hbuilt.mem x hx)
  obtain ⟨keys, hnodup, hkeys, heq⟩ := @deriveOperation_eq _ n fresh _ _ hm hn hprevious _ _ hmem
    hbuilt.refs_eq logical
  have hplay : InPlay H observations o.hostOccurrenceId := by
    obtain ⟨x, hx⟩ := List.exists_mem_of_ne_nil _ hbuilt.ne_nil
    exact ⟨x, hmem x hx, (hbuilt.id_eq x hx).symm⟩
  rw [heq] at hd
  cases hkind : operationKindOf o (logical.get o.hostOccurrenceId) with
  | none =>
    rw [hkind] at hd
    cases hd
  | some kind =>
    rw [hkind] at hd
    obtain ⟨hvalid, heq⟩ := checkedDerivation_ok.mp hd
    cases heq
    obtain ⟨_, _, hshape⟩ := updateOperationRevision_shape (plainOperation n fresh (Earlier.of previous) o members
      (logical.get o.hostOccurrenceId) kind keys) ((Earlier.of previous).operations.get o.hostOccurrenceId) rfl
    unfold operationFor at hvalid ⊢
    rw [hshape] at hvalid ⊢
    refine ⟨rfl, hplay, rfl, hvalid, rfl, ?_, fun e he => ?_, fun e he => ?_⟩
    · exact effectsOf_nodup hprevious hnew hplay hmem hnodup fun key hkey => (hkeys key).mp hkey
    all_goals
      obtain ⟨key, hkey, rfl⟩ := List.mem_map.mp ((sortByKey_perm _ _).mem_iff.mp he)
    · exact effectOf_validate (fun x hx => hm x (hmem x hx)) hprevious ((hkeys key).mp hkey)
    · exact ⟨key, _, ((hkeys key).mp hkey).mono hmem, rfl⟩

end Derivation

/-! ## A whole run -/

/-- What a successful run has computed. -/
theorem normalize_ok {s : NormalizationSnapshot} (h : normalize H n fresh observations previous = .ok s) :
    ∃ byId logical derived, collectById H .empty observations = .ok byId ∧
      (∀ p, previous = some p → p.validate H = .ok ()) ∧
      buildOccurrences H n (conflictingPartialRefs observations) (Earlier.of previous).occurrences byId.values =
        .ok s.occurrences ∧
      sourceLocalPairs observations s.occurrences previous = .ok logical ∧
      s.occurrences.mapM (deriveOperation n fresh (Earlier.of previous) byId logical) = .ok derived ∧
      s = { occurrences := s.occurrences
            operations := sortByKey (·.operationId) (derived.reduceOption.map Prod.fst)
            scopeEffects := sortByKey (·.scopeEffectId) (derived.reduceOption.flatMap Prod.snd) } ∧
      s.validate H = .ok () := by
  unfold Normalize.normalize at h
  obtain ⟨byId, hbyId, h⟩ := bind_eq_ok.mp h
  obtain ⟨_, hprevious, h⟩ := bind_eq_ok.mp h
  obtain ⟨occurrences, hbuild, h⟩ := bind_eq_ok.mp h
  obtain ⟨logical, hlogical, h⟩ := bind_eq_ok.mp h
  obtain ⟨derived, hderived, h⟩ := bind_eq_ok.mp h
  obtain ⟨_, hvalid, h⟩ := bind_eq_ok.mp h
  cases h
  refine ⟨byId, logical, derived, hbyId, fun p hp => ?_, hbuild, hlogical, hderived, rfl, hvalid⟩
  exact forM_eq_ok.mp hprevious p (by simp [hp])

/-! ## Without source-local evidence there are no pairings -/

theorem sourceLocalPairs_none (hlocal : ∀ o ∈ observations, o.sourceLocalEvidence = none)
    (occurrences : List HostOccurrence) : sourceLocalPairs observations occurrences previous = .ok .empty := by
  have hcalls : ∀ (l : List SourceObservation) (s : LocalEvidence), (∀ o ∈ l, o.sourceLocalEvidence = none) →
      l.foldl readCall s = s := by
    intro l
    induction l with
    | nil => intro s _; rfl
    | cons o rest ih =>
      intro s h
      obtain ⟨ho, hrest⟩ := List.forall_mem_cons.mp h
      rw [List.foldl_cons, show readCall s o = s by unfold readCall; rw [ho], ih s hrest]
  have hwitnesses : ∀ (l : List SourceObservation) (s : LocalEvidence), (∀ o ∈ l, o.sourceLocalEvidence = none) →
      l.foldlM readWitness s = .ok s := by
    intro l
    induction l with
    | nil => intro s _; rfl
    | cons o rest ih =>
      intro s h
      obtain ⟨ho, hrest⟩ := List.forall_mem_cons.mp h
      rw [List.foldlM_cons, show readWitness s o = .ok s by unfold readWitness; rw [ho]]
      exact ih s hrest
  have hgroups : ∀ l : List SourceObservation,
      l.foldlM (joinGroup ⟨.empty, .empty⟩) .empty = .ok (.empty : OrdMap LocalCallKey (List LocalMember)) := by
    intro l
    induction l with
    | nil => rfl
    | cons o rest ih => exact ih
  unfold sourceLocalPairs localGroups
  rw [hcalls _ _ hlocal, hwitnesses _ _ hlocal]
  show (observations.foldlM (joinGroup ⟨.empty, .empty⟩) .empty >>= fun groups => _) = _
  rw [hgroups]
  rfl

end EverTrace.L2.Normalize
