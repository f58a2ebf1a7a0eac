import EverTrace.L2Machine.NormalizeOccurrences
/-!
# A run of the normalizer on valid observations

The stages of `normalize` in turn: the map by id and the exact groups, the
occurrences, the merged scope claims, the operations and their effects, and the
final check of the snapshot. Each stage succeeds on valid observations but one:
an operation is refused exactly when its pairing state contradicts its input
and result lists.
-/
namespace EverTrace.L2.Normalize
open EverTrace.Lib EverTrace.L1 EverTrace.L1.Canonical EverTrace.L2.Work EverTrace.L2.Evidence

variable {H : Sha256} {n : PhysicalNormalizer} {fresh : FreshIds}

/-! ## Observations by id, and the exact groups -/

theorem collectById_eq : ∀ {observations : List SourceObservation}
    {byId : OrdMap SourceObservationId SourceObservation},
    (∀ o ∈ observations, o.validate H = .ok ()) → (observations.map (·.sourceObservationId)).Nodup →
    (∀ o ∈ observations, byId.get o.sourceObservationId = none) →
    collectById H byId observations =
      .ok (byId.insertAll (observations.map fun o => (o.sourceObservationId, o))) := by
  intro observations
  induction observations with
  | nil => intro byId _ _ _; rfl
  | cons o rest ih =>
    intro byId hvalid hnodup hfree
    obtain ⟨ho, hrest⟩ := List.forall_mem_cons.mp hvalid
    obtain ⟨hget, hfree⟩ := List.forall_mem_cons.mp hfree
    rw [List.map_cons, List.nodup_cons] at hnodup
    unfold collectById
    rw [ho, hget]
    refine ih hrest hnodup.2 fun x hx => ?_
    have hne : x.sourceObservationId ≠ o.sourceObservationId := fun h =>
      hnodup.1 (h ▸ List.mem_map_of_mem hx)
    rw [OrdMap.get_insert_of_ne _ _ hne]
    exact hfree x hx

def byIdOf (observations : List SourceObservation) : OrdMap SourceObservationId SourceObservation :=
  OrdMap.empty.insertAll (observations.map fun o => (o.sourceObservationId, o))

section ById

variable {observations : List SourceObservation} (hn : (observations.map (·.sourceObservationId)).Nodup)
include hn

theorem get_byIdOf {id : SourceObservationId} {o : SourceObservation} :
    (byIdOf observations).get id = some o ↔ o ∈ observations ∧ o.sourceObservationId = id := by
  refine ⟨fun h => ?_, fun ⟨ho, hid⟩ => ?_⟩
  · rcases OrdMap.mem_of_get_insertAll h with h | h
    · obtain ⟨x, hx, heq⟩ := List.mem_map.mp h
      cases heq
      exact ⟨hx, rfl⟩
    · cases h
  · subst hid
    refine OrdMap.get_insertAll_of_mem ?_ (List.mem_map.mpr ⟨o, ho, rfl⟩)
    rw [List.map_map]
    exact hn

theorem values_byIdOf : (byIdOf observations).values.Perm observations := by
  have hids : (byIdOf observations).values.map (·.sourceObservationId) = (byIdOf observations).entries.map Prod.fst := by
    unfold OrdMap.values
    rw [List.map_map]
    refine List.map_congr_left fun e he => ?_
    exact ((get_byIdOf hn).mp (OrdMap.mem_entries.mp he)).2
  have hnodup : (byIdOf observations).values.Nodup :=
    List.Nodup.of_map _ (hids ▸ (byIdOf observations).nodup_keys)
  refine (List.perm_ext_iff_of_nodup hnodup (List.Nodup.of_map _ hn)).mpr fun o => ?_
  rw [OrdMap.mem_values]
  exact ⟨fun ⟨id, h⟩ => ((get_byIdOf hn).mp h).1, fun h => ⟨_, (get_byIdOf hn).mpr ⟨h, rfl⟩⟩⟩

end ById

def exactMembers (values : List SourceObservation) (key : HostOccurrenceExactKey) : List SourceObservation :=
  values.filter fun o => o.correlation.exactKey = some key

theorem foldl_addExact (key : HostOccurrenceExactKey) : ∀ (values : List SourceObservation)
    (groups : OrdMap HostOccurrenceExactKey (List SourceObservation)), groups.NonemptyLists →
    (values.foldl addExact groups).NonemptyLists ∧
      ((values.foldl addExact groups).get key).getD [] = (groups.get key).getD [] ++ exactMembers values key := by
  intro values
  induction values with
  | nil => intro groups h; exact ⟨h, by simp [exactMembers]⟩
  | cons o rest ih =>
    intro groups h
    rw [List.foldl_cons]
    cases hkey : o.correlation.exactKey with
    | none =>
      have hadd : addExact groups o = groups := by unfold addExact; rw [hkey]
      obtain ⟨hne, hget⟩ := ih groups h
      rw [hadd]
      exact ⟨hne, by rw [hget]; simp [exactMembers, hkey]⟩
    | some k =>
      have hadd : addExact groups o = groups.push k o := by unfold addExact; rw [hkey]
      obtain ⟨hne, hget⟩ := ih (groups.push k o) (h.push k o)
      rw [hadd]
      refine ⟨hne, ?_⟩
      rw [hget, OrdMap.getD_push]
      by_cases hk : key = k
      · simp [exactMembers, hkey, hk]
      · simp [exactMembers, hkey, hk, Ne.symm hk]

/-- A group is the non-empty list of the members of its key. -/
theorem mem_exactGroups {values : List SourceObservation} {key : HostOccurrenceExactKey}
    {members : List SourceObservation} :
    (key, members) ∈ (exactGroups values).entries ↔ members = exactMembers values key ∧ members ≠ [] := by
  obtain ⟨hne, hget⟩ := foldl_addExact key values .empty (fun k h => by cases h)
  rw [OrdMap.mem_entries]
  rw [OrdMap.get_empty, Option.getD_none, List.nil_append] at hget
  refine ⟨fun h => ?_, fun ⟨hmembers, hnil⟩ => ?_⟩
  · unfold exactGroups at h
    rw [h, Option.getD_some] at hget
    exact ⟨hget, fun hnil => hne key (by rw [h, hnil])⟩
  · unfold exactGroups
    cases h : (values.foldl addExact .empty).get key with
    | none =>
      rw [h, Option.getD_none] at hget
      exact absurd (hmembers.trans hget.symm) hnil
    | some l =>
      rw [h, Option.getD_some] at hget
      rw [hget, ← hmembers]

/-! ## The check of a snapshot -/

theorem validateEffects_iff {operations : List OperationId} : ∀ {effects : List ScopeEffect}
    {seen : List ScopeEffectId}, NormalizationSnapshot.validateEffects operations seen effects = .ok () ↔
      (∀ e ∈ effects, e.validate = .ok () ∧ e.operationId ∈ operations ∧ e.scopeEffectId ∉ seen) ∧
        (effects.map (·.scopeEffectId)).Nodup := by
  intro effects
  induction effects with
  | nil => intro seen; simp [NormalizationSnapshot.validateEffects]
  | cons e rest ih =>
    intro seen
    unfold NormalizationSnapshot.validateEffects
    rw [bind_eq_ok, List.forall_mem_cons, List.map_cons, List.nodup_cons]
    simp only [mapError_ok, ensure_bind_ok, Bool.not_or, Bool.not_not, Bool.and_eq_true, Bool.not_eq_true',
      List.contains_eq_mem, decide_eq_false_iff_not, decide_eq_true_eq, ih, List.mem_cons, not_or]
    refine ⟨?_, ?_⟩
    · rintro ⟨_, hvalid, ⟨hseen, hknown⟩, hrest, hnodup⟩
      refine ⟨⟨⟨hvalid, hknown, hseen⟩, fun x hx => ⟨(hrest x hx).1, (hrest x hx).2.1, (hrest x hx).2.2.2⟩⟩, ?_, hnodup⟩
      intro hmem
      obtain ⟨x, hx, heq⟩ := List.mem_map.mp hmem
      exact (hrest x hx).2.2.1 heq
    · rintro ⟨⟨⟨hvalid, hknown, hseen⟩, hrest⟩, hfresh, hnodup⟩
      refine ⟨(), hvalid, ⟨hseen, hknown⟩, fun x hx => ?_, hnodup⟩
      exact ⟨(hrest x hx).1, (hrest x hx).2.1, fun heq => hfresh (heq ▸ List.mem_map_of_mem hx), (hrest x hx).2.2⟩

/-- What `NormalizationSnapshot::validate` establishes. -/
structure CheckedSnapshot (H : Sha256) (s : NormalizationSnapshot) : Prop where
  occurrences_nodup : (s.occurrences.map (·.hostOccurrenceId)).Nodup
  operations_nodup : (s.operations.map (·.operationId)).Nodup
  effects_nodup : (s.scopeEffects.map (·.scopeEffectId)).Nodup
  occurrence : ∀ o ∈ s.occurrences, o.validate H = .ok ()
  operation : ∀ op ∈ s.operations, op.validate = .ok () ∧ op.hostOccurrenceId ∈ s.occurrences.map (·.hostOccurrenceId)
  effect : ∀ e ∈ s.scopeEffects, e.validate = .ok () ∧ e.operationId ∈ s.operations.map (·.operationId)
  declared : ∀ op ∈ s.operations, ∀ id,
    id ∈ (s.scopeEffects.filter (·.operationId == op.operationId)).map (·.scopeEffectId) ↔ id ∈ op.scopeEffectIds

theorem snapshot_validate_iff {s : NormalizationSnapshot} : s.validate H = .ok () ↔ CheckedSnapshot H s := by
  unfold NormalizationSnapshot.validate
  rw [ensure_bind_ok, Bool.and_eq_true, decide_eq_true_eq, decide_eq_true_eq]
  refine ⟨fun ⟨⟨hocc, hops⟩, h⟩ => ?_, fun h => ⟨⟨h.occurrences_nodup, h.operations_nodup⟩, ?_⟩⟩
  · obtain ⟨_, hoccurrence, h⟩ := bind_eq_ok.mp h
    obtain ⟨_, hoperation, h⟩ := bind_eq_ok.mp h
    obtain ⟨_, heffect, h⟩ := bind_eq_ok.mp h
    obtain ⟨heffect, hnodup⟩ := validateEffects_iff.mp heffect
    refine ⟨hocc, hops, hnodup, fun o ho => ?_, fun op hop => ?_, fun e he => ?_, fun op hop => ?_⟩
    · exact mapError_ok.mp (forM_eq_ok.mp hoccurrence o ho)
    · obtain ⟨_, hvalid, hknown⟩ := bind_eq_ok.mp (forM_eq_ok.mp hoperation op hop)
      exact ⟨mapError_ok.mp hvalid, by simpa using hknown⟩
    · exact ⟨(heffect e he).1, (heffect e he).2.1⟩
    · exact sameElements_iff.mp (ensure_ok.mp (forM_eq_ok.mp h op hop))
  · refine bind_eq_ok.mpr ⟨(), forM_eq_ok.mpr fun o ho => mapError_ok.mpr (h.occurrence o ho), ?_⟩
    refine bind_eq_ok.mpr ⟨(), forM_eq_ok.mpr fun op hop => bind_eq_ok.mpr ⟨(), ?_, ?_⟩, ?_⟩
    · exact mapError_ok.mpr (h.operation op hop).1
    · simpa using (h.operation op hop).2
    · refine bind_eq_ok.mpr ⟨(), validateEffects_iff.mpr ⟨fun e he => ?_, h.effects_nodup⟩, ?_⟩
      · exact ⟨(h.effect e he).1, (h.effect e he).2, by simp⟩
      · exact forM_eq_ok.mpr fun op hop => ensure_ok.mpr (sameElements_iff.mpr (h.declared op hop))

/-! ## Merged scope claims -/

def effectSubject (e : ScopeEffect) : ScopeClaimKey where
  effectRole := e.effectRole
  repositoryInstanceId := e.repositoryInstanceId
  worktreeInstanceId := e.worktreeInstanceId
  preSnapshotId := e.preSnapshotId
  postSnapshotId := e.postSnapshotId
  experimentRunIds := e.experimentRunIds
  artifactRefs := e.artifactRefs

theorem effectMatchesClaim_iff {e : ScopeEffect} {claim : ScopeEffectClaim} :
    effectMatchesClaim e claim = true ↔ effectSubject e = subject claim := by
  simp only [effectMatchesClaim, Bool.and_eq_true, beq_iff_eq, effectSubject, subject, ScopeClaimKey.mk.injEq,
    and_assoc]

/-- The evidence the members give for what a key is about, in order and with repetitions. -/
def evidenceFor (members : List SourceObservation) (key : ScopeClaimKey) : List SourceObservationId :=
  (madeClaims members).flatMap fun entry => if claimKey entry.2 = key then entry.1 :: entry.2.evidenceRefs else []

def Claimed (members : List SourceObservation) (key : ScopeClaimKey) : Prop :=
  ∃ o ∈ members, ∃ claim ∈ o.scopeEffectClaims, claimKey claim = key

theorem claimed_iff {members : List SourceObservation} {key : ScopeClaimKey} :
    Claimed members key ↔ evidenceFor members key ≠ [] := by
  unfold Claimed evidenceFor madeClaims
  simp only [ne_eq, List.flatMap_eq_nil_iff, List.mem_flatMap, List.mem_map, ite_eq_right_iff, reduceCtorEq,
    imp_false, not_forall, not_not]
  refine ⟨?_, ?_⟩
  · rintro ⟨o, ho, claim, hclaim, hkey⟩
    exact ⟨(o.sourceObservationId, claim), ⟨o, ho, claim, hclaim, rfl⟩, hkey⟩
  · rintro ⟨entry, ⟨o, ho, claim, hclaim, rfl⟩, hkey⟩
    exact ⟨o, ho, claim, hclaim, hkey⟩

theorem foldlM_addClaim : ∀ {made : List (SourceObservationId × ScopeEffectClaim)}
    {claims : OrdMap ScopeClaimKey (List SourceObservationId)},
    (∀ entry ∈ made, entry.2.validate = .ok ()) → claims.NonemptyLists →
    ∃ merged, made.foldlM addClaim claims = .ok merged ∧ merged.NonemptyLists ∧ ∀ key,
      (merged.get key).getD [] = (claims.get key).getD [] ++
        made.flatMap fun entry => if claimKey entry.2 = key then entry.1 :: entry.2.evidenceRefs else [] := by
  intro made
  induction made with
  | nil => intro claims _ hne; exact ⟨claims, rfl, hne, by simp⟩
  | cons entry rest ih =>
    intro claims hvalid hne
    obtain ⟨hentry, hrest⟩ := List.forall_mem_cons.mp hvalid
    have hadd : addClaim claims entry = .ok (claims.insert (claimKey entry.2)
        ((claims.get (claimKey entry.2)).getD [] ++ entry.1 :: entry.2.evidenceRefs)) := by
      unfold addClaim
      rw [hentry]
      rfl
    have hne' : (claims.insert (claimKey entry.2)
        ((claims.get (claimKey entry.2)).getD [] ++ entry.1 :: entry.2.evidenceRefs)).NonemptyLists := by
      intro key hkey
      rw [OrdMap.get_insert] at hkey
      split at hkey
      · simp at hkey
      · exact hne key hkey
    obtain ⟨merged, hmerged, hnonempty, hget⟩ := ih hrest hne'
    refine ⟨merged, ?_, hnonempty, fun key => ?_⟩
    · rw [List.foldlM_cons, hadd]
      exact hmerged
    · rw [hget key, OrdMap.get_insert]
      by_cases hkey : key = claimKey entry.2
      · simp [hkey]
      · simp [hkey, Ne.symm hkey]

/-- The claims merge into one claim for each key that is claimed, with all its evidence. -/
theorem mergeScopeClaims_eq {members : List SourceObservation} (hm : ∀ o ∈ members, CheckedObservation o) :
    ∃ keys : List ScopeClaimKey, keys.Nodup ∧ (∀ key, key ∈ keys ↔ Claimed members key) ∧
      mergeScopeClaims members = .ok (keys.map fun key => key.claim (sortUnique (evidenceFor members key))) := by
  have hvalid : ∀ entry ∈ madeClaims members, entry.2.validate = .ok () := by
    intro entry hentry
    unfold madeClaims at hentry
    simp only [List.mem_flatMap, List.mem_map] at hentry
    obtain ⟨o, ho, claim, hclaim, rfl⟩ := hentry
    exact (hm o ho).claims claim hclaim
  obtain ⟨merged, hmerged, hne, hget⟩ := @foldlM_addClaim _ .empty hvalid (fun _ h => by cases h)
  have hlookup : ∀ key l, merged.get key = some l → l = evidenceFor members key := by
    intro key l hl
    have h := hget key
    rw [hl, OrdMap.get_empty, Option.getD_some, Option.getD_none, List.nil_append] at h
    exact h
  refine ⟨merged.entries.map Prod.fst, merged.nodup_keys, fun key => ?_, ?_⟩
  · rw [claimed_iff, List.mem_map]
    refine ⟨?_, fun hclaimed => ?_⟩
    · rintro ⟨⟨k, l⟩, he, rfl⟩
      have hl := OrdMap.mem_entries.mp he
      rw [← hlookup k l hl]
      intro hnil
      exact hne k (by rw [hl, hnil])
    · cases hl : merged.get key with
      | some l => exact ⟨(key, l), OrdMap.mem_entries.mpr hl, rfl⟩
      | none =>
        have h := hget key
        rw [hl] at h
        exact absurd h.symm (by simpa [evidenceFor] using hclaimed)
  · unfold mergeScopeClaims
    rw [hmerged]
    show Except.ok _ = Except.ok _
    rw [List.map_map]
    refine congrArg _ (List.map_congr_left fun e he => ?_)
    rw [hlookup e.1 e.2 (OrdMap.mem_entries.mp he)]
    rfl

theorem merged_validate {members : List SourceObservation} (hm : ∀ o ∈ members, CheckedObservation o)
    {key : ScopeClaimKey} (hkey : Claimed members key) :
    (key.claim (sortUnique (evidenceFor members key))).validate = .ok () := by
  have hevidence : (sortUnique (evidenceFor members key)).isEmpty = false := by
    rw [List.isEmpty_eq_false_iff_exists_mem]
    obtain ⟨id, hid⟩ := List.exists_mem_of_ne_nil _ (claimed_iff.mp hkey)
    exact ⟨id, mem_sortUnique.mpr hid⟩
  obtain ⟨o, ho, claim, hclaim, rfl⟩ := hkey
  have hvalid := (hm o ho).claims claim hclaim
  unfold ScopeEffectClaim.validate at hvalid ⊢
  rw [ensure_bind_ok] at hvalid ⊢
  obtain ⟨_, hruns, hvalid⟩ := bind_eq_ok.mp hvalid.2
  obtain ⟨_, hartifacts, -⟩ := bind_eq_ok.mp hvalid
  refine ⟨by simp [ScopeClaimKey.claim, hevidence], ?_⟩
  refine bind_eq_ok.mpr ⟨(), requireUnique_ok.mpr ?_, bind_eq_ok.mpr ⟨(), requireUnique_ok.mpr ?_, ?_⟩⟩
  · exact (List.perm_insertionSort _ _).nodup_iff.mpr (requireUnique_ok.mp hruns)
  · exact (List.perm_insertionSort _ _).nodup_iff.mpr (requireUnique_ok.mp hartifacts)
  · exact requireUnique_ok.mpr (sortUnique_nodup _)

/-! ## The occurrences of a run -/

/-- An occurrence of a run and the members it is made of: an exact group, or one observation
without an exact key. -/
structure Built (H : Sha256) (n : PhysicalNormalizer) (refs : List String) (values : List SourceObservation)
    (o : HostOccurrence) (members : List SourceObservation) : Prop where
  mem : ∀ x ∈ members, x ∈ values
  ne_nil : members ≠ []
  refs_eq : o.sourceObservationRefs = (members.map (·.sourceObservationId)).insertionSort (· ≤ ·)
  id_eq : ∀ x ∈ members, o.hostOccurrenceId = occurrenceIdOf H refs x
  valid : o.validate H = .ok ()
  origin : (∃ key, members = exactMembers values key ∧ ∃ revision earlier,
      o = withRevision (exactOccurrence n (exactIdOf H key) key members) revision earlier) ∨
    (∃ x, x.correlation.exactKey = none ∧ members = [x] ∧ ∃ revision earlier,
      o = withRevision (nonexactOccurrence n (occurrenceIdOf H refs x) (nonexactStrength refs x) x) revision earlier)

theorem updateOccurrenceRevision_shape (current : HostOccurrence) (previous : Option HostOccurrence)
    (h : current = withRevision current 1 none) :
    ∃ revision earlier, updateOccurrenceRevision current previous = withRevision current revision earlier := by
  unfold updateOccurrenceRevision
  split
  · exact ⟨_, _, h⟩
  · split
    · next heq => exact ⟨_, _, heq.symm⟩
    · exact ⟨_, _, rfl⟩

section Occurrences

variable {refs : List String} {previous : OrdMap HostOccurrenceId HostOccurrence} {values : List SourceObservation}
  (hm : ∀ x ∈ values, CheckedObservation x)
include hm

theorem exactGroup_members {group : HostOccurrenceExactKey × List SourceObservation}
    (hgroup : group ∈ (exactGroups values).entries) :
    group.2 = exactMembers values group.1 ∧ group.2 ≠ [] ∧ (∀ x ∈ group.2, CheckedObservation x) ∧
      (∀ x ∈ group.2, x ∈ values) ∧ ∀ x ∈ group.2, x.correlation.exactKey = some group.1 := by
  obtain ⟨hmembers, hne⟩ := mem_exactGroups.mp hgroup
  have hmem : ∀ x ∈ group.2, x ∈ values ∧ x.correlation.exactKey = some group.1 := by
    intro x hx
    rw [hmembers] at hx
    simpa [exactMembers] using hx
  exact ⟨hmembers, hne, fun x hx => hm x (hmem x hx).1, fun x hx => (hmem x hx).1, fun x hx => (hmem x hx).2⟩

theorem built_of_exact {group : HostOccurrenceExactKey × List SourceObservation}
    (hgroup : group ∈ (exactGroups values).entries) {o : HostOccurrence}
    (h : buildExactOccurrence H n previous group = .ok o) : Built H n refs values o group.2 := by
  obtain ⟨hmembers, hne, hchecked, hmem, hkey⟩ := exactGroup_members hm hgroup
  unfold buildExactOccurrence at h
  obtain ⟨id, hid, h⟩ := bind_eq_ok.mp h
  rw [mapError_ok, hostOccurrenceIdForExact_ok (group_key_validate hchecked hne hkey)] at hid
  cases hid
  obtain ⟨_, hvalid, h⟩ := bind_eq_ok.mp h
  cases h
  obtain ⟨revision, earlier, hshape⟩ := updateOccurrenceRevision_shape
    (exactOccurrence n (exactIdOf H group.1) group.1 group.2) (previous.get (exactIdOf H group.1)) rfl
  rw [hshape] at hvalid ⊢
  refine ⟨hmem, hne, rfl, fun x hx => ?_, mapError_ok.mp hvalid, .inl ⟨group.1, hmembers, _, _, rfl⟩⟩
  rw [occurrenceIdOf_exact refs (hkey x hx)]
  rfl

omit hm in
theorem built_of_nonexact {x : SourceObservation} (hx : x ∈ values) (hkey : x.correlation.exactKey = none)
    {o : HostOccurrence} (h : buildNonexactOccurrence H n refs previous x = .ok o) : Built H n refs values o [x] := by
  unfold buildNonexactOccurrence at h
  obtain ⟨id, hid, h⟩ := bind_eq_ok.mp h
  rw [mapError_ok, hostOccurrenceIdForNonexact_ok refs hkey] at hid
  cases hid
  obtain ⟨_, hvalid, h⟩ := bind_eq_ok.mp h
  cases h
  obtain ⟨revision, earlier, hshape⟩ := updateOccurrenceRevision_shape
    (nonexactOccurrence n (occurrenceIdOf H refs x) (nonexactStrength refs x) x)
    (previous.get (occurrenceIdOf H refs x)) rfl
  rw [hshape] at hvalid ⊢
  refine ⟨by simpa using hx, by simp, by simp [withRevision, nonexactOccurrence], fun y hy => ?_,
    mapError_ok.mp hvalid, .inr ⟨x, hkey, rfl, _, _, rfl⟩⟩
  rw [List.mem_singleton.mp hy]
  rfl

/-- The occurrences of a run: which members each has, and that every observation is in one. -/
theorem buildOccurrences_built {occurrences : List HostOccurrence}
    (h : buildOccurrences H n refs previous values = .ok occurrences) :
    (∀ o ∈ occurrences, ∃ members, Built H n refs values o members) ∧
      ∀ x ∈ values, ∃ o ∈ occurrences, ∃ members, Built H n refs values o members ∧ x ∈ members := by
  unfold buildOccurrences at h
  obtain ⟨exact, hexact, h⟩ := bind_eq_ok.mp h
  obtain ⟨nonexact, hnonexact, h⟩ := bind_eq_ok.mp h
  cases h
  have hmem : ∀ o, o ∈ sortByKey (·.hostOccurrenceId) (exact ++ nonexact) ↔ o ∈ exact ∨ o ∈ nonexact := fun o => by
    rw [(sortByKey_perm _ _).mem_iff, List.mem_append]
  refine ⟨fun o ho => ?_, fun x hx => ?_⟩
  · rcases (hmem o).mp ho with ho | ho
    · obtain ⟨group, hgroup, hbuild⟩ := (mem_mapM_ok hexact).mp ho
      exact ⟨_, built_of_exact hm hgroup hbuild⟩
    · obtain ⟨x, hx, hbuild⟩ := (mem_mapM_ok hnonexact).mp ho
      obtain ⟨hx, hkey⟩ := List.mem_filter.mp hx
      exact ⟨_, built_of_nonexact hx (Option.isNone_iff_eq_none.mp hkey) hbuild⟩
  · cases hkey : x.correlation.exactKey with
    | some key =>
      have hxm : x ∈ exactMembers values key := by simpa [exactMembers, hkey] using hx
      have hgroup : (key, exactMembers values key) ∈ (exactGroups values).entries :=
        mem_exactGroups.mpr ⟨rfl, List.ne_nil_of_mem hxm⟩
      obtain ⟨o, ho⟩ := exists_mapM_ok.mp ⟨_, hexact⟩ _ hgroup
      exact ⟨o, (hmem o).mpr (.inl ((mem_mapM_ok hexact).mpr ⟨_, hgroup, ho⟩)), _, built_of_exact hm hgroup ho, hxm⟩
    | none =>
      have hxf : x ∈ values.filter (·.correlation.exactKey.isNone) := by simpa [hkey] using hx
      obtain ⟨o, ho⟩ := exists_mapM_ok.mp ⟨_, hnonexact⟩ _ hxf
      exact ⟨o, (hmem o).mpr (.inr ((mem_mapM_ok hnonexact).mpr ⟨_, hxf, ho⟩)), _,
        built_of_nonexact hx hkey ho, List.mem_singleton.mpr rfl⟩

theorem buildOccurrences_nodup (hn : (values.map (·.sourceObservationId)).Nodup)
    (hinj : ∀ a ∈ values, ∀ b ∈ values, occurrenceIdOf H refs a = occurrenceIdOf H refs b →
      a.correlation.exactKey = b.correlation.exactKey ∧
        (a.correlation.exactKey = none → a.sourceObservationId = b.sourceObservationId))
    {occurrences : List HostOccurrence} (h : buildOccurrences H n refs previous values = .ok occurrences) :
    (occurrences.map (·.hostOccurrenceId)).Nodup := by
  unfold buildOccurrences at h
  obtain ⟨exact, hexact, h⟩ := bind_eq_ok.mp h
  obtain ⟨nonexact, hnonexact, h⟩ := bind_eq_ok.mp h
  cases h
  rw [((sortByKey_perm _ _).map _).nodup_iff, List.map_append]
  have hids : exact.map (·.hostOccurrenceId) = (exactGroups values).entries.map fun group => exactIdOf H group.1 := by
    refine map_mapM_ok hexact fun group hgroup o ho => ?_
    obtain ⟨-, hne, -, -, hkey⟩ := exactGroup_members hm hgroup
    obtain ⟨x, hx⟩ := List.exists_mem_of_ne_nil _ hne
    rw [(@built_of_exact _ _ refs _ _ hm _ hgroup _ ho).id_eq x hx, occurrenceIdOf_exact refs (hkey x hx)]
  have hids' : nonexact.map (·.hostOccurrenceId) =
      (values.filter (·.correlation.exactKey.isNone)).map (occurrenceIdOf H refs) := by
    refine map_mapM_ok hnonexact fun x hx o ho => ?_
    obtain ⟨hx, hkey⟩ := List.mem_filter.mp hx
    exact (built_of_nonexact hx (Option.isNone_iff_eq_none.mp hkey) ho).id_eq x (List.mem_singleton.mpr rfl)
  rw [hids, hids', List.nodup_append]
  refine ⟨?_, ?_, ?_⟩
  · refine List.Nodup.map_on (fun g hg g' hg' heq => ?_) (List.Nodup.of_map _ (exactGroups values).nodup_keys)
    obtain ⟨-, hne, -, hmem, hkey⟩ := exactGroup_members hm hg
    obtain ⟨-, hne', -, hmem', hkey'⟩ := exactGroup_members hm hg'
    obtain ⟨x, hx⟩ := List.exists_mem_of_ne_nil _ hne
    obtain ⟨y, hy⟩ := List.exists_mem_of_ne_nil _ hne'
    have hsame := (hinj x (hmem x hx) y (hmem' y hy) (by
      rw [occurrenceIdOf_exact refs (hkey x hx), occurrenceIdOf_exact refs (hkey' y hy), heq])).1
    rw [hkey x hx, hkey' y hy, Option.some.injEq] at hsame
    exact List.inj_on_of_nodup_map (exactGroups values).nodup_keys hg hg' hsame
  · refine List.Nodup.map_on (fun x hx y hy heq => ?_) ((List.Nodup.of_map _ hn).filter _)
    obtain ⟨hx, hkey⟩ := List.mem_filter.mp hx
    obtain ⟨hy, -⟩ := List.mem_filter.mp hy
    have hid := (hinj x hx y hy heq).2 (Option.isNone_iff_eq_none.mp hkey)
    exact List.inj_on_of_nodup_map hn hx hy hid
  · intro id hid id' hid' heq
    obtain ⟨g, hg, rfl⟩ := List.mem_map.mp hid
    obtain ⟨y, hy, rfl⟩ := List.mem_map.mp hid'
    obtain ⟨hy, hkeyy⟩ := List.mem_filter.mp hy
    obtain ⟨-, hne, -, hmem, hkey⟩ := exactGroup_members hm hg
    obtain ⟨x, hx⟩ := List.exists_mem_of_ne_nil _ hne
    have hsame := (hinj x (hmem x hx) y hy (by rw [occurrenceIdOf_exact refs (hkey x hx), heq])).1
    rw [hkey x hx, Option.isNone_iff_eq_none.mp hkeyy] at hsame
    cases hsame

/-- **Valid observations always give their occurrences.** -/
theorem buildOccurrences_ok (hn : (values.map (·.sourceObservationId)).Nodup)
    (hprevious : ∀ id, CountsOn H (previous.get id)) :
    ∃ occurrences, buildOccurrences H n refs previous values = .ok occurrences := by
  have hexact : ∃ exact, (exactGroups values).entries.mapM (buildExactOccurrence H n previous) = .ok exact := by
    refine exists_mapM_ok.mpr fun group hgroup => ?_
    obtain ⟨hmembers, hne, hchecked, -, hkey⟩ := exactGroup_members hm hgroup
    have hnodup : (group.2.map (·.sourceObservationId)).Nodup := by
      rw [hmembers]
      exact (hn.sublist ((List.filter_sublist).map _))
    obtain ⟨_, _, -, hbuild⟩ := buildExactOccurrence_eq (n := n) hchecked hnodup hne hkey hprevious
      (hostOccurrenceIdForExact_ok (group_key_validate hchecked hne hkey))
    exact ⟨_, hbuild⟩
  have hnonexact : ∃ nonexact, (values.filter (·.correlation.exactKey.isNone)).mapM
      (buildNonexactOccurrence H n refs previous) = .ok nonexact := by
    refine exists_mapM_ok.mpr fun x hx => ?_
    obtain ⟨hx, hkey⟩ := List.mem_filter.mp hx
    obtain ⟨_, _, -, hbuild⟩ := buildNonexactOccurrence_eq (n := n) hprevious (hm x hx)
      (hostOccurrenceIdForNonexact_ok refs (Option.isNone_iff_eq_none.mp hkey))
    exact ⟨_, hbuild⟩
  obtain ⟨exact, hexact⟩ := hexact
  obtain ⟨nonexact, hnonexact⟩ := hnonexact
  unfold buildOccurrences
  rw [hexact, hnonexact]
  exact ⟨_, rfl⟩

end Occurrences

end EverTrace.L2.Normalize
