import EverTrace.L2Machine.EvidenceValid
/-!
# Occurrences of valid observations

Every occurrence that normalization builds from valid observations passes its
own check, whatever their roles, families, admissions and partial references.
The one thing an earlier snapshot contributes is the revision, which is counted
on (`RevisionOk`).
-/
namespace EverTrace.L2.Normalize
open EverTrace.Lib EverTrace.L1 EverTrace.L1.Canonical EverTrace.L2.Work EverTrace.L2.Evidence

variable {H : Sha256} {n : PhysicalNormalizer}

/-! ## Revisions -/

/-- A revision number and the one before it fit together. -/
structure RevisionOk (revision : UInt32) (previous : Option UInt32) : Prop where
  ne_zero : revision ≠ 0
  previous_ne : ∀ p, previous = some p → p ≠ 0
  succ : ∀ p, previous = some p → p + 1 = revision ∧ p.toNat + 1 < 2 ^ 32
  first : revision = 1 → previous = none

theorem RevisionOk.one : RevisionOk 1 none :=
  ⟨by decide, fun _ h => (by cases h), fun _ h => (by cases h), fun _ => rfl⟩

/-- The next revision after one that is not the last. -/
theorem RevisionOk.next {revision : UInt32} (h0 : revision ≠ 0) (hlast : revision.toNat + 1 < 2 ^ 32) :
    RevisionOk (revision + 1) (some revision) := by
  have hadd : (revision + 1).toNat = revision.toNat + 1 := by
    rw [UInt32.toNat_add, UInt32.toNat_one, Nat.mod_eq_of_lt hlast]
  have hpos : 0 < revision.toNat := by
    refine Nat.pos_of_ne_zero fun h => h0 ?_
    exact UInt32.toNat_inj.mp (by rw [h]; rfl)
  refine ⟨fun h => ?_, fun p hp => ?_, fun p hp => ?_, fun h => ?_⟩
  · have hzero := congrArg UInt32.toNat h
    rw [hadd] at hzero
    simp at hzero
  · cases hp
    exact h0
  · cases hp
    exact ⟨rfl, hlast⟩
  · have hone := congrArg UInt32.toNat h
    rw [hadd, UInt32.toNat_one] at hone
    omega

/-- The head condition of `HostOccurrence::validate` on the two revision fields. -/
theorem RevisionOk.occurrence {revision : UInt32} {previous : Option UInt32} (h : RevisionOk revision previous) :
    (revision == 0) = false ∧
      previous.any (fun p => p == 0 || p + 1 != revision) = false ∧
      (revision == 1 && previous.isSome) = false := by
  refine ⟨beq_eq_false_iff_ne.mpr h.ne_zero, ?_, ?_⟩
  · cases hp : previous with
    | none => rfl
    | some p => simp [h.previous_ne p hp, (h.succ p hp).1]
  · by_cases hone : revision = 1
    · simp [h.first hone]
    · simp [hone]

theorem RevisionOk.operation {revision : UInt32} {previous : Option UInt32} (h : RevisionOk revision previous) :
    previous.any (fun p => p == 0 || Operation.checkedSucc p != some revision) = false := by
  cases hp : previous with
  | none => rfl
  | some p =>
    obtain ⟨hsucc, hlast⟩ := h.succ p hp
    have hne : p ≠ UInt32.ofNat (2 ^ 32 - 1) := by
      intro heq
      rw [heq] at hlast
      exact absurd hlast (by decide)
    have hchecked : Operation.checkedSucc p = some revision := by
      unfold Operation.checkedSucc
      rw [if_neg hne, hsucc]
    simp [hchecked, h.previous_ne p hp]

def withRevision (o : HostOccurrence) (revision : UInt32) (previous : Option UInt32) : HostOccurrence :=
  { o with normalizationRevision := revision, previousNormalizationRevision := previous }

/-- A valid occurrence has a revision that fits, up to the wrap-around of `previous + 1`. -/
theorem validate_revision {o : HostOccurrence} (h : o.validate H = .ok ()) : o.normalizationRevision ≠ 0 := by
  unfold HostOccurrence.validate at h
  rw [ensure_bind_ok] at h
  have hhead := h.1
  simp only [Bool.not_eq_true', Bool.or_eq_false_iff, beq_eq_false_iff_ne] at hhead
  exact hhead.1.1.2

/-! ## Provenance -/

theorem validateProvenance_ok {refs : List SourceObservationId} : ∀ {entries : List FieldProvenanceEntry}
    {seen : List (CorrelationField × SourceObservationId)},
    (∀ e ∈ entries, e.sourceObservationRef ∈ refs ∧ validateIdentifier e.sourceRef = .ok () ∧
      validateIdentifier e.evidenceRef = .ok () ∧ (e.field, e.sourceObservationRef) ∉ seen) →
    (entries.map fun e => (e.field, e.sourceObservationRef)).Nodup →
    HostOccurrence.validateProvenance refs seen entries = .ok () := by
  intro entries
  induction entries with
  | nil => intro seen _ _; rfl
  | cons e rest ih =>
    intro seen hall hnodup
    obtain ⟨⟨href, hsource, hevidence, hseen⟩, hrest⟩ := List.forall_mem_cons.mp hall
    rw [List.map_cons, List.nodup_cons] at hnodup
    unfold HostOccurrence.validateProvenance
    rw [ensure_bind_ok]
    refine ⟨by simp [href, hseen], ?_⟩
    rw [hsource, hevidence]
    refine ih (fun e' he' => ?_) hnodup.2
    obtain ⟨href', hsource', hevidence', hseen'⟩ := hrest e' he'
    refine ⟨href', hsource', hevidence', fun hmem => ?_⟩
    rcases List.mem_cons.mp hmem with heq | hmem
    · exact hnodup.1 (heq ▸ List.mem_map_of_mem he')
    · exact hseen' hmem

/-- The provenance entry of one claim of one member. -/
def provenanceEntry (o : SourceObservation) (claim : CorrelationFieldClaim) : FieldProvenanceEntry where
  field := claim.field
  sourceObservationRef := o.sourceObservationId
  sourceRef := claim.sourceRef
  evidenceRef := claim.evidenceRef

theorem provenance_perm (members : List SourceObservation) : (provenance members).Perm
    (members.flatMap fun o => o.correlation.fieldProvenance.map (provenanceEntry o)) :=
  sortByKey_perm _ _

theorem mem_provenance {members : List SourceObservation} {e : FieldProvenanceEntry} :
    e ∈ provenance members ↔ ∃ o ∈ members, ∃ claim ∈ o.correlation.fieldProvenance, provenanceEntry o claim = e := by
  rw [(provenance_perm members).mem_iff]
  simp only [List.mem_flatMap, List.mem_map]

theorem provenance_nodup {members : List SourceObservation} (hm : ∀ o ∈ members, CheckedObservation o)
    (hn : (members.map (·.sourceObservationId)).Nodup) :
    ((provenance members).map fun e => (e.field, e.sourceObservationRef)).Nodup := by
  rw [((provenance_perm members).map _).nodup_iff, List.map_flatMap, List.nodup_flatMap]
  refine ⟨fun o ho => ?_, ?_⟩
  · rw [List.map_map]
    have hfields := (hm o ho).correlation.fields_nodup
    refine List.Nodup.of_map Prod.fst ?_
    rw [List.map_map]
    exact hfields
  · refine (List.pairwise_map.mp hn).imp fun {a b} hab => ?_
    intro pair ha hb
    simp only [List.map_map, List.mem_map] at ha hb
    obtain ⟨c, -, rfl⟩ := ha
    obtain ⟨d, -, heq⟩ := hb
    exact hab (congrArg Prod.snd heq).symm

section Members

variable {members : List SourceObservation} {refs : List SourceObservationId} {expected : List CorrelationField}
  (hm : ∀ o ∈ members, CheckedObservation o) (hn : (members.map (·.sourceObservationId)).Nodup)
  (hrefs : ∀ s, s ∈ refs ↔ s ∈ members.map (·.sourceObservationId))
include hm hn hrefs

theorem provenance_validate : HostOccurrence.validateProvenance refs [] (provenance members) = .ok () := by
  refine validateProvenance_ok (fun e he => ?_) (provenance_nodup hm hn)
  obtain ⟨o, ho, claim, hclaim, rfl⟩ := mem_provenance.mp he
  obtain ⟨hsource, hevidence⟩ := (hm o ho).correlation.claims claim hclaim
  exact ⟨(hrefs _).mpr (List.mem_map_of_mem ho), hsource, hevidence, by simp⟩

/-- Each member's entries name exactly the fields that are there. -/
theorem provenance_fields (hf : ∀ o ∈ members, ∀ f, f ∈ o.correlation.presentFields ↔ f ∈ expected) :
    refs.forM (fun source => ensure EvidenceError.invalidOccurrence (sameElements
      (((provenance members).filter (·.sourceObservationRef == source)).map (·.field)) expected)) = .ok () := by
  refine forM_eq_ok.mpr fun source hsource => ?_
  rw [ensure_ok, sameElements_iff]
  intro f
  obtain ⟨o, ho, rfl⟩ := List.mem_map.mp ((hrefs source).mp hsource)
  rw [← hf o ho f, ← (hm o ho).correlation.fields f]
  simp only [List.mem_map, List.mem_filter, beq_iff_eq, mem_provenance]
  refine ⟨?_, ?_⟩
  · rintro ⟨e, ⟨⟨o', ho', claim, hclaim, rfl⟩, href⟩, rfl⟩
    have hsame : o' = o := List.inj_on_of_nodup_map hn ho' ho href
    subst hsame
    exact ⟨claim, hclaim, rfl⟩
  · rintro ⟨claim, hclaim, rfl⟩
    exact ⟨provenanceEntry o claim, ⟨⟨o, ho, claim, hclaim, rfl⟩, rfl⟩, rfl⟩

end Members

/-! ## Occurrences -/

/-- The earlier occurrence, if there is one, is valid and not at the last revision number. -/
def CountsOn (H : Sha256) (previous : Option HostOccurrence) : Prop :=
  ∀ p, previous = some p → p.validate H = .ok () ∧ p.normalizationRevision.toNat + 1 < 2 ^ 32

theorem revisionOk_of_validate {o : HostOccurrence} (h : o.validate H = .ok ()) :
    RevisionOk o.normalizationRevision o.previousNormalizationRevision := by
  have hne := validate_revision h
  unfold HostOccurrence.validate at h
  rw [ensure_bind_ok] at h
  have hhead := h.1
  simp only [Bool.not_eq_true', Bool.or_eq_false_iff] at hhead
  obtain ⟨⟨-, hprevious⟩, hfirst⟩ := hhead
  have hstep : ∀ p, o.previousNormalizationRevision = some p → p ≠ 0 ∧ p + 1 = o.normalizationRevision := by
    intro p hp
    rw [hp] at hprevious
    simpa using hprevious
  refine ⟨hne, fun p hp => (hstep p hp).1, fun p hp => ⟨(hstep p hp).2, ?_⟩, fun hone => ?_⟩
  · -- `p + 1` did not wrap, or it would be zero
    by_contra hwrap
    have hbound := p.toNat_lt
    have hsum := congrArg UInt32.toNat (hstep p hp).2
    rw [UInt32.toNat_add, UInt32.toNat_one, show p.toNat + 1 = 2 ^ 32 by omega] at hsum
    exact hne (UInt32.toNat_inj.mp hsum.symm)
  · rw [hone] at hfirst
    simpa using hfirst

theorem updateOccurrenceRevision_eq {current : HostOccurrence} {previous : Option HostOccurrence}
    (hcurrent : current = withRevision current 1 none) (hprevious : CountsOn H previous) :
    ∃ revision earlier, RevisionOk revision earlier ∧
      updateOccurrenceRevision current previous = withRevision current revision earlier := by
  unfold updateOccurrenceRevision
  split
  · exact ⟨1, none, .one, hcurrent⟩
  · next p =>
    obtain ⟨hvalid, hlast⟩ := hprevious p rfl
    split
    · next heq => exact ⟨_, _, revisionOk_of_validate hvalid, heq.symm⟩
    · exact ⟨_, _, .next (validate_revision hvalid) hlast, rfl⟩

/-- The last condition of the check: the state fits the number of members and the strength. -/
def stateFits (o : HostOccurrence) : Bool :=
  !((o.sourceObservationRefs.length == 1
      && !(o.normalizationState == .singleSource || o.normalizationState == .normalizationConflicted))
    || (1 < o.sourceObservationRefs.length && o.normalizationState == .singleSource)
    || (o.correlationStrength == .conflicted && o.normalizationState != .normalizationConflicted))

/-- An occurrence made of valid members, under its own id and with a fitting state, checks itself. -/
theorem withRevision_validate {o : HostOccurrence} {members : List SourceObservation}
    (hm : ∀ x ∈ members, CheckedObservation x) (hn : (members.map (·.sourceObservationId)).Nodup)
    (hne : members ≠ []) (hversion : o.correlationResolverVersion ≠ 0)
    (hrefs : o.sourceObservationRefs.Perm (members.map (·.sourceObservationId)))
    (hprovenance : o.fieldProvenance = provenance members)
    (hfields : ∀ x ∈ members, ∀ f, f ∈ x.correlation.presentFields ↔ f ∈ presentFields o.hostInstanceId
      o.hostTraceLineageId o.hostLaneKey o.canonicalEventFamily o.nativeRequestId o.physicalExecutionOrdinal)
    (hstate : stateFits o = true) {revision : UInt32} {earlier : Option UInt32}
    (hrevision : RevisionOk revision earlier)
    (hidentity : (withRevision o revision earlier).validateIdentity H = .ok ()) :
    (withRevision o revision earlier).validate H = .ok () := by
  have hmem : ∀ s, s ∈ o.sourceObservationRefs ↔ s ∈ members.map (·.sourceObservationId) := fun s => hrefs.mem_iff
  have hnonempty : o.sourceObservationRefs.isEmpty = false := by
    rw [List.isEmpty_eq_false_iff_exists_mem]
    obtain ⟨x, hx⟩ := List.exists_mem_of_ne_nil _ hne
    exact ⟨_, (hmem _).mpr (List.mem_map_of_mem hx)⟩
  obtain ⟨hrev, hsucc, hfirst⟩ := hrevision.occurrence
  unfold HostOccurrence.validate
  rw [ensure_bind_ok]
  refine ⟨?_, ?_⟩
  · simp only [withRevision, hnonempty, beq_eq_false_iff_ne.mpr hversion, hrev, hsucc, hfirst, Bool.or_false,
      Bool.not_false]
  · rw [requireUnique_ok.mpr (show (withRevision o revision earlier).sourceObservationRefs.Nodup from
      hrefs.nodup_iff.mpr hn)]
    refine bind_eq_ok.mpr ⟨(), rfl, bind_eq_ok.mpr ⟨(), hidentity, bind_eq_ok.mpr ⟨(), ?_, ?_⟩⟩⟩
    · show HostOccurrence.validateProvenance o.sourceObservationRefs [] o.fieldProvenance = .ok ()
      rw [hprovenance]
      exact provenance_validate hm hn hmem
    · refine bind_eq_ok.mpr ⟨(), ?_, ensure_ok.mpr hstate⟩
      simp only [withRevision, hprovenance]
      exact provenance_fields hm hn hmem hfields

section Exact

variable {key : HostOccurrenceExactKey} {members : List SourceObservation}
  (hm : ∀ x ∈ members, CheckedObservation x) (hn : (members.map (·.sourceObservationId)).Nodup)
  (hne : members ≠ []) (hkey : ∀ x ∈ members, x.correlation.exactKey = some key)
include hm hne hkey

theorem group_key_validate : key.validate = .ok () := by
  obtain ⟨x, hx⟩ := List.exists_mem_of_ne_nil _ hne
  exact (hm x hx).correlation.key_validate (hkey x hx)

include hn

/-- **An exact group gives an occurrence**, whatever the roles in it. -/
theorem buildExactOccurrence_eq {previous : OrdMap HostOccurrenceId HostOccurrence}
    (hprevious : ∀ id, CountsOn H (previous.get id)) {id : HostOccurrenceId}
    (hid : hostOccurrenceIdForExact H key = .ok id) :
    ∃ revision earlier, RevisionOk revision earlier ∧
      buildExactOccurrence H n previous (key, members) =
        .ok (withRevision (exactOccurrence n id key members) revision earlier) := by
  obtain ⟨revision, earlier, hrevision, hupdate⟩ :=
    @updateOccurrenceRevision_eq H (exactOccurrence n id key members) (previous.get id) rfl (hprevious id)
  refine ⟨revision, earlier, hrevision, ?_⟩
  have hcheck : key.validate = .ok () := group_key_validate hm hne hkey
  have hlen : (exactOccurrence n id key members).sourceObservationRefs.length = members.length := by
    simp [exactOccurrence]
  have hvalid : (withRevision (exactOccurrence n id key members) revision earlier).validate H = .ok () := by
    refine withRevision_validate hm hn hne n.resolverVersion_ne (List.perm_insertionSort _ _) rfl ?_ ?_ hrevision ?_
    · intro x hx f
      refine iff_of_true (mem_presentFields_of_exactKey (hkey x hx) f) ?_
      cases f <;> simp [exactOccurrence, presentFields]
    · unfold stateFits
      rw [hlen]
      simp only [exactOccurrence]
      by_cases hpair : pairingState members true = .conflicted
      · simp [hpair]
      · by_cases hone : members.length = 1
        · simp [hpair, hone]
        · by_cases hroles : 1 < (members.map (·.observationRole)).dedup.length
          · simp [hpair, hone, hroles]
          · simp [hpair, hone, hroles]
    · simp [HostOccurrence.validateIdentity, withRevision, exactOccurrence, okOr, hcheck, hid, bind, Except.bind, ensure]
  unfold buildExactOccurrence
  simp only [hid, hupdate, hvalid, Except.mapError, bind, Except.bind, pure, Except.pure]

end Exact

/-- **An observation without an exact key gives an occurrence of its own.** -/
theorem buildNonexactOccurrence_eq {refs : List String} {previous : OrdMap HostOccurrenceId HostOccurrence}
    (hprevious : ∀ id, CountsOn H (previous.get id)) {o : SourceObservation} (ho : CheckedObservation o)
    {id : HostOccurrenceId}
    (hid : hostOccurrenceIdForNonexact H o.sourceObservationId (nonexactStrength refs o) = .ok id) :
    ∃ revision earlier, RevisionOk revision earlier ∧
      buildNonexactOccurrence H n refs previous o =
        .ok (withRevision (nonexactOccurrence n id (nonexactStrength refs o) o) revision earlier) := by
  obtain ⟨revision, earlier, hrevision, hupdate⟩ :=
    @updateOccurrenceRevision_eq H (nonexactOccurrence n id (nonexactStrength refs o) o) (previous.get id) rfl
      (hprevious id)
  refine ⟨revision, earlier, hrevision, ?_⟩
  have hvalid : (withRevision (nonexactOccurrence n id (nonexactStrength refs o) o) revision earlier).validate H =
      .ok () := by
    refine @withRevision_validate H _ [o] (by simpa using ho) (by simp) (by simp) n.resolverVersion_ne
      (List.Perm.refl _) rfl ?_ ?_ _ _ hrevision ?_
    · intro x hx f
      rw [List.mem_singleton.mp hx]
      exact Iff.rfl
    · cases hs : nonexactStrength refs o <;> simp [stateFits, nonexactOccurrence]
    · cases hs : nonexactStrength refs o with
      | exact => exact absurd hs (nonexactStrength_ne_exact refs o)
      | _ =>
        rw [hs] at hid
        simp [HostOccurrence.validateIdentity, withRevision, nonexactOccurrence, hid, bind, Except.bind, ensure]
  unfold buildNonexactOccurrence
  simp only [hid, hupdate, hvalid, Except.mapError, bind, Except.bind, pure, Except.pure]

end EverTrace.L2.Normalize
