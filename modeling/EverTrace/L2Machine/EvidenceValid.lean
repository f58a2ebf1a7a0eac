import EverTrace.L1Encoding.CanonicalParse
import EverTrace.L2Machine.Normalize
import Mathlib.Data.List.ReduceOption
/-!
# What a valid observation gives

`SourceObservation::validate` is the only promise normalization has about its
input. Read out here: the correlation fields that are there are exactly those
its provenance names, each once; an exact key made of them checks itself; and
both kinds of occurrence id can be computed. Two occurrence ids are the same
only for the same key, or the same observation and strength, as long as SHA-256
does not collide on the texts behind them (`occurrenceText`).
-/
namespace EverTrace.L2.Normalize
open EverTrace.Lib EverTrace.L1 EverTrace.L1.Canonical EverTrace.L2.Work EverTrace.L2.Evidence

variable {H : Sha256}

theorem validateIdentifier_length {value : String} (h : validateIdentifier value = .ok ()) :
    (utf8 value).length ≤ 256 := by
  unfold validateIdentifier at h
  rw [ite_error_ok] at h
  simp only [Bool.or_eq_true, decide_eq_true_eq, not_or, not_lt] at h
  exact h.1.2

theorem requireUnique_ok {α : Type} [DecidableEq α] {values : List α} :
    Evidence.requireUnique values = .ok () ↔ values.Nodup := by
  unfold Evidence.requireUnique
  rw [ite_error_ok, not_not]

theorem sameElements_iff {α : Type} [DecidableEq α] {a b : List α} :
    sameElements a b = true ↔ ∀ x, x ∈ a ↔ x ∈ b := by
  unfold sameElements
  simp only [Bool.and_eq_true, List.all_eq_true, decide_eq_true_eq]
  exact ⟨fun h x => ⟨h.1 x, h.2 x⟩, fun h => ⟨fun x => (h x).mp, fun x => (h x).mpr⟩⟩

/-! ## Correlation evidence -/

/-- The texts of a provenance claim are identifiers. -/
def ClaimChecked (claim : CorrelationFieldClaim) : Prop :=
  validateIdentifier claim.sourceRef = .ok () ∧ validateIdentifier claim.evidenceRef = .ok ()

theorem observeFields_ok {expected : List CorrelationField} : ∀ {claims : List CorrelationFieldClaim}
    {observed seen : List CorrelationField},
    HostCorrelationEvidence.observeFields expected observed claims = .ok seen →
    (∀ claim ∈ claims, ClaimChecked claim) ∧ (∀ claim ∈ claims, claim.field ∉ observed) ∧
      (claims.map (·.field)).Nodup ∧ ∀ f, f ∈ seen ↔ f ∈ observed ∨ f ∈ claims.map (·.field) := by
  intro claims
  induction claims with
  | nil =>
    intro observed seen h
    cases h
    simp
  | cons claim rest ih =>
    intro observed seen h
    unfold HostCorrelationEvidence.observeFields at h
    obtain ⟨_, hsource, h⟩ := bind_eq_ok.mp h
    obtain ⟨_, hevidence, h⟩ := bind_eq_ok.mp h
    rw [ensure_bind_ok] at h
    obtain ⟨hfield, h⟩ := h
    simp only [Bool.not_or, Bool.not_not, Bool.and_eq_true, Bool.not_eq_true', List.contains_eq_mem,
      decide_eq_false_iff_not] at hfield
    obtain ⟨hchecked, hfresh, hnodup, hseen⟩ := ih h
    refine ⟨?_, ?_, ?_, ?_⟩
    · exact List.forall_mem_cons.mpr ⟨⟨hsource, hevidence⟩, hchecked⟩
    · refine List.forall_mem_cons.mpr ⟨hfield.2, fun c hc => ?_⟩
      exact fun hmem => hfresh c hc (List.mem_cons_of_mem _ hmem)
    · rw [List.map_cons, List.nodup_cons]
      refine ⟨fun hmem => ?_, hnodup⟩
      obtain ⟨c, hc, heq⟩ := List.mem_map.mp hmem
      exact hfresh c hc (by rw [heq]; exact List.mem_cons_self)
    · intro f
      rw [hseen f, List.map_cons, List.mem_cons, List.mem_cons]
      exact ⟨fun h => h.elim (fun h => h.elim (fun h => .inr (.inl h)) .inl) (fun h => .inr (.inr h)),
        fun h => h.elim (fun h => .inl (.inr h)) fun h => h.elim (fun h => .inl (.inl h)) .inr⟩

/-- What `HostCorrelationEvidence::validate` establishes. -/
structure CheckedCorrelation (c : HostCorrelationEvidence) : Prop where
  version : c.occurrenceSchemaVersion ≠ 0
  identifiers : ∀ value, c.hostInstanceId = some value ∨ c.hostTraceLineageId = some value ∨
    c.hostLaneKey = some value ∨ c.nativeRequestId = some value → validateIdentifier value = .ok ()
  ordinal : c.physicalExecutionOrdinal ≠ some 0
  claims : ∀ claim ∈ c.fieldProvenance, ClaimChecked claim
  fields_nodup : (c.fieldProvenance.map (·.field)).Nodup
  fields : ∀ f, f ∈ c.fieldProvenance.map (·.field) ↔ f ∈ c.presentFields

theorem checkedCorrelation {c : HostCorrelationEvidence} (h : c.validate = .ok ()) : CheckedCorrelation c := by
  unfold HostCorrelationEvidence.validate at h
  rw [ensure_bind_ok] at h
  obtain ⟨hversion, h⟩ := h
  obtain ⟨_, -, h⟩ := bind_eq_ok.mp h
  obtain ⟨_, hids, h⟩ := bind_eq_ok.mp h
  rw [ensure_bind_ok] at h
  obtain ⟨hordinal, h⟩ := h
  obtain ⟨observed, hobserved, h⟩ := bind_eq_ok.mp h
  rw [ensure_bind_ok] at h
  obtain ⟨hclaims, -, hnodup, hseen⟩ := observeFields_ok hobserved
  refine ⟨?_, ?_, ?_, hclaims, hnodup, ?_⟩
  · simp only [Bool.not_or, Bool.and_eq_true, Bool.not_eq_true', beq_eq_false_iff_ne] at hversion
    exact hversion.1
  · intro value hvalue
    refine forM_eq_ok.mp hids value ?_
    simp only [List.reduceOption_mem_iff, List.mem_cons]
    rcases hvalue with h | h | h | h
    · exact .inl h.symm
    · exact .inr (.inl h.symm)
    · exact .inr (.inr (.inl h.symm))
    · exact .inr (.inr (.inr (.inl h.symm)))
  · simpa using hordinal
  · intro f
    have hsame := sameElements_iff.mp h.1 f
    rw [← hsame, hseen f]
    simp

/-- The fields of an exact key are the fields of the evidence. -/
theorem exactKey_some {c : HostCorrelationEvidence} {key : HostOccurrenceExactKey} (h : c.exactKey = some key) :
    c.occurrenceSchemaVersion = key.occurrenceSchemaVersion ∧ c.hostInstanceId = some key.hostInstanceId ∧
      c.hostTraceLineageId = some key.hostTraceLineageId ∧ c.hostLaneKey = some key.hostLaneKey ∧
      c.canonicalEventFamily = some key.canonicalEventFamily ∧ c.nativeRequestId = some key.nativeRequestId ∧
      c.physicalExecutionOrdinal = some key.physicalExecutionOrdinal := by
  unfold HostCorrelationEvidence.exactKey at h
  split at h
  · cases h
  · simp only [Option.bind_eq_bind, Option.bind_eq_some_iff, Option.pure_def, Option.some.injEq] at h
    obtain ⟨_, h₁, _, h₂, _, h₃, _, h₄, _, h₅, _, h₆, rfl⟩ := h
    exact ⟨rfl, h₁, h₂, h₃, h₄, h₅, h₆⟩

theorem CheckedCorrelation.key_validate {c : HostCorrelationEvidence} (hc : CheckedCorrelation c)
    {key : HostOccurrenceExactKey} (h : c.exactKey = some key) : key.validate = .ok () := by
  obtain ⟨hversion, hinstance, htrace, hlane, -, hrequest, hordinal⟩ := exactKey_some h
  unfold HostOccurrenceExactKey.validate
  rw [ensure_bind_ok]
  refine ⟨?_, forM_eq_ok.mpr fun value hvalue => ?_⟩
  · have hne : key.physicalExecutionOrdinal ≠ 0 := fun h0 => hc.ordinal (by rw [hordinal, h0])
    simp [← hversion, hc.version, hne]
  · simp only [List.mem_cons, List.not_mem_nil, or_false] at hvalue
    refine hc.identifiers value ?_
    rcases hvalue with rfl | rfl | rfl | rfl
    · exact .inl hinstance
    · exact .inr (.inl htrace)
    · exact .inr (.inr (.inl hlane))
    · exact .inr (.inr (.inr hrequest))

theorem mem_presentFields_of_exactKey {c : HostCorrelationEvidence} {key : HostOccurrenceExactKey}
    (h : c.exactKey = some key) (f : CorrelationField) : f ∈ c.presentFields := by
  obtain ⟨-, h₁, h₂, h₃, h₄, h₅, h₆⟩ := exactKey_some h
  unfold HostCorrelationEvidence.presentFields
  rw [h₁, h₂, h₃, h₄, h₅, h₆]
  cases f <;> simp [presentFields]

/-! ## Occurrence ids -/

def exactItems (key : HostOccurrenceExactKey) : List CanonicalValue :=
  [.string key.hostInstanceId, .string key.hostTraceLineageId, .string key.hostLaneKey,
    .string (eventFamilyName key.canonicalEventFamily), .string key.nativeRequestId,
    .integer (BitVec.ofNat 128 key.physicalExecutionOrdinal.toNat)]

def nonexactItems (id : SourceObservationId) (strength : CorrelationStrength) : List CanonicalValue :=
  [.string id.toText, .string (correlationStrengthName strength)]

theorem scalar_identifier {value : String} (h : validateIdentifier value = .ok ()) : Scalar (.string value) := by
  have hlen := validateIdentifier_length h
  show (utf8 value).length < 2 ^ 64
  omega

theorem exactItems_scalar {key : HostOccurrenceExactKey} (hk : key.validate = .ok ()) :
    ∀ a ∈ exactItems key, Scalar a := by
  unfold HostOccurrenceExactKey.validate at hk
  rw [ensure_bind_ok] at hk
  have hids := forM_eq_ok.mp hk.2
  simp only [List.forall_mem_cons, List.not_mem_nil, false_implies, implies_true, and_true] at hids
  obtain ⟨hinstance, htrace, hlane, hrequest⟩ := hids
  unfold exactItems
  simp only [List.forall_mem_cons, List.not_mem_nil, false_implies, implies_true, and_true]
  refine ⟨scalar_identifier hinstance, scalar_identifier htrace, scalar_identifier hlane, ?_,
    scalar_identifier hrequest, trivial⟩
  cases key.canonicalEventFamily <;> simp only [Scalar, lengthsFit] <;> decide

theorem nonexactItems_scalar (id : SourceObservationId) (strength : CorrelationStrength) :
    ∀ a ∈ nonexactItems id strength, Scalar a := by
  unfold nonexactItems
  simp only [List.forall_mem_cons, List.not_mem_nil, false_implies, implies_true, and_true]
  refine ⟨?_, ?_⟩
  · have htag : DigestFamily.sourceObservation.tag.length = 4 := rfl
    have hlen : id.toText.length = 68 := by
      unfold DigestId.toText DigestId.asDigest
      rw [String.length_append, String.length_ofList, length_hexBytes, length_beBytes, htag]
    have hutf8 := length_utf8_le id.toText
    show (utf8 id.toText).length < 2 ^ 64
    omega
  · cases strength <;> simp only [Scalar, lengthsFit] <;> decide

theorem eventFamilyName_injective : Function.Injective eventFamilyName := by
  intro a b h
  cases a <;> cases b <;> first | rfl | (simp [eventFamilyName] at h)

/-- The items of an exact key, with its version, determine the key. -/
theorem exactItems_inj {a b : HostOccurrenceExactKey} (hv : a.occurrenceSchemaVersion = b.occurrenceSchemaVersion)
    (h : exactItems a = exactItems b) : a = b := by
  simp only [exactItems, List.cons.injEq, CanonicalValue.string.injEq, CanonicalValue.integer.injEq,
    eventFamilyName_injective.eq_iff, and_true] at h
  obtain ⟨h₁, h₂, h₃, h₄, h₅, hbits⟩ := h
  have hordinal : a.physicalExecutionOrdinal = b.physicalExecutionOrdinal := by
    have hnat := congrArg BitVec.toNat hbits
    have ha := a.physicalExecutionOrdinal.toNat_lt
    have hb := b.physicalExecutionOrdinal.toNat_lt
    rw [BitVec.toNat_ofNat, BitVec.toNat_ofNat, Nat.mod_eq_of_lt (by omega), Nat.mod_eq_of_lt (by omega)] at hnat
    exact UInt32.toNat_inj.mp hnat
  cases a
  cases b
  simp_all

theorem nonexactItems_inj {id id' : SourceObservationId} {strength strength' : CorrelationStrength}
    (h : nonexactItems id strength = nonexactItems id' strength') : id = id' ∧ strength = strength' := by
  simp only [nonexactItems, List.cons.injEq, CanonicalValue.string.injEq, and_true] at h
  refine ⟨DigestId.toText_inj h.1, ?_⟩
  have hname := h.2
  cases strength <;> cases strength' <;> first | rfl | (simp [correlationStrengthName] at hname)

/-- The text whose digest is the id of an observation's occurrence. -/
def occurrenceText (conflictedPartialRefs : List String) (o : SourceObservation) : Except CanonicalError Bytes :=
  match o.correlation.exactKey with
  | some key => encode "host_occurrence_exact_key" key.occurrenceSchemaVersion (.sequence (exactItems key))
  | none => encode "host_occurrence_nonexact" 1
      (.sequence (nonexactItems o.sourceObservationId (nonexactStrength conflictedPartialRefs o)))

theorem nonexactStrength_ne_exact (refs : List String) (o : SourceObservation) :
    nonexactStrength refs o ≠ .exact := by
  unfold nonexactStrength
  split
  · decide
  · split <;> decide

theorem hostOccurrenceIdForExact_eq (H : Sha256) {key : HostOccurrenceExactKey} (hk : key.validate = .ok ()) {e : Bytes}
    (he : encode "host_occurrence_exact_key" key.occurrenceSchemaVersion (.sequence (exactItems key)) = .ok e) :
    hostOccurrenceIdForExact H key = .ok (.fromDigest (H.hash e)) := by
  unfold hostOccurrenceIdForExact
  rw [hk]
  unfold exactItems at he
  simp only [sha256, he, bind, Except.bind, pure, Except.pure, Except.mapError, Except.map]

theorem hostOccurrenceIdForNonexact_eq (H : Sha256) {id : SourceObservationId} {strength : CorrelationStrength}
    (hs : strength ≠ .exact) {e : Bytes}
    (he : encode "host_occurrence_nonexact" 1 (.sequence (nonexactItems id strength)) = .ok e) :
    hostOccurrenceIdForNonexact H id strength = .ok (.fromDigest (H.hash e)) := by
  have hne : (strength != CorrelationStrength.exact) = true := by simpa using hs
  unfold hostOccurrenceIdForNonexact
  unfold nonexactItems at he
  simp only [hne, ensure, if_true, sha256, he, bind, Except.bind, pure, Except.pure, Except.mapError, Except.map]

/-! ## Observations -/

/-- What `SourceObservation::validate` establishes for normalization. -/
structure CheckedObservation (o : SourceObservation) : Prop where
  correlation : CheckedCorrelation o.correlation
  claims : ∀ claim ∈ o.scopeEffectClaims, claim.validate = .ok ()

theorem checkedObservation {o : SourceObservation} (h : o.validate H = .ok ()) : CheckedObservation o := by
  unfold SourceObservation.validate at h
  obtain ⟨_, -, h⟩ := bind_eq_ok.mp h
  obtain ⟨_, -, h⟩ := bind_eq_ok.mp h
  obtain ⟨_, -, h⟩ := bind_eq_ok.mp h
  obtain ⟨_, -, h⟩ := bind_eq_ok.mp h
  obtain ⟨_, -, h⟩ := bind_eq_ok.mp h
  obtain ⟨_, -, h⟩ := bind_eq_ok.mp h
  obtain ⟨_, hcorrelation, h⟩ := bind_eq_ok.mp h
  obtain ⟨_, -, h⟩ := bind_eq_ok.mp h
  exact ⟨checkedCorrelation hcorrelation, forM_eq_ok.mp h⟩

theorem occurrenceText_ok {o : SourceObservation} (ho : CheckedObservation o) (refs : List String) :
    ∃ e, occurrenceText refs o = .ok e := by
  unfold occurrenceText
  split
  · next key hkey =>
    exact encode_scalars (by decide) (by decide) (by simp [exactItems])
      (exactItems_scalar (ho.correlation.key_validate hkey))
  · exact encode_scalars (by decide) (by decide) (by simp [nonexactItems]) (nonexactItems_scalar _ _)

/-- Two observations have one occurrence text only within one exact group, or as one observation. -/
theorem occurrenceText_inj {a b : SourceObservation} (ha : CheckedObservation a) {refs : List String} {e : Bytes}
    (hea : occurrenceText refs a = .ok e) (heb : occurrenceText refs b = .ok e) :
    a.correlation.exactKey = b.correlation.exactKey ∧
      (a.correlation.exactKey = none → a.sourceObservationId = b.sourceObservationId) := by
  unfold occurrenceText at hea heb
  cases hka : a.correlation.exactKey with
  | some key =>
    rw [hka] at hea
    have hscalar := exactItems_scalar (ha.correlation.key_validate hka)
    cases hkb : b.correlation.exactKey with
    | some key' =>
      rw [hkb] at heb
      obtain ⟨-, hversion, hitems⟩ := encode_scalars_inj hea heb hscalar
      exact ⟨by rw [exactItems_inj hversion hitems], fun h => by cases h⟩
    | none =>
      rw [hkb] at heb
      exact absurd (encode_scalars_inj hea heb hscalar).1 (by decide)
  | none =>
    rw [hka] at hea
    cases hkb : b.correlation.exactKey with
    | some key' =>
      rw [hkb] at heb
      exact absurd (encode_scalars_inj hea heb (nonexactItems_scalar _ _)).1 (by decide)
    | none =>
      rw [hkb] at heb
      obtain ⟨-, -, hitems⟩ := encode_scalars_inj hea heb (nonexactItems_scalar _ _)
      exact ⟨rfl, fun _ => (nonexactItems_inj hitems).1⟩

/-- The id of an exact key's occurrence, and of an observation's. -/
def exactIdOf (H : Sha256) (key : HostOccurrenceExactKey) : HostOccurrenceId :=
  .fromDigest (H.hash ((encode "host_occurrence_exact_key" key.occurrenceSchemaVersion
    (.sequence (exactItems key))).toOption.getD []))

def occurrenceIdOf (H : Sha256) (refs : List String) (o : SourceObservation) : HostOccurrenceId :=
  .fromDigest (H.hash ((occurrenceText refs o).toOption.getD []))

theorem occurrenceIdOf_exact {o : SourceObservation} {key : HostOccurrenceExactKey} (refs : List String)
    (hkey : o.correlation.exactKey = some key) : occurrenceIdOf H refs o = exactIdOf H key := by
  unfold occurrenceIdOf occurrenceText exactIdOf
  rw [hkey]

theorem hostOccurrenceIdForExact_ok {key : HostOccurrenceExactKey} (hk : key.validate = .ok ()) :
    hostOccurrenceIdForExact H key = .ok (exactIdOf H key) := by
  obtain ⟨e, he⟩ := @encode_scalars "host_occurrence_exact_key" key.occurrenceSchemaVersion (exactItems key)
    (by decide) (by decide) (by simp [exactItems]) (exactItems_scalar hk)
  unfold exactIdOf
  rw [he]
  exact hostOccurrenceIdForExact_eq H hk he

theorem hostOccurrenceIdForNonexact_ok {o : SourceObservation} (refs : List String)
    (hkey : o.correlation.exactKey = none) :
    hostOccurrenceIdForNonexact H o.sourceObservationId (nonexactStrength refs o) =
      .ok (occurrenceIdOf H refs o) := by
  obtain ⟨e, he⟩ := @encode_scalars "host_occurrence_nonexact" 1
    (nonexactItems o.sourceObservationId (nonexactStrength refs o))
    (by decide) (by decide) (by simp [nonexactItems]) (nonexactItems_scalar _ _)
  unfold occurrenceIdOf occurrenceText
  rw [hkey]
  show _ = Except.ok (DigestId.fromDigest (H.hash ((encode _ _ _).toOption.getD [])))
  rw [he]
  exact hostOccurrenceIdForNonexact_eq H (nonexactStrength_ne_exact refs o) he

/-- SHA-256 does not collide on the texts behind the occurrence ids of these observations. -/
def NoCollision (H : Sha256) (observations : List SourceObservation) : Prop :=
  ∀ a ∈ observations, ∀ b ∈ observations, ∀ e f,
    occurrenceText (conflictingPartialRefs observations) a = .ok e →
    occurrenceText (conflictingPartialRefs observations) b = .ok f → H.hash e = H.hash f → e = f

theorem NoCollision.occurrenceIdOf_inj {observations : List SourceObservation} (h : NoCollision H observations)
    (hm : ∀ o ∈ observations, CheckedObservation o) {a b : SourceObservation} (ha : a ∈ observations)
    (hb : b ∈ observations) (hid : occurrenceIdOf H (conflictingPartialRefs observations) a =
      occurrenceIdOf H (conflictingPartialRefs observations) b) :
    a.correlation.exactKey = b.correlation.exactKey ∧
      (a.correlation.exactKey = none → a.sourceObservationId = b.sourceObservationId) := by
  obtain ⟨e, he⟩ := occurrenceText_ok (hm a ha) (conflictingPartialRefs observations)
  obtain ⟨f, hf⟩ := occurrenceText_ok (hm b hb) (conflictingPartialRefs observations)
  unfold occurrenceIdOf at hid
  rw [he, hf] at hid
  have hef := h a ha b hb e f he hf (DigestId.fromDigest_inj hid)
  subst hef
  exact occurrenceText_inj (hm a ha) he hf

/-! ## Sample records -/

/-- The SHA-256 digests of the texts that are hashed for the sample records, by the sums of their bytes. -/
def sampleDigests : List (Nat × Nat) :=
  [(4138, 0x4821c6ca6da1073cd4f55c449102bc28a938349044105c59823ff03679e29198),
    (3686, 0xbcaf98f7fde7abb12c41cc150af4feb550d84138e7c21af0f882b510bb16486c),
    (4151, 0x8b770424387fb9e3fb6e92f5f7f53f823a6c4d63cc55dd5b7f6378c020518162),
    (3699, 0x48c6ddfb8e994f4af6ab4a7a57f7d11b74d33b3a3d934eef77f7bfb6ba7e2d71),
    (4221, 0x7e10dfeaaab3dcc32c371c2df8c8404e0470a2d8b5283fe2a3426f5bbd894ccb),
    (3769, 0xf91abb8562c004e69a53bd84a9aea32f16efb905b05e65a6d7e233acf5856ee7),
    (4262, 0x7def7d6aba48a7e2f0e8dc0b63a398aecfe3229bf69ad06765542b3d483c21c2),
    (3810, 0x0cc5004538116213a3dd25a8d3cd719ce5722a39e0d4a9759b4001d85e580e33),
    (4025, 0x4f26438ae0a2bd0833eb8c44561790929af435d458813379417e082ce7174d50),
    (3573, 0xba4d5b4c13e9b83f66c60e85ea2df795b2c12dcabd9595a7b7622d84f8159c50),
    (4015, 0xfa6fd4ad398b30c2af6ceb2aa7f44fb73765ea223ad1630f1164f0f72f5ebd92),
    (3563, 0x9632680e76dd0c4acb3482fd91fd2742b191ff3176ec97a8ecf41d896bd49faf),
    -- the exact key, and the records by themselves
    (6377, 0x985309ea16285a95bdf61fa6f40cfef74bc4b1b18bf404bda7b5e913c332038f),
    (8832, 0x4271fbf1c9f9b6f71a609af2cc4e771e7770bf93128fca11f9b142357aa405eb),
    (9092, 0x31d9e4d1f11ab6800b1c56db8596edfed89581bfbaa72eca45ab0a001da7171f),
    (9472, 0x4d21c7c63238096914637ec17abb0835d1b90a607a21287a3e425e12497a8ace),
    (9403, 0xaf01cb19a963d612bf67fb97a13e226625b1e32f081e95da428caaee31eb4d66),
    (8986, 0x4ea87bd8bbf272bf6097095684224bac1121d5ed23f91603f0e7873aea4c5544),
    (8729, 0x3351e1e28bc0207f6b0b2be34f83ad1a9cb35275b757e83b222279777068b906)]

def sampleSha : Sha256 where
  digest b := beBytes 32 ((sampleDigests.lookup (b.map UInt8.toNat).sum).getD 0)
  digest_length _ := length_beBytes 32 _

/-- The exact key of a call, admitted as exact. -/
def exactCorrelation (role : ObservationRole) : HostCorrelationEvidence where
  occurrenceSchemaVersion := 1
  hostInstanceId := some "host"
  hostTraceLineageId := some "trace"
  hostLaneKey := some "lane"
  canonicalEventFamily := some .mutate
  nativeRequestId := some "request"
  physicalExecutionOrdinal := some 1
  pairingRole := role
  fieldProvenance := [.hostInstanceId, .hostTraceLineageId, .hostLaneKey, .canonicalEventFamily, .nativeRequestId,
    .physicalExecutionOrdinal].map fun field => ⟨field, "hook", "manifest"⟩
  adapterManifestRef := "manifest"
  adapterRevision := 1
  strongGateReceiptRef := some "gate"
  admission := .exactCapable
  partialCorrelationRef := none
  possibleDuplicateGroupId := none

/-- A native request id and nothing else, or a partial reference with it. -/
def partialCorrelation (request : String) (reference : Option String) (role : ObservationRole) :
    HostCorrelationEvidence where
  occurrenceSchemaVersion := 1
  hostInstanceId := none
  hostTraceLineageId := none
  hostLaneKey := none
  canonicalEventFamily := none
  nativeRequestId := some request
  physicalExecutionOrdinal := none
  pairingRole := role
  fieldProvenance := [⟨.nativeRequestId, "hook", "manifest"⟩]
  adapterManifestRef := "manifest"
  adapterRevision := 1
  strongGateReceiptRef := none
  admission := .unavailable
  partialCorrelationRef := reference
  possibleDuplicateGroupId := none

def sampleObservation (record : String) (correlation : HostCorrelationEvidence) (observation receipt : Fin (2 ^ 256)) :
    SourceObservation where
  sourceObservationId := ⟨observation⟩
  sourceInstanceId := "hook"
  sourceRevision := "r1"
  sourceRecordIdentity := record
  observationRole := correlation.pairingRole
  identityStrength := .stableNative
  payloadFingerprint := "0123456789abcdef0123456789abcdef0123456789abcdef0123456789abcdef"
  sourceReceiptRef := ⟨receipt⟩
  captureCompleteness := .complete
  adapterRevision := 1
  parserRevision := 1
  canonicalizationRevision := 1
  detectorRevision := 1
  redactionRevision := 1
  correlation := correlation
  scopeEffectClaims := []
  sourceLocalEvidence := none

def intentRecord (correlation : ObservationRole → HostCorrelationEvidence) : SourceObservation :=
  sampleObservation "intent" (correlation .intent)
    0x4821c6ca6da1073cd4f55c449102bc28a938349044105c59823ff03679e29198
    0xbcaf98f7fde7abb12c41cc150af4feb550d84138e7c21af0f882b510bb16486c

def resultRecord (correlation : ObservationRole → HostCorrelationEvidence) : SourceObservation :=
  sampleObservation "result" (correlation .result)
    0x8b770424387fb9e3fb6e92f5f7f53f823a6c4d63cc55dd5b7f6378c020518162
    0x48c6ddfb8e994f4af6ab4a7a57f7d11b74d33b3a3d934eef77f7bfb6ba7e2d71

def sampleSession : String := "01a083a5-79c1-7343-821a-a8e571f9ad26"

def sampleWitness : SourceLocalNamespaceWitness where
  namespace_ := ⟨.nativeHookV1, sampleSession, sampleSession, sampleSession⟩
  transcriptPath := "/rollout.jsonl"
  filesystemInode := 2
  observedFileLength := 101
  metadataLength := 100

def sampleCall (witness : Option SourceLocalNamespaceWitness) : SourceLocalNativeCall where
  sessionId := sampleSession
  agentId := none
  transcriptPath := some "/rollout.jsonl"
  requestId := "request"
  turnId := "turn"
  toolName := "Bash"
  namespaceWitness := witness

/-- The intent of a call of the session, with a witness of its namespace. -/
def witnessedIntent : SourceObservation :=
  { intentRecord (partialCorrelation "request" none) with
    sourceLocalEvidence := some (.nativeCall (sampleCall (some sampleWitness))) }

/-- Its result, maybe with a partial reference. -/
def witnessedResult (reference : Option String) : SourceObservation :=
  { resultRecord (partialCorrelation "request" reference) with
    sourceLocalEvidence := some (.nativeCall (sampleCall (some sampleWitness))) }

def sampleNormalizer : PhysicalNormalizer := ⟨1, one_ne_zero_version⟩

def sampleFresh : FreshIds := ⟨fun _ => ⟨1⟩, fun _ _ => ⟨1⟩⟩

def sampleRun (observations : List SourceObservation) (previous : Option NormalizationSnapshot) :
    Except NormalizeError NormalizationSnapshot :=
  normalize sampleSha sampleNormalizer sampleFresh observations previous

end EverTrace.L2.Normalize
