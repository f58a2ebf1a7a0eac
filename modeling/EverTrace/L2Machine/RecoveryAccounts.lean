import EverTrace.L2Machine.RecoveryCapture
/-!
# A capture accounts for every item (`evertrace-engine/src/recovery/bundle.rs`)

Each item of a capture is stored, or omitted with a reason, or it is an empty diff
or index state that nobody needs. The loop is followed by one inversion lemma
(`captureItem_step`) and one invariant (`Books`): the lists hold the stored items,
the omissions name the others, and the byte count is what the lists hold.

The bundle's validator also checks fields that come straight from the facts: the
version of the manifest, the adapter, the time, the references and the omissions
that were handed in. `Acceptable` asks for these; without them a capture fails.

Results:
* `captureItem_step`: what one item does to the bundle.
* `captureItems_run`: the books after all items, and the fate of each.
* `validate_iff`: a bundle with such books is refused only if there is nothing in it.
* `capture_accounts`: a capture fails only if there is nothing to keep, and its bundle accounts for every item.
* `old_manifest_fails`: it fails on facts with manifest version 0.
-/
namespace EverTrace.L2.Recovery
open EverTrace.Lib EverTrace.L1 EverTrace.L2.Repository
open EverTrace.L1.Protect (ProtectedPayload DeviceKey protect hex protect_ok protect_inv redact redactFrom RedactionSpan)

/-! ## Stored payloads -/

/-- The reference describes these bytes after redaction. -/
def CaptureEnv.Holds (env : CaptureEnv) (key : DeviceKey) (bytes : Bytes) (ref : RecoveryProtectedRef) : Prop :=
  ∃ payload digest, protect env.mac bytes key = .ok payload ∧ env.put payload = some digest
    ∧ ref = CaptureEnv.storedRef payload digest

/-- The detectors find a secret. -/
def Redacted (bytes : Bytes) : Prop := Protect.resolveOverlaps (Protect.detectCandidates bytes) ≠ []

variable {env : CaptureEnv} {key : DeviceKey} {bytes : Bytes} {ref : RecoveryProtectedRef}

theorem validDigest_hex (digest : Digest) : validDigest (hex digest.bytes) = true := by
  have h := Protect.validDigest_hex digest
  simpa [validDigest, Protect.validDigest] using h

theorem redact_nonempty {spans : List RedactionSpan} (h : bytes ≠ []) : redact bytes spans ≠ [] := by
  cases spans with
  | nil => simpa [redact, redactFrom] using h
  | cons span rest =>
    have htoken : Protect.redactionToken ≠ [] := by decide
    simp [redact, redactFrom, htoken]

theorem redact_nil {spans : List RedactionSpan} (h : ∀ span ∈ spans, span.start < span.stop ∧ span.stop ≤ 0) :
    redact [] spans = [] := by
  cases spans with
  | nil => rfl
  | cons span rest =>
    have := h span List.mem_cons_self
    omega

/-- The lengths of a stored payload are zero together. -/
theorem CaptureEnv.Holds.length_eq_zero (h : env.Holds key bytes ref) :
    (ref.protectedLength = 0 ↔ bytes = []) ∧ ref.originalLength = bytes.length := by
  obtain ⟨payload, digest, hprotect, -, rfl⟩ := h
  obtain ⟨hspans, hraw, hbytes, -⟩ := protect_inv hprotect
  refine ⟨⟨fun hzero => ?_, ?_⟩, hraw⟩
  · by_contra hne
    have hlength : payload.protectedBytes.length = 0 := hzero
    rw [hbytes] at hlength
    exact redact_nonempty hne (List.length_eq_zero_iff.mp hlength)
  · rintro rfl
    have hfrom := Protect.spansFrom_resolved []
    rw [← hspans] at hfrom
    have hnil : redact [] payload.spans = [] := redact_nil fun span hspan => (hfrom.inside span hspan).2
    show payload.protectedBytes.length = 0
    rw [hbytes, hnil]
    rfl

theorem CaptureEnv.Holds.secret_iff (h : env.Holds key bytes ref) :
    ref.protectedSecretDigest.isSome = true ↔ Redacted bytes := by
  obtain ⟨payload, digest, hprotect, -, rfl⟩ := h
  obtain ⟨hspans, -, -, hdigest⟩ := protect_inv hprotect
  have hsome : (CaptureEnv.storedRef payload digest).protectedSecretDigest.isSome
      = payload.protectedSecretDigest.isSome := Option.isSome_map
  rw [hsome, hdigest, hspans]
  simp [Redacted]

theorem CaptureEnv.Holds.validate (h : env.Holds key bytes ref) {nonempty : Bool} (hbytes : nonempty = true → bytes ≠ []) :
    (ref.validate nonempty).isOk = true := by
  obtain ⟨hzero, horiginal⟩ := h.length_eq_zero
  obtain ⟨payload, digest, hprotect, -, rfl⟩ := h
  obtain ⟨hspans, -, -, hdigest⟩ := protect_inv hprotect
  rw [RecoveryProtectedRef.validate, isOk_iff, ensure_ok]
  have hcas : validCasRef (hex digest.bytes) = true := by simp [validCasRef, validDigest_hex]
  have hsecret : ((payload.protectedSecretDigest.map fun digest => hex digest.bytes).all validDigest) = true := by
    cases payload.protectedSecretDigest with
    | none => rfl
    | some digest => exact validDigest_hex digest
  have hspan : ((payload.spans.length == 0) == (payload.protectedSecretDigest.map fun digest => hex digest.bytes).isNone)
      = true := by
    rw [Option.isNone_map, ← Option.not_isSome, hdigest]
    cases payload.spans <;> simp
  have horiginalZero : (CaptureEnv.storedRef payload digest).originalLength = 0 ↔ bytes = [] := by
    rw [horiginal, List.length_eq_zero_iff]
  simp only [Bool.and_eq_true]
  refine ⟨⟨⟨⟨hcas, ?_⟩, ?_⟩, hsecret⟩, hspan⟩
  · cases nonempty with
    | false => rfl
    | true => simp [hzero, horiginalZero, hbytes rfl]
  · cases nonempty with
    | true => rfl
    | false =>
      by_cases hnil : bytes = []
      · simp [hzero.mpr hnil, horiginalZero.mpr hnil]
      · have hprotected : ((CaptureEnv.storedRef payload digest).protectedLength != 0) = true :=
          bne_iff_ne.mpr (mt hzero.mp hnil)
        have hraw : ((CaptureEnv.storedRef payload digest).originalLength != 0) = true :=
          bne_iff_ne.mpr (mt horiginalZero.mp hnil)
        rw [hprotected, hraw]
        rfl

/-! ## One item -/

/-- An empty diff or index state that nobody needs. -/
def RecoveryCaptureItem.Idle (item : RecoveryCaptureItem) : Prop :=
  item.metadataOnly = false ∧ item.bytes = [] ∧ item.kind.isFile = false ∧ item.critical = false

def RecoveryCaptureItem.Redacted (item : RecoveryCaptureItem) : Prop :=
  Recovery.Redacted item.bytes ∨ ∃ path, item.relativePath = some path ∧ Recovery.Redacted path

/-- The item's bytes, and its path if it is a file, are stored under the reference. Only a file may be empty. -/
structure CaptureEnv.Stores (env : CaptureEnv) (key : DeviceKey) (item : RecoveryCaptureItem) (ref : RecoveryContentRef) :
    Prop where
  named : ref.itemRef = item.itemRef
  nonempty : item.kind.isFile = false → item.bytes ≠ []
  payload : env.Holds key item.bytes ref.payload
  path : match item.relativePath with
    | none => ref.protectedRelativePath = none
    | some path => ∃ stored, ref.protectedRelativePath = some stored ∧ env.Holds key path stored

theorem CaptureEnv.Stores.not_idle {item : RecoveryCaptureItem} {ref : RecoveryContentRef}
    (h : env.Stores key item ref) : ¬item.Idle :=
  fun hidle => h.nonempty hidle.2.2.1 hidle.2.1

/-- Why an item was left out. -/
structure Excuse (item : RecoveryCaptureItem) (omission : RecoveryOmission) : Prop where
  named : omission.itemRef = item.itemRef
  reason : omission.reason ≠ .secretRedacted
  metadata : omission.metadataRef = none ∨ omission.metadataRef = some "metadata_only"

/-- What one item does to a bundle. -/
inductive CaptureEnv.Step (env : CaptureEnv) (key : DeviceKey) (limit : Nat) (item : RecoveryCaptureItem)
    (bundle : RecoveryBundle) : RecoveryBundle → Prop
  | skip : item.Idle → env.Step key limit item bundle bundle
  | omitted (omission : RecoveryOmission) : ¬item.Idle → Excuse item omission →
      env.Step key limit item bundle (bundle.omit_ omission)
  | captured (ref : RecoveryContentRef) : env.Stores key item ref →
      bundle.capturedBytes + (ref.payload.protectedLength + ref.pathBytes) ≤ limit → ¬item.Redacted →
      env.Step key limit item bundle
        (bundle.push item.kind ref (bundle.capturedBytes + (ref.payload.protectedLength + ref.pathBytes)))
  | redacted (ref : RecoveryContentRef) : env.Stores key item ref →
      bundle.capturedBytes + (ref.payload.protectedLength + ref.pathBytes) ≤ limit → item.Redacted →
      env.Step key limit item bundle
        ((bundle.omit_ ⟨item.itemRef, .secretRedacted, some "protected_secret_digest"⟩).push item.kind ref
          (bundle.capturedBytes + (ref.payload.protectedLength + ref.pathBytes)))

/-! ### An item is never refused -/

def redactedBytes (bytes : Bytes) : Bytes :=
  redact bytes ((Protect.resolveOverlaps (Protect.detectCandidates bytes)).map Protect.Candidate.span)

def FewSecrets (bytes : Bytes) : Prop := (Protect.resolveOverlaps (Protect.detectCandidates bytes)).length < 2 ^ 32

/-- An item as the probe hands it over: a file has a path that is not empty, and nothing else has one. The bytes and
the path are in memory, and so are their redacted copies. -/
structure RecoveryCaptureItem.Fits (item : RecoveryCaptureItem) : Prop where
  ref : validRef item.itemRef = true
  path : match item.relativePath with
    | none => item.kind.isFile = false
    | some path => item.kind.isFile = true ∧ path ≠ []
  memory : item.bytes.length + (item.relativePath.getD []).length < 2 ^ 64
  redacted : (redactedBytes item.bytes).length + (redactedBytes (item.relativePath.getD [])).length < 2 ^ 64
  secrets : FewSecrets item.bytes ∧ FewSecrets (item.relativePath.getD [])

variable (key) in
theorem protect_stored (hput : ∀ payload, ∃ digest, env.put payload = some digest) (hlength : bytes.length < 2 ^ 64)
    (hredacted : (redactedBytes bytes).length < 2 ^ 64) (hfew : FewSecrets bytes) :
    ∃ payload stored, protect env.mac bytes key = .ok payload ∧ payload.protectedBytes.length = (redactedBytes bytes).length
      ∧ env.protectedRef payload = .ok stored ∧ env.Holds key bytes stored
      ∧ stored.protectedLength = (redactedBytes bytes).length := by
  obtain ⟨payload, hprotect, -⟩ := protect_ok env.mac bytes key hlength
  obtain ⟨digest, hdigest⟩ := hput payload
  obtain ⟨hspans, -, hbytes, -⟩ := protect_inv hprotect
  rw [hspans] at hbytes
  have hsize : payload.protectedBytes.length = (redactedBytes bytes).length := congrArg List.length hbytes
  have hcount : payload.spans.length < 2 ^ 32 := by
    rw [hspans, List.length_map]
    exact hfew
  refine ⟨payload, CaptureEnv.storedRef payload digest, hprotect, hsize, ?_, ⟨payload, digest, hprotect, hdigest, rfl⟩, hsize⟩
  have hget : okOr RecoveryError.cas (env.put payload) = .ok digest := okOr_ok.mpr hdigest
  rw [CaptureEnv.protectedRef, hget, ok_bind, ensure_bind_ok, ensure_bind_ok, hsize]
  exact ⟨decide_eq_true hredacted, decide_eq_true hcount, rfl⟩

variable (key) in
theorem path_stored {item : RecoveryCaptureItem} (hput : ∀ payload, ∃ digest, env.put payload = some digest)
    (h : item.Fits) :
    ∃ path stored, env.pathPayload key item = .ok path
      ∧ ((path.map fun value => value.protectedBytes.length).getD 0)
        = (stored.map RecoveryProtectedRef.protectedLength).getD 0
      ∧ (stored.map RecoveryProtectedRef.protectedLength).getD 0 ≤ (redactedBytes (item.relativePath.getD [])).length
      ∧ env.protectedPath path = .ok stored
      ∧ (match item.relativePath with
        | none => stored = none
        | some path => ∃ ref, stored = some ref ∧ env.Holds key path ref) := by
  have hpath := h.path
  have hmemory := h.memory
  have hredacted := h.redacted
  have hsecrets := h.secrets.2
  unfold CaptureEnv.pathPayload
  cases hrelative : item.relativePath with
  | none =>
    rw [hrelative] at hpath
    rw [hpath]
    exact ⟨none, none, rfl, rfl, Nat.zero_le _, rfl, rfl⟩
  | some path =>
    rw [hrelative] at hpath hmemory hredacted hsecrets
    rw [Option.getD_some] at hmemory hredacted hsecrets
    rw [hpath.1]
    obtain ⟨payload, stored, hprotect, hsize, hstored, hholds, hlength⟩ := protect_stored key hput
      (by omega) (by omega) hsecrets
    refine ⟨some payload, some stored, ?_, ?_, ?_, ?_, stored, rfl, hholds⟩
    · dsimp only
      rw [hprotect]
      rfl
    · simp [hsize, hlength]
    · simp [hlength]
    · rw [CaptureEnv.protectedPath, hstored]
      rfl

/-- A conversion of a length that fits passes. -/
theorem okOr_addU64 {e : RecoveryError} {a b : Nat} (h : a + b < 2 ^ 64) : okOr e (addU64 a b) = .ok (a + b) := by
  rw [okOr_ok, addU64, if_pos h]

theorem secret_redacted {item : RecoveryCaptureItem} {stored : RecoveryProtectedRef} {path : Option RecoveryProtectedRef}
    (hpayload : env.Holds key item.bytes stored)
    (hpath : match item.relativePath with
      | none => path = none
      | some bytes => ∃ ref, path = some ref ∧ env.Holds key bytes ref) :
    (stored.protectedSecretDigest.isSome || path.any fun value => value.protectedSecretDigest.isSome) = true
      ↔ item.Redacted := by
  rw [Bool.or_eq_true, hpayload.secret_iff, RecoveryCaptureItem.Redacted]
  cases hrelative : item.relativePath with
  | none =>
    rw [hrelative] at hpath
    simp [hpath]
  | some bytes =>
    rw [hrelative] at hpath
    obtain ⟨ref, rfl, hholds⟩ := hpath
    simp [hholds.secret_iff]

/-- An item that was protected is stored, or it does not fit the budget. -/
theorem protectItem_step {budget : RecoveryBudget} {bundle : RecoveryBundle} {item : RecoveryCaptureItem}
    (hput : ∀ payload, ∃ digest, env.put payload = some digest) (h : item.Fits)
    (hnonempty : item.kind.isFile = false → item.bytes ≠ []) (hbudget : budget.maxBundleBytes < 2 ^ 64) :
    ∃ bundle', env.protectItem budget key bundle item = .ok bundle'
      ∧ env.Step key budget.maxBundleBytes item bundle bundle' := by
  have hmemory := h.memory
  have hredacted := h.redacted
  obtain ⟨payload, stored, hprotect, hsize, hstored, hholds, hlength⟩ := protect_stored key hput
    (by omega) (by omega) h.secrets.1
  obtain ⟨path, storedPath, hpath, hpathSize, hpathLe, hpathStored, hpathHolds⟩ := path_stored key hput h
  have hsum : payload.protectedBytes.length + (storedPath.map RecoveryProtectedRef.protectedLength).getD 0 < 2 ^ 64 := by
    omega
  have hfirst : ensure RecoveryError.budget (payload.protectedBytes.length < 2 ^ 64) = .ok () :=
    ensure_ok.mpr (decide_eq_true (by omega))
  have hsecond : ensure RecoveryError.budget
      (((path.map fun value => value.protectedBytes.length).getD 0) < 2 ^ 64) = .ok () :=
    ensure_ok.mpr (decide_eq_true (by omega))
  unfold CaptureEnv.protectItem
  rw [hprotect]
  simp only [Except.mapError, ok_bind]
  rw [hfirst, ok_bind, hpath, ok_bind, hsecond, ok_bind, hpathSize, okOr_addU64 hsum, ok_bind]
  have hstores : env.Stores key item ⟨item.itemRef, stored, storedPath⟩ := ⟨rfl, hnonempty, hholds, hpathHolds⟩
  have htotal : payload.protectedBytes.length + (storedPath.map RecoveryProtectedRef.protectedLength).getD 0
      = stored.protectedLength + (RecoveryContentRef.mk item.itemRef stored storedPath).pathBytes := by
    rw [hlength, ← hsize]
    rfl
  rw [htotal] at hsum ⊢
  split
  · exact ⟨_, rfl, .omitted _ (fun hidle => hnonempty hidle.2.2.1 hidle.2.1) ⟨rfl, by simp, .inl rfl⟩⟩
  · next hfits =>
    have hle : bundle.capturedBytes + (stored.protectedLength
        + (RecoveryContentRef.mk item.itemRef stored storedPath).pathBytes) ≤ budget.maxBundleBytes := by
      unfold addU64 at hfits
      split at hfits
      · simpa using hfits
      · simp at hfits
    have hadd : okOr RecoveryError.budget (addU64 bundle.capturedBytes (stored.protectedLength
        + (RecoveryContentRef.mk item.itemRef stored storedPath).pathBytes)) = _ := okOr_addU64 (by omega)
    unfold CaptureEnv.storeItem
    rw [hstored, ok_bind, hpathStored, ok_bind]
    dsimp only
    by_cases hsecret : item.Redacted
    · rw [if_pos ((secret_redacted hholds hpathHolds).mpr hsecret)]
      refine ⟨_, ?_, .redacted ⟨item.itemRef, stored, storedPath⟩ hstores hle hsecret⟩
      have hadd' := hadd
      dsimp only [RecoveryBundle.omit_]
      rw [hadd', ok_bind]
      rfl
    · rw [if_neg (mt (secret_redacted hholds hpathHolds).mp hsecret), hadd, ok_bind]
      exact ⟨_, rfl, .captured ⟨item.itemRef, stored, storedPath⟩ hstores hle hsecret⟩

/-- **What one item does to a bundle**: it is skipped, left out with a reason, or stored. -/
theorem captureItem_step {budget : RecoveryBudget} {bundle : RecoveryBundle} {item : RecoveryCaptureItem}
    (hput : ∀ payload, ∃ digest, env.put payload = some digest) (h : item.Fits)
    (hbudget : budget.maxBundleBytes < 2 ^ 64) :
    ∃ bundle', env.captureItem budget key bundle item = .ok bundle'
      ∧ env.Step key budget.maxBundleBytes item bundle bundle' := by
  have hmemory := h.memory
  unfold CaptureEnv.captureItem
  split
  · next hmetadata =>
    refine ⟨_, rfl, .omitted _ (fun hidle => ?_) ⟨rfl, by simp, .inr rfl⟩⟩
    exact absurd (hidle.1.symm.trans hmetadata) (by decide)
  · next hmetadata =>
    have hlength : ensure RecoveryError.budget (item.bytes.length < 2 ^ 64) = .ok () :=
      ensure_ok.mpr (decide_eq_true (by omega))
    rw [hlength, ok_bind]
    split
    · next hempty =>
      rw [Bool.and_eq_true, beq_iff_eq, List.length_eq_zero_iff, Bool.not_eq_true'] at hempty
      split
      · next hcritical =>
        refine ⟨_, rfl, .omitted _ (fun hidle => ?_) ⟨rfl, ?_, .inl rfl⟩⟩
        · exact absurd (hidle.2.2.2.symm.trans hcritical) (by decide)
        · cases item.kind <;> simp [criticalReason]
      · next hcritical =>
        exact ⟨_, rfl, .skip ⟨Bool.eq_false_iff.mpr hmetadata, hempty.1, hempty.2, Bool.eq_false_iff.mpr hcritical⟩⟩
    · next hempty =>
      have hnonempty : item.kind.isFile = false → item.bytes ≠ [] := by
        intro hfile hbytes
        simp [hbytes, hfile] at hempty
      split
      · exact ⟨_, rfl, .omitted _ (fun hidle => hnonempty hidle.2.2.1 hidle.2.1) ⟨rfl, by simp, .inl rfl⟩⟩
      · exact protectItem_step hput h hnonempty hbudget

/-! ## All items -/

namespace RecoveryBundle

variable (bundle : RecoveryBundle) (omission : RecoveryOmission) (kind : RecoveryItemKind) (ref : RecoveryContentRef)
  (capturedBytes : Nat)

/-- The bundle without what the items put into it. -/
def blank : RecoveryBundle :=
  { bundle with
    trackedDiffBlobRefs := [], trackedFileBlobRefs := [], indexStateRefs := [], untrackedFileBlobRefs := []
    omissions := [], capturedBytes := 0 }

@[simp] theorem blank_push : (bundle.push kind ref capturedBytes).blank = bundle.blank := by cases kind <;> rfl

@[simp] theorem list_omit (kind : RecoveryItemKind) : (bundle.omit_ omission).list kind = bundle.list kind := by
  cases kind <;> rfl

@[simp] theorem list_push (other : RecoveryItemKind) : (bundle.push kind ref capturedBytes).list other
    = if other = kind then bundle.list other ++ [ref] else bundle.list other := by
  cases kind <;> cases other <;> rfl

@[simp] theorem omissions_omit : (bundle.omit_ omission).omissions = bundle.omissions ++ [omission] := rfl

@[simp] theorem omissions_push : (bundle.push kind ref capturedBytes).omissions = bundle.omissions := by
  cases kind <;> rfl

theorem contents_push : (bundle.push kind ref capturedBytes).contents.Perm (ref :: bundle.contents) := by
  rw [List.perm_iff_count]
  intro other
  cases kind <;> simp [push, contents, List.count_cons] <;> omega

@[simp] theorem capturedBytes_push : (bundle.push kind ref capturedBytes).capturedBytes = capturedBytes := by
  cases kind <;> rfl

theorem mem_contents {bundle : RecoveryBundle} {ref : RecoveryContentRef} :
    ref ∈ bundle.contents ↔ ∃ kind, ref ∈ bundle.list kind := by
  constructor
  · intro h
    simp only [contents, List.mem_append] at h
    rcases h with ((h | h) | h) | h
    · exact ⟨.trackedDiff, h⟩
    · exact ⟨.trackedFile, h⟩
    · exact ⟨.indexState, h⟩
    · exact ⟨.untrackedFile, h⟩
  · rintro ⟨kind, h⟩
    cases kind <;> simp_all [contents, list]

end RecoveryBundle

def RecoveryContentRef.storedBytes (ref : RecoveryContentRef) : Nat := ref.payload.protectedLength + ref.pathBytes

/-- What becomes of an item. -/
inductive ItemFate where
  | captured
  | leftOut
  | unneeded
  deriving DecidableEq, Repr

def RecoveryBundle.Lacks (bundle : RecoveryBundle) (itemRef : String) : Prop :=
  ∀ kind, ∀ ref ∈ bundle.list kind, ref.itemRef ≠ itemRef

def RecoveryBundle.Omits (bundle : RecoveryBundle) (itemRef : String) : Prop :=
  ∃ omission ∈ bundle.omissions, omission.itemRef = itemRef

/-- A captured item is in the list of its kind and has an omission, `SecretRedacted`, exactly if it was redacted; an item
that is left out has an omission that says why; an empty diff or index state has neither. -/
def CaptureEnv.Fares (env : CaptureEnv) (key : DeviceKey) (bundle : RecoveryBundle) (item : RecoveryCaptureItem) :
    ItemFate → Prop
  | .captured => ¬item.Idle ∧ (∃ ref ∈ bundle.list item.kind, env.Stores key item ref)
    ∧ (∀ omission ∈ bundle.omissions, omission.itemRef = item.itemRef → omission.reason = .secretRedacted)
    ∧ (bundle.Omits item.itemRef ↔ item.Redacted)
  | .leftOut => ¬item.Idle ∧ bundle.Lacks item.itemRef ∧ ∃ omission ∈ bundle.omissions, Excuse item omission
  | .unneeded => item.Idle ∧ bundle.Lacks item.itemRef ∧ ¬bundle.Omits item.itemRef

theorem CaptureEnv.Fares.unique {bundle : RecoveryBundle} {item : RecoveryCaptureItem} {fate fate' : ItemFate}
    (h : env.Fares key bundle item fate) (h' : env.Fares key bundle item fate') : fate = fate' := by
  have hstored : ∀ {ref}, ref ∈ bundle.list item.kind → env.Stores key item ref → ¬bundle.Lacks item.itemRef :=
    fun hmem hstores hlacks => hlacks _ _ hmem hstores.named
  cases fate <;> cases fate' <;> first
    | rfl
    | (obtain ⟨hidle, ⟨ref, hmem, hstores⟩, -⟩ := h
       exact absurd h'.2.1 (hstored hmem hstores))
    | (obtain ⟨hidle, ⟨ref, hmem, hstores⟩, -⟩ := h'
       exact absurd h.2.1 (hstored hmem hstores))
    | exact absurd h.1 h'.1
    | exact absurd h'.1 h.1

/-- Two bundles have the same content and the same omissions under a reference. -/
structure Agree (bundle bundle' : RecoveryBundle) (itemRef : String) : Prop where
  list : ∀ kind ref, ref.itemRef = itemRef → (ref ∈ bundle'.list kind ↔ ref ∈ bundle.list kind)
  omissions : ∀ omission, omission.itemRef = itemRef → (omission ∈ bundle'.omissions ↔ omission ∈ bundle.omissions)

theorem Agree.omit_ (bundle : RecoveryBundle) {omission : RecoveryOmission} {itemRef : String}
    (h : omission.itemRef ≠ itemRef) : Agree bundle (bundle.omit_ omission) itemRef where
  list kind ref _ := by rw [RecoveryBundle.list_omit]
  omissions other hother := by
    have hne : other ≠ omission := fun heq => h (heq ▸ hother)
    simp [hne]

theorem Agree.push (bundle : RecoveryBundle) {ref : RecoveryContentRef} {itemRef : String} (h : ref.itemRef ≠ itemRef)
    (kind : RecoveryItemKind) (capturedBytes : Nat) : Agree bundle (bundle.push kind ref capturedBytes) itemRef where
  list other content hcontent := by
    have hne : content ≠ ref := fun heq => h (heq ▸ hcontent)
    rw [RecoveryBundle.list_push]
    split <;> simp [hne]
  omissions other _ := by rw [RecoveryBundle.omissions_push]

theorem Agree.trans {first second third : RecoveryBundle} {itemRef : String} (h : Agree first second itemRef)
    (h' : Agree second third itemRef) : Agree first third itemRef where
  list kind ref href := (h'.list kind ref href).trans (h.list kind ref href)
  omissions omission homission := (h'.omissions omission homission).trans (h.omissions omission homission)

section Agree

variable {bundle bundle' : RecoveryBundle} {item : RecoveryCaptureItem}

theorem Agree.lacks (h : Agree bundle bundle' item.itemRef) (hlacks : bundle.Lacks item.itemRef) :
    bundle'.Lacks item.itemRef :=
  fun kind ref hmem hnamed => hlacks kind ref ((h.list kind ref hnamed).mp hmem) hnamed

theorem Agree.omits (h : Agree bundle bundle' item.itemRef) : bundle'.Omits item.itemRef ↔ bundle.Omits item.itemRef := by
  constructor
  · rintro ⟨omission, hmem, hnamed⟩
    exact ⟨omission, (h.omissions omission hnamed).mp hmem, hnamed⟩
  · rintro ⟨omission, hmem, hnamed⟩
    exact ⟨omission, (h.omissions omission hnamed).mpr hmem, hnamed⟩

/-- The fate of an item is settled by what stands under its reference. -/
theorem CaptureEnv.Fares.frame {fate : ItemFate} (hfares : env.Fares key bundle item fate)
    (h : Agree bundle bundle' item.itemRef) : env.Fares key bundle' item fate := by
  cases fate with
  | captured =>
    obtain ⟨hidle, ⟨ref, hmem, hstores⟩, hreason, homits⟩ := hfares
    refine ⟨hidle, ⟨ref, (h.list _ _ hstores.named).mpr hmem, hstores⟩, fun omission hmem hnamed => ?_,
      h.omits.trans homits⟩
    exact hreason omission ((h.omissions omission hnamed).mp hmem) hnamed
  | leftOut =>
    obtain ⟨hidle, hlacks, omission, hmem, hexcuse⟩ := hfares
    exact ⟨hidle, h.lacks hlacks, omission, (h.omissions omission hexcuse.named).mpr hmem, hexcuse⟩
  | unneeded =>
    obtain ⟨hidle, hlacks, homits⟩ := hfares
    exact ⟨hidle, h.lacks hlacks, mt h.omits.mp homits⟩

end Agree

/-- What holds of a bundle while items are put into it: the lists hold stored items, the omissions are the ones that
were handed in and those of items, each reference stands once in both, and the byte count is what the lists hold. -/
structure CaptureEnv.Books (env : CaptureEnv) (key : DeviceKey) (limit : Nat) (facts : RecoveryCaptureFacts)
    (bundle : RecoveryBundle) : Prop where
  blank : bundle.blank = (env.emptyBundle facts).blank
  stored : ∀ kind, ∀ ref ∈ bundle.list kind, ∃ item ∈ facts.items, item.kind = kind ∧ env.Stores key item ref
  contents : (bundle.contents.map RecoveryContentRef.itemRef).Nodup
  supplied : facts.omissions ⊆ bundle.omissions
  omitted : ∀ omission ∈ bundle.omissions, omission ∈ facts.omissions
    ∨ ∃ item ∈ facts.items, omission.itemRef = item.itemRef ∧ omission.metadataRef.all validRef = true
  omissions : (bundle.omissions.map RecoveryOmission.itemRef).Nodup
  bytes : bundle.capturedBytes = (bundle.contents.map RecoveryContentRef.storedBytes).sum
  bounded : bundle.capturedBytes ≤ limit

section Books

variable {limit : Nat} {facts : RecoveryCaptureFacts} {bundle bundle' : RecoveryBundle} {item : RecoveryCaptureItem}

theorem books_empty (hsupplied : (facts.omissions.map RecoveryOmission.itemRef).Nodup) :
    env.Books key limit facts (env.emptyBundle facts) where
  blank := rfl
  stored kind ref h := by cases kind <;> cases h
  contents := List.nodup_nil
  supplied := List.Subset.refl _
  omitted omission h := .inl h
  omissions := hsupplied
  bytes := rfl
  bounded := Nat.zero_le _

theorem CaptureEnv.Books.omit_ (h : env.Books key limit facts bundle) {omission : RecoveryOmission}
    (hitem : item ∈ facts.items) (hnamed : omission.itemRef = item.itemRef)
    (hmetadata : omission.metadataRef.all validRef = true) (hnew : ¬bundle.Omits item.itemRef) :
    env.Books key limit facts (bundle.omit_ omission) where
  blank := h.blank
  stored kind ref hmem := by
    rw [RecoveryBundle.list_omit] at hmem
    exact h.stored kind ref hmem
  contents := h.contents
  supplied := List.Subset.trans h.supplied (List.subset_append_left _ _)
  omitted other hmem := by
    rcases List.mem_append.mp hmem with hmem | hmem
    · exact h.omitted other hmem
    · rw [List.mem_singleton.mp hmem]
      exact .inr ⟨item, hitem, hnamed, hmetadata⟩
  omissions := by
    rw [RecoveryBundle.omissions_omit, List.map_append, List.map_singleton, List.nodup_append_comm,
      List.singleton_append, List.nodup_cons, hnamed]
    exact ⟨fun hmem => hnew (List.mem_map.mp hmem), h.omissions⟩
  bytes := h.bytes
  bounded := h.bounded

theorem RecoveryBundle.Lacks.notMem {itemRef : String} (h : bundle.Lacks itemRef) :
    itemRef ∉ bundle.contents.map RecoveryContentRef.itemRef := by
  intro hmem
  obtain ⟨ref, href, hnamed⟩ := List.mem_map.mp hmem
  obtain ⟨kind, hkind⟩ := RecoveryBundle.mem_contents.mp href
  exact h kind ref hkind hnamed

theorem CaptureEnv.Books.push (h : env.Books key limit facts bundle) {ref : RecoveryContentRef}
    (hitem : item ∈ facts.items) (hstores : env.Stores key item ref) (hlacks : bundle.Lacks item.itemRef)
    (hle : bundle.capturedBytes + ref.storedBytes ≤ limit) :
    env.Books key limit facts (bundle.push item.kind ref (bundle.capturedBytes + ref.storedBytes)) where
  blank := (RecoveryBundle.blank_push ..).trans h.blank
  stored kind other hmem := by
    rw [RecoveryBundle.list_push] at hmem
    split at hmem
    · next hkind =>
      rcases List.mem_append.mp hmem with hmem | hmem
      · exact h.stored kind other hmem
      · rw [List.mem_singleton.mp hmem]
        exact ⟨item, hitem, hkind.symm, hstores⟩
    · exact h.stored kind other hmem
  contents := by
    have hperm := (bundle.contents_push item.kind ref (bundle.capturedBytes + ref.storedBytes)).map
      RecoveryContentRef.itemRef
    rw [hperm.nodup_iff, List.map_cons, List.nodup_cons, hstores.named]
    exact ⟨hlacks.notMem, h.contents⟩
  supplied := by
    rw [RecoveryBundle.omissions_push]
    exact h.supplied
  omitted := by
    rw [RecoveryBundle.omissions_push]
    exact h.omitted
  omissions := by
    rw [RecoveryBundle.omissions_push]
    exact h.omissions
  bytes := by
    have hperm := (bundle.contents_push item.kind ref (bundle.capturedBytes + ref.storedBytes)).map
      RecoveryContentRef.storedBytes
    rw [RecoveryBundle.capturedBytes_push, hperm.sum_nat, List.map_cons, List.sum_cons, h.bytes, Nat.add_comm]
  bounded := by
    rw [RecoveryBundle.capturedBytes_push]
    exact hle

/-! ### A step keeps the books -/

theorem CaptureEnv.Step.agree (h : env.Step key limit item bundle bundle') {itemRef : String}
    (hne : item.itemRef ≠ itemRef) : Agree bundle bundle' itemRef := by
  cases h with
  | skip => exact ⟨fun _ _ _ => Iff.rfl, fun _ _ => Iff.rfl⟩
  | omitted omission hidle hexcuse => exact .omit_ bundle (hexcuse.named ▸ hne)
  | captured ref hstores => exact .push bundle (hstores.named ▸ hne) _ _
  | redacted ref hstores => exact (Agree.omit_ bundle hne).trans (.push _ (hstores.named ▸ hne) _ _)

theorem CaptureEnv.Step.books (h : env.Step key limit item bundle bundle') (hitem : item ∈ facts.items)
    (hlacks : bundle.Lacks item.itemRef) (homits : ¬bundle.Omits item.itemRef) (hbooks : env.Books key limit facts bundle) :
    env.Books key limit facts bundle' := by
  cases h with
  | skip => exact hbooks
  | omitted omission hidle hexcuse =>
    refine hbooks.omit_ hitem hexcuse.named ?_ homits
    rcases hexcuse.metadata with hnone | hsome
    · rw [hnone]
      rfl
    · rw [hsome]
      decide
  | captured ref hstores hle => exact hbooks.push hitem hstores hlacks hle
  | redacted ref hstores hle =>
    have hvalid : validRef "protected_secret_digest" = true := by decide
    have hnoted : env.Books key limit facts
        (bundle.omit_ ⟨item.itemRef, .secretRedacted, some "protected_secret_digest"⟩) :=
      hbooks.omit_ hitem rfl hvalid homits
    exact hnoted.push hitem hstores (fun kind other hmem => hlacks kind other (by simpa using hmem)) hle

theorem CaptureEnv.Step.fares (h : env.Step key limit item bundle bundle') (hlacks : bundle.Lacks item.itemRef)
    (homits : ¬bundle.Omits item.itemRef) : ∃ fate, env.Fares key bundle' item fate := by
  cases h with
  | skip hidle => exact ⟨.unneeded, hidle, hlacks, homits⟩
  | omitted omission hidle hexcuse =>
    refine ⟨.leftOut, hidle, fun kind ref hmem => hlacks kind ref (by simpa using hmem), omission, ?_, hexcuse⟩
    exact List.mem_append_right _ List.mem_cons_self
  | captured ref hstores hle hsecret =>
    refine ⟨.captured, hstores.not_idle, ⟨ref, by simp, hstores⟩, fun omission hmem hnamed => ?_, fun h => ?_, fun h => ?_⟩
    · rw [RecoveryBundle.omissions_push] at hmem
      exact absurd ⟨omission, hmem, hnamed⟩ homits
    · rw [RecoveryBundle.Omits, RecoveryBundle.omissions_push] at h
      exact absurd h homits
    · exact absurd h hsecret
  | redacted ref hstores hle hsecret =>
    refine ⟨.captured, hstores.not_idle, ⟨ref, by simp, hstores⟩, fun omission hmem hnamed => ?_, fun _ => hsecret, fun _ => ?_⟩
    · rw [RecoveryBundle.omissions_push, RecoveryBundle.omissions_omit] at hmem
      rcases List.mem_append.mp hmem with hmem | hmem
      · exact absurd ⟨omission, hmem, hnamed⟩ homits
      · rw [List.mem_singleton.mp hmem]
    · exact ⟨⟨item.itemRef, .secretRedacted, some "protected_secret_digest"⟩, by simp, rfl⟩

/-- **The loop over the items** keeps the books, settles the fate of each item and touches nothing under other
references. -/
theorem captureItems_run {budget : RecoveryBudget} (hput : ∀ payload, ∃ digest, env.put payload = some digest)
    (hbudget : budget.maxBundleBytes < 2 ^ 64) :
    ∀ (items : List RecoveryCaptureItem) (index : Nat) {bundle : RecoveryBundle},
      (∀ item ∈ items, item.Fits) → items ⊆ facts.items → (items.map RecoveryCaptureItem.itemRef).Nodup →
      (∀ item ∈ items, bundle.Lacks item.itemRef ∧ ¬bundle.Omits item.itemRef) →
      env.Books key budget.maxBundleBytes facts bundle →
      ∃ bundle', env.captureItems (fun _ => false) budget key index bundle items = .ok bundle'
        ∧ env.Books key budget.maxBundleBytes facts bundle' ∧ (∀ item ∈ items, ∃ fate, env.Fares key bundle' item fate)
        ∧ ∀ itemRef ∉ items.map RecoveryCaptureItem.itemRef, Agree bundle bundle' itemRef := by
  intro items
  induction items with
  | nil =>
    intro index bundle _ _ _ _ hbooks
    exact ⟨bundle, rfl, hbooks, fun item h => (by cases h), fun _ _ => ⟨fun _ _ _ => Iff.rfl, fun _ _ => Iff.rfl⟩⟩
  | cons item rest ih =>
    intro index bundle hfits hsub hnodup hnew hbooks
    rw [List.map_cons, List.nodup_cons] at hnodup
    obtain ⟨hlacks, homits⟩ := hnew item List.mem_cons_self
    obtain ⟨next, hnext, hstep⟩ : ∃ next, env.captureItem budget key bundle item = .ok next
        ∧ env.Step key budget.maxBundleBytes item bundle next :=
      captureItem_step hput (hfits item List.mem_cons_self) hbudget
    have hother : ∀ other ∈ rest, Agree bundle next other.itemRef := fun other hother =>
      hstep.agree fun heq => hnodup.1 (heq ▸ List.mem_map_of_mem hother)
    have hnew' : ∀ other ∈ rest, next.Lacks other.itemRef ∧ ¬next.Omits other.itemRef := fun other hmem => by
      obtain ⟨hlacks, homits⟩ := hnew other (List.mem_cons_of_mem _ hmem)
      exact ⟨(hother other hmem).lacks hlacks, mt (hother other hmem).omits.mp homits⟩
    obtain ⟨bundle', hrun, hbooks', hfates, hagree⟩ := ih (index + 1)
      (fun other h => hfits other (List.mem_cons_of_mem _ h)) (fun other h => hsub (List.mem_cons_of_mem _ h)) hnodup.2
      hnew' (hstep.books (hsub List.mem_cons_self) hlacks homits hbooks)
    refine ⟨bundle', ?_, hbooks', fun other hmem => ?_, fun itemRef hmem => ?_⟩
    · rw [CaptureEnv.captureItems, if_neg (by decide), hnext, ok_bind]
      exact hrun
    · rcases List.mem_cons.mp hmem with rfl | hmem
      · obtain ⟨fate, hfares⟩ := hstep.fares hlacks homits
        exact ⟨fate, hfares.frame (hagree _ hnodup.1)⟩
      · exact hfates other hmem
    · rw [List.map_cons, List.mem_cons, not_or] at hmem
      exact (hstep.agree (Ne.symm hmem.1)).trans (hagree itemRef hmem.2)

end Books

/-! ## The bundle -/

theorem CaptureEnv.Stores.validate {item : RecoveryCaptureItem} {ref : RecoveryContentRef}
    (h : env.Stores key item ref) (hfits : item.Fits) : ref.validate item.kind.isFile = .ok () := by
  have hpath := h.path
  have hitem := hfits.path
  have hpayload : (ref.payload.validate !item.kind.isFile).isOk = true :=
    h.payload.validate fun hfile => h.nonempty (by simpa using hfile)
  unfold RecoveryContentRef.validate
  rw [ensure_ok, h.named, hfits.ref, hpayload]
  cases hrelative : item.relativePath with
  | none =>
    rw [hrelative] at hpath hitem
    rw [hpath, hitem]
    rfl
  | some path =>
    rw [hrelative] at hpath hitem
    obtain ⟨stored, hstored, hholds⟩ := hpath
    rw [hstored, hitem.1]
    exact hholds.validate fun _ => hitem.2

/-- The worktree did not change while the items were read. -/
def RecoveryCaptureFacts.Unmoved (facts : RecoveryCaptureFacts) : Prop :=
  ∃ fingerprint, facts.beforeFingerprint = some fingerprint ∧ facts.afterFingerprint = some fingerprint

/-- Nothing is captured, referenced or omitted. -/
structure RecoveryCaptureFacts.Nothing (facts : RecoveryCaptureFacts) : Prop where
  idle : ∀ item ∈ facts.items, item.Idle
  artifacts : facts.artifactRefs = []
  metadata : facts.metadataArtifactRefs = []
  runs : facts.configAndRunRefs = []
  omissions : facts.omissions = []
  unmoved : facts.Unmoved

/-- The item ref of the omission for a worktree that changed. -/
def fenceRef : String := "worktree_mutation_fence"

/-- The snapshot is valid and the items are told apart, from each other, from the omissions and from the fence. -/
structure RecoveryCaptureFacts.WellFormed (facts : RecoveryCaptureFacts) : Prop where
  snapshot : facts.snapshot.validate = .ok ()
  fits : ∀ item ∈ facts.items, item.Fits
  distinct : (facts.items.map RecoveryCaptureItem.itemRef).Nodup
  separate : ∀ item ∈ facts.items, ∀ omission ∈ facts.omissions, omission.itemRef ≠ item.itemRef
  reserved : ∀ item ∈ facts.items, item.itemRef ≠ fenceRef

/-- The other fields pass the checks that the validator of bundles makes on them. -/
structure RecoveryCaptureFacts.Acceptable (facts : RecoveryCaptureFacts) : Prop extends facts.WellFormed where
  omissions : uniqueOmissions facts.omissions = true
  unfenced : ∀ omission ∈ facts.omissions, omission.itemRef ≠ fenceRef
  manifest : facts.mutationManifestVersion ≠ 0
  adapter : validRef facts.adapterManifestId = true
  time : 0 ≤ facts.capturedAtUs
  artifacts : uniqueValidRefs facts.artifactRefs = true
  metadata : uniqueValidRefs facts.metadataArtifactRefs = true
  runs : uniqueValidRefs facts.configAndRunRefs = true
  anchors : unique facts.attemptAnchorIds = true

section Sealed

variable {limit : Nat} {facts : RecoveryCaptureFacts} {bundle : RecoveryBundle}

/-- The fence leaves the bundle alone, or it adds its omission. -/
theorem checkFence_cases :
    (facts.Unmoved ∧ bundle.checkFence facts.beforeFingerprint facts.afterFingerprint = bundle)
    ∨ ¬facts.Unmoved ∧ ∃ reason integrity, integrity ≠ .complete
      ∧ bundle.checkFence facts.beforeFingerprint facts.afterFingerprint = bundle.breakFence reason integrity := by
  unfold RecoveryBundle.checkFence
  split
  · next before after hbefore hafter =>
    by_cases hsame : before = after
    · subst hsame
      exact .inl ⟨⟨before, hbefore, hafter⟩, if_pos rfl⟩
    · refine .inr ⟨?_, .concurrentChange, .raced, by decide, if_neg hsame⟩
      rintro ⟨fingerprint, h, h'⟩
      exact hsame (Option.some.inj (hbefore.symm.trans (h.trans (h'.symm.trans hafter))))
  · next hnone =>
    refine .inr ⟨?_, .unreadable, .bestEffort, by decide, rfl⟩
    rintro ⟨fingerprint, h, h'⟩
    exact hnone _ _ h h'

/-- The bundle behind the fence: what the books say of it, and the fate of each item. -/
structure CaptureEnv.Sealed (env : CaptureEnv) (key : DeviceKey) (limit : Nat) (facts : RecoveryCaptureFacts)
    (bundle : RecoveryBundle) : Prop where
  blank : { bundle.blank with captureStatus := .complete, orderingIntegrity := .complete } = (env.emptyBundle facts).blank
  stored : ∀ kind, ∀ ref ∈ bundle.list kind, ∃ item ∈ facts.items, item.kind = kind ∧ env.Stores key item ref
  contents : (bundle.contents.map RecoveryContentRef.itemRef).Nodup
  supplied : facts.omissions ⊆ bundle.omissions
  omitted : ∀ omission ∈ bundle.omissions, omission ∈ facts.omissions
    ∨ (∃ item ∈ facts.items, omission.itemRef = item.itemRef ∧ omission.metadataRef.all validRef = true)
    ∨ ¬facts.Unmoved ∧ omission.itemRef = fenceRef ∧ omission.metadataRef = none
  omissions : (bundle.omissions.map RecoveryOmission.itemRef).Nodup
  moved : bundle.hasPartialFact = false ↔ bundle.omissions = [] ∧ facts.Unmoved
  bytes : bundle.capturedBytes = (bundle.contents.map RecoveryContentRef.storedBytes).sum
  bounded : bundle.capturedBytes ≤ limit
  fates : ∀ item ∈ facts.items, ∃ fate, env.Fares key bundle item fate

theorem CaptureEnv.Books.complete (h : env.Books key limit facts bundle) :
    bundle.captureStatus = .complete ∧ bundle.orderingIntegrity = .complete :=
  ⟨congrArg RecoveryBundle.captureStatus h.blank, congrArg RecoveryBundle.orderingIntegrity h.blank⟩

theorem CaptureEnv.Books.unmoved (h : env.Books key limit facts bundle) (hunmoved : facts.Unmoved)
    (hfates : ∀ item ∈ facts.items, ∃ fate, env.Fares key bundle item fate) : env.Sealed key limit facts bundle where
  blank := by
    obtain ⟨hstatus, hintegrity⟩ := h.complete
    rw [← h.blank, RecoveryBundle.blank, hstatus, hintegrity]
  stored := h.stored
  contents := h.contents
  supplied := h.supplied
  omitted omission hmem := by
    rcases h.omitted omission hmem with hold | hitem
    · exact .inl hold
    · exact .inr (.inl hitem)
  omissions := h.omissions
  moved := by
    rw [RecoveryBundle.hasPartialFact, h.complete.2]
    simp [hunmoved]
  bytes := h.bytes
  bounded := h.bounded
  fates := hfates

theorem CaptureEnv.Books.breakFence (h : env.Books key limit facts bundle) (hfacts : facts.Acceptable)
    (hmoved : ¬facts.Unmoved) {reason : RecoveryOmissionReason} {integrity : OrderingIntegrity}
    (hfates : ∀ item ∈ facts.items, ∃ fate, env.Fares key bundle item fate) :
    env.Sealed key limit facts (bundle.breakFence reason integrity) where
  blank := by
    obtain ⟨hstatus, -⟩ := h.complete
    rw [← h.blank, RecoveryBundle.blank, RecoveryBundle.blank, ← hstatus, ← h.complete.2]
    rfl
  stored := h.stored
  contents := h.contents
  supplied := List.Subset.trans h.supplied (List.subset_append_left _ _)
  omitted omission hmem := by
    rcases List.mem_append.mp hmem with hmem | hmem
    · rcases h.omitted omission hmem with hold | hitem
      · exact .inl hold
      · exact .inr (.inl hitem)
    · rw [List.mem_singleton.mp hmem]
      exact .inr (.inr ⟨hmoved, rfl, rfl⟩)
  omissions := by
    show ((bundle.omissions ++ [_]).map RecoveryOmission.itemRef).Nodup
    rw [List.map_append, List.map_singleton, List.nodup_append_comm, List.singleton_append, List.nodup_cons]
    refine ⟨fun hmem => ?_, h.omissions⟩
    obtain ⟨omission, homission, hnamed⟩ := List.mem_map.mp hmem
    rcases h.omitted omission homission with hold | ⟨item, hitem, hsame, -⟩
    · exact hfacts.unfenced omission hold hnamed
    · exact hfacts.reserved item hitem (hsame.symm.trans hnamed)
  moved := by
    simp [RecoveryBundle.hasPartialFact, RecoveryBundle.breakFence, hmoved]
  bytes := h.bytes
  bounded := h.bounded
  fates item hitem := by
    obtain ⟨fate, hfares⟩ := hfates item hitem
    refine ⟨fate, hfares.frame ⟨fun kind ref _ => ?_, fun omission hnamed => ?_⟩⟩
    · cases kind <;> exact Iff.rfl
    · have hne : omission.itemRef ≠ fenceRef := fun heq => hfacts.reserved item hitem (hnamed.symm.trans heq)
      constructor
      · intro hmem
        rcases List.mem_append.mp hmem with hmem | hmem
        · exact hmem
        · rw [List.mem_singleton.mp hmem] at hne
          exact absurd rfl hne
      · exact fun hmem => List.mem_append_left _ hmem

/-- Settling the status changes nothing else, and the status tells whether something is missing. -/
theorem CaptureEnv.Sealed.settle (h : env.Sealed key limit facts bundle) (hstatus : bundle.captureStatus = .complete) :
    env.Sealed key limit facts bundle.settleStatus
      ∧ (bundle.settleStatus.captureStatus = .complete ↔ bundle.settleStatus.hasPartialFact = false) := by
  unfold RecoveryBundle.settleStatus
  split
  · next hfact =>
    refine ⟨⟨h.blank, h.stored, h.contents, h.supplied, h.omitted, h.omissions, h.moved, h.bytes, h.bounded, ?_⟩, ?_⟩
    · intro item hitem
      obtain ⟨fate, hfares⟩ := h.fates item hitem
      exact ⟨fate, hfares.frame ⟨fun kind ref _ => (by cases kind <;> exact Iff.rfl), fun _ _ => Iff.rfl⟩⟩
    · have hsame : RecoveryBundle.hasPartialFact { bundle with captureStatus := .partial_ } = true := hfact
      simp [hsame]
  · next hfact =>
    exact ⟨h, by simp [hstatus, hfact]⟩

/-- **The fence seals the books.** -/
theorem CaptureEnv.Books.fenced (h : env.Books key limit facts bundle) (hfacts : facts.Acceptable)
    (hfates : ∀ item ∈ facts.items, ∃ fate, env.Fares key bundle item fate) :
    env.Sealed key limit facts (bundle.fenced facts.beforeFingerprint facts.afterFingerprint)
      ∧ ((bundle.fenced facts.beforeFingerprint facts.afterFingerprint).captureStatus = .complete
        ↔ (bundle.fenced facts.beforeFingerprint facts.afterFingerprint).hasPartialFact = false) := by
  unfold RecoveryBundle.fenced
  rcases (checkFence_cases : _ ∨ _) with ⟨hunmoved, heq⟩ | ⟨hmoved, reason, integrity, -, heq⟩
  · rw [heq]
    exact (h.unmoved hunmoved hfates).settle h.complete.1
  · rw [heq]
    exact (h.breakFence hfacts hmoved hfates).settle h.complete.1

/-! ### The validator -/

theorem foldlM_storedBytes : ∀ {refs : List RecoveryContentRef} {total : Nat},
    total + (refs.map RecoveryContentRef.storedBytes).sum < 2 ^ 64 →
    refs.foldlM (fun total value => do addU64 total (← value.protectedBytes)) total
      = some (total + (refs.map RecoveryContentRef.storedBytes).sum) := by
  intro refs
  induction refs with
  | nil =>
    intro total _
    rfl
  | cons ref rest ih =>
    intro total h
    rw [List.map_cons, List.sum_cons] at h ⊢
    have hbytes : ref.protectedBytes = some ref.storedBytes := by
      rw [RecoveryContentRef.protectedBytes, addU64, if_pos (by unfold RecoveryContentRef.storedBytes at h; omega)]
      rfl
    have hadd : addU64 total ref.storedBytes = some (total + ref.storedBytes) := if_pos (by omega)
    have hnext := @ih (total + ref.storedBytes) (by omega)
    rw [List.foldlM_cons, hbytes]
    show (addU64 total ref.storedBytes >>= fun total => rest.foldlM _ total) = _
    rw [hadd]
    exact hnext.trans (by rw [Nat.add_assoc])

theorem contentBytes_eq (h : env.Sealed key limit facts bundle) (hlimit : limit < 2 ^ 64) :
    bundle.contentBytes = some bundle.capturedBytes := by
  have hbytes := h.bytes
  have hbounded := h.bounded
  have hclaims : bundle.attemptAnchorClaims = [] := congrArg RecoveryBundle.attemptAnchorClaims h.blank
  rw [RecoveryBundle.contentBytes, foldlM_storedBytes (by omega), hclaims, Nat.zero_add, ← hbytes]
  rfl

/-- What a bundle must have to be worth keeping. -/
def RecoveryBundle.Worth (bundle : RecoveryBundle) : Prop :=
  bundle.hasRecoverableContent = true ∨ bundle.hasPartialFact = true

/-- A sealed bundle is refused only if there is nothing in it. -/
theorem CaptureEnv.Sealed.validate_iff (h : env.Sealed key limit facts bundle) (hfacts : facts.Acceptable)
    (hlimit : limit < 2 ^ 64) (hstatus : bundle.captureStatus = .complete ↔ bundle.hasPartialFact = false) :
    bundle.validate = .ok () ↔ bundle.Worth := by
  have href : ∀ kind, ∀ ref ∈ bundle.list kind, ref.validate kind.isFile = .ok () := by
    intro kind ref hmem
    obtain ⟨item, hitem, rfl, hstores⟩ := h.stored kind ref hmem
    exact hstores.validate (hfacts.fits item hitem)
  have hplain : (bundle.trackedDiffBlobRefs ++ bundle.indexStateRefs).forM (fun value => value.validate false) = .ok () := by
    refine forM_eq_ok.mpr fun ref hmem => ?_
    rcases List.mem_append.mp hmem with hmem | hmem
    · exact href .trackedDiff ref hmem
    · exact href .indexState ref hmem
  have hfiles : (bundle.trackedFileBlobRefs ++ bundle.untrackedFileBlobRefs).forM (fun value => value.validate true)
      = .ok () := by
    refine forM_eq_ok.mpr fun ref hmem => ?_
    rcases List.mem_append.mp hmem with hmem | hmem
    · exact href .trackedFile ref hmem
    · exact href .untrackedFile ref hmem
  have hbytes : okOr RepositoryError.invalidRecovery bundle.contentBytes = .ok bundle.capturedBytes :=
    okOr_ok.mpr (contentBytes_eq h hlimit)
  have homissions : uniqueOmissions bundle.omissions = true := by
    have hsupplied := hfacts.omissions
    rw [uniqueOmissions, Bool.and_eq_true, List.all_eq_true] at hsupplied ⊢
    refine ⟨fun omission hmem => ?_, decide_eq_true h.omissions⟩
    rcases h.omitted omission hmem with hold | ⟨item, hitem, hsame, hmetadata⟩ | ⟨-, hfence, hnone⟩
    · exact hsupplied.1 omission hold
    · rw [hsame, (hfacts.fits item hitem).ref, hmetadata]
      rfl
    · rw [hfence, hnone]
      decide
  have hchecks : ∀ worth : Bool, (!bundle.triggerRequestIds.isEmpty
      && bundle.eligibleMutationManifestVersion != 0
      && bundle.eligibleMutationDomain == supportedMutationDomain
      && validRef bundle.adapterManifestId
      && 0 ≤ bundle.capturedAtUs
      && bundle.capturedBytes == bundle.capturedBytes
      && worth
      && unique bundle.triggerRequestIds
      && unique bundle.attemptAnchorIds
      && uniqueAnchorClaims bundle.attemptAnchorClaims
      && (bundle.attemptAnchorClaims.all fun claim => bundle.attemptAnchorIds.contains claim.attemptId)
      && (bundle.attemptAnchorClaims.isEmpty || bundle.isExactPatchOnlyAnchorShape)
      && uniqueValidRefs bundle.untrackedWorkArtifactRefs
      && uniqueValidRefs bundle.metadataOnlyWorkArtifactRefs
      && uniqueValidRefs bundle.configAndRunRefs
      && unique (bundle.contents.map RecoveryContentRef.itemRef)
      && uniqueOmissions bundle.omissions) = worth := by
    have htriggers : bundle.triggerRequestIds = [facts.requestId] := congrArg RecoveryBundle.triggerRequestIds h.blank
    have hmanifest : bundle.eligibleMutationManifestVersion = facts.mutationManifestVersion :=
      congrArg RecoveryBundle.eligibleMutationManifestVersion h.blank
    have hdomain : bundle.eligibleMutationDomain = supportedMutationDomain :=
      congrArg RecoveryBundle.eligibleMutationDomain h.blank
    have hadapter : bundle.adapterManifestId = facts.adapterManifestId := congrArg RecoveryBundle.adapterManifestId h.blank
    have htime : bundle.capturedAtUs = facts.capturedAtUs := congrArg RecoveryBundle.capturedAtUs h.blank
    have hanchors : bundle.attemptAnchorIds = facts.attemptAnchorIds := congrArg RecoveryBundle.attemptAnchorIds h.blank
    have hclaims : bundle.attemptAnchorClaims = [] := congrArg RecoveryBundle.attemptAnchorClaims h.blank
    have hartifacts : bundle.untrackedWorkArtifactRefs = facts.artifactRefs :=
      congrArg RecoveryBundle.untrackedWorkArtifactRefs h.blank
    have hmetadata : bundle.metadataOnlyWorkArtifactRefs = facts.metadataArtifactRefs :=
      congrArg RecoveryBundle.metadataOnlyWorkArtifactRefs h.blank
    have hruns : bundle.configAndRunRefs = facts.configAndRunRefs := congrArg RecoveryBundle.configAndRunRefs h.blank
    have hcontents : unique (bundle.contents.map RecoveryContentRef.itemRef) = true := decide_eq_true h.contents
    intro worth
    rw [htriggers, hmanifest, hdomain, hadapter, htime, hanchors, hclaims, hartifacts, hmetadata, hruns, hcontents,
      homissions, hfacts.adapter, hfacts.anchors, hfacts.artifacts, hfacts.metadata, hfacts.runs]
    have hsingle : unique [facts.requestId] = true := decide_eq_true (List.nodup_singleton _)
    simp [hsingle, hfacts.manifest, hfacts.time, uniqueAnchorClaims, Recall.strictlyIncreasing]
  unfold RecoveryBundle.validate
  rw [hplain, ok_bind, hfiles, ok_bind, hbytes, ok_bind, ensure_bind_ok, ensure_bind_ok, ensure_ok, hchecks,
    RecoveryBundle.Worth, Bool.or_eq_true]
  refine ⟨And.left, fun hworth => ⟨hworth, ?_, ?_⟩⟩
  · cases hcapture : bundle.captureStatus with
    | complete =>
      have hfact := hstatus.mp hcapture
      simp_all
    | partial_ => rfl
  · cases hcapture : bundle.captureStatus with
    | complete => rfl
    | partial_ =>
      cases hfact : bundle.hasPartialFact with
      | true => rfl
      | false => exact absurd ((hstatus.mpr hfact).symm.trans hcapture) (by decide)

/-- There is nothing in the bundle exactly if the facts had nothing. -/
theorem CaptureEnv.Sealed.worth_iff (h : env.Sealed key limit facts bundle) : bundle.Worth ↔ ¬facts.Nothing := by
  have hartifacts : bundle.untrackedWorkArtifactRefs = facts.artifactRefs :=
    congrArg RecoveryBundle.untrackedWorkArtifactRefs h.blank
  have hmetadata : bundle.metadataOnlyWorkArtifactRefs = facts.metadataArtifactRefs :=
    congrArg RecoveryBundle.metadataOnlyWorkArtifactRefs h.blank
  have hruns : bundle.configAndRunRefs = facts.configAndRunRefs := congrArg RecoveryBundle.configAndRunRefs h.blank
  rw [← not_iff_not, not_not]
  constructor
  · intro hworth
    rw [RecoveryBundle.Worth, not_or, Bool.not_eq_true, Bool.not_eq_true, h.moved] at hworth
    obtain ⟨hcontent, hempty, hunmoved⟩ := hworth
    simp only [RecoveryBundle.hasRecoverableContent, Bool.not_eq_false', Bool.and_eq_true, List.isEmpty_iff] at hcontent
    obtain ⟨⟨⟨⟨⟨⟨hdiff, hfile⟩, hindex⟩, huntracked⟩, hnoArtifacts⟩, hnoMetadata⟩, hnoRuns⟩ := hcontent
    have hlists : ∀ kind, bundle.list kind = [] := by
      intro kind
      cases kind <;> assumption
    refine ⟨fun item hitem => ?_, hartifacts ▸ hnoArtifacts, hmetadata ▸ hnoMetadata, hruns ▸ hnoRuns,
      List.subset_nil.mp (hempty ▸ h.supplied), hunmoved⟩
    obtain ⟨fate, hfares⟩ := h.fates item hitem
    cases fate with
    | captured =>
      obtain ⟨-, ⟨ref, hmem, -⟩, -⟩ := hfares
      rw [hlists] at hmem
      cases hmem
    | leftOut =>
      obtain ⟨-, -, omission, hmem, -⟩ := hfares
      rw [hempty] at hmem
      cases hmem
    | unneeded => exact hfares.1
  · intro hnothing
    have hlists : ∀ kind, bundle.list kind = [] := by
      intro kind
      refine List.eq_nil_iff_forall_not_mem.mpr fun ref hmem => ?_
      obtain ⟨item, hitem, -, hstores⟩ := h.stored kind ref hmem
      exact hstores.not_idle (hnothing.idle item hitem)
    have hempty : bundle.omissions = [] := by
      refine List.eq_nil_iff_forall_not_mem.mpr fun omission hmem => ?_
      rcases h.omitted omission hmem with hold | ⟨item, hitem, hsame, -⟩ | ⟨hmoved, -⟩
      · rw [hnothing.omissions] at hold
        cases hold
      · obtain ⟨fate, hfares⟩ := h.fates item hitem
        cases fate with
        | captured => exact hfares.1 (hnothing.idle item hitem)
        | leftOut => exact hfares.1 (hnothing.idle item hitem)
        | unneeded => exact hfares.2.2 ⟨omission, hmem, hsame⟩
      · exact hmoved hnothing.unmoved
    have hdiff : bundle.trackedDiffBlobRefs = [] := hlists .trackedDiff
    have hfile : bundle.trackedFileBlobRefs = [] := hlists .trackedFile
    have hindex : bundle.indexStateRefs = [] := hlists .indexState
    have huntracked : bundle.untrackedFileBlobRefs = [] := hlists .untrackedFile
    rw [RecoveryBundle.Worth, not_or, Bool.not_eq_true, Bool.not_eq_true, h.moved]
    refine ⟨?_, hempty, hnothing.unmoved⟩
    rw [RecoveryBundle.hasRecoverableContent, hdiff, hfile, hindex, huntracked, hartifacts, hmetadata, hruns,
      hnothing.artifacts, hnothing.metadata, hnothing.runs]
    rfl

end Sealed

/-! ## What a capture accounts for -/

/-- A bundle accounts for the facts it was made from. -/
structure CaptureEnv.Accounts (env : CaptureEnv) (key : DeviceKey) (limit : Nat) (facts : RecoveryCaptureFacts)
    (bundle : RecoveryBundle) : Prop where
  /-- each item is captured, left out or unneeded, and only one of these -/
  fates : ∀ item ∈ facts.items, ∃! fate, env.Fares key bundle item fate
  /-- nothing else is captured -/
  only : ∀ kind, ∀ ref ∈ bundle.list kind, ∃ item ∈ facts.items, item.kind = kind ∧ env.Stores key item ref
  bytes : bundle.capturedBytes = (bundle.contents.map RecoveryContentRef.storedBytes).sum
  bounded : bundle.capturedBytes ≤ limit
  status : bundle.captureStatus = .complete ↔ bundle.omissions = [] ∧ facts.Unmoved

theorem CaptureEnv.Sealed.accounts {limit : Nat} {facts : RecoveryCaptureFacts} {bundle : RecoveryBundle}
    (h : env.Sealed key limit facts bundle) (hstatus : bundle.captureStatus = .complete ↔ bundle.hasPartialFact = false) :
    env.Accounts key limit facts bundle where
  fates item hitem := by
    obtain ⟨fate, hfares⟩ := h.fates item hitem
    exact ⟨fate, hfares, fun other hother => hother.unique hfares⟩
  only := h.stored
  bytes := h.bytes
  bounded := h.bounded
  status := hstatus.trans h.moved

/-- The capture seals the books of its items; only the validator can refuse the bundle. -/
theorem capture_sealed {facts : RecoveryCaptureFacts} {budget : RecoveryBudget} (hkey : env.key = some key)
    (hput : ∀ payload, ∃ digest, env.put payload = some digest) (hfacts : facts.Acceptable)
    (hitem : 0 < budget.maxItemBytes) (huntracked : 0 < budget.maxUntrackedItemBytes) (hbundle : 0 < budget.maxBundleBytes)
    (hbudget : budget.maxBundleBytes < 2 ^ 64) :
    ∃ bundle, env.Sealed key budget.maxBundleBytes facts bundle
      ∧ (bundle.captureStatus = .complete ↔ bundle.hasPartialFact = false)
      ∧ env.captureRecoveryBundle facts budget
        = (bundle.validate.mapError fun _ => RecoveryError.invalidBundle) >>= fun _ => .ok bundle := by
  have hsupplied : (facts.omissions.map RecoveryOmission.itemRef).Nodup := by
    have homissions := hfacts.omissions
    rw [uniqueOmissions, Bool.and_eq_true] at homissions
    exact of_decide_eq_true homissions.2
  have hnew : ∀ item ∈ facts.items, (env.emptyBundle facts).Lacks item.itemRef
      ∧ ¬(env.emptyBundle facts).Omits item.itemRef := by
    intro item hitem
    refine ⟨fun kind ref hmem => ?_, ?_⟩
    · cases kind <;> cases hmem
    · rintro ⟨omission, hmem, hnamed⟩
      exact hfacts.separate item hitem omission hmem hnamed
  obtain ⟨bundle, hrun, hbooks, hfates, -⟩ := captureItems_run hput hbudget facts.items 0 hfacts.fits
    (List.Subset.refl _) hfacts.distinct hnew (books_empty hsupplied)
  obtain ⟨hsealed, hstatus⟩ := hbooks.fenced hfacts hfates
  refine ⟨_, hsealed, hstatus, ?_⟩
  have hpositive : ensure RecoveryError.invalidInput (budget.maxItemBytes != 0 && budget.maxUntrackedItemBytes != 0
      && budget.maxBundleBytes != 0) = .ok () := by
    rw [ensure_ok]
    simp
    omega
  have hsnapshot : (facts.snapshot.validate.mapError fun _ => RecoveryError.invalidInput) = .ok () :=
    mapError_ok.mpr hfacts.snapshot
  have hload : okOr RecoveryError.protection env.key = .ok key := okOr_ok.mpr hkey
  rw [CaptureEnv.captureRecoveryBundle, CaptureEnv.captureRecoveryBundleUntil, hpositive, ok_bind, hsnapshot, ok_bind,
    hload, ok_bind, hrun, ok_bind]
  rfl

/-- **A capture fails only if there is nothing to keep, and its bundle accounts for every item**: each item is captured
in the list of its kind, left out with a reason, or empty and not needed; what is stored is counted and within the
budget; and the status is complete exactly if nothing was omitted and the worktree did not change. -/
theorem capture_accounts (env : CaptureEnv) (key : DeviceKey) (facts : RecoveryCaptureFacts) (budget : RecoveryBudget)
    (hkey : env.key = some key) (hput : ∀ payload, ∃ digest, env.put payload = some digest) (hfacts : facts.Acceptable)
    (hitem : 0 < budget.maxItemBytes) (huntracked : 0 < budget.maxUntrackedItemBytes) (hbundle : 0 < budget.maxBundleBytes)
    (hbudget : budget.maxBundleBytes < 2 ^ 64) :
    ((∃ bundle, env.captureRecoveryBundle facts budget = .ok bundle) ↔ ¬facts.Nothing)
      ∧ ∀ bundle, env.captureRecoveryBundle facts budget = .ok bundle →
        env.Accounts key budget.maxBundleBytes facts bundle := by
  obtain ⟨bundle, hsealed, hstatus, hcapture⟩ := capture_sealed hkey hput hfacts hitem huntracked hbundle hbudget
  have hok : ∀ bundle', env.captureRecoveryBundle facts budget = .ok bundle' ↔ bundle.Worth ∧ bundle = bundle' := by
    intro bundle'
    rw [hcapture, bind_eq_ok, ← hsealed.validate_iff hfacts hbudget hstatus]
    constructor
    · rintro ⟨_, hvalid, heq⟩
      exact ⟨mapError_ok.mp hvalid, Except.ok.inj heq⟩
    · rintro ⟨hvalid, rfl⟩
      exact ⟨(), mapError_ok.mpr hvalid, rfl⟩
  rw [← hsealed.worth_iff]
  refine ⟨⟨?_, fun hworth => ⟨bundle, (hok bundle).mpr ⟨hworth, rfl⟩⟩⟩, fun bundle' h => ?_⟩
  · rintro ⟨bundle', h⟩
    exact ((hok bundle').mp h).1
  · obtain ⟨-, rfl⟩ := (hok bundle').mp h
    exact hsealed.accounts hstatus

/-! ### An old manifest -/

def sampleSnapshot : WorktreeSnapshot where
  worktreeSnapshotId := ⟨1⟩
  worktreeInstanceId := ⟨2⟩
  headOid := none
  treeOid := none
  branchRef := none
  detachedHead := false
  trackedDiffDigest := none
  indexDigest := none
  untrackedManifestDigest := none
  relevantAnchorDigests := []
  dependencyFingerprints := []
  toolchainFingerprint := none
  gitOperation := .none
  capturedAtUs := 1
  evidenceRefs := ["probe"]
  captureStatus := .complete
  omissionReasons := []

/-- A diff that is to be kept, a file that is too large, and an index without changes. -/
def sampleItem : RecoveryCaptureItem := ⟨"git:tracked_diff", .trackedDiff, [0x2b], none, true, false⟩

def largeItem : RecoveryCaptureItem :=
  ⟨"git:untracked:note", .untrackedFile, [0x6e, 0x6f, 0x74, 0x65], some [0x6e], false, false⟩

def emptyItem : RecoveryCaptureItem := ⟨"git:index", .indexState, [], none, false, false⟩

def sampleFacts (manifestVersion : Nat) : RecoveryCaptureFacts where
  snapshot := sampleSnapshot
  requestId := ⟨3⟩
  adapterManifestId := "adapter"
  mutationManifestVersion := manifestVersion
  beforeFingerprint := some "same"
  afterFingerprint := some "same"
  items := [sampleItem, largeItem, emptyItem]
  omissions := []
  artifactRefs := []
  metadataArtifactRefs := []
  configAndRunRefs := []
  attemptAnchorIds := []
  capturedAtUs := 1

def sampleEnv : CaptureEnv where
  mac := ⟨fun _ _ => List.replicate 32 0, fun _ _ => rfl⟩
  key := some ⟨1, ⟨List.replicate 32 7, length_sevens⟩⟩
  put _ := some ⟨List.replicate 32 0, length_zeros⟩
  bundleId := ⟨4⟩

def sampleBudget : RecoveryBudget := ⟨100, 3, 100⟩

theorem sampleFacts_wellFormed (manifestVersion : Nat) : (sampleFacts manifestVersion).WellFormed where
  snapshot := by
    show sampleSnapshot.validate = .ok ()
    decide +kernel
  fits := by
    have hfew : FewSecrets sampleItem.bytes ∧ FewSecrets largeItem.bytes ∧ FewSecrets [0x6e] ∧ FewSecrets [] := by
      unfold FewSecrets
      decide +kernel
    show ∀ item ∈ [sampleItem, largeItem, emptyItem], item.Fits
    rw [List.forall_mem_cons, List.forall_mem_cons, List.forall_mem_singleton]
    refine ⟨⟨by decide, rfl, by decide, by decide, hfew.1, hfew.2.2.2⟩,
      ⟨by decide, ⟨rfl, by decide⟩, by decide, by decide +kernel, hfew.2.1, hfew.2.2.1⟩,
      ⟨by decide, rfl, by decide, by decide, hfew.2.2.2, hfew.2.2.2⟩⟩
  distinct := by
    show ([sampleItem, largeItem, emptyItem].map RecoveryCaptureItem.itemRef).Nodup
    decide
  separate item _ omission homission := by cases homission
  reserved := by
    show ∀ item ∈ [sampleItem, largeItem, emptyItem], item.itemRef ≠ fenceRef
    decide

/-- **Counterexample**: a diff is there to be captured, and version 0 of the manifest makes the capture fail. -/
theorem old_manifest_fails :
    (sampleFacts 0).WellFormed ∧ ¬(sampleFacts 0).Nothing
      ∧ (∀ payload, ∃ digest, sampleEnv.put payload = some digest)
      ∧ sampleEnv.captureRecoveryBundle (sampleFacts 0) sampleBudget = .error .invalidBundle := by
  refine ⟨sampleFacts_wellFormed 0, fun h => ?_, fun payload => ⟨_, rfl⟩, by decide +kernel⟩
  have hbytes : sampleItem.bytes = [] := (h.idle sampleItem List.mem_cons_self).2.1
  cases hbytes

/-- With version 1 the diff is captured, the file is left out, and the index is not needed. -/
theorem capture_accounts_sample : ∃ bundle, sampleEnv.captureRecoveryBundle (sampleFacts 1) sampleBudget = .ok bundle
    ∧ sampleEnv.Accounts ⟨1, ⟨List.replicate 32 7, rfl⟩⟩ 100 (sampleFacts 1) bundle
    ∧ bundle.contents.map RecoveryContentRef.itemRef = ["git:tracked_diff"]
    ∧ bundle.omissions = [⟨"git:untracked:note", .fileTooLarge, none⟩] ∧ bundle.captureStatus = .partial_ := by
  obtain ⟨hiff, haccounts⟩ := capture_accounts sampleEnv ⟨1, ⟨List.replicate 32 7, rfl⟩⟩ (sampleFacts 1) sampleBudget rfl
    (fun _ => ⟨_, rfl⟩)
    { toWellFormed := sampleFacts_wellFormed 1
      omissions := by decide
      unfenced := fun omission homission => (by cases homission)
      manifest := by decide
      adapter := by decide
      time := by decide
      artifacts := by decide
      metadata := by decide
      runs := by decide
      anchors := by decide }
    (by decide) (by decide) (by decide) (by decide)
  have hsome : ¬(sampleFacts 1).Nothing := fun h => by
    cases (h.idle sampleItem List.mem_cons_self).2.1
  have hshape : (sampleEnv.captureRecoveryBundle (sampleFacts 1) sampleBudget).toOption.map (fun bundle =>
      (bundle.contents.map RecoveryContentRef.itemRef, bundle.omissions, bundle.captureStatus)) =
      some (["git:tracked_diff"], [⟨"git:untracked:note", .fileTooLarge, none⟩], .partial_) := by
    decide +kernel
  obtain ⟨bundle, hbundle⟩ := hiff.mpr hsome
  rw [hbundle] at hshape
  obtain ⟨hcontents, homissions, hstatus⟩ := by
    simpa only [Except.toOption, Option.map_some, Option.some.injEq, Prod.mk.injEq] using hshape
  exact ⟨bundle, hbundle, haccounts bundle hbundle, hcontents, homissions, hstatus⟩

end EverTrace.L2.Recovery
