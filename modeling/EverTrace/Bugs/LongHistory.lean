import EverTrace.L2Machine.ObjectForget
import EverTrace.L1Encoding.CanonicalParse
/-!
# An object that is previewed for deletion and cannot be deleted

A preview is offered for an object of any history. The ledger event that records
the deletion checks itself and holds 256 revision ids and 512 suppression hashes
at most (purge.rs:258-270 of the domain); `pending_object_deletion` copies the
preview's lists into the event and answers with an error when that check fails.
`derive_object_deletion_preview` counts the payloads of the command and refuses
what does not fit there, but it has no such test for the two lists, so the object
is shown as one that can be forgotten (`ObjectForgetLookup::Available`), and every
confirmation fails.

Exact condition: the two steps succeed if and only if the object has at most 256
revisions and its suppressed sources have at most 512 suppression hashes between
them (`deletable_iff`).
-/
namespace EverTrace.Bugs.LongHistory
open EverTrace.Lib EverTrace.L1 EverTrace.L1.Canonical EverTrace.L2.Store EverTrace.L2.Purge

section

variable {ρ : Type} {H : Sha256} {R : ReceiptFields ρ} {facts : ObjectDeletionFacts ρ} {preview : ObjectDeletionPreview}

/-- The two steps succeed for every job and at every time: the event covers the
object's revisions, its successor is legal and the job ends. -/
def Deletable (facts : ObjectDeletionFacts ρ) (preview : ObjectDeletionPreview) : Prop :=
  ∀ (jobId : JobId) (recordedAtUs : Int) (sourceWatermark : Nat) (configHash : Bytes),
    0 ≤ recordedAtUs → recordedAtUs < 2 ^ 63 →
    ∃ event job, pendingObjectDeletion preview jobId recordedAtUs sourceWatermark configHash = .ok (event, job) ∧
      event.exactRevisionIds.Perm (facts.revisions.map ObjectDeletionRevisionFact.revisionId) ∧
      ∀ laterUs : Int, recordedAtUs ≤ laterUs → laterUs + objectDeletionLeaseUs < 2 ^ 63 →
        ∃ purged lease terminal, purgedObjectDeletion event job laterUs = .ok (purged, lease, terminal) ∧
          event.validateSuccessor purged = true ∧ terminal.state = .succeeded ∧
          terminal.terminal = some { outcome := .succeeded, reason := .completed, resultRef := some jobId.toText }

theorem pendingEvent_validate (h : PreviewOf H R facts preview) (jobId : JobId) {recordedAtUs : Int}
    (ht : 0 ≤ recordedAtUs) :
    (pendingEvent preview jobId recordedAtUs).validate = true ↔
      facts.revisions.length ≤ 256 ∧ preview.defaultRetrievalSuppressionRefHashes.length ≤ 512 := by
  have hlen : preview.exactRevisionIds.length = facts.revisions.length := by
    rw [h.ids_perm.length_eq, List.length_map]
  have hempty : preview.exactRevisionIds.isEmpty = false := List.isEmpty_eq_false_iff.mpr h.ids_ne_nil
  have hids := strictlySorted_iff.mpr h.ids_sorted
  have hhashes := strictlySorted_iff.mpr h.hashes_sorted
  have hdigests : preview.defaultRetrievalSuppressionRefHashes.all digestText = true :=
    List.all_eq_true.mpr fun hash hhash => ((h.mem_hashes hash).mp hhash).digestText
  obtain ⟨hkind, hpayload, hscope, hsource⟩ := h.guards
  have hgeneration := h.generation
  simp only [ObjectDeletionLedgerEvent.validate, pendingEvent, hempty, hids, hkind, hpayload, hscope, hsource, hhashes,
    hdigests, hgeneration, ht, hlen, Bool.and_eq_true, decide_eq_true_eq, Option.isNone_none, Bool.not_false, and_true,
    true_and, beq_self_eq_true]
  exact and_congr_right fun _ => ⟨fun hle => of_decide_eq_true hle, fun hle => decide_eq_true hle⟩

theorem purgedEvent_valid {event : ObjectDeletionLedgerEvent} {laterUs : Int} (hvalid : event.validate = true)
    (hphase : event.phase = .pending) (hlater : event.recordedAtUs ≤ laterUs) :
    event.validateSuccessor { event with
      phase := .purged, recordedAtUs := laterUs, purgeJobAuditRef := some event.purgeJobId.toText } = true := by
  have hfields := hvalid
  simp only [ObjectDeletionLedgerEvent.validate, hphase, Bool.and_eq_true, decide_eq_true_eq] at hfields
  have htime : (0 : Int) ≤ laterUs := le_trans hfields.1.2 hlater
  have hnext : ObjectDeletionLedgerEvent.validate { event with
      phase := .purged, recordedAtUs := laterUs, purgeJobAuditRef := some event.purgeJobId.toText } = true := by
    simp only [ObjectDeletionLedgerEvent.validate, Bool.and_eq_true, decide_eq_true_eq, beq_self_eq_true, and_true]
    exact ⟨hfields.1.1, htime⟩
  simp only [ObjectDeletionLedgerEvent.validateSuccessor, hvalid, hnext, hphase, hlater, beq_self_eq_true, Bool.and_self,
    decide_true]

/-- The list of a preview's hashes is the longest list of distinct ones. -/
theorem hashes_bounded (h : PreviewOf H R facts preview) :
    preview.defaultRetrievalSuppressionRefHashes.length ≤ 512 ↔
      ∀ hashes : List String, hashes.Nodup → (∀ hash ∈ hashes, SuppressionHash H R facts hash) → hashes.length ≤ 512 := by
  constructor
  · intro hle hashes hnodup hmem
    have hsubset : hashes ⊆ preview.defaultRetrievalSuppressionRefHashes :=
      fun hash hhash => (h.mem_hashes hash).mpr (hmem hash hhash)
    exact (hnodup.subperm hsubset).length_le.trans hle
  · intro hall
    exact hall _ (h.hashes_sorted.imp fun hlt => ne_of_lt hlt) fun hash hhash => (h.mem_hashes hash).mp hhash

/-- **When a previewed object can be deleted.** -/
theorem deletable_iff (facts : ObjectDeletionFacts ρ) (preview : ObjectDeletionPreview)
    (hpreview : deriveObjectDeletionPreview H R facts = .ok preview) :
    Deletable facts preview ↔ facts.revisions.length ≤ 256 ∧
      ∀ hashes : List String, hashes.Nodup → (∀ hash ∈ hashes, SuppressionHash H R facts hash) → hashes.length ≤ 512 := by
  have h := previewOf_derive hpreview
  rw [← hashes_bounded h]
  constructor
  · intro hdeletable
    obtain ⟨event, job, hpending, -⟩ := hdeletable ⟨0⟩ 0 0 [] le_rfl (by decide)
    obtain ⟨_, -, hpending⟩ := bind_eq_ok.mp hpending
    obtain ⟨_, hvalid, -⟩ := bind_eq_ok.mp hpending
    exact (pendingEvent_validate h ⟨0⟩ le_rfl).mp (Bool.and_eq_true_iff.mp (ensure_ok.mp hvalid)).1
  · intro hbounds jobId recordedAtUs watermark config ht hmax
    have hvalid := (pendingEvent_validate h jobId ht).mpr hbounds
    have hlen : preview.exactRevisionIds.length = facts.revisions.length := by
      rw [h.ids_perm.length_eq, List.length_map]
    refine ⟨pendingEvent preview jobId recordedAtUs, pendingJob preview jobId watermark config, ?_, h.ids_perm, ?_⟩
    · unfold pendingObjectDeletion
      rw [ensure_bind_ok, ensure_bind_ok]
      refine ⟨by rw [decide_eq_true_eq]; omega, ?_, rfl⟩
      rw [hvalid]
      simp [pendingEvent, pendingJob]
    · intro laterUs hlater hlease
      have hnext := purgedEvent_valid hvalid rfl hlater
      refine ⟨{ pendingEvent preview jobId recordedAtUs with
          phase := .purged, recordedAtUs := laterUs, purgeJobAuditRef := some jobId.toText },
        { jobId := jobId, targetGeneration := preview.deletionGeneration, attempt := 2,
          leaseUntilUs := laterUs + objectDeletionLeaseUs },
        { pendingJob preview jobId watermark config with
          state := .succeeded, attempt := 2, leaseUntilUs := none,
          terminal := some { outcome := .succeeded, reason := .completed, resultRef := some jobId.toText } },
        ?_, hnext, rfl, rfl⟩
      unfold purgedObjectDeletion
      rw [ensure_bind_ok, ensure_bind_ok, ensure_bind_ok, ensure_bind_ok]
      refine ⟨?_, rfl, decide_eq_true hlease, hnext, rfl⟩
      simp [pendingEvent, pendingJob]

end

/-! ## An object with 257 revisions -/

def sampleRevision (n : Nat) : ObjectDeletionRevisionFact where
  revisionId := ⟨Fin.ofNat _ n⟩
  canonicalPayload := "payload"
  semanticKind := "fact"
  scopeIdentity := "global"
  sourceDerivationRefs := []
  current := n = 0

/-- An atom with so many revisions, the first one current, without sources and dependents. -/
def sampleFacts (ρ : Type) (revisions : Nat) : ObjectDeletionFacts ρ where
  target := .atom ⟨7⟩
  revisions := (List.range revisions).map sampleRevision
  currentGuardSourceRefs := []
  sourceContext :=
    { otherLiveSourceRefs := [], sourceObservations := OrdMap.empty, sourceReceipts := OrdMap.empty,
      evidenceSurfaces := OrdMap.empty }
  downstreamSupportImpacts := []
  dependentProcedureImpacts := []
  deletionGeneration := 1

theorem exists_digest (H : Sha256) (domain : String) (hdomain : domain ≠ "") (hlen : (utf8 domain).length < 2 ^ 64)
    {value : CanonicalValue} (hvalue : Plain value) : ∃ text, digest H domain value = some text := by
  obtain ⟨d, hd⟩ := hvalue.sha256 H 1 hdomain hlen
  exact ⟨Protect.hex d.bytes, by rw [digest, hd]; rfl⟩

theorem plain_string {s : String} (h : (utf8 s).length < 2 ^ 64) : Plain (.string s) := .scalar h

theorem plain_strings (values : List String) (hcount : values.length < 2 ^ 64)
    (h : ∀ v ∈ values, (utf8 v).length < 2 ^ 64) : Plain (strings values) := by
  refine .sequence (by rwa [List.length_map]) fun a ha => ?_
  obtain ⟨v, hv, rfl⟩ := List.mem_map.mp ha
  exact plain_string (h v hv)

theorem exists_sampleGuards (H : Sha256) :
    ∃ g, ObjectDeletionGuards.derive H (.atom ⟨7⟩) "fact" ["payload"] "global" [] = some g := by
  obtain ⟨kind, hkind⟩ := exists_digest H "object_deletion_semantic_kind" (by decide) (by decide)
    (plain_strings ["atom", "fact"] (by decide) (by decide))
  obtain ⟨payload, hpayload⟩ := exists_digest H "object_deletion_canonical_payload" (by decide) (by decide)
    (plain_strings ["payload"] (by decide) (by decide))
  obtain ⟨scope, hscope⟩ := exists_digest H "object_deletion_scope_identity" (by decide) (by decide)
    (plain_strings ["atom", "global"] (by decide) (by decide))
  have hplain : Plain (.sequence [.string "atom", .string "fact", .string "global", strings []]) := by
    refine .sequence (by decide) fun a ha => ?_
    simp only [List.mem_cons, List.not_mem_nil, or_false] at ha
    rcases ha with rfl | rfl | rfl | rfl
    · exact plain_string (by decide)
    · exact plain_string (by decide)
    · exact plain_string (by decide)
    · exact plain_strings [] (by decide) (by simp)
  obtain ⟨source, hsource⟩ := exists_digest H "object_deletion_source_derivation_guard" (by decide) (by decide) hplain
  have hshape : ("fact".isEmpty || ["payload"].isEmpty || ["payload"].any String.isEmpty || "global".isEmpty
      || !strictlySorted ([] : List String)) = false := by decide
  unfold ObjectDeletionGuards.derive
  rw [hshape]
  simp [ObjectDeletionTarget.kindName, hkind, hpayload, hscope, hsource]

theorem exists_samplePreview {ρ : Type} (H : Sha256) (R : ReceiptFields ρ) {n : Nat}
    (hpos : (!((sampleFacts ρ n).revisions.isEmpty || (sampleFacts ρ n).deletionGeneration == 0)) = true)
    (hcurrent : currentRevision (sortByKey ObjectDeletionRevisionFact.revisionId (sampleFacts ρ n).revisions)
      = .ok (sampleRevision 0))
    (hsources : historicalSourceDerivationRefs
      (sortByKey ObjectDeletionRevisionFact.revisionId (sampleFacts ρ n).revisions) = []) :
    ∃ preview, deriveObjectDeletionPreview H R (sampleFacts ρ n) = .ok preview := by
  obtain ⟨g, hg⟩ := exists_sampleGuards H
  have hguards : ObjectDeletionGuards.derive H (sampleFacts ρ n).target (sampleRevision 0).semanticKind
      [(sampleRevision 0).canonicalPayload] (sampleRevision 0).scopeIdentity (sampleFacts ρ n).currentGuardSourceRefs
      = some g := hg
  have himpacts : impactsValid (sampleFacts ρ n).downstreamSupportImpacts (sampleFacts ρ n).dependentProcedureImpacts
      = true := rfl
  have hensure : ∀ e : StoreError, ensure e true = .ok () := fun _ => rfl
  unfold deriveObjectDeletionPreview
  dsimp only
  rw [hpos, hcurrent, hensure, ok_bind, ok_bind, hguards, hsources, himpacts]
  exact ⟨_, rfl⟩

def unitReceipts : ReceiptFields Unit where
  validate := fun _ => true
  sourceObservationId := fun _ => ⟨0⟩
  sourceKind := fun _ => .codexHook
  identityDomain := fun _ => "domain"
  sourceRecordIdentity := fun _ => "record"

theorem no_suppression {H : Sha256} {n : Nat} {hash : String} : ¬SuppressionHash H unitReceipts (sampleFacts Unit n) hash := by
  rintro ⟨id, ⟨⟨fact, hfact, reference, href, -⟩, -⟩, -⟩
  obtain ⟨m, -, rfl⟩ := List.mem_map.mp hfact
  cases href

/-- An object with three revisions can be deleted. -/
theorem short_history_deletable :
    ∃ preview, deriveObjectDeletionPreview zeroSha unitReceipts (sampleFacts Unit 3) = .ok preview ∧
      Deletable (sampleFacts Unit 3) preview := by
  obtain ⟨preview, hpreview⟩ := exists_samplePreview (n := 3) zeroSha unitReceipts (by decide) (by decide +kernel)
    (by decide +kernel)
  refine ⟨preview, hpreview, (deletable_iff (sampleFacts Unit 3) preview hpreview).mpr ⟨by decide, ?_⟩⟩
  intro hashes _ hmem
  cases hashes with
  | nil => decide
  | cons hash rest => exact absurd (hmem hash List.mem_cons_self) no_suppression

/-- The claim fails for every digest: an object with 257 revisions is previewed and
cannot be deleted. -/
theorem long_history_undeletable :
    ¬∃ H : Sha256, ∀ (facts : ObjectDeletionFacts Unit) (R : ReceiptFields Unit) (preview : ObjectDeletionPreview),
      deriveObjectDeletionPreview H R facts = .ok preview → Deletable facts preview := by
  rintro ⟨H, hall⟩
  obtain ⟨preview, hpreview⟩ := exists_samplePreview (n := 257) H unitReceipts (by decide +kernel) (by decide +kernel)
    (by decide +kernel)
  have hdeletable := hall (sampleFacts Unit 257) unitReceipts preview hpreview
  obtain ⟨event, job, hpending, -⟩ := hdeletable ⟨0⟩ 0 0 [] le_rfl (by decide)
  obtain ⟨_, -, hpending⟩ := bind_eq_ok.mp hpending
  obtain ⟨_, hvalid, -⟩ := bind_eq_ok.mp hpending
  have hbounds := (pendingEvent_validate (previewOf_derive hpreview) ⟨0⟩ le_rfl).mp
    (Bool.and_eq_true_iff.mp (ensure_ok.mp hvalid)).1
  have hlen : (sampleFacts Unit 257).revisions.length = 257 := by
    rw [sampleFacts, List.length_map, List.length_range]
  omega

end EverTrace.Bugs.LongHistory
