import EverTrace.L2Machine.Work
/-!
# Capture receipts and their summary (`evertrace-domain/src/work.rs`, `work/episode.rs`)

A receipt says how completely one execution lane has been captured. An episode
stores the summary of the receipts of its lanes: the coverage states that
occur, in order, and the worst coverage level.

Results:
* `fromReceipts_validate`: the summary of valid receipts passes its own check.
-/
namespace EverTrace.L2.Work
open EverTrace.Lib EverTrace.L1

/-- mirrors evertrace-domain/src/work.rs:119-124 -/
inductive AdmissionFailureObservability where
  | complete
  | reconcilable
  | bestEffort
  | unavailable
  deriving DecidableEq, Repr

/-- mirrors evertrace-domain/src/evidence.rs:48-52 -/
inductive IdentityStrength where
  | stableNative
  | stableSourceSequence
  | synthesizedBestEffort
  deriving DecidableEq, Repr

/-- mirrors evertrace-domain/src/work.rs:128-131 -/
structure SequenceGap where
  firstSequence : Nat
  lastSequence : Nat
  deriving DecidableEq

/-- mirrors evertrace-domain/src/work.rs:134-140 -/
def SequenceGap.validate (gap : SequenceGap) : Except WorkError Unit :=
  if gap.lastSequence < gap.firstSequence then .error .invalidReceipt else .ok ()

/-- mirrors evertrace-domain/src/work.rs:303-349 -/
structure CaptureReceipt where
  captureReceiptRevisionId : CaptureReceiptId
  executionLaneId : ExecutionLaneId
  predecessorRevisionId : Option CaptureReceiptId
  adapterManifestIds : List String
  eligibleEventManifestRefs : List String
  sourceRevisionRefs : List String
  sourceCloseWatermarkRefs : List String
  sourceCloseReconciliationRefs : List String
  admissionFailureEvidenceRefs : List String
  admissionFailureObservability : AdmissionFailureObservability
  identityStrength : IdentityStrength
  delegationStartSeen : Bool
  childSessionLinked : Bool
  childSessionId : Option String
  parentSessionEndSeen : Bool
  lifecycleEndSeen : Bool
  terminalEventKind : Option TerminalKind
  terminalEventRef : Option String
  terminationEvidenceRefs : List String
  sourceClosedRefs : List String
  livenessProbeRefs : List String
  finalizationReason : Option String
  firstSequence : Option Nat
  lastSequence : Option Nat
  sequenceGaps : List SequenceGap
  captureGapMarkerRefs : List String
  captureOutageIntervalRefs : List CaptureOutageIntervalId
  toolCallsSeen : List String
  toolResultsSeen : List String
  unmatchedToolCallIds : List String
  unmatchedToolResultIds : List String
  payloadTruncations : List String
  redactionRefs : List String
  corruptPayloadRefs : List String
  unsupportedRecordTypes : List String
  importWatermark : Nat
  finalized : Bool
  coverageLevel : CoverageLevel
  sourceCoverage : SourceCoverage
  pairingIntegrity : PairingIntegrity
  payloadIntegrity : PayloadIntegrity
  orderingIntegrity : OrderingIntegrity
  reasoningVisibility : List ReasoningVisibility
  exactByteReplay : Bool
  resolverVersion : Nat
  deriving DecidableEq

/-- mirrors evertrace-domain/src/work.rs:699-705 -/
def validRef (value : String) : Except WorkError Unit :=
  if value.isEmpty || 256 < value.utf8ByteSize || value.toList.any isControl then .error .invalidReference
  else .ok ()

/-- mirrors evertrace-domain/src/work.rs:707-713 -/
def requireUnique {α : Type} [DecidableEq α] (values : List α) : Except WorkError Unit :=
  if ¬ values.Nodup then .error .duplicate else .ok ()

/-- mirrors evertrace-domain/src/work.rs:731-741 -/
def receiptTerminalIsValid (kind : Option TerminalKind) (eventRef : Option String)
    (lifecycleEndSeen : Bool) : Bool :=
  match kind with
  | some .sourceClosedUnconfirmed => eventRef.isNone && !lifecycleEndSeen
  | some _ => eventRef.isSome && lifecycleEndSeen
  | none => eventRef.isNone && !lifecycleEndSeen

/-- `first_sequence.zip(last_sequence)` is in the wrong order. -/
def sequencesCrossed : Option Nat → Option Nat → Bool
  | some first, some last => last < first
  | _, _ => false

/-- mirrors evertrace-domain/src/work.rs:352-383 -/
def CaptureReceipt.validate (r : CaptureReceipt) : Except WorkError Unit := do
  if r.resolverVersion == 0
      || r.predecessorRevisionId == some r.captureReceiptRevisionId
      || r.exactByteReplay != (r.payloadIntegrity == .complete)
      || sequencesCrossed r.firstSequence r.lastSequence
      || r.childSessionLinked != r.childSessionId.isSome
      || !receiptTerminalIsValid r.terminalEventKind r.terminalEventRef r.lifecycleEndSeen then
    .error .invalidReceipt
  requireUnique r.adapterManifestIds
  requireUnique r.eligibleEventManifestRefs
  requireUnique r.sourceRevisionRefs
  requireUnique r.captureGapMarkerRefs
  requireUnique r.captureOutageIntervalRefs
  requireUnique r.sequenceGaps
  requireUnique r.reasoningVisibility
  r.sequenceGaps.forM SequenceGap.validate
  match r.childSessionId with
  | some childSessionId => validRef childSessionId
  | none => .ok ()

/-- mirrors evertrace-domain/src/work/episode.rs:182-189 -/
structure CaptureSummary where
  minimumCoverageLevel : CoverageLevel
  sourceCoverageStates : List SourceCoverage
  pairingIntegrityStates : List PairingIntegrity
  payloadIntegrityStates : List PayloadIntegrity
  orderingIntegrityStates : List OrderingIntegrity
  reasoningVisibility : List ReasoningVisibility
  deriving DecidableEq

namespace CaptureSummary

/-- mirrors evertrace-domain/src/work/episode.rs:193-204 -/
def unavailable : CaptureSummary where
  minimumCoverageLevel := .opaque_
  sourceCoverageStates := [.unavailable]
  pairingIntegrityStates := [.unavailable]
  payloadIntegrityStates := [.unavailable]
  orderingIntegrityStates := [.unavailable]
  reasoningVisibility := []

/-- mirrors evertrace-domain/src/work/episode.rs:207-221 -/
def validate (s : CaptureSummary) : Except WorkError Unit :=
  if s.sourceCoverageStates.isEmpty
      || s.pairingIntegrityStates.isEmpty
      || s.payloadIntegrityStates.isEmpty
      || s.orderingIntegrityStates.isEmpty
      || !ids s.sourceCoverageStates
      || !ids s.pairingIntegrityStates
      || !ids s.payloadIntegrityStates
      || !ids s.orderingIntegrityStates
      || !ids s.reasoningVisibility then
    .error .invalidWorkIdentity
  else .ok ()

/-- Something about the lane is not known to be complete.
mirrors evertrace-domain/src/work/episode.rs:267-276 -/
def degraded (r : CaptureReceipt) : Bool :=
  r.coverageLevel != .full
    || r.sourceCoverage != .complete
    || r.pairingIntegrity != .complete
    || r.payloadIntegrity != .complete
    || r.orderingIntegrity != .complete
    || !r.finalized
    || !r.captureGapMarkerRefs.isEmpty
    || !r.captureOutageIntervalRefs.isEmpty

/-- mirrors evertrace-domain/src/work/episode.rs:223-291 -/
def fromReceipts (receipts : List CaptureReceipt) : Except WorkError CaptureSummary := do
  if receipts.isEmpty then return unavailable
  receipts.forM CaptureReceipt.validate
  let source := sortUnique (receipts.map (·.sourceCoverage))
  let pairing := sortUnique (receipts.map (·.pairingIntegrity))
  let payload := sortUnique (receipts.map (·.payloadIntegrity))
  let ordering := sortUnique (receipts.map (·.orderingIntegrity))
  let visibility := sortUnique (receipts.flatMap (·.reasoningVisibility))
  let isOpaque := receipts.any (fun r => r.coverageLevel == .opaque_)
    || source.contains .unavailable || pairing.contains .unavailable
    || payload.contains .unavailable || ordering.contains .unavailable
  return {
    minimumCoverageLevel :=
      if isOpaque then .opaque_ else if receipts.any degraded then .partial_ else .full
    sourceCoverageStates := source
    pairingIntegrityStates := pairing
    payloadIntegrityStates := payload
    orderingIntegrityStates := ordering
    reasoningVisibility := visibility }

theorem ids_sortUnique {α : Type} [LinearOrder α] (all l : List α) (hall : ∀ a, a ∈ all)
    (hlen : all.length ≤ 64) : ids (sortUnique l) = true := by
  have := length_le_of_subset (sortUnique_pairwise l) (m := all) fun a _ => hall a
  exact ids_iff.mpr ⟨by omega, sortUnique_pairwise l⟩

theorem sortUnique_map_ne_nil {α β : Type} [LinearOrder β] {l : List α} (f : α → β) (h : l ≠ []) :
    (sortUnique (l.map f)).isEmpty = false := by
  obtain ⟨a, ha⟩ := List.exists_mem_of_ne_nil l h
  have hmem : f a ∈ sortUnique (l.map f) := mem_sortUnique.mpr (List.mem_map_of_mem ha)
  exact List.isEmpty_eq_false_iff.mpr (List.ne_nil_of_mem hmem)

/-- Valid receipts have a summary, and it passes its own check. -/
theorem fromReceipts_validate {receipts : List CaptureReceipt} (hne : receipts ≠ [])
    (hvalid : ∀ r ∈ receipts, r.validate = .ok ()) :
    ∃ summary, fromReceipts receipts = .ok summary ∧ summary.validate = .ok () := by
  have hchecked : receipts.forM CaptureReceipt.validate = .ok () := forM_eq_ok.mpr hvalid
  unfold fromReceipts
  rw [if_neg (by simpa using hne), hchecked]
  refine ⟨_, rfl, ?_⟩
  unfold validate
  rw [ite_error_ok, Bool.not_eq_true]
  simp only [sortUnique_map_ne_nil _ hne, Bool.false_or]
  rw [ids_sortUnique [.open_, .complete, .partial_, .unavailable] _ (by intro a; cases a <;> simp) (by simp),
    ids_sortUnique [.complete, .unmatched, .unavailable] _ (by intro a; cases a <;> simp) (by simp),
    ids_sortUnique [.complete, .redacted, .truncated, .corrupt, .unavailable] _
      (by intro a; cases a <;> simp) (by simp),
    ids_sortUnique [.complete, .gapped, .raced, .bestEffort, .unavailable] _
      (by intro a; cases a <;> simp) (by simp),
    ids_sortUnique [.raw, .summary, .explicitRationale] _ (by intro a; cases a <;> simp) (by simp)]
  rfl

end CaptureSummary

end EverTrace.L2.Work
