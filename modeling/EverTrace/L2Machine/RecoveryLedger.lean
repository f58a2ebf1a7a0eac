import EverTrace.Lib.Chains
import EverTrace.L2Machine.RecoveryContract
import EverTrace.L2Machine.Rows
/-!
# The ledger of recovery applications (`evertrace-store/src/projections/recovery.rs`)

The projection keeps every revision of every application and, for each
application, the current one. `recordApplication` takes the next revision of the
journal; `rebuildApplications` computes the current ones again from all revisions.

Results:
* `Settles.of_successor`: what an accepted successor keeps of the revision before it.
* `validate_judged`: a revision's status is the verdict of its last receipt.
* `recordAll_chains`: the maps hold the accepted revisions as chains.
* `verdict_final`: along every run the ticket stays, reports only grow, a verdict is
  final, and a rebuild gives the current revisions.
-/
namespace EverTrace.L2.Recovery
open EverTrace.Lib EverTrace.L1 EverTrace.L2.Store EverTrace.L2.Semantic

/-- A revision and the journal sequence it was recorded at. -/
abbrev Entry := RecoveryApplication × Nat

structure ApplicationMaps where
  applications : OrdMap RecoveryApplicationId Entry
  revisions : OrdMap RevisionId Entry

def ApplicationMaps.empty : ApplicationMaps := ⟨.empty, .empty⟩

/-- The first revision of an application has no parent; every other one continues the current one.
mirrors evertrace-store/src/projections/recovery.rs:306-311, 326-331 -/
def checkApplication (error : StoreError) (current : Option Entry) (entry : Entry) : Except StoreError Unit :=
  match current with
  | none => ensure error entry.1.parentRevisionId.isNone
  | some current => ensure error (entry.1.isSuccessorOf current.1)

/-- mirrors evertrace-store/src/projections/recovery.rs:295-315 -/
def recordApplication (st : ApplicationMaps) (value : RecoveryApplication) (seq : Nat) (error : StoreError) :
    Except StoreError ApplicationMaps := do
  value.validate.mapError fun _ => error
  ensure error (st.revisions.get value.revisionId).isNone
  checkApplication error (st.applications.get value.recoveryApplicationId) (value, seq)
  return { applications := st.applications.insert value.recoveryApplicationId (value, seq)
           revisions := st.revisions.insert value.revisionId (value, seq) }

def applicationKey (entry : Entry) : RecoveryApplicationId := entry.1.recoveryApplicationId

def applicationRevision (entry : Entry) : RevisionId := entry.1.revisionId

/-- mirrors evertrace-store/src/projections/recovery.rs:317-335 -/
def rebuildApplications (revisions : OrdMap RevisionId Entry) (error : StoreError) :
    Except StoreError (OrdMap RecoveryApplicationId Entry) :=
  (sortByKey Prod.snd revisions.values).foldlM (place applicationKey (checkApplication error)) .empty

/-- Revisions recorded one after another, each of them accepted. -/
def recordAll (st : ApplicationMaps) (entries : List Entry) : Except StoreError ApplicationMaps :=
  entries.foldlM (fun st entry => recordApplication st entry.1 entry.2 .storeCorrupt) st

/-! ## One revision -/

theorem recordApplication_ok {st st' : ApplicationMaps} {value : RecoveryApplication} {seq : Nat} {error : StoreError} :
    recordApplication st value seq error = .ok st' ↔
      value.validate = .ok () ∧ st.revisions.get value.revisionId = none
        ∧ checkApplication error (st.applications.get value.recoveryApplicationId) (value, seq) = .ok ()
        ∧ st' = ⟨st.applications.insert value.recoveryApplicationId (value, seq),
            st.revisions.insert value.revisionId (value, seq)⟩ := by
  unfold recordApplication
  constructor
  · intro h
    obtain ⟨_, hvalid, h⟩ := bind_eq_ok.mp h
    obtain ⟨hnew, h⟩ := ensure_bind_ok.mp h
    obtain ⟨_, hcheck, h⟩ := bind_eq_ok.mp h
    exact ⟨mapError_ok.mp hvalid, Option.isNone_iff_eq_none.mp hnew, hcheck, (pure_eq_ok.mp h).symm⟩
  · rintro ⟨hvalid, hnew, hcheck, rfl⟩
    rw [mapError_ok.mpr hvalid, ok_bind]
    refine ensure_bind_ok.mpr ⟨Option.isNone_iff_eq_none.mpr hnew, ?_⟩
    rw [hcheck, ok_bind]
    rfl

/-- What `validate` checks. -/
structure Checked (value : RecoveryApplication) : Prop where
  created : 0 ≤ value.createdAtUs
  version : value.ticketClaimsVersion ≠ 0
  selected : value.selectedCasRefs ≠ []
  casRefs : sortedUpTo 256 value.selectedCasRefs = true
  effects : sortedUpTo 256 value.scopeEffectIds = true
  inputs : sortedUpTo 256 value.inputSourceObservationIds = true
  results : sortedUpTo 256 value.resultSourceObservationIds = true
  receipts : validVerifierReceipts value.verifierReceipts = true
  relevant : sortedUpTo 256 value.relevantAttemptAnchorIds = true
  claims : uniqueAnchorClaims value.attemptAnchorClaims = true
  claimed : (value.attemptAnchorClaims.all fun claim => value.relevantAttemptAnchorIds.contains claim.attemptId) = true
  anchors : validAnchorVerifierReceipts value = true
  anchored : (value.anchorVerifierReceipts.isEmpty || value.applicationStatus == .applied) = true
  operation : value.operationShape = true
  initial : (!value.parentRevisionId.isNone || value.untouched) = true
  delivered : (value.parentRevisionId.isNone || value.inputDeliveryState != .delivered || value.deliveredShape) = true
  admitted : (value.inputDeliveryState != .admitted || value.untouched) = true
  status : statusEvidenceIsValid value = true

theorem validate_iff {value : RecoveryApplication} : value.validate = .ok () ↔ Checked value := by
  unfold RecoveryApplication.validate
  simp only [ensure_ok, Bool.and_eq_true, and_assoc, decide_eq_true_eq, bne_iff_ne, ne_eq, Bool.not_eq_true',
    List.isEmpty_eq_false_iff]
  constructor
  · rintro ⟨h1, h2, h3, h4, h5, h6, h7, h8, h9, h10, h11, h12, h13, h14, h15, h16, h17, h18⟩
    exact ⟨h1, h2, h3, h4, h5, h6, h7, h8, h9, h10, h11, h12, h13, h14, h15, h16, h17, h18⟩
  · rintro ⟨h1, h2, h3, h4, h5, h6, h7, h8, h9, h10, h11, h12, h13, h14, h15, h16, h17, h18⟩
    exact ⟨h1, h2, h3, h4, h5, h6, h7, h8, h9, h10, h11, h12, h13, h14, h15, h16, h17, h18⟩

/-- The status that a history of receipts stands for. -/
def verdict (receipts : List RecoveryVerifierReceipt) : RecoveryApplicationStatus :=
  match receipts.getLast? with
  | none => .unknown
  | some receipt => receipt.outcome.status

/-- The receipts are numbered from one, no outcome is left once it is final, and the status is the verdict. -/
structure Judged (value : RecoveryApplication) : Prop where
  numbered : ∀ index receipt, value.verifierReceipts[index]? = some receipt → receipt.verificationRevision = index + 1
  final : value.verifierReceipts.Pairwise fun a b => a.outcome ≠ .partiallyApplied → b.outcome = a.outcome
  status : value.applicationStatus = verdict value.verifierReceipts
  unknown : value.applicationStatus = .unknown ↔ value.verifierReceipts = []

theorem outcome_of_progress {a b : RecoveryVerificationOutcome} (h : verifierOutcomeProgress a b = true)
    (ha : a ≠ .partiallyApplied) : b = a := by
  cases a with
  | partiallyApplied => exact absurd rfl ha
  | applied => exact beq_iff_eq.mp h
  | notApplied => exact beq_iff_eq.mp h

theorem validVerifierReceipts_get {values : List RecoveryVerifierReceipt} (h : validVerifierReceipts values = true)
    {index : Nat} {value : RecoveryVerifierReceipt} (hget : values[index]? = some value) :
    value.verificationRevision = index + 1 ∧ ∀ prior, values[index - 1]? = some prior → index ≠ 0 →
      verifierOutcomeProgress prior.outcome value.outcome = true := by
  unfold validVerifierReceipts at h
  rw [Bool.and_eq_true, List.all_eq_true] at h
  have hmem : (value, index) ∈ values.zipIdx := List.mem_zipIdx_iff_getElem?.mpr hget
  have hentry := h.2 (value, index) hmem
  simp only [Bool.and_eq_true, beq_iff_eq, Bool.or_eq_true] at hentry
  obtain ⟨⟨hrevision, -⟩, hprogress⟩ := hentry
  refine ⟨hrevision, fun prior hprior hindex => ?_⟩
  rcases hprogress with hzero | hprogress
  · exact absurd hzero hindex
  · rw [hprior] at hprogress
    exact hprogress

theorem validVerifierReceipts_final {values : List RecoveryVerifierReceipt} (h : validVerifierReceipts values = true) :
    values.Pairwise fun a b : RecoveryVerifierReceipt => a.outcome ≠ .partiallyApplied → b.outcome = a.outcome := by
  have : Trans (fun a b : RecoveryVerifierReceipt => a.outcome ≠ .partiallyApplied → b.outcome = a.outcome)
      (fun a b : RecoveryVerifierReceipt => a.outcome ≠ .partiallyApplied → b.outcome = a.outcome)
      (fun a b : RecoveryVerifierReceipt => a.outcome ≠ .partiallyApplied → b.outcome = a.outcome) :=
    ⟨fun {a b c} hab hbc ha => by
      have hb := hab ha
      rw [← hb] at ha
      exact (hbc ha).trans hb⟩
  refine List.isChain_iff_pairwise.mp (List.isChain_iff_getElem.mpr fun index hindex => ?_)
  have hnext : values[index + 1]? = some values[index + 1] := List.getElem?_eq_getElem hindex
  have hprior : values[index + 1 - 1]? = some values[index] := List.getElem?_eq_getElem (by omega)
  exact outcome_of_progress ((validVerifierReceipts_get h hnext).2 _ hprior (by omega))

theorem RecoveryVerificationOutcome.status_ne_unknown (outcome : RecoveryVerificationOutcome) :
    outcome.status ≠ .unknown := by
  cases outcome <;> decide

/-- What a valid revision says of its verdict. -/
theorem validate_judged {value : RecoveryApplication} (h : value.validate = .ok ()) : Judged value := by
  have hreceipts := (validate_iff.mp h).receipts
  have hstatus := (validate_iff.mp h).status
  have hverdict : value.applicationStatus = verdict value.verifierReceipts
      ∧ (value.applicationStatus = .unknown ↔ value.verifierReceipts = []) := by
    unfold statusEvidenceIsValid at hstatus
    unfold verdict
    by_cases hunknown : value.applicationStatus = .unknown
    · rw [if_pos (beq_iff_eq.mpr hunknown), List.isEmpty_iff] at hstatus
      rw [hunknown, hstatus]
      exact ⟨rfl, by simp⟩
    · rw [if_neg (by simpa using hunknown)] at hstatus
      cases hlast : value.verifierReceipts.getLast? with
      | none =>
        rw [hlast] at hstatus
        cases hstatus
      | some receipt =>
        rw [hlast] at hstatus
        simp only [Bool.and_eq_true, beq_iff_eq] at hstatus
        refine ⟨hstatus.2.symm, iff_of_false hunknown fun hnil => ?_⟩
        rw [hnil] at hlast
        cases hlast
  exact ⟨fun index receipt hget => (validVerifierReceipts_get hreceipts hget).1, validVerifierReceipts_final hreceipts,
    hverdict.1, hverdict.2⟩

/-! ## A successor -/

/-- What a later revision keeps of an earlier one. -/
structure Keeps (a b : RecoveryApplication) : Prop where
  bundle : b.recoveryBundleId = a.recoveryBundleId
  target : b.targetWorktreeInstanceId = a.targetWorktreeInstanceId
  preSnapshot : b.preApplicationSnapshotId = a.preApplicationSnapshotId
  kind : b.applicationKind = a.applicationKind
  casRefs : b.selectedCasRefs = a.selectedCasRefs
  claims : b.attemptAnchorClaims = a.attemptAnchorClaims
  delivered : a.inputDeliveryState = .delivered → b.inputDeliveryState = .delivered
  operation : ∀ id, a.operationId = some id → b.operationId = some id
  operationRevision : ∀ revision, a.operationRevision = some revision → b.operationRevision = some revision
  lane : ∀ id, a.executionLaneId = some id → b.executionLaneId = some id
  capture : ∀ id, a.captureReceiptRevisionId = some id → b.captureReceiptRevisionId = some id
  postSnapshot : ∀ id, a.postApplicationSnapshotId = some id → b.postApplicationSnapshotId = some id
  effects : a.scopeEffectIds ⊆ b.scopeEffectIds
  inputs : a.inputSourceObservationIds ⊆ b.inputSourceObservationIds
  results : a.resultSourceObservationIds ⊆ b.resultSourceObservationIds
  receipts : a.verifierReceipts <+: b.verifierReceipts
  applied : a.applicationStatus = .applied → b.applicationStatus = .applied
  failed : a.applicationStatus = .failed → b.applicationStatus = .failed

/-- The history of receipts is the same or has one more at its end. -/
def OneReceipt (a b : RecoveryApplication) : Prop :=
  b.verifierReceipts = a.verifierReceipts ∨ ∃ receipt, b.verifierReceipts = a.verifierReceipts ++ [receipt]

theorem optionCompatible_some {α : Type} [DecidableEq α] {a b : Option α} (h : optionCompatible a b = true) :
    ∀ x, a = some x → b = some x := by
  rintro x rfl
  unfold optionCompatible at h
  rw [Option.isNone_some, Bool.false_or, decide_eq_true_eq] at h
  exact h.symm

theorem subset_of_containsAll {α : Type} [DecidableEq α] {a b : List α} (h : containsAll b a = true) : a ⊆ b := by
  unfold containsAll at h
  rw [List.all_eq_true] at h
  intro x hx
  exact List.contains_iff_mem.mp (h x hx)

theorem oneReceipt_of_history {a b : List RecoveryVerifierReceipt}
    (h : (decide (b = a) || verifierHistoryProgress a b) = true) : b = a ∨ ∃ receipt, b = a ++ [receipt] := by
  rw [Bool.or_eq_true, decide_eq_true_eq] at h
  refine h.imp id fun hprogress => ?_
  unfold verifierHistoryProgress at hprogress
  rw [Bool.and_eq_true, beq_iff_eq, List.isPrefixOf_iff_prefix] at hprogress
  obtain ⟨hlength, rest, rfl⟩ := hprogress
  rw [List.length_append] at hlength
  obtain ⟨receipt, rfl⟩ := List.length_eq_one_iff.mp (by omega : rest.length = 1)
  exact ⟨receipt, rfl⟩

variable {a b c : RecoveryApplication}

theorem OneReceipt.of_successor (h : b.isSuccessorOf a = true) : OneReceipt a b := by
  unfold RecoveryApplication.isSuccessorOf RecoveryApplication.keepsReports at h
  simp only [Bool.and_eq_true] at h
  obtain ⟨⟨⟨-, ⟨-, hreceipts⟩, -⟩, -⟩, -⟩ := h
  exact oneReceipt_of_history hreceipts

theorem Keeps.of_successor (h : b.isSuccessorOf a = true) : Keeps a b := by
  have hreceipts : OneReceipt a b := OneReceipt.of_successor h
  unfold RecoveryApplication.isSuccessorOf at h
  simp only [Bool.and_eq_true] at h
  obtain ⟨⟨⟨⟨-, hticket⟩, hreports⟩, hstatus⟩, -⟩ := h
  unfold RecoveryApplication.sameTicket at hticket
  simp only [Bool.and_eq_true, beq_iff_eq, and_assoc] at hticket
  obtain ⟨-, -, -, hbundle, htarget, hpre, hkind, -, hcas, -, hclaims, -⟩ := hticket
  unfold RecoveryApplication.keepsReports at hreports
  simp only [Bool.and_eq_true, and_assoc] at hreports
  obtain ⟨hdelivery, hoperation, hrevision, hlane, hcapture, heffects, hinputs, hresults, hpost, -, -⟩ := hreports
  refine ⟨hbundle, htarget, hpre, hkind, hcas, hclaims, fun hdelivered => ?_, optionCompatible_some hoperation,
    optionCompatible_some hrevision, optionCompatible_some hlane, optionCompatible_some hcapture,
    optionCompatible_some hpost, subset_of_containsAll heffects, subset_of_containsAll hinputs,
    subset_of_containsAll hresults, ?_, fun happlied => ?_, fun hfailed => ?_⟩
  · unfold deliveryProgress at hdelivery
    rw [hdelivered] at hdelivery
    cases hnext : b.inputDeliveryState with
    | delivered => rfl
    | admitted =>
      rw [hnext] at hdelivery
      exact absurd hdelivery (by decide)
  · rcases hreceipts with heq | ⟨receipt, heq⟩
    · rw [heq]
    · rw [heq]
      exact List.prefix_append _ _
  · unfold RecoveryApplication.statusProgress at hstatus
    rw [happlied, Bool.and_eq_true, beq_iff_eq] at hstatus
    exact hstatus.1
  · unfold RecoveryApplication.statusProgress at hstatus
    rw [hfailed, Bool.and_eq_true, beq_iff_eq] at hstatus
    exact hstatus.1

theorem Keeps.trans (hab : Keeps a b) (hbc : Keeps b c) : Keeps a c where
  bundle := hbc.bundle.trans hab.bundle
  target := hbc.target.trans hab.target
  preSnapshot := hbc.preSnapshot.trans hab.preSnapshot
  kind := hbc.kind.trans hab.kind
  casRefs := hbc.casRefs.trans hab.casRefs
  claims := hbc.claims.trans hab.claims
  delivered := fun h => hbc.delivered (hab.delivered h)
  operation := fun id h => hbc.operation id (hab.operation id h)
  operationRevision := fun revision h => hbc.operationRevision revision (hab.operationRevision revision h)
  lane := fun id h => hbc.lane id (hab.lane id h)
  capture := fun id h => hbc.capture id (hab.capture id h)
  postSnapshot := fun id h => hbc.postSnapshot id (hab.postSnapshot id h)
  effects := List.Subset.trans hab.effects hbc.effects
  inputs := List.Subset.trans hab.inputs hbc.inputs
  results := List.Subset.trans hab.results hbc.results
  receipts := hab.receipts.trans hbc.receipts
  applied := fun h => hbc.applied (hab.applied h)
  failed := fun h => hbc.failed (hab.failed h)

/-! ## Every run -/

/-- The maps hold the revisions `entries`, in order, as chains of valid revisions. -/
structure Recorded (entries : List Entry) (st : ApplicationMaps) : Prop where
  chains : Chains applicationKey applicationRevision (checkApplication .storeCorrupt) entries st.applications st.revisions
  valid : ∀ entry ∈ entries, entry.1.validate = .ok ()

theorem recorded_empty : Recorded [] .empty := ⟨Chains.empty, by simp⟩

theorem Recorded.record {entries : List Entry} {st st' : ApplicationMaps} (h : Recorded entries st) {entry : Entry}
    (hok : recordApplication st entry.1 entry.2 .storeCorrupt = .ok st') : Recorded (entries ++ [entry]) st' := by
  obtain ⟨hvalid, hnew, hcheck, rfl⟩ := recordApplication_ok.mp hok
  refine ⟨h.chains.record hnew hcheck, fun e he => ?_⟩
  rcases List.mem_append.mp he with he | he
  · exact h.valid e he
  · rw [List.mem_singleton.mp he]
    exact hvalid

/-- What the maps hold after more revisions were accepted. -/
theorem recordAll_chains : ∀ {more entries : List Entry} {st st' : ApplicationMaps}, Recorded entries st →
    recordAll st more = .ok st' → Recorded (entries ++ more) st'
  | [], entries, st, st', h, hok => by
    cases hok
    rw [List.append_nil]
    exact h
  | entry :: more, entries, st, st', h, hok => by
    obtain ⟨mid, hmid, hok⟩ := bind_eq_ok.mp hok
    have hrest := recordAll_chains (h.record hmid) hok
    rw [List.append_assoc] at hrest
    exact hrest

theorem successor_of_check {current entry : Entry} (h : checkApplication .storeCorrupt (some current) entry = .ok ()) :
    entry.1.isSuccessorOf current.1 = true := ensure_ok.mp h

/-- The revisions in the order of the journal: the sort of the rebuild finds the order they were recorded in. -/
theorem Recorded.rebuild {entries : List Entry} {st : ApplicationMaps} (h : Recorded entries st)
    (hseq : entries.Pairwise fun a b => a.2 < b.2) : rebuildApplications st.revisions .storeCorrupt = .ok st.applications := by
  have hnodup : (entries.map Prod.snd).Nodup := by
    unfold List.Nodup
    rw [List.pairwise_map]
    exact hseq.imp fun hlt => Nat.ne_of_lt hlt
  have hsorted : sortByKey Prod.snd st.revisions.values = entries := by
    have hperm := h.chains.values_perm
    refine List.Perm.eq_of_pairwise (fun x y hx hy hxy hyx => ?_) (sortByKey_pairwise Prod.snd _)
      (hseq.imp fun hlt => Nat.le_of_lt hlt) ((sortByKey_perm _ _).trans hperm)
    exact List.inj_on_of_nodup_map hnodup (hperm.mem_iff.mp ((sortByKey_perm _ _).mem_iff.mp hx)) hy
      (Nat.le_antisymm hxy hyx)
  obtain ⟨current, hok, hheads⟩ := @foldlM_place _ _ _ _ applicationKey (checkApplication .storeCorrupt) entries [] _
    heads_empty h.chains.linked
  unfold rebuildApplications
  rw [hsorted, hok, h.chains.heads.eq hheads fun k => rfl]

/-- What holds of a run of accepted revisions and of the maps it ends in. -/
structure Final (entries : List Entry) (st : ApplicationMaps) : Prop where
  kept : ∀ id, (chainIn applicationKey entries id).Pairwise fun a b => Keeps a.1 b.1
  stepwise : ∀ id, (chainIn applicationKey entries id).IsChain fun a b => OneReceipt a.1 b.1
  judged : ∀ entry ∈ entries, Judged entry.1
  rebuilt : rebuildApplications st.revisions .storeCorrupt = .ok st.applications

/-- **A recovery verdict is final and append-only**: along every run of accepted revisions each application keeps
its ticket and its reports, its receipts grow by one at a time, the status is the verdict of the last one, and the
current revisions can be computed again. -/
theorem verdict_final (entries : List Entry) (st : ApplicationMaps) (h : recordAll .empty entries = .ok st)
    (hseq : entries.Pairwise fun a b => a.2 < b.2) : Final entries st := by
  have hrecorded : Recorded entries st := recordAll_chains recorded_empty h
  refine ⟨fun id => ?_, fun id => ?_, fun entry hentry => validate_judged (hrecorded.valid entry hentry),
    hrecorded.rebuild hseq⟩
  · refine Linked.pairwise (R := fun a b : Entry => Keeps a.1 b.1) (fun a b c hab hbc => hab.trans hbc)
      (fun a b hcheck => ?_) (hrecorded.chains.linked id)
    exact Keeps.of_successor (successor_of_check hcheck)
  · refine Linked.isChain (R := fun a b : Entry => OneReceipt a.1 b.1) (fun a b hcheck => ?_) (hrecorded.chains.linked id)
    exact OneReceipt.of_successor (successor_of_check hcheck)

/-! ## A ticket that is delivered and verified -/

def sampleTicket : RecoveryApplication where
  recoveryApplicationId := ⟨0x70008000000000000001⟩
  revisionId := ⟨0x70008000000000000011⟩
  parentRevisionId := none
  recoveryBundleId := ⟨0x70008000000000000002⟩
  targetWorktreeInstanceId := ⟨0x70008000000000000003⟩
  preApplicationSnapshotId := ⟨0x70008000000000000004⟩
  postApplicationSnapshotId := none
  applicationKind := .patch
  ticketClaimsVersion := 1
  selectedCasRefs := [⟨5⟩]
  inputDeliveryKind := .patchStdin
  inputDeliveryState := .admitted
  operationId := none
  operationRevision := none
  executionLaneId := none
  captureReceiptRevisionId := none
  scopeEffectIds := []
  inputSourceObservationIds := []
  resultSourceObservationIds := []
  verifierReceipts := []
  relevantAttemptAnchorIds := []
  attemptAnchorClaims := []
  anchorVerifierReceipts := []
  applicationStatus := .unknown
  createdAtUs := 1

def sampleDelivered (results : List SourceObservationId) : RecoveryApplication :=
  { sampleTicket with
    revisionId := ⟨0x70008000000000000012⟩
    parentRevisionId := some ⟨0x70008000000000000011⟩
    inputDeliveryState := .delivered
    operationId := some ⟨0x70008000000000000005⟩
    operationRevision := some 1
    executionLaneId := some ⟨0x70008000000000000006⟩
    captureReceiptRevisionId := some ⟨0x70008000000000000007⟩
    scopeEffectIds := [⟨0x70008000000000000008⟩]
    inputSourceObservationIds := [⟨6⟩]
    resultSourceObservationIds := results
    createdAtUs := 2 }

def sampleVerified : RecoveryApplication :=
  { sampleDelivered [⟨7⟩] with
    revisionId := ⟨0x70008000000000000013⟩
    parentRevisionId := some ⟨0x70008000000000000012⟩
    postApplicationSnapshotId := some ⟨0x70008000000000000009⟩
    verifierReceipts := [⟨1, 1, ⟨7⟩, ⟨0x70008000000000000009⟩, .applied⟩]
    applicationStatus := .applied
    createdAtUs := 3 }

def sampleRun : List Entry := [(sampleTicket, 4), (sampleDelivered [⟨7⟩], 6), (sampleVerified, 9)]

theorem verdict_final_sample : ∃ st, recordAll .empty sampleRun = .ok st ∧ Final sampleRun st := by
  obtain ⟨st, h⟩ : ∃ st, recordAll .empty sampleRun = .ok st := exists_of_isOk (by decide +kernel)
  exact ⟨st, h, verdict_final sampleRun st h (by decide)⟩

end EverTrace.L2.Recovery
