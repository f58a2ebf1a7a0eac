import Mathlib.Algebra.Order.BigOperators.Group.List
import EverTrace.L2Machine.RecoveryLedger
/-!
# An application with two result observations gets stuck

A verdict is tied to exactly one result observation: `status_evidence_is_valid`
(evertrace-domain/src/repository/recovery.rs:777-778) wants the list to be the one
of the receipt. While the status is unknown a revision may list up to 256 of them,
and no later revision may drop one (recovery.rs:735-738). After a second
observation no verdict can be recorded, whatever is verified.

Exact condition: the revision lists at most one result observation (and a revision id is left).
-/
namespace EverTrace.Bugs.SecondObservation
open EverTrace.Lib EverTrace.L1 EverTrace.L2.Store EverTrace.L2.Recovery
open EverTrace.L2.Semantic (sortedUpTo)

/-- The sequences of the journal grow. -/
def InOrder (entries : List Entry) : Prop := entries.Pairwise fun a b => a.2 < b.2

instance (entries : List Entry) : Decidable (InOrder entries) := by unfold InOrder; infer_instance

/-- The current revision of the application carries a receipt with the outcome, and its status. -/
def Judges (st : ApplicationMaps) (id : RecoveryApplicationId) (outcome : RecoveryVerificationOutcome) : Prop :=
  ∃ value seq, st.applications.get id = some (value, seq) ∧ value.applicationStatus = outcome.status
    ∧ ∃ receipt ∈ value.verifierReceipts, receipt.outcome = outcome

/-- The run goes on, with accepted revisions, to the outcome. -/
def Recordable (entries : List Entry) (id : RecoveryApplicationId) (outcome : RecoveryVerificationOutcome) : Prop :=
  ∃ more st, InOrder (entries ++ more) ∧ recordAll .empty (entries ++ more) = .ok st ∧ Judges st id outcome

variable {entries more : List Entry} {st st' : ApplicationMaps} {id : RecoveryApplicationId} {a b : RecoveryApplication}
  {seq seq' : Nat} {outcome : RecoveryVerificationOutcome}

theorem recorded_of_run (h : recordAll .empty entries = .ok st) : Recorded entries st := recordAll_chains recorded_empty h

theorem recordAll_append : recordAll st (entries ++ more) = recordAll st entries >>= fun st' => recordAll st' more :=
  List.foldlM_append

/-! ## Two observations -/

/-- A revision with a verdict has one result observation, that of its receipts. -/
theorem results_of_judged (h : b.validate = .ok ()) (hstatus : b.applicationStatus ≠ .unknown) :
    ∃ observation, b.resultSourceObservationIds = [observation] := by
  have hevidence := (validate_iff.mp h).status
  unfold statusEvidenceIsValid at hevidence
  rw [if_neg (by simpa using hstatus)] at hevidence
  cases hlast : b.verifierReceipts.getLast? with
  | none =>
    rw [hlast] at hevidence
    cases hevidence
  | some receipt =>
    rw [hlast] at hevidence
    simp only [Bool.and_eq_true, beq_iff_eq] at hevidence
    exact ⟨_, hevidence.1.1.1.1.2⟩

/-- The revision that is current at the end is the one that was current, or it keeps what that one had. -/
theorem keeps_of_run (hrecorded : Recorded (entries ++ more) st') (hst : Recorded entries st)
    (ha : st.applications.get id = some (a, seq)) (hb : st'.applications.get id = some (b, seq')) :
    b = a ∨ Keeps a b := by
  rw [hst.chains.heads id] at ha
  rw [hrecorded.chains.heads id] at hb
  have hsplit : chainIn applicationKey (entries ++ more) id =
      chainIn applicationKey entries id ++ chainIn applicationKey more id := by
    unfold chainIn
    rw [List.filter_append]
  rw [hsplit] at hb
  rcases List.eq_nil_or_concat' (chainIn applicationKey more id) with hnil | ⟨front, last, hlast⟩
  · rw [hnil, List.append_nil, ha] at hb
    cases hb
    exact .inl rfl
  · right
    rw [hlast, ← List.append_assoc, List.getLast?_concat] at hb
    cases hb
    have hpairwise : (chainIn applicationKey (entries ++ more) id).Pairwise fun a b => Keeps a.1 b.1 := by
      refine Linked.pairwise (R := fun a b : Entry => Keeps a.1 b.1) (fun a b c hab hbc => hab.trans hbc)
        (fun a b hcheck => ?_) (hrecorded.chains.linked id)
      exact Keeps.of_successor (successor_of_check hcheck)
    rw [hsplit, List.pairwise_append] at hpairwise
    have hmem : (b, seq') ∈ chainIn applicationKey more id := by
      rw [hlast]
      exact List.mem_append_right _ (List.mem_singleton_self _)
    exact hpairwise.2.2 (a, seq) (List.mem_of_getLast? ha) (b, seq') hmem

theorem length_le_one {results : List SourceObservationId} {observation : SourceObservationId}
    (hsorted : sortedUpTo 256 results = true) (hsub : results ⊆ [observation]) : results.length ≤ 1 := by
  unfold sortedUpTo at hsorted
  rw [Bool.and_eq_true] at hsorted
  have hnodup : results.Nodup := (L2.Recall.pairwise_of_strictlyIncreasing hsorted.2).imp fun h => ne_of_lt h
  exact (hnodup.subperm hsub).length_le

theorem Judges.status_ne (h : Judges st id outcome) (ha : st.applications.get id = some (a, seq)) :
    a.applicationStatus ≠ .unknown := by
  obtain ⟨value, seq', hvalue, hstatus, -⟩ := h
  rw [ha] at hvalue
  cases hvalue
  rw [hstatus]
  exact outcome.status_ne_unknown

theorem of_recordable (hst : recordAll .empty entries = .ok st) (ha : st.applications.get id = some (a, seq))
    (hunknown : a.applicationStatus = .unknown) (h : Recordable entries id outcome) :
    a.resultSourceObservationIds.length ≤ 1 ∧ ∃ revisionId, st.revisions.get revisionId = none := by
  obtain ⟨more, st', -, hrun, hjudges⟩ := h
  have hrecorded : Recorded (entries ++ more) st' := recorded_of_run hrun
  have hbefore : Recorded entries st := recorded_of_run hst
  constructor
  · obtain ⟨b, seq', hb, hstatus, -⟩ := hjudges
    have hmem := (hrecorded.chains.mem_of_current hb).1
    have hknown : b.applicationStatus ≠ .unknown := by
      rw [hstatus]
      exact outcome.status_ne_unknown
    obtain ⟨observation, hresults⟩ := results_of_judged (hrecorded.valid _ hmem) hknown
    rcases keeps_of_run hrecorded hbefore ha hb with rfl | hkeeps
    · exact absurd hunknown hknown
    · have hsub : a.resultSourceObservationIds ⊆ [observation] := by
        rw [← hresults]
        exact hkeeps.results
      exact length_le_one (validate_iff.mp (hbefore.valid _ (hbefore.chains.mem_of_current ha).1)).results hsub
  · -- the first revision that is recorded has a new id
    rw [recordAll_append, hst, ok_bind] at hrun
    cases more with
    | nil =>
      cases hrun
      exact absurd hunknown (hjudges.status_ne ha)
    | cons entry rest =>
      obtain ⟨mid, hmid, -⟩ := bind_eq_ok.mp hrun
      obtain ⟨-, hnew, -⟩ := recordApplication_ok.mp hmid
      exact ⟨_, hnew⟩

/-! ## The verdict on at most one observation -/

/-- The observation a verdict is tied to: the one that is listed, or any. -/
def observationOf (a : RecoveryApplication) : SourceObservationId := a.resultSourceObservationIds.headD ⟨0⟩

def snapshotOf (a : RecoveryApplication) : WorktreeSnapshotId := a.postApplicationSnapshotId.getD ⟨0⟩

/-- The revision that records the outcome. -/
def judged (a : RecoveryApplication) (revisionId : RevisionId) (outcome : RecoveryVerificationOutcome) :
    RecoveryApplication :=
  { a with
    revisionId := revisionId
    parentRevisionId := some a.revisionId
    postApplicationSnapshotId := some (snapshotOf a)
    resultSourceObservationIds := [observationOf a]
    verifierReceipts := [⟨1, 1, observationOf a, snapshotOf a, outcome⟩]
    applicationStatus := outcome.status }

theorem results_sub (h : a.resultSourceObservationIds.length ≤ 1) : a.resultSourceObservationIds ⊆ [observationOf a] := by
  unfold observationOf
  cases hresults : a.resultSourceObservationIds with
  | nil => exact List.nil_subset _
  | cons x rest =>
    rw [hresults, List.length_cons] at h
    have hrest : rest = [] := List.length_eq_zero_iff.mp (by omega)
    rw [hrest]
    exact List.Subset.refl _

theorem parent_of_delivered (h : Checked a) (hdelivered : a.inputDeliveryState = .delivered) :
    a.parentRevisionId.isNone = false := by
  by_contra hroot
  have huntouched := h.initial
  rw [Bool.not_eq_false] at hroot
  rw [hroot, Bool.not_true, Bool.false_or] at huntouched
  unfold RecoveryApplication.untouched at huntouched
  rw [hdelivered] at huntouched
  simp at huntouched

theorem anchors_nil (h : Checked a) (hunknown : a.applicationStatus = .unknown) : a.anchorVerifierReceipts = [] := by
  have hanchored := h.anchored
  rw [hunknown, Bool.or_eq_true, List.isEmpty_iff] at hanchored
  exact hanchored.resolve_right (by decide)

theorem judged_valid (h : Checked a) (hunknown : a.applicationStatus = .unknown)
    (hdelivered : a.inputDeliveryState = .delivered) (revisionId : RevisionId) (outcome : RecoveryVerificationOutcome) :
    Checked (judged a revisionId outcome) where
  created := h.created
  version := h.version
  selected := h.selected
  casRefs := h.casRefs
  effects := h.effects
  inputs := h.inputs
  results := rfl
  receipts := rfl
  relevant := h.relevant
  claims := h.claims
  claimed := h.claimed
  anchors := by
    have hnil : a.anchorVerifierReceipts = [] := anchors_nil h hunknown
    simp [validAnchorVerifierReceipts, judged, hnil, L2.Recall.strictlyIncreasing]
  anchored := by
    have hnil : a.anchorVerifierReceipts = [] := anchors_nil h hunknown
    simp [judged, hnil]
  operation := h.operation
  initial := rfl
  delivered := by
    have hshape := h.delivered
    rw [parent_of_delivered h hdelivered, Bool.false_or, Bool.or_eq_true] at hshape
    have hdeliveredShape : a.deliveredShape = true := hshape.resolve_left (by simp [hdelivered])
    have hsame : (judged a revisionId outcome).deliveredShape = a.deliveredShape := rfl
    rw [hsame, hdeliveredShape, Bool.or_true]
  admitted := by
    have hstate : (judged a revisionId outcome).inputDeliveryState = .delivered := hdelivered
    rw [hstate]
    rfl
  status := by
    have hstate : (judged a revisionId outcome).inputDeliveryState = .delivered := hdelivered
    have hstatus : ¬((judged a revisionId outcome).applicationStatus == .unknown) = true := by
      rw [beq_iff_eq]
      exact outcome.status_ne_unknown
    unfold statusEvidenceIsValid
    rw [if_neg hstatus, hstate]
    simp [judged]

theorem judged_successor (h : Checked a) (hunknown : a.applicationStatus = .unknown)
    (hdelivered : a.inputDeliveryState = .delivered) (hone : a.resultSourceObservationIds.length ≤ 1)
    {revisionId : RevisionId} (hne : revisionId ≠ a.revisionId) (outcome : RecoveryVerificationOutcome) :
    (judged a revisionId outcome).isSuccessorOf a = true := by
  have hvalid := validate_iff.mpr (judged_valid h hunknown hdelivered revisionId outcome)
  have hreceipts : a.verifierReceipts = [] := (validate_judged (validate_iff.mpr h)).unknown.mp hunknown
  have hhistory : verifierHistoryProgress a.verifierReceipts (judged a revisionId outcome).verifierReceipts = true := by
    rw [hreceipts]
    rfl
  have hticket : RecoveryApplication.sameTicket a (judged a revisionId outcome) = true := by
    simp [RecoveryApplication.sameTicket, judged, hne]
  have hresults : containsAll (judged a revisionId outcome).resultSourceObservationIds a.resultSourceObservationIds = true := by
    unfold containsAll
    rw [List.all_eq_true]
    exact fun x hx => List.contains_iff_mem.mpr (results_sub hone hx)
  have hpost : optionCompatible a.postApplicationSnapshotId (judged a revisionId outcome).postApplicationSnapshotId = true := by
    unfold optionCompatible
    cases hsnapshot : a.postApplicationSnapshotId with
    | none => rfl
    | some snapshot => simp [judged, snapshotOf, hsnapshot]
  have hself : ∀ {α : Type} [DecidableEq α] (l : List α), containsAll l l = true := by
    intro α _ l
    unfold containsAll
    rw [List.all_eq_true]
    exact fun x hx => List.contains_iff_mem.mpr hx
  have hreports : RecoveryApplication.keepsReports a (judged a revisionId outcome) = true := by
    unfold RecoveryApplication.keepsReports
    rw [hresults, hpost, hhistory]
    simp [deliveryProgress, optionCompatible, judged, hself]
  have hprogress : RecoveryApplication.statusProgress a (judged a revisionId outcome) = true := by
    unfold RecoveryApplication.statusProgress RecoveryApplication.evidenceProgress
    rw [hunknown, hhistory]
    simp
  unfold RecoveryApplication.isSuccessorOf
  rw [isOk_iff.mpr hvalid, isOk_iff.mpr (validate_iff.mpr h), hticket, hreports, hprogress]
  simp [judged]

/-- A sequence behind all that were recorded. -/
theorem exists_later (h : InOrder entries) (value : RecoveryApplication) : ∃ seq, InOrder (entries ++ [(value, seq)]) := by
  refine ⟨(entries.map Prod.snd).sum + 1, List.pairwise_append.mpr ⟨h, List.pairwise_singleton _ _, fun e he last hlast => ?_⟩⟩
  rw [List.mem_singleton.mp hlast]
  have hle : e.2 ≤ (entries.map Prod.snd).sum := List.single_le_sum (fun n _ => Nat.zero_le n) _ (List.mem_map_of_mem he)
  exact Nat.lt_succ_of_le hle

theorem recordable_of (hst : recordAll .empty entries = .ok st) (horder : InOrder entries)
    (ha : st.applications.get id = some (a, seq)) (hunknown : a.applicationStatus = .unknown)
    (hdelivered : a.inputDeliveryState = .delivered) (hone : a.resultSourceObservationIds.length ≤ 1)
    {revisionId : RevisionId} (hnew : st.revisions.get revisionId = none) (outcome : RecoveryVerificationOutcome) :
    Recordable entries id outcome := by
  have hbefore : Recorded entries st := recorded_of_run hst
  obtain ⟨hmem, hkey⟩ := hbefore.chains.mem_of_current ha
  have hchecked := validate_iff.mp (hbefore.valid _ hmem)
  have hne : revisionId ≠ a.revisionId := by
    rintro rfl
    rw [(hbefore.chains.stored a.revisionId (a, seq)).mpr ⟨hmem, rfl⟩] at hnew
    cases hnew
  obtain ⟨next, hnext⟩ := exists_later horder (judged a revisionId outcome)
  have hid : (judged a revisionId outcome).recoveryApplicationId = id := hkey
  have hrecord : recordApplication st (judged a revisionId outcome) next .storeCorrupt =
      .ok ⟨st.applications.insert id (judged a revisionId outcome, next),
        st.revisions.insert revisionId (judged a revisionId outcome, next)⟩ := by
    refine recordApplication_ok.mpr ⟨validate_iff.mpr (judged_valid hchecked hunknown hdelivered revisionId outcome), hnew,
      ?_, by rw [hid]; rfl⟩
    rw [hid, ha]
    exact ensure_ok.mpr (judged_successor hchecked hunknown hdelivered hone hne outcome)
  refine ⟨[(judged a revisionId outcome, next)], ⟨st.applications.insert id (judged a revisionId outcome, next),
    st.revisions.insert revisionId (judged a revisionId outcome, next)⟩, hnext, ?_, judged a revisionId outcome, next, ?_, rfl,
    _, List.mem_singleton_self _, rfl⟩
  · rw [recordAll_append, hst, ok_bind]
    unfold recordAll
    rw [List.foldlM_cons, hrecord, ok_bind]
    rfl
  · exact OrdMap.get_insert_self _ _ _

/-- **Every outcome can be recorded if and only if at most one result observation is listed and a revision id is
left.** -/
theorem verdict_recordable_iff (entries : List Entry) (st : ApplicationMaps) (id : RecoveryApplicationId)
    (a : RecoveryApplication) (seq : Nat) (hst : recordAll .empty entries = .ok st) (horder : InOrder entries)
    (ha : st.applications.get id = some (a, seq)) (hunknown : a.applicationStatus = .unknown)
    (hdelivered : a.inputDeliveryState = .delivered) :
    (∀ outcome, Recordable entries id outcome) ↔
      a.resultSourceObservationIds.length ≤ 1 ∧ ∃ revisionId, st.revisions.get revisionId = none := by
  constructor
  · exact fun h => of_recordable hst ha hunknown (h .applied)
  · rintro ⟨hone, revisionId, hnew⟩ outcome
    exact recordable_of hst horder ha hunknown hdelivered hone hnew outcome

/-! ## The application that gets stuck -/

/-- The ticket, delivered with two result observations. -/
def stuckRun : List Entry := [(sampleTicket, 4), (sampleDelivered [⟨7⟩, ⟨8⟩], 6)]

/-- The run is accepted, and no verdict follows it. -/
theorem verdict_unrecordable : (recordAll .empty stuckRun).isOk = true
    ∧ ¬∃ outcome, Recordable stuckRun sampleTicket.recoveryApplicationId outcome := by
  have hrun : ((recordAll .empty stuckRun).toOption.map fun st =>
      (st.applications.get sampleTicket.recoveryApplicationId).map Prod.fst) = some (some (sampleDelivered [⟨7⟩, ⟨8⟩])) := by
    decide +kernel
  obtain ⟨st, hst, hcurrent⟩ := Option.map_eq_some_iff.mp hrun
  have hst := toOption_eq_some.mp hst
  obtain ⟨⟨a, seq⟩, ha, rfl⟩ := Option.map_eq_some_iff.mp hcurrent
  refine ⟨by rw [hst]; rfl, ?_⟩
  rintro ⟨outcome, h⟩
  exact absurd (of_recordable hst ha rfl h).1 (by decide)

/-- With one observation every outcome can be recorded. -/
theorem verdict_recordable_iff_sample : ∃ st a seq,
    recordAll .empty [(sampleTicket, 4), (sampleDelivered [⟨7⟩], 6)] = .ok st ∧
    ((∀ outcome, Recordable [(sampleTicket, 4), (sampleDelivered [⟨7⟩], 6)] sampleTicket.recoveryApplicationId outcome) ↔
      a.resultSourceObservationIds.length ≤ 1 ∧ ∃ revisionId, st.revisions.get revisionId = none)
    ∧ st.applications.get sampleTicket.recoveryApplicationId = some (a, seq) := by
  have hrun : ((recordAll .empty [(sampleTicket, 4), (sampleDelivered [⟨7⟩], 6)]).toOption.map fun st =>
      (st.applications.get sampleTicket.recoveryApplicationId).map Prod.fst) = some (some (sampleDelivered [⟨7⟩])) := by
    decide +kernel
  obtain ⟨st, hst, hcurrent⟩ := Option.map_eq_some_iff.mp hrun
  have hst := toOption_eq_some.mp hst
  obtain ⟨⟨a, seq⟩, ha, rfl⟩ := Option.map_eq_some_iff.mp hcurrent
  exact ⟨st, _, seq, hst,
    verdict_recordable_iff _ st sampleTicket.recoveryApplicationId _ seq hst (by decide) ha rfl rfl, ha⟩

end EverTrace.Bugs.SecondObservation
