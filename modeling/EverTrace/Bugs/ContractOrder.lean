import EverTrace.L2Machine.TriggerIndex
import EverTrace.L2Machine.TerminalDecisions
import EverTrace.L1Encoding.CanonicalParse
/-!
# Two matching contracts can silence detection

`detect_current_context` sorts the matching contracts by contract id, a content
hash, and lists their source revisions in the plan in that order. The plan asks
for its lists in strict order of their texts, so when the hashes order two
contracts the other way round than their revisions, `plan.validate()` fails and
the function returns `Ok(None)`: the obligation is never raised
(evertrace-engine/src/recall/detector.rs:95, 121-134). A few lines above, the
same revisions are sorted for `source_revision_ids`.

Failing input: contracts `…01` and `…03` of `contract`, whose ids are the
SHA-256 contract ids of these conditions; the hash of `…03` is the smaller one.

Holds when the texts of the matching contracts' source revisions, in the order
of the contract ids, are strictly increasing: `detects_iff`.
-/
namespace EverTrace.L2.Recall
open EverTrace.Lib EverTrace.L1 EverTrace.L1.Canonical EverTrace.L2.Work EverTrace.L2.Semantic

/-! ## The statement -/

/-- The bounds and the order that `RecallPlan::validate` asks of a list. -/
def planList (values : List String) : Bool :=
  values.length ≤ maxRecallRefs && strictlyIncreasing (values.map utf8)
    && values.all fun value => boundedText value && !hasControl value

/-- A context in which a new need can be detected. -/
structure Ready (context : RecallCurrentContext) (nowUs : Int64) : Prop where
  time : ¬ nowUs < 0
  checkpoint : context.checkpoint.validate = .ok ()
  gaps : context.checkpoint.captureGapRefs = []
  outages : context.checkpoint.captureOutageRefs = []
  verifier : context.checkpoint.verifierState ≠ .inconclusive
  loops : planList context.checkpoint.openLoops = true
  evidence : planList context.checkpoint.verifierRefs = true
  unrecorded : ∀ n ∈ context.needs, n.boundaryEventRef ≠ context.checkpoint.stableKey
  /-- lengths are `usize`s -/
  inMemory : (utf8 context.hostSessionId).length < 2 ^ 64 ∧ context.scopeEffectRefs.length < 2 ^ 64

/-- The entries whose scope covers the context and whose truths are true, false and false, by contract id. -/
def matching (context : RecallCurrentContext) (index : RecallTriggerIndex) : List RecallTriggerEntry :=
  index.entries.filter fun entry =>
    holds (entry.condition (checkpointState context.checkpoint) none) && scopeMatches context entry.scope

/-- A need is recorded for exactly the matching contracts, in the order of their ids. -/
def Detects (H : Sha256) (context : RecallCurrentContext) (index : RecallTriggerIndex) (nowUs : Int64)
    (fresh : FreshIds) : Prop :=
  ∃ need, detectCurrentContext H context index nowUs fresh = .ok (some (.needRecorded need)) ∧
    need.triggerFamily = .prospectiveObligation ∧
    need.matchedContractIds = (matching context index).map fun entry => entry.contract.futureCueContractId

def revisionTexts (context : RecallCurrentContext) (index : RecallTriggerIndex) : List String :=
  (matching context index).map fun entry => entry.contract.sourceRevisionId.toText

/-! ## The defect -/

def deliverCheckpoint : WorkCheckpoint where
  episodeId := ⟨0x70008000000000000010⟩
  episodeRevisionId := ⟨0x70008000000000000011⟩
  sourceWatermark := 4
  activeAttemptIds := []
  attemptRevisionRefs := []
  phaseContract := ⟨"g", .deliver, "p", [], [], "a", "t"⟩
  openLoops := []
  verifierState := .passed
  verifierRefs := []
  currentWorktreeSnapshotId := none
  createdReason := .stop
  continuationCandidate := false
  activeLineageRefs := []
  captureReceiptRevisionIds := []
  captureGapRefs := []
  captureOutageRefs := []
  algorithmRevision := 1

def deliverContext : RecallCurrentContext where
  taskId := ⟨0x70008000000000000012⟩
  workstreamId := ⟨0x70008000000000000013⟩
  repositoryInstanceId := none
  activeWorktreeInstanceId := none
  hostSessionId := "s"
  executionLaneId := ⟨0x70008000000000000014⟩
  episodeRevisionId := ⟨0x70008000000000000011⟩
  checkpoint := deliverCheckpoint
  previousCheckpoint := none
  workBindingRevisionId := ⟨0x70008000000000000015⟩
  scopeEffectRefs := []
  needs := []

/-- A contract that waits for the delivery phase, until the verifier fails or the work is done. -/
def deliverContract (futureCueContractId : Digest) (sourceRevisionId : RevisionId) : FutureCueContract where
  futureCueContractId := futureCueContractId
  sourceRevisionId := sourceRevisionId
  matchExpr := .eq .phaseKind (.text "deliver")
  suppressExpr := .eq .verifierState (.text "failed")
  resolveExpr := .eq .phase (.text "done")

/-- The contract of revision `…01`, first seen at watermark 1. -/
def firstContract : FutureCueContract := deliverContract
  ⟨[0x7d, 0xb7, 0xe9, 0xb4, 0x1c, 0x43, 0x2d, 0xe6, 0x7a, 0xba, 0xe5, 0x5f, 0x65, 0x37, 0x88, 0x35, 0xec, 0x0e, 0x76,
    0x82, 0x05, 0xda, 0xf5, 0xc1, 0xbb, 0x90, 0x07, 0x20, 0x72, 0x93, 0x96, 0x38], rfl⟩ ⟨0x70008000000000000001⟩

/-- The contract of revision `…03`, first seen at watermark 3. -/
def thirdContract : FutureCueContract := deliverContract
  ⟨[0x0e, 0x49, 0xf6, 0x0e, 0x19, 0x10, 0xa5, 0x01, 0xdf, 0xd1, 0xcb, 0x51, 0xa2, 0x33, 0x1d, 0x27, 0x03, 0xed, 0x58,
    0x62, 0xfa, 0xec, 0xaf, 0x95, 0xb1, 0xdd, 0xec, 0x51, 0xf9, 0x34, 0xe7, 0x0f], rfl⟩ ⟨0x70008000000000000003⟩

def deliverIndex : RecallTriggerIndex where
  entries := [⟨thirdContract, .task deliverContext.taskId⟩, ⟨firstContract, .task deliverContext.taskId⟩]
  sorted := by
    rw [List.pairwise_pair]
    decide

theorem deliver_ready : Ready deliverContext 5 where
  time := by decide
  checkpoint := isOk_iff.mp (by decide)
  gaps := rfl
  outages := rfl
  verifier := by decide
  loops := rfl
  evidence := rfl
  unrecorded := by simp [deliverContext]
  inMemory := by decide

def detectsNothing : Except DetectError Detection → Bool
  | .ok .none => true
  | _ => false

theorem eq_none_of_detectsNothing {d : Except DetectError Detection} (h : detectsNothing d = true) : d = .ok .none := by
  unfold detectsNothing at h
  split at h
  · rfl
  · cases h

/-- **Counterexample**: both contracts match in a ready context, and nothing is detected. -/
theorem matching_contracts_silenced :
    Ready deliverContext 5 ∧
    matching deliverContext deliverIndex = deliverIndex.entries ∧ (matching deliverContext deliverIndex).length = 2 ∧
    ∀ (H : Sha256) (fresh : FreshIds), detectCurrentContext H deliverContext deliverIndex 5 fresh = .ok none ∧
      ¬ Detects H deliverContext deliverIndex 5 fresh := by
  have hmatching : matching deliverContext deliverIndex = deliverIndex.entries := by
    unfold matching
    rw [List.filter_eq_self]
    simp only [deliverIndex, List.forall_mem_cons, List.not_mem_nil, false_imp_iff, implies_true, and_true]
    decide
  have hdetection := eq_none_of_detectsNothing (show detectsNothing (detection deliverContext deliverIndex 5) = true by decide)
  refine ⟨deliver_ready, hmatching, by rw [hmatching]; rfl, fun H fresh => ?_⟩
  have hdetect : detectCurrentContext H deliverContext deliverIndex 5 fresh = .ok none := by
    unfold detectCurrentContext
    rw [hdetection]
    rfl
  refine ⟨hdetect, fun hdetects => ?_⟩
  obtain ⟨need, hneed, _⟩ := hdetects
  rw [hdetect] at hneed
  cases hneed

/-! ## The contracts of the detection -/

variable {H : Sha256} {context : RecallCurrentContext} {index : RecallTriggerIndex} {nowUs : Int64} {fresh : FreshIds}

/-- Conditions that hold are the same through the index and over all entries. -/
theorem evaluate_filter_holds (index : RecallTriggerIndex) (current : ConstraintState)
    (previous : Option ConstraintState) : (index.evaluate current previous).filter holds =
      (index.entries.map fun entry => entry.condition current previous).filter holds := by
  have hundecided : ∀ c : FutureCueCandidateCondition, c.matchTruth = .unknown → holds c = false := by
    intro c hc
    simp [holds, hc]
  by_cases hvalid : current.validate = .ok () ∧ ValidPrevious previous
  · have heval := (RecallTriggerIndex.evaluate_eq_indexed index current previous).symm.trans
      (evaluateIndexed_eq hvalid.1 hvalid.2 index.entries)
    rw [Option.some.inj heval]
    exact filter_bound hvalid.1 hvalid.2 fun c hc _ _ => hundecided c hc
  · -- an invalid state leaves every truth unknown
    have hinvalid : current.validate.toOption.isNone = true ∨
        previous.any (fun state => state.validate.toOption.isNone) = true := by
      by_contra hno
      simp only [not_or, Bool.not_eq_true, Option.isNone_eq_false_iff] at hno
      refine hvalid ⟨?_, fun s hs => ?_⟩
      · cases h : current.validate with
        | ok u => rfl
        | error e => rw [h] at hno; exact absurd hno.1 (by simp [Except.toOption])
      · subst hs
        cases h : s.validate with
        | ok u => rfl
        | error e => simp [h, Except.toOption] at hno
    have hunknown : ∀ e : ConstraintExpr, e.evaluate current previous = .unknown := by
      intro e
      unfold ConstraintExpr.evaluate
      rcases hinvalid with h | h <;> simp [h]
    unfold RecallTriggerIndex.evaluate
    rw [if_pos hinvalid, List.filter_nil, eq_comm, List.filter_eq_nil_iff]
    intro c hc
    obtain ⟨entry, -, rfl⟩ := List.mem_map.mp hc
    rw [hundecided _ (hunknown _)]
    decide

theorem entries_distinct (index : RecallTriggerIndex) :
    index.entries.Pairwise fun a b => a.contract.futureCueContractId ≠ b.contract.futureCueContractId :=
  index.sorted.imp fun {a b} hlt heq => by
    rw [heq] at hlt
    exact absurd hlt (List.lt_irrefl _)

theorem scopedContract_of_mem {entry : RecallTriggerEntry} (h : entry ∈ index.entries) :
    scopedContract context index entry.contract.futureCueContractId =
      if scopeMatches context entry.scope then some entry.contract else none := by
  have hfind : index.entry entry.contract.futureCueContractId = some entry := find?_key (entries_distinct index) h
  unfold scopedContract
  rw [hfind]
  cases hscope : scopeMatches context entry.scope <;> simp [Option.filter, hscope]

/-- Detection selects the contracts of the matching entries, in the order of the index. -/
theorem contractsFor_matching : contractsFor context index
    (index.evaluate (checkpointState context.checkpoint) none) =
      (matching context index).map RecallTriggerEntry.contract := by
  have hselected : ∀ l : List RecallTriggerEntry, (∀ e ∈ l, e ∈ index.entries) →
      (((l.map fun entry => entry.condition (checkpointState context.checkpoint) none).filter holds).filterMap
        fun condition => scopedContract context index condition.futureCueContractId) =
      (l.filter fun entry => holds (entry.condition (checkpointState context.checkpoint) none) &&
        scopeMatches context entry.scope).map RecallTriggerEntry.contract := by
    intro l
    induction l with
    | nil => intro _; rfl
    | cons e l ih =>
      intro h
      obtain ⟨he, hl⟩ := List.forall_mem_cons.mp h
      have hid : (e.condition (checkpointState context.checkpoint) none).futureCueContractId =
        e.contract.futureCueContractId := rfl
      rw [List.map_cons]
      cases hholds : holds (e.condition (checkpointState context.checkpoint) none) with
      | false =>
        rw [List.filter_cons_of_neg (by rw [hholds]; decide), List.filter_cons_of_neg (by simp [hholds]), ih hl]
      | true =>
        rw [List.filter_cons_of_pos hholds, List.filterMap_cons, hid, scopedContract_of_mem he, ih hl]
        cases hscope : scopeMatches context e.scope with
        | false => rw [List.filter_cons_of_neg (by simp [hscope])]; rfl
        | true => rw [List.filter_cons_of_pos (by simp [hholds, hscope])]; rfl
  rw [contractsFor_eq, evaluate_filter_holds, hselected _ fun _ h => h]
  refine List.Pairwise.insertionSort_eq ?_
  rw [List.pairwise_map]
  exact (index.sorted.filter _).imp fun hlt => List.le_of_lt hlt

/-! ## The plan -/

theorem isControl_hexDigit : ∀ n : Fin 16, isControl (hexDigit n) = false := by decide

theorem hasControl_hexBytes (b : Bytes) : (hexBytes b).any isControl = false := by
  induction b with
  | nil => rfl
  | cons x b ih =>
    have hx := x.toNat_lt
    have hhigh := isControl_hexDigit ⟨x.toNat / 16, by omega⟩
    have hlow := isControl_hexDigit ⟨x.toNat % 16, by omega⟩
    unfold hexBytes at ih ⊢
    rw [List.flatMap_cons, List.any_append, ih, List.any_cons, List.any_cons, hhigh, hlow]
    rfl

theorem planText_revision (id : RevisionId) : (boundedText id.toText && !hasControl id.toText) = true := by
  have hlength := length_toText_le id
  have hbytes := length_utf8_le id.toText
  have hclean : hasControl id.toText = false := by
    have hdash : isControl '-' = false := by decide
    unfold hasControl Id.toText Family.tag Uuid.hyphenated
    simp [hasControl_hexBytes, hdash]
  have hne : utf8 id.toText ≠ [] := by
    rw [ne_eq, utf8_eq_nil]
    intro h
    have hzero := congrArg String.length h
    unfold Id.toText at hzero
    rw [String.length_append, String.length_ofList, length_hyphenated] at hzero
    simp at hzero
  unfold boundedText maxRecallText
  rw [hclean]
  simp only [ne_eq, hne, not_false_eq_true, decide_true, Bool.true_and, Bool.not_false, Bool.and_true,
    decide_eq_true_eq]
  omega

theorem planList_nil : planList [] = true := rfl

/-- A plan is valid when its four lists are in order and one of them, or a revision, gives it a subject. -/
theorem planFor_validate_iff (h : Ready context nowUs) (hcount : (matching context index).length ≤ 31)
    (family : TriggerFamily) :
    (planFor context family ((matching context index).map RecallTriggerEntry.contract)).validate = true ↔
      ((revisionTexts context index).map utf8).Pairwise (· < ·) := by
  have hreason : boundedText family.asStr = true ∧ hasControl family.asStr = false := by
    cases family <;> decide
  have htexts : ∀ value ∈ revisionTexts context index, (boundedText value && !hasControl value) = true := by
    intro value hvalue
    obtain ⟨entry, -, rfl⟩ := List.mem_map.mp hvalue
    exact planText_revision _
  have hrefs : planList (revisionTexts context index) = true ↔
      ((revisionTexts context index).map utf8).Pairwise (· < ·) := by
    unfold planList
    rw [List.all_eq_true.mpr htexts, Bool.and_true, Bool.and_eq_true, decide_eq_true_eq]
    unfold revisionTexts maxRecallRefs
    rw [List.length_map]
    exact ⟨fun hlist => pairwise_of_strictlyIncreasing hlist.2,
      fun hlist => ⟨by omega, strictlyIncreasing_of_pairwise hlist⟩⟩
  have hvalidate : (planFor context family ((matching context index).map RecallTriggerEntry.contract)).validate =
      (planList (revisionTexts context index) && planList context.checkpoint.openLoops && planList [] &&
        planList context.checkpoint.verifierRefs) := by
    unfold RecallPlan.validate planFor planList revisionTexts
    rw [hreason.1, hreason.2]
    simp only [List.map_map, Function.comp_def, List.all_cons, List.all_nil, Option.isSome_some, Bool.or_true, Bool.true_or,
      Bool.and_true, Bool.not_false, Bool.true_and, Bool.and_assoc]
  rw [hvalidate, h.loops, h.evidence, planList_nil, ← hrefs]
  simp

/-! ## Sealing -/

theorem planList_length {values : List String} (h : planList values = true) : values.length ≤ 32 := by
  unfold planList at h
  simp only [Bool.and_eq_true, decide_eq_true_eq] at h
  exact h.1.1

theorem planList_text {values : List String} (h : planList values = true) :
    ∀ value ∈ values, (utf8 value).length ≤ 512 := by
  intro value hvalue
  unfold planList boundedText at h
  simp only [Bool.and_eq_true, List.all_eq_true, decide_eq_true_eq] at h
  exact (h.2 value hvalue).1.2

theorem plain_text {value : String} (h : (utf8 value).length < 2 ^ 64) : Plain (.string value) :=
  .scalar h

theorem plain_id {family : Family} (id : Id family) : Plain (.string id.toText) := by
  have hlength := length_toText_le id
  have hbytes := length_utf8_le id.toText
  exact plain_text (by omega)

theorem plain_optionalId {family : Family} : ∀ id : Option (Id family), Plain (optionalId id)
  | none => .scalar trivial
  | some id => plain_id id

theorem plain_idTexts {family : Family} {ids : List (Id family)} (h : ids.length < 2 ^ 64) : Plain (idTexts ids) := by
  refine .sequence (by rw [List.length_map]; exact h) fun a ha => ?_
  obtain ⟨id, -, rfl⟩ := List.mem_map.mp ha
  exact plain_id id

theorem plain_strings {values : List String} (hcount : values.length < 2 ^ 64)
    (h : ∀ value ∈ values, (utf8 value).length < 2 ^ 64) : Plain (strings values) := by
  refine .sequence (by rw [List.length_map]; exact hcount) fun a ha => ?_
  obtain ⟨value, hvalue, rfl⟩ := List.mem_map.mp ha
  exact plain_text (h value hvalue)

theorem plain_planList {values : List String} (h : planList values = true) : Plain (strings values) := by
  have hlength := planList_length h
  refine plain_strings (by omega) fun value hvalue => ?_
  have := planList_text h value hvalue
  omega

theorem length_asStr_lt (family : TriggerFamily) : (utf8 family.asStr).length < 2 ^ 64 := by
  cases family <;> decide

theorem plain_plan (h : Ready context nowUs) (family : TriggerFamily)
    (hrefs : planList (revisionTexts context index) = true) :
    Plain (planCanonical (planFor context family ((matching context index).map RecallTriggerEntry.contract))) := by
  have htexts : (planFor context family ((matching context index).map RecallTriggerEntry.contract)).normativeConstraintRefs =
      revisionTexts context index := by
    simp [planFor, revisionTexts]
  unfold planCanonical
  refine .sequence (by simp) ?_
  rw [htexts]
  simp only [List.forall_mem_cons, List.not_mem_nil, false_imp_iff, implies_true, and_true]
  exact ⟨plain_text (length_asStr_lt family), plain_planList hrefs, plain_optionalId _, plain_optionalId _, plain_planList h.loops,
    plain_planList planList_nil, plain_planList h.evidence⟩

theorem plain_triggerState (h : Ready context nowUs) : Plain (triggerStateCanonical context.triggerState) := by
  have hcheckpoint := h.checkpoint
  unfold WorkCheckpoint.validate at hcheckpoint
  obtain ⟨_, -, hcheckpoint⟩ := bind_eq_ok.mp hcheckpoint
  simp only [ensure_ok, Bool.and_eq_true, bne_iff_ne] at hcheckpoint
  obtain ⟨⟨⟨⟨⟨⟨⟨⟨⟨-, -⟩, hattempts⟩, -⟩, -⟩, -⟩, -⟩, -⟩, -⟩, -⟩ := hcheckpoint
  have hattempts := (ids_iff.mp hattempts).1
  unfold triggerStateCanonical
  refine .sequence (by simp) ?_
  simp only [List.forall_mem_cons, List.not_mem_nil, false_imp_iff, implies_true, and_true]
  refine ⟨plain_text ?_, plain_text ?_, plain_idTexts ?_, plain_optionalId _, plain_optionalId _,
    plain_idTexts h.inMemory.2⟩
  · cases context.triggerState.phaseKind <;> decide
  · cases context.triggerState.verifierState <;> decide
  · show context.checkpoint.activeAttemptIds.length < 2 ^ 64
    omega

theorem plain_digest (digest : Digest) : Plain (.bytes digest.bytes) :=
  .scalar (show digest.bytes.length < 2 ^ 64 by rw [digest.length_eq]; decide)

theorem seal_detected (H : Sha256) (h : Ready context nowUs) (hcount : (matching context index).length ≤ 31)
    (family : TriggerFamily) (fresh : FreshIds) (hrefs : planList (revisionTexts context index) = true) :
    ∃ need, (detectedNeed context nowUs fresh family
      ((matching context index).map RecallTriggerEntry.contract) none).seal H = .ok need := by
  obtain ⟨fingerprint, hfingerprint⟩ := (plain_plan h family hrefs).sha256 H (t := "recall_plan_v1") 1 (by decide)
    (by decide)
  have hsources : (sourceRevisionsFor context ((matching context index).map RecallTriggerEntry.contract)).length < 2 ^ 64 := by
    unfold sourceRevisionsFor
    have := length_sortUnique_le (((matching context index).map RecallTriggerEntry.contract).map
      FutureCueContract.sourceRevisionId ++ [context.episodeRevisionId])
    simp only [List.length_append, List.length_map, List.length_singleton] at this
    omega
  have hkey : (utf8 context.checkpoint.stableKey).length ≤ 512 := by
    have := context.checkpoint.boundedText_stableKey
    unfold boundedText maxRecallText at this
    simp only [Bool.and_eq_true, decide_eq_true_eq] at this
    exact this.2
  have hneed : ∃ hash, recallNeedHash H { detectedNeed context nowUs fresh family
      ((matching context index).map RecallTriggerEntry.contract) none with recallPlanFingerprint := fingerprint } =
      .ok hash := by
    unfold recallNeedHash
    refine Plain.sha256 (.sequence (by simp) ?_) H 1 (by decide) (by decide)
    simp only [List.forall_mem_cons, List.not_mem_nil, false_imp_iff, implies_true, and_true, detectedNeed]
    refine ⟨plain_text h.inMemory.1, plain_id _, plain_text (length_asStr_lt family), plain_idTexts hsources, ?_, plain_id _,
      plain_id _, plain_id _, plain_optionalId _, plain_optionalId _, plain_text (by omega), plain_triggerState h,
      .scalar trivial, plain_digest _⟩
    refine .sequence (by simp only [List.length_map]; omega) fun a ha => ?_
    obtain ⟨digest, -, rfl⟩ := List.mem_map.mp ha
    exact plain_digest digest
  obtain ⟨hash, hhash⟩ := hneed
  exact ⟨_, seal_eq_ok.mpr ⟨fingerprint, hash, hfingerprint, hhash, rfl⟩⟩

/-! ## Exactly when the need is detected -/

theorem detection_ready (h : Ready context nowUs) (hsome : matching context index ≠ []) :
    detection context index nowUs =
      if (planFor context .prospectiveObligation ((matching context index).map RecallTriggerEntry.contract)).validate
      then .ok (.record .prospectiveObligation ((matching context index).map RecallTriggerEntry.contract) none)
      else .ok .none := by
  have hnone : (context.needs.filter fun need => need.boundaryEventRef = context.checkpoint.stableKey) = [] := by
    rw [List.filter_eq_nil_iff]
    intro n hn
    simpa using h.unrecorded n hn
  have hguard : ¬(nowUs < 0 ∨ context.checkpoint.validate.toOption.isNone = true ∨
      context.checkpoint.captureGapRefs ≠ [] ∨ context.checkpoint.captureOutageRefs ≠ [] ∨
      context.checkpoint.verifierState = .inconclusive) := by
    rw [h.checkpoint, h.gaps, h.outages]
    simp [h.time, h.verifier, Except.toOption]
  have hfamily : triggerFamilyFor context ((matching context index).map RecallTriggerEntry.contract) =
      some .prospectiveObligation := by
    unfold triggerFamilyFor
    rw [if_pos]
    simpa using hsome
  unfold detection
  rw [if_neg hguard, hnone]
  simp only [List.length_nil, List.head?_nil, Option.bind_none, Option.any_none, gt_iff_lt, Nat.not_lt_zero,
    if_false, contractsFor_matching, hfamily]
  split <;> simp_all

/-- **Detection is complete exactly for revisions in the order of the contract ids.** In a ready context with
one to 31 matching contracts the need for these contracts is detected if and only if the texts of their source
revisions, in the order of the contract ids, are strictly increasing. -/
theorem detects_iff (H : Sha256) (context : RecallCurrentContext) (index : RecallTriggerIndex) (nowUs : Int64)
    (fresh : FreshIds) (h : Ready context nowUs) (hsome : 1 ≤ (matching context index).length)
    (hcount : (matching context index).length ≤ 31) :
    Detects H context index nowUs fresh ↔ ((revisionTexts context index).map utf8).Pairwise (· < ·) := by
  have hne : matching context index ≠ [] := List.ne_nil_of_length_pos (by omega)
  have hdetection := @detection_ready context index nowUs h hne
  rw [← planFor_validate_iff h hcount .prospectiveObligation]
  unfold Detects detectCurrentContext
  rw [hdetection]
  cases hplan : (planFor context .prospectiveObligation
      ((matching context index).map RecallTriggerEntry.contract)).validate with
  | false =>
    refine ⟨fun ⟨need, hneed, _⟩ => ?_, fun hf => by cases hf⟩
    cases hneed
  | true =>
    refine ⟨fun _ => rfl, fun _ => ?_⟩
    have hlist : planList (revisionTexts context index) = true := by
      unfold RecallPlan.validate at hplan
      simp only [planFor, List.all_cons, Bool.and_eq_true, List.map_map, Function.comp_def] at hplan
      unfold planList revisionTexts
      simp only [Bool.and_eq_true, List.map_map, Function.comp_def]
      exact hplan.1.2.1
    obtain ⟨need, hneed⟩ := seal_detected H h hcount .prospectiveObligation fresh hlist
    have hfields := seal_eq_ok.mp hneed
    obtain ⟨fingerprint, hash, -, -, heq⟩ := hfields
    refine ⟨need, ?_, by rw [heq]; rfl, by rw [heq]; simp [detectedNeed]⟩
    rw [if_pos rfl]
    show ((((detectedNeed context nowUs fresh .prospectiveObligation
      ((matching context index).map RecallTriggerEntry.contract) none).seal H).mapError fun _ =>
        DetectError.serialization) >>= _) = _
    rw [hneed]
    rfl

/-- The second contract is that of revision `…02`, whose hash is greater. -/
def orderedIndex : RecallTriggerIndex where
  entries := [⟨firstContract, .task deliverContext.taskId⟩, ⟨resolvedContract, .task deliverContext.taskId⟩]
  sorted := by
    rw [List.pairwise_pair]
    decide

theorem matching_orderedIndex : matching deliverContext orderedIndex = orderedIndex.entries := by
  unfold matching
  rw [List.filter_eq_self]
  simp only [orderedIndex, List.forall_mem_cons, List.not_mem_nil, false_imp_iff, implies_true, and_true]
  decide

/-- Two contracts whose revisions are in the order of their ids are detected. -/
theorem detects_iff_ordered : (matching deliverContext orderedIndex).length = 2 ∧
    ∀ (H : Sha256) (fresh : FreshIds), Detects H deliverContext orderedIndex 5 fresh := by
  have htwo : (matching deliverContext orderedIndex).length = 2 := by
    rw [matching_orderedIndex]
    rfl
  refine ⟨htwo, fun H fresh => ?_⟩
  refine (detects_iff H deliverContext orderedIndex 5 fresh deliver_ready (by omega) (by omega)).mpr ?_
  unfold revisionTexts
  rw [matching_orderedIndex]
  decide +kernel

end EverTrace.L2.Recall
