import EverTrace.L2Machine.CompetingGroup
/-!
# A winner whose evidence does not fit

`select_competing_selected` (evertrace-engine/src/work/attempt.rs:512-567) lists the
members of a group that have won. `resolve_competing_selected` (attempt.rs:635-692)
adds the winner's evidence to what the group has already; a group may hold 64
references (evertrace-domain/src/work/attempt.rs:23-27), the winner brings up to 128,
and where there are more than 64 together the winner that was offered is refused.

Exact condition (`Room`): the group's references and those of the winner are 64 at
most, and neither the generation nor the watermark is at the end of its range.
-/
namespace EverTrace.Bugs.FullEvidence
open EverTrace.Lib EverTrace.L1 EverTrace.L2.Work EverTrace.L2.Store EverTrace.L2.Competing
open EverTrace.L2.AttemptRevision (Attempt)
open EverTrace.L2.Autoresearch (ResultEvidence ExperimentRun)
open EverTrace.L2.Repository (IntegrationEvent)

/-! ## What it is to have won -/

/-- A proven integration that names the attempt. -/
def Integrates (attempt : Attempt) (evidence : CompetingResolutionEvidenceView) (id : IntegrationEventId) : Prop :=
  id ∈ attempt.integrationEventRefs ∧ ∃ event, evidence.integrations.get id = some event
    ∧ event.assessment = .proven ∧ attempt.attemptId ∈ event.integratedAttemptIds

/-- A complete and passed result of the attempt's own run, which is resolved, seen in full, completed and valid. -/
structure Supports (attempt : Attempt) (evidence : CompetingResolutionEvidenceView) (result : ResultEvidence) : Prop where
  scope : result.resultScope = .complete
  complete : result.completeness = .complete
  parsed : result.parserReceipt.status = .parsed
  passed : result.passed = true
  run : ∃ run, evidence.runRevisions.get result.experimentRunRevisionId = some run ∧ run.runId = result.experimentRunId
    ∧ run.attemptBindingStatus = .resolved ∧ run.attemptId = some attempt.attemptId ∧ run.observability = .full
    ∧ run.executionStatus = .completed ∧ run.contractValidity = .valid ∧ run.workstreamId = attempt.workstreamId
    ∧ run.strategyContractFingerprint = attempt.strategyContractFingerprint

/-- A current result that the attempt's verification refers to and that supports it. -/
def Proves (attempt : Attempt) (evidence : CompetingResolutionEvidenceView) (result : ResultEvidence) : Prop :=
  (∃ reference ∈ attempt.parentVerificationRefs, ∃ id, Id.fromStr reference = some id
    ∧ evidence.currentResults.get id = some result) ∧ Supports attempt evidence result

/-- The attempt was integrated and passed, and there is an integration and a result that show it. -/
structure Won (attempt : Attempt) (evidence : CompetingResolutionEvidenceView) : Prop where
  integrated : attempt.adoptionStatus = .integrated
  passed : attempt.verification = .passed
  integration : ∃ id, Integrates attempt evidence id
  result : ∃ result, Proves attempt evidence result

/-- The references that show that an attempt has won. -/
def Shows (attempt : Attempt) (evidence : CompetingResolutionEvidenceView) (reference : String) : Prop :=
  (∃ id, Integrates attempt evidence id ∧ reference = id.toText)
    ∨ ∃ result, Proves attempt evidence result ∧ reference = result.resultEvidenceId.toText

/-- The references of the group and those of the winner are 64 at most. -/
def Room (group : CompetingAttemptGroup) (attempt : Attempt) (evidence : CompetingResolutionEvidenceView) : Prop :=
  ∀ references : List String, references.Nodup →
    (∀ reference ∈ references, reference ∈ group.resolutionEvidenceRefs ∨ Shows attempt evidence reference) →
    references.length ≤ 64

/-! ## The selection lists the winners -/

variable {H : Sha256} {snapshot : ProjectionSnapshot} {group : CompetingAttemptGroup} {attempt : Attempt}
  {attempts : OrdMap AttemptId Attempt} {evidence : CompetingResolutionEvidenceView} {result : ResultEvidence}

theorem mem_integrationIdsOf {id : IntegrationEventId} :
    id ∈ integrationIdsOf attempt evidence ↔ Integrates attempt evidence id := by
  unfold integrationIdsOf Integrates
  rw [mem_sortUnique, List.mem_filter, Option.any_eq_true]
  simp only [Bool.and_eq_true, beq_iff_eq, List.contains_iff_mem]

theorem qualifies_iff : qualifies attempt evidence result = true ↔ Supports attempt evidence result := by
  unfold qualifies
  simp only [Bool.and_eq_true, beq_iff_eq, Option.any_eq_true]
  constructor
  · rintro ⟨⟨⟨⟨hscope, hcomplete⟩, hparsed⟩, hpassed⟩, run, hrun, hfields⟩
    simp only [and_assoc] at hfields
    exact ⟨hscope, hcomplete, hparsed, hpassed, run, hrun, hfields⟩
  · rintro ⟨hscope, hcomplete, hparsed, hpassed, run, hrun, hfields⟩
    refine ⟨⟨⟨⟨hscope, hcomplete⟩, hparsed⟩, hpassed⟩, run, hrun, ?_⟩
    simp only [and_assoc]
    exact hfields

theorem mem_resultIdsOf {id : ResultEvidenceId} :
    id ∈ resultIdsOf attempt evidence ↔ ∃ result, Proves attempt evidence result ∧ result.resultEvidenceId = id := by
  unfold resultIdsOf Proves
  simp only [mem_sortUnique, List.mem_map, List.mem_filter, List.mem_filterMap, qualifies_iff]
  constructor
  · rintro ⟨result, ⟨⟨key, ⟨reference, href, hkey⟩, hget⟩, hsupports⟩, hid⟩
    exact ⟨result, ⟨⟨reference, href, key, hkey, hget⟩, hsupports⟩, hid⟩
  · rintro ⟨result, ⟨⟨reference, href, key, hkey, hget⟩, hsupports⟩, hid⟩
    exact ⟨result, ⟨⟨key, ⟨reference, href, hkey⟩, hget⟩, hsupports⟩, hid⟩

theorem isEmpty_eq_false {α : Type} {l : List α} : l.isEmpty = false ↔ ∃ a, a ∈ l := by
  cases l <;> simp

/-- The evidence of a candidate is there exactly if it has won, and it is what shows that. -/
theorem evidence_iff {references : List String} : competingSelectedEvidence attempt evidence = some references ↔
    Won attempt evidence ∧ references = sortUnique ((integrationIdsOf attempt evidence).map Id.toText
      ++ (resultIdsOf attempt evidence).map Id.toText) := by
  unfold competingSelectedEvidence
  split
  · next hstatus =>
    rw [Bool.or_eq_true, bne_iff_ne, bne_iff_ne] at hstatus
    refine ⟨fun h => (by cases h), fun h => ?_⟩
    rcases hstatus with hadoption | hverification
    · exact absurd h.1.integrated hadoption
    · exact absurd h.1.passed hverification
  · next hstatus =>
    rw [Bool.or_eq_true, bne_iff_ne, bne_iff_ne, not_or, not_not, not_not] at hstatus
    split
    · next hempty =>
      refine ⟨fun h => (by cases h), fun h => ?_⟩
      obtain ⟨id, hid⟩ := h.1.integration
      obtain ⟨result, hresult⟩ := h.1.result
      rw [Bool.or_eq_true, List.isEmpty_iff, List.isEmpty_iff] at hempty
      rcases hempty with hempty | hempty
      · have hmem := mem_integrationIdsOf.mpr hid
        rw [hempty] at hmem
        cases hmem
      · have hmem := mem_resultIdsOf.mpr ⟨result, hresult, rfl⟩
        rw [hempty] at hmem
        cases hmem
    · next hempty =>
      rw [Bool.or_eq_true, not_or, Bool.not_eq_true, Bool.not_eq_true, isEmpty_eq_false, isEmpty_eq_false] at hempty
      obtain ⟨⟨id, hid⟩, resultId, hresultId⟩ := hempty
      obtain ⟨result, hresult, -⟩ := mem_resultIdsOf.mp hresultId
      have hwon : Won attempt evidence :=
        ⟨hstatus.1, hstatus.2, ⟨id, mem_integrationIdsOf.mp hid⟩, result, hresult⟩
      rw [Option.some.injEq]
      exact ⟨fun h => ⟨hwon, h.symm⟩, fun h => h.2.symm⟩

theorem mem_evidence {references : List String} (h : competingSelectedEvidence attempt evidence = some references)
    {reference : String} : reference ∈ references ↔ Shows attempt evidence reference := by
  obtain ⟨-, rfl⟩ := evidence_iff.mp h
  unfold Shows
  simp only [mem_sortUnique, List.mem_append, List.mem_map, mem_integrationIdsOf, mem_resultIdsOf]
  constructor
  · rintro (⟨id, hid, rfl⟩ | ⟨_, ⟨result, hresult, rfl⟩, rfl⟩)
    · exact .inl ⟨id, hid, rfl⟩
    · exact .inr ⟨result, hresult, rfl⟩
  · rintro (⟨id, hid, rfl⟩ | ⟨result, hresult, rfl⟩)
    · exact .inl ⟨id, hid, rfl⟩
    · exact .inr ⟨_, ⟨result, hresult, rfl⟩, rfl⟩

theorem mem_candidatesOf {candidate : CompetingSelectedCandidate} : candidate ∈ candidatesOf group attempts evidence ↔
    candidate.attemptId ∈ group.memberAttemptIds ∧ ∃ attempt, attempts.get candidate.attemptId = some attempt
      ∧ competingSelectedEvidence attempt evidence = some candidate.evidenceRefs := by
  unfold candidatesOf
  rw [List.mem_filterMap]
  constructor
  · rintro ⟨attemptId, hmem, h⟩
    simp only [Option.bind_eq_bind, Option.bind_eq_some_iff, Option.pure_def, Option.some.injEq] at h
    obtain ⟨attempt, hget, refs, hrefs, rfl⟩ := h
    exact ⟨hmem, attempt, hget, hrefs⟩
  · rintro ⟨hmem, attempt, hget, hrefs⟩
    refine ⟨candidate.attemptId, hmem, ?_⟩
    simp only [Option.bind_eq_bind, Option.bind_eq_some_iff, Option.pure_def, Option.some.injEq]
    exact ⟨attempt, hget, candidate.evidenceRefs, hrefs, rfl⟩

theorem filterMap_sublist {α β : Type} {f : α → Option β} {key : β → α} (h : ∀ a b, f a = some b → key b = a) :
    ∀ l : List α, ((l.filterMap f).map key).Sublist l := by
  intro l
  induction l with
  | nil => exact .slnil
  | cons a rest ih =>
    cases ha : f a with
    | none =>
      rw [List.filterMap_cons_none ha]
      exact ih.cons a
    | some b =>
      rw [List.filterMap_cons_some ha, List.map_cons, h a b ha]
      exact ih.cons_cons a

theorem candidates_nodup (h : group.memberAttemptIds.Nodup) :
    ((candidatesOf group attempts evidence).map CompetingSelectedCandidate.attemptId).Nodup := by
  refine (filterMap_sublist (fun attemptId candidate hpicked => ?_) group.memberAttemptIds).nodup h
  simp only [Option.bind_eq_bind, Option.bind_eq_some_iff, Option.pure_def, Option.some.injEq] at hpicked
  obtain ⟨_, -, _, -, rfl⟩ := hpicked
  rfl

theorem find?_of_mem {candidates : List CompetingSelectedCandidate} {candidate : CompetingSelectedCandidate}
    (hnodup : (candidates.map CompetingSelectedCandidate.attemptId).Nodup) (hmem : candidate ∈ candidates) :
    candidates.find? (fun other => other.attemptId == candidate.attemptId) = some candidate := by
  have hfound : (candidates.find? fun other => other.attemptId == candidate.attemptId).isSome = true := by
    rw [List.find?_isSome]
    exact ⟨candidate, hmem, by simp⟩
  obtain ⟨other, hother⟩ := Option.isSome_iff_exists.mp hfound
  have hsame : other.attemptId = candidate.attemptId := by simpa using List.find?_some hother
  rw [hother, List.inj_on_of_nodup_map hnodup (List.mem_of_find?_eq_some hother) hmem hsame]

/-! ## What is read -/

/-- The members of a group and their evidence, as the rows of a snapshot have them. -/
structure ReadsAs (H : Sha256) (snapshot : ProjectionSnapshot) (group : CompetingAttemptGroup)
    (attempts : OrdMap AttemptId Attempt) (evidence : CompetingResolutionEvidenceView) : Prop where
  view : ∃ view, forCompetingGroup H snapshot group.competingGroupId = .ok view ∧ view.attempts = attempts
    ∧ view.competingGroups.get group.competingGroupId = some group
  evidence : ∃ members, group.memberAttemptIds.mapM attempts.get = some members
    ∧ forAttempts H snapshot members = .ok evidence

theorem check_valid {α : Type} {r : LineageRules α} : ∀ {revisions : List α} {previous : Option α} {index : Nat},
    r.check previous index revisions = .ok () → ∀ revision ∈ revisions, r.validate revision = .ok () := by
  intro revisions
  induction revisions with
  | nil =>
    intro previous index _ revision hmem
    cases hmem
  | cons first rest ih =>
    intro previous index h revision hmem
    simp only [LineageRules.check, bind_eq_ok, mapError_ok] at h
    obtain ⟨_, hvalid, _, -, _, -, hrest⟩ := h
    rcases List.mem_cons.mp hmem with rfl | hmem
    · exact hvalid
    · exact ih hrest revision hmem

theorem current_valid {α : Type} {r : LineageRules α} {revisions : List α} {value : α}
    (h : r.current revisions = .ok value) : value ∈ revisions ∧ r.validate value = .ok () := by
  simp only [LineageRules.current, bind_eq_ok, okOr_ok] at h
  obtain ⟨_, hcheck, hlast⟩ := h
  have hmem := List.mem_of_getLast? hlast
  exact ⟨(sortByKey_perm r.generation revisions).mem_iff.mp hmem, check_valid hcheck value hmem⟩

theorem groupRevisions_id {groupId : CompetingAttemptGroupId} {revisions : List CompetingAttemptGroup}
    (h : groupRevisions snapshot groupId = .ok revisions) : ∀ value ∈ revisions, value.competingGroupId = groupId := by
  intro value hmem
  obtain ⟨row, -, hrow⟩ := (mem_mapM_ok h).mp hmem
  simp only [bind_eq_ok, ensure_ok, pure_eq_ok, Bool.and_eq_true, beq_iff_eq] at hrow
  obtain ⟨read, -, _, ⟨hid, -⟩, rfl⟩ := hrow
  exact hid

theorem forCompetingGroup_group {groupId : CompetingAttemptGroupId} {view : AttemptCurrentView}
    (h : forCompetingGroup H snapshot groupId = .ok view) (hgroup : view.competingGroups.get groupId = some group) :
    group.competingGroupId = groupId ∧ group.validate = .ok () := by
  simp only [forCompetingGroup, bind_eq_ok, pure_eq_ok] at h
  obtain ⟨revisions, hrevisions, read, hread, _, -, _, -, rfl⟩ := h
  rw [OrdMap.get_insert_self] at hgroup
  cases hgroup
  obtain ⟨hmem, hvalid⟩ := current_valid hread
  exact ⟨groupRevisions_id hrevisions _ hmem, hvalid⟩

/-- What a selection rests on. -/
theorem of_selected {expected : RevisionId} {selection : CompetingSelectedSelection}
    (h : selectCompetingSelected H snapshot expected = .ok (.available selection)) :
    selection.group.validate = .ok ()
      ∧ (selection.group.resolutionStatus = .open_ ∨ selection.group.resolutionStatus = .unresolved)
      ∧ selection.candidates ≠ []
      ∧ ∃ attempts evidence, ReadsAs H snapshot selection.group attempts evidence
        ∧ selection.candidates = candidatesOf selection.group attempts evidence := by
  simp only [selectCompetingSelected, bind_eq_ok, mapError_ok, okOr_ok] at h
  obtain ⟨_, -, groupId, -, view, hview, group, hgroup, h⟩ := h
  obtain ⟨hid, hvalid⟩ := forCompetingGroup_group hview hgroup
  split at h
  · cases h
  · split at h
    · cases h
    · next hstatus =>
      rw [Bool.and_eq_true, bne_iff_ne, bne_iff_ne, not_and_or, not_not, not_not] at hstatus
      simp only [bind_eq_ok, mapError_ok, okOr_ok] at h
      obtain ⟨members, hmembers, evidence, hevidence, h⟩ := h
      split at h
      · cases h
      · next hsome =>
        cases h
        subst hid
        rw [List.isEmpty_iff] at hsome
        exact ⟨hvalid, hstatus, hsome, view.attempts, evidence, ⟨⟨view, hview, rfl, hgroup⟩, members, hmembers, hevidence⟩, rfl⟩

/-! ## The choice -/

theorem bounded_toText {family : Family} (id : Id family) : bounded id.toText = true := by
  have hlength := length_toText_le id
  have hsize := length_utf8_le id.toText
  have hbytes : (utf8 id.toText).length = id.toText.utf8ByteSize := by simp [utf8]
  have hblank : blank id.toText = false := by
    unfold blank Id.toText
    rw [Bool.eq_false_iff]
    intro hall
    have hmem : '-' ∈ (family.tag ++ String.ofList id.uuid.hyphenated).toList := by
      simp [Uuid.hyphenated]
    exact absurd (List.all_eq_true.mp hall _ hmem) (by decide)
  rw [bounded, boundedBy, hblank]
  simp only [Bool.not_false, Bool.true_and, decide_eq_true_eq]
  omega

def chosenRevision (fresh : RevisionId) (group : CompetingAttemptGroup) (attemptId : AttemptId) (references : List String)
    (watermark : Nat) : CompetingAttemptGroup :=
  { group with
    predecessorRevisionId := some group.revisionId
    revisionId := fresh
    revisionGeneration := group.revisionGeneration + 1
    resolutionStatus := .selected
    selectedAttemptId := some attemptId
    partiallyIntegratedAttemptIds := []
    resolutionEvidenceRefs := references
    sourceWatermark := watermark }

section Choice

variable {fresh : RevisionId} {attemptId : AttemptId} {references : List String} {watermark : Nat}

/-- A valid group stays valid with an attempt of its own selected, exactly if the references fit. -/
theorem chosen_validate (hvalid : group.validate = .ok ()) (hmember : attemptId ∈ group.memberAttemptIds)
    (hne : references ≠ []) (hbounded : ∀ reference ∈ references, bounded reference = true)
    (hsorted : references.Pairwise (· < ·)) (hwatermark : group.sourceWatermark < watermark) :
    (chosenRevision fresh group attemptId references watermark).validate = .ok () ↔ references.length ≤ 64 := by
  have hrefs : refs references = true ↔ references.length ≤ 64 := by
    rw [refs_iff]
    exact ⟨fun h => h.1, fun h => ⟨h, hbounded, hsorted⟩⟩
  rw [CompetingAttemptGroup.validate, ensure_ok] at hvalid
  simp only [Bool.and_eq_true, and_assoc] at hvalid
  obtain ⟨hgeneration, hmark, -, hboundary, hcontract, horigin, htwo, hmembers, hworkstreams, hsnapshots, htargets, -, -, -,
    -, -⟩ := hvalid
  have hnumber : ((group.revisionGeneration + 1 == 1) == false) = true := by
    rw [bne_iff_ne] at hgeneration
    simp [hgeneration]
  have hlate : (watermark != 0) = true := by
    rw [bne_iff_ne]
    omega
  have hcontains : group.memberAttemptIds.contains attemptId = true := List.contains_iff_mem.mpr hmember
  have hclosed : (chosenRevision fresh group attemptId references watermark).closed = true := by
    simp [CompetingAttemptGroup.closed, chosenRevision, hne]
  rw [CompetingAttemptGroup.validate, ensure_ok, hclosed, ← hrefs]
  simp only [chosenRevision, Option.isNone_some, hnumber, hlate, hboundary, hcontract, horigin, hmembers, hworkstreams,
    hsnapshots, htargets, List.all_nil, Option.all_some, hcontains, Bool.and_true]
  have hnone : strictlyOrderedUnique ([] : List AttemptId) = true := rfl
  simp [hnone]
  exact fun _ => htwo

theorem chosen_follows (hvalid : group.validate = .ok ())
    (hnext : (chosenRevision fresh group attemptId references watermark).validate = .ok ())
    (hstatus : group.resolutionStatus = .open_ ∨ group.resolutionStatus = .unresolved)
    (hroom : group.revisionGeneration + 1 < 2 ^ 64) (hfresh : fresh ≠ group.revisionId)
    (hwatermark : group.sourceWatermark < watermark) (hkeeps : group.resolutionEvidenceRefs ⊆ references) :
    group.validateSuccessor (chosenRevision fresh group attemptId references watermark) = .ok () := by
  have hsucc : okOr WorkError.invalidWorkIdentity (checkedSucc 64 group.revisionGeneration)
      = .ok (group.revisionGeneration + 1) := okOr_ok.mpr (checkedSucc_eq_some.mpr ⟨hroom, rfl⟩)
  have htransition : group.transitionOk (chosenRevision fresh group attemptId references watermark) = true := by
    rcases hstatus with h | h <;> simp [CompetingAttemptGroup.transitionOk, chosenRevision, h]
  have hprogress : group.partialProgress (chosenRevision fresh group attemptId references watermark) = true := by
    simp [CompetingAttemptGroup.partialProgress, chosenRevision]
  have hkept : group.resolutionEvidenceRefs.all
      (chosenRevision fresh group attemptId references watermark).resolutionEvidenceRefs.contains = true := by
    rw [List.all_eq_true]
    exact fun reference hmem => List.contains_iff_mem.mpr (hkeeps hmem)
  rw [CompetingAttemptGroup.validateSuccessor, hvalid, ok_bind, hnext, ok_bind, hsucc, ok_bind, ensure_ok, htransition,
    hprogress, hkept]
  simp [chosenRevision, hfresh, hwatermark]

/-- Choosing makes the revision if it is valid and there is room for it, and fails otherwise. -/
theorem resolveCompetingGroup_iff (hvalid : group.validate = .ok ())
    (hstatus : group.resolutionStatus = .open_ ∨ group.resolutionStatus = .unresolved) (hfresh : fresh ≠ group.revisionId)
    (hwatermark : group.sourceWatermark < watermark) (hkeeps : group.resolutionEvidenceRefs ⊆ references)
    {next : CompetingAttemptGroup} :
    resolveCompetingGroup fresh group .selected (some attemptId) [] references watermark = .ok (some next) ↔
      group.revisionGeneration + 1 < 2 ^ 64
        ∧ (chosenRevision fresh group attemptId references watermark).validate = .ok ()
        ∧ next = chosenRevision fresh group attemptId references watermark := by
  have hchange : ¬(group.resolutionStatus = .selected ∧ group.selectedAttemptId = some attemptId
      ∧ group.partiallyIntegratedAttemptIds = [] ∧ group.resolutionEvidenceRefs = references) := by
    rintro ⟨h, -⟩
    rcases hstatus with h' | h' <;> exact absurd (h'.symm.trans h) (by decide)
  rw [resolveCompetingGroup, if_neg hchange]
  simp only [bind_eq_ok, ensure_ok, okOr_ok, checkedSucc_eq_some, mapError_ok, groupCommand, pure_eq_ok]
  constructor
  · rintro ⟨_, -, generation, ⟨hroom, rfl⟩, _, -, _, ⟨_, hnext, rfl⟩, h⟩
    exact ⟨hroom, hnext, (Option.some.inj h).symm⟩
  · rintro ⟨hroom, hnext, rfl⟩
    exact ⟨(), decide_eq_true hwatermark, _, ⟨hroom, rfl⟩, (),
      chosen_follows hvalid hnext hstatus hroom hfresh hwatermark hkeeps, _, ⟨(), hnext, rfl⟩, rfl⟩

end Choice

/-! ## The claim -/

/-- A revision that selects the candidate: it follows the group, keeps its references and adds the candidate's. -/
structure Chosen (group : CompetingAttemptGroup) (candidate : CompetingSelectedCandidate) (next : CompetingAttemptGroup) :
    Prop where
  follows : group.validateSuccessor next = .ok ()
  selected : next.resolutionStatus = .selected ∧ next.selectedAttemptId = some candidate.attemptId
  references : ∀ reference, reference ∈ next.resolutionEvidenceRefs
    ↔ reference ∈ group.resolutionEvidenceRefs ∨ reference ∈ candidate.evidenceRefs

/-- Every candidate that is offered can be chosen. -/
def Choosable (H : Sha256) (fresh : RevisionId) (snapshot : ProjectionSnapshot) (expected : RevisionId)
    (selection : CompetingSelectedSelection) : Prop :=
  ∀ candidate ∈ selection.candidates, ∃ next,
    resolveCompetingSelected H fresh snapshot expected candidate.attemptId = .ok (.revision next)
      ∧ Chosen selection.group candidate next

/-- The members that are offered are those that have won, with the references that show it. -/
def Exact (selection : CompetingSelectedSelection) (attempts : OrdMap AttemptId Attempt)
    (evidence : CompetingResolutionEvidenceView) : Prop :=
  (∀ attemptId, attemptId ∈ selection.candidates.map CompetingSelectedCandidate.attemptId ↔
      attemptId ∈ selection.group.memberAttemptIds ∧ ∃ attempt, attempts.get attemptId = some attempt ∧ Won attempt evidence)
    ∧ ∀ candidate ∈ selection.candidates, ∃ attempt, attempts.get candidate.attemptId = some attempt
      ∧ ∀ reference, reference ∈ candidate.evidenceRefs ↔ Shows attempt evidence reference

theorem exact_candidatesOf (group : CompetingAttemptGroup) (attempts : OrdMap AttemptId Attempt)
    (evidence : CompetingResolutionEvidenceView) : Exact ⟨group, candidatesOf group attempts evidence⟩ attempts evidence := by
  refine ⟨fun attemptId => ?_, fun candidate hmem => ?_⟩
  · rw [List.mem_map]
    constructor
    · rintro ⟨candidate, hmem, rfl⟩
      obtain ⟨hmember, attempt, hget, hrefs⟩ := mem_candidatesOf.mp hmem
      exact ⟨hmember, attempt, hget, (evidence_iff.mp hrefs).1⟩
    · rintro ⟨hmember, attempt, hget, hwon⟩
      exact ⟨⟨attemptId, _⟩, mem_candidatesOf.mpr ⟨hmember, attempt, hget, evidence_iff.mpr ⟨hwon, rfl⟩⟩, rfl⟩
  · obtain ⟨-, attempt, hget, hrefs⟩ := mem_candidatesOf.mp hmem
    exact ⟨attempt, hget, fun reference => mem_evidence hrefs⟩

theorem room_iff {references : List String} (h : competingSelectedEvidence attempt evidence = some references) :
    (sortUnique (group.resolutionEvidenceRefs ++ references)).length ≤ 64 ↔ Room group attempt evidence := by
  have hmem : ∀ reference, reference ∈ sortUnique (group.resolutionEvidenceRefs ++ references)
      ↔ reference ∈ group.resolutionEvidenceRefs ∨ Shows attempt evidence reference := by
    intro reference
    rw [mem_sortUnique, List.mem_append, mem_evidence h]
  constructor
  · intro hle others hnodup hothers
    have hsub : others ⊆ sortUnique (group.resolutionEvidenceRefs ++ references) := fun reference hreference =>
      (hmem reference).mpr (hothers reference hreference)
    exact ((List.subperm_of_subset hnodup hsub).length_le).trans hle
  · intro hroom
    exact hroom _ (sortUnique_nodup _) fun reference hreference => (hmem reference).mp hreference

theorem resolve_iff {fresh expected : RevisionId} {selection : CompetingSelectedSelection}
    (hselect : selectCompetingSelected H snapshot expected = .ok (.available selection))
    (hcandidates : selection.candidates = candidatesOf selection.group attempts evidence)
    (hfresh : fresh ≠ selection.group.revisionId) {candidate : CompetingSelectedCandidate}
    (hmem : candidate ∈ selection.candidates) :
    (∃ next, resolveCompetingSelected H fresh snapshot expected candidate.attemptId = .ok (.revision next)
        ∧ Chosen selection.group candidate next) ↔
      (sortUnique (selection.group.resolutionEvidenceRefs ++ candidate.evidenceRefs)).length ≤ 64
        ∧ selection.group.revisionGeneration + 1 < 2 ^ 64
        ∧ max snapshot.frontier selection.group.sourceWatermark + 1 < 2 ^ 64 := by
  obtain ⟨hvalid, hstatus, -⟩ := of_selected hselect
  obtain ⟨hmember, attempt, -, hrefs⟩ := mem_candidatesOf.mp (hcandidates ▸ hmem)
  have hfields := hvalid
  rw [CompetingAttemptGroup.validate, ensure_ok] at hfields
  simp only [Bool.and_eq_true, and_assoc] at hfields
  obtain ⟨-, -, -, -, -, -, -, hmembers, -, -, -, holdRefs, -⟩ := hfields
  have hnodup : (selection.candidates.map CompetingSelectedCandidate.attemptId).Nodup := by
    rw [hcandidates]
    exact candidates_nodup ((ids_iff.mp hmembers).2.imp fun h => ne_of_lt h)
  have hfind : okOr WorkIdentityError.invalidInput
      (selection.candidates.find? fun other => other.attemptId == candidate.attemptId) = .ok candidate :=
    okOr_ok.mpr (find?_of_mem hnodup hmem)
  have hbounded : ∀ reference ∈ sortUnique (selection.group.resolutionEvidenceRefs ++ candidate.evidenceRefs),
      bounded reference = true := by
    intro reference hreference
    rw [mem_sortUnique, List.mem_append, mem_evidence hrefs] at hreference
    rcases hreference with hold | ⟨id, -, rfl⟩ | ⟨result, -, rfl⟩
    · exact (refs_iff.mp holdRefs).2.1 reference hold
    · exact bounded_toText id
    · exact bounded_toText _
  have hne : sortUnique (selection.group.resolutionEvidenceRefs ++ candidate.evidenceRefs) ≠ [] := by
    obtain ⟨id, hid⟩ := (evidence_iff.mp hrefs).1.integration
    have hshown : id.toText ∈ candidate.evidenceRefs := (mem_evidence hrefs).mpr (.inl ⟨id, hid, rfl⟩)
    exact List.ne_nil_of_mem (mem_sortUnique.mpr (List.mem_append_right _ hshown))
  have hkeeps : selection.group.resolutionEvidenceRefs
      ⊆ sortUnique (selection.group.resolutionEvidenceRefs ++ candidate.evidenceRefs) := fun reference hreference =>
    mem_sortUnique.mpr (List.mem_append_left _ hreference)
  have hwatermark : selection.group.sourceWatermark < max snapshot.frontier selection.group.sourceWatermark + 1 := by
    omega
  have hresolve : ∀ next, resolveCompetingSelected H fresh snapshot expected candidate.attemptId = .ok (.revision next) ↔
      max snapshot.frontier selection.group.sourceWatermark + 1 < 2 ^ 64
        ∧ selection.group.revisionGeneration + 1 < 2 ^ 64
        ∧ (sortUnique (selection.group.resolutionEvidenceRefs ++ candidate.evidenceRefs)).length ≤ 64
        ∧ next = chosenRevision fresh selection.group candidate.attemptId
          (sortUnique (selection.group.resolutionEvidenceRefs ++ candidate.evidenceRefs))
          (max snapshot.frontier selection.group.sourceWatermark + 1) := by
    intro next
    unfold resolveCompetingSelected
    rw [hselect, ok_bind]
    dsimp only
    rw [hfind, ok_bind]
    simp only [bind_eq_ok, okOr_ok, checkedSucc_eq_some, groupCommand, mapError_ok, pure_eq_ok,
      CompetingSelectedResolution.revision.injEq]
    constructor
    · rintro ⟨watermark, ⟨hroom, rfl⟩, _, hgroup, made, rfl, other, ⟨_, -, rfl⟩, rfl⟩
      obtain ⟨hnumber, hnext, rfl⟩ := (resolveCompetingGroup_iff hvalid hstatus hfresh hwatermark hkeeps).mp hgroup
      exact ⟨hroom, hnumber, (chosen_validate hvalid hmember hne hbounded (sortUnique_pairwise _) hwatermark).mp hnext, rfl⟩
    · rintro ⟨hroom, hnumber, hfits, rfl⟩
      have hnext := (@chosen_validate selection.group fresh _ _ _ hvalid hmember hne hbounded (sortUnique_pairwise _)
        hwatermark).mpr hfits
      exact ⟨_, ⟨hroom, rfl⟩, _,
        (resolveCompetingGroup_iff hvalid hstatus hfresh hwatermark hkeeps).mpr ⟨hnumber, hnext, rfl⟩, _, rfl, _,
        ⟨(), hnext, rfl⟩, rfl⟩
  constructor
  · rintro ⟨next, hnext, -⟩
    obtain ⟨hroom, hnumber, hfits, -⟩ := (hresolve next).mp hnext
    exact ⟨hfits, hnumber, hroom⟩
  · rintro ⟨hfits, hnumber, hroom⟩
    refine ⟨_, (hresolve _).mpr ⟨hroom, hnumber, hfits, rfl⟩, ?_, ⟨rfl, rfl⟩, fun reference => ?_⟩
    · have hnext := (@chosen_validate selection.group fresh _ _ _ hvalid hmember hne hbounded (sortUnique_pairwise _)
        hwatermark).mpr hfits
      exact chosen_follows hvalid hnext hstatus hnumber hfresh hwatermark hkeeps
    · show reference ∈ sortUnique _ ↔ _
      rw [mem_sortUnique, List.mem_append]

/-- **Every winner that is offered can be chosen if and only if there is room for its references.** The members offered
are always those that have won. -/
theorem choosable_iff (H : Sha256) (fresh : RevisionId) (snapshot : ProjectionSnapshot) (expected : RevisionId)
    (selection : CompetingSelectedSelection)
    (hselect : selectCompetingSelected H snapshot expected = .ok (.available selection))
    (hfresh : fresh ≠ selection.group.revisionId) :
    ∃ attempts evidence, ReadsAs H snapshot selection.group attempts evidence
      ∧ (Choosable H fresh snapshot expected selection ∧ Exact selection attempts evidence ↔
        (∀ attemptId ∈ selection.group.memberAttemptIds, ∀ attempt, attempts.get attemptId = some attempt →
            Won attempt evidence → Room selection.group attempt evidence)
          ∧ selection.group.revisionGeneration + 1 < 2 ^ 64
          ∧ max snapshot.frontier selection.group.sourceWatermark + 1 < 2 ^ 64) := by
  obtain ⟨-, -, hne, attempts, evidence, hreads, hcandidates⟩ := of_selected hselect
  refine ⟨attempts, evidence, hreads, ?_⟩
  have hexact : Exact selection attempts evidence := by
    have h := exact_candidatesOf selection.group attempts evidence
    rw [← hcandidates] at h
    exact h
  constructor
  · rintro ⟨hchoosable, -⟩
    have hfits := fun candidate hmem => (resolve_iff hselect hcandidates hfresh hmem).mp (hchoosable candidate hmem)
    obtain ⟨first, hfirst⟩ := List.exists_mem_of_ne_nil _ hne
    refine ⟨fun attemptId hmember attempt hget hwon => ?_, (hfits first hfirst).2⟩
    obtain ⟨references, hrefs⟩ : ∃ references, competingSelectedEvidence attempt evidence = some references :=
      ⟨_, evidence_iff.mpr ⟨hwon, rfl⟩⟩
    have hmem : ⟨attemptId, references⟩ ∈ selection.candidates := by
      rw [hcandidates]
      exact mem_candidatesOf.mpr ⟨hmember, attempt, hget, hrefs⟩
    exact (room_iff hrefs).mp (hfits _ hmem).1
  · rintro ⟨hroom, hnumbers⟩
    refine ⟨fun candidate hmem => (resolve_iff hselect hcandidates hfresh hmem).mpr ⟨?_, hnumbers⟩, hexact⟩
    obtain ⟨hmember, attempt, hget, hrefs⟩ := mem_candidatesOf.mp (hcandidates ▸ hmem)
    exact (room_iff hrefs).mpr (hroom _ hmember attempt hget (evidence_iff.mp hrefs).1)

/-! ## A full group -/

def sampleMember : AttemptId := ⟨0x70008000000000000001⟩

def sampleOther : AttemptId := ⟨0x70008000000000000002⟩

def sampleIntegration : IntegrationEventId := ⟨0x70008000000000000003⟩

def sampleResultId : ResultEvidenceId := ⟨0x70008000000000000004⟩

def sampleGroupId : CompetingAttemptGroupId := ⟨0x70008000000000000005⟩

def zeroDigest : Digest := ⟨List.replicate 32 0, length_zeros⟩

def sampleGroup (references : List String) : CompetingAttemptGroup where
  competingGroupId := sampleGroupId
  revisionId := ⟨1⟩
  predecessorRevisionId := none
  revisionGeneration := 1
  taskId := ⟨2⟩
  decisionBoundaryRef := "boundary:1"
  comparisonContractRef := none
  originWorkstreamId := none
  originEpisodeId := none
  memberWorkstreamIds := [⟨3⟩]
  memberAttemptIds := [sampleMember, sampleOther]
  candidateSnapshotRefs := [⟨sampleMember, ⟨3⟩, ⟨4⟩⟩]
  targetRefs := ["target:1"]
  conflictKind := .alternativeStrategy
  resolutionStatus := .unresolved
  selectedAttemptId := none
  partiallyIntegratedAttemptIds := []
  resolutionEvidenceRefs := references
  sourceWatermark := 1

/-- A member that tries out something on its own. -/
def sampleAttempt (attemptId : AttemptId) (revisionId : RevisionId) : Attempt where
  attemptId := attemptId
  revisionId := revisionId
  predecessorRevisionId := none
  revisionGeneration := 1
  taskId := ⟨2⟩
  workstreamId := ⟨3⟩
  episodeId := none
  repositoryInstanceId := none
  worktreeInstanceIds := []
  executionLaneIds := [⟨6⟩]
  competingGroupIds := [sampleGroupId]
  experimentRunIds := []
  executionStatus := .active
  adoptionStatus := .none
  verification := .unverified
  lifecycleStatus := .active
  strategyContract := L2.AttemptRevision.sampleContract
  strategyContractFingerprint := zeroDigest
  resumesFromAttemptId := none
  composedFromAttemptIds := []
  resumeEventRefs := []
  resumeStateAssessment := none
  resumeSourceSnapshotId := none
  resumeTargetSnapshotId := none
  worktreeTransitionRefs := []
  integrationEventRefs := []
  recoveryBundleRefs := []
  recoveryApplicationRefs := []
  workBindingRevisionRefs := []
  localOutcomeRefs := []
  parentVerificationRefs := []
  outcomeRefs := []
  outcomeState := .unknown
  interruptionRefs := []
  interruptionReason := none
  explicitAbandonRefs := []
  supersedeEvidenceRefs := []
  failureSignature := none
  sourceWatermark := 1

/-- The member that was integrated and passed. -/
def sampleWinner : Attempt :=
  { sampleAttempt sampleMember ⟨7⟩ with
    executionStatus := .completed
    adoptionStatus := .integrated
    verification := .passed
    integrationEventRefs := [sampleIntegration]
    parentVerificationRefs := [sampleResultId.toText] }

def sampleEvent : IntegrationEvent where
  integrationEventId := sampleIntegration
  repositoryInstanceId := ⟨1⟩
  sourceWorktreeInstanceId := ⟨1⟩
  sourceSnapshotId := ⟨1⟩
  destinationWorktreeInstanceId := ⟨2⟩
  destinationSnapshotId := ⟨2⟩
  kind := .squash
  commitRefs := []
  patchEquivalenceRefs := ["patch:1"]
  conflictResolutionDetected := false
  integratedAttemptIds := [sampleMember]
  revalidatedAnchorRefs := []
  evidenceRefs := ["evidence:1"]
  assessment := .proven

def sampleExperiment : ExperimentRun where
  runId := ⟨1⟩
  revisionId := ⟨8⟩
  parentRevisionId := none
  workstreamId := ⟨3⟩
  attemptId := some sampleMember
  attemptBindingStatus := .resolved
  strategyContractFingerprint := zeroDigest
  origin := .local_
  externalSystemId := none
  externalRunKey := none
  sourceReceiptRefs := [⟨1⟩]
  observability := .full
  executionStatus := .completed
  contractValidity := .valid
  experimentContractFingerprint := zeroDigest
  codeSnapshotId := ⟨1⟩
  dataFingerprint := "d"
  normalizedConfig := []
  variableDeclaration := { varied := [], fixed := [], uncontrolled := [] }
  comparisonKey := zeroDigest
  seedPolicy := .unspecified
  seedValues := []
  nondeterministic := true
  metricDefinition := "m"
  metricExtractorVersion := "x"
  multiCasMetricPolicy := .rejectMultipleParsed
  environmentFingerprint := "e"
  comparisonExecutionBinding := none
  workArtifactRefs := []
  terminalEvidenceRefs := []
  createdAtUs := 0
  startedAtUs := none
  endedAtUs := some 1

def sampleResult : ResultEvidence where
  resultEvidenceId := sampleResultId
  revisionId := ⟨9⟩
  parentRevisionId := none
  experimentRunId := ⟨1⟩
  experimentRunRevisionId := ⟨8⟩
  resultScope := .complete
  rawArtifactRefs := [⟨1⟩]
  rawCasRefs := []
  parsedMetric := some { decimal := "1", unit := "u", uncertaintyDecimal := none }
  parserReceipt := { parserVersion := "p", inputArtifactRefs := [⟨1⟩], inputCasRefs := [], status := .parsed, failureCode := none }
  verifierReceipt := some { verifierVersion := "v", status := .passed, failureCode := none }
  completeness := .complete
  failure := none
  createdAtUs := 1

def sampleRow (rowId kind objectId : String) (revision : Option String) (payload : WorkPayload) : WorkRow where
  rowId := rowId
  rowKind := .data
  rowClass := none
  objectFamily := none
  objectKind := some kind
  objectId := some objectId
  currentRevisionId := revision
  lifecycle := none
  authority := none
  repositoryId := none
  payload := some payload
  sourceEventSeq := 1
  projectionGeneration := 1

def sampleSnapshot (references : List String) : ProjectionSnapshot where
  frontier := 5
  rows :=
    [sampleRow (groupRowId ⟨1⟩) "competing_attempt_group" sampleGroupId.toText (some (⟨1⟩ : RevisionId).toText)
      (.competingAttemptGroupRecorded (sampleGroup references)),
      sampleRow (attemptRowId ⟨7⟩) "attempt" sampleMember.toText (some (⟨7⟩ : RevisionId).toText)
        (.attemptRecorded sampleWinner),
      sampleRow (attemptRowId ⟨10⟩) "attempt" sampleOther.toText (some (⟨10⟩ : RevisionId).toText)
        (.attemptRecorded (sampleAttempt sampleOther ⟨10⟩)),
      sampleRow (integrationRowId sampleIntegration) "integration_event" sampleIntegration.toText none
        (.integrationEventRecorded sampleEvent),
      sampleRow (resultRowId ⟨9⟩) "result_evidence" sampleResultId.toText (some (⟨9⟩ : RevisionId).toText)
        (.resultEvidenceRecorded sampleResult),
      sampleRow (runRowId ⟨8⟩) "experiment_run" (⟨1⟩ : ExperimentRunId).toText (some (⟨8⟩ : RevisionId).toText)
        (.experimentRunRecorded sampleExperiment)]

def sampleSelection (references : List String) : CompetingSelectedSelection :=
  ⟨sampleGroup references, [⟨sampleMember, sortUnique [sampleIntegration.toText, sampleResultId.toText]⟩]⟩

def fullReferences : List String := (List.range 64).map fun n => "review:" ++ toString (100 + n)

theorem sample_selected : selectCompetingSelected zeroSha (sampleSnapshot fullReferences) ⟨1⟩
    = .ok (.available (sampleSelection fullReferences)) := by
  have h : (selectCompetingSelected zeroSha (sampleSnapshot fullReferences) ⟨1⟩).toOption
      = some (.available (sampleSelection fullReferences)) := by decide +kernel
  exact toOption_eq_some.mp h

/-- **A group with 64 references offers a winner and refuses it.** -/
theorem full_group_refuses :
    selectCompetingSelected zeroSha (sampleSnapshot fullReferences) ⟨1⟩
        = .ok (.available (sampleSelection fullReferences))
      ∧ (sampleSelection fullReferences).candidates.map CompetingSelectedCandidate.attemptId = [sampleMember]
      ∧ resolveCompetingSelected zeroSha ⟨11⟩ (sampleSnapshot fullReferences) ⟨1⟩ sampleMember
        = .error .invalidInput
      ∧ ¬ Choosable zeroSha ⟨11⟩ (sampleSnapshot fullReferences) ⟨1⟩ (sampleSelection fullReferences) := by
  have hresolve : resolveCompetingSelected zeroSha ⟨11⟩ (sampleSnapshot fullReferences) ⟨1⟩ sampleMember
      = .error .invalidInput := by
    unfold resolveCompetingSelected
    rw [sample_selected, ok_bind]
    decide +kernel
  refine ⟨sample_selected, rfl, hresolve, fun hchoosable => ?_⟩
  obtain ⟨next, hnext, -⟩ := hchoosable _ (List.mem_singleton.mpr rfl)
  rw [hresolve] at hnext
  cases hnext

/-- The same winner of a group with one reference. -/
theorem choosable_iff_sample : ∃ attempts evidence,
    ReadsAs zeroSha (sampleSnapshot ["review:1"]) (sampleGroup ["review:1"]) attempts evidence
      ∧ (Choosable zeroSha ⟨11⟩ (sampleSnapshot ["review:1"]) ⟨1⟩ (sampleSelection ["review:1"])
          ∧ Exact (sampleSelection ["review:1"]) attempts evidence ↔
        (∀ attemptId ∈ [sampleMember, sampleOther], ∀ attempt, attempts.get attemptId = some attempt →
            Won attempt evidence → Room (sampleGroup ["review:1"]) attempt evidence)
          ∧ 1 + 1 < 2 ^ 64 ∧ max 5 1 + 1 < 2 ^ 64) := by
  have hselect : (selectCompetingSelected zeroSha (sampleSnapshot ["review:1"]) ⟨1⟩).toOption
      = some (.available (sampleSelection ["review:1"])) := by decide +kernel
  have hfresh : (⟨11⟩ : RevisionId) ≠ (sampleSelection ["review:1"]).group.revisionId :=
    (by decide : (⟨11⟩ : RevisionId) ≠ ⟨1⟩)
  exact choosable_iff zeroSha ⟨11⟩ (sampleSnapshot ["review:1"]) ⟨1⟩ (sampleSelection ["review:1"])
    (toOption_eq_some.mp hselect) hfresh

end EverTrace.Bugs.FullEvidence
