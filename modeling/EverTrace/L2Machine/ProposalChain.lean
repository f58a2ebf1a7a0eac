import EverTrace.L2Machine.ProposalStore
/-!
# What acceptance rests on (`evertrace-store/src/projections/semantic.rs`)

Three successor rules and one rule across proposals, over runs of any length. The
chain of every proposal starts pending, closes at most once and at its end, and
changes content only under review; the revision before an accepted one was being
validated with the very same content. Two unfinished proposals never share a
fingerprint.

Results:
* `chain_sound`: the chain of every proposal, after any run.
* `accepted_as_reviewed`: a proposal is accepted only with the content that was reviewed.
-/
namespace EverTrace.L2.Semantic
open EverTrace.Lib EverTrace.L1 EverTrace.L2.Store

variable {P : ProposalHashing} {st st' : ProposalMaps}

/-! ## One chain -/

/-- One step of a chain: evidence is only added, and new content comes only under manual review with the status as
it was. -/
def Step (a b : Entry) : Prop :=
  b.1.parentProposalRevisionId = some a.1.proposalRevisionId ∧
    (∀ ref ∈ a.1.evidenceRefs, ref ∈ b.1.evidenceRefs) ∧
    (a.1.payload ≠ b.1.payload → b.1.eligibility = .manualRequired ∧ b.1.status = a.1.status)

/-- What holds of the revisions of one proposal, in order. -/
structure SoundChain (P : ProposalHashing) (chain : List Entry) : Prop where
  root : ∀ e, chain.head? = some e → e.1.parentProposalRevisionId = none ∧ e.1.status = .pending
  steps : chain.IsChain Step
  closedLast : ∀ before e after, chain = before ++ e :: after → e.1.isClosed = true → after = []
  digests : ∀ e ∈ chain, e.1.recomputeSourceCohortHash P = .ok e.1.sourceCohortHash ∧
    e.1.recomputeFingerprint P = .ok e.1.fingerprint

/-- The revision before an accepted one: being validated, with the same content. -/
structure Reviewed (parent accepted : RevisionProposal) : Prop where
  link : accepted.parentProposalRevisionId = some parent.proposalRevisionId
  status : parent.status = .validating
  payload : parent.payload = accepted.payload
  base : parent.baseRevisionId = accepted.baseRevisionId
  operation : parent.operation = accepted.operation
  cohortRefs : parent.sourceCohortRefs = accepted.sourceCohortRefs
  cohortHash : parent.sourceCohortHash = accepted.sourceCohortHash
  fingerprint : parent.fingerprint = accepted.fingerprint

theorem links_step {a b : Entry} (h : Links P a b) : Step a b := by
  have hfollows := RevisionProposal.validateSuccessor_follows h.2.1
  exact ⟨h.1, hfollows.evidence, hfollows.newPayload⟩

/-- **The chain of every proposal is sound.** -/
theorem chain_sound {es : List Entry} (log : Log P es st) (id : RevisionProposalId) :
    SoundChain P (chainOf es id) := by
  have hvalid : ∀ e ∈ chainOf es id, e.1.validate P = .ok () := fun e he => log.valid e (mem_chainOf.mp he).1
  refine ⟨fun e he => ?_, ?_, fun before e after hsplit hclosed => ?_, fun e he => ?_⟩
  · have hroot := log.rooted id e he
    exact ⟨hroot, (RevisionProposal.validate_digests (hvalid e (List.mem_of_head? he))).2.2 hroot⟩
  · exact (log.linked id).imp fun _ _ => links_step
  · cases after with
    | nil => rfl
    | cons f rest =>
      -- the next revision would follow a closed one
      have hlinked := log.linked id
      rw [hsplit] at hlinked
      have hlink : Links P e f := (List.isChain_append_cons_cons.mp hlinked).2.1
      have hlive := (RevisionProposal.validateSuccessor_follows hlink.2.1).wasLive
      rw [hclosed] at hlive
      cases hlive
  · have hdigests := RevisionProposal.validate_digests (hvalid e he)
    exact ⟨hdigests.1, hdigests.2.1⟩

/-- An accepted revision stands right after the one that was reviewed. -/
theorem chain_reviewed {es : List Entry} (log : Log P es st) {id : RevisionProposalId} {e : Entry}
    (hlast : (chainOf es id).getLast? = some e) (haccepted : e.1.status = .accepted) :
    ∃ before parent, chainOf es id = before ++ [parent, e] ∧ Reviewed parent.1 e.1 := by
  obtain ⟨front, hfront⟩ := List.getLast?_eq_some_iff.mp hlast
  have hne : front ≠ [] := fun hnil => by
    -- a root is pending
    have hroot := (chain_sound log id).root e (by rw [hfront, hnil]; rfl)
    rw [haccepted] at hroot
    cases hroot.2
  obtain ⟨before, parent, rfl⟩ := (List.eq_nil_or_concat' front).resolve_left hne
  have hlinked := log.linked id
  rw [hfront, List.append_assoc] at hlinked
  have hlink : Links P parent e := (List.isChain_append_cons_cons.mp hlinked).2.1
  have hfollows := RevisionProposal.validateSuccessor_follows hlink.2.1
  obtain ⟨hstatus, hpayload, hbase, hoperation, hrefs, hcohort, hfingerprint⟩ := hfollows.acceptance haccepted
  refine ⟨before, parent, by rw [hfront, List.append_assoc]; rfl, ?_⟩
  exact ⟨hlink.1, hstatus, hpayload, hbase, hoperation, hrefs, hcohort, hfingerprint⟩

/-! ## Across proposals -/

/-- No two proposals with the same fingerprint are both unfinished. -/
def NoTwins (st : ProposalMaps) : Prop :=
  ∀ id id' e e', st.current.get id = some e → st.current.get id' = some e' → id ≠ id' →
    isUnfinishedProposal e.1 = true → isUnfinishedProposal e'.1 = true → e.1.fingerprint ≠ e'.1.fingerprint

theorem noTwins_step {es : List Entry} (log : Log P es st) (twins : NoTwins st) {value : RevisionProposal} {seq : Nat}
    {error : StoreError} (h : recordProposal P st value seq error = .ok st') : NoTwins st' := by
  obtain ⟨_, _, hclear, _, rfl⟩ := recordProposal_ok.mp h
  -- the new revision, unfinished, has no unfinished twin among the others
  have hnew : ∀ id e, id ≠ value.proposalId → st.current.get id = some e → isUnfinishedProposal e.1 = true →
      isUnfinishedProposal value = true → e.1.fingerprint ≠ value.fingerprint := by
    intro id e hid he hunfinished hvalue hsame
    have hclash : clashes st.current value = true := by
      refine clashes_iff.mpr ⟨hvalue, id, e, he, ?_, ?_, hsame⟩
      · rw [(log.current_id he).2]
        exact hid
      · unfold blocksNewUnfinishedProposal
        rw [hunfinished]
        rfl
    rw [hclear] at hclash
    cases hclash
  intro id id' e e' he he' hne hu hu'
  dsimp only at he he'
  rw [OrdMap.get_insert] at he he'
  split at he <;> split at he'
  · next hid hid' => exact absurd (hid.trans hid'.symm) hne
  · next _ hid' =>
    rw [← Option.some.inj he] at hu ⊢
    exact (hnew id' e' hid' he' hu' hu).symm
  · next hid _ =>
    rw [← Option.some.inj he'] at hu' ⊢
    exact hnew id e hid he hu hu'
  · exact twins id id' e e' he he' hne hu hu'

theorem noTwins_run : ∀ {es pre : List Entry} {st st' : ProposalMaps}, Log P pre st → NoTwins st →
    recordAll P st es = .ok st' → NoTwins st' := by
  intro es
  induction es with
  | nil =>
    intro pre st st' _ twins h
    rw [← Except.ok.inj h]
    exact twins
  | cons e rest ih =>
    intro pre st st' log twins h
    obtain ⟨mid, hmid, h⟩ := bind_eq_ok.mp h
    exact ih (log.step hmid) (noTwins_step log twins hmid) h

/-- **A proposal is accepted only with the content that was reviewed.** After any
run of accepted revisions: every proposal's revisions form a sound chain, an accepted one
was validated with the same content right before, and at every moment of the run
unfinished proposals have different fingerprints. -/
theorem accepted_as_reviewed (P : ProposalHashing) (es : List Entry) (st : ProposalMaps)
    (h : recordAll P .empty es = .ok st) :
    (∀ id e, st.current.get id = some e → SoundChain P (chainOf es id) ∧
      (∀ x ∈ chainOf es id, st.revisions.get x.1.proposalRevisionId = some x) ∧
      (chainOf es id).getLast? = some e ∧
      (e.1.status = .accepted → ∃ before parent, chainOf es id = before ++ [parent, e] ∧ Reviewed parent.1 e.1)) ∧
    ∀ pre post, es = pre ++ post → ∃ mid, recordAll P .empty pre = .ok mid ∧ NoTwins mid := by
  have log : Log P es st := recordAll_log log_empty h
  refine ⟨fun id e he => ?_, fun pre post hsplit => ?_⟩
  · have hlast : (chainOf es id).getLast? = some e := by rw [← log.current]; exact he
    refine ⟨chain_sound log id, fun x hx => ?_, hlast, fun haccepted => chain_reviewed log hlast haccepted⟩
    exact (log.revisions _ _).mpr ⟨(mem_chainOf.mp hx).1, rfl⟩
  · rw [hsplit] at h
    obtain ⟨mid, hmid, _⟩ := recordAll_append.mp h
    exact ⟨mid, hmid, noTwins_run log_empty (fun _ _ _ _ h => by cases h) hmid⟩

/-! ## A core membership accepted -/

/-- The SHA-256 value of the canonical encoding of the one cohort reference. -/
def sampleCohortBytes : Bytes :=
  [0x89, 0x49, 0x89, 0x27, 0x48, 0xdd, 0x27, 0xea, 0x2a, 0x8f, 0x34, 0x94, 0x6a, 0x8b, 0x9a, 0xaa,
   0x36, 0x7c, 0xb0, 0x93, 0x78, 0x7c, 0xf4, 0x0a, 0x05, 0x69, 0x38, 0xe6, 0x4d, 0xa0, 0x87, 0x52]

theorem sampleCohortBytes_length : sampleCohortBytes.length = 32 := rfl

def sampleCohortHash : Digest := ⟨sampleCohortBytes, sampleCohortBytes_length⟩

/-- The SHA-256 value of the canonical encoding of what is proposed. -/
def sampleFingerprint : Digest where
  bytes := [0x5a, 0x57, 0xfb, 0x34, 0x96, 0x87, 0x39, 0x02, 0xe8, 0x5a, 0x71, 0x87, 0x16, 0x43, 0x02, 0x41,
    0xd9, 0x44, 0xc2, 0x0a, 0x25, 0x65, 0x50, 0xf6, 0xb5, 0x00, 0x78, 0xbf, 0x61, 0xef, 0x96, 0x8f]
  length_eq := rfl

def sampleRevision (n : Nat) : RevisionId := ⟨Fin.ofNat _ (0x70008000000000000000 + n)⟩

/-- SHA-256 on the two encodings, told apart by their lengths, and the TOML of the one payload. -/
def sampleHashing : ProposalHashing where
  sha :=
    { digest := fun b => if b.length = 73 then sampleCohortHash.bytes else sampleFingerprint.bytes
      digest_length := fun b => by split <;> rfl }
  toml := fun _ => some ("kind = \"core_membership\"\n\n[value]\naction = \"create\"\n" ++
    "atom_revision_id = \"00000000-0000-7000-8000-000000000011\"\n\n[value.scope_identity]\nkind = \"global\"\n")

/-- The revisions of one proposal to make an atom a core member. -/
def sampleMembership (revision : Nat) (parent : Option Nat) (status : ProposalStatus)
    (acceptance : Option ProposalAcceptance) (reviewedAtUs : Option Int) : RevisionProposal where
  proposalId := ⟨Fin.ofNat _ (0x70008000000000000000 + 3)⟩
  proposalRevisionId := sampleRevision revision
  parentProposalRevisionId := parent.map sampleRevision
  targetKind := .coreMembership
  targetId := none
  baseRevisionId := none
  operation := .create
  payload := .coreMembership (.create (sampleRevision 0x11) .global)
  evidenceRefs := ["obs:1"]
  sourceCohortRefs := ["obs:1"]
  sourceCohortHash := sampleCohortHash
  fingerprint := sampleFingerprint
  eligibility := .manualRequired
  status := status
  waitingOn := []
  reviewReason := none
  createdBy := .user
  acceptance := acceptance
  createdAtUs := 10
  reviewedAtUs := reviewedAtUs

def sampleAcceptance : ProposalAcceptance where
  reviewerIdentity := "user"
  acceptanceEventRef := "event:1"
  reviewedProposalRevisionId := sampleRevision 2
  reviewedFingerprint := sampleFingerprint
  acceptedTarget := .coreMembership ⟨Fin.ofNat _ (0x70008000000000000000 + 5)⟩ (sampleRevision 0x21)
  authorityBasis := .currentTaskExactMessage ⟨7⟩
  acceptedAtUs := 20

def sampleMemberships : List Entry :=
  [(sampleMembership 1 none .pending none none, 1), (sampleMembership 2 (some 1) .validating none none, 2),
    (sampleMembership 3 (some 2) .accepted (some sampleAcceptance) (some 20), 3)]

theorem sample_accepted_as_reviewed : ∃ st, recordAll sampleHashing .empty sampleMemberships = .ok st ∧
    ∃ e, st.current.get ⟨Fin.ofNat _ (0x70008000000000000000 + 3)⟩ = some e ∧ e.1.status = .accepted ∧
      ∃ before parent, chainOf sampleMemberships ⟨Fin.ofNat _ (0x70008000000000000000 + 3)⟩ = before ++ [parent, e] ∧
        Reviewed parent.1 e.1 := by
  have hok : (recordAll sampleHashing .empty sampleMemberships).isOk = true := by decide +kernel
  obtain ⟨st, hst⟩ := exists_of_isOk hok
  have hcurrent : st.current.get ⟨Fin.ofNat _ (0x70008000000000000000 + 3)⟩ =
      some (sampleMembership 3 (some 2) .accepted (some sampleAcceptance) (some 20), 3) :=
    (recordAll_log log_empty hst).current _
  have h := (accepted_as_reviewed sampleHashing sampleMemberships st hst).1 _ _ hcurrent
  exact ⟨st, hst, _, hcurrent, rfl, h.2.2.2 rfl⟩

end EverTrace.L2.Semantic
