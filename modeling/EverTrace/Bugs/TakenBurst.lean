import EverTrace.L2Machine.DetectorRun
/-!
# A failed push drops the open burst

`OperationBurstFolder::push` (evertrace-engine/src/segmentation/burst.rs:158-159)
takes the open burst out of the folder, closes it, and only then builds and
checks the burst of the new token. When that check fails, the closed revision is
thrown away with the error and the folder has no open burst: the tokens it held
are in no burst any more. The branch that extends a burst checks first and
changes the folder afterwards.

Counterexample: a token, then a token that rests on 65 observations (a burst
member takes 64), then a third token. The folder accepted the first and the
third, and holds only the third.

`fold_keeps` says what every run keeps in which each token that replaces the open
burst makes a burst of its own: nothing is lost, nothing is mixed, and the
revisions follow each other. `incremental.rs` works on a clone of the folder and
drops it on an error, so it never continues from the damaged one.
-/
namespace EverTrace.Bugs.TakenBurst
open EverTrace.Lib EverTrace.L1 EverTrace.L2.Work EverTrace.L2.Segmentation
open EverTrace.L2.Segmentation.OperationBurstFolder

/-! ## Pushing in place -/

/-- The token neither repeats a revision nor extends the open burst. -/
def startsBurst (folder : OperationBurstFolder) (token : ActivityToken) : Bool :=
  (folder.seen token.operationId).all (fun previous => previous.revision < token.operationRevision)
    && (folder.extended token).isNone

/-- What `push` returns, and the folder it leaves, also when it fails.
mirrors evertrace-engine/src/segmentation/burst.rs:98-174 -/
def pushInPlace (folder : OperationBurstFolder) (token : ActivityToken) (fresh : FreshIds) :
    Except DetectorError BurstFoldUpdate × OperationBurstFolder :=
  match folder.push token fresh with
  | .ok (update, next) => (.ok update, next)
  | .error e =>
    -- `self.current.take()` comes before the checks of the new burst
    (.error e, if startsBurst folder token then ⟨none, folder.seen⟩ else folder)

/-- A folder, the tokens it accepted, the bursts it closed and all revisions it returned. -/
structure Folding where
  folder : OperationBurstFolder
  accepted : List ActivityToken
  closed : List OperationBurst
  emitted : List OperationBurst

def Folding.start : Folding := ⟨.new, [], [], []⟩

/-- One push; a replay is accepted and adds nothing. -/
def Folding.step (f : Folding) (input : ActivityToken × FreshIds) : Folding :=
  match pushInPlace f.folder input.1 input.2 with
  | (.ok update, folder) =>
    if update.noDelta then { f with folder }
    else {
      folder
      accepted := f.accepted ++ [input.1]
      closed := f.closed ++ update.closed.toList
      emitted := f.emitted ++ update.closed.toList ++ [update.current] }
  | (.error _, folder) => { f with folder }

def foldAll (inputs : List (ActivityToken × FreshIds)) : Folding := inputs.foldl Folding.step .start

/-! ## What is to be kept -/

/-- The token says of its operation what the burst says of all of them. -/
structure Agrees (burst : OperationBurst) (token : ActivityToken) : Prop where
  kind : token.operationKind = burst.operationKind
  state : token.stateDelta = burst.stateDelta
  verifier : token.verifierTransition = burst.verifierDelta
  phase : token.observedPhaseKind = burst.phaseCandidate
  error : token.errorSignature = burst.errorSignature
  family : token.targetFamily = burst.targetFamily
  targets : token.targetRefs = burst.targetRefs
  lane : token.executionLaneId = burst.executionLaneId
  binding : token.primaryBinding = burst.primaryBinding
  attempt : token.attemptId = burst.attemptId

/-- The burst holds exactly these tokens. -/
structure Holds (tokens : List ActivityToken) (burst : OperationBurst) : Prop where
  members : burst.members = tokens.map memberFromToken
  nonempty : tokens ≠ []
  few : tokens.length ≤ 64
  agrees : ∀ token ∈ tokens, Agrees burst token
  single : burst.verifierDelta ≠ .none ∨ burst.hasObjectiveBoundary = true → tokens.length = 1

/-- The bursts of a folding, the open one last. -/
def Folding.bursts (f : Folding) : List OperationBurst := f.closed ++ f.folder.current.toList

/-- The revisions of the burst `id` among `emitted`. -/
def revisionsOf (id : OperationBurstId) (emitted : List OperationBurst) : List OperationBurst :=
  emitted.filter fun burst => burst.operationBurstId = id

/-- Every returned revision succeeds the one before it of the same burst, or is a first one. -/
def RevisionsFollow (emitted : List OperationBurst) : Prop :=
  ∀ before revision after, emitted = before ++ revision :: after →
    match (revisionsOf revision.operationBurstId before).getLast? with
    | some previous => previous.validateSuccessor revision = .ok ()
    | none => revision.predecessorRevisionId = none ∧ revision.validate = .ok ()

/-- Nothing is lost and nothing is mixed. -/
structure Kept (f : Folding) : Prop where
  inOrder : f.bursts.flatMap (·.members) = f.accepted.map memberFromToken
  uniform : ∃ groups, f.accepted = groups.flatten ∧ List.Forall₂ Holds groups f.bursts
  closed : ∀ burst ∈ f.closed, burst.lifecycle = .closed
  atMostOneOpen : ∀ burst, f.folder.current = some burst → burst.lifecycle = .open_
  follow : RevisionsFollow f.emitted
  latest : ∀ burst ∈ f.bursts, (revisionsOf burst.operationBurstId f.emitted).getLast? = some burst
  known : ∀ revision ∈ f.emitted, ∃ burst ∈ f.bursts, burst.operationBurstId = revision.operationBurstId

/-- `new_v7` gives no identifier twice. -/
structure DistinctIds (inputs : List (ActivityToken × FreshIds)) : Prop where
  bursts : (inputs.map fun input => input.2.burstId).Nodup
  revisions : (inputs.flatMap fun input => [input.2.burstRevisionId, input.2.closingRevisionId]).Nodup

def MakesBurst (input : ActivityToken × FreshIds) : Prop := (openBurst input.1 input.2).validate = .ok ()

/-- A token that replaces the open burst makes a burst of its own. -/
def Replaceable (f : Folding) (input : ActivityToken × FreshIds) : Prop :=
  f.folder.current.isSome = true → startsBurst f.folder input.1 = true → MakesBurst input

/-! ## Opening, extending and closing -/

theorem canExtend_agrees {current : OperationBurst} {token : ActivityToken}
    (h : canExtend current token = true) :
    Agrees current token ∧ current.verifierDelta = .none ∧ current.hasObjectiveBoundary = false := by
  simp only [canExtend, Bool.and_eq_true, beq_iff_eq, Bool.not_eq_true', and_assoc] at h
  obtain ⟨-, hkind, hstate, hverifier, hboundary, hphase, htoken, -, herror, hfamily, htargets, hlane, -, hbinding,
    hattempt, -⟩ := h
  exact ⟨⟨hkind.symm, hstate.symm, htoken.trans hverifier.symm, hphase.symm, herror.symm, hfamily.symm,
    htargets.symm, hlane.symm, hbinding.symm, hattempt.symm⟩, hverifier, hboundary⟩

theorem extended_canExtend {folder : OperationBurstFolder} {token : ActivityToken} {current : OperationBurst}
    (h : folder.extended token = some current) :
    folder.current = some current ∧ canExtend current token = true ∧ current.members.length < 64 := by
  obtain ⟨hcurrent, h⟩ := Option.filter_eq_some_iff.mp h
  simpa [hcurrent] using h

theorem holds_open (token : ActivityToken) (fresh : FreshIds) : Holds [token] (openBurst token fresh) where
  members := rfl
  nonempty := List.cons_ne_nil _ _
  few := by simp
  agrees := by
    intro other hother
    rw [List.mem_singleton.mp hother]
    exact ⟨rfl, rfl, rfl, rfl, rfl, rfl, rfl, rfl, rfl, rfl⟩
  single := fun _ => rfl

theorem Holds.extend {tokens : List ActivityToken} {current : OperationBurst} (h : Holds tokens current)
    {token : ActivityToken} (hfits : canExtend current token = true) (hroom : current.members.length < 64)
    (revisionId : RevisionId) : Holds (tokens ++ [token]) (extendBurst current token revisionId) := by
  obtain ⟨hagrees, hverifier, hboundary⟩ := canExtend_agrees hfits
  refine ⟨?_, by simp, ?_, fun other hother => ?_, fun hkind => ?_⟩
  · rw [extendBurst, h.members, List.map_append, List.map_singleton]
  · rw [h.members, List.length_map] at hroom
    rw [List.length_append, List.length_singleton]
    omega
  · have hsame : Agrees current other := by
      rcases List.mem_append.mp hother with hother | hother
      · exact h.agrees other hother
      · rw [List.mem_singleton.mp hother]
        exact hagrees
    exact ⟨hsame.kind, hsame.state, hsame.verifier, hsame.phase, hsame.error, hsame.family, hsame.targets,
      hsame.lane, hsame.binding, hsame.attempt⟩
  · rcases hkind with hkind | hkind
    · exact absurd hverifier hkind
    · exact absurd hkind (by rw [show (extendBurst current token revisionId).hasObjectiveBoundary =
        current.hasObjectiveBoundary from rfl, hboundary]; decide)

theorem Holds.close {tokens : List ActivityToken} {current : OperationBurst} (h : Holds tokens current)
    (revisionId : RevisionId) : Holds tokens (closedBurst current revisionId) :=
  ⟨h.members, h.nonempty, h.few, fun token ht => ⟨(h.agrees token ht).kind, (h.agrees token ht).state,
    (h.agrees token ht).verifier, (h.agrees token ht).phase, (h.agrees token ht).error, (h.agrees token ht).family,
    (h.agrees token ht).targets, (h.agrees token ht).lane, (h.agrees token ht).binding,
    (h.agrees token ht).attempt⟩, h.single⟩

/-! ## Closing a valid burst succeeds -/

theorem closedBurst_validate {current : OperationBurst} (revisionId : RevisionId)
    (hvalid : current.validate = .ok ()) : (closedBurst current revisionId).validate = .ok () := by
  unfold OperationBurst.validate at hvalid ⊢
  rw [ite_error_ok] at hvalid ⊢
  simp only [closedBurst, OperationBurst.membersOrdered] at hvalid ⊢
  simp only [Bool.or_eq_true, not_or] at hvalid ⊢
  simp_all

theorem closeBurst_succeeds {current : OperationBurst} {revisionId : RevisionId}
    (hvalid : current.validate = .ok ()) (hopen : current.lifecycle = .open_)
    (hgeneration : current.revisionGeneration + 1 < 2 ^ 64) (hne : revisionId ≠ current.revisionId) :
    closeBurst current revisionId = .ok (closedBurst current revisionId) := by
  have hsucc : checkedSucc 64 current.revisionGeneration = some (current.revisionGeneration + 1) :=
    checkedSucc_eq_some.mpr ⟨hgeneration, rfl⟩
  have hclosed := closedBurst_validate revisionId hvalid
  have hsuccessor : current.validateSuccessor (closedBurst current revisionId) = .ok () := by
    unfold OperationBurst.validateSuccessor
    rw [hvalid, hclosed, hsucc]
    simp [closedBurst, okOr, bind, Except.bind, hopen, hne]
  unfold closeBurst
  rw [hsucc]
  dsimp only
  rw [hsuccessor]
  rfl

/-- A token that replaces a burst that closes, and makes a burst of its own, is accepted. -/
theorem push_succeeds {folder : OperationBurstFolder} {token : ActivityToken} {fresh : FreshIds}
    {current closed : OperationBurst} (hcurrent : folder.current = some current)
    (hstarts : startsBurst folder token = true) (hclose : closeBurst current fresh.closingRevisionId = .ok closed)
    (hmakes : MakesBurst (token, fresh)) : ∃ result, folder.push token fresh = .ok result := by
  simp only [startsBurst, Bool.and_eq_true, Option.isNone_iff_eq_none] at hstarts
  obtain ⟨hnewer, hextended⟩ := hstarts
  have hnew : newBurst token fresh = .ok (openBurst token fresh) := by
    unfold newBurst
    dsimp only
    rw [show (openBurst token fresh).validate = .ok () from hmakes]
    rfl
  have hfold : ∃ result, folder.foldNew token fresh = .ok result := by
    unfold foldNew start closeCurrent
    rw [hextended]
    dsimp only
    rw [hcurrent]
    dsimp only
    rw [hclose, hnew]
    exact ⟨_, rfl⟩
  unfold push
  cases hseen : folder.seen token.operationId with
  | none => exact hfold
  | some previous =>
    rw [hseen] at hnewer
    have hlt : previous.revision < token.operationRevision := by simpa using hnewer
    dsimp only
    rw [if_neg (by omega), if_neg (by omega)]
    exact hfold

/-! ## Revisions -/

theorem revisionsOf_append (id : OperationBurstId) (emitted : List OperationBurst) (burst : OperationBurst) :
    revisionsOf id (emitted ++ [burst]) =
      revisionsOf id emitted ++ if burst.operationBurstId = id then [burst] else [] := by
  unfold revisionsOf
  rw [List.filter_append]
  by_cases h : burst.operationBurstId = id <;> simp [h]

theorem revisionsOf_append_same (emitted : List OperationBurst) (burst : OperationBurst) :
    (revisionsOf burst.operationBurstId (emitted ++ [burst])).getLast? = some burst := by
  rw [revisionsOf_append, if_pos rfl, List.getLast?_append]
  rfl

theorem revisionsOf_append_other {id : OperationBurstId} {burst : OperationBurst}
    (h : burst.operationBurstId ≠ id) (emitted : List OperationBurst) :
    revisionsOf id (emitted ++ [burst]) = revisionsOf id emitted := by
  rw [revisionsOf_append, if_neg h, List.append_nil]

theorem RevisionsFollow.append {emitted : List OperationBurst} (h : RevisionsFollow emitted) {burst : OperationBurst}
    (hlast : match (revisionsOf burst.operationBurstId emitted).getLast? with
      | some previous => previous.validateSuccessor burst = .ok ()
      | none => burst.predecessorRevisionId = none ∧ burst.validate = .ok ()) :
    RevisionsFollow (emitted ++ [burst]) := by
  intro before revision after heq
  rcases List.eq_nil_or_concat after with rfl | ⟨init, last, rfl⟩
  · obtain ⟨rfl, hburst⟩ := List.append_inj' heq rfl
    cases hburst
    exact hlast
  · rw [List.concat_eq_append, ← List.cons_append, ← List.append_assoc] at heq
    obtain ⟨hemitted, -⟩ := List.append_inj' heq rfl
    exact h before revision init hemitted

/-! ## The invariant -/

/-- The open burst of a folding holds the last tokens. -/
structure Opened (used : List (ActivityToken × FreshIds)) (tokens : List ActivityToken) (burst : OperationBurst) :
    Prop where
  holds : Holds tokens burst
  isOpen : burst.lifecycle = .open_
  valid : burst.validate = .ok ()
  generation : burst.revisionGeneration ≤ burst.members.length
  revision : ∃ input ∈ used, burst.revisionId = input.2.burstRevisionId

/-- What every run keeps, after the inputs `used`. -/
structure Inv (used : List (ActivityToken × FreshIds)) (f : Folding) : Prop where
  groups : ∃ groups tokens, f.accepted = groups.flatten ++ tokens ∧ List.Forall₂ Holds groups f.closed ∧
    match f.folder.current with
    | some burst => Opened used tokens burst
    | none => tokens = []
  closed : ∀ burst ∈ f.closed, burst.lifecycle = .closed
  follow : RevisionsFollow f.emitted
  latest : ∀ burst ∈ f.bursts, (revisionsOf burst.operationBurstId f.emitted).getLast? = some burst
  known : ∀ revision ∈ f.emitted, ∃ burst ∈ f.bursts, burst.operationBurstId = revision.operationBurstId
  ids : ∀ revision ∈ f.emitted, ∃ input ∈ used, revision.operationBurstId = input.2.burstId

theorem inv_start : Inv [] .start where
  groups := ⟨[], [], rfl, .nil, rfl⟩
  closed := fun burst h => by cases h
  follow := by
    intro before revision after h
    cases before <;> cases h
  latest := fun burst h => by cases h
  known := fun burst h => by cases h
  ids := fun burst h => by cases h

/-- More inputs that changed nothing. -/
theorem Inv.idle {used : List (ActivityToken × FreshIds)} {f : Folding} (h : Inv used f)
    (input : ActivityToken × FreshIds) : Inv (used ++ [input]) f := by
  obtain ⟨groups, tokens, haccepted, hgroups, hopen⟩ := h.groups
  refine ⟨⟨groups, tokens, haccepted, hgroups, ?_⟩, h.closed, h.follow, h.latest, h.known, fun revision hr => ?_⟩
  · cases hcurrent : f.folder.current with
    | none => rw [hcurrent] at hopen; exact hopen
    | some burst =>
      rw [hcurrent] at hopen
      obtain ⟨source, hsource, hrevision⟩ := hopen.revision
      exact ⟨hopen.holds, hopen.isOpen, hopen.valid, hopen.generation, source,
        List.mem_append_left _ hsource, hrevision⟩
  · obtain ⟨source, hsource, hid⟩ := h.ids revision hr
    exact ⟨source, List.mem_append_left _ hsource, hid⟩

/-- A burst of the folding was returned, under an identifier of an earlier input. -/
theorem Inv.burst_emitted {used : List (ActivityToken × FreshIds)} {f : Folding} (h : Inv used f)
    {burst : OperationBurst} (hburst : burst ∈ f.bursts) : burst ∈ f.emitted :=
  List.mem_of_mem_filter (List.mem_of_mem_getLast? (h.latest burst hburst))

theorem Inv.closed_ne {used : List (ActivityToken × FreshIds)} {f : Folding} (h : Inv used f)
    {current burst : OperationBurst} (hcurrent : f.folder.current = some current)
    (hopen : current.lifecycle = .open_) (hburst : burst ∈ f.closed) :
    current.operationBurstId ≠ burst.operationBurstId := by
  intro hid
  have hlast := h.latest current (List.mem_append_right _ (by simp [hcurrent]))
  have hother := h.latest burst (List.mem_append_left _ hburst)
  rw [hid, hother] at hlast
  have hclosed := h.closed burst hburst
  rw [Option.some.inj hlast, hopen] at hclosed
  cases hclosed

theorem Inv.extend {used : List (ActivityToken × FreshIds)} {f : Folding} (h : Inv used f)
    {current : OperationBurst} {token : ActivityToken} {fresh : FreshIds} (seen : Seen)
    (hcurrent : f.folder.current = some current) (hfits : canExtend current token = true)
    (hroom : current.members.length < 64)
    (hsuccessor : current.validateSuccessor (extendBurst current token fresh.burstRevisionId) = .ok ()) :
    Inv (used ++ [(token, fresh)])
      { folder := ⟨some (extendBurst current token fresh.burstRevisionId), seen⟩
        accepted := f.accepted ++ [token]
        closed := f.closed
        emitted := f.emitted ++ [extendBurst current token fresh.burstRevisionId] } := by
  have hid : (extendBurst current token fresh.burstRevisionId).operationBurstId = current.operationBurstId := rfl
  have hlast := h.latest current (List.mem_append_right _ (by simp [hcurrent]))
  obtain ⟨groups, tokens, haccepted, hgroups, hopen⟩ := h.groups
  rw [hcurrent] at hopen
  have hvalidated := (OperationBurst.validateSuccessor_successor hsuccessor).validated.2
  refine ⟨⟨groups, tokens ++ [token], ?_, hgroups, ?_⟩, h.closed, ?_, fun burst hburst => ?_, fun revision hr => ?_,
    fun revision hr => ?_⟩
  · rw [haccepted, List.append_assoc]
  · refine ⟨hopen.holds.extend hfits hroom _, hopen.isOpen, hvalidated, ?_,
      (token, fresh), List.mem_append_right _ (List.mem_singleton_self _), rfl⟩
    have := hopen.generation
    simp only [extendBurst, List.length_append, List.length_singleton]
    omega
  · refine h.follow.append ?_
    rw [hid, hlast]
    exact hsuccessor
  · rcases List.mem_append.mp hburst with hburst | hburst
    · have hne := h.closed_ne hcurrent hopen.isOpen hburst
      rw [revisionsOf_append_other (by rw [hid]; exact hne)]
      exact h.latest burst (List.mem_append_left _ hburst)
    · obtain rfl : burst = extendBurst current token fresh.burstRevisionId := by simpa [eq_comm] using hburst
      exact revisionsOf_append_same _ _
  · rcases List.mem_append.mp hr with hr | hr
    · obtain ⟨burst, hburst, hsame⟩ := h.known revision hr
      rcases List.mem_append.mp hburst with hburst | hburst
      · exact ⟨burst, List.mem_append_left _ hburst, hsame⟩
      · obtain rfl : burst = current := by simpa [hcurrent, eq_comm] using hburst
        exact ⟨_, List.mem_append_right _ (List.mem_singleton_self _), hid.trans hsame⟩
    · rw [List.mem_singleton.mp hr]
      exact ⟨_, List.mem_append_right _ (List.mem_singleton_self _), rfl⟩
  · rcases List.mem_append.mp hr with hr | hr
    · obtain ⟨source, hsource, hsame⟩ := h.ids revision hr
      exact ⟨source, List.mem_append_left _ hsource, hsame⟩
    · obtain ⟨source, hsource, hsame⟩ := h.ids current
        (h.burst_emitted (List.mem_append_right _ (by simp [hcurrent])))
      rw [List.mem_singleton.mp hr, hid]
      exact ⟨source, List.mem_append_left _ hsource, hsame⟩

/-- The open burst is closed; the folding has no open burst for the moment. -/
theorem Inv.close {used : List (ActivityToken × FreshIds)} {f : Folding} (h : Inv used f)
    {current : OperationBurst} {revisionId : RevisionId} (hcurrent : f.folder.current = some current)
    (hsuccessor : current.validateSuccessor (closedBurst current revisionId) = .ok ()) :
    Inv used
      { folder := ⟨none, f.folder.seen⟩
        accepted := f.accepted
        closed := f.closed ++ [closedBurst current revisionId]
        emitted := f.emitted ++ [closedBurst current revisionId] } := by
  have hid : (closedBurst current revisionId).operationBurstId = current.operationBurstId := rfl
  have hlast := h.latest current (List.mem_append_right _ (by simp [hcurrent]))
  obtain ⟨groups, tokens, haccepted, hgroups, hopen⟩ := h.groups
  rw [hcurrent] at hopen
  refine ⟨⟨groups ++ [tokens], [], ?_, ?_, rfl⟩, fun burst hburst => ?_, ?_, fun burst hburst => ?_,
    fun revision hr => ?_, fun revision hr => ?_⟩
  · simp [haccepted]
  · exact List.rel_append hgroups (.cons (hopen.holds.close revisionId) .nil)
  · rcases List.mem_append.mp hburst with hburst | hburst
    · exact h.closed burst hburst
    · rw [List.mem_singleton.mp hburst]
      rfl
  · refine h.follow.append ?_
    rw [hid, hlast]
    exact hsuccessor
  · have hburst : burst ∈ f.closed ++ [closedBurst current revisionId] := by simpa [Folding.bursts] using hburst
    rcases List.mem_append.mp hburst with hburst | hburst
    · have hne := h.closed_ne hcurrent hopen.isOpen hburst
      rw [revisionsOf_append_other (by rw [hid]; exact hne)]
      exact h.latest burst (List.mem_append_left _ hburst)
    · rw [List.mem_singleton.mp hburst]
      exact revisionsOf_append_same _ _
  · have hin : closedBurst current revisionId ∈ f.closed ++ [closedBurst current revisionId] ++ [] := by simp
    rcases List.mem_append.mp hr with hr | hr
    · obtain ⟨burst, hburst, hsame⟩ := h.known revision hr
      rcases List.mem_append.mp hburst with hburst | hburst
      · exact ⟨burst, List.mem_append_left _ (List.mem_append_left _ hburst), hsame⟩
      · obtain rfl : burst = current := by simpa [hcurrent, eq_comm] using hburst
        exact ⟨_, hin, hid.trans hsame⟩
    · rw [List.mem_singleton.mp hr]
      exact ⟨_, hin, rfl⟩
  · rcases List.mem_append.mp hr with hr | hr
    · exact h.ids revision hr
    · rw [List.mem_singleton.mp hr, hid]
      exact h.ids current (h.burst_emitted (List.mem_append_right _ (by simp [hcurrent])))

theorem Inv.open_ {used : List (ActivityToken × FreshIds)} {f : Folding} (h : Inv used f)
    {token : ActivityToken} {fresh : FreshIds} (seen : Seen) (hcurrent : f.folder.current = none)
    (hvalid : (openBurst token fresh).validate = .ok ())
    (hunused : ∀ input ∈ used, input.2.burstId ≠ fresh.burstId) :
    Inv (used ++ [(token, fresh)])
      { folder := ⟨some (openBurst token fresh), seen⟩
        accepted := f.accepted ++ [token]
        closed := f.closed
        emitted := f.emitted ++ [openBurst token fresh] } := by
  have hid : (openBurst token fresh).operationBurstId = fresh.burstId := rfl
  have hnew : ∀ revision ∈ f.emitted, revision.operationBurstId ≠ fresh.burstId := by
    intro revision hr hsame
    obtain ⟨input, hinput, hused⟩ := h.ids revision hr
    exact hunused input hinput (hused.symm.trans hsame)
  have hbursts : f.bursts = f.closed := by simp [Folding.bursts, hcurrent]
  obtain ⟨groups, tokens, haccepted, hgroups, hopen⟩ := h.groups
  rw [hcurrent] at hopen
  subst hopen
  refine ⟨⟨groups, [token], ?_, hgroups, ?_⟩, h.closed, ?_, fun burst hburst => ?_, fun revision hr => ?_,
    fun revision hr => ?_⟩
  · rw [haccepted, List.append_nil]
  · exact ⟨holds_open token fresh, rfl, hvalid, Nat.le_refl _, (token, fresh),
      List.mem_append_right _ (List.mem_singleton_self _), rfl⟩
  · refine h.follow.append ?_
    have hnone : revisionsOf (openBurst token fresh).operationBurstId f.emitted = [] := by
      unfold revisionsOf
      rw [List.filter_eq_nil_iff]
      intro revision hr
      simpa [hid] using hnew revision hr
    rw [hnone]
    exact ⟨rfl, hvalid⟩
  · rcases List.mem_append.mp hburst with hburst | hburst
    · have hemitted := h.burst_emitted (hbursts ▸ hburst)
      rw [revisionsOf_append_other (by rw [hid]; exact (hnew burst hemitted).symm)]
      exact h.latest burst (hbursts ▸ hburst)
    · obtain rfl : burst = openBurst token fresh := by simpa [eq_comm] using hburst
      exact revisionsOf_append_same _ _
  · rcases List.mem_append.mp hr with hr | hr
    · obtain ⟨burst, hburst, hsame⟩ := h.known revision hr
      exact ⟨burst, List.mem_append_left _ (hbursts ▸ hburst), hsame⟩
    · rw [List.mem_singleton.mp hr]
      exact ⟨_, List.mem_append_right _ (List.mem_singleton_self _), rfl⟩
  · rcases List.mem_append.mp hr with hr | hr
    · obtain ⟨source, hsource, hsame⟩ := h.ids revision hr
      exact ⟨source, List.mem_append_left _ hsource, hsame⟩
    · rw [List.mem_singleton.mp hr]
      exact ⟨(token, fresh), List.mem_append_right _ (List.mem_singleton_self _), rfl⟩

/-! ## Runs -/

theorem Inv.pushed {used : List (ActivityToken × FreshIds)} {f : Folding} (h : Inv used f) {token : ActivityToken}
    {fresh : FreshIds} (hunused : ∀ input ∈ used, input.2.burstId ≠ fresh.burstId) {update : BurstFoldUpdate}
    {next : OperationBurstFolder} (hpush : f.folder.push token fresh = .ok (update, next)) :
    Inv (used ++ [(token, fresh)]) (f.step (token, fresh)) := by
  have hstep : f.step (token, fresh) = if update.noDelta then { f with folder := next }
      else {
        folder := next
        accepted := f.accepted ++ [token]
        closed := f.closed ++ update.closed.toList
        emitted := f.emitted ++ update.closed.toList ++ [update.current] } := by
    unfold Folding.step pushInPlace
    rw [hpush]
  rw [hstep]
  cases push_ok hpush with
  | replayed current hcurrent => exact h.idle (token, fresh)
  | extended current hnewer hextended hsuccessor =>
    obtain ⟨hcurrent, hfits, hroom⟩ := extended_canExtend hextended
    simpa using h.extend _ hcurrent hfits hroom hsuccessor
  | first hnewer hcurrent hvalid => simpa using h.open_ _ hcurrent hvalid hunused
  | next current hnewer hcurrent hextended hsuccessor hvalid =>
    simpa using (h.close hcurrent hsuccessor).open_ _ rfl hvalid hunused

/-- A failed push leaves the folding as it was, unless it fails after it took the open burst. -/
theorem step_failed {f : Folding} {input : ActivityToken × FreshIds} {e : DetectorError}
    (hpush : f.folder.push input.1 input.2 = .error e)
    (hspared : f.folder.current.isSome = true → startsBurst f.folder input.1 = false) : f.step input = f := by
  have hleft : (if startsBurst f.folder input.1 then ⟨none, f.folder.seen⟩ else f.folder) = f.folder := by
    split
    · next hstarts =>
      cases hcurrent : f.folder.current with
      | none => rw [← hcurrent]
      | some current =>
        rw [hspared (by rw [hcurrent]; rfl)] at hstarts
        cases hstarts
    · rfl
  unfold Folding.step pushInPlace
  rw [hpush]
  dsimp only
  rw [hleft]

theorem Inv.step {used : List (ActivityToken × FreshIds)} {f : Folding} (h : Inv used f)
    {input : ActivityToken × FreshIds} (hreplaceable : Replaceable f input)
    (hunused : ∀ earlier ∈ used, earlier.2.burstId ≠ input.2.burstId)
    (hfresh : ∀ earlier ∈ used, earlier.2.burstRevisionId ≠ input.2.closingRevisionId) :
    Inv (used ++ [input]) (f.step input) := by
  cases hpush : f.folder.push input.1 input.2 with
  | ok result => exact h.pushed hunused hpush
  | error e =>
    rw [step_failed hpush]
    · exact h.idle input
    · intro hsome
      obtain ⟨current, hcurrent⟩ := Option.isSome_iff_exists.mp hsome
      by_contra hstarts
      rw [Bool.not_eq_false] at hstarts
      -- the open burst closes and the new one is valid: the push cannot have failed
      obtain ⟨groups, tokens, -, -, hopen⟩ := h.groups
      rw [hcurrent] at hopen
      obtain ⟨source, hsource, hrevision⟩ := hopen.revision
      have hgeneration : current.revisionGeneration + 1 < 2 ^ 64 := by
        have hle := hopen.generation
        have hfew := hopen.holds.few
        rw [hopen.holds.members, List.length_map] at hle
        omega
      have hne : input.2.closingRevisionId ≠ current.revisionId := by
        rw [hrevision]
        exact (hfresh source hsource).symm
      obtain ⟨result, hok⟩ := push_succeeds hcurrent hstarts
        (closeBurst_succeeds hopen.valid hopen.isOpen hgeneration hne) (hreplaceable hsome hstarts)
      rw [hok] at hpush
      cases hpush

theorem Inv.kept {used : List (ActivityToken × FreshIds)} {f : Folding} (h : Inv used f) : Kept f := by
  obtain ⟨groups, tokens, haccepted, hgroups, hopen⟩ := h.groups
  have hmembers : ∀ {groups : List (List ActivityToken)} {bursts : List OperationBurst},
      List.Forall₂ Holds groups bursts → bursts.flatMap (·.members) = groups.flatten.map memberFromToken := by
    intro groups bursts hall
    induction hall with
    | nil => rfl
    | cons hhead _ ih => rw [List.flatMap_cons, List.flatten_cons, List.map_append, hhead.members, ih]
  have huniform : ∃ groups, f.accepted = groups.flatten ∧ List.Forall₂ Holds groups f.bursts := by
    cases hcurrent : f.folder.current with
    | none =>
      rw [hcurrent] at hopen
      exact ⟨groups, by simp [haccepted, show tokens = [] from hopen], by simpa [Folding.bursts, hcurrent] using hgroups⟩
    | some burst =>
      rw [hcurrent] at hopen
      refine ⟨groups ++ [tokens], by simp [haccepted], ?_⟩
      rw [Folding.bursts, hcurrent]
      exact List.rel_append hgroups (.cons hopen.holds .nil)
  refine ⟨?_, huniform, h.closed, fun burst hburst => ?_, h.follow, h.latest, h.known⟩
  · obtain ⟨all, hall, hholds⟩ := huniform
    rw [hmembers hholds, hall]
  · rw [hburst] at hopen
    exact hopen.isOpen

/-- Every token of the run that replaces the open burst makes a burst of its own. -/
def AllReplaceable (inputs : List (ActivityToken × FreshIds)) : Prop :=
  ∀ before input after, inputs = before ++ input :: after → Replaceable (foldAll before) input

theorem DistinctIds.earlier {before after : List (ActivityToken × FreshIds)} {input : ActivityToken × FreshIds}
    (h : DistinctIds (before ++ input :: after)) {earlier : ActivityToken × FreshIds} (hmem : earlier ∈ before) :
    earlier.2.burstId ≠ input.2.burstId ∧ earlier.2.burstRevisionId ≠ input.2.closingRevisionId := by
  have hbursts := h.bursts
  have hrevisions := h.revisions
  rw [List.map_append, List.nodup_append] at hbursts
  rw [List.flatMap_append, List.nodup_append] at hrevisions
  refine ⟨?_, ?_⟩
  · exact hbursts.2.2 _ (List.mem_map_of_mem hmem) _ (List.mem_map_of_mem List.mem_cons_self)
  · exact hrevisions.2.2 _ (List.mem_flatMap.mpr ⟨earlier, hmem, by simp⟩) _
      (List.mem_flatMap.mpr ⟨input, List.mem_cons_self, by simp⟩)

theorem foldAll_append (inputs : List (ActivityToken × FreshIds)) (input : ActivityToken × FreshIds) :
    foldAll (inputs ++ [input]) = (foldAll inputs).step input := by
  simp [foldAll]

theorem foldAll_inv {inputs : List (ActivityToken × FreshIds)} (hids : DistinctIds inputs)
    (hreplaceable : AllReplaceable inputs) : Inv inputs (foldAll inputs) := by
  have hfront : ∀ before after, inputs = before ++ after → Inv before (foldAll before) := by
    intro before
    induction before using List.reverseRecOn with
    | nil => exact fun _ _ => inv_start
    | append_singleton before input ih =>
      intro after heq
      rw [List.append_assoc, List.singleton_append] at heq
      rw [foldAll_append]
      have hdistinct := heq ▸ hids
      exact (ih _ heq).step (hreplaceable before input after heq) (fun _ he => (hdistinct.earlier he).1)
        fun _ he => (hdistinct.earlier he).2
  exact hfront inputs [] (List.append_nil _).symm

/-- **Folding loses nothing and mixes nothing, as long as no push takes the open burst and fails.** For
every sequence of tokens in which each one that replaces the open burst makes a burst of its own: the
members of the closed bursts and of the open one are the accepted tokens in order, in groups of 1 to 64
that agree, alone where there is a verifier delta or an objective boundary; closed bursts are closed
and one is open at most; and each returned revision succeeds the previous one of its burst. -/
theorem fold_keeps (inputs : List (ActivityToken × FreshIds)) (hids : DistinctIds inputs)
    (hreplaceable : AllReplaceable inputs) : Kept (foldAll inputs) :=
  (foldAll_inv hids hreplaceable).kept

theorem allReplaceable_of_makes {inputs : List (ActivityToken × FreshIds)}
    (h : ∀ input ∈ inputs, MakesBurst input) : AllReplaceable inputs := by
  intro before input after heq _ _
  exact h input (heq ▸ List.mem_append_right _ List.mem_cons_self)

/-! ## The defect -/

/-- Input `n` of the sample: its token has sequence and watermark `n`. -/
def sampleFold (n : Fin 16) (phase : PhaseKind) : ActivityToken × FreshIds :=
  (SegmentationDetector.sampleToken n 1 phase .none,
    ⟨sampleId (100 + n.castLE sixteen_le), sampleId (200 + n.castLE sixteen_le),
      sampleId (300 + n.castLE sixteen_le), sampleId (400 + n.castLE sixteen_le)⟩)

/-- The second token rests on 65 observations. -/
def crowdedFold : ActivityToken × FreshIds :=
  ({ (sampleFold 2 .verify).1 with sourceObservationRefs := (List.range 65).map fun n => ⟨Fin.ofNat _ n⟩ },
    (sampleFold 2 .verify).2)

def lossyInputs : List (ActivityToken × FreshIds) := [sampleFold 1 .implement, crowdedFold, sampleFold 3 .implement]

/-- **The open burst is lost.** The tokens are in order and all identifiers distinct; the folder accepted
two of the three tokens, and its bursts have one member. -/
theorem crowded_token_loses_burst :
    (lossyInputs.map fun input => input.1.sequence).Pairwise (· < ·) ∧
      (lossyInputs.map fun input => input.1.sourceWatermark).Pairwise (· < ·) ∧ DistinctIds lossyInputs ∧
      ¬ ((foldAll lossyInputs).bursts.flatMap (·.members) = (foldAll lossyInputs).accepted.map memberFromToken) := by
  refine ⟨by decide, by decide, ⟨by decide +kernel, by decide +kernel⟩, fun h => ?_⟩
  have hmembers : ((foldAll lossyInputs).bursts.flatMap (·.members)).length = 1 := by decide +kernel
  have haccepted : (foldAll lossyInputs).accepted.length = 2 := by decide +kernel
  have hlength := congrArg List.length h
  rw [List.length_map, hmembers, haccepted] at hlength
  cases hlength

/-- Two tokens of different phases go to two bursts. -/
theorem fold_keeps_two : Kept (foldAll [sampleFold 1 .implement, sampleFold 2 .verify]) := by
  refine fold_keeps _ ⟨by decide +kernel, by decide +kernel⟩ (allReplaceable_of_makes ?_)
  intro input hinput
  simp only [List.mem_cons, List.not_mem_nil, or_false] at hinput
  rcases hinput with rfl | rfl
  · unfold MakesBurst
    decide +kernel
  · unfold MakesBurst
    decide +kernel

end EverTrace.Bugs.TakenBurst
