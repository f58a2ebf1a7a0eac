import EverTrace.L2Machine.EpisodeCommit
/-!
# The segmenter, the episode and its bursts

`Inv` relates a live segmenter to the committed episode and to the bursts the
store holds for it, in the order in which they were started. `Chain` is what
the bursts keep among themselves, `Shape` what one step makes of them, `Placed`
where the boundary candidate sits among them.

Results:
* `Chain.burst_of_watermark`: a member's watermark tells its burst.
* `Shape.carry`: a step leaves every burst at its place.
-/
namespace EverTrace.L2.Segmentation
open EverTrace.Lib EverTrace.L1 EverTrace.L2.Work
open SegmentationDetector OperationBurstFolder

/-! ## The bursts of an episode -/

/-- Valid bursts of distinct ids, each observed after the one before. -/
structure Chain (bursts : List OperationBurst) : Prop where
  valid : ∀ b ∈ bursts, b.validate = .ok ()
  distinct : (bursts.map (·.operationBurstId)).Nodup
  apart : bursts.Pairwise fun a b => ∀ m ∈ b.members, a.sourceWatermark < m.sourceWatermark

namespace Chain

theorem valid' {bursts : List OperationBurst} (h : Chain bursts) {b : OperationBurst} (hb : b ∈ bursts) : b.Valid :=
  OperationBurst.validate_valid (h.valid b hb)

theorem ordered {bursts : List OperationBurst} (h : Chain bursts) :
    bursts.Pairwise fun a b => a.sourceWatermark < b.sourceWatermark := by
  refine h.apart.imp_of_mem fun {a b} _ hb hab => ?_
  obtain ⟨m, hm, hwatermark⟩ := (h.valid' hb).exists_last
  have := hab m (List.mem_of_mem_getLast? hm)
  omega

/-- The last burst may grow by later members. -/
theorem replaceLast {init : List OperationBurst} {b b' : OperationBurst} (h : Chain (init ++ [b]))
    (hvalid : b'.validate = .ok ()) (hid : b'.operationBurstId = b.operationBurstId)
    (hmembers : ∀ m ∈ b'.members, m ∈ b.members ∨ b.sourceWatermark ≤ m.sourceWatermark) : Chain (init ++ [b']) := by
  have hordered := (List.pairwise_append.mp h.ordered).2.2
  obtain ⟨hinit, -, hlast⟩ := List.pairwise_append.mp h.apart
  refine ⟨fun x hx => ?_, ?_, List.pairwise_append.mpr ⟨hinit, List.pairwise_singleton _ _, ?_⟩⟩
  · rcases List.mem_append.mp hx with hx | hx
    · exact h.valid x (List.mem_append_left _ hx)
    · rw [List.mem_singleton.mp hx]
      exact hvalid
  · have hdistinct := h.distinct
    rw [List.map_append, List.map_singleton] at hdistinct ⊢
    rw [hid]
    exact hdistinct
  · intro a ha x hx m hm
    rw [List.mem_singleton.mp hx] at hm
    rcases hmembers m hm with hm | hm
    · exact hlast a ha b List.mem_cons_self m hm
    · have := hordered a ha b List.mem_cons_self
      omega

theorem append {bursts : List OperationBurst} {b : OperationBurst} (h : Chain bursts)
    (hvalid : b.validate = .ok ()) (hfresh : b.operationBurstId ∉ bursts.map (·.operationBurstId))
    (hlater : ∀ a ∈ bursts, ∀ m ∈ b.members, a.sourceWatermark < m.sourceWatermark) : Chain (bursts ++ [b]) := by
  refine ⟨fun x hx => ?_, ?_, List.pairwise_append.mpr ⟨h.apart, List.pairwise_singleton _ _, ?_⟩⟩
  · rcases List.mem_append.mp hx with hx | hx
    · exact h.valid x hx
    · rw [List.mem_singleton.mp hx]
      exact hvalid
  · rw [List.map_append, List.map_singleton, List.nodup_append]
    refine ⟨h.distinct, List.nodup_singleton _, fun x hx y hy => ?_⟩
    rw [List.mem_singleton.mp hy]
    exact fun hxy => hfresh (hxy ▸ hx)
  · intro a ha x hx m hm
    rw [List.mem_singleton.mp hx] at hm
    exact hlater a ha m hm

/-- A member's watermark tells its burst. -/
theorem burst_of_watermark {bursts before before' after after' : List OperationBurst} {b b' : OperationBurst}
    {m : OperationBurstMember} (h : Chain bursts) (hsplit : bursts = before ++ b :: after)
    (hsplit' : bursts = before' ++ b' :: after') (hm : m ∈ b.members) (hw : b'.sourceWatermark = m.sourceWatermark) :
    before = before' ∧ b = b' ∧ after = after' := by
  have hle := (h.valid' (hsplit ▸ List.mem_append_right _ List.mem_cons_self)).le_watermark hm
  have happart := h.apart
  have hordered := h.ordered
  rcases List.append_eq_append_iff.mp (hsplit.symm.trans hsplit') with ⟨gap, hbefore, hrest⟩ | ⟨gap, hbefore, hrest⟩
  · cases gap with
    | nil =>
      obtain ⟨rfl, rfl⟩ := List.cons.inj hrest
      exact ⟨by simpa using hbefore.symm, rfl, rfl⟩
    | cons x gap =>
      -- `b` comes before `b'`, so `b'` lies above every member of `b`
      obtain ⟨rfl, rfl⟩ := List.cons.inj hrest
      rw [hsplit] at hordered
      have := (List.pairwise_cons.mp (List.pairwise_append.mp hordered).2.1).1 b' (by simp)
      omega
  · cases gap with
    | nil =>
      obtain ⟨rfl, rfl⟩ := List.cons.inj hrest
      exact ⟨by simpa using hbefore, rfl, rfl⟩
    | cons x gap =>
      obtain ⟨rfl, rfl⟩ := List.cons.inj hrest
      rw [hsplit'] at happart
      have := (List.pairwise_cons.mp (List.pairwise_append.mp happart).2.1).1 b (by simp) m hm
      omega

end Chain

/-- The open burst at the end, if there is one, has got its closing revision. -/
inductive Sealed : List OperationBurst → List OperationBurst → Prop
  | nil : Sealed [] []
  | last (init : List OperationBurst) (b : OperationBurst) (revisionId : RevisionId)
      (hvalid : (closedBurst b revisionId).validate = .ok ()) :
    Sealed (init ++ [b]) (init ++ [closedBurst b revisionId])

namespace Sealed

variable {bursts sealedBursts : List OperationBurst}

theorem map_id (h : Sealed bursts sealedBursts) :
    sealedBursts.map (·.operationBurstId) = bursts.map (·.operationBurstId) := by
  cases h with
  | nil => rfl
  | last init b revisionId => simp [closedBurst]

theorem map_feature (h : Sealed bursts sealedBursts) :
    sealedBursts.map BurstFeature.fromBurst = bursts.map BurstFeature.fromBurst := by
  cases h with
  | nil => rfl
  | last init b revisionId => simp [closedBurst, BurstFeature.fromBurst]

theorem seenEntries_eq (h : Sealed bursts sealedBursts) :
    sealedBursts.flatMap seenEntries = bursts.flatMap seenEntries := by
  cases h with
  | nil => rfl
  | last init b revisionId => simp [closedBurst, seenEntries, seenFromBurst]

theorem chain (h : Sealed bursts sealedBursts) (hchain : Chain bursts) : Chain sealedBursts := by
  cases h with
  | nil => exact hchain
  | last init b revisionId hvalid => exact hchain.replaceLast hvalid rfl fun m hm => .inl hm

theorem closed (h : Sealed bursts sealedBursts) (hearlier : ∀ b ∈ bursts.dropLast, b.lifecycle = .closed) :
    ∀ b ∈ sealedBursts, b.lifecycle = .closed := by
  cases h with
  | nil => intro b hb; cases hb
  | last init b revisionId =>
    intro x hx
    rw [List.dropLast_concat] at hearlier
    rcases List.mem_append.mp hx with hx | hx
    · exact hearlier x hx
    · rw [List.mem_singleton.mp hx]
      rfl

/-- Sealing keeps the watermarks. -/
theorem watermark_of_mem (h : Sealed bursts sealedBursts) {a : OperationBurst} (ha : a ∈ sealedBursts) :
    ∃ b ∈ bursts, b.sourceWatermark = a.sourceWatermark := by
  cases h with
  | nil => cases ha
  | last init b revisionId =>
    rcases List.mem_append.mp ha with ha | ha
    · exact ⟨a, List.mem_append_left _ ha, rfl⟩
    · exact ⟨b, List.mem_append_right _ List.mem_cons_self, by rw [List.mem_singleton.mp ha]; rfl⟩

end Sealed

/-- How a step changes the bursts of its episode: the last one grows, or it is sealed and a new one follows
(with its closing revision, if the step confirmed the boundary). -/
inductive Shape (folder : OperationBurstFolder) (bursts : List OperationBurst) (token : ActivityToken) :
    BurstFoldUpdate → List OperationBurst → Prop
  | extended (init : List OperationBurst) (current : OperationBurst) (revisionId : RevisionId)
      (hextended : folder.extended token = some current) (hbursts : bursts = init ++ [current]) :
    Shape folder bursts token ⟨extendBurst current token revisionId, none, false, false, false⟩
      (init ++ [extendBurst current token revisionId])
  | started (sealedBursts : List OperationBurst) (update : BurstFoldUpdate) (fresh : FreshIds) (last : OperationBurst)
      (hextended : folder.extended token = none) (hsealed : Sealed bursts sealedBursts)
      (hnew : update.startedNew = true) (hcurrent : update.current = openBurst token fresh)
      (hlast : last = openBurst token fresh ∨ ∃ revisionId, last = closedBurst (openBurst token fresh) revisionId) :
    Shape folder bursts token update (sealedBursts ++ [last])

namespace Shape

variable {folder : OperationBurstFolder} {bursts bursts' : List OperationBurst} {token : ActivityToken}
  {update : BurstFoldUpdate}

theorem last (h : Shape folder bursts token update bursts') : ∃ before b, bursts' = before ++ [b] ∧
    b.members.getLast? = some (memberFromToken token) ∧ b.sourceWatermark = token.sourceWatermark ∧
    b.attemptId = token.attemptId ∧ BurstFeature.fromBurst b = .fromBurst update.current ∧
    (update.startedNew = true ∧ folder.extended token = none ∧
        before.map BurstFeature.fromBurst = bursts.map BurstFeature.fromBurst ∨
      update.startedNew = false ∧ ∃ current, folder.extended token = some current ∧ bursts = before ++ [current]) := by
  cases h with
  | extended init current revisionId hextended hbursts =>
    have hattempt := (extended_some hextended).2.attempt
    exact ⟨init, _, rfl, by simp [extendBurst], rfl, hattempt, rfl, .inr ⟨rfl, current, hextended, hbursts⟩⟩
  | started sealedBursts update fresh b hextended hsealed hnew hcurrent hlast =>
    refine ⟨sealedBursts, b, rfl, ?_, ?_, ?_, ?_, .inl ⟨hnew, hextended, hsealed.map_feature⟩⟩
    all_goals
      rcases hlast with rfl | ⟨revisionId, rfl⟩ <;>
        simp [openBurst, closedBurst, BurstFeature.fromBurst, hcurrent]

theorem map_feature (h : Shape folder bursts token update bursts') : bursts'.map BurstFeature.fromBurst =
    if update.startedNew then bursts.map BurstFeature.fromBurst ++ [.fromBurst update.current]
    else bursts.map BurstFeature.fromBurst := by
  obtain ⟨before, b, hbursts', -, -, -, hb, hcase⟩ := h.last
  rw [hbursts', List.map_append, List.map_singleton, hb]
  rcases hcase with ⟨hnew, -, hbefore⟩ | ⟨hnew, current, hextended, hbursts⟩
  · rw [if_pos hnew, hbefore]
  · rw [if_neg (by simp [hnew])]
    cases h with
    | extended init current' revisionId hextended' hbursts'' =>
      rw [hbursts, List.map_append, List.map_singleton]
      obtain rfl : current' = current := Option.some.inj (hextended'.symm.trans hextended)
      rfl
    | started _ _ _ _ hnone => rw [hnone] at hextended; cases hextended

theorem seenEntries_eq (h : Shape folder bursts token update bursts') :
    bursts'.flatMap seenEntries =
      bursts.flatMap seenEntries ++ [(token.operationId, seenFromBurst update.current (memberFromToken token))] := by
  cases h with
  | extended init current revisionId hextended hbursts =>
    subst hbursts
    simp [extendBurst, seenEntries, seenFromBurst, memberFromToken]
  | started sealedBursts update fresh b hextended hsealed hnew hcurrent hlast =>
    rw [List.flatMap_append, hsealed.seenEntries_eq, hcurrent]
    rcases hlast with rfl | ⟨revisionId, rfl⟩ <;>
      simp [openBurst, closedBurst, seenEntries, seenFromBurst, memberFromToken]

theorem mem_map_id (h : Shape folder bursts token update bursts') (id : OperationBurstId) :
    id ∈ bursts'.map (·.operationBurstId) ↔
      id ∈ bursts.map (·.operationBurstId) ∨ id = update.current.operationBurstId := by
  cases h with
  | extended init current revisionId hextended hbursts =>
    subst hbursts
    simp only [List.map_append, List.map_singleton, List.mem_append, List.mem_singleton, extendBurst]
    tauto
  | started sealedBursts update fresh b hextended hsealed hnew hcurrent hlast =>
    have hid : b.operationBurstId = update.current.operationBurstId := by
      rw [hcurrent]
      rcases hlast with rfl | ⟨revisionId, rfl⟩ <;> rfl
    rw [List.map_append, List.mem_append, hsealed.map_id, List.map_singleton, List.mem_singleton, hid]

theorem started_members (h : Shape folder bursts token update bursts') (hnew : update.startedNew = true) :
    update.current.members = [memberFromToken token] := by
  cases h with
  | extended => cases hnew
  | started sealedBursts update fresh b hextended hsealed hnew hcurrent hlast =>
    rw [hcurrent]
    rfl

/-- Every burst is still there, at the same place, with the same feature and its members. -/
theorem carry (h : Shape folder bursts token update bursts') {before after : List OperationBurst} {b : OperationBurst}
    (hsplit : bursts = before ++ b :: after) : ∃ before' b' after', bursts' = before' ++ b' :: after' ∧
      before'.map BurstFeature.fromBurst = before.map BurstFeature.fromBurst ∧
      BurstFeature.fromBurst b' = .fromBurst b ∧ (∀ m ∈ b.members, m ∈ b'.members) ∧
      (b'.sourceWatermark = b.sourceWatermark ∨ folder.extended token = some b) := by
  rcases List.eq_nil_or_concat after with rfl | ⟨tail, x, hafter⟩
  · -- `b` is the last burst
    cases h with
    | extended init current revisionId hextended hbursts =>
      obtain ⟨rfl, hb⟩ := List.append_inj' (hbursts.symm.trans hsplit) rfl
      obtain rfl : current = b := by simpa using hb
      exact ⟨init, _, [], rfl, rfl, rfl, fun m hm => List.mem_append_left _ hm, .inr hextended⟩
    | started sealedBursts update fresh last hextended hsealed hnew hcurrent hlast =>
      cases hsealed with
      | nil => simp at hsplit
      | last init current revisionId =>
        obtain ⟨rfl, hb⟩ := List.append_inj' hsplit rfl
        obtain rfl : current = b := by simpa using hb
        refine ⟨init, closedBurst current revisionId, [last], by simp, rfl, rfl, fun m hm => hm, .inl rfl⟩
  · rw [List.concat_eq_append] at hafter
    subst hafter
    have hsame : ∀ init current, bursts = init ++ [current] → init = before ++ b :: tail := by
      intro init current hbursts
      rw [hsplit, ← List.cons_append, ← List.append_assoc] at hbursts
      exact (List.append_inj' hbursts rfl).1.symm
    cases h with
    | extended init current revisionId hextended hbursts =>
      rw [hsame init current hbursts]
      exact ⟨before, b, tail ++ [extendBurst current token revisionId], by simp, rfl, rfl, fun m hm => hm, .inl rfl⟩
    | started sealedBursts update fresh last hextended hsealed hnew hcurrent hlast =>
      cases hsealed with
      | nil => simp at hsplit
      | last init current revisionId =>
        rw [hsame init current rfl]
        exact ⟨before, b, tail ++ [closedBurst current revisionId, last], by simp, rfl, rfl, fun m hm => hm, .inl rfl⟩

end Shape

/-! ## Where a candidate sits -/

/-- The candidate was created by one of the burst's members. -/
structure Placed (c : Candidate) (b : OperationBurst) : Prop where
  feature : c.feature = .fromBurst b
  member : ∃ m ∈ b.members, m.sourceWatermark = c.sourceWatermark ∧ ∀ id ∈ c.evidenceRefs, id ∈ m.sourceObservationRefs

theorem Placed.grow {c : Candidate} {b b' : OperationBurst} (h : Placed c b)
    (hfeature : BurstFeature.fromBurst b' = .fromBurst b) (hmembers : ∀ m ∈ b.members, m ∈ b'.members) : Placed c b' := by
  obtain ⟨m, hm, hrest⟩ := h.member
  exact ⟨h.feature.trans hfeature.symm, m, hmembers m hm, hrest⟩

/-- The candidate as the episode stores it. -/
def Candidate.state (c : Candidate) : BoundaryCandidateState where
  candidatePhaseKind := c.proposedPhase
  candidateWatermark := c.sourceWatermark
  evidenceRefs := c.evidenceRefs
  kind := c.kind
  refinementProgress := c.observations

theorem candidateState_update (d : SegmentationDetector) (token : ActivityToken) (alignment : AlignmentOutcome)
    (retracted : Bool) (evidence : List SourceObservationId) :
    (d.update token alignment retracted evidence).candidateState = d.candidate.map Candidate.state := by
  unfold DetectorUpdate.candidateState SegmentationDetector.update
  cases d.candidate <;> rfl

/-! ## The invariant -/

/-- A live segmenter, the committed episode and the episode's bursts belong together. -/
structure Inv (s : IncrementalSegmenter) (p : SegmentationCurrentState) (e : WorkEpisode)
    (bursts : List OperationBurst) : Prop where
  idle : s.pending = none
  episode : p.episode s.episodeId = some e
  revision : e.revisionId = s.committedEpisodeRevisionId
  frontier : s.committedFrontier ≤ p.frontier
  valid : e.Valid
  closed : s.closed = (e.lifecycleStatus != .open_)
  chain : Chain bursts
  refs : ∀ id, id ∈ e.operationBurstRefs ↔ id ∈ bursts.map (·.operationBurstId)
  lookup : ∀ b ∈ bursts, p.bursts b.operationBurstId = some b
  earlier : ∀ b ∈ bursts.dropLast, b.lifecycle = .closed
  current : s.closed = false → s.folder.current = bursts.getLast? ∧ ∀ b, bursts.getLast? = some b → b.lifecycle = .open_
  sealedLast : s.closed = true → ∀ b, bursts.getLast? = some b → b.lifecycle = .closed
  seen : (bursts.flatMap seenEntries).foldlM recordSeen (fun _ => none) = .ok s.folder.seen
  window : Window s.detector (bursts.map .fromBurst)
  task : s.detector.taskId = e.taskId
  workstream : s.detector.workstreamId = e.workstreamId
  episodeId : s.detector.episodeId = e.episodeId
  contract : s.detector.phaseContract = e.phaseContract
  lastSequence : s.detector.lastSequence = (replayed e bursts).lastSequence
  watermark : s.detector.sourceWatermark = (replayed e bursts).sourceWatermark
  lastAttempt : s.detector.lastAttemptId = (replayed e bursts).lastAttemptId
  synced : bursts ≠ [] → e.sourceWatermark = s.detector.sourceWatermark
  status : e.boundaryStatus = s.detector.boundaryStatus
  confirmation : e.confirmationWatermark = s.detector.confirmationWatermark
  candidate : e.boundaryCandidate = s.detector.candidate.map Candidate.state
  original : ∀ c, s.detector.candidate = some c → c.originalPhase = e.phaseContract.phaseKind
  placed : ∀ c, s.detector.candidate = some c → ∃ before b after, bursts = before ++ b :: after ∧ Placed c b

/-- The episode's own check keeps the bursts it lists at 64. -/
theorem few_of_refs {e : WorkEpisode} {bursts : List OperationBurst} (hvalid : e.Valid)
    (hdistinct : (bursts.map (·.operationBurstId)).Nodup) (hrefs : ∀ b ∈ bursts, b.operationBurstId ∈ e.operationBurstRefs) :
    bursts.length ≤ 64 := by
  have hlists := hvalid.lists
  have hids : ids e.operationBurstRefs = true := by
    simp only [WorkEpisode.allLists, List.all_cons, id, Bool.and_eq_true] at hlists
    tauto
  have hsub := (List.subperm_of_subset hdistinct fun id hid => by
    obtain ⟨b, hb, rfl⟩ := List.mem_map.mp hid
    exact hrefs b hb).length_le
  have hlen := (ids_iff.mp hids).1
  rw [List.length_map] at hsub
  omega

namespace Inv

variable {s : IncrementalSegmenter} {p : SegmentationCurrentState} {e : WorkEpisode} {bursts : List OperationBurst}

theorem stored (h : Inv s p e bursts) : Stored e bursts := by
  have hlisted : ∀ b ∈ bursts, b.operationBurstId ∈ e.operationBurstRefs :=
    fun b hb => (h.refs _).mpr (List.mem_map_of_mem hb)
  exact ⟨h.chain.valid, few_of_refs h.valid h.chain.distinct hlisted, h.chain.distinct, hlisted, h.chain.ordered⟩

theorem not_confirmed (h : Inv s p e bursts) (hopen : s.closed = false) : s.detector.boundaryStatus ≠ .confirmed := by
  have hlifecycle : e.lifecycleStatus = .open_ := by simpa [h.closed] using hopen
  rw [← h.status]
  exact (h.valid.openShape hlifecycle).1

theorem le_watermark (h : Inv s p e bursts) {b : OperationBurst} (hb : b ∈ bursts) :
    b.sourceWatermark ≤ s.detector.sourceWatermark := by
  rcases List.eq_nil_or_concat bursts with rfl | ⟨init, last, hbursts⟩
  · cases hb
  · rw [List.concat_eq_append] at hbursts
    have hlast : s.detector.sourceWatermark = last.sourceWatermark := by
      rw [h.watermark, hbursts]
      simp [replayed]
    have hordered := h.chain.ordered
    rw [hbursts] at hb hordered
    rcases List.mem_append.mp hb with hb | hb
    · have := (List.pairwise_append.mp hordered).2.2 b hb last List.mem_cons_self
      omega
    · rw [List.mem_singleton.mp hb]
      omega

end Inv

end EverTrace.L2.Segmentation
