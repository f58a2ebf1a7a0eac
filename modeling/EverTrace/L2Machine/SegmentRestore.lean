import EverTrace.L2Machine.SegmentRun
/-!
# Restoring a segmenter from the store

From a state with `Inv`, `restore` finds the bursts of the episode in the order
in which they were started, replays them into a folder and a detector, and
looks the stored candidate up by its watermark.

Results:
* `recentBursts_eq`: the store yields exactly the bursts of the invariant.
* `restore_iff`: `restore` can fail only at the candidate, and what it returns differs from the live
  segmenter in the candidate's left side and in what a closed segmenter no longer reads.
-/
namespace EverTrace.L2.Segmentation
open EverTrace.Lib EverTrace.L1 EverTrace.L2.Work
open SegmentationDetector OperationBurstFolder IncrementalSegmenter

theorem mapM_lookup {current : SegmentationCurrentState} {bursts : List OperationBurst} : ∀ {l : List OperationBurstId},
    (∀ id ∈ l, ∃ b ∈ bursts, b.operationBurstId = id ∧ current.bursts id = some b) →
    ∃ found, l.mapM (fun id => okOr StoreError.storeCorrupt (current.bursts id)) = .ok found ∧
      found.map (·.operationBurstId) = l ∧ ∀ b ∈ found, b ∈ bursts := by
  intro l
  induction l with
  | nil => intro _; exact ⟨[], rfl, rfl, by simp⟩
  | cons id rest ih =>
    intro h
    obtain ⟨found, hfound, hmap, hmem⟩ := ih fun id hid => h id (List.mem_cons_of_mem _ hid)
    obtain ⟨b, hb, hid, hlookup⟩ := h id List.mem_cons_self
    refine ⟨b :: found, ?_, by simp [hmap, hid], ?_⟩
    · rw [List.mapM_cons, hlookup, hfound]
      rfl
    · intro x hx
      rcases List.mem_cons.mp hx with rfl | hx
      · exact hb
      · exact hmem x hx

section Restore

variable {s : IncrementalSegmenter} {p : SegmentationCurrentState} {e : WorkEpisode} {bursts : List OperationBurst}

/-- The store shows the bursts of the episode in the order in which they were started. -/
theorem Inv.recentBursts_eq (h : Inv s p e bursts) : p.recentBursts e = .ok bursts := by
  have hrefs := h.valid.lists
  have hids : ids e.operationBurstRefs = true := by
    simp only [WorkEpisode.allLists, List.all_cons, id, Bool.and_eq_true] at hrefs
    tauto
  obtain ⟨hlength, hordered⟩ := ids_iff.mp hids
  have hknown : ∀ id ∈ e.operationBurstRefs, ∃ b ∈ bursts, b.operationBurstId = id ∧ p.bursts id = some b := by
    intro id hid
    obtain ⟨b, hb, rfl⟩ := List.mem_map.mp ((h.refs id).mp hid)
    exact ⟨b, hb, rfl, h.lookup b hb⟩
  obtain ⟨found, hfound, hmap, hmem⟩ := mapM_lookup hknown
  -- as many, distinct, and the same ones
  have hperm : found.Perm bursts := by
    have hnodup : (found.map (·.operationBurstId)).Nodup := by
      rw [hmap]
      exact hordered.imp fun hlt => hlt.ne
    refine (List.perm_ext_iff_of_nodup hnodup.of_map h.chain.distinct.of_map).mpr fun b => ⟨hmem b, fun hb => ?_⟩
    have hid := (h.refs _).mpr (List.mem_map_of_mem hb)
    rw [← hmap] at hid
    obtain ⟨b', hb', hsame⟩ := List.mem_map.mp hid
    exact List.inj_on_of_nodup_map h.chain.distinct (hmem b' hb') hb hsame ▸ hb'
  have hkeys : (found.map (·.sourceWatermark)).Nodup := by
    rw [(hperm.map _).nodup_iff, List.nodup_iff_pairwise_ne, List.pairwise_map]
    exact h.chain.ordered.imp fun hlt => hlt.ne
  have hsorted : sortByKey (·.sourceWatermark) found = bursts := by
    rw [sortByKey_eq_of_perm _ hperm hkeys]
    exact List.Pairwise.insertionSort_eq (h.chain.ordered.imp fun hlt => hlt.le)
  have : IsTrans OperationBurst fun a b => a.sourceWatermark < b.sourceWatermark :=
    ⟨fun _ _ _ hab hbc => hab.trans hbc⟩
  have hchain := List.isChain_iff_pairwise.mpr h.chain.ordered
  unfold SegmentationCurrentState.recentBursts
  rw [if_neg (by omega), hfound]
  simp only [bind, Except.bind, hsorted]
  rw [if_neg (not_not.mpr hchain)]
  rfl

/-- The open burst is the last one, unless the segmenter is closed. -/
theorem Inv.filter_open (h : Inv s p e bursts) :
    bursts.filter (fun b => b.lifecycle == .open_) = if s.closed then [] else bursts.getLast?.toList := by
  rcases List.eq_nil_or_concat bursts with hnil | ⟨init, last, hbursts⟩
  · simp [hnil]
  · rw [List.concat_eq_append] at hbursts
    have hinit : init.filter (fun b => b.lifecycle == .open_) = [] := by
      rw [List.filter_eq_nil_iff]
      intro b hb
      rw [h.earlier b (by rw [hbursts, List.dropLast_concat]; exact hb)]
      decide
    have hlast : bursts.getLast? = some last := by rw [hbursts, List.getLast?_concat]
    rw [hlast, hbursts, List.filter_append, hinit, List.nil_append]
    cases hclosed : s.closed with
    | false =>
      have := (h.current hclosed).2 last hlast
      simp [this]
    | true =>
      have := h.sealedLast hclosed last hlast
      simp [this]

theorem Inv.restore_folder (h : Inv s p e bursts) : OperationBurstFolder.restore bursts =
    .ok ⟨if s.closed then none else s.folder.current, s.folder.seen⟩ := by
  have hopen := h.filter_open
  rw [OperationBurstFolder.restore_ok h.chain.valid h.stored.few ?_ h.seen, hopen]
  · cases hclosed : s.closed with
    | false =>
      rw [(h.current hclosed).1]
      cases bursts.getLast? <;> rfl
    | true => rfl
  · rw [hopen]
    cases s.closed <;> cases bursts.getLast? <;> simp

/-- The candidate of the restored segmenter: it sits at the burst that carries its watermark, and what is left
of that burst is its left side. -/
def Relocated (bursts : List OperationBurst) (live restored : Option Candidate) : Prop :=
  match live with
  | none => restored = none
  | some c => ∃ before b after, bursts = before ++ b :: after ∧ b.sourceWatermark = c.sourceWatermark ∧
      restored = some { c with leftFeature := before.getLast?.map BurstFeature.fromBurst }

def restored (s : IncrementalSegmenter) (p : SegmentationCurrentState) (e : WorkEpisode) (bursts : List OperationBurst)
    (candidate : Option Candidate) : IncrementalSegmenter :=
  { s with
    folder := ⟨if s.closed then none else s.folder.current, s.folder.seen⟩
    detector := synced e bursts candidate
    committedFrontier := p.frontier }

theorem Inv.restore_detector (h : Inv s p e bursts) {d : SegmentationDetector} :
    SegmentationDetector.restore e bursts = .ok d ↔
      ∃ candidate, Relocated bursts s.detector.candidate candidate ∧ d = SegmentationDetector.synced e bursts candidate := by
  rw [SegmentationDetector.restore_eq h.valid h.stored, h.candidate]
  cases hlive : s.detector.candidate with
  | none =>
    refine ⟨fun hd => ⟨none, rfl, (Except.ok.inj hd).symm⟩, fun h => ?_⟩
    obtain ⟨candidate, hnone, hd⟩ := h
    rw [hd, show candidate = none from hnone]
    rfl
  | some c =>
    have hstate : e.boundaryCandidate = some c.state := by rw [h.candidate, hlive]; rfl
    have hwatermark := (h.valid.candidate _ hstate).2
    have hunconfirmed : e.confirmationWatermark = 0 := by
      have hstatus := h.valid.status.mpr (by rw [hstate]; rfl)
      by_contra hne
      rw [h.valid.confirmed.mpr hne] at hstatus
      cases hstatus
    obtain ⟨before₀, b₀, after₀, hsplit₀, hfeature, m, hm, hmember, hevidence⟩ := h.placed c hlive
    have hrolling : (SegmentationDetector.synced e bursts none).rolling = bursts.map .fromBurst := rfl
    simp only [Option.map_some, bind_eq_ok, pure_eq_ok, restoreCandidate_iff hrolling h.chain.ordered]
    -- the burst with the candidate's watermark is the one the candidate sits at
    have hsame : ∀ before b after, bursts = before ++ b :: after → b.sourceWatermark = c.sourceWatermark →
        b₀ = b ∧ rebuilt e c.state before b = { c with leftFeature := before.getLast?.map BurstFeature.fromBurst } := by
      intro before b after hsplit hw
      obtain ⟨-, rfl, -⟩ := h.chain.burst_of_watermark hsplit₀ hsplit hm (hw.trans hmember.symm)
      refine ⟨rfl, ?_⟩
      simp only [rebuilt, Candidate.state, ← h.original c hlive, hfeature]
    refine ⟨fun h => ?_, fun h => ?_⟩
    · obtain ⟨candidate, ⟨before, b, after, hsplit, hw, _, _, _, hcandidate⟩, hd⟩ := h
      refine ⟨some candidate, ⟨before, b, after, hsplit, hw, ?_⟩, hd.symm⟩
      rw [hcandidate, (hsame before b after hsplit hw).2]
    · obtain ⟨candidate, ⟨before, b, after, hsplit, hw, hcandidate⟩, hd⟩ := h
      obtain ⟨hb, hrebuilt⟩ := hsame before b after hsplit hw
      refine ⟨_, ⟨before, b, after, hsplit, hw, hwatermark, hunconfirmed, fun id hid => ?_, rfl⟩, ?_⟩
      · exact ⟨m, hb ▸ hm, hevidence id hid⟩
      · rw [hd, hcandidate, hrebuilt]

/-- **`restore` can fail only at the candidate, and otherwise rebuilds the live segmenter.** -/
theorem Inv.restore_iff (h : Inv s p e bursts) {r : IncrementalSegmenter} :
    IncrementalSegmenter.restore p s.episodeId = .ok r ↔
      ∃ candidate, Relocated bursts s.detector.candidate candidate ∧ r = restored s p e bursts candidate := by
  unfold IncrementalSegmenter.restore
  rw [h.episode]
  simp only [bind_eq_ok, okOr_ok, Option.some.injEq, exists_eq_left', h.recentBursts_eq, mapError_ok, Except.ok.injEq,
    h.restore_folder, pure_eq_ok, h.restore_detector, h.revision, ← h.closed]
  constructor
  · rintro ⟨d, ⟨candidate, hrelocated, hd⟩, hr⟩
    refine ⟨candidate, hrelocated, ?_⟩
    rw [← hr, hd, restored, h.idle]
  · rintro ⟨candidate, hrelocated, hr⟩
    refine ⟨_, ⟨candidate, hrelocated, rfl⟩, ?_⟩
    rw [hr, restored, h.idle]

end Restore

end EverTrace.L2.Segmentation
