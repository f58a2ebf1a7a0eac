import EverTrace.L2Machine.SegmentPerform
import EverTrace.L2Machine.SegmentAlike
/-!
# A restart that moves the left side of a candidate

A candidate remembers the feature of the burst before it, its left side: a
later burst that is closer to the left side than to the candidate retracts it.
The left side is not stored. `restore` takes the burst that stands before the
candidate's burst (evertrace-engine/src/segmentation/detector.rs:236-251); the
live detector has set it in `push`, and there it can be another one:

* a `StructuredSurprise` candidate that objective evidence upgrades moves to
  the evidence's burst but keeps its old left side (detector.rs:325-335);
* a candidate that is created by a token which extends the open burst gets that
  burst itself as its left side (detector.rs:360-384).

Before the first burst there is a third difference: a new detector stands at
watermark 0, a restored one at the episode's watermark.

Counterexample: five quiet bursts, a surprising one, and one with objective
evidence that upgrades the candidate. The next burst returns to the quiet ones
in everything but its phase: the live detector retracts the candidate, the
restored one keeps it.

In a run whose steps set the left side to the burst before (`keepsLeft`) a
restored segmenter answers every further call as the live one does
(`restart_transparent`).
-/
namespace EverTrace.Bugs.RestartLeft
open EverTrace.Lib EverTrace.L1 EverTrace.L2.Work EverTrace.L2.Segmentation
open SegmentationDetector OperationBurstFolder

/-- The feature of the burst that a token starts. -/
def tokenFeature (token : ActivityToken) : BurstFeature where
  operationKind := token.operationKind
  targetFamily := token.targetFamily
  targetRefs := token.targetRefs
  errorSignature := token.errorSignature
  verifier := token.verifierTransition
  stateDelta := token.stateDelta
  phaseCandidate := token.observedPhaseKind

def lastFeature (rolling : List RecentFeature) : Option BurstFeature := rolling.getLast?.map (·.feature)

/-- The token does not move the left side: objective evidence that upgrades a held surprise finds the last burst as
its left side, and a token that creates a candidate while it extends the open burst finds that burst and the one
before alike. -/
def keepsLeft (s : IncrementalSegmenter) (token : ActivityToken) : Bool :=
  match s.detector.candidate with
  | some held =>
    !(held.kind == .structuredSurprise && token.boundaryEvidence.objective
        && token.observedPhaseKind != some held.originalPhase && !returnedLeft held (tokenFeature token))
      || held.leftFeature == lastFeature s.detector.rolling
  | none =>
    !((s.folder.extended token).isSome && s.detector.phaseChange token)
      || lastFeature s.detector.rolling == lastFeature s.detector.rolling.dropLast

/-! ## The defect -/

def failing (o : Observation) : Observation := { o with facts := { o.facts with errorSignature := some "error" } }

/-- Five quiet bursts, a surprising one and its upgrade. -/
def upgradedRun : List Observation :=
  let receipts := [sampleReceipt 1 1]
  [sampleInput 2 "a" none .none receipts, sampleInput 3 "b" none .none receipts, sampleInput 4 "a" none .none receipts,
    sampleInput 5 "b" none .none receipts, sampleInput 6 "a" none .none receipts,
    failing (sampleInput 7 "c" none .none receipts),
    failing (sampleInput 8 "c" (some .verify) .phaseTransition receipts)]

/-- The observation that returns to the quiet bursts. -/
def returning (current : SegmentationCurrentState) : Call :=
  let o := sampleInput 9 "a" (some .verify) .none []
  .observe current o.operationId o.facts o.fresh

/-- Whether the answer to a call retracts the candidate. -/
def retracts : Answer → Option Bool
  | .observed (.ok (.delta step)) => some step.detector.candidateRetracted
  | _ => none

/-- **Counterexample**: after seven committed steps the live segmenter retracts the candidate, the restored one
does not. -/
theorem upgraded_candidate_diverges : ¬ ∀ (episodeId : WorkEpisodeId) (s r : IncrementalSegmenter) (p : Projection)
    (n : Nat) (calls : List Call), Run episodeId (fun _ _ => True) s p n →
    IncrementalSegmenter.restore p.current episodeId = .ok r → (∀ call ∈ calls, call.Later p.current.frontier) →
    answers answerCall r calls = answers answerCall s calls := by
  intro h
  have hdiverges : ((sampleRun (fun _ _ => true) [] 1 upgradedRun).map fun result =>
      ((answers answerCall result.1 [returning result.2.current]).map retracts,
        (IncrementalSegmenter.restore result.2.current (sampleId 1)).toOption.map fun r =>
          (answers answerCall r [returning result.2.current]).map retracts)) =
      some ([some true], some [some false]) := by decide +kernel
  obtain ⟨⟨s, p⟩, hrun, hresult⟩ := Option.map_eq_some_iff.mp hdiverges
  obtain ⟨hlive, hrestored⟩ := Prod.mk.inj hresult
  obtain ⟨r, hr, hrestored⟩ := Option.map_eq_some_iff.mp hrestored
  have hsame := h _ s r p _ [returning p.current] (sampleRun_run (fun _ _ _ => trivial) hrun)
    (toOption_eq_some.mp hr) (by simp [returning, Call.Later])
  rw [hsame, hlive] at hrestored
  cases hrestored

/-! ## When a restart is transparent -/

/-- The candidate's left side is the burst before its own. -/
def LeftKept (s : IncrementalSegmenter) (bursts : List OperationBurst) : Prop :=
  ∀ c, s.detector.candidate = some c → ∃ before b after, bursts = before ++ b :: after ∧
    (∃ m ∈ b.members, m.sourceWatermark = c.sourceWatermark) ∧
    c.leftFeature = before.getLast?.map BurstFeature.fromBurst

theorem lastFeature_eq (rolling : List RecentFeature) :
    lastFeature rolling = (rolling.map (·.feature)).getLast? := List.getLast?_map.symm

section Step

variable {s s' : IncrementalSegmenter} {p : SegmentationCurrentState} {e : WorkEpisode}
  {bursts bursts' : List OperationBurst} {token : ActivityToken} {burst : BurstFoldUpdate} {status : BoundaryStatus}
  {confirmation : Nat} {evidence : List SourceObservationId}

theorem lastFeature_bursts (h : Inv s p e bursts) :
    lastFeature s.detector.rolling = (bursts.map BurstFeature.fromBurst).getLast? := by
  rw [lastFeature_eq, h.window.shown]

theorem LeftKept.step (h : LeftKept s bursts) (hinv : Inv s p e bursts) (hgood : keepsLeft s token = true)
    (hshape : Shape s.folder bursts token burst bursts')
    (hsettles : Settles s.detector token burst s'.detector.candidate status confirmation evidence) :
    LeftKept s' bursts' := by
  intro c hc
  rw [hc] at hsettles
  obtain ⟨before, last, hbursts', hmember, -, -, hfeature, hcase⟩ := hshape.last
  -- a candidate made by this token sits at the last burst
  have hhere : ∀ c : Candidate, c.sourceWatermark = token.sourceWatermark →
      c.leftFeature = before.getLast?.map BurstFeature.fromBurst → ∃ before b after, bursts' = before ++ b :: after ∧
        (∃ m ∈ b.members, m.sourceWatermark = c.sourceWatermark) ∧
        c.leftFeature = before.getLast?.map BurstFeature.fromBurst := by
    intro c hw hleft
    exact ⟨before, last, [], hbursts', ⟨_, List.mem_of_mem_getLast? hmember, hw.symm⟩, hleft⟩
  generalize hcandidate : some c = candidate at hsettles
  cases hsettles with
  | idle | retracted | confirmed => cases hcandidate
  | created hnone hstatus htrigger =>
    obtain rfl := Option.some.inj hcandidate
    refine hhere _ rfl ?_
    show lastFeature s.detector.rolling = _
    rw [← List.getLast?_map]
    rcases hcase with ⟨-, -, hbefore⟩ | ⟨hold, current, hextended, hbursts⟩
    · rw [lastFeature_bursts hinv, hbefore]
    · -- the token extends a burst: it has no evidence and is no surprise
      have hphase : s.detector.phaseChange token = true := by
        rcases htrigger with hevidence | hphase | hsurprise
        · exact absurd (extended_some hextended).2.noEvidence hevidence
        · exact hphase
        · simp only [structuredSurprise, hold, Bool.false_and, Bool.false_eq_true] at hsurprise
      have hequal : lastFeature s.detector.rolling = lastFeature s.detector.rolling.dropLast := by
        simpa [keepsLeft, hnone, hextended, hphase] using hgood
      rw [hequal, lastFeature_eq, List.map_dropLast, hinv.window.shown, hbursts, List.map_append, List.map_singleton,
        List.dropLast_concat]
  | upgraded held hheld hupholds hkind hevidence =>
    obtain rfl := Option.some.inj hcandidate
    refine hhere _ rfl ?_
    show held.leftFeature = _
    rw [← List.getLast?_map]
    rcases hcase with ⟨hnew, -, hbefore⟩ | ⟨-, current, hextended, -⟩
    · have hcurrent : BurstFeature.fromBurst burst.current = tokenFeature token := by
        cases hshape with
        | extended => cases hnew
        | started sealedBursts update fresh b _ _ _ hopened => rw [hopened]; rfl
      obtain ⟨hphase, hleft⟩ := hupholds
      rw [hcurrent] at hleft
      have hequal : held.leftFeature = lastFeature s.detector.rolling := by
        simpa [keepsLeft, hheld, hkind, BoundaryEvidence.objective, hevidence, hphase, hleft] using hgood
      rw [hequal, lastFeature_bursts hinv, hbefore]
    · exact absurd (extended_some hextended).2.noEvidence hevidence
  | kept held hheld =>
    obtain rfl := Option.some.inj hcandidate
    obtain ⟨left, b, right, hsplit, ⟨m, hm, hw⟩, hleft⟩ := h held hheld
    obtain ⟨left', b', right', hsplit', hsame, -, hmembers, -⟩ := hshape.carry hsplit
    refine ⟨left', b', right', hsplit', ⟨m, hmembers m hm, by rw [hw, observed_sourceWatermark]⟩, ?_⟩
    rw [observed_leftFeature, hleft, ← List.getLast?_map, ← List.getLast?_map, hsame]

end Step

theorem leftKept_stepInvariant : StepInvariant (fun s token => keepsLeft s token = true)
    (fun s bursts n => (0 < n → bursts ≠ []) ∧ LeftKept s bursts) where
  start := by
    intro s hnone
    refine ⟨fun h => absurd h (lt_irrefl 0), fun c hc => ?_⟩
    rw [hnone] at hc
    cases hc
  step := by
    intro s s' p p' e e' bursts bursts' token burst status confirmation evidence n hinv hholds hgood _ hshape hsettles _
    refine ⟨fun _ => ?_, hholds.2.step hinv hgood hshape hsettles⟩
    obtain ⟨before, last, hbursts', -⟩ := hshape.last
    simp [hbursts']

/-- With the left side kept, `restore` rebuilds the live candidate. -/
theorem relocated_eq {s : IncrementalSegmenter} {p : SegmentationCurrentState} {e : WorkEpisode}
    {bursts : List OperationBurst} (h : Inv s p e bursts) (hleft : LeftKept s bursts) {candidate : Option Candidate}
    (hrelocated : Relocated bursts s.detector.candidate candidate) : candidate = s.detector.candidate := by
  cases hlive : s.detector.candidate with
  | none =>
    rw [hlive] at hrelocated
    exact hrelocated
  | some c =>
    rw [hlive] at hrelocated
    obtain ⟨before, b, after, hsplit, hw, hrebuilt⟩ := hrelocated
    obtain ⟨before₀, b₀, after₀, hsplit₀, ⟨m, hm, hmember⟩, hfeature⟩ := hleft c hlive
    obtain ⟨rfl, -, -⟩ := h.chain.burst_of_watermark hsplit₀ hsplit hm (hw.trans hmember.symm)
    rw [hrebuilt, ← hfeature]

/-- **Restart transparency.** After a run whose steps keep the left side, a restored segmenter answers every further
sequence of calls as the live one does, once a step is committed or as long as the calls lie above the episode's
watermark. -/
theorem restart_transparent {episodeId : WorkEpisodeId} {s r : IncrementalSegmenter} {p : Projection} {n : Nat}
    (hrun : Run episodeId (fun s token => keepsLeft s token = true) s p n)
    (hrestore : IncrementalSegmenter.restore p.current episodeId = .ok r) (calls : List Call)
    (hlater : ∀ call ∈ calls, call.Later p.current.frontier)
    (hfirst : 0 < n ∨ ∀ e, p.current.episode episodeId = some e → ∀ call ∈ calls, call.Above e.sourceWatermark) :
    answers answerCall r calls = answers answerCall s calls := by
  obtain ⟨rfl, e, bursts, hinv, hnonempty, hleft⟩ := run_inv leftKept_stepInvariant hrun
  obtain ⟨candidate, hrelocated, rfl⟩ := hinv.restore_iff.mp hrestore
  obtain rfl := relocated_eq hinv hleft hrelocated
  rcases hfirst with hpositive | habove
  · have halike : Alike p.current.frontier 0 s (restored s p.current e bursts s.detector.candidate) :=
      restored_alike hinv (.inl (hnonempty hpositive))
    refine ((alike_bisimulation p.current.frontier 0).answers_eq calls _ _ halike ?_).symm
    exact fun call hcall => ⟨hlater call hcall, .inl rfl⟩
  · have halike := restored_alike hinv (.inr le_rfl)
    refine ((alike_bisimulation p.current.frontier e.sourceWatermark).answers_eq calls _ _ halike ?_).symm
    exact fun call hcall => ⟨hlater call hcall, .inr (habove e hinv.episode call hcall)⟩

/-- The quiet bursts and the surprising one: the candidate is restored with its left side. -/
theorem restart_transparent_sample : ∃ s r p, Run (sampleId 1) (fun s token => keepsLeft s token = true) s p 6 ∧
    s.detector.candidate.isSome = true ∧ IncrementalSegmenter.restore p.current (sampleId 1) = .ok r ∧
    answers answerCall r [returning p.current] = answers answerCall s [returning p.current] := by
  have hruns : ((sampleRun keepsLeft [] 1 (upgradedRun.take 6)).map fun result =>
      (result.1.detector.candidate.isSome, (IncrementalSegmenter.restore result.2.current (sampleId 1)).isOk)) =
      some (true, true) := by decide +kernel
  obtain ⟨⟨s, p⟩, hresult, hflags⟩ := Option.map_eq_some_iff.mp hruns
  obtain ⟨hsome, hok⟩ := Prod.mk.inj hflags
  have hrun : Run (sampleId 1) (fun s token => keepsLeft s token = true) s p 6 :=
    sampleRun_run (fun _ _ h => h) hresult
  cases hrestore : IncrementalSegmenter.restore p.current (sampleId 1) with
  | error e =>
    rw [hrestore] at hok
    cases hok
  | ok r =>
    exact ⟨s, r, p, hrun, hsome, hrestore,
      restart_transparent hrun hrestore _ (by simp [returning, Call.Later]) (.inl (by decide))⟩

end EverTrace.Bugs.RestartLeft
