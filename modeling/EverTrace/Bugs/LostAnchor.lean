import EverTrace.L2Machine.NormalizeAnchors
/-!
# Bug: a call whose anchor is gone loses its operation

A source-local call stays at the occurrence that anchored it in the earlier
snapshot. `source_local_pairs` takes that occurrence id as it was recorded and
does not ask whether it is still one of this run. The id of a single observation
is made from its strength, and the strength changes when a later observation
contradicts its partial reference; then the pairing goes to an id that no
occurrence has and the call has no operation any more. The next run finds no
anchor, takes the first result's occurrence and makes a new operation: the
result of a run is not what the same run gives on top of it.

* `normalize_again_iff`: a run on top of itself changes nothing exactly when
  every paired call keeps an anchor (`Anchored`). Without an earlier snapshot
  that is always so (`anchored_none`).
* `call_comes_back`: three valid observations and an earlier run for which the
  operation goes and comes back.
-/
namespace EverTrace.Bugs.LostAnchor
open EverTrace.Lib EverTrace.L1 EverTrace.L1.Canonical EverTrace.L2.Work EverTrace.L2.Evidence EverTrace.L2.Normalize

variable {H : Sha256} {n : PhysicalNormalizer} {fresh fresh' : FreshIds} {observations : List SourceObservation}
  {previous : Option NormalizationSnapshot} {out : NormalizationSnapshot}
  {logical logical' : OrdMap HostOccurrenceId SourceLocalPairing}
  {derived : List (Option (Operation × List ScopeEffect))}

/-- Every paired call keeps its anchor: it is an occurrence of this run and no later call is placed there. Or
the occurrence of its first result is the anchor of a later call. -/
def Anchored (H : Sha256) (observations : List SourceObservation) (previous : Option NormalizationSnapshot) : Prop :=
  ∀ groups, localGroups observations = .ok groups → ∀ c ∈ pairedCalls groups,
    Keeps PairedCall.key (pairedCalls groups) (InPlay H observations) (slotOf H observations previous) c ∨
      ∃ c' ∈ pairedCalls groups, c.key < c'.key ∧ slotOf H observations previous c' = ownSlot H observations c

section Run

variable (h : Run H n fresh observations previous out logical derived)
include h

/-- The next run finds the anchor of a call exactly when the call has kept it. -/
theorem previousAnchor_again {groups : OrdMap LocalCallKey (List LocalMember)}
    (hgroups : localGroups observations = .ok groups) {c : PairedCall} (hc : c ∈ pairedCalls groups)
    {id : HostOccurrenceId} : previousAnchor (some out) c.key = some id ↔
      Keeps PairedCall.key (pairedCalls groups) (InPlay H observations) (slotOf H observations previous) c ∧
        slotOf H observations previous c = id := by
  have hkept : ∀ {id}, previousAnchor (some out) c.key = some id →
      Keeps PairedCall.key (pairedCalls groups) (InPlay H observations) (slotOf H observations previous) c ∧
        slotOf H observations previous c = id := by
    intro id hanchor
    obtain ⟨op, hop, rfl, pairing, hpairing, hkey⟩ := previousAnchor_eq_some hanchor
    obtain ⟨c', hheld, rfl⟩ := (h.pairing_iff hgroups hop).mp hpairing
    have hsame : c' = c := eq_of_key_eq (pairedCalls_sorted groups) hheld.1 hc hkey
    subst hsame
    have hplay : InPlay H observations op.hostOccurrenceId := by
      obtain ⟨o, ho, effects, hd⟩ := h.mem_operations.mp hop
      exact h.inPlay_iff.mpr ⟨o, ho, (derived_operation hd).1.symm⟩
    refine ⟨⟨?_, ?_⟩, hheld.2.1⟩
    · rw [hheld.2.1]
      exact hplay
    · rw [hheld.2.1]
      exact hheld.2.2
  refine ⟨hkept, ?_⟩
  rintro ⟨⟨hplay, hlast⟩, rfl⟩
  obtain ⟨op, hop, -, hpairing⟩ := h.exists_carrier hgroups hplay ⟨hc, rfl, hlast⟩
  obtain ⟨id, hanchor⟩ := exists_previousAnchor hop hpairing
  rw [pairedKey_pairing] at hanchor
  rw [hanchor, (hkept hanchor).2]

end Run

/-- **A run that succeeds divides its observations, and made again on top of its own result changes nothing,
exactly when every paired call keeps an anchor.** Without source-local evidence the order of the observations
does not matter either. -/
theorem normalize_again_iff (H : Sha256) (n : PhysicalNormalizer) (fresh : FreshIds)
    (observations : List SourceObservation) (previous : Option NormalizationSnapshot) (out : NormalizationSnapshot)
    (h : normalize H n fresh observations previous = .ok out) :
    (Partitions observations out ∧ (∀ fresh', normalize H n fresh' observations (some out) = .ok out) ∧
      ((∀ o ∈ observations, o.sourceLocalEvidence = none) → ∀ observations', observations'.Perm observations →
        normalize H n fresh observations' previous = .ok out)) ↔
      Anchored H observations previous := by
  obtain ⟨logical, derived, hrun⟩ := normalize_iff.mp h
  obtain ⟨groups, hgroups⟩ := hrun.localGroups_ok
  obtain ⟨_, -, hfirst⟩ := first_nonexact hgroups
  have hsorted := pairedCalls_sorted groups
  have hvalid := ((hrun.sourceLocalPairs_iff hgroups).mp hrun.pairs).1
  -- where the next run places the calls
  have hsettled := @settled_iff _ HostOccurrenceId _ _ _ _ hsorted (slotOf H observations previous) (ownSlot H observations)
    (slotOf H observations (some out)) (InPlay H observations)
    (fun c hc => ⟨c.first, (hfirst c hc).1, rfl⟩)
    (fun c hc hkeep => by rw [slotOf, (previousAnchor_again hrun hgroups hc).mpr ⟨hkeep, rfl⟩, Option.getD_some])
    (fun c hc hlost => by
      have hnone : previousAnchor (some out) c.key = none := Option.eq_none_iff_forall_not_mem.mpr fun id hid =>
        hlost ((previousAnchor_again hrun hgroups hc).mp hid).1
      rw [slotOf, hnone, Option.getD_none])
  have hpairing : ∀ {slot : PairedCall → HostOccurrenceId} {x c c'}, Holds PairedCall.key (pairedCalls groups) slot x c →
      c' ∈ pairedCalls groups → c.pairing = c'.pairing → c = c' := by
    intro slot x c c' hheld hc' heq
    exact eq_of_key_eq hsorted hheld.1 hc' (congrArg pairedKey heq)
  have hagain : ∀ fresh', normalize H n fresh' observations (some out) = .ok out ↔ Anchored H observations previous := by
    intro fresh'
    rw [hrun.again_iff]
    constructor
    · rintro ⟨logical', hpairs, hsame⟩ groups' hgroups'
      rw [hgroups, Except.ok.injEq] at hgroups'
      subst hgroups'
      have hget : ∀ x pairing, logical'.get x = some pairing ↔ ∃ c, Holds PairedCall.key (pairedCalls groups)
          (slotOf H observations (some out)) x c ∧ c.pairing = pairing := by
        intro x pairing
        rw [((hrun.sourceLocalPairs_iff hgroups).mp hpairs).2]
        exact get_place hsorted
      refine hsettled.mp fun x hx c => ?_
      obtain ⟨o, ho, rfl⟩ := hrun.inPlay_iff.mp hx
      constructor
      · intro hheld
        have hfound := (hget _ _).mpr ⟨c, hheld, rfl⟩
        rw [hsame o ho, hrun.get_slot hgroups] at hfound
        obtain ⟨c', hheld', heq⟩ := hfound
        exact hpairing hheld' hheld.1 heq ▸ hheld'
      · intro hheld
        have hfound := (hrun.get_slot hgroups).mpr ⟨c, hheld, rfl⟩
        rw [← hsame o ho, hget] at hfound
        obtain ⟨c', hheld', heq⟩ := hfound
        exact hpairing hheld' hheld.1 heq ▸ hheld'
    · intro hanchored
      refine ⟨_, (hrun.sourceLocalPairs_iff hgroups).mpr ⟨hvalid, rfl⟩, fun o ho => Option.ext fun pairing => ?_⟩
      rw [get_place hsorted, hrun.get_slot hgroups]
      refine exists_congr fun c => and_congr_left' ?_
      exact hsettled.mpr (hanchored groups hgroups) _ (hrun.inPlay_iff.mpr ⟨o, ho, rfl⟩) c
  refine ⟨fun ⟨_, hsame, _⟩ => (hagain fresh).mp (hsame fresh), fun hanchored =>
    ⟨normalize_partitions h, fun fresh' => (hagain fresh').mpr hanchored, ?_⟩⟩
  intro hlocal observations' hperm
  rw [normalize_perm hperm hlocal]
  exact h

/-! ## Without an earlier snapshot -/

theorem anchored_none (H : Sha256) (observations : List SourceObservation) : Anchored H observations none := by
  intro groups hgroups c hc
  obtain ⟨_, -, hfirst⟩ := first_nonexact hgroups
  by_cases hlater : ∃ c' ∈ pairedCalls groups, c.key < c'.key ∧ slotOf H observations none c' = ownSlot H observations c
  · exact .inr hlater
  · refine .inl ⟨⟨c.first, (hfirst c hc).1, rfl⟩, fun c' hc' hlt heq => ?_⟩
    exact hlater ⟨c', hc', hlt, heq⟩

/-! ## A call that loses its anchor -/

/-- Another request under the partial reference of the result. -/
def sampleOther : SourceObservation :=
  sampleObservation "other" (partialCorrelation "another-call" (some "shared") .stateProbe)
    0x4f26438ae0a2bd0833eb8c44561790929af435d458813379417e082ce7174d50
    0xba4d5b4c13e9b83f66c60e85ea2df795b2c12dcabd9595a7b7622d84f8159c50

/-- The two records of a call. -/
def sampleRecords : List SourceObservation := [witnessedIntent, witnessedResult (some "shared")]

def sampleObservations : List SourceObservation := sampleRecords ++ [sampleOther]

/-- The call is paired, then the other record contradicts its partial reference, then nothing new comes. -/
theorem sample_runs : ∃ first second third, sampleRun sampleRecords none = .ok first ∧
    sampleRun sampleObservations (some first) = .ok second ∧ sampleRun sampleObservations (some second) = .ok third ∧
      first.operations.length = 1 ∧ second.operations.length = 0 ∧ third.operations.length = 1 := by
  have hruns : (do
      let first ← sampleRun sampleRecords none
      let second ← sampleRun sampleObservations (some first)
      let third ← sampleRun sampleObservations (some second)
      return (first.operations.length, second.operations.length, third.operations.length)) = .ok (1, 0, 1) := by
    decide +kernel
  obtain ⟨first, hfirst, h⟩ := bind_eq_ok.mp hruns
  obtain ⟨second, hsecond, h⟩ := bind_eq_ok.mp h
  obtain ⟨third, hthird, h⟩ := bind_eq_ok.mp h
  obtain ⟨h₁, h₂⟩ := Prod.mk.inj (pure_eq_ok.mp h)
  obtain ⟨h₂, h₃⟩ := Prod.mk.inj h₂
  exact ⟨first, second, third, hfirst, hsecond, hthird, h₁, h₂, h₃⟩

theorem samples_valid : ∀ o ∈ sampleObservations, o.validate sampleSha = .ok () := by
  simp only [← isOk_iff]
  decide +kernel

/-- **Counterexample**: on three valid observations and the result of an earlier run the operation of the call is
gone, and on top of that result the same observations give it again. -/
theorem call_comes_back :
    (∀ o ∈ sampleObservations, o.validate sampleSha = .ok ()) ∧ (sampleObservations.map (·.sourceObservationId)).Nodup ∧
      ∃ previous out again, sampleRun sampleRecords none = .ok previous ∧
        sampleRun sampleObservations (some previous) = .ok out ∧ sampleRun sampleObservations (some out) = .ok again ∧
        out.operations = [] ∧ again ≠ out := by
  obtain ⟨previous, out, again, hprevious, hout, hagain, -, hnone, hone⟩ := sample_runs
  refine ⟨samples_valid, by decide, previous, out, again, hprevious, hout, hagain, List.length_eq_zero_iff.mp hnone, ?_⟩
  intro heq
  rw [heq, hnone] at hone
  cases hone

/-- The call alone stays as it is. -/
theorem lone_call_stays : ∃ out, sampleRun sampleRecords none = .ok out ∧
    Partitions sampleRecords out ∧ sampleRun sampleRecords (some out) = .ok out := by
  obtain ⟨out, _, _, hrun, -⟩ := sample_runs
  obtain ⟨hpartitions, hagain, -⟩ := (normalize_again_iff sampleSha sampleNormalizer
    sampleFresh sampleRecords none out hrun).mpr (anchored_none _ _)
  exact ⟨out, hrun, hpartitions, hagain _⟩

end EverTrace.Bugs.LostAnchor
