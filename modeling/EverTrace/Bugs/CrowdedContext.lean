import EverTrace.L2Machine.ProcedureEffect
/-!
# One context with many references stops the whole compilation

`compile_observational_effects` checks nothing about the size of a group. The
references of all usages of a context go into one list, and the projection's
`validate` accepts at most 64 of them; its error ends the loop over the groups,
so the effects of every other procedure and context are lost with it. Each usage
may bring 64 references of its own. The comparison of controlled runs
(`compile_controlled`) sets an overloaded group apart and goes on.

**Condition.** The compilation does what it should if and only if every context
has fewer than 2^32 usages and they name at most 64 different references
together (`compiles_iff`).
-/
namespace EverTrace.Bugs.CrowdedContext
open EverTrace.Lib EverTrace.L1 EverTrace.L2.Procedure

/-- **The effects are compiled, all of them and in any order of the input, exactly when every context's usages
fit one projection.** -/
theorem compiles_iff (H : Sha256) (inputs : List ObservationalUsageInput) (h : Compilable inputs)
    (hH : NoCollision H inputs) :
    (∃ ps, compileObservationalEffects H inputs = .ok ps ∧ EffectsOf H inputs ps ∧
      ∀ inputs', Reordered inputs inputs' → compileObservationalEffects H inputs' = .ok ps) ↔
    ∀ i ∈ inputs, GroupFits (groupOf inputs i.context) := by
  rw [← compile_ok_iff hH h]
  constructor
  · rintro ⟨ps, hps, -, -⟩
    exact ⟨ps, hps⟩
  · rintro ⟨ps, hps⟩
    refine ⟨ps, hps, compile_effects hH h hps, fun inputs' hr => ?_⟩
    rw [compile_eq_of_reordered h hr, hps]

/-! ## Two usages of one context -/

def sampleContext : ProcedureEffectContext where
  procedureRevisionId := ⟨1⟩
  taskId := ⟨2⟩
  anchor := .repository ⟨3⟩ ⟨4⟩ ⟨5⟩ "wt"
  operands := []
  phaseKind := .atEntry
  failureSignature := none
  toolchain := "unknown"
  modelRevision := "unknown"
  harnessRevision := "unknown"
  algorithmRevision := "unknown"
  budget := 0
  acceptanceBoundary := "boundary"

/-- A reference with a number of two digits. -/
def refOf (n : Nat) : String := String.ofList ['r', hexDigit (n / 16), hexDigit (n % 16)]

/-- The first usage brings the 64 references that are allowed, the second one more. -/
def crowdedUsages : List ObservationalUsageInput :=
  [⟨⟨1⟩, sampleContext, true, (List.range 64).map refOf, 1⟩, ⟨⟨2⟩, sampleContext, true, [refOf 64], 2⟩]

theorem refs_crowdedUsages : ∀ i ∈ crowdedUsages, i.evidenceRefs ≠ [] ∧ i.evidenceRefs.length ≤ maxRefs ∧
    ∀ r ∈ i.evidenceRefs, validText r = true := by
  decide +kernel

theorem compilable_crowdedUsages : Compilable crowdedUsages where
  ids := by decide
  contexts := by decide +kernel
  inMemory := by
    intro i hi b hb
    have hc : i.context = sampleContext := by
      rcases List.mem_cons.mp hi with rfl | hi
      · rfl
      · rw [List.mem_singleton.mp hi]
    rw [hc] at hb
    cases hb
  refs := refs_crowdedUsages
  watermarks := by decide

theorem noCollision_of_context {H : Sha256} {inputs : List ObservationalUsageInput} {c : ProcedureEffectContext}
    (h : ∀ i ∈ inputs, i.context = c) : NoCollision H inputs := by
  intro i hi j hj e f he hf _
  rw [h i hi] at he
  rw [h j hj, he] at hf
  exact Except.ok.inj hf

/-- **Two usages of one context, of 64 references and of one, are not compiled**, whatever the hash. -/
theorem crowded_context : Compilable crowdedUsages ∧
    ¬ ∃ H : Sha256, NoCollision H crowdedUsages → ∃ ps, compileObservationalEffects H crowdedUsages = .ok ps := by
  refine ⟨compilable_crowdedUsages, ?_⟩
  rintro ⟨H, h⟩
  have hcontext : ∀ i ∈ crowdedUsages, i.context = sampleContext := by decide
  have hH : NoCollision H crowdedUsages := noCollision_of_context hcontext
  have hfits := (compile_ok_iff hH compilable_crowdedUsages).mp (h hH) _ List.mem_cons_self
  have hcrowded : ¬ GroupFits (groupOf crowdedUsages sampleContext) := by decide +kernel
  exact hcrowded hfits

/-- Two usages that share a reference have one positive effect. -/
theorem compiles_iff_shared :
    (∃ ps, compileObservationalEffects zeroSha
        [⟨⟨1⟩, sampleContext, true, ["a"], 1⟩, ⟨⟨2⟩, sampleContext, true, ["a", "b"], 2⟩] = .ok ps ∧
      EffectsOf zeroSha
        [⟨⟨1⟩, sampleContext, true, ["a"], 1⟩, ⟨⟨2⟩, sampleContext, true, ["a", "b"], 2⟩] ps ∧
      ∀ inputs', Reordered [⟨⟨1⟩, sampleContext, true, ["a"], 1⟩, ⟨⟨2⟩, sampleContext, true, ["a", "b"], 2⟩] inputs' →
        compileObservationalEffects zeroSha inputs' = .ok ps) := by
  have hcontext : ∀ i ∈ [(⟨⟨1⟩, sampleContext, true, ["a"], 1⟩ : ObservationalUsageInput),
      ⟨⟨2⟩, sampleContext, true, ["a", "b"], 2⟩], i.context = sampleContext := by decide
  refine (compiles_iff zeroSha _ ?_ (noCollision_of_context hcontext)).mpr ?_
  · refine ⟨by decide, by decide +kernel, fun i hi b hb => ?_, by decide +kernel, by decide⟩
    rw [hcontext i hi] at hb
    cases hb
  · decide +kernel

end EverTrace.Bugs.CrowdedContext
