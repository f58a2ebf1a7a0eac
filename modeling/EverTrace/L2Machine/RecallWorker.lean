import EverTrace.L2Machine.RecallDetector
import Mathlib.Data.List.Nodup
import Mathlib.Order.Defs.LinearOrder
/-!
# What the recall worker decides

Facts about detection and validity that do not look at the ledger:
* sealing a need fills in the two digests that `validate` recomputes
  (`seal_eq_ok`, `seal_of_sealed`);
* the contracts of a detected need are in strict order, and reading them back by
  their ids finds the same contracts (`matchedContracts_eq`);
* a need built by detection is valid for the context it was built from
  (`detectedNeed_valid`);
* a need whose validity is not terminal was recorded for this context
  (`sameContext_of_validity`), and a valid one is not ended by detection
  (`endedBy_of_valid`).
-/
namespace EverTrace.L2.Recall
open EverTrace.Lib EverTrace.L1 EverTrace.L1.Canonical EverTrace.L2.Work EverTrace.L2.Semantic

variable {H : Sha256} {context : RecallCurrentContext} {index : RecallTriggerIndex} {nowUs : Int64}

/-! ## Sealing -/

theorem seal_eq_ok {n m : RecallNeed} : n.seal H = .ok m ↔ ∃ fingerprint hash,
    n.recallPlan.fingerprint H = .ok fingerprint ∧
    recallNeedHash H { n with recallPlanFingerprint := fingerprint } = .ok hash ∧
    m = { n with recallPlanFingerprint := fingerprint, recallNeedHash := hash } := by
  unfold RecallNeed.seal
  refine ⟨fun h => ?_, fun ⟨fingerprint, hash, hf, hh, hm⟩ => ?_⟩
  · obtain ⟨fingerprint, hf, h⟩ := bind_eq_ok.mp h
    obtain ⟨hash, hh, h⟩ := bind_eq_ok.mp h
    cases h
    exact ⟨fingerprint, hash, hf, hh, rfl⟩
  · refine bind_eq_ok.mpr ⟨fingerprint, hf, bind_eq_ok.mpr ⟨hash, hh, ?_⟩⟩
    rw [hm]
    rfl

theorem seal_of_sealed {n : RecallNeed} (hf : n.recallPlan.fingerprint H = .ok n.recallPlanFingerprint)
    (hh : recallNeedHash H n = .ok n.recallNeedHash) : n.seal H = .ok n :=
  seal_eq_ok.mpr ⟨_, _, hf, hh, rfl⟩

/-! ## Conditions and contracts -/

theorem find?_key {α κ : Type} [DecidableEq κ] {key : α → κ} : ∀ {l : List α},
    l.Pairwise (fun a b => key a ≠ key b) → ∀ {a : α}, a ∈ l → l.find? (fun x => key x = key a) = some a := by
  intro l
  induction l with
  | nil => intro _ a ha; cases ha
  | cons b rest ih =>
    intro h a ha
    obtain ⟨hb, hrest⟩ := List.pairwise_cons.mp h
    rcases List.mem_cons.mp ha with rfl | ha
    · simp
    · rw [List.find?_cons_of_neg (by simpa using hb a ha)]
      exact ih hrest ha

theorem Digest.bytes_injective {a b : Digest} (h : a.bytes = b.bytes) : a = b := by
  cases a
  cases b
  cases h
  rfl

theorem evaluate_distinct (index : RecallTriggerIndex) (current : ConstraintState) (previous : Option ConstraintState) :
    (index.evaluate current previous).Pairwise fun a b => a.futureCueContractId ≠ b.futureCueContractId := by
  unfold RecallTriggerIndex.evaluate
  split
  · exact .nil
  · refine List.pairwise_map.mpr ((index.sorted.filter _).imp fun {a b} hlt heq => ?_)
    dsimp only at heq
    rw [heq] at hlt
    exact absurd hlt (List.lt_irrefl _)

theorem entry_id {contractId : Digest} {entry : RecallTriggerEntry} (h : index.entry contractId = some entry) :
    entry.contract.futureCueContractId = contractId := by
  simpa using List.find?_some h

/-- A condition that lets its contract through. -/
def holds (condition : FutureCueCandidateCondition) : Bool :=
  condition.matchTruth == .true_ && condition.suppressTruth == .false_ && condition.resolveTruth == .false_

/-- The contract a condition stands for, if its scope covers the context. -/
def scopedContract (context : RecallCurrentContext) (index : RecallTriggerIndex) (contractId : Digest) :
    Option FutureCueContract :=
  ((index.entry contractId).filter fun entry => scopeMatches context entry.scope).map RecallTriggerEntry.contract

theorem scopedContract_id {contractId : Digest} {contract : FutureCueContract}
    (h : scopedContract context index contractId = some contract) : contract.futureCueContractId = contractId := by
  unfold scopedContract at h
  obtain ⟨entry, hentry, rfl⟩ := Option.map_eq_some_iff.mp h
  exact entry_id (Option.filter_eq_some_iff.mp hentry).1

theorem contractsFor_eq (context : RecallCurrentContext) (index : RecallTriggerIndex)
    (conditions : List FutureCueCandidateCondition) :
    contractsFor context index conditions = sortByKey (fun contract => contract.futureCueContractId.bytes)
      ((conditions.filter holds).filterMap fun condition =>
        scopedContract context index condition.futureCueContractId) := rfl

theorem mem_contractsFor {conditions : List FutureCueCandidateCondition} {contract : FutureCueContract}
    (h : contract ∈ contractsFor context index conditions) : ∃ condition ∈ conditions, holds condition = true ∧
      condition.futureCueContractId = contract.futureCueContractId ∧
      scopedContract context index contract.futureCueContractId = some contract := by
  rw [contractsFor_eq, (sortByKey_perm _ _).mem_iff] at h
  obtain ⟨condition, hcondition, hcontract⟩ := List.mem_filterMap.mp h
  obtain ⟨hmem, hholds⟩ := List.mem_filter.mp hcondition
  have hid := scopedContract_id hcontract
  exact ⟨condition, hmem, hholds, hid.symm, by rw [hid]; exact hcontract⟩

theorem contractsFor_sorted (context : RecallCurrentContext) (index : RecallTriggerIndex)
    {conditions : List FutureCueCandidateCondition}
    (h : conditions.Pairwise fun a b => a.futureCueContractId ≠ b.futureCueContractId) :
    ((contractsFor context index conditions).map fun contract => contract.futureCueContractId.bytes).Pairwise
      (· < ·) := by
  have hdistinct : ((conditions.filter holds).filterMap fun condition =>
      scopedContract context index condition.futureCueContractId).Pairwise
        fun a b => a.futureCueContractId.bytes ≠ b.futureCueContractId.bytes := by
    refine List.pairwise_filterMap.mpr ((h.filter _).imp fun {a b} hne c hc d hd heq => hne ?_)
    rw [← scopedContract_id hc, ← scopedContract_id hd]
    exact Digest.bytes_injective heq
  rw [contractsFor_eq, List.pairwise_map]
  have hne := (sortByKey_perm (fun contract : FutureCueContract => contract.futureCueContractId.bytes) _).pairwise_iff
    (fun h => Ne.symm h) |>.mpr hdistinct
  refine ((sortByKey_pairwise _ _).and hne).imp fun {a b} h => ?_
  by_contra hlt
  exact h.2 (List.le_antisymm h.1 (List.not_lt.mp hlt))

/-- Reading contracts back by their ids finds them, as long as each is the one its condition stands for. -/
theorem matchedContracts_eq {conditions : List FutureCueCandidateCondition}
    (hdistinct : conditions.Pairwise fun a b => a.futureCueContractId ≠ b.futureCueContractId) :
    ∀ (contracts : List FutureCueContract), (∀ contract ∈ contracts, ∃ condition ∈ conditions,
      holds condition = true ∧ condition.futureCueContractId = contract.futureCueContractId ∧
      scopedContract context index contract.futureCueContractId = some contract) →
    matchedContracts context index conditions (contracts.map FutureCueContract.futureCueContractId) = .ok contracts := by
  intro contracts
  induction contracts with
  | nil => intro _; rfl
  | cons contract rest ih =>
    intro h
    obtain ⟨condition, hmem, hholds, hid, hscoped⟩ := h contract List.mem_cons_self
    have hfind := find?_key hdistinct hmem
    simp only [holds, Bool.and_eq_true, beq_iff_eq] at hholds
    obtain ⟨⟨hmatch, hsuppress⟩, hresolve⟩ := hholds
    obtain ⟨entry, hentry, hcontract⟩ := Option.map_eq_some_iff.mp hscoped
    rw [hid] at hfind
    rw [List.map_cons, matchedContracts, hfind]
    dsimp only
    rw [hmatch, hsuppress, hresolve, hentry]
    simp only [reduceCtorEq, if_false, ne_eq, not_true_eq_false, or_self]
    rw [ih fun c hc => h c (List.mem_cons_of_mem _ hc), hcontract]
    rfl

/-! ## Detection -/

/-- What is known when detection decides to record a need. -/
structure Records (context : RecallCurrentContext) (index : RecallTriggerIndex) (nowUs : Int64)
    (family : TriggerFamily) (contracts : List FutureCueContract) (current : Option RecallNeed) : Prop where
  time : ¬ nowUs < 0
  checkpoint : context.checkpoint.validate = .ok ()
  selected : contracts = contractsFor context index (index.evaluate (checkpointState context.checkpoint) none)
  chosen : triggerFamilyFor context contracts = some family
  planned : (planFor context family contracts).validate = true
  found : ∀ c, current = some c → c ∈ context.needs ∧ c.boundaryEventRef = context.checkpoint.stableKey ∧
    c.deliveryState.claimable = true

/-- What is known of each thing that detection can decide. -/
theorem detection_cases {d : Detection} (h : detection context index nowUs = .ok d) :
    d = .none ∨
    (∃ need state, d = .ended need state ∧ need ∈ context.needs ∧
      endedBy (index.evaluate (checkpointState context.checkpoint) none) need = some state) ∨
    ∃ family contracts current, d = .record family contracts current ∧
      Records context index nowUs family contracts current := by
  unfold detection at h
  dsimp only at h
  split at h
  · cases h
    exact .inl rfl
  next hguard =>
  simp only [not_or, Option.isNone_iff_eq_none, not_not] at hguard
  obtain ⟨htime, hcheckpoint, -, -, -⟩ := hguard
  rw [ite_error_else] at h
  obtain ⟨-, h⟩ := h
  generalize hexisting : (context.needs.filter fun need =>
    need.boundaryEventRef = context.checkpoint.stableKey) = existing at h
  have hmem : ∀ n, existing.head? = some n → n ∈ context.needs ∧ n.boundaryEventRef = context.checkpoint.stableKey := by
    intro n hn
    have hn := List.mem_of_mem_head? hn
    rw [← hexisting] at hn
    simpa using List.mem_filter.mp hn
  split at h
  · next need state hended =>
    cases h
    obtain ⟨n, hn, hstate⟩ := Option.bind_eq_some_iff.mp hended
    obtain ⟨s, hs, heq⟩ := Option.map_eq_some_iff.mp hstate
    cases heq
    exact .inr (.inl ⟨need, state, rfl, (hmem need hn).1, hs⟩)
  · split at h
    · cases h
      exact .inl rfl
    · next family hfamily =>
      split at h
      · cases h
        exact .inl rfl
      · next hplan =>
        split at h
        · cases h
          exact .inl rfl
        · next hcurrent =>
          cases h
          refine .inr (.inr ⟨family, _, _, rfl, htime, ?_, rfl, hfamily, by simpa using hplan, fun c hc => ?_⟩)
          · cases hv : context.checkpoint.validate with
            | error e => rw [hv] at hcheckpoint; exact absurd rfl hcheckpoint
            | ok u => rfl
          · rw [hc] at hcurrent
            obtain ⟨hin, hkey⟩ := hmem c hc
            simp only [Option.any_some, Bool.or_eq_true, bne_iff_ne, not_or, not_not, Bool.not_eq_true',
              Bool.not_eq_false] at hcurrent
            exact ⟨hin, hkey, hcurrent.2⟩

/-! ## Validity -/

/-- A need of the active obligations whose validity is not terminal was recorded for this context and has not
expired. -/
theorem sameContext_of_validity {need : RecallNeed} {validity : RecallNeedValidity}
    (h : currentNeedValidity H context need index nowUs = .ok validity) (hvalid : need.validate H = true)
    (hactive : need.obligationState = .active) (hlive : ∀ state, validity ≠ .terminal state) : sameContext context need = true ∧
      need.obligationExpiresAtUs.any (fun expiry => expiry ≤ nowUs) = false := by
  unfold currentNeedValidity at h
  rw [if_neg (by simp [hvalid, hactive])] at h
  split at h
  · cases h
    exact absurd rfl (hlive _)
  next hexpiry =>
  split at h
  · cases h
    exact absurd rfl (hlive _)
  next hsame =>
  exact ⟨by simpa using hsame, by simpa using hexpiry⟩

/-- Of a valid need, no condition of a matched contract ends it. -/
theorem matchedContracts_not_ended {conditions : List FutureCueCandidateCondition}
    (hdistinct : conditions.Pairwise fun a b => a.futureCueContractId ≠ b.futureCueContractId) :
    ∀ (matched : List Digest) (contracts : List FutureCueContract),
      matchedContracts context index conditions matched = .ok contracts → ∀ condition ∈ conditions,
      condition.futureCueContractId ∈ matched → condition.resolveTruth ≠ .true_ ∧ condition.suppressTruth ≠ .true_ := by
  intro matched
  induction matched with
  | nil => intro _ _ _ _ hin; cases hin
  | cons contractId rest ih =>
    intro contracts h condition hmem hin
    unfold matchedContracts at h
    split at h
    · cases h
    next found hfound =>
    rw [ite_error_else] at h
    obtain ⟨hresolve, h⟩ := h
    rw [ite_error_else] at h
    obtain ⟨hsuppress, h⟩ := h
    rw [ite_error_else] at h
    obtain ⟨-, h⟩ := h
    split at h
    · cases h
    · rcases List.mem_cons.mp hin with hid | hin
      · have hfind := find?_key hdistinct hmem
        rw [hid, hfound] at hfind
        cases hfind
        exact ⟨hresolve, hsuppress⟩
      · cases hrest : matchedContracts context index conditions rest with
        | error e => rw [hrest] at h; cases h
        | ok tail => exact ih tail hrest condition hmem hin

/-- A failed lookup of contracts never makes the need valid. -/
theorem matchedContracts_error {conditions : List FutureCueCandidateCondition} {validity : RecallNeedValidity} :
    ∀ (matched : List Digest), matchedContracts context index conditions matched = .error validity →
      validity ≠ .valid := by
  intro matched
  induction matched with
  | nil => intro h; cases h
  | cons contractId rest ih =>
    intro h hvalid
    subst hvalid
    unfold matchedContracts at h
    split at h
    · cases h
    · split at h
      · cases h
      · split at h
        · cases h
        · split at h
          · cases h
          · split at h
            · cases h
            · cases hrest : matchedContracts context index conditions rest with
              | error e =>
                rw [hrest] at h
                cases h
                exact ih hrest rfl
              | ok tail => rw [hrest] at h; cases h

theorem expectedContracts_of_valid {need : RecallNeed}
    (h : currentNeedValidity H context need index nowUs = .ok .valid) :
    ∃ contracts, expectedContracts context index need = .ok (some contracts) := by
  unfold currentNeedValidity at h
  split at h
  · cases h
  split at h
  · cases h
  split at h
  · cases h
  split at h
  · next validity herror =>
    cases h
    unfold expectedContracts at herror
    split at herror
    · cases herror
    · cases herror
    · cases hm : matchedContracts context index (index.evaluate (checkpointState context.checkpoint) none)
          need.matchedContractIds with
      | ok contracts => rw [hm] at herror; cases herror
      | error e =>
        rw [hm] at herror
        cases herror
        exact absurd rfl (matchedContracts_error _ hm)
  · cases h
  · next contracts hok => exact ⟨contracts, hok⟩

theorem endedBy_of_valid {need : RecallNeed} (h : currentNeedValidity H context need index nowUs = .ok .valid) :
    endedBy (index.evaluate (checkpointState context.checkpoint) none) need = none := by
  unfold endedBy
  split
  · rfl
  next hfamily =>
  simp only [ne_eq, not_not] at hfamily
  obtain ⟨contracts, hexpected⟩ := expectedContracts_of_valid h
  unfold expectedContracts at hexpected
  rw [hfamily] at hexpected
  dsimp only at hexpected
  cases hm : matchedContracts context index (index.evaluate (checkpointState context.checkpoint) none)
      need.matchedContractIds with
  | error e => rw [hm] at hexpected; cases hexpected
  | ok found =>
    have hnone := matchedContracts_not_ended (evaluate_distinct index _ _) _ found hm
    generalize index.evaluate (checkpointState context.checkpoint) none = conditions at hnone
    -- the fold starts at `none` and no condition moves it
    have hfold : ∀ (l : List FutureCueCandidateCondition), (∀ c ∈ l, c.resolveTruth ≠ .true_ ∧ c.suppressTruth ≠ .true_) →
        l.foldl (fun terminal condition => if condition.resolveTruth = .true_ then some RecallObligationState.resolved
          else if condition.suppressTruth = .true_ then some .canceled else terminal) none = none := by
      intro l
      induction l with
      | nil => intro _; rfl
      | cons c l ih =>
        intro hl
        obtain ⟨hresolve, hsuppress⟩ := hl c List.mem_cons_self
        rw [List.foldl_cons, if_neg hresolve, if_neg hsuppress]
        exact ih fun c hc => hl c (List.mem_cons_of_mem _ hc)
    refine hfold _ fun c hc => ?_
    obtain ⟨hmem, hin⟩ := List.mem_filter.mp hc
    exact hnone c hmem (by simpa using hin)

/-- The trigger of a recorded need is found again in the context it was recorded for. -/
theorem expectedContracts_of_records {family : TriggerFamily} {contracts : List FutureCueContract}
    {current : Option RecallNeed} (h : Records context index nowUs family contracts current) {need : RecallNeed}
    (hfamily : need.triggerFamily = family)
    (hmatched : need.matchedContractIds = contracts.map FutureCueContract.futureCueContractId) :
    expectedContracts context index need = .ok (some contracts) := by
  have hchosen := h.chosen
  unfold triggerFamilyFor at hchosen
  unfold expectedContracts
  rw [hfamily]
  split at hchosen
  · next hcontracts =>
    cases hchosen
    dsimp only
    rw [hmatched, matchedContracts_eq (evaluate_distinct index _ _) contracts fun contract hc =>
      mem_contractsFor (h.selected ▸ hc)]
    simp only [Except.map]
    rw [if_neg (by simpa using hcontracts)]
  · next hcontracts =>
    have hnil : contracts = [] := by simpa using hcontracts
    subst hnil
    split at hchosen
    · next hanomaly =>
      cases hchosen
      dsimp only
      rw [if_pos hanomaly]
    · split at hchosen
      · next hexplicit =>
        cases hchosen
        dsimp only
        rw [if_pos hexplicit]
      · cases hchosen

/-- **A freshly detected need is valid** for the context, index and time it was detected in, if it validates at all and
the obligation it continues has not expired. -/
theorem detectedNeed_valid {family : TriggerFamily} {contracts : List FutureCueContract}
    {current : Option RecallNeed} (h : Records context index nowUs family contracts current) {fresh : FreshIds}
    {need : RecallNeed} (hseal : (detectedNeed context nowUs fresh family contracts current).seal H = .ok need)
    (hvalid : need.validate H = true)
    (hlive : ∀ c, current = some c → c.obligationExpiresAtUs.any (fun expiry => expiry ≤ nowUs) = false) :
    currentNeedValidity H context need index nowUs = .ok .valid := by
  obtain ⟨fingerprint, hash, hf, -, hneed⟩ := seal_eq_ok.mp hseal
  have hactive : need.obligationState = .active := by rw [hneed]; rfl
  unfold currentNeedValidity
  rw [if_neg (by simp [hvalid, hactive])]
  subst hneed
  have hexpiry : (current.bind RecallNeed.obligationExpiresAtUs).any (fun expiry => expiry ≤ nowUs) = false := by
    cases current with
    | none => rfl
    | some c => exact hlive c rfl
  rw [if_neg (by simpa [detectedNeed] using hexpiry), if_neg (by simp [sameContext, detectedNeed]),
    expectedContracts_of_records h rfl rfl]
  dsimp only
  rw [if_neg (by simp [detectedNeed])]
  have hplan : (planFor context family contracts).fingerprint H = .ok fingerprint := hf
  simp only [detectedNeed]
  rw [hplan]
  simp

end EverTrace.L2.Recall
