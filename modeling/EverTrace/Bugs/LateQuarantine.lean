import EverTrace.L2Machine.AlignmentSound
import EverTrace.L2Machine.ProcedureRoute
import EverTrace.L2Machine.SearchRanked
/-!
# A quarantined procedure hides the others

`route_procedures_with_quarantine` (evertrace-engine/src/procedure/usage.rs:1850-1899)
lets the router select two items and looks for quarantines only then. A
quarantined procedure that ranks first is selected, demoted, and nothing is
applied, though the next procedure is applicable and not quarantined. A search
(usage.rs:461-539) quarantines first and would apply that one. Deferred items get
lost the same way.

Exact condition (`Unhidden`): where the first applicable procedure is quarantined,
all applicable ones are, and the probationary rule drops no deferred procedure
that ranks before it; where it is not quarantined, every quarantined procedure
that could be shown beside it stands behind a deferred one that is shown.
-/
namespace EverTrace.Bugs.LateQuarantine
open EverTrace.Lib EverTrace.L1 EverTrace.L2.Semantic EverTrace.L2.Alignment EverTrace.L2.Search EverTrace.L2.Procedure

/-- Nothing is hidden by selecting before the quarantines are known. -/
structure Unhidden (quarantined : RoutedProcedure → Bool) (routed : List RoutedProcedure) : Prop where
  all : ∀ a, LeastOf place routed isApply a → quarantined a = true →
    ∀ b ∈ routed, isApply b = true → quarantined b = true
  undropped : ∀ a, LeastOf place routed isApply a → quarantined a = true → isProbationary a = true →
    ∀ d ∈ routed, isDefer d = true → isProbationary d = true → place d < place a →
      ∃ d' ∈ routed, isDefer d' = true ∧ isProbationary d' = false
  behind : ∀ a, LeastOf place routed isApply a → quarantined a = false →
    ∀ b ∈ routed, isApply b = true → quarantined b = true → (isProbationary a && isProbationary b) = false →
      ∃ d ∈ routed, deferBeside (some a) d = true ∧ place d < place b

section Lists
variable {quarantined : RoutedProcedure → Bool} {routed : List RoutedProcedure} {a : RoutedProcedure}

/-- The list of what the router evaluates. -/
structure Evaluated (routed : List RoutedProcedure) : Prop where
  distinct : (routed.map RoutedProcedure.procedureId).Nodup
  decided : ∀ item ∈ routed, isApply item = true ∨ isDefer item = true
  published : ∀ item ∈ routed, item.publication = .activeProbationary ∨ item.publication = .activeStable

theorem evaluated_of_distinct {context : SearchContext} {inputs : RouteInputs} {candidates : List ProcedureCandidate}
    (hids : (candidates.map fun candidate => candidate.revision.procedureId).Nodup) :
    Evaluated (evaluated context inputs candidates) := by
  refine ⟨evaluated_nodup hids, fun item hitem => ?_, fun item hitem => ?_⟩
  · obtain ⟨candidate, -, hrouted⟩ := mem_evaluated hitem
    exact hrouted.decided
  · obtain ⟨candidate, -, hrouted⟩ := mem_evaluated hitem
    exact hrouted.published

theorem isApply_of_isDefer {item : RoutedProcedure} (h : isDefer item = true) : isApply item = false := by
  unfold isDefer at h
  unfold isApply
  rw [beq_iff_eq.mp h]
  rfl

/-- What is selected, then demoted. -/
def late (quarantined : RoutedProcedure → Bool) (routed : List RoutedProcedure) : List RoutedProcedure :=
  demoteSelected quarantined (selectRouteResult routed).items

/-- What is demoted, then selected. -/
def early (quarantined : RoutedProcedure → Bool) (routed : List RoutedProcedure) : List RoutedProcedure :=
  (selectRouteResult (routed.map (quarantine quarantined))).items

theorem find?_pair {x y : Option RoutedProcedure} (hx : ∀ item ∈ x, isApply item = true)
    (hy : ∀ item ∈ y, isApply item = false) :
    (pair x y).find? isApply = x ∧ (pair x y).find? (fun item => !isApply item) = y := by
  cases x with
  | none =>
    cases y with
    | none => exact ⟨rfl, rfl⟩
    | some d => simp [pair, hy d rfl]
  | some a =>
    cases y with
    | none => simp [pair, hx a rfl]
    | some d => simp [pair, hx a rfl, hy d rfl]

/-- Two pairs are the same if both halves are: an applied item is never in the place of a deferred one. -/
theorem pair_inj {x y x' y' : Option RoutedProcedure} (hx : ∀ item ∈ x, isApply item = true)
    (hx' : ∀ item ∈ x', isApply item = true) (hy : ∀ item ∈ y, isApply item = false)
    (hy' : ∀ item ∈ y', isApply item = false) : pair x y = pair x' y' ↔ x = x' ∧ y = y' := by
  constructor
  · intro h
    obtain ⟨happlied, hdeferred⟩ := find?_pair hx hy
    obtain ⟨happlied', hdeferred'⟩ := find?_pair hx' hy'
    rw [← h] at happlied' hdeferred'
    exact ⟨happlied.symm.trans happlied', hdeferred.symm.trans hdeferred'⟩
  · rintro ⟨rfl, rfl⟩
    rfl

theorem firstApply_eq_none : firstApply routed = none ↔ ∀ item ∈ routed, isApply item = false :=
  find?_sortByKey_eq_none

theorem firstDefer_eq_none {applied : Option RoutedProcedure} :
    firstDefer applied routed = none ↔ ∀ item ∈ routed, deferBeside applied item = false :=
  find?_sortByKey_eq_none

/-! ## Late against early -/

/-- The halves of what is demoted first. -/
theorem early_eq : early quarantined routed =
    pair (firstApply (routed.map (quarantine quarantined)))
      (firstDefer (firstApply (routed.map (quarantine quarantined))) (routed.map (quarantine quarantined))) :=
  selectRouteResult_items

theorem isApply_of_firstApply {item : RoutedProcedure} (h : item ∈ firstApply routed) : isApply item = true :=
  (leastOf_of_find?_sortByKey h).holds

theorem not_isApply_of_firstDefer {applied : Option RoutedProcedure} {item : RoutedProcedure}
    (h : item ∈ firstDefer applied routed) : isApply item = false := by
  have hholds := (leastOf_of_find?_sortByKey h).holds
  unfold deferBeside at hholds
  rw [Bool.and_eq_true] at hholds
  exact isApply_of_isDefer hholds.1

theorem heldBeside_none {item : RoutedProcedure} :
    heldBeside quarantined none item = (isDefer item || quarantined item) := by
  simp [heldBeside]

theorem heldBeside_of_deferBeside {applied : Option RoutedProcedure} {item : RoutedProcedure}
    (h : deferBeside applied item = true) : heldBeside quarantined applied item = true := by
  unfold deferBeside at h
  unfold heldBeside
  rw [Bool.and_eq_true] at h ⊢
  rw [h.1, Bool.true_or]
  exact ⟨rfl, h.2⟩

theorem late_of_none (he : Evaluated routed) (hnone : ∀ item ∈ routed, isApply item = false) :
    late quarantined routed = early quarantined routed := by
  have hdefer : ∀ item ∈ routed, isDefer item = true := by
    intro item hitem
    rcases he.decided item hitem with happly | hdefer
    · rw [hnone item hitem] at happly
      cases happly
    · exact hdefer
  have hfirst : firstApply routed = none := firstApply_eq_none.mpr hnone
  have hfirst' : firstApply (routed.map (quarantine quarantined)) = none := by
    rw [firstApply_eq_none]
    intro item hitem
    obtain ⟨b, hb, rfl⟩ := List.mem_map.mp hitem
    rw [isApply_quarantine, hnone b hb, Bool.false_and]
  rw [early_eq, hfirst', late, selectRouteResult_items, hfirst, demoteSelected_eq]
  cases hdeferred : firstDefer none routed with
  | none =>
    -- every evaluated item is deferred, so there is none at all
    have hempty : routed = [] := by
      refine List.eq_nil_iff_forall_not_mem.mpr fun item hitem => ?_
      have hfails := firstDefer_eq_none.mp hdeferred item hitem
      rw [deferBeside_none, hdefer item hitem] at hfails
      cases hfails
    rw [hempty]
    rfl
  | some d =>
    have hleast := (firstDefer_eq_some he.distinct).mp hdeferred
    have hisDefer : isDefer (quarantine quarantined d) = true := by
      rw [isDefer_quarantine, hdefer d hleast.mem, Bool.true_or]
    have hearly : firstDefer none (routed.map (quarantine quarantined)) = some (quarantine quarantined d) := by
      refine (firstDefer_quarantine he.distinct).mpr ⟨d, rfl, hleast.mem, ?_, fun b hb _ => ?_⟩
      · rw [heldBeside_none, hdefer d hleast.mem, Bool.true_or]
      · exact hleast.le b hb (by rw [deferBeside_none]; exact hdefer b hb)
    rw [hearly]
    have happly : firstApply [quarantine quarantined d] = none :=
      firstApply_eq_none.mpr fun item hitem => by
        rw [List.mem_singleton.mp hitem]
        exact isApply_of_isDefer hisDefer
    have hsame : firstDefer none [quarantine quarantined d] = some (quarantine quarantined d) := by
      refine (firstDefer_eq_some (by simp)).mpr ⟨List.mem_singleton_self _, ?_, fun b hb _ => ?_⟩
      · rw [deferBeside_none]
        exact hisDefer
      · rw [List.mem_singleton.mp hb]
    change pair (firstApply [quarantine quarantined d]) (firstDefer none [quarantine quarantined d]) = _
    rw [happly, hsame]

theorem quarantine_inj (he : Evaluated routed) {b c : RoutedProcedure} (hb : b ∈ routed) (hc : c ∈ routed)
    (h : quarantine quarantined b = quarantine quarantined c) : b = c := by
  refine List.inj_on_of_nodup_map he.distinct hb hc ?_
  have hids := congrArg RoutedProcedure.procedureId h
  rw [procedureId_quarantine, procedureId_quarantine] at hids
  exact hids

theorem map_pair (x y : Option RoutedProcedure) (f : RoutedProcedure → RoutedProcedure) :
    (pair x y).map f = pair (x.map f) (y.map f) := by
  unfold pair
  cases x <;> cases y <;> rfl

/-- An applied item that is not quarantined stays, and so does what stands beside it. -/
theorem late_of_free (he : Evaluated routed) (ha : LeastOf place routed isApply a) (hq : quarantined a = false) :
    late quarantined routed = pair (some a) ((firstDefer (some a) routed).map (quarantine quarantined)) := by
  have hfirst : firstApply routed = some a := (firstApply_eq_some he.distinct).mpr ha
  have hstays : quarantine quarantined a = a := quarantine_of_not hq
  rw [late, selectRouteResult_items, hfirst, demoteSelected_eq, map_pair, Option.map_some, hstays]
  have hdefer : ∀ d ∈ (firstDefer (some a) routed).map (quarantine quarantined), isDefer d = true := by
    intro item hitem
    obtain ⟨d, hd, rfl⟩ := Option.mem_map.mp hitem
    have hholds := (leastOf_of_find?_sortByKey hd).holds
    unfold deferBeside at hholds
    rw [Bool.and_eq_true] at hholds
    rw [isDefer_quarantine, hholds.1, Bool.true_or]
  generalize (firstDefer (some a) routed).map (quarantine quarantined) = deferred at hdefer ⊢
  have happlied : firstApply (pair (some a) deferred) = some a := by
    refine find?_sortByKey_of_only (by simp [pair]) ha.holds fun b hb happly => ?_
    cases deferred with
    | none => exact List.mem_singleton.mp hb
    | some d =>
      have hb' : b = a ∨ b = d := by simpa [pair] using hb
      rcases hb' with rfl | rfl
      · rfl
      · rw [isApply_of_isDefer (hdefer b rfl)] at happly
        cases happly
  have hdeferred : firstDefer none (pair (some a) deferred) = deferred := by
    have hanot : deferBeside none a = false := deferBeside_of_isApply ha.holds
    cases deferred with
    | none =>
      refine firstDefer_eq_none.mpr fun b hb => ?_
      rw [List.mem_singleton.mp hb]
      exact hanot
    | some d =>
      have hd : deferBeside none d = true := by
        rw [deferBeside_none]
        exact hdefer d rfl
      refine find?_sortByKey_of_only (by simp [pair]) hd fun b hb hholds => ?_
      have hb' : b = a ∨ b = d := by simpa [pair] using hb
      rcases hb' with rfl | rfl
      · rw [hanot] at hholds
        cases hholds
      · rfl
  rw [happlied, hdeferred]

theorem early_of_free (he : Evaluated routed) (ha : LeastOf place routed isApply a) (hq : quarantined a = false) :
    early quarantined routed = pair (some a) (firstDefer (some a) (routed.map (quarantine quarantined))) := by
  have hfirst : firstApply (routed.map (quarantine quarantined)) = some a := by
    refine (firstApply_quarantine he.distinct).mpr ⟨ha.mem, ?_, fun b hb hholds => ?_⟩
    · rw [ha.holds, hq]
      rfl
    · rw [Bool.and_eq_true] at hholds
      exact ha.le b hb hholds.1
  rw [early_eq, hfirst]

/-- Beside an applied item that stays, the orders agree if and only if every quarantined one stands behind. -/
theorem late_eq_of_free (he : Evaluated routed) (ha : LeastOf place routed isApply a) (hq : quarantined a = false) :
    late quarantined routed = early quarantined routed ↔
      ∀ b ∈ routed, isApply b = true → quarantined b = true → (isProbationary a && isProbationary b) = false →
        ∃ d ∈ routed, deferBeside (some a) d = true ∧ place d < place b := by
  have happlied : ∀ item ∈ some a, isApply item = true := by
    rintro item ⟨⟩
    exact ha.holds
  have hlate : ∀ item ∈ (firstDefer (some a) routed).map (quarantine quarantined), isApply item = false := by
    intro item hitem
    obtain ⟨d, hd, rfl⟩ := Option.mem_map.mp hitem
    rw [isApply_quarantine, not_isApply_of_firstDefer hd, Bool.false_and]
  rw [late_of_free he ha hq, early_of_free he ha hq,
    pair_inj happlied happlied hlate fun item hitem => not_isApply_of_firstDefer hitem]
  simp only [true_and]
  constructor
  · intro hsame b hb happly hbq hbeside
    have hheld : heldBeside quarantined (some a) b = true := by
      simp [heldBeside, hbq, hbeside]
    obtain ⟨d, hd⟩ : ∃ d, LeastOf place routed (heldBeside quarantined (some a)) d := exists_leastOf hb hheld
    have hfirst : firstDefer (some a) (routed.map (quarantine quarantined)) = some (quarantine quarantined d) :=
      (firstDefer_quarantine he.distinct).mpr ⟨d, rfl, hd⟩
    rw [← hsame] at hfirst
    obtain ⟨d', hd', heq⟩ := Option.map_eq_some_iff.mp hfirst
    have hleast := (firstDefer_eq_some he.distinct).mp hd'
    have hdd : d' = d := quarantine_inj he hleast.mem hd.mem heq
    subst hdd
    refine ⟨d', hleast.mem, hleast.holds, lt_of_le_of_ne (hd.le b hb hheld) fun hplace => ?_⟩
    -- a deferred item is not an applicable one
    have hdb : d' = b := List.inj_on_of_nodup_map (nodup_place he.distinct) hleast.mem hb hplace
    have hnot := not_isApply_of_firstDefer hd'
    rw [hdb, happly] at hnot
    cases hnot
  · intro hbehind
    cases hfirst : firstDefer (some a) (routed.map (quarantine quarantined)) with
    | none =>
      rw [Option.map_eq_none_iff, firstDefer_eq_none]
      intro d hd
      by_contra hholds
      have hheld : heldBeside quarantined (some a) d = true := heldBeside_of_deferBeside (Bool.not_eq_false _ ▸ hholds)
      obtain ⟨c, hc⟩ : ∃ c, LeastOf place routed (heldBeside quarantined (some a)) c := exists_leastOf hd hheld
      rw [(firstDefer_quarantine he.distinct).mpr ⟨c, rfl, hc⟩] at hfirst
      cases hfirst
    | some item =>
      obtain ⟨d, rfl, hd⟩ := (firstDefer_quarantine he.distinct).mp hfirst
      have hholds := hd.holds
      unfold heldBeside at hholds
      rw [Bool.and_eq_true, Bool.or_eq_true, Bool.not_eq_true'] at hholds
      have hdefer : isDefer d = true := by
        rcases he.decided d hd.mem with happly | hdefer
        · -- a quarantined applicable one stands behind a deferred one
          have hdnot : isDefer d = false := by
            by_contra h
            rw [isApply_of_isDefer (Bool.not_eq_false _ ▸ h)] at happly
            cases happly
          have hdq : quarantined d = true := by
            rcases hholds.1 with h | h
            · rw [hdnot] at h
              cases h
            · exact h
          obtain ⟨c, hc, hcholds, hlt⟩ := hbehind d hd.mem happly hdq hholds.2
          exact absurd (hd.le c hc (heldBeside_of_deferBeside hcholds)) (not_le_of_gt hlt)
        · exact hdefer
      refine Option.map_eq_some_iff.mpr ⟨d, (firstDefer_eq_some he.distinct).mpr ⟨hd.mem, ?_, fun b hb hb' => ?_⟩, rfl⟩
      · unfold deferBeside
        rw [hdefer, hholds.2]
        rfl
      · exact hd.le b hb (heldBeside_of_deferBeside hb')

theorem late_of_quarantined (he : Evaluated routed) (ha : LeastOf place routed isApply a)
    (hq : quarantined a = true) :
    late quarantined routed =
      pair none (firstDefer none ((pair (some a) (firstDefer (some a) routed)).map (quarantine quarantined))) := by
  have hfirst : firstApply routed = some a := (firstApply_eq_some he.distinct).mpr ha
  have hnone : firstApply ((pair (some a) (firstDefer (some a) routed)).map (quarantine quarantined)) = none := by
    refine firstApply_eq_none.mpr fun item hitem => ?_
    obtain ⟨b, hb, rfl⟩ := List.mem_map.mp hitem
    rw [isApply_quarantine]
    have hb' : b = a ∨ b ∈ firstDefer (some a) routed := by simpa [pair] using hb
    rcases hb' with rfl | hb'
    · rw [hq]
      exact Bool.and_false _
    · rw [not_isApply_of_firstDefer hb', Bool.false_and]
  rw [late, selectRouteResult_items, hfirst, demoteSelected_eq, hnone]

theorem place_lt_of_stable (he : Evaluated routed) {d b : RoutedProcedure} (hd : d ∈ routed)
    (hstable : isProbationary d = false) (hb : isProbationary b = true) : place d < place b := by
  have hdstate : d.publication = .activeStable := by
    rcases he.published d hd with h | h
    · unfold isProbationary at hstable
      rw [h] at hstable
      cases hstable
    · exact h
  have hbstate : b.publication = .activeProbationary := beq_iff_eq.mp hb
  unfold L2.Procedure.place
  rw [Prod.Lex.toLex_lt_toLex, hdstate, hbstate]
  exact .inl Nat.zero_lt_one

/-- What ranks first of an applicable quarantined item and the deferred one beside it ranks before every held
item, if the applicable ones are all quarantined and nothing deferred was dropped. -/
theorem leastOf_held (he : Evaluated routed) {c : RoutedProcedure} (ha : LeastOf place routed isApply a)
    (hundropped : isProbationary a = true → ∀ d ∈ routed, isDefer d = true → isProbationary d = true →
      place d < place a → ∃ d' ∈ routed, isDefer d' = true ∧ isProbationary d' = false)
    (hc : c ∈ routed) (hheld : heldBeside quarantined none c = true) (hca : place c ≤ place a)
    (hcd : ∀ d ∈ firstDefer (some a) routed, place c ≤ place d) :
    LeastOf place routed (heldBeside quarantined none) c := by
  refine ⟨hc, hheld, fun b hb _ => ?_⟩
  rcases he.decided b hb with happly | hdefer
  · exact hca.trans (ha.le b hb happly)
  have hbefore : ∀ d ∈ routed, deferBeside (some a) d = true → place d ≤ place b → place c ≤ place b := by
    intro d hd hholds hle
    cases hfirst : firstDefer (some a) routed with
    | none =>
      rw [firstDefer_eq_none.mp hfirst d hd] at hholds
      cases hholds
    | some e =>
      have hleast := (firstDefer_eq_some he.distinct).mp hfirst
      exact (hcd e hfirst).trans ((hleast.le d hd hholds).trans hle)
  by_cases hbeside : deferBeside (some a) b = true
  · exact hbefore b hb hbeside le_rfl
  -- both are probationary
  have hboth : isProbationary a = true ∧ isProbationary b = true := by
    simpa [deferBeside, hdefer] using hbeside
  by_cases hlt : place b < place a
  · obtain ⟨d, hd, hddefer, hstable⟩ := hundropped hboth.1 b hb hdefer hboth.2 hlt
    refine hbefore d hd ?_ (place_lt_of_stable he hd hstable hboth.2).le
    simp [deferBeside, hddefer, hstable]
  · exact hca.trans (not_lt.mp hlt)

/-- Behind a quarantined item the orders agree if and only if there is nothing left to apply, and no deferred item was
dropped for its sake. -/
theorem late_eq_of_quarantined (he : Evaluated routed) (ha : LeastOf place routed isApply a)
    (hq : quarantined a = true) :
    late quarantined routed = early quarantined routed ↔
      (∀ b ∈ routed, isApply b = true → quarantined b = true)
        ∧ (isProbationary a = true → ∀ d ∈ routed, isDefer d = true → isProbationary d = true → place d < place a →
          ∃ d' ∈ routed, isDefer d' = true ∧ isProbationary d' = false) := by
  have hnone : ∀ item ∈ (none : Option RoutedProcedure), isApply item = true := by
    rintro item ⟨⟩
  rw [late_of_quarantined he ha hq, early_eq,
    pair_inj hnone (fun item hitem => isApply_of_firstApply hitem)
      (fun item hitem => not_isApply_of_firstDefer hitem) fun item hitem => not_isApply_of_firstDefer hitem]
  have hheld : heldBeside quarantined none a = true := by
    rw [heldBeside_none, hq, Bool.or_true]
  constructor
  · rintro ⟨hfirst, hdeferred⟩
    have hall : ∀ b ∈ routed, isApply b = true → quarantined b = true := by
      intro b hb happly
      have hnot := firstApply_eq_none.mp hfirst.symm _ (List.mem_map_of_mem (f := quarantine quarantined) hb)
      rw [isApply_quarantine, happly, Bool.true_and, Bool.not_eq_false'] at hnot
      exact hnot
    refine ⟨hall, fun haprob d hd hddefer hdprob hlt => ?_⟩
    by_contra hnostable
    -- no deferred item may stand beside `a`
    have hdropped : firstDefer (some a) routed = none := by
      refine firstDefer_eq_none.mpr fun b hb => ?_
      by_cases hbdefer : isDefer b = true
      · have hbprob : isProbationary b = true := by
          by_contra hstable
          exact hnostable ⟨b, hb, hbdefer, Bool.not_eq_true _ ▸ hstable⟩
        simp [deferBeside, haprob, hbprob]
      · simp [deferBeside, hbdefer]
    have hdemoted : deferBeside none (quarantine quarantined a) = true := by
      rw [deferBeside_none, isDefer_quarantine, hq, Bool.or_true]
    have honly : firstDefer none ((pair (some a) (firstDefer (some a) routed)).map (quarantine quarantined)) =
        some (quarantine quarantined a) := by
      rw [hdropped]
      exact find?_sortByKey_of_only (List.mem_singleton_self _) hdemoted fun b hb _ => List.mem_singleton.mp hb
    rw [honly, ← hfirst] at hdeferred
    obtain ⟨c, hc, hleast⟩ := (firstDefer_quarantine he.distinct).mp hdeferred.symm
    have hca : c = a := quarantine_inj he hleast.mem ha.mem hc
    subst hca
    have hle := hleast.le d hd (by rw [heldBeside_none, hddefer, Bool.true_or])
    exact absurd hlt (not_lt_of_ge hle)
  · rintro ⟨hall, hundropped⟩
    have hfirst : firstApply (routed.map (quarantine quarantined)) = none := by
      refine firstApply_eq_none.mpr fun item hitem => ?_
      obtain ⟨b, hb, rfl⟩ := List.mem_map.mp hitem
      rw [isApply_quarantine]
      by_cases happly : isApply b = true
      · rw [hall b hb happly]
        exact Bool.and_false _
      · rw [Bool.eq_false_iff.mpr happly, Bool.false_and]
    refine ⟨hfirst.symm, ?_⟩
    rw [hfirst]
    have hmem : ∀ b, b = a ∨ b ∈ firstDefer (some a) routed →
        quarantine quarantined b ∈ (pair (some a) (firstDefer (some a) routed)).map (quarantine quarantined) := by
      intro b hb
      refine List.mem_map_of_mem ?_
      simpa [pair] using hb
    have hdemoted : deferBeside none (quarantine quarantined a) = true := by
      rw [deferBeside_none, isDefer_quarantine, hq, Bool.or_true]
    cases hleft : firstDefer none ((pair (some a) (firstDefer (some a) routed)).map (quarantine quarantined)) with
    | none =>
      rw [firstDefer_eq_none.mp hleft _ (hmem a (.inl rfl))] at hdemoted
      cases hdemoted
    | some item =>
      have hpair : ((pair (some a) (firstDefer (some a) routed)).map RoutedProcedure.procedureId).Nodup := by
        cases hd : firstDefer (some a) routed with
        | none => simp [pair]
        | some d =>
          have hleast := (firstDefer_eq_some he.distinct).mp hd
          have hne : a.procedureId ≠ d.procedureId := by
            intro heq
            have had : a = d := List.inj_on_of_nodup_map he.distinct ha.mem hleast.mem heq
            have hnot := not_isApply_of_firstDefer hd
            rw [← had, ha.holds] at hnot
            cases hnot
          simpa [pair] using hne
      obtain ⟨c, rfl, hc⟩ := (firstDefer_quarantine hpair).mp hleft
      have hcmem : c = a ∨ c ∈ firstDefer (some a) routed := by simpa [pair] using hc.mem
      have hcrouted : c ∈ routed := by
        rcases hcmem with rfl | hd
        · exact ha.mem
        · exact ((firstDefer_eq_some he.distinct).mp hd).mem
      refine ((firstDefer_quarantine he.distinct).mpr ⟨c, rfl, ?_⟩).symm
      refine leastOf_held he ha hundropped hcrouted hc.holds (hc.le a (by simp [pair]) hheld) fun d hd => ?_
      have hholds := (leastOf_of_find?_sortByKey hd).holds
      unfold deferBeside at hholds
      rw [Bool.and_eq_true] at hholds
      exact hc.le d (by simp [pair, Option.mem_def.mp hd]) (by rw [heldBeside_none, hholds.1, Bool.true_or])

/-- The two orders agree if and only if nothing is hidden. -/
theorem late_eq_iff (he : Evaluated routed) :
    late quarantined routed = early quarantined routed ↔ Unhidden quarantined routed := by
  cases hfirst : firstApply routed with
  | none =>
    have hnone := firstApply_eq_none.mp hfirst
    have habsurd : ∀ {a}, LeastOf place routed isApply a → False := by
      intro a ha
      have hnot := hnone a ha.mem
      rw [ha.holds] at hnot
      cases hnot
    exact iff_of_true (late_of_none he hnone)
      ⟨fun _ ha => (habsurd ha).elim, fun _ ha => (habsurd ha).elim, fun _ ha => (habsurd ha).elim⟩
  | some a =>
    have ha := (firstApply_eq_some he.distinct).mp hfirst
    have honly : ∀ {b}, LeastOf place routed isApply b → b = a := fun hb => hb.unique (nodup_place he.distinct) ha
    by_cases hq : quarantined a = true
    · rw [late_eq_of_quarantined he ha hq]
      constructor
      · rintro ⟨hall, hundropped⟩
        refine ⟨fun b hb _ => hall, fun b hb _ => honly hb ▸ hundropped, fun b hb hbq => ?_⟩
        rw [honly hb, hq] at hbq
        cases hbq
      · intro h
        exact ⟨h.all a ha hq, h.undropped a ha hq⟩
    · have hfree : quarantined a = false := Bool.eq_false_iff.mpr hq
      rw [late_eq_of_free he ha hfree]
      constructor
      · intro hbehind
        refine ⟨fun b hb hbq => ?_, fun b hb hbq => ?_, fun b hb _ => honly hb ▸ hbehind⟩
        · exact absurd (honly hb ▸ hbq) hq
        · exact absurd (honly hb ▸ hbq) hq
      · intro h
        exact h.behind a ha hfree

end Lists

/-! ## What a route promises -/

section Lists
variable {quarantined : RoutedProcedure → Bool} {routed : List RoutedProcedure} {item : RoutedProcedure}

variable (quarantined routed) in
theorem late_eq_pair : ∃ x y, late quarantined routed = pair x y ∧ (∀ item ∈ x, isApply item = true)
    ∧ (∀ item ∈ y, isDefer item = true) ∧ ∀ item ∈ pair x y,
      item ∈ (pair (firstApply routed) (firstDefer (firstApply routed) routed)).map (quarantine quarantined) := by
  refine ⟨_, _, by rw [late, selectRouteResult_items, demoteSelected_eq], fun item hitem => ?_, fun item hitem => ?_,
    fun item hitem => ?_⟩
  · exact isApply_of_firstApply hitem
  · have hholds := (leastOf_of_find?_sortByKey hitem).holds
    rw [deferBeside_none] at hholds
    exact hholds
  · rw [pair, List.mem_append, Option.mem_toList, Option.mem_toList] at hitem
    rcases hitem with happlied | hdeferred
    · exact (leastOf_of_find?_sortByKey happlied).mem
    · exact (leastOf_of_find?_sortByKey hdeferred).mem

theorem not_both_probationary {b c : RoutedProcedure}
    (hb : b ∈ pair (firstApply routed) (firstDefer (firstApply routed) routed))
    (hc : c ∈ pair (firstApply routed) (firstDefer (firstApply routed) routed)) (hne : b ≠ c) :
    ¬(isProbationary b = true ∧ isProbationary c = true) := by
  have hbeside : ∀ d ∈ firstDefer (firstApply routed) routed, ∀ a ∈ firstApply routed,
      ¬(isProbationary a = true ∧ isProbationary d = true) := by
    intro d hd a ha hprob
    have hholds := (leastOf_of_find?_sortByKey hd).holds
    rw [Option.mem_def.mp ha] at hholds
    simp [deferBeside, hprob.1, hprob.2] at hholds
  rw [pair, List.mem_append, Option.mem_toList, Option.mem_toList] at hb hc
  rcases hb with hb | hb
  · rcases hc with hc | hc
    · exact absurd (Option.mem_unique hb hc) hne
    · exact hbeside c hc b hb
  · rcases hc with hc | hc
    · exact fun hboth => hbeside b hb c hc hboth.symm
    · exact absurd (Option.mem_unique hb hc) hne

/-- What is selected is never probationary twice, and demoting does not change that. -/
theorem late_probationary : ((late quarantined routed).filter isProbationary).length ≤ 1 := by
  obtain ⟨x, y, heq, hx, hy, hmem⟩ := late_eq_pair quarantined routed
  rw [heq]
  cases x with
  | none => cases y with
    | none => exact Nat.zero_le 1
    | some v => exact List.length_filter_le _ [v]
  | some u => cases y with
    | none => exact List.length_filter_le _ [u]
    | some v =>
      have hnotboth : ¬(isProbationary u = true ∧ isProbationary v = true) := by
        obtain ⟨b, hb, rfl⟩ := List.mem_map.mp (hmem u (by simp [pair]))
        obtain ⟨c, hc, rfl⟩ := List.mem_map.mp (hmem v (by simp [pair]))
        rw [isProbationary_quarantine, isProbationary_quarantine]
        refine not_both_probationary hb hc ?_
        rintro rfl
        have hnot := isApply_of_isDefer (hy _ rfl)
        rw [hx _ rfl] at hnot
        cases hnot
      change (List.filter isProbationary [u, v]).length ≤ 1
      by_cases hu : isProbationary u = true
      · have hv : isProbationary v = false := Bool.eq_false_iff.mpr fun hv => hnotboth ⟨hu, hv⟩
        simp [hu, hv]
      · rw [List.filter_cons_of_neg hu]
        exact List.length_filter_le _ [v]

variable (quarantined routed) in
theorem late_counts : ((late quarantined routed).filter isApply).length ≤ 1
    ∧ ((late quarantined routed).filter isDefer).length ≤ 1
    ∧ ∀ item ∈ late quarantined routed, isApply item = true ∨ isDefer item = true := by
  obtain ⟨x, y, heq, hx, hy, -⟩ := late_eq_pair quarantined routed
  rw [heq]
  have hnotDefer : ∀ item ∈ x, isDefer item = false := by
    intro item hitem
    by_contra h
    have hnot := isApply_of_isDefer (Bool.not_eq_false _ ▸ h)
    rw [hx item hitem] at hnot
    cases hnot
  have hnotApply : ∀ item ∈ y, isApply item = false := fun item hitem => isApply_of_isDefer (hy item hitem)
  refine ⟨?_, ?_, fun item hitem => ?_⟩
  · cases x <;> cases y <;> simp_all [pair]
  · cases x <;> cases y <;> simp_all [pair]
  · rw [pair, List.mem_append, Option.mem_toList, Option.mem_toList] at hitem
    exact hitem.imp (hx item) (hy item)

end Lists

section Route
variable (quarantines : Quarantines) (localContext : ProcedureLocalContext) (context : SearchContext)
  (candidates : List ProcedureCandidate) (inputs : RouteInputs)

/-- Quarantine hides no eligible procedure: the items are those of quarantining first, and with them the
rest of what a route promises. -/
structure HidesNothing : Prop where
  items : (routeProceduresWithQuarantine quarantines localContext context candidates inputs).items =
    (routeQuarantinedFirst (quarantinedIn quarantines localContext) context candidates inputs).items
  oneApply : ((routeProceduresWithQuarantine quarantines localContext context candidates inputs).items.filter
    isApply).length ≤ 1
  oneDefer : ((routeProceduresWithQuarantine quarantines localContext context candidates inputs).items.filter
    isDefer).length ≤ 1
  decided : ∀ item ∈ (routeProceduresWithQuarantine quarantines localContext context candidates inputs).items,
    isApply item = true ∨ isDefer item = true
  oneProbationary : ((routeProceduresWithQuarantine quarantines localContext context candidates inputs).items.filter
    isProbationary).length ≤ 1
  applied : ∀ b ∈ evaluated context inputs candidates, isApply b = true → quarantinedIn quarantines localContext b = false →
    ∃ a ∈ (routeProceduresWithQuarantine quarantines localContext context candidates inputs).items,
      LeastOf routeRank
        ((evaluated context inputs candidates).filter fun item => !quarantinedIn quarantines localContext item) isApply a
  bare : ∀ item ∈ (routeProceduresWithQuarantine quarantines localContext context candidates inputs).items,
    quarantinedIn quarantines localContext item = true ∨ item.mode = .guardrailOnly → Bare item
  unordered : ∀ candidates', candidates.Perm candidates' →
    routeProceduresWithQuarantine quarantines localContext context candidates' inputs =
      routeProceduresWithQuarantine quarantines localContext context candidates inputs

/-- **Quarantine hides nothing if and only if the first applicable procedure is not quarantined before others, and
quarantined ones stand behind what is shown.** -/
theorem hidesNothing_iff (hlen : candidates.length ≤ maxCandidates)
    (hids : (candidates.map fun candidate => candidate.revision.procedureId).Nodup) :
    HidesNothing quarantines localContext context candidates inputs ↔
      Unhidden (quarantinedIn quarantines localContext) (evaluated context inputs candidates) := by
  have he : Evaluated (evaluated context inputs candidates) := evaluated_of_distinct hids
  have hlate : (routeProceduresWithQuarantine quarantines localContext context candidates inputs).items =
      late (quarantinedIn quarantines localContext) (evaluated context inputs candidates) := by
    change demoteSelected _ (route context candidates inputs).items = _
    rw [route_items hlen]
    rfl
  rw [← late_eq_iff he]
  constructor
  · intro h
    rw [← hlate]
    exact h.items
  · intro heq
    obtain ⟨happly, hdefer, hdecided⟩ := late_counts (quarantinedIn quarantines localContext)
      (evaluated context inputs candidates)
    rw [← hlate] at happly hdefer hdecided heq
    refine ⟨heq, happly, hdefer, hdecided, hlate ▸ late_probationary, fun b hb hbapply hbfree => ?_,
      fun item hitem => bare_of_mem hlen hitem, fun candidates' h => routeProceduresWithQuarantine_perm hids h⟩
    obtain ⟨a, ha⟩ : ∃ a, LeastOf place (evaluated context inputs candidates)
        (fun item => isApply item && !quarantinedIn quarantines localContext item) a :=
      exists_leastOf hb (by rw [hbapply, hbfree]; rfl)
    have hholds := ha.holds
    rw [Bool.and_eq_true, Bool.not_eq_true'] at hholds
    refine ⟨a, ?_, List.mem_filter.mpr ⟨ha.mem, by rw [hholds.2]; rfl⟩, hholds.1, fun c hc hcapply => ?_⟩
    · rw [heq, early_eq, (firstApply_quarantine he.distinct).mpr ha]
      simp [pair]
    · obtain ⟨hcmem, hcfree⟩ := List.mem_filter.mp hc
      rw [Bool.not_eq_true'] at hcfree
      have hsame : a.decision = c.decision := by
        rw [beq_iff_eq.mp hholds.1, beq_iff_eq.mp hcapply]
      exact (routeRank_le_iff hsame).mpr (ha.le c hcmem (by rw [hcapply, hcfree]; rfl))

end Route

/-! ## The quarantined procedure that ranks first -/

def sampleLocalContext : ProcedureLocalContext := ⟨none, none, .atEntry, some "timeout"⟩

/-- A stable procedure for every place, which is at its entry. -/
def sampleCandidate (procedureId : ProcedureId) (revisionId : RevisionId) (lexicalRank : Nat) : ProcedureCandidate where
  revision := ⟨procedureId, revisionId, { sampleDraft with scope := .global }⟩
  publication := .activeStable
  globalSupport := some .valid
  phase := some .atEntry
  lexicalRank := lexicalRank

def harmfulRevision : RevisionId := ⟨0x70008000000000000010⟩

def sampleCandidates : List ProcedureCandidate :=
  [sampleCandidate ⟨0x70008000000000000001⟩ harmfulRevision 0,
    sampleCandidate ⟨0x70008000000000000002⟩ ⟨0x70008000000000000020⟩ 1]

/-- The first of the two did harm in the local context. -/
def sampleQuarantines : Quarantines := OrdMap.empty.insert harmfulRevision [sampleLocalContext]

def sampleInputs : RouteInputs := ⟨⟨[⟨.phase, .text "building"⟩]⟩, none, true, false, false, false⟩

/-- The second procedure is applicable and not quarantined, and it is not shown. -/
theorem second_hidden :
    ¬HidesNothing sampleQuarantines sampleLocalContext sampleContext sampleCandidates sampleInputs := by
  intro h
  have hitems : ((routeProceduresWithQuarantine sampleQuarantines sampleLocalContext sampleContext sampleCandidates
      sampleInputs).items.map RoutedProcedure.lexicalRank = [0])
      ∧ ((routeQuarantinedFirst (quarantinedIn sampleQuarantines sampleLocalContext) sampleContext sampleCandidates
        sampleInputs).items.map RoutedProcedure.lexicalRank = [1, 0]) := by
    decide +kernel
  have hsame := congrArg (List.map RoutedProcedure.lexicalRank) h.items
  rw [hitems.1, hitems.2] at hsame
  cases hsame

/-- Both procedures did harm in the local context. -/
def bothQuarantined : Quarantines := sampleQuarantines.insert ⟨0x70008000000000000020⟩ [sampleLocalContext]

/-- Where all applicable procedures are quarantined, nothing is hidden. -/
theorem hidesNothing_iff_sample :
    HidesNothing bothQuarantined sampleLocalContext sampleContext sampleCandidates sampleInputs := by
  have hall : ∀ item ∈ evaluated sampleContext sampleInputs sampleCandidates,
      quarantinedIn bothQuarantined sampleLocalContext item = true ∧ isProbationary item = false := by
    decide +kernel
  refine (hidesNothing_iff bothQuarantined sampleLocalContext sampleContext sampleCandidates sampleInputs (by decide)
    (by decide)).mpr ⟨fun a ha _ b hb _ => (hall b hb).1, fun a ha _ hprobationary => ?_, fun a ha hfree => ?_⟩
  · rw [(hall a ha.mem).2] at hprobationary
    cases hprobationary
  · rw [(hall a ha.mem).1] at hfree
    cases hfree

end EverTrace.Bugs.LateQuarantine
