import EverTrace.L2Machine.SearchRanked
import Mathlib.Algebra.BigOperators.Group.Finset.Basic
import Mathlib.Algebra.Order.BigOperators.Group.Finset
/-!
# A complete search that left candidates out

The completeness of a search result does not look at what was left out. A search
that found more than it may return lists the others in `omitted_refs` and still
calls itself complete; so does one whose full-text query failed, or which took too
long, although it names that reason. The conflict, the temporal gap and the stale
projection are what it looks at (`Demoted`), and a view of grounded evidence that
omits anything is refused where it says complete (query.rs:340-346).

The rest of the accounting holds: the rows that lead (`Leads`) are returned up to
what fits, in order, and all others are listed (`accounts_iff`).
-/
namespace EverTrace.Bugs.SilentOmission
open EverTrace.Lib EverTrace.L1 EverTrace.L2.Search

def fetchedRows (fetched : Fetched) : List SearchProjectionRow := fetched.structured ++ fetched.fts.list

/-- Of the fetched rows of one row id the least one counts. -/
def Counts (fetched : Fetched) (row : SearchProjectionRow) : Prop :=
  row ∈ fetchedRows fetched ∧ ∀ other ∈ fetchedRows fetched, other.rowId = row.rowId → row.order ≤ other.order

/-- The first of the matching rows of one candidate, by class, position and the order of the rows. -/
def Leads (context : SearchContext) (fetched : Fetched) (row : SearchProjectionRow) : Prop :=
  (Counts fetched row ∧ Matches context fetched.fts.list row) ∧
    ∀ other, Counts fetched other ∧ Matches context fetched.fts.list other → other.candidateId = row.candidateId →
      toLex (rowKey context (ftsRanks fetched.fts.list) row, row.order) ≤
        toLex (rowKey context (ftsRanks fetched.fts.list) other, other.order)

/-- What the search promises of its result. -/
structure Accounts (context : SearchContext) (fetched : Fetched) (result : SearchResult) : Prop where
  limited : result.candidates.length ≤ limitOf context
  distinct : (result.candidates.map (·.candidateId)).Nodup
  ordered : ∃ rows, List.Forall₂ Shows rows result.candidates ∧ (∀ row ∈ rows, Leads context fetched row) ∧
    rows.Pairwise fun a b => rowKey context (ftsRanks fetched.fts.list) a < rowKey context (ftsRanks fetched.fts.list) b
  disjoint : ∀ candidate ∈ result.candidates, candidate.candidateId ∉ result.omittedRefs
  accounted : ∀ id, ((∃ candidate ∈ result.candidates, candidate.candidateId = id) ∨ id ∈ result.omittedRefs) ↔
    ∃ row ∈ fetchedRows fetched, Matches context fetched.fts.list row ∧ row.candidateId = some id
  honest : result.completeness = .complete → result.omittedRefs = ∅ ∧ result.degradedReasons = ∅

/-! ## When it keeps the promise -/

section Condition
open Classical

noncomputable def leads (context : SearchContext) (fetched : Fetched) : Finset SearchProjectionRow :=
  (fetchedRows fetched).toFinset.filter (Leads context fetched)

/-- The limit and the tokens of the budget are enough for the rows. -/
structure Fits (context : SearchContext) (rows : Finset SearchProjectionRow) : Prop where
  candidates : rows.card ≤ limitOf context
  counted : ∀ row ∈ rows, (cost row).isSome
  tokens : ∑ row ∈ rows, (cost row).getD 0 ≤ context.budget.tokensRemaining

/-- The row leads, and the leading rows up to it fit. -/
def Kept (context : SearchContext) (fetched : Fetched) (row : SearchProjectionRow) : Prop :=
  Leads context fetched row ∧ Fits context ((leads context fetched).filter fun other =>
    rowKey context (ftsRanks fetched.fts.list) other ≤ rowKey context (ftsRanks fetched.fts.list) row)

/-- Two of the kept rows with the identifier differ in their text, and two in their source. -/
def Conflicting (kept : SearchProjectionRow → Prop) (identifier : String) : Prop :=
  (∃ a b, kept a ∧ kept b ∧ containsText a.text identifier ∧ containsText b.text identifier ∧ a.text ≠ b.text) ∧
    ∃ a b, kept a ∧ kept b ∧ containsText a.text identifier ∧ containsText b.text identifier ∧
      a.sourceRef.getD "" ≠ b.sourceRef.getD ""

/-- The query was not read in full, the projection is behind, a time was asked for and nothing is kept, or kept
rows conflict. -/
def Demoted (context : SearchContext) (fetched : Fetched) : Prop :=
  context.queryFacets.parseStatus ≠ .complete ∨ fetched.frontier < fetched.authoritativeFrontier ∨
    (context.queryFacets.temporalQualifiers ≠ [] ∧ ∀ row, ¬ Kept context fetched row) ∨
    ∃ identifier ∈ context.queryFacets.exactIdentifiers, Conflicting (Kept context fetched) identifier

/-- Rows of one row id that match are of candidates that count, and either the result is not called complete anyway,
or all leading rows fit, the full-text query was answered and the time was enough. -/
structure Accountable (context : SearchContext) (fetched : Fetched) : Prop where
  unique : ∀ row ∈ fetchedRows fetched, Matches context fetched.fts.list row →
    ∃ other, Counts fetched other ∧ Matches context fetched.fts.list other ∧ other.candidateId = row.candidateId
  honest : Demoted context fetched ∨ (Fits context (leads context fetched) ∧ (∃ found, fetched.fts = .rows found) ∧
    fetched.elapsedUs ≤ context.budget.latencyUsRemaining)

end Condition

variable {context : SearchContext} {fetched : Fetched} {row : SearchProjectionRow} {s : Selection}
  {kept left : List SearchProjectionRow}

/-! ## The kept rows -/

theorem mem_rankedRows_iff : row ∈ rankedRows context fetched ↔
    Counts fetched row ∧ Matches context fetched.fts.list row := by
  rw [mem_rankedRows, mem_mergeRows]
  rfl

theorem mem_leadingRows_iff : row ∈ leadingRows context fetched ↔ Leads context fetched row := by
  rw [mem_leadingRows]
  unfold Leads
  simp only [mem_rankedRows_iff]

theorem leads_eq (context : SearchContext) (fetched : Fetched) :
    leads context fetched = (leadingRows context fetched).toFinset := by
  ext row
  simp only [leads, Finset.mem_filter, List.mem_toFinset, mem_leadingRows_iff]
  exact and_iff_right_of_imp fun h => h.1.1.1

/-- The rows of a list without repetitions fit exactly if the budget affords them within the limit. -/
theorem fits_toFinset {rows : List SearchProjectionRow} (hnodup : rows.Nodup) (fts : FtsOutcome) :
    Fits context rows.toFinset ↔ Affords (startBudget context fts) rows ∧ rows.length ≤ limitOf context := by
  have hcandidates : (startBudget context fts).candidatesRemaining = context.budget.candidatesRemaining := by
    cases fts <;> rfl
  have htokens : (startBudget context fts).tokensRemaining = context.budget.tokensRemaining := by
    cases fts <;> rfl
  have hlimit : limitOf context ≤ context.budget.candidatesRemaining := min_le_right _ _
  have hcard := List.toFinset_card_of_nodup hnodup
  have hsum := List.sum_toFinset (fun row => (cost row).getD 0) hnodup
  constructor
  · intro h
    have hlength := hcard ▸ h.candidates
    refine ⟨⟨hcandidates ▸ hlength.trans hlimit, fun row hrow => h.counted row (List.mem_toFinset.mpr hrow), ?_⟩,
      hlength⟩
    rw [htokens, ← hsum]
    exact h.tokens
  · intro ⟨h, hlength⟩
    refine ⟨hcard ▸ hlength, fun row hrow => h.counted row (List.mem_toFinset.mp hrow), ?_⟩
    rw [hsum, ← htokens]
    exact h.tokens

theorem leadingRows_nodup (context : SearchContext) (fetched : Fetched) : (leadingRows context fetched).Nodup :=
  List.Nodup.of_map _ (nodup_leadingIds context fetched)

section Run
variable (h : Looped context (start context fetched.fts) s (rankedRows context fetched) [] kept left)
include h

/-- The rows that are shown are the longest part of the leading rows that fits. -/
theorem shown_longest : LongestPrefix
    (fun rows => Affords (startBudget context fetched.fts) rows ∧ rows.length ≤ limitOf context)
    (leadingRows context fetched) (kept.take (limitOf context)) (kept.drop (limitOf context) ++ left) := by
  have hlongest : LongestPrefix (Affords (startBudget context fetched.fts)) (leadingRows context fetched) kept left :=
    ⟨h.sublist, h.longest.kept_fits, h.longest.stops⟩
  exact hlongest.take Affords.sublist (limitOf context)

theorem mem_shown : row ∈ kept.take (limitOf context) ↔ Kept context fetched row := by
  have hprefix := shown_longest h
  have hupTo : ∀ row, (leads context fetched).filter (fun other =>
      rowKey context (ftsRanks fetched.fts.list) other ≤ rowKey context (ftsRanks fetched.fts.list) row) =
      ((leadingRows context fetched).filter fun other =>
        rowKey context (ftsRanks fetched.fts.list) other ≤ rowKey context (ftsRanks fetched.fts.list) row).toFinset := by
    intro row
    ext other
    simp only [leads_eq, Finset.mem_filter, List.mem_toFinset, List.mem_filter, decide_eq_true_iff]
  have hiff : ∀ row ∈ leadingRows context fetched, row ∈ kept.take (limitOf context) ↔ Fits context
      ((leads context fetched).filter fun other =>
        rowKey context (ftsRanks fetched.fts.list) other ≤ rowKey context (ftsRanks fetched.fts.list) row) := by
    intro row hrow
    rw [hupTo, fits_toFinset ((leadingRows_nodup context fetched).filter _) fetched.fts]
    exact hprefix.mem_iff (fun hsub hf => ⟨hf.1.sublist hsub, hsub.length_le.trans hf.2⟩)
      (leadingRows_sorted context fetched) hrow
  unfold Kept
  rw [← mem_leadingRows_iff]
  constructor
  · intro hmem
    have hlead : row ∈ leadingRows context fetched := by
      rw [← hprefix.append]
      exact List.mem_append_left _ hmem
    exact ⟨hlead, (hiff row hlead).mp hmem⟩
  · intro ⟨hlead, hfits⟩
    exact (hiff row hlead).mpr hfits

/-- Nothing is omitted exactly if all leading rows fit. -/
theorem omitted_eq_empty : (conclude context fetched (ftsRanks fetched.fts.list) s).omittedRefs = ∅ ↔
    Fits context (leads context fetched) := by
  have hprefix := shown_longest h
  rw [leads_eq, fits_toFinset (leadingRows_nodup context fetched) fetched.fts,
    ← hprefix.left_eq_nil fun hsub hf => ⟨hf.1.sublist hsub, hsub.length_le.trans hf.2⟩]
  constructor
  · intro hempty
    rw [List.eq_nil_iff_forall_not_mem]
    intro row hrow
    have hlead : row ∈ leadingRows context fetched := by
      rw [← hprefix.append]
      exact List.mem_append_right _ hrow
    obtain ⟨id, hid⟩ := Option.isSome_iff_exists.mp (leadingRows_matches hlead).1
    have homitted := (conclude_omitted h).mpr (List.mem_map.mpr ⟨row, hrow, hid⟩)
    rw [hempty] at homitted
    cases homitted
  · intro hnil
    ext id
    rw [conclude_omitted h, hnil]
    simp

end Run

/-! ## How complete it is said to be -/

theorem one_lt_dedup {α : Type} [DecidableEq α] {l : List α} : l.dedup.length > 1 ↔ ∃ a ∈ l, ∃ b ∈ l, a ≠ b := by
  rw [gt_iff_lt, ← List.card_toFinset, Finset.one_lt_card]
  simp only [List.mem_toFinset]

theorem conflictOn_iff {candidates : List Picked} (hsupplied : ∀ p ∈ candidates, Supplied context p p.row)
    (identifier : String) :
    conflictOn candidates identifier = true ↔ Conflicting (· ∈ candidates.map (·.row)) identifier := by
  have htext : ∀ p ∈ candidates, p.candidate.text = p.row.text ∧ p.candidate.sourceRef = p.row.sourceRef.getD "" := by
    intro p hp
    obtain ⟨id, variant, origins, -, -, hcandidate⟩ := (hsupplied p hp).candidate_eq
    rw [hcandidate]
    exact ⟨rfl, rfl⟩
  have hmem : ∀ p, p ∈ candidates.filter (fun p => containsText p.candidate.text identifier) ↔
      p ∈ candidates ∧ containsText p.row.text identifier = true := by
    intro p
    rw [List.mem_filter]
    refine and_congr_right fun hp => ?_
    rw [(htext p hp).1]
  have hdiffer : ∀ (f : Picked → String) (g : SearchProjectionRow → String), (∀ p ∈ candidates, f p = g p.row) →
      (((candidates.filter fun p => containsText p.candidate.text identifier).map f).dedup.length > 1 ↔
        ∃ a b, a ∈ candidates.map (·.row) ∧ b ∈ candidates.map (·.row) ∧ containsText a.text identifier ∧
          containsText b.text identifier ∧ g a ≠ g b) := by
    intro f g hfg
    rw [one_lt_dedup]
    constructor
    · intro ⟨x, hx, y, hy, hne⟩
      obtain ⟨p, hp, rfl⟩ := List.mem_map.mp hx
      obtain ⟨q, hq, rfl⟩ := List.mem_map.mp hy
      obtain ⟨hp, hpc⟩ := (hmem p).mp hp
      obtain ⟨hq, hqc⟩ := (hmem q).mp hq
      rw [hfg p hp, hfg q hq] at hne
      exact ⟨p.row, q.row, List.mem_map_of_mem hp, List.mem_map_of_mem hq, hpc, hqc, hne⟩
    · intro ⟨a, b, ha, hb, hac, hbc, hne⟩
      obtain ⟨p, hp, rfl⟩ := List.mem_map.mp ha
      obtain ⟨q, hq, rfl⟩ := List.mem_map.mp hb
      refine ⟨f p, List.mem_map_of_mem ((hmem p).mpr ⟨hp, hac⟩), f q, List.mem_map_of_mem ((hmem q).mpr ⟨hq, hbc⟩), ?_⟩
      rw [hfg p hp, hfg q hq]
      exact hne
  have hlength : ((candidates.filter fun p => containsText p.candidate.text identifier).map
      (·.candidate.text)).dedup.length > 1 →
      (candidates.filter fun p => containsText p.candidate.text identifier).length > 1 := by
    intro hgt
    have hle := (List.dedup_sublist ((candidates.filter fun p => containsText p.candidate.text identifier).map
      (·.candidate.text))).length_le
    rw [List.length_map] at hle
    omega
  unfold conflictOn Conflicting
  rw [← hdiffer (·.candidate.text) (·.text) fun p hp => (htext p hp).1,
    ← hdiffer (·.candidate.sourceRef) (·.sourceRef.getD "") fun p hp => (htext p hp).2]
  simp only [Bool.and_eq_true, decide_eq_true_iff]
  constructor
  · intro h
    exact ⟨h.1.2, h.2⟩
  · intro h
    exact ⟨⟨hlength h.1, h.1⟩, h.2⟩

/-- Rows that may be shown are of the time domain that was asked for, so that only an empty answer leaves a gap. -/
theorem temporalGap_isSome {candidates : List Picked} (hshown : ∀ p ∈ candidates, Shown context p.row) :
    (temporalGap candidates context).isSome = true ↔
      context.queryFacets.temporalQualifiers ≠ [] ∧ candidates = [] := by
  have htemporal := fun p hp => temporalCompatible_of_shown (hshown p hp)
  have hany : ∀ domain : String, (∀ p ∈ candidates, p.row.timeDomain = domain) →
      candidates.any (fun p => p.row.timeDomain != domain) = false := by
    intro domain hdomain
    rw [List.any_eq_false]
    intro p hp
    rw [hdomain p hp]
    simp
  unfold temporalCompatible at htemporal
  unfold temporalGap
  cases hq : context.queryFacets.temporalQualifiers with
  | nil => simp
  | cons qualifier rest =>
    rw [hq] at htemporal
    cases rest with
    | nil =>
      cases qualifier with
      | eventTimeAsOf atUs =>
        have hdomain : ∀ p ∈ candidates, p.row.timeDomain = "event_time" := fun p hp =>
          eq_of_beq (Bool.and_eq_true _ _ ▸ htemporal p hp).1
        simp [hany _ hdomain]
      | eventTimeInterval startUs endUs =>
        have hdomain : ∀ p ∈ candidates, p.row.timeDomain = "event_time" := fun p hp =>
          eq_of_beq (Bool.and_eq_true _ _ ▸ (Bool.and_eq_true _ _ ▸ htemporal p hp).1).1
        simp [hany _ hdomain]
      | sourceSequenceAtMost sequence =>
        have hdomain : ∀ p ∈ candidates, p.row.timeDomain = "source_sequence" := fun p hp =>
          eq_of_beq (Bool.and_eq_true _ _ ▸ htemporal p hp).1
        simp [hany _ hdomain]
    | cons other rest =>
      -- no row is compatible with two qualifiers
      have hnone : candidates = [] := by
        rw [List.eq_nil_iff_forall_not_mem]
        intro p hp
        have hfalse := htemporal p hp
        cases qualifier <;> cases hfalse
      simp [hnone]

section Run
variable (h : Looped context (start context fetched.fts) s (rankedRows context fetched) [] kept left)

/-- The candidates once they are marked, and whether some are. -/
def marked (context : SearchContext) (fetched : Fetched) (s : Selection) : List Picked × Bool :=
  markConservativeConflicts (chosen context fetched s) context

theorem complete_iff : (conclude context fetched (ftsRanks fetched.fts.list) s).completeness = .complete ↔
    (marked context fetched s).2 = false ∧ (temporalGap (marked context fetched s).1 context).isSome = false ∧
      context.queryFacets.parseStatus = .complete ∧ ¬ fetched.frontier < fetched.authoritativeFrontier := by
  have hresult : (conclude context fetched (ftsRanks fetched.fts.list) s).completeness =
      completenessOf (marked context fetched s).2 (temporalGap (marked context fetched s).1 context).isSome
        (context.queryFacets.parseStatus == .complete) (fetched.frontier < fetched.authoritativeFrontier) := rfl
  rw [hresult]
  unfold completenessOf
  cases (marked context fetched s).2 <;> cases (temporalGap (marked context fetched s).1 context).isSome <;>
    by_cases hparsed : context.queryFacets.parseStatus = .complete <;>
    by_cases hstale : fetched.frontier < fetched.authoritativeFrontier <;> simp [hparsed, hstale]

theorem degraded_iff : (conclude context fetched (ftsRanks fetched.fts.list) s).degradedReasons = ∅ ↔
    (∃ found, fetched.fts = .rows found) ∧ (temporalGap (marked context fetched s).1 context).isSome = false ∧
      ¬ fetched.frontier < fetched.authoritativeFrontier ∧ fetched.elapsedUs ≤ s.budget.latencyUsRemaining := by
  have hresult : (conclude context fetched (ftsRanks fetched.fts.list) s).degradedReasons =
      fetched.fts.reasons ∪ (temporalGap (marked context fetched s).1 context).toFinset ∪
        (if fetched.frontier < fetched.authoritativeFrontier then {"search_projection_stale"} else ∅) ∪
        if (s.budget.consumeLatency fetched.elapsedUs).2 then ∅ else {"latency_budget_exhausted"} := rfl
  have hfts : fetched.fts.reasons = ∅ ↔ ∃ found, fetched.fts = .rows found := by
    cases fetched.fts <;> simp [FtsOutcome.reasons]
  have htime : (s.budget.consumeLatency fetched.elapsedUs).2 = true ↔
      fetched.elapsedUs ≤ s.budget.latencyUsRemaining := by
    unfold RetrievalBudget.consumeLatency
    split
    · next hle => simp [hle]
    · next hle => simp [hle]
  rw [hresult, Finset.union_eq_empty, Finset.union_eq_empty, Finset.union_eq_empty, hfts, ← htime]
  cases temporalGap (marked context fetched s).1 context <;>
    by_cases hstale : fetched.frontier < fetched.authoritativeFrontier <;>
    by_cases hlate : (s.budget.consumeLatency fetched.elapsedUs).2 = true <;> simp [hstale, hlate]

include h

theorem marked_rows : (marked context fetched s).1.map (·.row) = kept.take (limitOf context) := by
  have hunmarked := (foldl_markConflict context.queryFacets.exactIdentifiers (chosen context fetched s, false)).1
  have hrows := congrArg (List.map fun p : Picked => p.row) hunmarked
  rw [List.map_map, List.map_map] at hrows
  rw [← chosen_rows h]
  exact hrows

/-- **The result is called complete exactly if nothing demotes it.** -/
theorem complete_iff_demoted : (conclude context fetched (ftsRanks fetched.fts.list) s).completeness = .complete ↔
    ¬ Demoted context fetched := by
  have hrows := marked_rows h
  have hkept : ∀ row, row ∈ kept.take (limitOf context) ↔ Kept context fetched row := fun row => mem_shown h
  have hgap : (temporalGap (marked context fetched s).1 context).isSome = true ↔
      context.queryFacets.temporalQualifiers ≠ [] ∧ ∀ row, ¬ Kept context fetched row := by
    rw [temporalGap_isSome fun p hp => ?_]
    · refine and_congr_right fun _ => ?_
      rw [← List.map_eq_nil_iff (f := fun p : Picked => p.row), hrows, List.eq_nil_iff_forall_not_mem]
      exact forall_congr' fun row => not_congr (hkept row)
    · have hp := (hkept p.row).mp (hrows ▸ List.mem_map_of_mem hp)
      exact hp.1.1.2.2.1
  have hflag : (marked context fetched s).2 = true ↔
      ∃ identifier ∈ context.queryFacets.exactIdentifiers, Conflicting (Kept context fetched) identifier := by
    have hmarked := (foldl_markConflict context.queryFacets.exactIdentifiers (chosen context fetched s, false)).2
    have hconflict : ∀ identifier, conflictOn (chosen context fetched s) identifier = true ↔
        Conflicting (Kept context fetched) identifier := by
      intro identifier
      rw [conflictOn_iff (fun p hp => (h.shown.supplied_row (mem_chosen hp)).2), chosen_rows h]
      simp only [hkept]
    have hdef : (marked context fetched s).2 = context.queryFacets.exactIdentifiers.any
        (conflictOn (chosen context fetched s)) := by
      rw [← Bool.false_or (List.any _ _)]
      exact hmarked
    rw [hdef, List.any_eq_true]
    simp only [hconflict]
  rw [complete_iff, ← Bool.not_eq_true, ← Bool.not_eq_true, hflag, hgap]
  unfold Demoted
  rw [not_or, not_or, not_or, not_ne_iff]
  constructor
  · intro ⟨hconflict, hempty, hparsed, hstale⟩
    exact ⟨hparsed, hstale, hempty, hconflict⟩
  · intro ⟨hparsed, hstale, hempty, hconflict⟩
    exact ⟨hconflict, hempty, hparsed, hstale⟩

/-- **What the search accounts for**: all but the completeness always holds where rows of one id are of candidates
that count. -/
theorem accounts_iff_of_looped : Accounts context fetched (conclude context fetched (ftsRanks fetched.fts.list) s) ↔
    Accountable context fetched := by
  have hcandidates := conclude_candidates h
  have hids := Shows.ids hcandidates
  have hprefix := shown_longest h
  have hlatency : s.budget.latencyUsRemaining = (startBudget context fetched.fts).latencyUsRemaining := h.latency
  have hnodup := nodup_leadingIds context fetched
  rw [← hprefix.append, List.map_append, List.nodup_append] at hnodup
  have hlead : ∀ row, row ∈ kept.take (limitOf context) → Leads context fetched row := fun row hrow =>
    ((mem_shown h).mp hrow).1
  -- the returned and the omitted ids are those of the leading rows
  have haccounted : ∀ id, ((∃ candidate ∈ (conclude context fetched (ftsRanks fetched.fts.list) s).candidates,
      candidate.candidateId = id) ∨ id ∈ (conclude context fetched (ftsRanks fetched.fts.list) s).omittedRefs) ↔
      ∃ row, (Counts fetched row ∧ Matches context fetched.fts.list row) ∧ row.candidateId = some id := by
    intro id
    have hreturned : (∃ candidate ∈ (conclude context fetched (ftsRanks fetched.fts.list) s).candidates,
        candidate.candidateId = id) ↔ some id ∈ (kept.take (limitOf context)).map SearchProjectionRow.candidateId := by
      rw [← hids, List.mem_map]
      simp only [Option.some.injEq]
    rw [hreturned, conclude_omitted h, ← List.mem_append, ← List.map_append, hprefix.append, mem_leadingIds,
      List.mem_map]
    simp only [mem_rankedRows_iff]
  have hhonest : ((conclude context fetched (ftsRanks fetched.fts.list) s).completeness = .complete →
      (conclude context fetched (ftsRanks fetched.fts.list) s).omittedRefs = ∅ ∧
        (conclude context fetched (ftsRanks fetched.fts.list) s).degradedReasons = ∅) ↔
      (Demoted context fetched ∨ (Fits context (leads context fetched) ∧ (∃ found, fetched.fts = .rows found) ∧
        fetched.elapsedUs ≤ context.budget.latencyUsRemaining)) := by
    have hbudget : ∀ found, fetched.fts = .rows found →
        s.budget.latencyUsRemaining = context.budget.latencyUsRemaining := by
      intro found hfound
      rw [hlatency, hfound]
      rfl
    rw [omitted_eq_empty h, degraded_iff]
    by_cases hdemoted : Demoted context fetched
    · exact iff_of_true (fun hcomplete => absurd hdemoted ((complete_iff_demoted h).mp hcomplete)) (.inl hdemoted)
    · have hcomplete := (complete_iff_demoted h).mpr hdemoted
      obtain ⟨-, hgap, -, hstale⟩ := complete_iff.mp hcomplete
      rw [or_iff_right hdemoted]
      constructor
      · intro hboth
        obtain ⟨hfits, ⟨found, hfound⟩, -, -, htime⟩ := hboth hcomplete
        exact ⟨hfits, ⟨found, hfound⟩, hbudget found hfound ▸ htime⟩
      · intro ⟨hfits, ⟨found, hfound⟩, htime⟩ _
        exact ⟨hfits, ⟨found, hfound⟩, hgap, hstale, (hbudget found hfound).symm ▸ htime⟩
  constructor
  · intro haccounts
    refine ⟨fun row hrow hmatches => ?_, hhonest.mp haccounts.honest⟩
    obtain ⟨id, hid⟩ := Option.isSome_iff_exists.mp hmatches.1
    obtain ⟨other, ⟨hcounts, hother⟩, hotherId⟩ :=
      (haccounted id).mp ((haccounts.accounted id).mpr ⟨row, hrow, hmatches, hid⟩)
    exact ⟨other, hcounts, hother, hotherId.trans hid.symm⟩
  · intro haccountable
    refine ⟨?_, ?_, ⟨_, hcandidates, hlead, ?_⟩, ?_, fun id => (haccounted id).trans ?_, hhonest.mpr haccountable.honest⟩
    · rw [← hcandidates.length_eq]
      exact List.length_take_le _ _
    · have hdistinct := hnodup.1
      rw [← hids] at hdistinct
      refine List.Nodup.of_map some ?_
      rw [List.map_map]
      exact hdistinct
    · refine (leadingRows_sorted context fetched).sublist ?_
      rw [← hprefix.append]
      exact List.sublist_append_left _ _
    · intro candidate hcandidate homitted
      have hmem := List.mem_map_of_mem (f := fun candidate : SearchCandidate => some candidate.candidateId) hcandidate
      rw [hids] at hmem
      exact hnodup.2.2 _ hmem _ ((conclude_omitted h).mp homitted) rfl
    · constructor
      · intro ⟨row, ⟨hcounts, hmatches⟩, hid⟩
        exact ⟨row, hcounts.1, hmatches, hid⟩
      · intro ⟨row, hrow, hmatches, hid⟩
        obtain ⟨other, hcounts, hother, hotherId⟩ := haccountable.unique row hrow hmatches
        exact ⟨other, ⟨hcounts, hother⟩, hotherId.trans hid⟩

end Run

/-! ## The search -/

/-- The context is valid, the suppression list was read, and there is something to look for. -/
structure Asked (context : SearchContext) : Prop where
  valid : context.validate = .ok ()
  current : Current context
  positive : ¬ (context.queryFacets.polarity = .negative ∧ context.queryFacets.explicitExclusions = [])

theorem searchInner_of_asked (hasked : Asked context) (fetched : Fetched) :
    searchInner context fetched = select context fetched := by
  obtain ⟨generation, refHashes, hcurrent⟩ := hasked.current
  unfold searchInner
  rw [hasked.valid, hcurrent]
  exact if_neg hasked.positive

/-- **The search accounts for every candidate exactly if** rows of one row id that match are of candidates that
count, and the result is not called complete for another reason, or all leading rows fit, the full-text query was
answered and the time was enough. -/
theorem accounts_iff (context : SearchContext) (hasked : Asked context) (fetched : Fetched) :
    (∃ result, searchInner context fetched = .ok result ∧ Accounts context fetched result) ↔
      Accountable context fetched := by
  obtain ⟨s, kept, left, hselect, -, hlooped⟩ := select_ok hasked.current fetched
  rw [searchInner_of_asked hasked, hselect, ← accounts_iff_of_looped hlooped]
  constructor
  · intro ⟨result, hresult, haccounts⟩
    cases hresult
    exact haccounts
  · intro haccounts
    exact ⟨_, rfl, haccounts⟩

theorem sampleAsked : Asked sampleContext :=
  ⟨by decide +kernel, ⟨1, {"hidden"}, rfl⟩, by decide +kernel⟩

/-- One row is found, and one may be returned. -/
def fitting : Fetched := sampleFetched (.rows [sampleRow "a" "cache warm"])

theorem fitting_accountable : Accountable sampleContext fitting where
  unique row hrow hmatches := by
    refine ⟨row, ⟨hrow, fun other hother _ => ?_⟩, hmatches, rfl⟩
    rw [List.mem_singleton.mp hrow, List.mem_singleton.mp hother]
  honest := by
    have hrows : leadingRows sampleContext fitting = [sampleRow "a" "cache warm"] := by decide +kernel
    refine .inr ⟨?_, ⟨_, rfl⟩, by decide⟩
    rw [leads_eq, hrows, fits_toFinset (List.nodup_singleton _) fitting.fts]
    exact ⟨⟨by decide, by decide +kernel, by decide +kernel⟩, by decide⟩

theorem sample_accounts_iff :
    ∃ result, searchInner sampleContext fitting = .ok result ∧ Accounts sampleContext fitting result :=
  (accounts_iff sampleContext sampleAsked fitting).mpr fitting_accountable

/-- Of two rows that are found one may be returned. -/
def crowded : Fetched := sampleFetched (.rows [sampleRow "a" "cache warm", sampleRow "b" "cache cold"])

/-- **The defect**: a result that omits a candidate, and one whose full-text query failed, are called complete. -/
theorem silent_omission :
    (∃ result, searchInner sampleContext crowded = .ok result ∧ result.completeness = .complete ∧
      result.omittedRefs = {"b"} ∧ ¬ Accounts sampleContext crowded result) ∧
    ∃ result, searchInner sampleContext (sampleFetched .unavailable) = .ok result ∧ result.completeness = .complete ∧
      result.degradedReasons = {"fts_unavailable"} ∧
      ¬ Accounts sampleContext (sampleFetched .unavailable) result := by
  have hcrowded : (searchInner sampleContext crowded).toOption.map (fun result =>
      (decide (result.completeness = .complete), decide (result.omittedRefs = {"b"}))) = some (true, true) := by
    decide +kernel
  have hfailed : (searchInner sampleContext (sampleFetched .unavailable)).toOption.map (fun result =>
      (decide (result.completeness = .complete), decide (result.degradedReasons = {"fts_unavailable"}))) =
      some (true, true) := by
    decide +kernel
  obtain ⟨result, hresult, hshape⟩ := Option.map_eq_some_iff.mp hcrowded
  obtain ⟨result', hresult', hshape'⟩ := Option.map_eq_some_iff.mp hfailed
  simp only [Prod.mk.injEq, decide_eq_true_iff] at hshape hshape'
  refine ⟨⟨result, toOption_eq_some.mp hresult, hshape.1, hshape.2, fun haccounts => ?_⟩,
    ⟨result', toOption_eq_some.mp hresult', hshape'.1, hshape'.2, fun haccounts => ?_⟩⟩
  · have hempty := (haccounts.honest hshape.1).1
    rw [hshape.2] at hempty
    cases Finset.singleton_ne_empty _ hempty
  · have hempty := (haccounts.honest hshape'.1).2
    rw [hshape'.2] at hempty
    cases Finset.singleton_ne_empty _ hempty

end EverTrace.Bugs.SilentOmission
