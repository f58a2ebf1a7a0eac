import Mathlib.Data.List.Sort
/-!
# Ordered sets held in lists

`sortUnique` is `sort` followed by `dedup`: the set of a list's elements in
increasing order. `strictlyOrderedUnique` is the check that a list already has
that form. Such a list is determined by its elements (`List.Pairwise.eq_of_mem_iff`),
so a union with elements that are there already changes nothing.
-/
namespace EverTrace.Lib

variable {α : Type} [LinearOrder α]

/-- `Vec::dedup`: of equal neighbours only one stays. -/
def dedupAdjacent : List α → List α
  | [] => []
  | a :: rest => if rest.head? = some a then dedupAdjacent rest else a :: dedupAdjacent rest

/-- `sort` then `dedup`. -/
def sortUnique (l : List α) : List α := dedupAdjacent (l.insertionSort (· ≤ ·))

/-- Strictly increasing `windows(2)`, and as many distinct elements as elements. -/
def strictlyOrderedUnique (l : List α) : Bool :=
  decide (l.IsChain (· < ·)) && (sortUnique l).length == l.length

theorem mem_dedupAdjacent {a : α} : ∀ {l : List α}, a ∈ dedupAdjacent l ↔ a ∈ l := by
  intro l
  induction l with
  | nil => exact Iff.rfl
  | cons b rest ih =>
    unfold dedupAdjacent
    split
    · next hhead =>
      rw [ih, List.mem_cons]
      refine ⟨.inr, fun h => h.elim (fun hab => ?_) id⟩
      rw [hab]
      exact List.mem_of_mem_head? hhead
    · rw [List.mem_cons, List.mem_cons, ih]

theorem dedupAdjacent_pairwise : ∀ {l : List α}, l.Pairwise (· ≤ ·) →
    (dedupAdjacent l).Pairwise (· < ·) := by
  intro l
  induction l with
  | nil => intro _; exact .nil
  | cons a rest ih =>
    intro h
    obtain ⟨ha, hrest⟩ := List.pairwise_cons.mp h
    unfold dedupAdjacent
    split
    · exact ih hrest
    · next hhead =>
      refine List.pairwise_cons.mpr ⟨fun b hb => ?_, ih hrest⟩
      have hb := mem_dedupAdjacent.mp hb
      refine lt_of_le_of_ne (ha b hb) fun hab => hhead ?_
      -- `a` is the smallest of the rest, so it is its head
      cases rest with
      | nil => cases hb
      | cons c rest =>
        have hca : c ≤ b := by
          rcases List.mem_cons.mp hb with rfl | hb
          · exact le_rfl
          · exact (List.pairwise_cons.mp hrest).1 b hb
        have hac : a ≤ c := ha c List.mem_cons_self
        rw [List.head?_cons, le_antisymm (hab ▸ hca) hac]

@[simp] theorem mem_sortUnique {a : α} {l : List α} : a ∈ sortUnique l ↔ a ∈ l := by
  unfold sortUnique
  rw [mem_dedupAdjacent, List.mem_insertionSort]

theorem sortUnique_pairwise (l : List α) : (sortUnique l).Pairwise (· < ·) :=
  dedupAdjacent_pairwise (List.pairwise_insertionSort _ l)

theorem sortUnique_nodup (l : List α) : (sortUnique l).Nodup :=
  (sortUnique_pairwise l).imp fun h => h.ne

theorem sortUnique_eq_self {l : List α} (h : l.Pairwise (· < ·)) : sortUnique l = l :=
  (sortUnique_pairwise l).eq_of_mem_iff h fun _ => mem_sortUnique

/-- Elements that are there already add nothing. -/
theorem sortUnique_append_of_subset {l m : List α} (h : l.Pairwise (· < ·)) (hm : ∀ a ∈ m, a ∈ l) :
    sortUnique (l ++ m) = l := by
  refine (sortUnique_pairwise _).eq_of_mem_iff h fun a => ?_
  rw [mem_sortUnique, List.mem_append]
  exact ⟨fun ha => ha.elim id (hm a), .inl⟩

theorem sortUnique_eq_of_perm {l m : List α} (h : l.Perm m) : sortUnique l = sortUnique m :=
  (sortUnique_pairwise l).eq_of_mem_iff (sortUnique_pairwise m) fun a => by
    rw [mem_sortUnique, mem_sortUnique, h.mem_iff]

@[simp] theorem strictlyOrderedUnique_iff {l : List α} :
    strictlyOrderedUnique l = true ↔ l.Pairwise (· < ·) := by
  unfold strictlyOrderedUnique
  rw [Bool.and_eq_true, decide_eq_true_eq, List.isChain_iff_pairwise, beq_iff_eq]
  exact ⟨And.left, fun h => ⟨h, by rw [sortUnique_eq_self h]⟩⟩

theorem length_le_of_subset {l m : List α} (h : l.Pairwise (· < ·)) (hm : ∀ a ∈ l, a ∈ m) :
    l.length ≤ m.length := by
  have hn : l.Nodup := h.imp fun hab => hab.ne
  exact (List.subperm_of_subset hn hm).length_le

theorem length_sortUnique_le (l : List α) : (sortUnique l).length ≤ l.length :=
  length_le_of_subset (sortUnique_pairwise l) fun _ => mem_sortUnique.mp

theorem length_sortUnique {l : List α} (h : l.Nodup) : (sortUnique l).length = l.length :=
  le_antisymm (length_sortUnique_le l) (List.subperm_of_subset h fun _ ha => mem_sortUnique.mpr ha).length_le

theorem filter_key_eq_singleton {σ κ : Type} [DecidableEq κ] {key : σ → κ} : ∀ {l : List σ},
    (l.map key).Nodup → ∀ a ∈ l, (l.filter fun x => key x = key a) = [a] := by
  intro l
  induction l with
  | nil => intro _ a ha; cases ha
  | cons b rest ih =>
    intro hn a ha
    rw [List.map_cons, List.nodup_cons] at hn
    rcases List.mem_cons.mp ha with rfl | ha
    · rw [List.filter_cons_of_pos (by simp), List.filter_eq_nil_iff.mpr]
      intro x hx heq
      exact hn.1 (List.mem_map.mpr ⟨x, hx, of_decide_eq_true heq⟩)
    · have hne : key b ≠ key a := fun heq => hn.1 (List.mem_map.mpr ⟨a, ha, heq.symm⟩)
      rw [List.filter_cons_of_neg (by simpa using hne), ih hn.2 a ha]

/-! ## Positions -/

section Positions

variable {σ τ : Type} {q : σ → Bool} {g : σ → τ}

theorem mapM_some_of_forall {ρ : Type} {f : ρ → Option τ} {k : ρ → τ} : ∀ {l : List ρ},
    (∀ a ∈ l, f a = some (k a)) → l.mapM f = some (l.map k) := by
  intro l
  induction l with
  | nil => intro _; rfl
  | cons a rest ih =>
    intro h
    rw [List.mapM_cons, h a List.mem_cons_self, ih fun x hx => h x (List.mem_cons_of_mem _ hx)]
    rfl

/-- A list read at the ordered set of the positions that pass a test is the list filtered by the test. -/
theorem mapM_positions {l : List σ} {positions : List Nat} (hsorted : positions.Pairwise (· < ·))
    (hmem : ∀ i, i ∈ positions ↔ ∃ a, l[i]? = some a ∧ q a = true) :
    positions.mapM (fun i => l[i]?.map g) = some ((l.filter q).map g) := by
  have hpositions : positions = (l.zipIdx.filter fun e => q e.1).map Prod.snd := by
    refine hsorted.eq_of_mem_iff ?_ fun i => ?_
    · have hrange : (l.zipIdx.map Prod.snd).Pairwise (· < ·) := by
        rw [List.zipIdx_map_snd]
        exact List.pairwise_lt_range'
      exact hrange.sublist (List.filter_sublist.map _)
    · rw [hmem, List.mem_map]
      constructor
      · rintro ⟨a, ha, hq⟩
        exact ⟨(a, i), List.mem_filter.mpr ⟨List.mem_zipIdx_iff_getElem?.mpr ha, hq⟩, rfl⟩
      · rintro ⟨⟨a, j⟩, hfilter, rfl⟩
        obtain ⟨hzip, hq⟩ := List.mem_filter.mp hfilter
        exact ⟨a, List.mem_zipIdx_iff_getElem?.mp hzip, hq⟩
  have hread : ∀ e ∈ l.zipIdx.filter (fun e => q e.1), (l[e.2]?.map g) = some (g e.1) := by
    intro e he
    rw [List.mem_zipIdx_iff_getElem?.mp (List.mem_of_mem_filter he), Option.map_some]
  have hfst : (l.zipIdx.filter fun e => q e.1).map Prod.fst = l.filter q := by
    have hmap := @List.filter_map _ _ Prod.fst q l.zipIdx
    rw [List.zipIdx_map_fst] at hmap
    exact hmap.symm
  rw [hpositions, List.mapM_map, ← hfst, List.map_map]
  exact mapM_some_of_forall hread

end Positions

end EverTrace.Lib
