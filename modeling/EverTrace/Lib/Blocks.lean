import EverTrace.Lib.OrdMap
import EverTrace.Lib.KeySort
/-!
# Lists made of blocks

A list is the concatenation of blocks, one for each item; all elements of a
block share a key, and no two blocks do. Selecting a key gives the block of that
key (`filter_flatMap`), grouping by key gives the blocks (`groupBy_flatMap_perm`),
and if the blocks stand in the order of a position, the position sorts them back
(`sortByKey_self`).
-/
namespace EverTrace.Lib

section Sorted

variable {α κ : Type} [LinearOrder κ] {key : α → κ}

theorem sortByKey_self {l : List α} (h : l.Pairwise fun a b => key a ≤ key b) : sortByKey key l = l :=
  h.insertionSort_eq

/-- Of several orders of the same elements, sorting finds the one that is sorted. -/
theorem sortByKey_of_perm {l l' : List α} (hp : l.Perm l') (h : l'.Pairwise fun a b => key a < key b) :
    sortByKey key l = l' := by
  have hn : (l'.map key).Nodup := by
    rw [List.Nodup, List.pairwise_map]
    exact h.imp ne_of_lt
  rw [sortByKey_eq_of_perm key hp ((hp.map key).nodup_iff.mpr hn)]
  exact sortByKey_self (h.imp le_of_lt)

end Sorted

section Blocks

variable {α β κ : Type} {key : α → κ} {block : β → List α} {name : β → κ} {items : List β}

/-- Each block has its own key. -/
structure Blocks (key : α → κ) (block : β → List α) (name : β → κ) (items : List β) : Prop where
  named : ∀ b ∈ items, ∀ a ∈ block b, key a = name b
  distinct : (items.map name).Nodup
  nonempty : ∀ b ∈ items, block b ≠ []

/-- The elements of a key that no block has. -/
theorem filter_flatMap_of_notMem [DecidableEq κ] (named : ∀ b ∈ items, ∀ a ∈ block b, key a = name b) {k : κ}
    (hk : k ∉ items.map name) : (items.flatMap block).filter (fun a => key a = k) = [] := by
  refine List.filter_eq_nil_iff.mpr fun a ha hak => hk ?_
  obtain ⟨b, hb, hab⟩ := List.mem_flatMap.mp ha
  exact List.mem_map.mpr ⟨b, hb, (named b hb a hab).symm.trans (of_decide_eq_true hak)⟩

theorem filter_flatMap [DecidableEq κ] (named : ∀ b ∈ items, ∀ a ∈ block b, key a = name b)
    (distinct : (items.map name).Nodup) {b : β} (hb : b ∈ items) : (items.flatMap block).filter (fun a => key a = name b) = block b := by
  induction items with
  | nil => cases hb
  | cons c rest ih =>
    rw [List.map_cons, List.nodup_cons] at distinct
    rw [List.flatMap_cons, List.filter_append]
    have hrest := fun x hx => named x (List.mem_cons_of_mem c hx)
    rcases List.mem_cons.mp hb with rfl | hb
    · rw [filter_flatMap_of_notMem hrest distinct.1, List.append_nil]
      exact List.filter_eq_self.mpr fun a ha => decide_eq_true (named b List.mem_cons_self a ha)
    · have hne : name c ≠ name b := fun h => distinct.1 (List.mem_map.mpr ⟨b, hb, h.symm⟩)
      have hnil : (block c).filter (fun a => key a = name b) = [] := by
        refine List.filter_eq_nil_iff.mpr fun a ha hak => hne ?_
        exact (named c List.mem_cons_self a ha).symm.trans (of_decide_eq_true hak)
      rw [hnil, List.nil_append]
      exact ih hrest distinct.2 hb

namespace Blocks

variable (h : Blocks key block name items)
include h

theorem filter [DecidableEq κ] {b : β} (hb : b ∈ items) : (items.flatMap block).filter (fun a => key a = name b) = block b :=
  filter_flatMap h.named h.distinct hb

variable [LinearOrder κ]

theorem get_groupBy {b : β} (hb : b ∈ items) :
    (OrdMap.groupBy (fun _ => true) key id (items.flatMap block)).get (name b) = some (block b) := by
  rw [OrdMap.get_groupBy]
  simp only [Bool.true_and, h.filter hb, h.nonempty b hb, if_false, List.map_id]

theorem groupBy_eq_none {k : κ} (hk : k ∉ items.map name) :
    (OrdMap.groupBy (fun _ => true) key id (items.flatMap block)).get k = none := by
  rw [OrdMap.get_groupBy]
  simp only [Bool.true_and, filter_flatMap_of_notMem h.named hk, if_true]

/-- Grouping by the key gives the blocks back, in the order of their keys. -/
theorem groupBy_flatMap_perm :
    (OrdMap.groupBy (fun _ => true) key id (items.flatMap block)).values.Perm (items.map block) := by
  let m := OrdMap.groupBy (fun _ => true) key id (items.flatMap block)
  -- the keys of the map are the names of the blocks
  have hkeys : (m.entries.map Prod.fst).Perm (items.map name) := by
    refine (List.perm_ext_iff_of_nodup m.nodup_keys h.distinct).mpr fun k => ?_
    refine ⟨fun hk => ?_, fun hk => ?_⟩
    · by_contra hno
      obtain ⟨e, he, rfl⟩ := List.mem_map.mp hk
      have hget := OrdMap.mem_entries.mp he
      rw [h.groupBy_eq_none hno] at hget
      cases hget
    · obtain ⟨b, hb, rfl⟩ := List.mem_map.mp hk
      exact List.mem_map.mpr ⟨_, OrdMap.mem_entries.mpr (h.get_groupBy hb), rfl⟩
  -- and the block of a key is what selecting the key gives
  have hleft : m.values = (m.entries.map Prod.fst).map fun k => (items.flatMap block).filter fun a => key a = k := by
    rw [OrdMap.values, List.map_map]
    refine List.map_congr_left fun e he => ?_
    have hget : m.get e.1 = some e.2 := OrdMap.mem_entries.mp he
    obtain ⟨b, hb, hname⟩ := List.mem_map.mp (hkeys.mem_iff.mp (List.mem_map_of_mem he))
    rw [← hname, h.get_groupBy hb] at hget
    show e.2 = (items.flatMap block).filter fun a => key a = e.1
    rw [← hname, h.filter hb]
    exact (Option.some.inj hget).symm
  have hright : items.map block = (items.map name).map fun k => (items.flatMap block).filter fun a => key a = k := by
    rw [List.map_map]
    exact List.map_congr_left fun b hb => (h.filter hb).symm
  show m.values.Perm _
  rw [hleft, hright]
  exact hkeys.map _

end Blocks

end Blocks

end EverTrace.Lib
