import EverTrace.Lib.OrdMap
import Mathlib.Data.List.Nodup
/-!
# Items placed in slots

Items come in increasing key order and each goes into the slot it names; a later
item takes a slot from an earlier one. `Holds` says which item a slot has in the
end, `get_place` that the map of the slots says the same. The items that did not
keep a slot may be placed once more, each into a slot of its own: `settled_iff`
says when that changes nothing.
-/
namespace EverTrace.Lib

variable {γ ι κ β : Type} [LinearOrder κ]

/-- The item that a slot has in the end. -/
def Holds (key : γ → κ) (items : List γ) (slot : γ → ι) (x : ι) (g : γ) : Prop :=
  g ∈ items ∧ slot g = x ∧ ∀ g' ∈ items, key g < key g' → slot g' ≠ x

/-- The item has its slot in the end, and the slot counts. -/
def Keeps (key : γ → κ) (items : List γ) (counts : ι → Prop) (slot : γ → ι) (g : γ) : Prop :=
  counts (slot g) ∧ ∀ g' ∈ items, key g < key g' → slot g' ≠ slot g

section

variable {key : γ → κ} {items : List γ} (hsorted : items.Pairwise fun a b => key a < key b)
include hsorted

theorem eq_of_key_eq {a b : γ} (ha : a ∈ items) (hb : b ∈ items) (h : key a = key b) : a = b := by
  refine List.inj_on_of_nodup_map (f := key) ?_ ha hb h
  exact List.pairwise_map.mpr (hsorted.imp fun hlt => ne_of_lt hlt)

/-- The map of the slots has the items that hold them. -/
theorem get_place [LinearOrder ι] {slot : γ → ι} {value : γ → β} {x : ι} {v : β} :
    (OrdMap.empty.insertAll (items.map fun g => (slot g, value g))).get x = some v ↔
      ∃ g, Holds key items slot x g ∧ value g = v := by
  have hplace : ∀ (l : List γ) (m : OrdMap ι β), l.Pairwise (fun a b => key a < key b) →
      ((m.insertAll (l.map fun g => (slot g, value g))).get x = some v ↔
        (∃ g, Holds key l slot x g ∧ value g = v) ∨ ((∀ g ∈ l, slot g ≠ x) ∧ m.get x = some v)) := by
    intro l
    induction l with
    | nil =>
      intro m _
      refine ⟨fun h => .inr ⟨by simp, h⟩, ?_⟩
      rintro (⟨g, ⟨hg, -⟩, -⟩ | ⟨-, h⟩)
      · cases hg
      · exact h
    | cons a rest ih =>
      intro m h
      obtain ⟨ha, hrest⟩ := List.pairwise_cons.mp h
      have hstep := ih (m.insert (slot a) (value a)) hrest
      rw [OrdMap.get_insert] at hstep
      refine hstep.trans ⟨?_, ?_⟩
      · rintro (⟨g, ⟨hg, hslot, hlast⟩, hv⟩ | ⟨hfree, hv⟩)
        · refine .inl ⟨g, ⟨List.mem_cons_of_mem _ hg, hslot, fun g' hg' hlt => ?_⟩, hv⟩
          rcases List.mem_cons.mp hg' with rfl | hg'
          · exact absurd hlt (lt_asymm (ha g hg))
          · exact hlast g' hg' hlt
        · by_cases hx : x = slot a
          · rw [if_pos hx] at hv
            refine .inl ⟨a, ⟨List.mem_cons_self, hx.symm, fun g' hg' hlt => ?_⟩, Option.some.inj hv⟩
            rcases List.mem_cons.mp hg' with rfl | hg'
            · exact absurd hlt (lt_irrefl _)
            · exact hfree g' hg'
          · rw [if_neg hx] at hv
            exact .inr ⟨List.forall_mem_cons.mpr ⟨Ne.symm hx, hfree⟩, hv⟩
      · rintro (⟨g, ⟨hg, hslot, hlast⟩, hv⟩ | ⟨hfree, hv⟩)
        · rcases List.mem_cons.mp hg with rfl | hg
          · refine .inr ⟨fun g' hg' => hlast g' (List.mem_cons_of_mem _ hg') (ha g' hg'), ?_⟩
            rw [if_pos hslot.symm, hv]
          · exact .inl ⟨g, ⟨hg, hslot, fun g' hg' => hlast g' (List.mem_cons_of_mem _ hg')⟩, hv⟩
        · obtain ⟨hx, hfree⟩ := List.forall_mem_cons.mp hfree
          refine .inr ⟨hfree, ?_⟩
          rw [if_neg (Ne.symm hx)]
          exact hv
  rw [hplace items .empty hsorted]
  refine or_iff_left ?_
  rintro ⟨-, h⟩
  cases h

omit hsorted in
theorem exists_holds {slot : γ → ι} : ∀ {items : List γ}, items.Pairwise (fun a b => key a < key b) →
    ∀ g ∈ items, ∃ a, Holds key items slot (slot g) a ∧ key g ≤ key a := by
  intro items
  induction items with
  | nil => intro _ g hg; cases hg
  | cons a rest ih =>
    intro hsorted
    obtain ⟨ha, hrest⟩ := List.pairwise_cons.mp hsorted
    have hlift : ∀ x b, Holds key rest slot x b → Holds key (a :: rest) slot x b := by
      rintro x b ⟨hb, hslot, hlast⟩
      refine ⟨List.mem_cons_of_mem _ hb, hslot, fun g' hg' hlt => ?_⟩
      rcases List.mem_cons.mp hg' with rfl | hg'
      · exact absurd hlt (lt_asymm (ha b hb))
      · exact hlast g' hg' hlt
    intro g hg
    rcases List.mem_cons.mp hg with rfl | hg
    · by_cases hlater : ∃ g' ∈ rest, slot g' = slot g
      · obtain ⟨g', hg', hslot⟩ := hlater
        obtain ⟨b, hb, -⟩ := ih hrest g' hg'
        rw [hslot] at hb
        exact ⟨b, hlift _ b hb, le_of_lt (ha b hb.1)⟩
      · refine ⟨g, ⟨List.mem_cons_self, rfl, fun g' hg' hlt heq => ?_⟩, le_rfl⟩
        rcases List.mem_cons.mp hg' with rfl | hg'
        · exact lt_irrefl _ hlt
        · exact hlater ⟨g', hg', heq⟩
    · obtain ⟨b, hb, hle⟩ := ih hrest g hg
      exact ⟨b, hlift _ b hb, hle⟩

/-- Items that keep their slot stay, the others are placed again in slots of their own. The slots that count
have the same items as before exactly when each item kept its slot, or its own slot belongs to a later one. -/
theorem settled_iff {slot own again : γ → ι} {counts : ι → Prop} (hown : ∀ g ∈ items, counts (own g))
    (hkeeps : ∀ g ∈ items, Keeps key items counts slot g → again g = slot g)
    (hlost : ∀ g ∈ items, ¬ Keeps key items counts slot g → again g = own g) :
    (∀ x, counts x → ∀ g, Holds key items again x g ↔ Holds key items slot x g) ↔
      ∀ g ∈ items, Keeps key items counts slot g ∨ ∃ g' ∈ items, key g < key g' ∧ slot g' = own g := by
  constructor
  · intro hsame g hg
    by_cases hkept : Keeps key items counts slot g
    · exact .inl hkept
    · refine .inr ?_
      by_contra hnone
      obtain ⟨a, ha, hle⟩ := @exists_holds _ _ _ _ key again items hsorted g hg
      rw [hlost g hg hkept] at ha
      have hheld := (hsame (own g) (hown g hg) a).mp ha
      rcases lt_or_eq_of_le hle with hlt | heq
      · exact hnone ⟨a, hheld.1, hlt, hheld.2.1⟩
      · obtain rfl := eq_of_key_eq hsorted hg ha.1 heq
        refine hkept ⟨?_, ?_⟩
        · rw [hheld.2.1]
          exact hown g hg
        · rw [hheld.2.1]
          exact hheld.2.2
  · intro hall x hx g
    constructor
    · rintro ⟨hg, hagain, hlast⟩
      by_cases hkept : Keeps key items counts slot g
      · rw [hkeeps g hg hkept] at hagain
        refine ⟨hg, hagain, ?_⟩
        rw [← hagain]
        exact hkept.2
      · -- the own slot of `g` has a later item, which keeps it
        rw [hlost g hg hkept] at hagain
        obtain ⟨g', hg', hlt, hslot⟩ := (hall g hg).resolve_left hkept
        obtain ⟨a, ha, hle⟩ := @exists_holds _ _ _ _ key slot items hsorted g' hg'
        rw [hslot, hagain] at ha
        have hkeep : Keeps key items counts slot a := ⟨by rw [ha.2.1]; exact hx, by rw [ha.2.1]; exact ha.2.2⟩
        refine absurd ?_ (hlast a ha.1 (lt_of_lt_of_le hlt hle))
        rw [hkeeps a ha.1 hkeep]
        exact ha.2.1
    · intro hheld
      have hkeep : ∀ a, Holds key items slot x a → Keeps key items counts slot a := fun a ha =>
        ⟨by rw [ha.2.1]; exact hx, by rw [ha.2.1]; exact ha.2.2⟩
      refine ⟨hheld.1, ?_, fun g' hg' hlt hagain => ?_⟩
      · rw [hkeeps g hheld.1 (hkeep g hheld)]
        exact hheld.2.1
      · by_cases hkept : Keeps key items counts slot g'
        · rw [hkeeps g' hg' hkept] at hagain
          exact hheld.2.2 g' hg' hlt hagain
        · rw [hlost g' hg' hkept] at hagain
          obtain ⟨g'', hg'', hlt', hslot⟩ := (hall g' hg').resolve_left hkept
          exact hheld.2.2 g'' hg'' (lt_trans hlt hlt') (hslot.trans hagain)

end

end EverTrace.Lib
