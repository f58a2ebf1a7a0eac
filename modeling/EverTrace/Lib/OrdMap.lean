import Mathlib.Order.Lattice
import Mathlib.Data.List.Basic
/-!
# Ordered maps

`OrdMap κ α` is a finite map kept as a list of entries in strictly increasing
key order (a `BTreeMap`). The order is a field of the structure, so a map with
a repeated key cannot be built. `get` and `insert` satisfy the usual laws,
membership in `entries` is the same as `get`, and a map is determined by its
lookups (`ext_get`), so the order in which entries were put in is forgotten
(`insertAll_eq_of_perm`).
-/
namespace EverTrace.Lib

variable {κ α β : Type} [LinearOrder κ]

/-- A finite map as its entries in strictly increasing key order. -/
structure OrdMap (κ α : Type) [LinearOrder κ] where
  entries : List (κ × α)
  sorted : entries.Pairwise (fun a b => a.1 < b.1)

namespace OrdMap

def empty : OrdMap κ α := ⟨[], .nil⟩

/-- `BTreeMap::get`. -/
def get (m : OrdMap κ α) (k : κ) : Option α := (m.entries.find? fun e => e.1 = k).map Prod.snd

/-- Insert into a sorted entry list, replacing an entry of the same key. -/
def insertEntry (k : κ) (v : α) : List (κ × α) → List (κ × α)
  | [] => [(k, v)]
  | e :: rest =>
    if k < e.1 then (k, v) :: e :: rest
    else if k = e.1 then (k, v) :: rest
    else e :: insertEntry k v rest

theorem mem_insertEntry {k : κ} {v : α} {e : κ × α} : ∀ {l : List (κ × α)},
    e ∈ insertEntry k v l → e = (k, v) ∨ e ∈ l := by
  intro l
  induction l with
  | nil => intro h; exact .inl (List.mem_singleton.mp h)
  | cons x xs ih =>
    intro h
    unfold insertEntry at h
    split at h
    · exact List.mem_cons.mp h
    · split at h
      · exact (List.mem_cons.mp h).imp_right (List.mem_cons_of_mem _)
      · rcases List.mem_cons.mp h with rfl | h
        · exact .inr List.mem_cons_self
        · exact (ih h).imp_right (List.mem_cons_of_mem _)

theorem insertEntry_sorted (k : κ) (v : α) : ∀ {l : List (κ × α)},
    l.Pairwise (fun a b => a.1 < b.1) → (insertEntry k v l).Pairwise (fun a b => a.1 < b.1) := by
  intro l
  induction l with
  | nil => intro _; exact List.pairwise_singleton _ _
  | cons x xs ih =>
    intro h
    obtain ⟨hx, hxs⟩ := List.pairwise_cons.mp h
    unfold insertEntry
    split
    · next hlt =>
      refine List.pairwise_cons.mpr ⟨fun e he => ?_, h⟩
      rcases List.mem_cons.mp he with rfl | he
      · exact hlt
      · exact lt_trans hlt (hx e he)
    · split
      · next heq =>
        refine List.pairwise_cons.mpr ⟨fun e he => ?_, hxs⟩
        rw [heq]
        exact hx e he
      · next hnlt hne =>
        refine List.pairwise_cons.mpr ⟨fun e he => ?_, ih hxs⟩
        rcases mem_insertEntry he with rfl | he
        · exact lt_of_le_of_ne (not_lt.mp hnlt) (Ne.symm hne)
        · exact hx e he

/-- `BTreeMap::insert`. -/
def insert (m : OrdMap κ α) (k : κ) (v : α) : OrdMap κ α :=
  ⟨insertEntry k v m.entries, insertEntry_sorted k v m.sorted⟩

@[simp] theorem get_empty (k : κ) : (empty : OrdMap κ α).get k = none := rfl

theorem get_insert (m : OrdMap κ α) (k k' : κ) (v : α) :
    (m.insert k v).get k' = if k' = k then some v else m.get k' := by
  obtain ⟨l, hl⟩ := m
  simp only [get, insert]
  clear hl
  induction l with
  | nil =>
    by_cases h : k' = k
    · simp [insertEntry, h]
    · simp [insertEntry, h, Ne.symm h]
  | cons x xs ih =>
    unfold insertEntry
    by_cases h : k' = k
    · subst h
      rw [if_pos rfl] at ih ⊢
      split
      · simp
      · split
        · simp
        · next hne =>
          rw [List.find?_cons_of_neg (by simpa using Ne.symm hne)]
          exact ih
    · rw [if_neg h] at ih ⊢
      split
      · simp [Ne.symm h]
      · split
        · next heq => simp [← heq, Ne.symm h]
        · by_cases hx : x.1 = k'
          · simp [hx]
          · rw [List.find?_cons_of_neg (by simpa using hx), List.find?_cons_of_neg (by simpa using hx)]
            exact ih

@[simp] theorem get_insert_self (m : OrdMap κ α) (k : κ) (v : α) : (m.insert k v).get k = some v := by
  rw [get_insert, if_pos rfl]

theorem get_insert_of_ne (m : OrdMap κ α) {k k' : κ} (v : α) (h : k' ≠ k) :
    (m.insert k v).get k' = m.get k' := by
  rw [get_insert, if_neg h]

theorem nodup_keys (m : OrdMap κ α) : (m.entries.map Prod.fst).Nodup := by
  refine List.Pairwise.map Prod.fst (fun a b h => ?_) m.sorted
  exact ne_of_lt h

theorem mem_entries {m : OrdMap κ α} {k : κ} {v : α} : (k, v) ∈ m.entries ↔ m.get k = some v := by
  obtain ⟨l, hl⟩ := m
  simp only [get]
  induction l with
  | nil => simp
  | cons x xs ih =>
    obtain ⟨hx, hxs⟩ := List.pairwise_cons.mp hl
    by_cases hk : x.1 = k
    · rw [List.find?_cons_of_pos (by simpa using hk)]
      refine ⟨fun h => ?_, fun h => ?_⟩
      · rcases List.mem_cons.mp h with rfl | h
        · rfl
        · exact absurd (hx _ h) (by rw [hk]; exact lt_irrefl k)
      · have hv : x.2 = v := Option.some.inj h
        rw [← hk, ← hv]
        exact List.mem_cons_self
    · rw [List.find?_cons_of_neg (by simpa using hk), ← ih hxs, List.mem_cons]
      refine or_iff_right fun h => hk ?_
      rw [← h]

/-- `BTreeMap::remove`. -/
def erase (m : OrdMap κ α) (k : κ) : OrdMap κ α :=
  ⟨m.entries.filter fun e => e.1 ≠ k, m.sorted.filter _⟩

theorem get_erase (m : OrdMap κ α) (k k' : κ) :
    (m.erase k).get k' = if k' = k then none else m.get k' := by
  refine Option.ext fun v => ?_
  rw [← mem_entries, erase]
  simp only [List.mem_filter, mem_entries, decide_not, Bool.not_eq_true', decide_eq_false_iff_not]
  by_cases h : k' = k <;> simp [h]

/-- `BTreeMap::retain`. -/
def retain (m : OrdMap κ α) (p : κ → α → Bool) : OrdMap κ α :=
  ⟨m.entries.filter fun e => p e.1 e.2, m.sorted.filter _⟩

theorem get_retain {m : OrdMap κ α} {p : κ → α → Bool} {k : κ} {v : α} :
    (m.retain p).get k = some v ↔ m.get k = some v ∧ p k v = true := by
  rw [← mem_entries, retain, List.mem_filter, mem_entries]

/-- Lists in strictly increasing key order with the same entries are the same. -/
theorem entries_eq_of_mem : ∀ {l l' : List (κ × α)}, l.Pairwise (fun a b => a.1 < b.1) →
    l'.Pairwise (fun a b => a.1 < b.1) → (∀ e, e ∈ l ↔ e ∈ l') → l = l' := by
  intro l l' hl hl' hmem
  have hnodup : ∀ {m : List (κ × α)}, m.Pairwise (fun a b => a.1 < b.1) → m.Nodup := fun hm =>
    hm.imp fun hab heq => absurd hab (by rw [heq]; exact lt_irrefl _)
  have hperm : l.Perm l' := (List.perm_ext_iff_of_nodup (hnodup hl) (hnodup hl')).mpr hmem
  refine hperm.eq_of_pairwise (fun a b _ _ hab hba => absurd hba (lt_asymm hab)) hl hl'

theorem ext_get {m n : OrdMap κ α} (h : ∀ k, m.get k = n.get k) : m = n := by
  have hentries : m.entries = n.entries := by
    refine entries_eq_of_mem m.sorted n.sorted fun e => ?_
    obtain ⟨k, v⟩ := e
    rw [mem_entries, mem_entries, h]
  cases m
  cases n
  cases hentries
  rfl

def values (m : OrdMap κ α) : List α := m.entries.map Prod.snd

theorem mem_values {m : OrdMap κ α} {v : α} : v ∈ m.values ↔ ∃ k, m.get k = some v := by
  unfold values
  rw [List.mem_map]
  refine ⟨fun ⟨e, he, hv⟩ => ⟨e.1, mem_entries.mp (hv ▸ he)⟩, fun ⟨k, hk⟩ => ⟨(k, v), mem_entries.mpr hk, rfl⟩⟩

/-- Every value under `f`, the keys as they were. -/
def mapVal (f : α → β) (m : OrdMap κ α) : OrdMap κ β :=
  ⟨m.entries.map fun e => (e.1, f e.2), List.pairwise_map.mpr m.sorted⟩

theorem get_mapVal (f : α → β) (m : OrdMap κ α) (k : κ) : (m.mapVal f).get k = (m.get k).map f := by
  refine Option.ext fun v => ?_
  rw [← mem_entries, Option.map_eq_some_iff]
  simp only [mapVal, List.mem_map, Prod.mk.injEq]
  refine ⟨fun ⟨e, he, hk, hv⟩ => ⟨e.2, mem_entries.mp (hk ▸ he), hv⟩, fun ⟨a, ha, hv⟩ => ?_⟩
  exact ⟨(k, a), mem_entries.mpr ha, rfl, hv⟩

theorem values_mapVal (f : α → β) (m : OrdMap κ α) : (m.mapVal f).values = m.values.map f := by
  simp [values, mapVal, Function.comp_def]

/-- Put in one entry after another. -/
def insertAll (m : OrdMap κ α) (l : List (κ × α)) : OrdMap κ α := l.foldl (fun m e => m.insert e.1 e.2) m

theorem get_insertAll_of_notMem : ∀ {l : List (κ × α)} {m : OrdMap κ α} {k : κ}, k ∉ l.map Prod.fst →
    (m.insertAll l).get k = m.get k := by
  intro l
  induction l with
  | nil => intro m k _; rfl
  | cons e rest ih =>
    intro m k hk
    rw [List.map_cons, List.mem_cons, not_or] at hk
    have h := ih (m := m.insert e.1 e.2) hk.2
    rw [get_insert_of_ne m e.2 hk.1] at h
    exact h

theorem get_insertAll_of_mem : ∀ {l : List (κ × α)} {m : OrdMap κ α} {k : κ} {v : α},
    (l.map Prod.fst).Nodup → (k, v) ∈ l → (m.insertAll l).get k = some v := by
  intro l
  induction l with
  | nil => intro m k v _ h; cases h
  | cons e rest ih =>
    intro m k v hnodup h
    rw [List.map_cons, List.nodup_cons] at hnodup
    rcases List.mem_cons.mp h with rfl | h
    · have h := get_insertAll_of_notMem (m := m.insert k v) hnodup.1
      rw [get_insert_self] at h
      exact h
    · exact ih (m := m.insert e.1 e.2) hnodup.2 h

/-- What is found after entries were put in was there before or is one of them. -/
theorem mem_of_get_insertAll : ∀ {l : List (κ × α)} {m : OrdMap κ α} {k : κ} {v : α},
    (m.insertAll l).get k = some v → (k, v) ∈ l ∨ m.get k = some v := by
  intro l
  induction l with
  | nil => intro m k v h; exact .inr h
  | cons e rest ih =>
    intro m k v h
    rcases ih h with h | h
    · exact .inl (List.mem_cons_of_mem _ h)
    · rw [get_insert] at h
      split at h
      · next hk =>
        cases h
        exact .inl (hk ▸ List.mem_cons_self)
      · exact .inr h

theorem isSome_get_insertAll : ∀ {l : List (κ × α)} {m : OrdMap κ α} {k : κ},
    ((m.insertAll l).get k).isSome ↔ k ∈ l.map Prod.fst ∨ (m.get k).isSome := by
  intro l
  induction l with
  | nil => simp [insertAll]
  | cons e rest ih =>
    intro m k
    have h := ih (m := m.insert e.1 e.2) (k := k)
    rw [get_insert] at h
    rw [List.map_cons, List.mem_cons]
    refine h.trans ?_
    by_cases hk : k = e.1
    · simp [hk]
    · simp [hk]

/-- The entries of a map, put into the empty map in any order, give the map back. -/
theorem insertAll_eq_of_perm {m : OrdMap κ α} {l : List (κ × α)} (h : l.Perm m.entries) :
    empty.insertAll l = m := by
  have hnodup : (l.map Prod.fst).Nodup := (h.map Prod.fst).nodup_iff.mpr m.nodup_keys
  refine ext_get fun k => ?_
  cases hk : m.get k with
  | some v => exact get_insertAll_of_mem hnodup (h.mem_iff.mpr (mem_entries.mpr hk))
  | none =>
    refine (get_insertAll_of_notMem fun hmem => ?_).trans (get_empty k)
    obtain ⟨e, he, rfl⟩ := List.mem_map.mp hmem
    have hsome : m.get e.1 = some e.2 := mem_entries.mp (h.mem_iff.mp he)
    rw [hk] at hsome
    cases hsome

/-- `entry(k).or_default().push(v)` on a map of lists. -/
def push (m : OrdMap κ (List α)) (k : κ) (v : α) : OrdMap κ (List α) := m.insert k ((m.get k).getD [] ++ [v])

theorem getD_push (m : OrdMap κ (List α)) (k k' : κ) (v : α) :
    ((m.push k v).get k').getD [] = (m.get k').getD [] ++ if k' = k then [v] else [] := by
  unfold push
  rw [get_insert]
  by_cases h : k' = k
  · simp [h]
  · simp [h]

/-- Every list of the map has an element. -/
def NonemptyLists (m : OrdMap κ (List α)) : Prop := ∀ k, m.get k ≠ some []

theorem NonemptyLists.push {m : OrdMap κ (List α)} (h : m.NonemptyLists) (k : κ) (v : α) :
    (m.push k v).NonemptyLists := by
  intro k' hk'
  unfold OrdMap.push at hk'
  rw [get_insert] at hk'
  split at hk'
  · simp at hk'
  · exact h k' hk'

section Grouping

variable {β : Type} {p : β → Bool} {key : β → κ} {value : β → α}

/-- The elements that pass a test, by key. -/
def groupBy (p : β → Bool) (key : β → κ) (value : β → α) (l : List β) : OrdMap κ (List α) :=
  l.foldl (fun m e => if p e then m.push (key e) (value e) else m) empty

theorem getD_foldl_push (k : κ) : ∀ {l : List β} {m : OrdMap κ (List α)},
    ((l.foldl (fun m e => if p e then m.push (key e) (value e) else m) m).get k).getD [] =
      (m.get k).getD [] ++ (l.filter fun e => p e && decide (key e = k)).map value := by
  intro l
  induction l with
  | nil => simp
  | cons e l ih =>
    intro m
    rw [List.foldl_cons, ih]
    by_cases hp : p e = true
    · rw [if_pos hp, getD_push]
      by_cases hk : key e = k
      · simp [hp, hk]
      · simp [hp, hk, Ne.symm hk]
    · simp [hp]

/-- A group holds the elements of its key, in order; a key without elements has no group. -/
theorem get_groupBy (l : List β) (k : κ) : (groupBy p key value l).get k =
    if (l.filter fun e => p e && decide (key e = k)) = [] then none
    else some ((l.filter fun e => p e && decide (key e = k)).map value) := by
  have hne : ∀ {l : List β} {m : OrdMap κ (List α)}, m.NonemptyLists →
      (l.foldl (fun m e => if p e then m.push (key e) (value e) else m) m).NonemptyLists := by
    intro l
    induction l with
    | nil => exact fun h => h
    | cons e l ih =>
      intro m h
      rw [List.foldl_cons]
      refine ih ?_
      split
      · exact h.push (key e) (value e)
      · exact h
  have hgroup := @getD_foldl_push _ α _ _ p key value k l empty
  have hnonempty := @hne l empty (fun k hk => by cases hk) k
  change ((groupBy p key value l).get k).getD [] = _ at hgroup
  change (groupBy p key value l).get k ≠ _ at hnonempty
  rw [get_empty, Option.getD_none, List.nil_append] at hgroup
  cases hget : (groupBy p key value l).get k with
  | none =>
    rw [hget, Option.getD_none, eq_comm, List.map_eq_nil_iff] at hgroup
    rw [if_pos hgroup]
  | some members =>
    rw [hget, Option.getD_some] at hgroup
    rw [if_neg, hgroup]
    intro hnil
    rw [hnil, List.map_nil] at hgroup
    rw [hget, hgroup] at hnonempty
    exact hnonempty rfl

end Grouping

end OrdMap

end EverTrace.Lib
