import EverTrace.Lib.Guard
import EverTrace.Lib.KeySort
import EverTrace.Lib.OrdMap
import Mathlib.Data.List.Chain
import Mathlib.Data.List.Pairwise
import Mathlib.Data.Prod.Lex
/-!
# Revision chains

A store of revisions keeps every revision by its own id and, for each object,
the current one. A revision is accepted by a `check` against the current
revision of its object, so the revisions of one object form a chain: each
passed the check against the one before it.

`Chains es current revisions` says that the two maps hold the list `es` of
accepted revisions in this way. It is kept when a revision is recorded
(`Chains.record`) and when whole chains are taken out (`Chains.retain`), and
the current map can be computed again from the revisions alone by sorting and
placing them (`Chains.replay_sorted`).
-/
namespace EverTrace.Lib

variable {κ ρ β ε τ : Type} [LinearOrder κ] [LinearOrder ρ] [LinearOrder τ]

section Chain

variable (key : β → κ) (check : Option β → β → Except ε Unit)

/-- The revisions of one object, in order. -/
def chainIn (es : List β) (k : κ) : List β := es.filter fun e => key e = k

/-- Every revision passed the check against the one before it. -/
def Linked (l : List β) : Prop := ∀ pre e post, l = pre ++ e :: post → check pre.getLast? e = .ok ()

/-- A revision becomes the current one of its object. -/
def place (current : OrdMap κ β) (e : β) : Except ε (OrdMap κ β) := do
  check (current.get (key e)) e
  return current.insert (key e) e

/-- The map holds the last revision of each chain. -/
def Heads (es : List β) (current : OrdMap κ β) : Prop := ∀ k, current.get k = (chainIn key es k).getLast?

end Chain

section Lemmas

variable {key : β → κ} {check : Option β → β → Except ε Unit} {es gs : List β} {current : OrdMap κ β}

theorem mem_chainIn {k : κ} {e : β} : e ∈ chainIn key es k ↔ e ∈ es ∧ key e = k := by
  simp [chainIn]

theorem chainIn_concat_self (es : List β) (e : β) : chainIn key (es ++ [e]) (key e) = chainIn key es (key e) ++ [e] := by
  simp [chainIn]

theorem chainIn_concat_of_ne (es : List β) {e : β} {k : κ} (h : key e ≠ k) :
    chainIn key (es ++ [e]) k = chainIn key es k := by
  simp [chainIn, h]

theorem linked_nil : Linked check [] := by
  intro pre e post h
  simp at h

theorem linked_concat {l : List β} {e : β} :
    Linked check (l ++ [e]) ↔ Linked check l ∧ check l.getLast? e = .ok () := by
  constructor
  · intro h
    refine ⟨fun pre a post hl => h pre a (post ++ [e]) ?_, h l e [] rfl⟩
    rw [hl, List.append_assoc]
    rfl
  · rintro ⟨hl, he⟩ pre a post heq
    rcases List.eq_nil_or_concat post with rfl | ⟨post', b, rfl⟩
    · have hpre := List.append_inj_left' heq rfl
      have hlast := List.append_inj_right' heq rfl
      cases hpre
      cases hlast
      exact he
    · have hsplit : l ++ [e] = (pre ++ a :: post') ++ [b] := by
        rw [heq]
        simp
      have hl' := List.append_inj_left' hsplit rfl
      exact hl pre a post' hl'

/-- What the check says of two revisions holds of any two that follow each other. -/
theorem Linked.isChain {R : β → β → Prop} (hcheck : ∀ c e, check (some c) e = .ok () → R c e) {l : List β}
    (h : Linked check l) : l.IsChain R := by
  induction l using List.reverseRecOn with
  | nil => exact .nil
  | append_singleton l e ih =>
    obtain ⟨hl, he⟩ := linked_concat.mp h
    refine List.isChain_append.mpr ⟨ih hl, .singleton e, fun c hc y hy => ?_⟩
    obtain rfl : e = y := by simpa using hy
    rw [Option.mem_def.mp hc] at he
    exact hcheck c e he

theorem Linked.pairwise {R : β → β → Prop} (htrans : ∀ a b c, R a b → R b c → R a c)
    (hcheck : ∀ c e, check (some c) e = .ok () → R c e) {l : List β} (h : Linked check l) : l.Pairwise R := by
  have : Trans R R R := ⟨fun {a b c} => htrans a b c⟩
  exact List.isChain_iff_pairwise.mp (h.isChain hcheck)

theorem filter_eq_singleton {γ : Type} [DecidableEq γ] {f : β → γ} {l l' : List β} {e : β} (hperm : l.Perm l')
    (hnodup : (l'.map f).Nodup) (he : e ∈ l') : (l.filter fun a => f a = f e) = [e] := by
  have hself : ∀ a ∈ l.filter fun a => f a = f e, a = e := by
    intro a ha
    obtain ⟨ha, hfa⟩ := List.mem_filter.mp ha
    exact List.inj_on_of_nodup_map hnodup (hperm.mem_iff.mp ha) he (by simpa using hfa)
  have hone : (l.filter fun a => f a = f e).Nodup :=
    (hperm.nodup_iff.mpr (List.Nodup.of_map f hnodup)).filter _
  have hmem : e ∈ l.filter fun a => f a = f e :=
    List.mem_filter.mpr ⟨hperm.mem_iff.mpr he, by simp⟩
  refine List.perm_singleton.mp ((List.perm_ext_iff_of_nodup hone (by simp)).mpr fun a => ?_)
  rw [List.mem_singleton]
  exact ⟨hself a, fun h => h ▸ hmem⟩

theorem heads_empty : Heads key [] (OrdMap.empty : OrdMap κ β) := by
  intro k
  rfl

theorem Heads.insert (h : Heads key es current) (e : β) : Heads key (es ++ [e]) (current.insert (key e) e) := by
  intro k
  rw [OrdMap.get_insert]
  split
  · next hk =>
    subst hk
    rw [chainIn_concat_self, List.getLast?_append]
    rfl
  · next hk => rw [chainIn_concat_of_ne es (Ne.symm hk), h k]

/-- The current revisions only depend on the chains. -/
theorem Heads.eq {current' : OrdMap κ β} (h : Heads key es current) (h' : Heads key gs current')
    (hchains : ∀ k, chainIn key es k = chainIn key gs k) : current = current' :=
  OrdMap.ext_get fun k => by rw [h k, h' k, hchains k]

/-- Placing linked revisions, in any order that keeps each chain, succeeds. -/
theorem foldlM_place : ∀ {gs es : List β} {current : OrdMap κ β}, Heads key es current →
    (∀ k, Linked check (chainIn key (es ++ gs) k)) →
    ∃ current', gs.foldlM (place key check) current = .ok current' ∧ Heads key (es ++ gs) current' := by
  intro gs
  induction gs with
  | nil =>
    intro es current h _
    exact ⟨current, rfl, by rw [List.append_nil]; exact h⟩
  | cons e gs ih =>
    intro es current h hlinked
    have hmid : es ++ e :: gs = (es ++ [e]) ++ gs := by simp
    have hcheck : check (current.get (key e)) e = .ok () := by
      rw [h (key e)]
      refine hlinked (key e) (chainIn key es (key e)) e (chainIn key gs (key e)) ?_
      simp [chainIn]
    obtain ⟨current', hok, hheads⟩ := ih (h.insert e) (by rw [← hmid]; exact hlinked)
    refine ⟨current', ?_, by rw [hmid]; exact hheads⟩
    rw [List.foldlM_cons]
    simp only [place, hcheck]
    exact hok

/-- The revisions of one object among all of them, sorted by object and place in the chain. -/
theorem chainIn_sortByKey {order : β → τ} {values : List β} (hperm : values.Perm es)
    (horder : ∀ k, (chainIn key es k).Pairwise fun a b => order a < order b) (k : κ) :
    chainIn key (sortByKey (fun e => (toLex (key e, order e) : κ ×ₗ τ)) values) k = chainIn key es k := by
  have hsorted := sortByKey_pairwise (fun e => (toLex (key e, order e) : κ ×ₗ τ)) values
  refine @List.Perm.eq_of_pairwise _ (fun a b => order a ≤ order b) _ _ ?_ ?_ ?_ ?_
  · intro a b ha hb hab hba
    have hb' : b ∈ chainIn key es k := hb
    have ha' : a ∈ chainIn key es k := by
      obtain ⟨hmem, hk⟩ := mem_chainIn.mp ha
      exact mem_chainIn.mpr ⟨hperm.mem_iff.mp ((sortByKey_perm _ values).mem_iff.mp hmem), hk⟩
    by_contra hne
    have htotal : ∀ x ∈ chainIn key es k, ∀ y ∈ chainIn key es k, x ≠ y → order x ≠ order y := by
      have : Std.Symm (fun x y => order x ≠ order y) := ⟨fun x y h => Ne.symm h⟩
      exact fun x hx y hy hxy => ((horder k).imp fun h => ne_of_lt h).forall hx hy hxy
    exact htotal a ha' b hb' hne (le_antisymm hab hba)
  · refine List.Pairwise.imp_of_mem (fun {a b} ha hb h => ?_) (hsorted.filter _)
    rw [Prod.Lex.toLex_le_toLex] at h
    have hka : key a = k := (mem_chainIn.mp ha).2
    have hkb : key b = k := (mem_chainIn.mp hb).2
    rcases h with h | ⟨-, h⟩
    · rw [hka, hkb] at h
      exact absurd h (lt_irrefl k)
    · exact h
  · exact (horder k).imp fun h => le_of_lt h
  · exact ((sortByKey_perm _ values).trans hperm).filter _

end Lemmas

/-- The maps hold the accepted revisions `es`: all of them by their own id, and the last of each chain as the
current one. -/
structure Chains (key : β → κ) (rev : β → ρ) (check : Option β → β → Except ε Unit) (es : List β)
    (current : OrdMap κ β) (revisions : OrdMap ρ β) : Prop where
  stored : ∀ r e, revisions.get r = some e ↔ e ∈ es ∧ rev e = r
  distinct : es.Nodup
  linked : ∀ k, Linked check (chainIn key es k)
  heads : Heads key es current

namespace Chains

variable {key : β → κ} {rev : β → ρ} {check : Option β → β → Except ε Unit} {es : List β}
  {current : OrdMap κ β} {revisions : OrdMap ρ β}

theorem empty : Chains key rev check [] (OrdMap.empty : OrdMap κ β) (OrdMap.empty : OrdMap ρ β) where
  stored := by simp
  distinct := List.nodup_nil
  linked := fun _ => linked_nil
  heads := heads_empty

/-- Accepted revisions are told apart by their ids. -/
theorem eq_of_rev (h : Chains key rev check es current revisions) {a b : β} (ha : a ∈ es) (hb : b ∈ es)
    (hrev : rev a = rev b) : a = b := by
  have h₁ := (h.stored (rev a) a).mpr ⟨ha, rfl⟩
  have h₂ := (h.stored (rev a) b).mpr ⟨hb, hrev.symm⟩
  rw [h₁] at h₂
  exact Option.some.inj h₂

theorem mem_of_current (h : Chains key rev check es current revisions) {k : κ} {e : β}
    (he : current.get k = some e) : e ∈ es ∧ key e = k := by
  rw [h.heads k] at he
  exact mem_chainIn.mp (List.mem_of_getLast? he)

/-- A revision under a new id, checked against the current one of its object. -/
theorem record (h : Chains key rev check es current revisions) {e : β} (hnew : revisions.get (rev e) = none)
    (hcheck : check (current.get (key e)) e = .ok ()) :
    Chains key rev check (es ++ [e]) (current.insert (key e) e) (revisions.insert (rev e) e) where
  stored := by
    intro r a
    rw [OrdMap.get_insert]
    split
    · next hr =>
      subst hr
      refine ⟨fun ha => ?_, fun ⟨ha, hrev⟩ => ?_⟩
      · cases ha
        exact ⟨by simp, rfl⟩
      · rcases List.mem_append.mp ha with ha | ha
        · have := (h.stored (rev e) a).mpr ⟨ha, hrev⟩
          rw [hnew] at this
          cases this
        · rw [List.mem_singleton.mp ha]
    · next hr =>
      rw [h.stored]
      refine ⟨fun ⟨ha, hrev⟩ => ⟨List.mem_append_left _ ha, hrev⟩, fun ⟨ha, hrev⟩ => ⟨?_, hrev⟩⟩
      rcases List.mem_append.mp ha with ha | ha
      · exact ha
      · rw [List.mem_singleton.mp ha] at hrev
        exact absurd hrev.symm hr
  distinct := by
    refine List.nodup_append.mpr ⟨h.distinct, by simp, fun a ha b hb => ?_⟩
    rintro rfl
    rw [List.mem_singleton.mp hb] at ha
    have := (h.stored (rev e) e).mpr ⟨ha, rfl⟩
    rw [hnew] at this
    cases this
  linked := by
    intro k
    by_cases hk : key e = k
    · subst hk
      rw [chainIn_concat_self, linked_concat, ← h.heads (key e)]
      exact ⟨h.linked _, hcheck⟩
    · rw [chainIn_concat_of_ne es hk]
      exact h.linked k
  heads := h.heads.insert e

/-- Whole chains taken out. -/
theorem retain (h : Chains key rev check es current revisions) {p : β → Bool}
    (hwhole : ∀ a ∈ es, ∀ b ∈ es, key a = key b → p a = p b) :
    Chains key rev check (es.filter p) (current.retain fun _ e => p e) (revisions.retain fun _ e => p e) := by
  -- a chain is kept as it is or taken out
  have hchain : ∀ k, chainIn key (es.filter p) k = chainIn key es k ∨ (chainIn key (es.filter p) k = [] ∧
      ∀ e ∈ chainIn key es k, p e = false) := by
    intro k
    have hcomm : chainIn key (es.filter p) k = (chainIn key es k).filter p := by
      simp only [chainIn, List.filter_filter]
      congr 1
      funext e
      exact Bool.and_comm _ _
    rw [hcomm]
    by_cases hk : ∃ e ∈ chainIn key es k, p e = true
    · obtain ⟨e, he, hpe⟩ := hk
      obtain ⟨hmem, hke⟩ := mem_chainIn.mp he
      refine .inl (List.filter_eq_self.mpr fun a ha => ?_)
      obtain ⟨hmem', hka⟩ := mem_chainIn.mp ha
      rw [hwhole a hmem' e hmem (hka.trans hke.symm), hpe]
    · have hall : ∀ e ∈ chainIn key es k, p e = false := fun e he =>
        Bool.eq_false_iff.mpr fun hpe => hk ⟨e, he, hpe⟩
      refine .inr ⟨List.filter_eq_nil_iff.mpr fun e he => ?_, hall⟩
      rw [hall e he]
      decide
  refine ⟨fun r e => ?_, h.distinct.filter _, fun k => ?_, fun k => ?_⟩
  · rw [OrdMap.get_retain, h.stored, List.mem_filter]
    tauto
  · rcases hchain k with heq | ⟨hnil, -⟩
    · rw [heq]
      exact h.linked k
    · rw [hnil]
      exact linked_nil
  · refine Option.ext fun e => ?_
    rw [OrdMap.get_retain, h.heads k]
    rcases hchain k with heq | ⟨hnil, hall⟩
    · rw [heq]
      refine ⟨fun he => he.1, fun he => ⟨he, ?_⟩⟩
      have hmem := List.mem_of_getLast? he
      rw [← heq] at hmem
      exact (List.mem_filter.mp (mem_chainIn.mp hmem).1).2
    · rw [hnil]
      refine ⟨fun ⟨he, hp⟩ => ?_, fun he => by cases he⟩
      rw [hall e (List.mem_of_getLast? he)] at hp
      cases hp

theorem values_perm (h : Chains key rev check es current revisions) : revisions.values.Perm es := by
  refine (List.perm_ext_iff_of_nodup ?_ h.distinct).mpr fun e => ?_
  · refine List.Nodup.of_map rev ?_
    have hkeys : revisions.values.map rev = revisions.entries.map Prod.fst := by
      rw [OrdMap.values, List.map_map]
      refine List.map_congr_left fun x hx => ?_
      exact ((h.stored x.1 x.2).mp (OrdMap.mem_entries.mp hx)).2
    rw [hkeys]
    exact revisions.nodup_keys
  · rw [OrdMap.mem_values]
    constructor
    · rintro ⟨r, hr⟩
      exact ((h.stored r e).mp hr).1
    · intro he
      exact ⟨rev e, (h.stored (rev e) e).mpr ⟨he, rfl⟩⟩

/-- **The current revisions computed again**: sort the revisions by object and place in the chain, and place
them one after another. -/
theorem replay_sorted (h : Chains key rev check es current revisions) {order : β → τ}
    (horder : ∀ k, (chainIn key es k).Pairwise fun a b => order a < order b) :
    (sortByKey (fun e => (toLex (key e, order e) : κ ×ₗ τ)) revisions.values).foldlM (place key check)
      OrdMap.empty = .ok current := by
  have hchains := chainIn_sortByKey h.values_perm horder
  obtain ⟨current', hok, hheads⟩ := @foldlM_place _ _ _ _ key check (sortByKey
    (fun e => (toLex (key e, order e) : κ ×ₗ τ)) revisions.values) [] _ heads_empty
    (fun k => by rw [List.nil_append, hchains k]; exact h.linked k)
  rw [hok, h.heads.eq hheads fun k => by rw [List.nil_append, hchains k]]

end Chains

end EverTrace.Lib
