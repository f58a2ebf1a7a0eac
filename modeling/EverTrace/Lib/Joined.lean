import Mathlib.Data.List.Basic
/-!
# Texts joined by a run of a separator symbol

`joined d n texts` is the texts with `n` copies of the symbol `d` between each
two. When no text holds `d` and `0 < n`, the texts can be read back: a run of
`d` is a whole number of joints, also where texts are empty. The lemmas say
where a word can stand in such a string:

* a word without `d` at the front stands in the first text (`free_prefix_joined`);
* `d … d w`, with `w` not starting with `d`, stands at joints only (`run_at_joint`);
* `w d … d`, with `w` free of `d`, ends at joints only (`word_at_joint`);
* joined texts followed by a joint are texts of the string (`joined_prefix_iff`).
-/
namespace EverTrace.Lib

variable {α : Type} {d : α} {n : Nat}

def joined (d : α) (n : Nat) : List (List α) → List α
  | [] => []
  | [t] => t
  | t :: u :: more => t ++ (List.replicate n d ++ joined d n (u :: more))

theorem joined_cons (d : α) (n : Nat) (t : List α) {more : List (List α)} (h : more ≠ []) :
    joined d n (t :: more) = t ++ (List.replicate n d ++ joined d n more) := by
  cases more with
  | nil => exact absurd rfl h
  | cons u more => rfl

theorem joined_append (d : α) (n : Nat) {texts more : List (List α)} (ht : texts ≠ []) (hm : more ≠ []) :
    joined d n (texts ++ more) = joined d n texts ++ (List.replicate n d ++ joined d n more) := by
  induction texts with
  | nil => exact absurd rfl ht
  | cons t texts ih =>
    cases texts with
    | nil => rw [List.singleton_append, joined_cons d n t hm]; rfl
    | cons u texts =>
      rw [List.cons_append, joined_cons d n t (by simp), ih (by simp), joined_cons d n t (by simp)]
      simp only [List.append_assoc]

theorem joined_drop (d : α) (n : Nat) {texts more : List (List α)} (ht : texts ≠ []) (hm : more ≠ []) :
    (joined d n (texts ++ more)).drop ((joined d n texts).length + n) = joined d n more := by
  rw [joined_append d n ht hm, ← List.append_assoc]
  have hlen : (joined d n texts ++ List.replicate n d).length = (joined d n texts).length + n := by
    simp
  rw [← hlen, List.drop_left]

theorem joined_length_append (d : α) (n : Nat) {texts more : List (List α)} (ht : texts ≠ [])
    (hm : more ≠ []) : (joined d n (texts ++ more)).length =
      (joined d n texts).length + n + (joined d n more).length := by
  rw [joined_append d n ht hm]
  simp only [List.length_append, List.length_replicate]
  omega

/-- Two words free of `d` in front of a `d` are the same word. -/
theorem free_eq_of_run {a b x y : List α} (ha : d ∉ a) (hb : d ∉ b) (h : a ++ d :: x <+: b ++ d :: y) :
    a = b := by
  induction a generalizing b with
  | nil =>
    cases b with
    | nil => rfl
    | cons c b =>
      rw [List.nil_append, List.cons_append, List.cons_prefix_cons] at h
      exact absurd (by simp [h.1]) hb
  | cons c a ih =>
    cases b with
    | nil =>
      rw [List.nil_append, List.cons_append, List.cons_prefix_cons] at h
      exact absurd (by simp [h.1]) ha
    | cons c' b =>
      rw [List.cons_append, List.cons_append, List.cons_prefix_cons] at h
      have := ih (fun h => ha (List.mem_cons_of_mem _ h)) (fun h => hb (List.mem_cons_of_mem _ h)) h.2
      rw [h.1, this]

/-- A word free of `d` at the front of a string stands before its first `d`. -/
theorem free_prefix_append {w t rest : List α} (hw : d ∉ w) :
    w <+: t ++ d :: rest ↔ w <+: t := by
  refine ⟨fun h => ?_, fun h => h.trans (List.prefix_append _ _)⟩
  induction w generalizing t with
  | nil => exact List.nil_prefix
  | cons c w ih =>
    cases t with
    | nil =>
      rw [List.nil_append, List.cons_prefix_cons] at h
      exact absurd (by simp [h.1]) hw
    | cons c' t =>
      rw [List.cons_append, List.cons_prefix_cons] at h
      rw [List.cons_prefix_cons]
      exact ⟨h.1, ih (fun h => hw (List.mem_cons_of_mem _ h)) h.2⟩

theorem replicate_pos_cons (d : α) (hn : 0 < n) (x : List α) :
    List.replicate n d ++ x = d :: (List.replicate (n - 1) d ++ x) := by
  obtain ⟨m, rfl⟩ : ∃ m, n = m + 1 := ⟨n - 1, by omega⟩
  simp [List.replicate_succ]

theorem free_prefix_joined (hn : 0 < n) {w t : List α} {more : List (List α)} (hw : d ∉ w) :
    w <+: joined d n (t :: more) ↔ w <+: t := by
  cases more with
  | nil => rfl
  | cons u more =>
    rw [joined_cons d n t (by simp), replicate_pos_cons d hn]
    exact free_prefix_append hw

theorem drop_into_joint {t x : List α} {i : Nat} (hi : i ≤ n) :
    (t ++ (List.replicate n d ++ x)).drop (t.length + i) = List.replicate (n - i) d ++ x := by
  rw [List.drop_append, List.drop_eq_nil_of_le (by omega), List.nil_append, List.drop_append_of_le_length]
  · rw [List.drop_replicate, Nat.add_sub_cancel_left]
  · rw [List.length_replicate]
    omega

/-- A run of `d` followed by something else starts, within a text and its joint, at the joint only. -/
theorem run_at_joint (hn : 0 < n) {c : α} {w t : List α} {more : List (List α)} {i : Nat}
    (hfree : ∀ u ∈ t :: more, d ∉ u) (hc : c ≠ d) (hm : more ≠ []) (hi : i < t.length + n)
    (h : List.replicate n d ++ c :: w <+: (joined d n (t :: more)).drop i) : i = t.length := by
  rw [joined_cons d n t hm] at h
  rcases Nat.lt_trichotomy i t.length with hlt | heq | hgt
  · rw [List.drop_append_of_le_length (by omega), List.drop_eq_getElem_cons hlt,
      replicate_pos_cons d hn, List.cons_append, List.cons_prefix_cons] at h
    exact absurd (h.1 ▸ List.getElem_mem hlt) (hfree t List.mem_cons_self)
  · exact heq
  · obtain ⟨j, rfl⟩ : ∃ j, i = t.length + j := ⟨i - t.length, by omega⟩
    rw [drop_into_joint (by omega)] at h
    have hrun : List.replicate n d = List.replicate (n - j) d ++ List.replicate j d := by
      rw [List.replicate_append_replicate]
      congr 1
      omega
    rw [hrun, List.append_assoc, List.prefix_append_right_inj, replicate_pos_cons d (by omega)] at h
    obtain ⟨u, rest, rfl⟩ := List.exists_cons_of_ne_nil hm
    cases u with
    | cons e u =>
      -- the next text starts with a symbol other than `d`
      have hne : d ≠ e := fun he => hfree (e :: u) (by simp) (by simp [he])
      cases rest with
      | nil => exact absurd (List.cons_prefix_cons.mp h).1 hne
      | cons v rest => exact absurd (List.cons_prefix_cons.mp h).1 hne
    | nil =>
      cases rest with
      | nil => exact absurd (List.prefix_nil.mp h) (by simp)
      | cons v rest =>
        -- the next text is empty, so the run goes on past the word
        rw [joined_cons d n [] (by simp), List.nil_append, ← replicate_pos_cons d (by omega)] at h
        have hrun' : List.replicate n d = List.replicate j d ++ List.replicate (n - j) d := by
          rw [List.replicate_append_replicate]
          congr 1
          omega
        rw [hrun', List.append_assoc, List.prefix_append_right_inj, replicate_pos_cons d (by omega)] at h
        exact absurd (List.cons_prefix_cons.mp h).1 hc

/-- A word free of `d` followed by a run of `d` is, within a text and its joint, the end of the text. -/
theorem word_at_joint (hn : 0 < n) {w t : List α} {more : List (List α)} {i : Nat}
    (ht : d ∉ t) (hw : d ∉ w) (hne : w ≠ []) (hi : i < t.length + n)
    (h : w ++ List.replicate n d <+: (joined d n (t :: more)).drop i) :
    i ≤ t.length ∧ t.drop i = w ∧ more ≠ [] := by
  have hlen : 0 < w.length := List.length_pos_iff.mpr hne
  have hnil : List.replicate n d = d :: List.replicate (n - 1) d := by
    have := replicate_pos_cons d hn []
    simpa using this
  have hsub : d ∉ t.drop i := fun hd => ht (List.mem_of_mem_drop hd)
  cases more with
  | nil =>
    have hmem : d ∈ t.drop i := h.subset (by simp [hnil])
    exact absurd hmem hsub
  | cons u more =>
    rw [joined_cons d n t (by simp)] at h
    by_cases hle : i ≤ t.length
    · rw [List.drop_append_of_le_length hle, replicate_pos_cons d hn, hnil] at h
      exact ⟨hle, (free_eq_of_run hw hsub h).symm, by simp⟩
    · obtain ⟨j, rfl⟩ : ∃ j, i = t.length + j := ⟨i - t.length, by omega⟩
      rw [drop_into_joint (by omega), replicate_pos_cons d (by omega)] at h
      obtain ⟨c, w, rfl⟩ := List.exists_cons_of_ne_nil hne
      rw [List.cons_append, List.cons_prefix_cons] at h
      exact absurd (by simp [h.1]) hw

/-- **Texts followed by a joint are read back**: they are the first texts of the string. -/
theorem joined_prefix_iff (hn : 0 < n) {texts s : List (List α)} (ht : texts ≠ [])
    (hfree : ∀ u ∈ texts, d ∉ u) (hs : ∀ u ∈ s, d ∉ u) :
    joined d n texts ++ List.replicate n d <+: joined d n s ↔ ∃ rest, rest ≠ [] ∧ s = texts ++ rest := by
  constructor
  · intro h
    induction texts generalizing s with
    | nil => exact absurd rfl ht
    | cons t texts ih =>
      have hnil : List.replicate n d = d :: List.replicate (n - 1) d := by
        have := replicate_pos_cons d hn []
        simpa using this
      have hd : d ∈ joined d n s := h.subset (by simp [hnil])
      match s, hs, hd, h with
      | [], _, hd, _ => cases hd
      | [u], hs, hd, _ => exact absurd hd (hs u (by simp))
      | u :: v :: more, hs, _, h =>
        have hu : d ∉ u := hs u (by simp)
        have htd : d ∉ t := hfree t (by simp)
        cases texts with
        | nil =>
          rw [joined_cons d n u (by simp), replicate_pos_cons d hn, joined, hnil] at h
          rw [free_eq_of_run htd hu h]
          exact ⟨v :: more, by simp, by simp⟩
        | cons t' texts =>
          rw [joined_cons d n u (by simp), joined_cons d n t (by simp), List.append_assoc] at h
          have htu : t = u := by
            have h' := h
            rw [List.append_assoc, replicate_pos_cons d hn, replicate_pos_cons d hn] at h'
            exact free_eq_of_run htd hu h'
          subst htu
          rw [List.prefix_append_right_inj, List.append_assoc, List.prefix_append_right_inj] at h
          obtain ⟨rest, hne, heq⟩ := ih (by simp) (fun w hw => hfree w (List.mem_cons_of_mem _ hw))
            (fun w hw => hs w (List.mem_cons_of_mem _ hw)) h
          exact ⟨rest, hne, by rw [heq]; rfl⟩
  · rintro ⟨rest, hne, rfl⟩
    rw [joined_append d n ht hne, ← List.append_assoc]
    exact List.prefix_append _ _

end EverTrace.Lib
