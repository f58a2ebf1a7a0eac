import EverTrace.L1Encoding.Protect
import EverTrace.Lib.Joined
/-!
# What the PEM detector reads (`evertrace-capture/src/protect.rs:426-453`)

Cut at its runs of five dashes, a text with PEM blocks is a list of texts
without dashes. `detect_pem` searches bytes, but on such a list every one of its
searches ends at a cut:

* `-----BEGIN ` is found at the first later text that starts with `BEGIN `
  (`opening`);
* `PRIVATE KEY-----` is found at the first text from there on that ends in
  `PRIVATE KEY` and is not the last; the label is everything up to there, so it
  can hold several texts (`labelled`);
* the end marker is found at the first later texts that are the label with
  `END ` in front (`closing`).

`regions` puts these together, and `detectPem_dashed` says that the PEM
candidates are exactly the regions, by position.
-/
namespace EverTrace.L1.Protect
open EverTrace.Lib

def dash : UInt8 := 0x2d

/-- The texts with five dashes between each two. -/
def dashed (texts : List Bytes) : Bytes := joined dash 5 texts

theorem dashed_cons (t : Bytes) {more : List Bytes} (h : more ≠ []) :
    dashed (t :: more) = t ++ (List.replicate 5 dash ++ dashed more) :=
  joined_cons dash 5 t h

theorem dashed_append {texts more : List Bytes} (ht : texts ≠ []) (hm : more ≠ []) :
    dashed (texts ++ more) = dashed texts ++ (List.replicate 5 dash ++ dashed more) :=
  joined_append dash 5 ht hm

theorem dashed_length_append {texts more : List Bytes} (ht : texts ≠ []) (hm : more ≠ []) :
    (dashed (texts ++ more)).length = (dashed texts).length + 5 + (dashed more).length :=
  joined_length_append dash 5 ht hm

theorem dashed_length_cons (t : Bytes) {more : List Bytes} (h : more ≠ []) :
    (dashed (t :: more)).length = t.length + 5 + (dashed more).length :=
  @dashed_length_append [t] more (by simp) h

def beginWord : Bytes := utf8 "BEGIN "

def endWord : Bytes := utf8 "END "

def keyWord : Bytes := utf8 "PRIVATE KEY"

theorem pemBegin_eq : pemBegin = List.replicate 5 dash ++ beginWord := by decide

theorem pemPrivate_eq : pemPrivate = keyWord ++ List.replicate 5 dash := by decide

theorem pemEndPrefixed_eq : pemEndPrefixed = List.replicate 5 dash ++ endWord := by decide

theorem pemDashes_eq : pemDashes = List.replicate 5 dash := by decide

/-! ## Searching joined texts -/

def DashFree (texts : List Bytes) : Prop := ∀ t ∈ texts, dash ∉ t

theorem DashFree.suffix {s texts : List Bytes} (h : DashFree texts) (hs : s <:+ texts) : DashFree s :=
  fun t ht => h t (hs.subset ht)

theorem dashFree_drop {u : Bytes} {more : List Bytes} {k : Nat} (h : DashFree (u :: more)) :
    DashFree (u.drop k :: more) := by
  intro t ht
  rcases List.mem_cons.mp ht with rfl | ht
  · exact fun hd => h u List.mem_cons_self (List.mem_of_mem_drop hd)
  · exact h t (List.mem_cons_of_mem _ ht)

theorem word_prefix_dashed {w u : Bytes} {more : List Bytes} (hw : dash ∉ w) :
    w <+: dashed (u :: more) ↔ w <+: u :=
  free_prefix_joined (show 0 < 5 by decide) hw

theorem dashed_prefix_iff {texts s : List Bytes} (hne : texts ≠ []) (htexts : DashFree texts)
    (hs : DashFree s) :
    dashed texts ++ List.replicate 5 dash <+: dashed s ↔ ∃ rest, rest ≠ [] ∧ s = texts ++ rest :=
  joined_prefix_iff (show 0 < 5 by decide) hne htexts hs

theorem findBytes_cons {w : Bytes} (x : UInt8) (rest : Bytes) :
    findBytes (x :: rest) w = if w <+: x :: rest then some 0 else (findBytes rest w).map (· + 1) := by
  unfold findBytes
  rw [findWindow]
  split
  · next hlen =>
    rw [if_neg fun h => by have := h.length_le; omega]
    cases hf : findWindow (fun window => window = w) w.length rest with
    | none => rfl
    | some r =>
      have := findWindow_bound hf
      simp only [List.length_cons] at hlen
      omega
  · next hlen =>
    have hiff : decide ((x :: rest).take w.length = w) = true ↔ w <+: x :: rest := by
      rw [decide_eq_true_iff, List.prefix_iff_eq_take, eq_comm]
    simp only [hiff]

/-- A part of the haystack in which the needle does not start is skipped. -/
theorem findBytes_skip {w : Bytes} {k : Nat} : ∀ {haystack : Bytes},
    (∀ i < k, ¬ w <+: haystack.drop i) → findBytes haystack w = (findBytes (haystack.drop k) w).map (· + k) := by
  induction k with
  | zero =>
    intro haystack _
    simp
  | succ k ih =>
    intro haystack h
    cases haystack with
    | nil => rfl
    | cons x rest =>
      have h₀ := h 0 (by omega)
      rw [List.drop_zero] at h₀
      rw [findBytes_cons, if_neg h₀, ih (fun i hi => h (i + 1) (by omega)), List.drop_succ_cons,
        Option.map_map]
      rfl

theorem findBytes_zero {w haystack : Bytes} (hw : w ≠ []) (h : w <+: haystack) :
    findBytes haystack w = some 0 := by
  cases haystack with
  | nil => exact absurd (List.prefix_nil.mp h) hw
  | cons x rest => rw [findBytes_cons, if_pos h]

/-- A marker that starts with the dashes is found at the first cut after which the rest of it stands. -/
theorem findBytes_run {c : UInt8} {w t u : Bytes} {more : List Bytes} (hfree : DashFree (t :: u :: more))
    (hc : c ≠ dash) :
    findBytes (dashed (t :: u :: more)) (List.replicate 5 dash ++ c :: w) =
      if c :: w <+: dashed (u :: more) then some t.length
      else (findBytes (dashed (u :: more)) (List.replicate 5 dash ++ c :: w)).map (· + (t.length + 5)) := by
  have hw : List.replicate 5 dash ++ c :: w ≠ [] := by simp
  have hjoint : ∀ i, i < t.length + 5 → List.replicate 5 dash ++ c :: w <+: (dashed (t :: u :: more)).drop i →
      i = t.length := fun i hi h => run_at_joint (by decide) hfree hc (by simp) hi h
  have hdrop : ∀ i, i ≤ 5 → (dashed (t :: u :: more)).drop (t.length + i) =
      List.replicate (5 - i) dash ++ dashed (u :: more) := fun i hi => drop_into_joint hi
  have hat : List.replicate 5 dash ++ c :: w <+: (dashed (t :: u :: more)).drop t.length ↔
      c :: w <+: dashed (u :: more) := by
    rw [show t.length = t.length + 0 from rfl, hdrop 0 (by omega), List.prefix_append_right_inj]
  split
  · next h =>
    rw [findBytes_skip (k := t.length) fun i hi hp => ?_, findBytes_zero hw (hat.mpr h)]
    · simp
    · have := hjoint i (by omega) hp
      omega
  · next h =>
    rw [findBytes_skip (k := t.length + 5) fun i hi hp => ?_, hdrop 5 (by omega)]
    · rfl
    · have := hjoint i hi hp
      subst this
      exact h (hat.mp hp)

theorem findBytes_run_last {c : UInt8} {w t : Bytes} (hfree : dash ∉ t) :
    findBytes (dashed [t]) (List.replicate 5 dash ++ c :: w) = none := by
  have hw : List.replicate 5 dash ++ c :: w ≠ [] := by simp
  rw [findBytes_skip (k := t.length) fun i hi hp => ?_]
  · rw [show dashed [t] = t from rfl, List.drop_length]
    rfl
  · have hmem : dash ∈ t.drop i := hp.subset (by simp)
    exact hfree (List.mem_of_mem_drop hmem)

/-- A marker that ends with the dashes is found at the first text that ends in the rest of it and is
not the last. -/
theorem findBytes_word {w x : Bytes} {more : List Bytes} (hx : dash ∉ x) (hw : dash ∉ w) (hne : w ≠ []) :
    findBytes (dashed (x :: more)) (w ++ List.replicate 5 dash) =
      if w <:+ x ∧ more ≠ [] then some (x.length - w.length)
      else (findBytes (dashed more) (w ++ List.replicate 5 dash)).map (· + (x.length + 5)) := by
  have hw' : w ++ List.replicate 5 dash ≠ [] := by simp
  have hjoint : ∀ i, i < x.length + 5 → w ++ List.replicate 5 dash <+: (dashed (x :: more)).drop i →
      i ≤ x.length ∧ x.drop i = w ∧ more ≠ [] :=
    fun i hi h => word_at_joint (by decide) hx hw hne hi h
  split
  · next h =>
    obtain ⟨⟨a, rfl⟩, hm⟩ := h
    rw [List.length_append, Nat.add_sub_cancel]
    have hat : w ++ List.replicate 5 dash <+: (dashed ((a ++ w) :: more)).drop a.length := by
      rw [dashed_cons _ hm, List.append_assoc, List.drop_left, ← List.append_assoc]
      exact List.prefix_append _ _
    rw [findBytes_skip (k := a.length) fun i hi hp => ?_, findBytes_zero hw' hat]
    · simp
    · obtain ⟨hle, hd, -⟩ := hjoint i (by rw [List.length_append]; omega) hp
      have := congrArg List.length hd
      rw [List.length_drop, List.length_append] at this
      omega
  · next h =>
    have hskip : ∀ i < x.length + 5, ¬ w ++ List.replicate 5 dash <+: (dashed (x :: more)).drop i := by
      intro i hi hp
      obtain ⟨-, hd, hm⟩ := hjoint i hi hp
      exact h ⟨hd ▸ List.drop_suffix i x, hm⟩
    rw [findBytes_skip hskip]
    cases more with
    | nil =>
      rw [List.drop_eq_nil_of_le (by simp [dashed, joined])]
      rfl
    | cons u more =>
      have hdrop : (dashed (x :: u :: more)).drop (x.length + 5) = List.replicate 0 dash ++ dashed (u :: more) :=
        drop_into_joint (Nat.le_refl 5)
      rw [hdrop]
      rfl

/-! ## Positions as suffixes -/

/-- A proper suffix of the texts stands at the end, with a cut in front of it. -/
theorem dashed_suffix {s texts : List Bytes} (hs : s <:+ texts) (hne : s ≠ []) (hlt : s.length < texts.length) :
    (dashed s).length + 5 ≤ (dashed texts).length ∧
      ∃ before, dashed texts = before ++ (List.replicate 5 dash ++ dashed s) := by
  obtain ⟨before, rfl⟩ := hs
  have hb : before ≠ [] := by
    rintro rfl
    simp at hlt
  refine ⟨?_, dashed before, dashed_append hb hne⟩
  rw [dashed_length_append hb hne]
  omega

theorem dashed_suffix_le {s texts : List Bytes} (hs : s <:+ texts) (hne : s ≠ []) :
    (dashed s).length ≤ (dashed texts).length := by
  rcases Nat.lt_or_ge s.length texts.length with hlt | hge
  · have := (dashed_suffix hs hne hlt).1
    omega
  · rw [hs.eq_of_length_le hge]

theorem suffix_of_length_le {a b texts : List Bytes} (ha : a <:+ texts) (hb : b <:+ texts)
    (h : a.length ≤ b.length) : a <:+ b := by
  rcases List.suffix_or_suffix_of_suffix ha hb with h' | h'
  · exact h'
  · have heq : b = a := h'.eq_of_length_le h
    exact heq ▸ List.suffix_refl b

/-! ## The regions -/

/-- From the first later text that starts with `BEGIN ` on. -/
def opening : List Bytes → Option (List Bytes)
  | _ :: u :: more => if beginWord.isPrefixOf u then some (u :: more) else opening (u :: more)
  | _ => none

/-- Up to the first text that ends in `PRIVATE KEY` and is not the last, and the texts after it. -/
def labelled : List Bytes → Option (List Bytes × List Bytes)
  | x :: u :: more =>
    if keyWord.isSuffixOf x then some ([x], u :: more)
    else (labelled (u :: more)).map fun (label, rest) => (x :: label, rest)
  | _ => none

/-- The texts of the end marker of a label. -/
def endTexts : List Bytes → List Bytes
  | [] => []
  | x :: more => (endWord ++ x) :: more

/-- After the first later texts that are the given ones and are not the last. -/
def closing (marker : List Bytes) : List Bytes → Option (List Bytes)
  | _ :: u :: more =>
    if marker.isPrefixOf (u :: more) && marker.length < (u :: more).length then
      some ((u :: more).drop marker.length)
    else closing marker (u :: more)
  | _ => none

theorem opening_suffix : ∀ {s s' : List Bytes}, opening s = some s' →
    s' <:+ s ∧ s'.length < s.length ∧ ∃ u more, s' = u :: more ∧ beginWord <+: u := by
  intro s
  fun_induction opening s with
  | case1 t u more hu =>
    intro s' h
    cases h
    exact ⟨List.suffix_cons _ _, by simp, u, more, rfl, List.isPrefixOf_iff_prefix.mp hu⟩
  | case2 t u more hu ih =>
    intro s' h
    obtain ⟨hsuf, hlen, hshape⟩ := ih h
    exact ⟨hsuf.trans (List.suffix_cons _ _), by rw [List.length_cons]; omega, hshape⟩
  | case3 s hs => intro s' h; cases h

theorem labelled_append : ∀ {s label rest : List Bytes}, labelled s = some (label, rest) →
    s = label ++ rest ∧ label ≠ [] ∧ rest ≠ [] := by
  intro s
  fun_induction labelled s with
  | case1 x u more hx =>
    intro label rest h
    cases h
    exact ⟨rfl, by simp, by simp⟩
  | case2 x u more hx ih =>
    intro label rest h
    obtain ⟨⟨label', rest'⟩, hl, heq⟩ := Option.map_eq_some_iff.mp h
    cases heq
    obtain ⟨happ, -, hrest⟩ := ih hl
    exact ⟨by rw [happ]; rfl, by simp, hrest⟩
  | case3 s hs => intro label rest h; cases h

theorem labelled_length : ∀ {s label rest : List Bytes}, labelled s = some (label, rest) →
    11 ≤ (dashed label).length := by
  intro s
  fun_induction labelled s with
  | case1 x u more hx =>
    intro label rest h
    cases h
    exact (List.isSuffixOf_iff_suffix.mp hx).length_le
  | case2 x u more hx ih =>
    intro label rest h
    obtain ⟨⟨label', rest'⟩, hl, heq⟩ := Option.map_eq_some_iff.mp h
    cases heq
    have := ih hl
    rw [dashed_length_cons x (labelled_append hl).2.1]
    omega
  | case3 s hs => intro label rest h; cases h

theorem closing_append {marker : List Bytes} : ∀ {s past : List Bytes}, closing marker s = some past →
    past ≠ [] ∧ ∃ before, before ≠ [] ∧ s = before ++ marker ++ past := by
  intro s
  fun_induction closing marker s with
  | case1 t u more h =>
    intro past hpast
    cases hpast
    simp only [Bool.and_eq_true, decide_eq_true_eq, List.isPrefixOf_iff_prefix] at h
    obtain ⟨⟨tail, htail⟩, hlen⟩ := h
    refine ⟨?_, [t], by simp, ?_⟩
    · rw [← List.length_pos_iff, List.length_drop]
      omega
    · rw [← htail, List.drop_left, List.append_assoc]
      rfl
  | case2 t u more h ih =>
    intro past hpast
    obtain ⟨hne, before, hb, heq⟩ := ih hpast
    exact ⟨hne, t :: before, by simp, by rw [heq]; rfl⟩
  | case3 s hs => intro past h; cases h

/-- The ranges of texts that read as a private key, from left to right: each starts at a text `BEGIN …`
(its first component) and ends where the texts after its end marker start (its second). A text
`BEGIN …` without an end marker for its label is passed over. -/
def regions (texts : List Bytes) : List (List Bytes × List Bytes) :=
  match _hopen : opening texts with
  | none => []
  | some [] => []
  | some (u :: more) =>
    match _hlabel : labelled (u.drop 6 :: more) with
    | none => []
    | some (label, rest) =>
      match _hclose : closing (endTexts label) rest with
      | some past => (u :: more, past) :: regions past
      | none => regions (u.drop 6 :: more)
termination_by texts.length
decreasing_by
  · obtain ⟨-, hlt, -⟩ := opening_suffix _hopen
    obtain ⟨happ, -, -⟩ := labelled_append _hlabel
    obtain ⟨-, before, -, heq⟩ := closing_append _hclose
    have h₁ := congrArg List.length happ
    have h₂ := congrArg List.length heq
    simp only [List.length_append, List.length_cons] at h₁ h₂ hlt
    omega
  · obtain ⟨-, hlt, -⟩ := opening_suffix _hopen
    exact hlt

/-! ## The searches of the detector -/

theorem dash_not_mem_beginWord : dash ∉ beginWord := by decide

theorem dash_not_mem_endWord : dash ∉ endWord := by decide

theorem dash_not_mem_keyWord : dash ∉ keyWord := by decide

theorem findBytes_opening : ∀ {s : List Bytes}, DashFree s → findBytes (dashed s) pemBegin =
    (opening s).map fun s' => (dashed s).length - (dashed s').length - 5 := by
  intro s
  have hword : beginWord = 66 :: utf8 "EGIN " := by decide
  rw [pemBegin_eq]
  fun_induction opening s with
  | case1 t u more hu =>
    intro hfree
    have hpre := List.isPrefixOf_iff_prefix.mp hu
    rw [hword, findBytes_run hfree (by decide), ← hword,
      if_pos ((word_prefix_dashed dash_not_mem_beginWord).mpr hpre), Option.map_some]
    rw [dashed_length_cons t (by simp)]
    congr 1
    omega
  | case2 t u more hu ih =>
    intro hfree
    have hpre : ¬ beginWord <+: u := fun h => hu (List.isPrefixOf_iff_prefix.mpr h)
    rw [hword, findBytes_run hfree (by decide), ← hword,
      if_neg fun h => hpre ((word_prefix_dashed dash_not_mem_beginWord).mp h),
      ih (hfree.suffix (List.suffix_cons _ _)), Option.map_map]
    refine Option.map_congr fun s' hs' => ?_
    obtain ⟨hsuf, hlt, v, rest, rfl, -⟩ := opening_suffix hs'
    have := (dashed_suffix hsuf (by simp) hlt).1
    rw [Function.comp_apply, dashed_length_cons t (by simp)]
    omega
  | case3 s hs =>
    intro hfree
    match s, hs, hfree with
    | [], _, _ => rfl
    | [t], _, hfree => rw [hword]; exact findBytes_run_last (hfree t (by simp))
    | t :: u :: more, hs, _ => exact absurd rfl (hs t u more)

theorem findBytes_labelled : ∀ {s : List Bytes}, DashFree s → findBytes (dashed s) pemPrivate =
    (labelled s).map fun found => (dashed found.1).length - 11 := by
  intro s
  rw [pemPrivate_eq]
  have hne : keyWord ≠ [] := by decide
  fun_induction labelled s with
  | case1 x u more hx =>
    intro hfree
    rw [findBytes_word (hfree x (by simp)) dash_not_mem_keyWord hne,
      if_pos ⟨List.isSuffixOf_iff_suffix.mp hx, by simp⟩]
    rfl
  | case2 x u more hx ih =>
    intro hfree
    rw [findBytes_word (hfree x (by simp)) dash_not_mem_keyWord hne,
      if_neg fun h => hx (List.isSuffixOf_iff_suffix.mpr h.1), ih (hfree.suffix (List.suffix_cons _ _)),
      Option.map_map, Option.map_map]
    refine Option.map_congr fun ⟨label, rest⟩ hl => ?_
    obtain ⟨-, hlabel, -⟩ := labelled_append hl
    have hlen := labelled_length hl
    simp only [Function.comp_apply, dashed_length_cons x hlabel]
    omega
  | case3 s hs =>
    intro hfree
    match s, hs, hfree with
    | [], _, _ => rfl
    | [t], _, hfree =>
      rw [findBytes_word (hfree t (by simp)) dash_not_mem_keyWord hne, if_neg fun h => h.2 rfl]
      rfl
    | t :: u :: more, hs, _ => exact absurd rfl (hs t u more)

theorem findBytes_closing {label : List Bytes} (hlabel : label ≠ []) (hclean : DashFree label) :
    ∀ {s : List Bytes}, DashFree s →
      findBytes (dashed s) (pemEndPrefixed ++ dashed label ++ pemDashes) =
        (closing (endTexts label) s).map fun past =>
          (dashed s).length - (dashed past).length - (pemEndPrefixed ++ dashed label ++ pemDashes).length := by
  intro s
  obtain ⟨x, tail, rfl⟩ := List.exists_cons_of_ne_nil hlabel
  have hmark : pemEndPrefixed ++ dashed (x :: tail) ++ pemDashes =
      List.replicate 5 dash ++ (dashed (endTexts (x :: tail)) ++ List.replicate 5 dash) := by
    rw [pemEndPrefixed_eq, pemDashes_eq]
    cases tail with
    | nil => simp [dashed, endTexts, joined]
    | cons y tail => simp [dashed, endTexts, joined]
  have hcons : ∃ w, dashed (endTexts (x :: tail)) ++ List.replicate 5 dash = 69 :: w := by
    cases tail with
    | nil => exact ⟨_, rfl⟩
    | cons y tail => exact ⟨_, rfl⟩
  have hfreeEnd : DashFree (endTexts (x :: tail)) := by
    intro t ht
    rcases List.mem_cons.mp ht with rfl | ht
    · rw [List.mem_append, not_or]
      exact ⟨dash_not_mem_endWord, hclean x List.mem_cons_self⟩
    · exact hclean t (List.mem_cons_of_mem _ ht)
  obtain ⟨w, hw⟩ := hcons
  have hiff : ∀ {s : List Bytes}, DashFree s → (69 :: w <+: dashed s ↔
      ((endTexts (x :: tail)).isPrefixOf s && (endTexts (x :: tail)).length < s.length) = true) := by
    intro s hs
    rw [← hw, dashed_prefix_iff (by simp [endTexts]) hfreeEnd hs, Bool.and_eq_true,
      decide_eq_true_eq, List.isPrefixOf_iff_prefix]
    constructor
    · rintro ⟨rest, hrest, rfl⟩
      refine ⟨List.prefix_append _ _, ?_⟩
      rw [List.length_append]
      have := List.length_pos_iff.mpr hrest
      omega
    · rintro ⟨⟨rest, rfl⟩, hlen⟩
      refine ⟨rest, ?_, rfl⟩
      rintro rfl
      simp at hlen
  rw [hmark, hw]
  fun_induction closing (endTexts (x :: tail)) s with
  | case1 t u more h =>
    intro hfree
    rw [findBytes_run hfree (by decide), if_pos ((hiff (hfree.suffix (List.suffix_cons _ _))).mpr h),
      Option.map_some]
    have hsplit := h
    simp only [Bool.and_eq_true, decide_eq_true_eq, List.isPrefixOf_iff_prefix] at hsplit
    obtain ⟨⟨rest, hrest⟩, hlen⟩ := hsplit
    have hrest' : rest ≠ [] := by
      rintro rfl
      rw [List.append_nil] at hrest
      rw [hrest] at hlen
      omega
    have hwlen := congrArg List.length hw
    rw [List.length_append, List.length_replicate] at hwlen
    rw [← hrest, List.drop_left, dashed_length_cons t (by simp [endTexts]),
      dashed_length_append (show endTexts (x :: tail) ≠ [] by simp [endTexts]) hrest', List.length_append,
      ← hwlen, List.length_replicate]
    congr 1
    omega
  | case2 t u more h ih =>
    intro hfree
    have hfree' := hfree.suffix (List.suffix_cons t (u :: more))
    rw [findBytes_run hfree (by decide), if_neg fun hp => h ((hiff hfree').mp hp), ih hfree', Option.map_map]
    refine Option.map_congr fun past hpast => ?_
    obtain ⟨hne, before, hb, heq⟩ := closing_append hpast
    have h₁ : (dashed (u :: more)).length = (dashed before).length + 5 +
        ((dashed (endTexts (x :: tail))).length + 5 + (dashed past).length) := by
      rw [heq, List.append_assoc, dashed_length_append hb (by simp [hne]),
        dashed_length_append (show endTexts (x :: tail) ≠ [] by simp [endTexts]) hne]
    have hwlen := congrArg List.length hw
    rw [List.length_append, List.length_replicate] at hwlen
    rw [Function.comp_apply, dashed_length_cons t (by simp), List.length_append, ← hwlen,
      List.length_replicate]
    omega
  | case3 s hs =>
    intro hfree
    cases s with
    | nil => rfl
    | cons t s =>
      cases s with
      | nil => exact findBytes_run_last (hfree t (by simp))
      | cons u more => exact absurd rfl (hs t u more)

/-! ## The candidates are the regions -/

/-- The part of the input from the cut in front of a region to the end of its end marker, in an input of
length `n`. -/
def regionCandidate (n : Nat) (region : List Bytes × List Bytes) : Candidate :=
  ⟨n - (dashed region.1).length - 5, n - (dashed region.2).length, .pemPrivateKey⟩

theorem labelled_suffix {x : Bytes} {more label rest : List Bytes}
    (h : labelled (x :: more) = some (label, rest)) : rest <:+ more := by
  obtain ⟨happ, hlabel, -⟩ := labelled_append h
  obtain ⟨y, tail, rfl⟩ := List.exists_cons_of_ne_nil hlabel
  rw [List.cons_append, List.cons.injEq] at happ
  exact ⟨tail, happ.2.symm⟩

theorem closing_suffix {marker s past : List Bytes} (h : closing marker s = some past) :
    past ≠ [] ∧ past <:+ s ∧ past.length < s.length := by
  obtain ⟨hne, before, hb, rfl⟩ := closing_append h
  refine ⟨hne, List.suffix_append _ _, ?_⟩
  have := List.length_pos_iff.mpr hb
  simp only [List.length_append]
  omega

/-- The begin word is cut off the first text. -/
theorem dashed_drop_begin {u : Bytes} {more : List Bytes} (hu : beginWord <+: u) :
    (dashed (u :: more)).drop 6 = dashed (u.drop 6 :: more) ∧
      (dashed (u :: more)).length = 6 + (dashed (u.drop 6 :: more)).length := by
  have hlen : 6 ≤ u.length := hu.length_le
  have hcut := List.length_drop (i := 6) (l := u)
  cases more with
  | nil =>
    refine ⟨rfl, ?_⟩
    change u.length = 6 + (u.drop 6).length
    omega
  | cons v more =>
    rw [dashed_length_cons u (by simp), dashed_length_cons (u.drop 6) (by simp), dashed_cons u (by simp),
      dashed_cons (u.drop 6) (by simp), List.drop_append_of_le_length hlen]
    exact ⟨rfl, by omega⟩

theorem endTexts_length {label : List Bytes} (h : label ≠ []) :
    (dashed (endTexts label)).length = 4 + (dashed label).length := by
  have hw : endWord.length = 4 := rfl
  obtain ⟨x, tail, rfl⟩ := List.exists_cons_of_ne_nil h
  cases tail with
  | nil => exact List.length_append
  | cons y tail =>
    rw [endTexts, dashed_length_cons _ (by simp), dashed_length_cons x (by simp), List.length_append]
    omega

theorem closing_length {label rest past : List Bytes} (hlabel : label ≠ [])
    (h : closing (endTexts label) rest = some past) :
    (pemEndPrefixed ++ dashed label ++ pemDashes).length + (dashed past).length ≤ (dashed rest).length := by
  obtain ⟨hne, before, hb, rfl⟩ := closing_append h
  have he : pemEndPrefixed.length = 9 := rfl
  have hd : pemDashes.length = 5 := rfl
  have hends : endTexts label ≠ [] := by
    obtain ⟨x, tail, rfl⟩ := List.exists_cons_of_ne_nil hlabel
    simp [endTexts]
  rw [List.append_assoc before, dashed_length_append hb (by simp [hne]), dashed_length_append hends hne,
    endTexts_length hlabel, List.length_append, List.length_append, he, hd]
  omega

/-- What the body of the loop does at a text `BEGIN …`. -/
theorem pemAt_dashed {input : Bytes} {u : Bytes} {more : List Bytes} {start : Nat}
    (hfree : DashFree (u :: more)) (hu : beginWord <+: u)
    (hstart : start + 5 + (dashed (u :: more)).length = input.length)
    (hdrop : input.drop (start + 5) = dashed (u :: more)) :
    pemAt input start = match labelled (u.drop 6 :: more) with
      | none => (none, none)
      | some (label, rest) =>
        match closing (endTexts label) rest with
        | some past => (some (regionCandidate input.length (u :: more, past)),
            some (input.length - (dashed past).length))
        | none => (none, some (start + 11)) := by
  obtain ⟨hbegin, hlen⟩ := @dashed_drop_begin u more hu
  have hcursor : input.drop (start + 11) = dashed (u.drop 6 :: more) := by
    rw [← hbegin, ← hdrop, List.drop_drop]
  have hfree' : DashFree (u.drop 6 :: more) := dashFree_drop hfree
  have hb : pemBegin.length = 11 := rfl
  unfold pemAt
  dsimp only
  rw [hb, hcursor, findBytes_labelled hfree']
  cases hlabel : labelled (u.drop 6 :: more) with
  | none => rfl
  | some found =>
    obtain ⟨label, rest⟩ := found
    obtain ⟨happ, hlne, hrne⟩ := labelled_append hlabel
    have hmin := labelled_length hlabel
    have hsum := dashed_length_append hlne hrne
    rw [← happ] at hsum
    have hp : pemPrivate.length = 16 := rfl
    dsimp only [Option.map_some]
    have hend : start + 11 + ((dashed label).length - 11) + pemPrivate.length =
        start + 11 + ((dashed label).length + 5) := by omega
    have htake : (dashed (u.drop 6 :: more)).take (start + 11 + ((dashed label).length + 5) - 5 - (start + 11)) =
        dashed label := by
      rw [show start + 11 + ((dashed label).length + 5) - 5 - (start + 11) = (dashed label).length by omega,
        happ, dashed_append hlne hrne, List.take_left]
    have hrest : input.drop (start + 11 + ((dashed label).length + 5)) = dashed rest := by
      rw [← List.drop_drop, hcursor, happ]
      exact joined_drop dash 5 hlne hrne
    have hclean : DashFree label := fun t ht => hfree' t (by rw [happ]; exact List.mem_append_left _ ht)
    have hclean' : DashFree rest := fun t ht => hfree' t (by rw [happ]; exact List.mem_append_right _ ht)
    rw [hend, htake, hrest, findBytes_closing hlne hclean hclean']
    cases hclose : closing (endTexts label) rest with
    | none => rfl
    | some past =>
      have hmarker := closing_length hlne hclose
      obtain ⟨hpne, hpsuf, hplt⟩ := closing_suffix hclose
      have hpast := (dashed_suffix hpsuf hpne hplt).1
      dsimp only [Option.map_some, regionCandidate]
      have hstop : start + 11 + ((dashed label).length + 5) + ((dashed rest).length - (dashed past).length -
          (pemEndPrefixed ++ dashed label ++ pemDashes).length) +
          (pemEndPrefixed ++ dashed label ++ pemDashes).length = input.length - (dashed past).length := by
        omega
      have hfirst : start = input.length - (dashed (u :: more)).length - 5 := by omega
      rw [hstop, ← hfirst]

/-- One turn of the loop, at a cut with a later text `BEGIN …`. -/
theorem detectLoop_turn {input u : Bytes} {s more : List Bytes} {fuel cursor : Nat} (hfree : DashFree s)
    (hlen : cursor + (dashed s).length = input.length) (hdrop : input.drop cursor = dashed s)
    (hfuel : input.length < cursor + fuel) (hopen : opening s = some (u :: more)) :
    ∃ fuel' start, fuel = fuel' + 1 ∧ cursor ≤ start ∧
      start + 5 + (dashed (u :: more)).length = input.length ∧ input.drop (start + 5) = dashed (u :: more) ∧
      detectLoop (findBytes · pemBegin) (pemAt input) input fuel cursor =
        match pemAt input start with
        | (found, none) => found.toList
        | (found, some cursor') => found.toList ++
            detectLoop (findBytes · pemBegin) (pemAt input) input fuel' cursor' := by
  obtain ⟨hsuf, hlt, v, rest, heq, hv⟩ := opening_suffix hopen
  cases heq
  obtain ⟨hle, before, hbefore⟩ := dashed_suffix hsuf (by simp) hlt
  have hblen := congrArg List.length hbefore
  simp only [List.length_append, List.length_replicate] at hblen
  obtain ⟨fuel, rfl⟩ : ∃ fuel', fuel = fuel' + 1 := ⟨fuel - 1, by omega⟩
  have hr : (dashed s).length - (dashed (u :: more)).length - 5 = before.length := by omega
  refine ⟨fuel, cursor + before.length, rfl, by omega, by omega, ?_, ?_⟩
  · have hcut : (before ++ List.replicate 5 dash).length = before.length + 5 := by simp
    rw [Nat.add_assoc, ← List.drop_drop, hdrop, hbefore, ← List.append_assoc, ← hcut, List.drop_left]
  · rw [detectLoop, hdrop, findBytes_opening hfree, hopen]
    dsimp only [Option.map_some]
    exact hr ▸ rfl

/-- The loop from a cut on reads the regions from there on. -/
theorem detectLoop_regions {input : Bytes} {s : List Bytes} : ∀ {fuel cursor : Nat}, DashFree s →
    cursor + (dashed s).length = input.length → input.drop cursor = dashed s →
    input.length < cursor + fuel → detectLoop (findBytes · pemBegin) (pemAt input) input fuel cursor =
      (regions s).map (regionCandidate input.length) := by
  fun_induction regions s with
  | case1 s hopen =>
    intro fuel cursor hfree _ hdrop hfuel
    cases fuel with
    | zero => rfl
    | succ fuel => rw [detectLoop, hdrop, findBytes_opening hfree, hopen]; rfl
  | case2 s hopen =>
    obtain ⟨-, -, u, more, hs', -⟩ := opening_suffix hopen
    cases hs'
  | case3 s u more hopen hlabel =>
    intro fuel cursor hfree hlen hdrop hfuel
    obtain ⟨hsuf, -, v, rest, heq, hu⟩ := opening_suffix hopen
    cases heq
    obtain ⟨fuel, start, rfl, -, hstart, hcut, hturn⟩ := detectLoop_turn hfree hlen hdrop hfuel hopen
    rw [hturn, pemAt_dashed (hfree.suffix hsuf) hu hstart hcut, hlabel]
    rfl
  | case4 s u more hopen label rest hlabel past hclose ih =>
    intro fuel cursor hfree hlen hdrop hfuel
    obtain ⟨hsuf, -, v, tail, heq, hu⟩ := opening_suffix hopen
    cases heq
    obtain ⟨fuel, start, rfl, hle, hstart, hcut, hturn⟩ := detectLoop_turn hfree hlen hdrop hfuel hopen
    obtain ⟨hpne, hpsuf, -⟩ := closing_suffix hclose
    have hpast : past <:+ u :: more := (hpsuf.trans (labelled_suffix hlabel)).trans (List.suffix_cons _ _)
    have hplt : past.length < (u :: more).length := by
      have := (hpsuf.trans (labelled_suffix hlabel)).length_le
      rw [List.length_cons]
      omega
    obtain ⟨hgap, before, hbefore⟩ := dashed_suffix hpast hpne hplt
    rw [hturn, pemAt_dashed (hfree.suffix hsuf) hu hstart hcut, hlabel]
    dsimp only
    rw [hclose]
    dsimp only [Option.toList_some]
    rw [ih ((hfree.suffix hsuf).suffix hpast) (by omega) ?_ (by omega)]
    · rfl
    · have hblen := congrArg List.length hbefore
      simp only [List.length_append, List.length_replicate] at hblen
      have hcut' : (before ++ List.replicate 5 dash).length = before.length + 5 := by simp
      rw [show input.length - (dashed past).length = start + 5 + (before.length + 5) by omega,
        ← List.drop_drop, hcut, hbefore, ← List.append_assoc, ← hcut', List.drop_left]
  | case5 s u more hopen label rest hlabel hclose ih =>
    intro fuel cursor hfree hlen hdrop hfuel
    obtain ⟨hsuf, -, v, tail, heq, hu⟩ := opening_suffix hopen
    cases heq
    obtain ⟨fuel, start, rfl, hle, hstart, hcut, hturn⟩ := detectLoop_turn hfree hlen hdrop hfuel hopen
    obtain ⟨hbegin, hblen⟩ := @dashed_drop_begin u more hu
    rw [hturn, pemAt_dashed (hfree.suffix hsuf) hu hstart hcut, hlabel]
    dsimp only
    rw [hclose]
    dsimp only [Option.toList_none, List.nil_append]
    refine ih ?_ (by omega) ?_ (by omega)
    · exact dashFree_drop (hfree.suffix hsuf)
    · rw [← hbegin, ← hcut, List.drop_drop]

/-- **The PEM candidates of joined texts are their regions.** -/
theorem detectPem_dashed {texts : List Bytes} (hfree : DashFree texts) :
    detectPem (dashed texts) = (regions texts).map (regionCandidate (dashed texts).length) :=
  detectLoop_regions hfree (by omega) rfl (by omega)

/-! ## Where the regions lie -/

theorem mem_regions {s : List Bytes} : ∀ {region : List Bytes × List Bytes}, region ∈ regions s →
    region.1 <:+ s ∧ region.1.length < s.length ∧ (∃ u more, region.1 = u :: more ∧ beginWord <+: u) ∧
      region.2 ≠ [] ∧ region.2 <:+ region.1 ∧ region.2.length < region.1.length := by
  fun_induction regions s with
  | case1 s hopen => intro region h; cases h
  | case2 s hopen => intro region h; cases h
  | case3 s u more hopen hlabel => intro region h; cases h
  | case4 s u more hopen label rest hlabel past hclose ih =>
    intro region h
    obtain ⟨hsuf, hlt, hshape⟩ := opening_suffix hopen
    obtain ⟨hpne, hpsuf, -⟩ := closing_suffix hclose
    have hpast : past <:+ more := hpsuf.trans (labelled_suffix hlabel)
    have hple := hpast.length_le
    rcases List.mem_cons.mp h with rfl | h
    · exact ⟨hsuf, hlt, hshape, hpne, hpast.trans (List.suffix_cons _ _),
        Nat.lt_succ_of_le hple⟩
    · obtain ⟨h₁, h₂, hrest⟩ := ih h
      rw [List.length_cons] at hlt
      exact ⟨(h₁.trans (hpast.trans (List.suffix_cons _ _))).trans hsuf, by omega, hrest⟩
  | case5 s u more hopen label rest hlabel hclose ih =>
    intro region h
    obtain ⟨hsuf, hlt, -⟩ := opening_suffix hopen
    obtain ⟨h₁, h₂, hrest⟩ := ih h
    rw [List.length_cons] at hlt h₂
    have hmore : region.1 <:+ more :=
      suffix_of_length_le h₁ (List.suffix_cons _ _) (by omega)
    exact ⟨(hmore.trans (List.suffix_cons _ _)).trans hsuf, by omega, hrest⟩

theorem regions_apart (s : List Bytes) : (regions s).Pairwise fun a b =>
    b.1 <:+ a.2 ∧ b.1.length < a.2.length := by
  fun_induction regions s with
  | case1 s hopen => exact List.Pairwise.nil
  | case2 s hopen => exact List.Pairwise.nil
  | case3 s u more hopen hlabel => exact List.Pairwise.nil
  | case4 s u more hopen label rest hlabel past hclose ih =>
    refine List.pairwise_cons.mpr ⟨fun b hb => ?_, ih⟩
    obtain ⟨h₁, h₂, -⟩ := mem_regions hb
    exact ⟨h₁, h₂⟩
  | case5 s u more hopen label rest hlabel hclose ih => exact ih

end EverTrace.L1.Protect
