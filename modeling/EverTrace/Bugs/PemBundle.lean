import EverTrace.L1Encoding.PemScan
import EverTrace.Bugs.SecretOverlap
/-!
# A private key whose begin line belongs to another block

`detect_pem` (evertrace-capture/src/protect.rs:426-453) takes as label
everything from `-----BEGIN ` to the next `PRIVATE KEY-----`, across lines and
blocks. When that label is repeated after an `-----END `, the text in between
is taken for one key, and the next search starts after the dashes that close
it. Those dashes may be the ones that open the next block.

Counterexample: two certificates, the first with the body `PRIVATE KEY`, the
second followed by the separator `PRIVATE KEY`, and then a private key. The
label read at the first certificate is `CERTIFICATE-----PRIVATE KEY`, its end
marker is found at the second, and takes the dashes of `-----BEGIN PRIVATE
KEY-----`. The key is not found and is archived in clear.

`protect_covers_keys` says exactly when every private key is covered: no
region ends inside one.
-/
namespace EverTrace.Bugs.PemBundle
open EverTrace.Lib EverTrace.L1 EverTrace.L1.Protect EverTrace.Bugs.SecretOverlap

/-- A PEM block whose label and body hold no dash. -/
structure PemBlock where
  label : Bytes
  body : Bytes
  label_clean : dash ∉ label
  body_clean : dash ∉ body

/-- What stands between two blocks. -/
structure Separator where
  bytes : Bytes
  clean : dash ∉ bytes

/-- `-----BEGIN L-----`, the body, `-----END L-----` -/
def PemBlock.bytes (block : PemBlock) : Bytes :=
  pemBegin ++ block.label ++ pemDashes ++ block.body ++ pemEndPrefixed ++ block.label ++ pemDashes

/-- The label ends in `PRIVATE KEY`. -/
def PemBlock.IsKey (block : PemBlock) : Prop := keyWord <:+ block.label

/-- The blocks, each followed by its separator, after some first text. -/
def bundle (lead : Separator) (blocks : List (PemBlock × Separator)) : Bytes :=
  lead.bytes ++ blocks.flatMap fun (block, separator) => block.bytes ++ separator.bytes

/-- Every byte of every private key lies in a span. -/
def KeysCovered (lead : Separator) (blocks : List (PemBlock × Separator)) (payload : ProtectedPayload) : Prop :=
  ∀ before block separator after, blocks = before ++ (block, separator) :: after → block.IsKey →
    ∀ i, (bundle lead before).length ≤ i → i < (bundle lead before).length + block.bytes.length →
      ∃ span ∈ payload.spans, span.start ≤ i ∧ i < span.stop

/-! ## The defect -/

def sampleBlocks : List (PemBlock × Separator) :=
  [ (⟨utf8 "CERTIFICATE", utf8 "PRIVATE KEY", by decide, by decide⟩, ⟨utf8 "\n", by decide⟩),
    (⟨utf8 "CERTIFICATE", utf8 "MIIC", by decide, by decide⟩, ⟨utf8 "PRIVATE KEY", by decide⟩),
    (⟨utf8 "PRIVATE KEY", utf8 "MIIB", by decide, by decide⟩, ⟨[], by decide⟩) ]

def sampleLead : Separator := ⟨[], by decide⟩

def sampleMac : HmacSha256 := constantMac
  ⟨[0x3b, 0x5c, 0xae, 0xda, 0x74, 0xf1, 0xee, 0x17, 0x02, 0xc5, 0x4c, 0x70, 0xc4, 0xdf, 0xef, 0xba,
    0x7b, 0x9e, 0xe8, 0x21, 0x5c, 0xab, 0xf9, 0x78, 0x56, 0xe3, 0x14, 0xd2, 0x65, 0xe2, 0xf9, 0x87], rfl⟩

theorem sample_kept : resolveOverlaps (detectCandidates (bundle sampleLead sampleBlocks)) =
    [⟨0, 136, .pemPrivateKey⟩] := by
  decide +kernel

/-- **Counterexample**: the private key is at `[131, 187)` and its byte 136 is in no span. -/
theorem key_after_certificates_leaks : ∃ payload,
    protect sampleMac (bundle sampleLead sampleBlocks) sampleKey = .ok payload ∧
      ¬ KeysCovered sampleLead sampleBlocks payload := by
  obtain ⟨payload, hok, hspans, -⟩ := protect_ok sampleMac (bundle sampleLead sampleBlocks) sampleKey
    (by decide +kernel)
  rw [sample_kept] at hspans
  refine ⟨payload, hok, fun h => ?_⟩
  obtain ⟨span, hspan, -, hstop⟩ := h (sampleBlocks.take 2) _ _ [] rfl (List.suffix_refl _) 136 (by decide +kernel)
    (by decide +kernel)
  rw [hspans, List.map_singleton, List.mem_singleton] at hspan
  subst hspan
  simp [Candidate.span] at hstop

/-! ## The texts of a bundle -/

def blockTexts : PemBlock × Separator → List Bytes
  | (block, separator) =>
    [beginWord ++ block.label, block.body, endWord ++ block.label, separator.bytes]

/-- The texts between the runs of dashes. -/
def texts (lead : Separator) (blocks : List (PemBlock × Separator)) : List Bytes :=
  lead.bytes :: blocks.flatMap blockTexts

/-- No region ends inside a private key: what follows it never starts with the begin line, the body or
the end line of one. -/
def Undivided (lead : Separator) (blocks : List (PemBlock × Separator)) : Prop :=
  ∀ before block separator after, blocks = before ++ (block, separator) :: after → block.IsKey →
    ∀ region ∈ regions (texts lead blocks), ∀ k < 3,
      region.2 ≠ (blockTexts (block, separator)).drop k ++ after.flatMap blockTexts

theorem texts_dashFree (lead : Separator) (blocks : List (PemBlock × Separator)) :
    DashFree (texts lead blocks) := by
  intro t ht
  rcases List.mem_cons.mp ht with rfl | ht
  · exact lead.clean
  · obtain ⟨⟨block, separator⟩, -, ht⟩ := List.mem_flatMap.mp ht
    simp only [blockTexts, List.mem_cons, List.not_mem_nil, or_false] at ht
    rcases ht with rfl | rfl | rfl | rfl
    · rw [List.mem_append, not_or]
      exact ⟨dash_not_mem_beginWord, block.label_clean⟩
    · exact block.body_clean
    · rw [List.mem_append, not_or]
      exact ⟨dash_not_mem_endWord, block.label_clean⟩
    · exact separator.clean

theorem dashed_texts_cons (lead : Separator) (block : PemBlock) (separator : Separator)
    (after : List (PemBlock × Separator)) :
    dashed (texts lead ((block, separator) :: after)) =
      lead.bytes ++ (block.bytes ++ dashed (texts separator after)) := by
  have hshape : texts lead ((block, separator) :: after) =
      lead.bytes :: (beginWord ++ block.label) :: block.body :: (endWord ++ block.label) ::
        texts separator after := rfl
  rw [hshape, dashed_cons _ (by simp), dashed_cons _ (by simp), dashed_cons _ (by simp),
    dashed_cons _ (by simp [texts]), PemBlock.bytes, pemBegin_eq, pemDashes_eq, pemEndPrefixed_eq]
  simp only [List.append_assoc]

theorem bundle_eq_dashed : ∀ (blocks : List (PemBlock × Separator)) (lead : Separator),
    bundle lead blocks = dashed (texts lead blocks) := by
  intro blocks
  induction blocks with
  | nil => intro lead; simp [bundle, texts, dashed, joined]
  | cons entry after ih =>
    intro lead
    obtain ⟨block, separator⟩ := entry
    rw [dashed_texts_cons, ← ih separator]
    simp only [bundle, List.flatMap_cons, List.append_assoc]

theorem texts_length (lead : Separator) (blocks : List (PemBlock × Separator)) :
    (texts lead blocks).length = 4 * blocks.length + 1 := by
  induction blocks with
  | nil => rfl
  | cons entry after ih =>
    obtain ⟨block, separator⟩ := entry
    simp only [texts, List.flatMap_cons, List.length_cons, List.length_append, blockTexts,
      List.length_nil] at ih ⊢
    omega

def fromBlock (block : PemBlock) (separator : Separator) (after : List (PemBlock × Separator)) : List Bytes :=
  (beginWord ++ block.label) :: block.body :: (endWord ++ block.label) :: texts separator after

theorem fromBlock_suffix {lead : Separator} {blocks before after : List (PemBlock × Separator)}
    {block : PemBlock} {separator : Separator} (h : blocks = before ++ (block, separator) :: after) :
    fromBlock block separator after <:+ texts lead blocks := by
  refine ⟨texts lead before, ?_⟩
  rw [h, texts, texts, List.flatMap_append]
  rfl

theorem fromBlock_length (block : PemBlock) (separator : Separator) (after : List (PemBlock × Separator)) :
    (fromBlock block separator after).length = 4 * after.length + 4 := by
  simp only [fromBlock, List.length_cons, texts_length]

theorem block_range {lead : Separator} {blocks before after : List (PemBlock × Separator)}
    {block : PemBlock} {separator : Separator} (h : blocks = before ++ (block, separator) :: after) :
    (bundle lead before).length + 5 + (dashed (fromBlock block separator after)).length =
        (bundle lead blocks).length ∧
      (bundle lead before).length + block.bytes.length + (dashed (texts separator after)).length =
        (bundle lead blocks).length := by
  have hbundle : bundle lead blocks = bundle lead before ++ (block.bytes ++ bundle separator after) := by
    rw [h]
    simp only [bundle, List.flatMap_append, List.flatMap_cons, List.append_assoc]
  have hblock : block.bytes ++ bundle separator after =
      List.replicate 5 dash ++ dashed (fromBlock block separator after) := by
    rw [bundle_eq_dashed, fromBlock, dashed_cons _ (by simp), dashed_cons _ (by simp),
      dashed_cons _ (by simp [texts]), PemBlock.bytes, pemBegin_eq, pemDashes_eq, pemEndPrefixed_eq]
    simp only [List.append_assoc]
  have h₁ := congrArg List.length hbundle
  have h₂ := congrArg List.length hblock
  rw [bundle_eq_dashed after] at h₁ h₂
  simp only [List.length_append, List.length_replicate] at h₁ h₂
  omega

/-! ## The regions around a private key -/

theorem opening_of_suffix {u : Bytes} {more : List Bytes} (hu : beginWord <+: u) : ∀ {s : List Bytes},
    u :: more <:+ s → (u :: more).length < s.length →
      ∃ s', opening s = some s' ∧ u :: more <:+ s' := by
  intro s
  fun_induction opening s with
  | case1 t v rest hv =>
    intro hsuf hlt
    refine ⟨v :: rest, rfl, ?_⟩
    rcases List.suffix_cons_iff.mp hsuf with h | h
    · rw [h] at hlt
      omega
    · exact h
  | case2 t v rest hv ih =>
    intro hsuf hlt
    rcases List.suffix_cons_iff.mp hsuf with h | h
    · rw [h] at hlt
      omega
    · rcases List.suffix_cons_iff.mp h with h' | h'
      · cases h'
        exact absurd (List.isPrefixOf_iff_prefix.mpr hu) hv
      · refine ih h ?_
        have := h'.length_le
        simp only [List.length_cons] at this ⊢
        omega
  | case3 s hs =>
    intro hsuf hlt
    cases s with
    | nil => simp at hlt
    | cons t s =>
      cases s with
      | nil => simp at hlt
      | cons v rest => exact absurd rfl (hs t v rest)

theorem labelled_of_suffix {y : Bytes} {more : List Bytes} (hy : keyWord <:+ y) (hmore : more ≠ []) :
    ∀ {s : List Bytes}, y :: more <:+ s → ∃ label rest, labelled s = some (label, rest) := by
  intro s
  fun_induction labelled s with
  | case1 x v rest hx => exact fun _ => ⟨_, _, rfl⟩
  | case2 x v rest hx ih =>
    intro hsuf
    rcases List.suffix_cons_iff.mp hsuf with h | h
    · cases h
      exact absurd (List.isSuffixOf_iff_suffix.mpr hy) hx
    · obtain ⟨label, rest', hl⟩ := ih h
      exact ⟨x :: label, rest', by rw [hl]; rfl⟩
  | case3 s hs =>
    intro hsuf
    cases s with
    | nil => exact absurd (List.suffix_nil.mp hsuf) (by simp)
    | cons t s =>
      cases s with
      | nil =>
        rcases List.suffix_cons_iff.mp hsuf with h | h
        · cases h
          exact absurd rfl hmore
        · exact absurd (List.suffix_nil.mp h) (by simp)
      | cons v rest => exact absurd rfl (hs t v rest)

/-- The begin line of a private key ends in `PRIVATE KEY`, with the begin word or without. -/
theorem keyWord_suffix_begin {block : PemBlock} (hkey : block.IsKey) : keyWord <:+ beginWord ++ block.label :=
  List.IsSuffix.trans hkey (List.suffix_append _ _)

theorem drop_begin (label : Bytes) : (beginWord ++ label).drop 6 = label :=
  @List.drop_left _ beginWord label

theorem closing_own (block : PemBlock) (separator : Separator) (after : List (PemBlock × Separator)) :
    closing (endTexts [block.label]) (block.body :: (endWord ++ block.label) :: texts separator after) =
      some (texts separator after) := by
  have hpos : 0 < (texts separator after).length := by
    rw [texts_length]
    omega
  rw [closing, if_pos]
  · rfl
  · simp only [endTexts, Bool.and_eq_true, List.length_cons, List.length_nil]
    refine ⟨?_, decide_eq_true (by omega)⟩
    rw [List.isPrefixOf_iff_prefix, List.cons_prefix_cons]
    exact ⟨rfl, List.nil_prefix⟩

/-- **A private key that no region ends in is inside a region.** -/
theorem key_in_region {block : PemBlock} {separator : Separator} {after : List (PemBlock × Separator)}
    (hkey : block.IsKey) {s : List Bytes} : fromBlock block separator after <:+ s →
      (fromBlock block separator after).length < s.length →
      (∀ region ∈ regions s, region.2.length ≤ 4 * after.length + 1 ∨
        4 * after.length + 4 < region.2.length) →
      ∃ region ∈ regions s, fromBlock block separator after <:+ region.1 ∧
        region.2.length ≤ 4 * after.length + 1 := by
  have hbegin : beginWord <+: beginWord ++ block.label := List.prefix_append _ _
  have hlen := fromBlock_length block separator after
  fun_induction regions s with
  | case1 s hopen =>
    intro hsuf hlt _
    obtain ⟨s', hs', -⟩ := opening_of_suffix hbegin hsuf hlt
    rw [hopen] at hs'
    cases hs'
  | case2 s hopen =>
    obtain ⟨-, -, u, more, hs', -⟩ := opening_suffix hopen
    cases hs'
  | case3 s u more hopen hlabel =>
    intro hsuf hlt _
    obtain ⟨s', hs', hin⟩ := opening_of_suffix hbegin hsuf hlt
    rw [hopen] at hs'
    cases hs'
    exfalso
    rcases List.suffix_cons_iff.mp hin with h | h
    · cases h
      rw [drop_begin] at hlabel
      obtain ⟨label, rest, hl⟩ := @labelled_of_suffix _ (block.body :: (endWord ++ block.label) ::
        texts separator after) hkey (by simp) _ (List.suffix_refl _)
      rw [hl] at hlabel
      cases hlabel
    · obtain ⟨label, rest, hl⟩ := @labelled_of_suffix _ (block.body :: (endWord ++ block.label) :: texts separator after)
        (keyWord_suffix_begin hkey) (by simp) _ (h.trans (List.suffix_cons (u.drop 6) more))
      rw [hl] at hlabel
      cases hlabel
  | case4 s u more hopen label rest hlabel past hclose ih =>
    intro hsuf hlt hout
    obtain ⟨s', hs', hin⟩ := opening_of_suffix hbegin hsuf hlt
    rw [hopen] at hs'
    cases hs'
    rcases hout (u :: more, past) List.mem_cons_self with hle | hgt
    · exact ⟨_, List.mem_cons_self, hin, hle⟩
    · -- the region ends before the key
      change 4 * after.length + 4 < past.length at hgt
      have hpast : past <:+ u :: more :=
        ((closing_suffix hclose).2.1.trans (labelled_suffix hlabel)).trans (List.suffix_cons _ _)
      obtain ⟨region, hr, h⟩ := ih (suffix_of_length_le hin hpast (by omega)) (by omega)
        fun region hr => hout region (List.mem_cons_of_mem _ hr)
      exact ⟨region, List.mem_cons_of_mem _ hr, h⟩
  | case5 s u more hopen label rest hlabel hclose ih =>
    intro hsuf hlt hout
    obtain ⟨s', hs', hin⟩ := opening_of_suffix hbegin hsuf hlt
    rw [hopen] at hs'
    cases hs'
    rcases List.suffix_cons_iff.mp hin with h | h
    · -- the key's own begin line has its own end line
      exfalso
      cases h
      rw [drop_begin, labelled, if_pos (List.isSuffixOf_iff_suffix.mpr hkey)] at hlabel
      cases hlabel
      rw [closing_own] at hclose
      cases hclose
    · refine ih (h.trans (List.suffix_cons _ _)) ?_ hout
      exact Nat.lt_succ_of_le h.length_le

/-! ## What the other detectors can reach -/

/-- The byte before position `i` is not a dash. -/
def NotAfterDash (input : Bytes) (i : Nat) : Prop := ∀ byte, input[i - 1]? = some byte → byte ≠ dash

theorem skipWhile_prev {p : UInt8 → Bool} {input : Bytes} {i : Nat} (h : i < skipWhile p input i) {byte : UInt8}
    (hb : input[skipWhile p input i - 1]? = some byte) : p byte = true := by
  have hpre := List.takeWhile_prefix p (l := input.drop i)
  obtain ⟨rest, hrest⟩ := hpre
  have hlt : skipWhile p input i - 1 - i < ((input.drop i).takeWhile p).length := by
    simp only [skipWhile] at h ⊢
    omega
  have hget : input[skipWhile p input i - 1]? = ((input.drop i).takeWhile p)[skipWhile p input i - 1 - i]? := by
    rw [← @List.getElem?_append_left _ ((input.drop i).takeWhile p) rest _ hlt, hrest, List.getElem?_drop]
    congr 1
    omega
  rw [hget, List.getElem?_eq_getElem hlt, Option.some.injEq] at hb
  exact hb ▸ List.all_eq_true.mp List.all_takeWhile _ (List.getElem_mem hlt)

/-- A skip over blanks from behind a byte that is no dash does not end behind a dash. -/
theorem skipWhile_notAfterDash {input : Bytes} {i : Nat} (h : NotAfterDash input i) :
    NotAfterDash input (skipWhile isBlank input i) := by
  intro byte hb
  by_cases hmove : i < skipWhile isBlank input i
  · have := skipWhile_prev hmove hb
    rintro rfl
    exact absurd this (by decide)
  · have hstay : skipWhile isBlank input i = i := by
      simp only [skipWhile] at hmove ⊢
      omega
    rw [hstay] at hb
    exact h byte hb

theorem notAfterDash_succ {input : Bytes} {i : Nat} {p : UInt8 → Bool} (h : (input[i]?).any p = true)
    (hp : p dash = false) : NotAfterDash input (i + 1) := by
  intro byte hb
  rw [Nat.add_sub_cancel] at hb
  rw [hb, Option.any_some] at h
  rintro rfl
  rw [h] at hp
  cases hp

theorem start_of_scan {p : UInt8 → Bool} {input : Bytes} {value : Nat} {kind : SecretKind} {c : Candidate}
    (h : (if skipWhile p input value - value ≥ 8 then some (Candidate.mk value (skipWhile p input value) kind)
      else none) = some c) : c.start = value ∧ c.kind = kind := by
  split at h
  · cases h
    exact ⟨rfl, rfl⟩
  · cases h

theorem assignmentAt_notAfterDash {input name : Bytes} {kind : SecretKind} {start : Nat} {c : Candidate}
    (h : assignmentAt input name kind start = some c) : NotAfterDash input c.start ∧ c.kind = kind := by
  unfold assignmentAt at h
  dsimp only at h
  split at h
  · cases h
  split at h
  · cases h
  next hsign =>
  rw [Bool.not_eq_true', Bool.not_eq_false] at hsign
  obtain ⟨hstart, hkind⟩ := start_of_scan h
  refine ⟨?_, hkind⟩
  rw [hstart]
  split
  · next hquote =>
    obtain ⟨quote, hq⟩ := Option.isSome_iff_exists.mp hquote
    rw [Option.filter_eq_some_iff] at hq
    refine notAfterDash_succ (p := fun byte => byte = 0x27 || byte = 0x22) ?_ (by decide)
    rw [hq.1, Option.any_some]
    exact hq.2
  · exact skipWhile_notAfterDash (notAfterDash_succ hsign (by decide))

theorem bearerAt_notAfterDash {input : Bytes} {start : Nat} {c : Candidate}
    (h : bearerAt input start = some c) : NotAfterDash input c.start ∧ c.kind = .authorizationBearer := by
  unfold bearerAt at h
  dsimp only at h
  split at h
  · cases h
  split at h
  · cases h
  split at h
  · cases h
  next hbearer =>
  split at h
  · cases h
  obtain ⟨hstart, hkind⟩ := start_of_scan h
  refine ⟨?_, hkind⟩
  rw [hstart]
  refine skipWhile_notAfterDash fun byte hb => ?_
  -- the byte before is the last of `bearer`, in either case
  simp only [Bool.or_eq_true, decide_eq_true_eq, not_or, ne_eq, not_not] at hbearer
  have hlen : bearerName.length = 6 := rfl
  have hlast := congrArg (fun l => l[5]?) hbearer.2
  simp only [hlen, List.getElem?_map, List.getElem?_take, List.getElem?_drop] at hlast
  rw [hlen, Nat.add_sub_assoc (by omega)] at hb
  rw [if_pos (by omega), hb, Option.map_some] at hlast
  rintro rfl
  exact absurd hlast (by decide)

theorem detected_notAfterDash {input : Bytes} {c : Candidate} (h : c ∈ detectCandidates input)
    (hpem : c ∉ detectPem input) : NotAfterDash input c.start ∧ c.kind.priority < 3 := by
  unfold detectCandidates at h
  rcases List.mem_append.mp h with h | h
  · rcases List.mem_append.mp h with h | h
    · exact absurd h hpem
    · obtain ⟨start, hc⟩ := mem_detectLoop h
      obtain ⟨hdash, hkind⟩ := bearerAt_notAfterDash hc
      exact ⟨hdash, by rw [hkind]; decide⟩
  · obtain ⟨⟨name, kind⟩, hname, h⟩ := List.mem_flatMap.mp h
    obtain ⟨start, hc⟩ := mem_detectLoop h
    obtain ⟨hdash, hkind⟩ := assignmentAt_notAfterDash hc
    refine ⟨hdash, ?_⟩
    have hlow : ∀ entry ∈ assignmentNames, entry.2.priority < 3 := by decide
    rw [hkind]
    exact hlow _ hname

/-! ## What is kept -/

section Kept

variable {all : List Bytes} (hfree : DashFree all)

include hfree

theorem region_mem_detected {region : List Bytes × List Bytes} (h : region ∈ regions all) :
    regionCandidate (dashed all).length region ∈ detectCandidates (dashed all) := by
  unfold detectCandidates
  rw [detectPem_dashed hfree]
  exact List.mem_append_left _ (List.mem_append_left _ (List.mem_map_of_mem h))

omit hfree in
theorem regions_disjoint {a b : List Bytes × List Bytes} (ha : a ∈ regions all) (hb : b ∈ regions all) :
    a = b ∨ (b.1 <:+ a.2 ∧ b.1.length < a.2.length) ∨ (a.1 <:+ b.2 ∧ a.1.length < b.2.length) := by
  obtain ⟨i, hi, rfl⟩ := List.getElem_of_mem ha
  obtain ⟨j, hj, rfl⟩ := List.getElem_of_mem hb
  have hpair := List.pairwise_iff_getElem.mp (regions_apart all)
  rcases Nat.lt_trichotomy i j with h | h | h
  · exact .inr (.inl (hpair i j hi hj h))
  · subst h
    exact .inl rfl
  · exact .inr (.inr (hpair j i hj hi h))

/-- Every region is kept: nothing outranks it but another region, and those are apart. -/
theorem region_kept {region : List Bytes × List Bytes} (h : region ∈ regions all) :
    regionCandidate (dashed all).length region ∈ resolveOverlaps (detectCandidates (dashed all)) := by
  have hkernel := resolveOverlaps_kernel (detectCandidates (dashed all))
  by_contra hnot
  obtain ⟨k, hk, hover, hrank⟩ := hkernel.dominating _ (region_mem_detected hfree h) hnot
  have hdetected := hkernel.subset k hk
  have hprio : 3 ≤ k.kind.priority := by
    rw [ranksBefore_iff] at hrank
    have : (regionCandidate (dashed all).length region).kind.priority = 3 := rfl
    omega
  by_cases hpem : k ∈ detectPem (dashed all)
  · rw [detectPem_dashed hfree] at hpem
    obtain ⟨other, hother, rfl⟩ := List.mem_map.mp hpem
    rw [overlaps_iff] at hover
    simp only [regionCandidate] at hover
    rcases regions_disjoint h hother with rfl | ⟨hsuf, hlt⟩ | ⟨hsuf, hlt⟩
    · exact hnot hk
    · obtain ⟨-, -, ⟨u, more, hshape, -⟩, -⟩ := mem_regions hother
      have := (dashed_suffix hsuf (by rw [hshape]; simp) hlt).1
      omega
    · obtain ⟨-, -, ⟨u, more, hshape, -⟩, -⟩ := mem_regions h
      have := (dashed_suffix hsuf (by rw [hshape]; simp) hlt).1
      omega
  · have := (detected_notAfterDash hdetected hpem).2
    omega

omit hfree in
theorem dash_before {s : List Bytes} (hs : s <:+ all) (hne : s ≠ []) (hlt : s.length < all.length) :
    ¬ NotAfterDash (dashed all) ((dashed all).length - (dashed s).length) := by
  obtain ⟨-, before, hbefore⟩ := dashed_suffix hs hne hlt
  have hlen := congrArg List.length hbefore
  simp only [List.length_append, List.length_replicate] at hlen
  intro h
  refine h dash ?_ rfl
  rw [show (dashed all).length - (dashed s).length - 1 = before.length + 4 by omega, hbefore,
    List.getElem?_append_right (by omega), Nat.add_sub_cancel_left,
    List.getElem?_append_left (by simp)]
  rfl

/-- The first byte after a region is in no kept candidate, unless the next region starts there. -/
theorem uncovered_after_region {region : List Bytes × List Bytes} (h : region ∈ regions all)
    (hgap : ∀ other ∈ regions all, other.1 <:+ region.2 → other.1.length < region.2.length →
      (dashed other.1).length + 5 < (dashed region.2).length) {c : Candidate}
    (hc : c ∈ resolveOverlaps (detectCandidates (dashed all))) :
    ¬ (c.start ≤ (dashed all).length - (dashed region.2).length ∧
      (dashed all).length - (dashed region.2).length < c.stop) := by
  rintro ⟨hstart, hstop⟩
  obtain ⟨hsuf, hlt, -, hne, hsuf₂, hlt₂⟩ := mem_regions h
  have hall := (dashed_suffix (hsuf₂.trans hsuf) hne (by omega)).1
  have hkernel := resolveOverlaps_kernel (detectCandidates (dashed all))
  by_cases hpem : c ∈ detectPem (dashed all)
  · rw [detectPem_dashed hfree] at hpem
    obtain ⟨other, hother, rfl⟩ := List.mem_map.mp hpem
    simp only [regionCandidate] at hstart hstop
    rcases regions_disjoint h hother with rfl | ⟨hs, hl⟩ | ⟨hs, hl⟩
    · omega
    · have := hgap other hother hs hl
      omega
    · obtain ⟨-, -, ⟨u, more, hshape, -⟩, -⟩ := mem_regions h
      have h₁ := (dashed_suffix hs (by rw [hshape]; simp) hl).1
      have h₂ := (dashed_suffix hsuf₂ hne hlt₂).1
      omega
  · have hdash := (detected_notAfterDash (hkernel.subset c hc) hpem).1
    -- it does not overlap the region, so it starts right behind it
    have hkept := region_kept hfree h
    have hover : ¬ overlaps c (regionCandidate (dashed all).length region) = true := by
      intro hover
      rw [hkernel.independent _ hc _ hkept hover, detectPem_dashed hfree] at hpem
      exact hpem (List.mem_map_of_mem h)
    have h₂ := (dashed_suffix hsuf₂ hne hlt₂).1
    have h₁ := dashed_suffix_le hsuf (by rintro he; rw [he] at hlt₂; simp at hlt₂)
    rw [overlaps_iff] at hover
    simp only [regionCandidate] at hover
    have heq : c.start = (dashed all).length - (dashed region.2).length := by omega
    rw [heq] at hdash
    exact dash_before (hsuf₂.trans hsuf) hne (by omega) hdash

end Kept

/-! ## A region that ends inside a private key -/

theorem begin_ne_end {u label : Bytes} (hu : beginWord <+: u) : u ≠ endWord ++ label := by
  rintro rfl
  have hb : beginWord = 66 :: utf8 "EGIN " := by decide
  have he : endWord = 69 :: utf8 "ND " := by decide
  rw [hb, he, List.cons_append, List.cons_prefix_cons] at hu
  exact absurd hu.1 (by decide)

/-- Later texts start past the cut behind a text that is not empty. -/
theorem gap_behind {t : Bytes} {s rest : List Bytes} (ht : t ≠ []) (hs : s ≠ []) (h : s <:+ rest) :
    (dashed s).length + 5 < (dashed (t :: rest)).length := by
  have hrest : rest ≠ [] := by
    rintro rfl
    exact hs (List.suffix_nil.mp h)
  have hle := dashed_suffix_le h hs
  have hpos := List.length_pos_iff.mpr ht
  rw [dashed_length_cons t hrest]
  omega

/-- A region that ends in a private key is followed by text that no region starts at. -/
theorem gap_in_block {block : PemBlock} {separator : Separator} {after : List (PemBlock × Separator)}
    {k : Nat} (hk : k < 3) {u : Bytes} {more : List Bytes} (hu : beginWord <+: u)
    (hsuf : u :: more <:+ (fromBlock block separator after).drop k)
    (hlt : (u :: more).length < ((fromBlock block separator after).drop k).length) :
    (dashed (u :: more)).length + 5 < (dashed ((fromBlock block separator after).drop k)).length := by
  have hbegin : beginWord ++ block.label ≠ [] := List.append_ne_nil_of_left_ne_nil (by decide) _
  have hend : endWord ++ block.label ≠ [] := List.append_ne_nil_of_left_ne_nil (by decide) _
  have hpass : ∀ {t : Bytes} {rest : List Bytes}, u :: more <:+ t :: rest →
      (u :: more).length < (t :: rest).length → u :: more <:+ rest := by
    intro t rest h hlen
    rcases List.suffix_cons_iff.mp h with h | h
    · rw [h] at hlen
      omega
    · exact h
  obtain rfl | rfl | rfl : k = 0 ∨ k = 1 ∨ k = 2 := by omega
  · exact gap_behind hbegin (by simp) (hpass hsuf hlt)
  · have hin := hpass hsuf hlt
    rcases List.suffix_cons_iff.mp hin with h | h
    · cases h
      exact absurd rfl (begin_ne_end hu)
    · have hgap := gap_behind hend (by simp) h
      have hle := dashed_suffix_le (List.suffix_cons block.body ((endWord ++ block.label) ::
        texts separator after)) (by simp)
      exact Nat.lt_of_lt_of_le hgap hle
  · exact gap_behind hend (by simp) (hpass hsuf hlt)

theorem blockTexts_drop {block : PemBlock} {separator : Separator} {after : List (PemBlock × Separator)}
    {k : Nat} (hk : k < 3) : (blockTexts (block, separator)).drop k ++ after.flatMap blockTexts =
      (fromBlock block separator after).drop k := by
  obtain rfl | rfl | rfl : k = 0 ∨ k = 1 ∨ k = 2 := by omega
  · rfl
  · rfl
  · rfl

theorem keysCovered_iff {lead : Separator} {blocks : List (PemBlock × Separator)} {payload : ProtectedPayload}
    (hspans : payload.spans =
      (resolveOverlaps (detectCandidates (bundle lead blocks))).map Candidate.span) :
    KeysCovered lead blocks payload ↔ Undivided lead blocks := by
  have hfree := texts_dashFree lead blocks
  have hbundle := bundle_eq_dashed blocks lead
  rw [hbundle] at hspans
  constructor
  · intro hcovered before block separator after hblocks hkey region hregion k hk heq
    rw [blockTexts_drop hk] at heq
    obtain ⟨hstart, hstop⟩ := @block_range lead _ _ _ _ _ hblocks
    rw [hbundle] at hstart hstop
    have hlen := fromBlock_length block separator after
    have hsep := texts_length separator after
    have hdrop : ((fromBlock block separator after).drop k).length = 4 * after.length + 4 - k := by
      rw [List.length_drop, hlen]
    have hsuf : (fromBlock block separator after).drop k <:+ fromBlock block separator after :=
      List.drop_suffix _ _
    have hin : texts separator after <:+ (fromBlock block separator after).drop k :=
      suffix_of_length_le (List.drop_suffix 3 (fromBlock block separator after)) hsuf (by omega)
    have h₁ := dashed_suffix_le hsuf (by rw [← List.length_pos_iff]; omega)
    have h₂ := (dashed_suffix hin (by simp [texts]) (by omega)).1
    obtain ⟨span, hspan, hcover⟩ := hcovered before block separator after hblocks hkey
      ((dashed (texts lead blocks)).length - (dashed region.2).length) (by rw [heq]; omega)
      (by rw [heq]; omega)
    rw [hspans] at hspan
    obtain ⟨c, hc, rfl⟩ := List.mem_map.mp hspan
    refine uncovered_after_region hfree hregion (fun other hother hs hl => ?_) hc hcover
    obtain ⟨-, -, ⟨u, more, hshape, hu⟩, -⟩ := mem_regions hother
    rw [hshape, heq] at hs hl ⊢
    exact gap_in_block hk hu hs hl
  · intro hundivided before block separator after hblocks hkey i hi₁ hi₂
    obtain ⟨hstart, hstop⟩ := @block_range lead _ _ _ _ _ hblocks
    rw [hbundle] at hstart hstop
    have hlen := fromBlock_length block separator after
    have hsuf := @fromBlock_suffix lead _ _ _ _ _ hblocks
    have hout : ∀ region ∈ regions (texts lead blocks), region.2.length ≤ 4 * after.length + 1 ∨
        4 * after.length + 4 < region.2.length := by
      intro region hregion
      by_contra hbad
      obtain ⟨h₁, -, -, -, h₂, -⟩ := mem_regions hregion
      obtain ⟨k, hk, hk'⟩ : ∃ k < 3, region.2.length = 4 * after.length + 4 - k :=
        ⟨4 * after.length + 4 - region.2.length, by omega, by omega⟩
      refine hundivided before block separator after hblocks hkey region hregion k hk ?_
      rw [blockTexts_drop hk]
      have hdrop : ((fromBlock block separator after).drop k).length = 4 * after.length + 4 - k := by
        rw [List.length_drop, hlen]
      exact (suffix_of_length_le (h₂.trans h₁) ((List.drop_suffix k _).trans hsuf)
        (by omega)).eq_of_length (by omega)
    have hlt : (fromBlock block separator after).length < (texts lead blocks).length := by
      rw [texts_length, hblocks, List.length_append, List.length_cons]
      omega
    obtain ⟨region, hregion, hfrom, hpast⟩ := key_in_region hkey hsuf hlt hout
    obtain ⟨h₁, -, -, hne, h₂, -⟩ := mem_regions hregion
    have hsep : region.2 <:+ texts separator after :=
      suffix_of_length_le (h₂.trans h₁) ((List.drop_suffix 3 (fromBlock block separator after)).trans hsuf)
        (by rw [texts_length]; omega)
    have hle₁ := dashed_suffix_le hfrom (by rw [← List.length_pos_iff]; omega)
    have hle₂ := dashed_suffix_le hsep hne
    refine ⟨(regionCandidate (dashed (texts lead blocks)).length region).span, ?_, ?_⟩
    · rw [hspans]
      exact List.mem_map_of_mem (region_kept hfree hregion)
    · simp only [Candidate.span, regionCandidate]
      omega

/-! ## Bundles without such texts -/

/-- No body and no separator starts with `BEGIN ` or ends in `PRIVATE KEY`. -/
def Plain (blocks : List (PemBlock × Separator)) : Prop :=
  ∀ entry ∈ blocks, ∀ t ∈ [entry.1.body, entry.2.bytes], ¬ beginWord <+: t ∧ ¬ keyWord <:+ t

/-- Where a suffix of the texts of the blocks starts: in which block, and at which of its texts. -/
theorem suffix_shape : ∀ {blocks : List (PemBlock × Separator)} {u : Bytes} {more : List Bytes},
    u :: more <:+ blocks.flatMap blockTexts → ∃ entry ∈ blocks, ∃ after k, k < 4 ∧
      blockTexts entry ++ List.flatMap blockTexts after <:+ blocks.flatMap blockTexts ∧
      u :: more = (blockTexts entry).drop k ++ List.flatMap blockTexts after := by
  intro blocks
  induction blocks with
  | nil => intro u more h; exact absurd (List.suffix_nil.mp h) (by simp)
  | cons entry after ih =>
    intro u more h
    obtain ⟨block, separator⟩ := entry
    have hself : (block, separator) ∈ (block, separator) :: after := List.mem_cons_self
    have hwhole : blockTexts (block, separator) ++ List.flatMap blockTexts after <:+
        List.flatMap blockTexts ((block, separator) :: after) := List.suffix_refl _
    rcases List.suffix_cons_iff.mp h with h | h
    · exact ⟨_, hself, after, 0, by omega, hwhole, h⟩
    rcases List.suffix_cons_iff.mp h with h | h
    · exact ⟨_, hself, after, 1, by omega, hwhole, h⟩
    rcases List.suffix_cons_iff.mp h with h | h
    · exact ⟨_, hself, after, 2, by omega, hwhole, h⟩
    rcases List.suffix_cons_iff.mp h with h | h
    · exact ⟨_, hself, after, 3, by omega, hwhole, h⟩
    · obtain ⟨entry, he, later, k, hk, hsuf, heq⟩ := ih h
      exact ⟨entry, List.mem_cons_of_mem _ he, later, k, hk, hsuf.trans (List.suffix_append _ _), heq⟩

theorem blockTexts_length (entry : PemBlock × Separator) (after : List (PemBlock × Separator)) (k : Nat) :
    ((blockTexts entry).drop k ++ List.flatMap blockTexts after).length = 4 * after.length + (4 - k) := by
  have hlen := texts_length entry.2 after
  simp only [texts, List.length_cons] at hlen
  have hentry : (blockTexts entry).length = 4 := rfl
  rw [List.length_append, List.length_drop, hentry]
  omega

/-- Up to its last text, a label holds no text that ends in `PRIVATE KEY`. -/
theorem labelled_first : ∀ {s label rest : List Bytes}, labelled s = some (label, rest) →
    ∃ init y, label = init ++ [y] ∧ keyWord <:+ y ∧ ∀ t ∈ init, ¬ keyWord <:+ t := by
  intro s
  fun_induction labelled s with
  | case1 x u more hx =>
    intro label rest h
    cases h
    exact ⟨[], x, rfl, List.isSuffixOf_iff_suffix.mp hx, by simp⟩
  | case2 x u more hx ih =>
    intro label rest h
    obtain ⟨⟨label', rest'⟩, hl, heq⟩ := Option.map_eq_some_iff.mp h
    cases heq
    obtain ⟨init, y, rfl, hy, hinit⟩ := ih hl
    refine ⟨x :: init, y, rfl, hy, fun t ht => ?_⟩
    rcases List.mem_cons.mp ht with rfl | ht
    · exact fun hk => hx (List.isSuffixOf_iff_suffix.mpr hk)
    · exact hinit t ht
  | case3 s hs => intro label rest h; cases h

/-- The key word does not reach over the end word. -/
theorem keyWord_of_end {label : Bytes} (h : keyWord <:+ endWord ++ label) : keyWord <:+ label := by
  rcases List.suffix_or_suffix_of_suffix h (List.suffix_append endWord label) with hin | hout
  · exact hin
  · obtain ⟨p, hp⟩ := hout
    obtain ⟨q, hq⟩ := h
    rw [← hp, ← List.append_assoc, List.append_left_inj] at hq
    cases p with
    | nil => rw [← hp]; exact List.suffix_refl _
    | cons c p =>
      have hc : c = 80 := by
        rw [show keyWord = 80 :: utf8 "RIVATE KEY" by decide, List.cons_append, List.cons.injEq] at hp
        exact hp.1
      have hmem : (80 : UInt8) ∈ endWord := by
        rw [← hq, hc]
        simp
      exact absurd hmem (by decide)

section Plain

variable {blocks : List (PemBlock × Separator)} (hplain : Plain blocks)

include hplain

theorem begin_line {u : Bytes} {more : List Bytes} (h : u :: more <:+ blocks.flatMap blockTexts)
    (hu : beginWord <+: u) : ∃ entry after, u :: more = blockTexts entry ++ List.flatMap blockTexts after := by
  obtain ⟨⟨block, separator⟩, hentry, after, k, hk, -, heq⟩ := suffix_shape h
  have hp := hplain _ hentry
  obtain rfl | rfl | rfl | rfl : k = 0 ∨ k = 1 ∨ k = 2 ∨ k = 3 := by omega
  · exact ⟨_, after, heq⟩
  · cases heq
    exact absurd hu (hp block.body (by simp)).1
  · cases heq
    exact absurd rfl (begin_ne_end hu)
  · cases heq
    exact absurd hu (hp separator.bytes (by simp)).1

theorem key_line {u : Bytes} {more : List Bytes} (h : u :: more <:+ blocks.flatMap blockTexts)
    (hu : keyWord <:+ u) : ∃ entry after k, (k = 0 ∨ k = 2) ∧
      blockTexts entry ++ List.flatMap blockTexts after <:+ blocks.flatMap blockTexts ∧
      u :: more = (blockTexts entry).drop k ++ List.flatMap blockTexts after := by
  obtain ⟨⟨block, separator⟩, hentry, after, k, hk, hsuf, heq⟩ := suffix_shape h
  have hp := hplain _ hentry
  obtain rfl | rfl | rfl | rfl : k = 0 ∨ k = 1 ∨ k = 2 ∨ k = 3 := by omega
  · exact ⟨_, after, 0, .inl rfl, hsuf, heq⟩
  · cases heq
    exact absurd hu (hp block.body (by simp)).2
  · exact ⟨_, after, 2, .inr rfl, hsuf, heq⟩
  · cases heq
    exact absurd hu (hp separator.bytes (by simp)).2

/-- A label that holds more than its begin line ends at the begin line of a private key. -/
theorem label_ends_at_begin {u y : Bytes} {more init rest : List Bytes}
    (h : u :: more <:+ blocks.flatMap blockTexts) (hu : beginWord <+: u)
    (hmore : more = init ++ (y :: rest)) (hy : keyWord <:+ y)
    (hinit : ∀ t ∈ u.drop 6 :: init, ¬ keyWord <:+ t) : ∃ entry after,
      y :: rest = blockTexts entry ++ List.flatMap blockTexts after := by
  have hsuf : y :: rest <:+ u :: more :=
    List.IsSuffix.trans ⟨init, hmore.symm⟩ (List.suffix_cons _ _)
  obtain ⟨start, later, hstart⟩ := begin_line hplain h hu
  have hlen := congrArg List.length hstart
  have h4 := blockTexts_length start later 0
  rw [List.drop_zero] at h4
  obtain ⟨entry, after, k, hk, hwhole, heq⟩ := key_line hplain (hsuf.trans h) hy
  rcases hk with rfl | rfl
  · exact ⟨entry, after, heq⟩
  · -- an end line: the begin line of the same block stands before it, in the label
    exfalso
    obtain ⟨block, separator⟩ := entry
    have h2 := blockTexts_length (block, separator) after 2
    have h0 := blockTexts_length (block, separator) after 0
    rw [← heq] at h2
    have hrest := congrArg List.length hmore
    simp only [List.length_append, List.length_cons, List.drop_zero] at h2 h0 h4 hlen hrest
    have hyend : y = endWord ++ block.label := (List.cons.inj heq).1
    have hkey : keyWord <:+ block.label := keyWord_of_end (hyend ▸ hy)
    have hin : blockTexts (block, separator) ++ List.flatMap blockTexts after <:+ u :: more := by
      refine suffix_of_length_le hwhole h ?_
      simp only [List.length_append, List.length_cons]
      omega
    rcases List.suffix_cons_iff.mp hin with hsame | hlater
    · have hbegin : u = beginWord ++ block.label := (List.cons.inj hsame).1.symm
      rw [hbegin, drop_begin] at hinit
      exact hinit _ List.mem_cons_self hkey
    · have hmem : beginWord ++ block.label ∈ init := by
        rw [hmore, heq] at hlater
        obtain ⟨front, hfront⟩ := hlater
        have happ : front ++ [beginWord ++ block.label, block.body] ++
            ((blockTexts (block, separator)).drop 2 ++ List.flatMap blockTexts after) =
            init ++ ((blockTexts (block, separator)).drop 2 ++ List.flatMap blockTexts after) := by
          rw [← hfront]
          simp [blockTexts]
        rw [← List.append_cancel_right happ]
        simp
      exact hinit _ (List.mem_cons_of_mem _ hmem) (hkey.trans (List.suffix_append _ _))

theorem closing_mod {u : Bytes} {more label rest past : List Bytes}
    (h : u :: more <:+ blocks.flatMap blockTexts) (hu : beginWord <+: u)
    (hlabel : labelled (u.drop 6 :: more) = some (label, rest))
    (hclose : closing (endTexts label) rest = some past) : past.length % 4 = 1 := by
  have hrest : rest <:+ blocks.flatMap blockTexts :=
    ((labelled_suffix hlabel).trans (List.suffix_cons _ _)).trans h
  obtain ⟨happ, hlne, -⟩ := labelled_append hlabel
  obtain ⟨init, y, rfl, hy, hinit⟩ := labelled_first hlabel
  obtain ⟨-, before, -, hsplit⟩ := closing_append hclose
  cases init with
  | nil =>
    -- the label is the one of the begin line, and ends the same end line
    have hend : (endWord ++ y) :: past <:+ rest := ⟨before, by rw [hsplit]; simp [endTexts]⟩
    obtain ⟨entry, after, k, hk, -, heq⟩ :=
      key_line hplain (hend.trans hrest) (hy.trans (List.suffix_append _ _))
    rcases hk with rfl | rfl
    · exact absurd (List.cons.inj heq).1.symm (begin_ne_end (List.prefix_append _ _))
    · have hlen := congrArg List.length heq
      rw [blockTexts_length entry after, List.length_cons] at hlen
      omega
  | cons x init =>
    -- the label ends at a begin line, so its end marker cannot start at an end line
    exfalso
    obtain ⟨rfl, hmore⟩ := List.cons.inj happ
    replace hmore : more = init ++ (y :: rest) := by simpa using hmore
    obtain ⟨start, later, hstart⟩ := begin_line hplain h hu
    obtain ⟨entry, after, hkey⟩ := label_ends_at_begin hplain h hu hmore hy hinit
    have hbegin : beginWord <+: y := by
      rw [(List.cons.inj hkey).1]
      exact List.prefix_append _ _
    have hmarker : (endWord ++ u.drop 6) :: (init ++ y :: past) <:+ rest :=
      ⟨before, by rw [hsplit]; simp [endTexts]⟩
    have hylast : y :: past <:+ rest :=
      List.IsSuffix.trans ⟨(endWord ++ u.drop 6) :: init, by simp⟩ hmarker
    obtain ⟨last, final, hlast⟩ := begin_line hplain (hylast.trans hrest) hbegin
    obtain ⟨⟨block, separator⟩, -, tail, k, hk, -, hfirst⟩ := suffix_shape (hmarker.trans hrest)
    have h₁ := congrArg List.length hstart
    have h₂ := congrArg List.length hkey
    have h₃ := congrArg List.length hlast
    have h₄ := congrArg List.length hfirst
    have h₅ := congrArg List.length hmore
    have e₁ := blockTexts_length start later 0
    have e₂ := blockTexts_length entry after 0
    have e₃ := blockTexts_length last final 0
    have e₄ := blockTexts_length (block, separator) tail k
    rw [List.drop_zero] at e₁ e₂ e₃
    rw [e₁] at h₁
    rw [e₂] at h₂
    rw [e₃] at h₃
    rw [e₄] at h₄
    simp only [List.length_cons, List.length_append] at h₁ h₂ h₃ h₄ h₅
    obtain rfl : k = 0 := by omega
    exact absurd (List.cons.inj hfirst).1.symm (begin_ne_end (List.prefix_append _ _))

theorem regions_mod : ∀ {s : List Bytes}, s.tail <:+ blocks.flatMap blockTexts →
    ∀ region ∈ regions s, region.2.length % 4 = 1 := by
  intro s
  fun_induction regions s with
  | case1 s hopen => intro _ region h; cases h
  | case2 s hopen => intro _ region h; cases h
  | case3 s u more hopen hlabel => intro _ region h; cases h
  | case4 s u more hopen label rest hlabel past hclose ih =>
    intro hsuf region h
    obtain ⟨hs, hlt, v, tail, heq, hu⟩ := opening_suffix hopen
    cases heq
    have hin : u :: more <:+ blocks.flatMap blockTexts := by
      refine List.IsSuffix.trans (suffix_of_length_le hs (List.tail_suffix s) ?_) hsuf
      rw [List.length_tail]
      omega
    rcases List.mem_cons.mp h with rfl | h
    · exact closing_mod hplain hin hu hlabel hclose
    · have hpast : past <:+ u :: more :=
        ((closing_suffix hclose).2.1.trans (labelled_suffix hlabel)).trans (List.suffix_cons _ _)
      exact ih ((List.tail_suffix past).trans (hpast.trans hin)) region h
  | case5 s u more hopen label rest hlabel hclose ih =>
    intro hsuf region h
    obtain ⟨hs, hlt, -⟩ := opening_suffix hopen
    have hin : u :: more <:+ blocks.flatMap blockTexts := by
      refine List.IsSuffix.trans (suffix_of_length_le hs (List.tail_suffix s) ?_) hsuf
      rw [List.length_tail]
      omega
    exact ih ((List.suffix_cons u more).trans hin) region h

/-- **Without such texts no key is missed**, whatever the labels are. -/
theorem undivided_of_plain (lead : Separator) : Undivided lead blocks := by
  intro before block separator after hblocks hkey region hregion k hk heq
  have hmod := regions_mod hplain (s := texts lead blocks) (List.suffix_refl _) region hregion
  rw [heq, blockTexts_length] at hmod
  omega

end Plain

/-! ## Exactly when every private key is covered -/

/-- **Exactly when every private key of a bundle is covered**: no region ends inside one. -/
theorem protect_covers_keys (M : HmacSha256) (key : DeviceKey) (lead : Separator)
    (blocks : List (PemBlock × Separator)) (hlen : (bundle lead blocks).length < 2 ^ 64) :
    ∃ payload, protect M (bundle lead blocks) key = .ok payload ∧
      (KeysCovered lead blocks payload ↔ Undivided lead blocks) := by
  obtain ⟨payload, hok, hspans, -⟩ := protect_ok M (bundle lead blocks) key hlen
  exact ⟨payload, hok, keysCovered_iff hspans⟩

def plainBlocks : List (PemBlock × Separator) :=
  [ (⟨utf8 "CERTIFICATE", utf8 "MIIC", by decide, by decide⟩, ⟨utf8 "\n", by decide⟩),
    (⟨utf8 "PRIVATE KEY", utf8 "MIIB", by decide, by decide⟩, ⟨[], by decide⟩) ]

def plainMac : HmacSha256 := constantMac
  ⟨[0x50, 0x0b, 0xa7, 0xcf, 0x60, 0xdc, 0x1f, 0xdd, 0xb7, 0xe1, 0xe0, 0xdb, 0xb3, 0x1d, 0xcd, 0x17,
    0x75, 0xe4, 0xf5, 0x36, 0x3f, 0x6a, 0xae, 0xd6, 0x25, 0x62, 0xbf, 0x3d, 0xde, 0xce, 0x8a, 0xce], rfl⟩

theorem protect_covers_plain_keys : ∃ payload,
    protect plainMac (bundle sampleLead plainBlocks) sampleKey = .ok payload ∧
      KeysCovered sampleLead plainBlocks payload := by
  obtain ⟨payload, hok, hiff⟩ := protect_covers_keys plainMac sampleKey sampleLead plainBlocks (by decide +kernel)
  refine ⟨payload, hok, hiff.mpr (undivided_of_plain ?_ sampleLead)⟩
  unfold Plain
  decide +kernel

end EverTrace.Bugs.PemBundle
