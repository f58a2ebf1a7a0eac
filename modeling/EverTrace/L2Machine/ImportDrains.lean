import EverTrace.L1Encoding.CanonicalParse
import EverTrace.L2Machine.ImportPrefix
/-!
# Prefix digests over restarted drains

The records of an imported file may be presented in many ways: the two sides of
the fence interleave, drains end anywhere, and a later drain sees records again
that an earlier one committed. What the store holds afterwards depends only on
how far each side got (`drains_agree`).

A drain knows three things: the watermark of the moment it began, the records it
added itself, and, once it needs them, the chained receipts of that moment. The
invariant says that these three split the records committed so far, whatever
the drain was given.
-/
namespace EverTrace.L2.Ingest
open EverTrace.Lib EverTrace.L1 EverTrace.L1.Canonical EverTrace.L2.SessionImport

/-! ## The records of a source revision -/

def VerifiedCapture.range (c : VerifiedCapture) : EvidenceByteRange := c.receipt.sourceByteRange.getD ⟨0, 0⟩

/-- Records that follow each other from a byte on. -/
def Contiguous : Nat → List VerifiedCapture → Prop
  | _, [] => True
  | start, c :: rest =>
    c.receipt.sourceByteRange = some c.range ∧ c.range.start = start ∧ start < c.range.finish ∧
      c.receipt.sourceSequence = c.range.finish ∧ Contiguous c.range.finish rest

def endOf (start : Nat) (records : List VerifiedCapture) : Nat := records.foldl (fun _ c => c.range.finish) start

/-- The records on each side of the fence. A text is shorter than the address space. -/
structure Records (source revision : String) (fence : Option Nat) where
  earlier : List VerifiedCapture
  main : List VerifiedCapture
  earlier_contiguous : Contiguous 0 earlier
  main_contiguous : Contiguous (fence.getD 0) main
  earlier_fence : ∀ c ∈ earlier, ∃ f, fence = some f ∧ c.range.finish ≤ f
  ofSource : ∀ c ∈ earlier ++ main, c.receipt.sourceInstanceId = source ∧ c.receipt.sourceRevision = revision
  ids : ((earlier ++ main).map VerifiedCapture.commandId).Nodup
  texts : (utf8 source).length < 2 ^ 64 ∧ (utf8 revision).length < 2 ^ 64 ∧
    ∀ c ∈ earlier ++ main, (utf8 c.receipt.casRef).length < 2 ^ 64

section contiguous

variable {start : Nat} {xs ys : List VerifiedCapture} {c : VerifiedCapture}

@[simp] theorem endOf_nil : endOf start [] = start := rfl

@[simp] theorem endOf_cons : endOf start (c :: xs) = endOf c.range.finish xs := rfl

@[simp] theorem endOf_append : endOf start (xs ++ ys) = endOf (endOf start xs) ys := by
  simp [endOf, List.foldl_append]

theorem contiguous_append : ∀ {start : Nat} {xs : List VerifiedCapture},
    Contiguous start (xs ++ ys) ↔ Contiguous start xs ∧ Contiguous (endOf start xs) ys
  | start, [] => by simp [Contiguous]
  | start, c :: xs => by
    simp only [List.cons_append, Contiguous, endOf_cons, contiguous_append, and_assoc]

theorem Contiguous.le_endOf : ∀ {start : Nat} {xs : List VerifiedCapture}, Contiguous start xs → start ≤ endOf start xs
  | _, [], _ => Nat.le_refl _
  | _, _ :: _, ⟨_, _, hlt, _, hrest⟩ => Nat.le_trans (Nat.le_of_lt hlt) hrest.le_endOf

theorem Contiguous.mem : ∀ {start : Nat} {xs : List VerifiedCapture}, Contiguous start xs → c ∈ xs →
    c.receipt.sourceByteRange = some c.range ∧ c.receipt.sourceSequence = c.range.finish ∧
      start ≤ c.range.start ∧ c.range.start < c.range.finish ∧ c.range.finish ≤ endOf start xs := by
  intro start xs
  induction xs generalizing start with
  | nil => simp
  | cons x xs ih =>
    rintro ⟨hrange, hstart, hlt, hseq, hrest⟩ hmem
    rcases List.mem_cons.mp hmem with rfl | hmem
    · refine ⟨hrange, hseq, by omega, by omega, ?_⟩
      rw [endOf_cons]
      exact hrest.le_endOf
    · obtain ⟨h₀, h₁, h₂, h₃, h₄⟩ := ih hrest hmem
      refine ⟨h₀, h₁, by omega, h₃, ?_⟩
      rw [endOf_cons]
      exact h₄

theorem Contiguous.pairwise : ∀ {start : Nat} {xs : List VerifiedCapture}, Contiguous start xs →
    xs.Pairwise fun a b => a.range.finish < b.range.finish
  | _, [], _ => .nil
  | _, x :: xs, ⟨_, _, _, _, hrest⟩ => by
    refine .cons (fun b hb => ?_) hrest.pairwise
    obtain ⟨-, -, h₁, h₂, -⟩ := hrest.mem hb
    omega

/-- The records of a front of the list are those that end before its end. -/
theorem Contiguous.mem_front (h : Contiguous start (xs ++ ys)) (hc : c ∈ xs ++ ys) :
    c ∈ xs ↔ c.range.finish ≤ endOf start xs := by
  obtain ⟨hxs, hys⟩ := contiguous_append.mp h
  constructor
  · intro hmem
    exact (hxs.mem hmem).2.2.2.2
  · intro hle
    rcases List.mem_append.mp hc with hmem | hmem
    · exact hmem
    · obtain ⟨-, -, h₁, h₂, -⟩ := hys.mem hmem
      omega

theorem Contiguous.start_eq (h : Contiguous start ys) (hfront : xs ++ [c] <+: ys) : c.range.start = endOf start xs := by
  obtain ⟨rest, hrest⟩ := hfront
  rw [← hrest] at h
  exact (contiguous_append.mp (contiguous_append.mp h).1).2.2.1

end contiguous

/-! ## Digests -/

/-- The digest of a record behind a chain. -/
def nextDigest (H : Sha256) (source revision : String) (previous : Option String) (c : VerifiedCapture) : String :=
  ((confirmedPrefixDigest H source revision c.range previous c.receipt.casRef).toOption).getD ""

def digestOf (H : Sha256) (source revision : String) (records : List VerifiedCapture) : Option String :=
  records.foldl (fun previous c => some (nextDigest H source revision previous c)) none

variable {H : Sha256} {source revision : String} {fence : Option Nat}

@[simp] theorem digestOf_nil : digestOf H source revision [] = none := rfl

theorem digestOf_concat (xs : List VerifiedCapture) (c : VerifiedCapture) : digestOf H source revision (xs ++ [c]) =
    some (nextDigest H source revision (digestOf H source revision xs) c) := by
  simp [digestOf, List.foldl_append]

theorem digestOf_isSome {xs : List VerifiedCapture} : (digestOf H source revision xs).isSome = !xs.isEmpty := by
  rcases List.eq_nil_or_concat xs with rfl | ⟨ys, c, rfl⟩
  · rfl
  · rw [List.concat_eq_append, digestOf_concat]
    simp

theorem encodeItems_ok : ∀ {items : List CanonicalValue}, (∀ item ∈ items, ∃ b, encodeValue item = .ok b) →
    ∃ b, encodeItems items = .ok b
  | [], _ => ⟨[], rfl⟩
  | item :: items, h => by
    obtain ⟨head, hhead⟩ := h item (List.mem_cons_self ..)
    obtain ⟨rest, hrest⟩ := encodeItems_ok fun i hi => h i (List.mem_cons_of_mem _ hi)
    exact ⟨head ++ rest, by simp [encodeItems, hhead, hrest, bind, Except.bind, pure, Except.pure]⟩

theorem encodeString_ok {text : String} (h : (utf8 text).length < 2 ^ 64) : ∃ b, encodeValue (.string text) = .ok b := by
  rw [encodeValue, pushLen_ok.mpr ⟨h, rfl⟩]
  exact ⟨_, rfl⟩

/-- A digest is 64 characters, so that it can be chained again. -/
theorem confirmedPrefixDigest_ok (H : Sha256) (range : EvidenceByteRange) {previous : Option String} {casRef : String}
    (hsource : (utf8 source).length < 2 ^ 64) (hrevision : (utf8 revision).length < 2 ^ 64)
    (hcas : (utf8 casRef).length < 2 ^ 64) (hprevious : ∀ text, previous = some text → text.length = 64) :
    ∃ digest, confirmedPrefixDigest H source revision range previous casRef = .ok digest ∧ digest.length = 64 := by
  have hsha : ∀ value, (∃ b, encodeValue value = .ok b) → ∃ digest, sha256 H "session_import_confirmed_prefix" 1
      (.sequence [.string source, .string revision, .integer (BitVec.ofNat 128 range.start),
        .integer (BitVec.ofNat 128 range.finish), value, .string casRef]) = .ok digest := by
    intro value hvalue
    have hitems : ∃ b, encodeItems [.string source, .string revision, .integer (BitVec.ofNat 128 range.start),
        .integer (BitVec.ofNat 128 range.finish), value, .string casRef] = .ok b := by
      apply encodeItems_ok
      intro item hitem
      simp only [List.mem_cons, List.not_mem_nil, or_false] at hitem
      rcases hitem with rfl | rfl | rfl | rfl | rfl | rfl
      · exact encodeString_ok hsource
      · exact encodeString_ok hrevision
      · exact ⟨_, rfl⟩
      · exact ⟨_, rfl⟩
      · exact hvalue
      · exact encodeString_ok hcas
    obtain ⟨body, hbody⟩ := hitems
    have hne : decide (utf8 "session_import_confirmed_prefix" ≠ []) = true := by decide
    have htag : (utf8 "session_import_confirmed_prefix").length < 2 ^ 64 := by decide
    rw [sha256, encode, hne, pushLen_ok.mpr ⟨htag, rfl⟩, encodeValue, pushLen_ok.mpr ⟨by simp, rfl⟩, hbody]
    exact ⟨_, rfl⟩
  have hok : ∀ digest : Digest, (String.ofList (hexBytes digest.bytes)).length = 64 := by
    intro digest
    rw [String.length_ofList, length_hexBytes, Digest.length_eq]
  unfold confirmedPrefixDigest
  cases previous with
  | none =>
    obtain ⟨digest, hdigest⟩ := hsha .null ⟨_, rfl⟩
    dsimp only
    rw [hdigest]
    exact ⟨_, rfl, hok digest⟩
  | some text =>
    have hbytes := length_utf8_le text
    have hlength := hprevious text rfl
    obtain ⟨digest, hdigest⟩ := hsha (.string text) (encodeString_ok (by omega))
    dsimp only
    rw [hdigest]
    exact ⟨_, rfl, hok digest⟩

section records

variable (R : Records source revision fence)

/-- All records, those of the earlier prefix first. -/
def Records.all : List VerifiedCapture := R.earlier ++ R.main

variable {R} {p m : List VerifiedCapture} {c : VerifiedCapture}

theorem Records.mem_all_of_earlier (hp : p <+: R.earlier) (hc : c ∈ p) : c ∈ R.all :=
  List.mem_append_left _ (hp.subset hc)

theorem Records.mem_all_of_main (hm : m <+: R.main) (hc : c ∈ m) : c ∈ R.all :=
  List.mem_append_right _ (hm.subset hc)

theorem Records.mem_all (hp : p <+: R.earlier) (hm : m <+: R.main) (hc : c ∈ p ++ m) : c ∈ R.all := by
  rcases List.mem_append.mp hc with hc | hc
  · exact R.mem_all_of_earlier hp hc
  · exact R.mem_all_of_main hm hc

theorem Records.pairwise (R : Records source revision fence) :
    R.all.Pairwise fun a b => a.range.finish < b.range.finish := by
  refine List.pairwise_append.mpr ⟨R.earlier_contiguous.pairwise, R.main_contiguous.pairwise, fun a ha b hb => ?_⟩
  obtain ⟨f, hf, hle⟩ := R.earlier_fence a ha
  obtain ⟨-, -, hstart, hlt, -⟩ := R.main_contiguous.mem hb
  rw [hf, Option.getD_some] at hstart
  omega

theorem Records.eq_of_finish {a b : VerifiedCapture} (ha : a ∈ R.all) (hb : b ∈ R.all)
    (h : a.range.finish = b.range.finish) : a = b := by
  have hdistinct : (R.all.map fun a => a.range.finish).Nodup := List.pairwise_map.mpr (R.pairwise.imp Nat.ne_of_lt)
  exact List.inj_on_of_nodup_map hdistinct ha hb h

theorem Records.nodup (R : Records source revision fence) : R.all.Nodup := List.Nodup.of_map _ R.ids

theorem Records.eq_of_commandId {a b : VerifiedCapture} (ha : a ∈ R.all) (hb : b ∈ R.all)
    (h : a.commandId = b.commandId) : a = b := List.inj_on_of_nodup_map R.ids ha hb h

theorem Records.digestOf_length (R : Records source revision fence) {xs : List VerifiedCapture} :
    (∀ x ∈ xs, x ∈ R.all) → ∀ text, digestOf H source revision xs = some text → text.length = 64 := by
  induction xs using List.reverseRecOn with
  | nil => simp
  | append_singleton xs c ih =>
    intro hxs text htext
    obtain ⟨digest, hdigest, hlength⟩ := confirmedPrefixDigest_ok H c.range R.texts.1 R.texts.2.1
      (R.texts.2.2 c (hxs c (by simp))) (ih fun x hx => hxs x (by simp [hx]))
    rw [digestOf_concat, nextDigest, hdigest] at htext
    cases htext
    exact hlength

/-- A record can be chained behind others. -/
theorem Records.digest_ok {xs : List VerifiedCapture} (hxs : ∀ x ∈ xs, x ∈ R.all) (hc : c ∈ R.all) :
    confirmedPrefixDigest H source revision c.range (digestOf H source revision xs) c.receipt.casRef =
      .ok (nextDigest H source revision (digestOf H source revision xs) c) := by
  obtain ⟨digest, hdigest, -⟩ := confirmedPrefixDigest_ok H c.range R.texts.1 R.texts.2.1
    (R.texts.2.2 c hc) (R.digestOf_length hxs)
  rw [nextDigest, hdigest]
  rfl

/-! ## The watermark -/

/-- The watermark of the records that were committed. -/
def watermarkOf (H : Sha256) (source revision : String) (fence : Option Nat) (p m : List VerifiedCapture) :
    SourceIngestWatermark where
  sourceInstanceId := source
  sourceRevision := revision
  sourceSequence := endOf (fence.getD 0) m
  confirmedPrefixDigest := digestOf H source revision m
  earlierPrefix := fence.map fun f => ⟨f, endOf 0 p, digestOf H source revision p⟩

def mark (H : Sha256) (source revision : String) (fence : Option Nat) (p m : List VerifiedCapture) :
    Option SourceIngestWatermark :=
  if p ++ m = [] then none else some (watermarkOf H source revision fence p m)

/-- The chain ends after these records. -/
structure EndsAt (H : Sha256) (R : Records source revision fence) (p m : List VerifiedCapture)
    (state : ConfirmedPrefixState) : Prop where
  originFence : state.originFence = fence
  localEnd : state.localEnd = endOf (fence.getD 0) m
  localDigest : state.localDigest = digestOf H source revision m
  prefixEnd : state.prefixEnd = endOf 0 p
  prefixDigest : state.prefixDigest = digestOf H source revision p

theorem Records.earlier_nil (R : Records source revision fence) (hfence : fence = none) (hp : p <+: R.earlier) :
    p = [] := by
  rw [List.eq_nil_iff_forall_not_mem]
  intro c hc
  obtain ⟨f, hf, -⟩ := R.earlier_fence c (hp.subset hc)
  rw [hfence] at hf
  cases hf

theorem Records.main_end (hm : m <+: R.main) (hne : m ≠ []) : fence.getD 0 < endOf (fence.getD 0) m := by
  obtain ⟨c, hc⟩ := List.exists_mem_of_ne_nil m hne
  obtain ⟨rest, hrest⟩ := hm
  have hcontiguous := R.main_contiguous
  rw [← hrest] at hcontiguous
  obtain ⟨-, -, h₁, h₂, h₃⟩ := (contiguous_append.mp hcontiguous).1.mem hc
  omega

/-- A drain that starts has the ends of the committed records. -/
theorem projected_endsAt {store : Store} (hp : p <+: R.earlier) (hm : m <+: R.main)
    (hstore : store.watermark source revision = mark H source revision fence p m) :
    ∃ state, projectedConfirmedPrefix store source revision fence = .ok state ∧ EndsAt H R p m state ∧
      state.committedWatermark = mark H source revision fence p m ∧ state.exact_ = none ∧ state.localExact = .empty := by
  unfold projectedConfirmedPrefix
  rw [hstore]
  by_cases hnil : p ++ m = []
  · obtain ⟨rfl, rfl⟩ := List.append_eq_nil_iff.mp hnil
    exact ⟨_, rfl, ⟨rfl, rfl, rfl, rfl, rfl⟩, rfl, rfl, rfl⟩
  · rw [mark, if_neg hnil]
    have hpersisted : persistedFence (watermarkOf H source revision fence p m) fence = .ok fence := by
      cases fence <;> simp [persistedFence, watermarkOf]
    have hends : chainEnds (watermarkOf H source revision fence p m) fence =
        .ok (endOf (fence.getD 0) m, digestOf H source revision m, endOf 0 p, digestOf H source revision p) := by
      cases hf : fence with
      | none =>
        obtain rfl := R.earlier_nil hf hp
        have hsome : (digestOf H source revision m).isSome = true := by
          rw [digestOf_isSome]
          simpa using hnil
        simp [chainEnds, watermarkOf, hsome, ensure, bind, Except.bind, pure, Except.pure]
      | some f =>
        have hearlier : (watermarkOf H source revision (some f) p m).earlierPrefix.filter
            (fun earlier => earlier.fenceByte == f) = some ⟨f, endOf 0 p, digestOf H source revision p⟩ := by
          rw [watermarkOf, Option.map_some, Option.filter_some_pos (by simp)]
        have hdigest : (watermarkOf H source revision (some f) p m).confirmedPrefixDigest.isSome = !m.isEmpty :=
          digestOf_isSome
        rw [chainEnds, hearlier, hdigest]
        by_cases hmain : m = []
        · subst hmain
          simp [watermarkOf, okOr, ensure, bind, Except.bind, pure, Except.pure]
        · have hlt := R.main_end hm hmain
          rw [hf, Option.getD_some] at hlt
          simp [hmain, hlt, watermarkOf, okOr, ensure, bind, Except.bind, pure, Except.pure]
    refine ⟨⟨fence, some (watermarkOf H source revision fence p m), none, .empty, endOf (fence.getD 0) m,
      digestOf H source revision m, endOf 0 p, digestOf H source revision p⟩, ?_, ⟨rfl, rfl, rfl, rfl, rfl⟩, rfl, rfl, rfl⟩
    simp [watermarkOf, ensure, bind, Except.bind, pure, Except.pure] at hpersisted hends ⊢
    simp [hpersisted, hends]

/-! ## The records a drain has found -/

/-- The records of a map by their ends. -/
structure Exact (found : OrdMap Nat ProjectedExactPrefix) (xs : List VerifiedCapture) : Prop where
  mem : ∀ c ∈ xs, ∃ digest, found.get c.range.finish = some ⟨c.range.start, c.range.finish, c.receipt.casRef, digest⟩
  of_get : ∀ k entry, found.get k = some entry → ∃ c ∈ xs, k = c.range.finish

theorem Exact.empty : Exact .empty [] := ⟨by simp, by simp⟩

theorem Exact.insert {found : OrdMap Nat ProjectedExactPrefix} {xs : List VerifiedCapture} (h : Exact found xs)
    (hnew : ∀ x ∈ xs, x.range.finish ≠ c.range.finish) (digest : String) :
    Exact (found.insert c.range.finish ⟨c.range.start, c.range.finish, c.receipt.casRef, digest⟩) (xs ++ [c]) := by
  refine ⟨fun x hx => ?_, fun k entry hk => ?_⟩
  · rcases List.mem_append.mp hx with hx | hx
    · obtain ⟨d, hd⟩ := h.mem x hx
      exact ⟨d, by rw [OrdMap.get_insert_of_ne _ _ (hnew x hx), hd]⟩
    · obtain rfl := List.mem_singleton.mp hx
      exact ⟨digest, OrdMap.get_insert_self ..⟩
  · rw [OrdMap.get_insert] at hk
    split at hk
    · next heq => exact ⟨c, by simp, heq⟩
    · obtain ⟨x, hx, hxk⟩ := h.of_get k entry hk
      exact ⟨x, List.mem_append_left _ hx, hxk⟩

theorem Exact.get_none {found : OrdMap Nat ProjectedExactPrefix} {xs : List VerifiedCapture} (h : Exact found xs)
    (hxs : ∀ x ∈ xs, x ∈ R.all) (hc : c ∈ R.all) (hnew : c ∉ xs) : found.get c.range.finish = none := by
  cases hget : found.get c.range.finish with
  | none => rfl
  | some entry =>
    obtain ⟨x, hx, hfinish⟩ := h.of_get _ _ hget
    rw [R.eq_of_finish hc (hxs x hx) hfinish] at hnew
    exact absurd hx hnew

/-! ## Chaining the stored receipts -/

def entryOf (c : VerifiedCapture) : EvidenceByteRange × String := (c.range, c.receipt.casRef)

theorem Records.finish_ne (hall : (p ++ [c]).Sublist R.all) : ∀ x ∈ p, x.range.finish ≠ c.range.finish := by
  intro x hx
  have hpairwise := R.pairwise.sublist hall
  exact Nat.ne_of_lt ((List.pairwise_append.mp hpairwise).2.2 x hx c (by simp))

/-- The earlier prefix is chained. -/
theorem chain_earlier (start : Nat) (w : SourceIngestWatermark) : ∀ {p : List VerifiedCapture}, p <+: R.earlier →
    ∃ found, (p.map entryOf).foldlM (chainReceipt H source revision fence w) ⟨0, none, start, none, .empty⟩ =
      .ok ⟨endOf 0 p, digestOf H source revision p, start, none, found⟩ ∧ Exact found p := by
  intro p
  induction p using List.reverseRecOn with
  | nil => exact fun _ => ⟨.empty, rfl, .empty⟩
  | append_singleton p c ih =>
    intro hp
    have hfront : p <+: R.earlier := (List.prefix_append p [c]).trans hp
    obtain ⟨found, hfold, hexact⟩ := ih hfront
    have hc : c ∈ R.earlier := hp.subset (by simp)
    obtain ⟨f, hf, hle⟩ := R.earlier_fence c hc
    have hstart := R.earlier_contiguous.start_eq hp
    have hdigest : confirmedPrefixDigest H source revision c.range (digestOf H source revision p) c.receipt.casRef =
        .ok (nextDigest H source revision (digestOf H source revision p) c) :=
      R.digest_ok (fun x hx => R.mem_all_of_earlier hfront hx) (List.mem_append_left _ hc)
    have hne := R.finish_ne (hp.sublist.trans (List.sublist_append_left ..))
    have hnone : found.get c.range.finish = none := by
      refine hexact.get_none (R := R) (fun x hx => R.mem_all_of_earlier hfront hx) (List.mem_append_left _ hc) ?_
      intro hmem
      exact hne c hmem rfl
    refine ⟨_, ?_, hexact.insert hne (nextDigest H source revision (digestOf H source revision p) c)⟩
    rw [List.map_append, List.foldlM_append, hfold]
    simp [chainReceipt, hf, entryOf, hle, ExactChains.onPrefix, hstart, hdigest, insertExact, hnone, digestOf_concat,
      ensure, bind, Except.bind, pure, Except.pure]

/-- The main chain behind it. -/
theorem chain_main (hp : p <+: R.earlier) (w : SourceIngestWatermark) : ∀ {m : List VerifiedCapture}, m <+: R.main →
    endOf (fence.getD 0) m ≤ w.sourceSequence →
    ∃ found, ((p ++ m).map entryOf).foldlM (chainReceipt H source revision fence w)
        ⟨0, none, fence.getD 0, none, .empty⟩ =
      .ok ⟨endOf 0 p, digestOf H source revision p, endOf (fence.getD 0) m, digestOf H source revision m, found⟩ ∧
      Exact found (p ++ m) := by
  intro m
  induction m using List.reverseRecOn with
  | nil =>
    intro _ _
    obtain ⟨found, hfold, hexact⟩ := chain_earlier (H := H) (fence.getD 0) w hp
    exact ⟨found, by simpa using hfold, by simpa using hexact⟩
  | append_singleton m c ih =>
    intro hm hend
    have hfront : m <+: R.main := (List.prefix_append m [c]).trans hm
    have hc : c ∈ R.main := hm.subset (by simp)
    obtain ⟨-, -, hbehind, hlt, -⟩ := R.main_contiguous.mem hc
    have hstart := R.main_contiguous.start_eq hm
    have hend' : c.range.finish ≤ w.sourceSequence := by simpa using hend
    obtain ⟨found, hfold, hexact⟩ := ih hfront (by omega)
    have hdigest : confirmedPrefixDigest H source revision c.range (digestOf H source revision m) c.receipt.casRef =
        .ok (nextDigest H source revision (digestOf H source revision m) c) :=
      R.digest_ok (fun x hx => R.mem_all_of_main hfront hx) (List.mem_append_right _ hc)
    have hne := R.finish_ne (p := p ++ m) (c := c)
      (by rw [List.append_assoc]; exact hp.sublist.append hm.sublist)
    have hnone : found.get c.range.finish = none := by
      refine hexact.get_none (R := R) (fun x hx => R.mem_all hp hfront hx) (List.mem_append_right _ hc) ?_
      intro hmem
      exact hne c hmem rfl
    refine ⟨_, ?_, by
      rw [← List.append_assoc]
      exact hexact.insert hne (nextDigest H source revision (digestOf H source revision m) c)⟩
    rw [← List.append_assoc, List.map_append, List.foldlM_append, hfold]
    have hmain : chainReceipt H source revision fence w
        ⟨endOf 0 p, digestOf H source revision p, endOf (fence.getD 0) m, digestOf H source revision m, found⟩
        (entryOf c) = ExactChains.onMain H source revision
        ⟨endOf 0 p, digestOf H source revision p, endOf (fence.getD 0) m, digestOf H source revision m, found⟩
        c.range c.receipt.casRef := by
      cases hf : fence with
      | none => simp [chainReceipt, entryOf, hend']
      | some f =>
        rw [hf, Option.getD_some] at hbehind
        simp [chainReceipt, entryOf, show ¬ c.range.finish ≤ f by omega, hbehind]
    simp [hmain, ExactChains.onMain, hstart, hdigest, insertExact, hnone, digestOf_concat, ensure, bind, Except.bind,
      pure, Except.pure]

/-- The chains of the committed records end where their watermark says. -/
theorem checkChains_ok (p m : List VerifiedCapture) (found : OrdMap Nat ProjectedExactPrefix) :
    checkChains fence (watermarkOf H source revision fence p m) ⟨endOf 0 p, digestOf H source revision p,
      endOf (fence.getD 0) m, digestOf H source revision m, found⟩ = .ok () := by
  cases fence with
  | none => simp [checkChains, watermarkOf, ensure]
  | some f =>
    have hearlier : (watermarkOf H source revision (some f) p m).earlierPrefix.filter
        (fun earlier => earlier.fenceByte == f) = some ⟨f, endOf 0 p, digestOf H source revision p⟩ := by
      rw [watermarkOf, Option.map_some, Option.filter_some_pos (by simp)]
    have hend : endOf f m = if (digestOf H source revision m).isSome then endOf f m else f := by
      rw [digestOf_isSome]
      cases m <;> simp
    rw [checkChains, hearlier]
    simp [watermarkOf, okOr, ensure, bind, Except.bind]
    exact hend

/-- The order of the receipts does not matter, and they end where the watermark says. -/
theorem exactPrefixes_ok {store : Store} (hp : p <+: R.earlier) (hm : m <+: R.main) (hne : p ++ m ≠ [])
    (hreceipts : (store.receipts.filter fun receipt => receipt.sourceInstanceId == source
      && receipt.sourceRevision == revision).Perm ((p ++ m).map VerifiedCapture.receipt)) :
    ∃ found, projectedExactPrefixes H store source revision fence (watermarkOf H source revision fence p m) =
      .ok found ∧ Exact found (p ++ m) := by
  obtain ⟨found, hfold, hexact⟩ := chain_main (H := H) hp (watermarkOf H source revision fence p m) hm (Nat.le_refl _)
  have hsub : (p ++ m).Sublist R.all := hp.sublist.append hm.sublist
  -- every stored receipt is one of a record
  have hranges : (store.receipts.filter fun receipt => receipt.sourceInstanceId == source
      && receipt.sourceRevision == revision).mapM receiptRange =
      .ok ((store.receipts.filter fun receipt => receipt.sourceInstanceId == source
        && receipt.sourceRevision == revision).map
          fun receipt => (receipt.sourceByteRange.getD ⟨0, 0⟩, receipt.casRef)) := by
    refine mapM_ok_of_forall fun receipt hreceipt => ?_
    obtain ⟨c, hc, rfl⟩ := List.mem_map.mp (hreceipts.mem_iff.mp hreceipt)
    have hrecord : c.receipt.sourceByteRange = some c.range ∧ c.receipt.sourceSequence = c.range.finish ∧
        c.range.start < c.range.finish := by
      rcases List.mem_append.mp (hsub.subset hc) with hc | hc
      · obtain ⟨h₁, h₂, -, h₃, -⟩ := R.earlier_contiguous.mem hc
        exact ⟨h₁, h₂, h₃⟩
      · obtain ⟨h₁, h₂, -, h₃, -⟩ := R.main_contiguous.mem hc
        exact ⟨h₁, h₂, h₃⟩
    obtain ⟨hrange, hseq, hlt⟩ := hrecord
    simp [receiptRange, hrange, hseq, hlt, okOr, ensure, bind, Except.bind, pure, Except.pure]
  have hperm : ((store.receipts.filter fun receipt => receipt.sourceInstanceId == source
      && receipt.sourceRevision == revision).map
        fun receipt => (receipt.sourceByteRange.getD ⟨0, 0⟩, receipt.casRef)).Perm ((p ++ m).map entryOf) := by
    have hmap := hreceipts.map fun receipt => (receipt.sourceByteRange.getD ⟨0, 0⟩, receipt.casRef)
    rw [List.map_map] at hmap
    exact hmap
  generalize ((store.receipts.filter fun receipt => receipt.sourceInstanceId == source
      && receipt.sourceRevision == revision).map
        fun receipt => (receipt.sourceByteRange.getD ⟨0, 0⟩, receipt.casRef)) = ranges at hranges hperm
  -- sorted by their ends they are in the order of the file
  have hsorted : sortByKey (fun entry : EvidenceByteRange × String =>
      (toLex (entry.1.finish, entry.1.start) : Nat ×ₗ Nat)) ranges = (p ++ m).map entryOf := by
    have hlt : ((p ++ m).map entryOf).Pairwise fun a b => a.1.finish < b.1.finish :=
      List.pairwise_map.mpr (R.pairwise.sublist hsub)
    refine List.Perm.eq_of_pairwise (fun a b ha hb hab hba => ?_) (sortByKey_pairwise _ ranges) (hlt.imp ?_)
      ((sortByKey_perm _ ranges).trans hperm)
    · have ha' := hperm.mem_iff.mp ((sortByKey_perm _ ranges).mem_iff.mp ha)
      have hkey := le_antisymm hab hba
      have hfinish : a.1.finish = b.1.finish := congrArg (fun k => (ofLex k).1) hkey
      have hdistinct : (((p ++ m).map entryOf).map fun a => a.1.finish).Nodup :=
        List.pairwise_map.mpr (hlt.imp Nat.ne_of_lt)
      exact List.inj_on_of_nodup_map hdistinct ha' hb hfinish
    · intro a b hab
      exact le_of_lt (Prod.Lex.toLex_lt_toLex.mpr (.inl hab))
  have hnonempty : ranges.isEmpty = false := by
    cases ranges with
    | nil => exact absurd (List.map_eq_nil_iff.mp hperm.symm.eq_nil) hne
    | cons _ _ => rfl
  refine ⟨found, ?_, hexact⟩
  unfold projectedExactPrefixes
  rw [hranges]
  simp only [bind, Except.bind, hnonempty, hsorted, hfold, ensure, Bool.not_false, if_true,
    checkChains_ok, pure, Except.pure]

/-! ## The store -/

/-- A store that has nothing of the source revision yet. -/
structure Unread (R : Records source revision fence) (base : Store) : Prop where
  receipts : ∀ command ∈ base.commands, ¬(command.capture.receipt.sourceInstanceId = source ∧
    command.capture.receipt.sourceRevision = revision)
  ids : ∀ command ∈ base.commands, ∀ c ∈ R.all, command.capture.commandId ≠ c.commandId
  watermark : base.watermark source revision = none

/-- The store with these records on top of a base. -/
structure StoreAt (H : Sha256) (R : Records source revision fence) (base : Store) (p m : List VerifiedCapture)
    (store : Store) : Prop where
  earlier : p <+: R.earlier
  main : m <+: R.main
  commands : ∃ added, store.commands = base.commands ++ added ∧ (added.map Command.capture).Perm (p ++ m) ∧
    ∀ command ∈ added, command.watermark.sourceInstanceId = source ∧ command.watermark.sourceRevision = revision
  watermark : store.watermark source revision = mark H source revision fence p m

variable {base store : Store}

theorem Unread.storeAt (h : Unread R base) : StoreAt H R base [] [] base :=
  ⟨List.nil_prefix, List.nil_prefix, ⟨[], by simp, by simp, by simp⟩, h.watermark⟩

/-- The receipts of the source revision are those of the records. -/
theorem StoreAt.receipts (hbase : Unread R base) (h : StoreAt H R base p m store) :
    (store.receipts.filter fun receipt => receipt.sourceInstanceId == source
      && receipt.sourceRevision == revision).Perm ((p ++ m).map VerifiedCapture.receipt) := by
  obtain ⟨added, hcommands, hperm, -⟩ := h.commands
  have hreceipts : store.receipts = base.receipts ++ (added.map Command.capture).map VerifiedCapture.receipt := by
    simp [Store.receipts, hcommands]
  have hnone : base.receipts.filter (fun receipt => receipt.sourceInstanceId == source
      && receipt.sourceRevision == revision) = [] := by
    rw [List.filter_eq_nil_iff]
    intro receipt hreceipt
    obtain ⟨command, hcommand, rfl⟩ := List.mem_map.mp hreceipt
    simpa using hbase.receipts command hcommand
  rw [hreceipts, List.filter_append, hnone, List.nil_append]
  have hall : ((p ++ m).map VerifiedCapture.receipt).filter (fun receipt => receipt.sourceInstanceId == source
      && receipt.sourceRevision == revision) = (p ++ m).map VerifiedCapture.receipt := by
    rw [List.filter_eq_self]
    intro receipt hreceipt
    obtain ⟨c, hc, rfl⟩ := List.mem_map.mp hreceipt
    obtain ⟨hsource, hrevision⟩ := R.ofSource c (R.mem_all h.earlier h.main hc)
    simp [hsource, hrevision]
  rw [← hall]
  exact (hperm.map VerifiedCapture.receipt).filter _

theorem StoreAt.replay (hbase : Unread R base) (h : StoreAt H R base p m store) (hc : c ∈ p ++ m)
    (digest : Option String) (w : Option SourceIngestWatermark) : commitOrReplay store c digest w = .ok store := by
  obtain ⟨added, hcommands, hperm, hmarks⟩ := h.commands
  have hall := R.mem_all h.earlier h.main hc
  obtain ⟨command, hcommand, hcapture⟩ := List.mem_map.mp (hperm.mem_iff.mpr hc)
  have hfound : ∃ found, store.committedCommand c.commandId = some found := by
    apply Option.isSome_iff_exists.mp
    unfold Store.committedCommand
    rw [List.find?_isSome]
    exact ⟨command, by rw [hcommands]; exact List.mem_append_right _ hcommand, by simp [hcapture]⟩
  obtain ⟨found, hfound⟩ := hfound
  have hid : found.capture.commandId = c.commandId := by
    simpa using List.find?_some hfound
  have hmem : found ∈ added := by
    have hmem := List.mem_of_find?_eq_some hfound
    rw [hcommands] at hmem
    rcases List.mem_append.mp hmem with hmem | hmem
    · exact absurd hid (hbase.ids found hmem c hall)
    · exact hmem
  have hsame : found.capture = c :=
    R.eq_of_commandId (R.mem_all h.earlier h.main (hperm.mem_iff.mp (List.mem_map_of_mem hmem))) hall hid
  obtain ⟨hsource, hrevision⟩ := R.ofSource c hall
  obtain ⟨hsource', hrevision'⟩ := hmarks found hmem
  simp [commitOrReplay, hfound, hsame, hsource, hrevision, hsource', hrevision', ensure, bind, Except.bind, pure,
    Except.pure]

theorem StoreAt.commit (hbase : Unread R base) (h : StoreAt H R base p m store) (hc : c ∈ R.all) (hnew : c ∉ p ++ m)
    {p' m' : List VerifiedCapture} (hp : p' <+: R.earlier) (hm : m' <+: R.main) (hperm' : (p ++ m ++ [c]).Perm (p' ++ m'))
    (digest : Option String) : ∃ store',
      commitOrReplay store c digest (some (watermarkOf H source revision fence p' m')) = .ok store' ∧
        StoreAt H R base p' m' store' := by
  obtain ⟨added, hcommands, hperm, hmarks⟩ := h.commands
  have hnone : store.committedCommand c.commandId = none := by
    unfold Store.committedCommand
    rw [List.find?_eq_none]
    intro command hcommand
    rw [hcommands] at hcommand
    rcases List.mem_append.mp hcommand with hcommand | hcommand
    · simpa using hbase.ids command hcommand c hc
    · have hmem := hperm.mem_iff.mp (List.mem_map_of_mem hcommand)
      simp only [decide_eq_true_eq]
      intro hid
      rw [R.eq_of_commandId (R.mem_all h.earlier h.main hmem) hc hid] at hmem
      exact hnew hmem
  obtain ⟨hsource, hrevision⟩ := R.ofSource c hc
  refine ⟨store.commit c (watermarkOf H source revision fence p' m'), ?_, hp, hm, ?_, ?_⟩
  · simp [commitOrReplay, hnone, hsource, hrevision, watermarkOf, ensure, bind, Except.bind, pure, Except.pure]
  · refine ⟨added ++ [⟨c, watermarkOf H source revision fence p' m'⟩], ?_, ?_, ?_⟩
    · simp [Store.commit, hcommands]
    · rw [List.map_append]
      exact (hperm.append_right _).trans hperm'
    · intro command hcommand
      rcases List.mem_append.mp hcommand with hcommand | hcommand
      · exact hmarks command hcommand
      · obtain rfl := List.mem_singleton.mp hcommand
        exact ⟨rfl, rfl⟩
  · have hne : p' ++ m' ≠ [] := by
      intro hnil
      rw [hnil] at hperm'
      simpa using hperm'.eq_nil
    rw [mark, if_neg hne]
    exact OrdMap.get_insert_self ..

/-! ## The state of a drain -/

theorem isCommitted_iff (hp : p <+: R.earlier) (hm : m <+: R.main) (hc : c ∈ R.all) :
    isCommitted (mark H source revision fence p m) c.range = true ↔ c ∈ p ++ m := by
  by_cases hnil : p ++ m = []
  · rw [mark, if_pos hnil, hnil]
    simp [isCommitted]
  rw [mark, if_neg hnil]
  rcases List.mem_append.mp hc with hside | hside
  · obtain ⟨f, rfl, hle⟩ := R.earlier_fence c hside
    have hnot : c ∉ m := by
      intro hmem
      obtain ⟨-, -, h₁, h₂, -⟩ := R.main_contiguous.mem (hm.subset hmem)
      rw [Option.getD_some] at h₁
      omega
    obtain ⟨rest, hrest⟩ := hp
    have hfront := R.earlier_contiguous
    rw [← hrest] at hfront hside
    rw [List.mem_append, or_iff_left hnot, hfront.mem_front hside]
    simp [isCommitted, watermarkOf, hle]
  · have hnot : c ∉ p := by
      intro hmem
      obtain ⟨f, rfl, hle⟩ := R.earlier_fence c (hp.subset hmem)
      obtain ⟨-, -, h₁, h₂, -⟩ := R.main_contiguous.mem hside
      rw [Option.getD_some] at h₁
      omega
    obtain ⟨-, -, hbehind, hlt, -⟩ := R.main_contiguous.mem hside
    obtain ⟨rest, hrest⟩ := hm
    have hfront := R.main_contiguous
    rw [← hrest] at hfront hside
    rw [List.mem_append, or_iff_right hnot, hfront.mem_front hside]
    cases fence with
    | none => simp [isCommitted, watermarkOf]
    | some f =>
      rw [Option.getD_some] at hbehind
      simp only [isCommitted, watermarkOf, Option.any_some, Option.map_some, Option.getD_some, digestOf_isSome,
        show ¬ c.range.finish ≤ f by omega, if_false, hbehind, decide_true, Bool.true_and, Bool.and_eq_true,
        Bool.not_eq_true', List.isEmpty_eq_false_iff, decide_eq_true_eq, and_iff_right_iff_imp]
      intro hle hempty
      rw [hempty, endOf_nil] at hle
      omega

/-- A drain that started with the records `p₀` and `m₀` and is now at `p` and `m`. -/
structure StateAt (H : Sha256) (R : Records source revision fence) (p₀ m₀ p m : List VerifiedCapture)
    (state : ConfirmedPrefixState) : Prop where
  ends : EndsAt H R p m state
  committed : state.committedWatermark = mark H source revision fence p₀ m₀
  chained : ∀ found, state.exact_ = some found → Exact found (p₀ ++ m₀)
  added : ∃ added, Exact state.localExact added ∧ ∀ c, c ∈ p ++ m ↔ c ∈ p₀ ++ m₀ ∨ c ∈ added

variable {p₀ m₀ : List VerifiedCapture} {state : ConfirmedPrefixState} {projection : Store}

/-- A record that was committed before is recognised. -/
theorem classify_again (hbase : Unread R base) (hprojection : StoreAt H R base p₀ m₀ projection)
    (hstate : StateAt H R p₀ m₀ p m state) (hp : p <+: R.earlier) (hm : m <+: R.main) (hc : c ∈ p ++ m) :
    ∃ digest state', classify H (some projection) state c.receipt c.range = .ok (digest, none, state') ∧
      StateAt H R p₀ m₀ p m state' := by
  obtain ⟨added, hlocal, hsplit⟩ := hstate.added
  have hall := R.mem_all hp hm hc
  have hadded : ∀ x ∈ added, x ∈ R.all := fun x hx => R.mem_all hp hm ((hsplit x).mpr (.inr hx))
  unfold classify
  by_cases hmem : c ∈ added
  · obtain ⟨digest, hget⟩ := hlocal.mem c hmem
    refine ⟨some digest, state, ?_, hstate⟩
    simp [hget, checkExact, ensure, bind, Except.bind, pure, Except.pure]
  · have hstart : c ∈ p₀ ++ m₀ := ((hsplit c).mp hc).resolve_right hmem
    have hcommitted : isCommitted state.committedWatermark c.range = true := by
      rw [hstate.committed]
      exact (isCommitted_iff hprojection.earlier hprojection.main hall).mpr hstart
    have hfound : ∃ found, exactPrefixes H (some projection) state c.receipt = .ok found ∧ Exact found (p₀ ++ m₀) := by
      unfold exactPrefixes
      cases hexact : state.exact_ with
      | some found => exact ⟨found, rfl, hstate.chained found hexact⟩
      | none =>
        have hne : p₀ ++ m₀ ≠ [] := List.ne_nil_of_mem hstart
        obtain ⟨found, hok, hfound⟩ := exactPrefixes_ok (H := H) hprojection.earlier hprojection.main hne
          (hprojection.receipts hbase)
        obtain ⟨hsource, hrevision⟩ := R.ofSource c hall
        refine ⟨found, ?_, hfound⟩
        dsimp only
        rw [hstate.committed, mark, if_neg hne, hsource, hrevision, hstate.ends.originFence]
        exact hok
    obtain ⟨found, hok, hfound⟩ := hfound
    obtain ⟨digest, hget⟩ := hfound.mem c hstart
    refine ⟨some digest, { state with exact_ := some found }, ?_, ?_⟩
    · rw [hlocal.get_none hadded hall hmem]
      simp [hcommitted, hok, hget, okOr, checkExact, ensure, bind, Except.bind, pure, Except.pure]
    · refine ⟨⟨hstate.ends.originFence, hstate.ends.localEnd, hstate.ends.localDigest, hstate.ends.prefixEnd,
        hstate.ends.prefixDigest⟩, hstate.committed, fun found' hsome => ?_, added, hlocal, hsplit⟩
      cases hsome
      exact hfound

theorem advance_earlier (hends : EndsAt H R p m state) (hp : p ++ [c] <+: R.earlier) :
    state.advance H c.receipt = .ok (watermarkOf H source revision fence (p ++ [c]) m,
      { state with
        prefixEnd := c.range.finish
        prefixDigest := digestOf H source revision (p ++ [c])
        localExact := state.localExact.insert c.range.finish ⟨c.range.start, c.range.finish, c.receipt.casRef,
          nextDigest H source revision (digestOf H source revision p) c⟩ }) := by
  have hc : c ∈ R.earlier := hp.subset (by simp)
  have hfront : p <+: R.earlier := (List.prefix_append p [c]).trans hp
  obtain ⟨f, hf, hle⟩ := R.earlier_fence c hc
  obtain ⟨hrange, -, -, -, -⟩ := R.earlier_contiguous.mem hc
  obtain ⟨hsource, hrevision⟩ := R.ofSource c (List.mem_append_left _ hc)
  have hstart := R.earlier_contiguous.start_eq hp
  have hdigest : confirmedPrefixDigest H source revision c.range (digestOf H source revision p) c.receipt.casRef =
      .ok (nextDigest H source revision (digestOf H source revision p) c) :=
    R.digest_ok (fun x hx => R.mem_all_of_earlier hfront hx) (List.mem_append_left _ hc)
  obtain ⟨horigin, hlocalEnd, hlocalDigest, hprefixEnd, hprefixDigest⟩ := hends
  have hcross : ¬ f < c.range.finish := by omega
  simp [ConfirmedPrefixState.advance, ConfirmedPrefixState.extend, ConfirmedPrefixState.watermark, watermarkOf, hrange,
    horigin, hf, hle, hcross, hprefixEnd, hprefixDigest, hlocalEnd, hlocalDigest, hstart, hsource, hrevision, hdigest,
    digestOf_concat, okOr, ensure, bind, Except.bind, pure, Except.pure]

theorem advance_main (hends : EndsAt H R p m state) (hm : m ++ [c] <+: R.main) :
    state.advance H c.receipt = .ok (watermarkOf H source revision fence p (m ++ [c]),
      { state with
        localEnd := c.range.finish
        localDigest := digestOf H source revision (m ++ [c])
        localExact := state.localExact.insert c.range.finish ⟨c.range.start, c.range.finish, c.receipt.casRef,
          nextDigest H source revision (digestOf H source revision m) c⟩ }) := by
  have hc : c ∈ R.main := hm.subset (by simp)
  have hfront : m <+: R.main := (List.prefix_append m [c]).trans hm
  obtain ⟨hrange, -, hbehind, hlt, -⟩ := R.main_contiguous.mem hc
  obtain ⟨hsource, hrevision⟩ := R.ofSource c (List.mem_append_right _ hc)
  have hstart := R.main_contiguous.start_eq hm
  have hdigest : confirmedPrefixDigest H source revision c.range (digestOf H source revision m) c.receipt.casRef =
      .ok (nextDigest H source revision (digestOf H source revision m) c) :=
    R.digest_ok (fun x hx => R.mem_all_of_main hfront hx) (List.mem_append_right _ hc)
  obtain ⟨horigin, hlocalEnd, hlocalDigest, hprefixEnd, hprefixDigest⟩ := hends
  have hcross : (fence.any fun f => c.range.start < f && f < c.range.finish) = false := by
    cases fence with
    | none => rfl
    | some f =>
      rw [Option.getD_some] at hbehind
      simp only [Option.any_some, Bool.and_eq_false_iff, decide_eq_false_iff_not]
      omega
  have hside : (fence.any fun f => c.range.finish ≤ f) = false := by
    cases fence with
    | none => rfl
    | some f =>
      rw [Option.getD_some] at hbehind
      simp only [Option.any_some, decide_eq_false_iff_not]
      omega
  simp only [ConfirmedPrefixState.advance, hrange, horigin, okOr, ensure, bind, Except.bind, hcross, hside,
    Bool.not_false, if_true, Bool.false_eq_true, if_false]
  simp [ConfirmedPrefixState.extend, ConfirmedPrefixState.watermark, watermarkOf, hprefixEnd, hprefixDigest,
    hlocalEnd, hlocalDigest, hstart, hsource, hrevision, hdigest, digestOf_concat, ensure, bind, Except.bind, pure,
    Except.pure]

theorem classify_new (hp₀ : p₀ <+: R.earlier) (hm₀ : m₀ <+: R.main) (hstate : StateAt H R p₀ m₀ p m state)
    (hp : p <+: R.earlier) (hm : m <+: R.main) (hc : c ∈ R.all) (hnew : c ∉ p ++ m) {next : SourceIngestWatermark}
    {state' : ConfirmedPrefixState} (hadvance : state.advance H c.receipt = .ok (next, state'))
    (projection : Option Store) :
    classify H projection state c.receipt c.range = .ok (next.confirmedPrefixDigest, some next, state') := by
  obtain ⟨added, hlocal, hsplit⟩ := hstate.added
  have hadded : ∀ x ∈ added, x ∈ R.all := fun x hx => R.mem_all hp hm ((hsplit x).mpr (.inr hx))
  have hnone := hlocal.get_none hadded hc fun hmem => hnew ((hsplit c).mpr (.inr hmem))
  have hcommitted : isCommitted state.committedWatermark c.range = false := by
    rw [hstate.committed, ← Bool.not_eq_true, isCommitted_iff hp₀ hm₀ hc]
    exact fun hmem => hnew ((hsplit c).mpr (.inl hmem))
  unfold classify
  rw [hnone]
  simp [hcommitted, hadvance, bind, Except.bind, pure, Except.pure]

/-- A record that a drain adds is one of its own. -/
theorem StateAt.add (hstate : StateAt H R p₀ m₀ p m state) (hp : p <+: R.earlier) (hm : m <+: R.main) (hc : c ∈ R.all)
    (hnew : c ∉ p ++ m) {p' m' : List VerifiedCapture} (hperm : (p ++ m ++ [c]).Perm (p' ++ m')) {digest : String}
    {state' : ConfirmedPrefixState} (hends : EndsAt H R p' m' state')
    (hcommitted : state'.committedWatermark = state.committedWatermark) (hexact : state'.exact_ = state.exact_)
    (hlocal : state'.localExact =
      state.localExact.insert c.range.finish ⟨c.range.start, c.range.finish, c.receipt.casRef, digest⟩) :
    StateAt H R p₀ m₀ p' m' state' := by
  obtain ⟨added, hadded, hsplit⟩ := hstate.added
  refine ⟨hends, hcommitted.trans hstate.committed, fun found hfound => hstate.chained found (hexact ▸ hfound),
    added ++ [c], ?_, fun x => ?_⟩
  · rw [hlocal]
    refine hadded.insert (fun x hx hfinish => hnew ?_) digest
    have hx' : x ∈ p ++ m := (hsplit x).mpr (.inr hx)
    rw [← R.eq_of_finish (R.mem_all hp hm hx') hc hfinish]
    exact hx'
  · rw [← hperm.mem_iff, List.mem_append, hsplit, or_assoc, List.mem_append (s := added)]

/-! ## One frame -/

structure DrainAt (H : Sha256) (R : Records source revision fence) (base : Store) (p m : List VerifiedCapture)
    (d : Drain) : Prop where
  store : StoreAt H R base p m d.store
  state : (d.state = none ∧ d.projection = none) ∨ ∃ p₀ m₀ projection state, d.state = some state ∧
    d.projection = some projection ∧ StoreAt H R base p₀ m₀ projection ∧ StateAt H R p₀ m₀ p m state

variable {d : Drain}

theorem DrainAt.load (h : DrainAt H R base p m d) (hc : c ∈ R.all) : ∃ p₀ m₀ projection state,
    d.load fence c.receipt = .ok (some projection, state) ∧ StoreAt H R base p₀ m₀ projection ∧
      StateAt H R p₀ m₀ p m state := by
  unfold Drain.load
  rcases h.state with ⟨hstate, hprojection⟩ | ⟨p₀, m₀, projection, state, hstate, hprojection, hstore, hat⟩
  · obtain ⟨hsource, hrevision⟩ := R.ofSource c hc
    obtain ⟨state, hok, hends, hcommitted, hexact, hlocal⟩ :=
      projected_endsAt h.store.earlier h.store.main h.store.watermark
    refine ⟨p, m, d.store, state, ?_, h.store, hends, hcommitted, by simp [hexact], [], ?_, by simp⟩
    · rw [hstate, hprojection, hsource, hrevision, Option.getD_none]
      dsimp only
      rw [hok]
      rfl
    · rw [hlocal]
      exact .empty
  · exact ⟨p₀, m₀, projection, state, by rw [hstate, hprojection], hstore, hat⟩

/-- What every record brings. -/
theorem Records.range_ok (R : Records source revision fence) (hc : c ∈ R.all) :
    c.receipt.sourceByteRange = some c.range ∧
      (c.range.finish == c.receipt.sourceSequence && decide (c.range.start < c.range.finish)) = true := by
  rcases List.mem_append.mp hc with hc | hc
  · obtain ⟨h₁, h₂, -, h₃, -⟩ := R.earlier_contiguous.mem hc
    exact ⟨h₁, by simp [h₂, h₃]⟩
  · obtain ⟨h₁, h₂, -, h₃, -⟩ := R.main_contiguous.mem hc
    exact ⟨h₁, by simp [h₂, h₃]⟩

theorem DrainAt.again (hbase : Unread R base) (h : DrainAt H R base p m d) (hc : c ∈ p ++ m) :
    ∃ d', d.present H fence c = .ok d' ∧ DrainAt H R base p m d' := by
  have hall := R.mem_all h.store.earlier h.store.main hc
  obtain ⟨hrange, hok⟩ := R.range_ok hall
  obtain ⟨p₀, m₀, projection, state, hload, hprojection, hstate⟩ := h.load hall
  obtain ⟨digest, state', hclassify, hstate'⟩ :=
    classify_again hbase hprojection hstate h.store.earlier h.store.main hc
  refine ⟨⟨d.store, some projection, some state'⟩, ?_, h.store,
    .inr ⟨p₀, m₀, projection, state', rfl, rfl, hprojection, hstate'⟩⟩
  unfold Drain.present
  rw [hrange]
  simp [okOr, hok, hload, hclassify, h.store.replay hbase hc, ensure, bind, Except.bind, pure, Except.pure]

theorem DrainAt.add (hbase : Unread R base) (h : DrainAt H R base p m d) (hc : c ∈ R.all) (hnew : c ∉ p ++ m)
    {p' m' : List VerifiedCapture} (hp : p' <+: R.earlier) (hm : m' <+: R.main) (hperm : (p ++ m ++ [c]).Perm (p' ++ m'))
    (hadvance : ∀ state, EndsAt H R p m state → ∃ state' digest,
      state.advance H c.receipt = .ok (watermarkOf H source revision fence p' m', state') ∧
      EndsAt H R p' m' state' ∧ state'.committedWatermark = state.committedWatermark ∧ state'.exact_ = state.exact_ ∧
      state'.localExact =
        state.localExact.insert c.range.finish ⟨c.range.start, c.range.finish, c.receipt.casRef, digest⟩) :
    ∃ d', d.present H fence c = .ok d' ∧ DrainAt H R base p' m' d' := by
  obtain ⟨hrange, hok⟩ := R.range_ok hc
  obtain ⟨p₀, m₀, projection, state, hload, hprojection, hstate⟩ := h.load hc
  obtain ⟨state', digest, hadvanced, hends, hcommitted, hexact, hlocal⟩ := hadvance state hstate.ends
  have hclassify := classify_new hprojection.earlier hprojection.main hstate h.store.earlier h.store.main hc hnew
    hadvanced (some projection)
  have hstate' := hstate.add h.store.earlier h.store.main hc hnew hperm hends hcommitted hexact hlocal
  obtain ⟨store', hcommit, hstore'⟩ := h.store.commit hbase hc hnew hp hm hperm
    (watermarkOf H source revision fence p' m').confirmedPrefixDigest
  refine ⟨⟨store', some projection, some state'⟩, ?_, hstore',
    .inr ⟨p₀, m₀, projection, state', rfl, rfl, hprojection, hstate'⟩⟩
  unfold Drain.present
  rw [hrange]
  simp [okOr, hok, hload, hclassify, hcommit, ensure, bind, Except.bind, pure, Except.pure]

/-- The next record of a side is none of those before it. -/
theorem Records.new_of_sublist {xs ys : List VerifiedCapture} (hperm : (xs ++ [c]).Perm ys) (hys : ys.Sublist R.all) :
    c ∉ xs := by
  have hnodup : (xs ++ [c]).Nodup := hperm.nodup_iff.mpr (R.nodup.sublist hys)
  exact fun hmem => (List.nodup_append.mp hnodup).2.2 c hmem c (by simp) rfl

theorem DrainAt.addEarlier (hbase : Unread R base) (h : DrainAt H R base p m d) (hp : p ++ [c] <+: R.earlier) :
    ∃ d', d.present H fence c = .ok d' ∧ DrainAt H R base (p ++ [c]) m d' := by
  have hsub : (p ++ [c] ++ m).Sublist R.all := hp.sublist.append h.store.main.sublist
  have hperm : (p ++ m ++ [c]).Perm (p ++ [c] ++ m) := by
    rw [List.append_assoc, List.append_assoc]
    exact List.perm_append_comm.append_left p
  refine h.add hbase (hsub.subset (by simp)) (R.new_of_sublist hperm hsub) hp h.store.main hperm fun state hends => ?_
  refine ⟨_, _, advance_earlier hends hp, ?_, rfl, rfl, rfl⟩
  exact ⟨hends.originFence, hends.localEnd, hends.localDigest, by simp, rfl⟩

theorem DrainAt.addMain (hbase : Unread R base) (h : DrainAt H R base p m d) (hm : m ++ [c] <+: R.main) :
    ∃ d', d.present H fence c = .ok d' ∧ DrainAt H R base p (m ++ [c]) d' := by
  have hsub : (p ++ (m ++ [c])).Sublist R.all := h.store.earlier.sublist.append hm.sublist
  have hperm : (p ++ m ++ [c]).Perm (p ++ (m ++ [c])) := by rw [List.append_assoc]
  refine h.add hbase (hsub.subset (by simp)) (R.new_of_sublist hperm hsub) h.store.earlier hm hperm fun state hends => ?_
  refine ⟨_, _, advance_main hends hm, ?_, rfl, rfl, rfl⟩
  exact ⟨hends.originFence, by simp, rfl, hends.prefixEnd, hends.prefixDigest⟩

end records

/-! ## Scripts -/

inductive Action where
  | restart
  | present (c : VerifiedCapture)
  deriving DecidableEq

def Drain.step (H : Sha256) (fence : Option Nat) (d : Drain) : Action → Except IngestError Drain
  | .restart => .ok d.restart
  | .present c => d.present H fence c

def Drain.run (H : Sha256) (fence : Option Nat) (d : Drain) (actions : List Action) : Except IngestError Drain :=
  actions.foldlM (Drain.step H fence) d

/-- The ways to present the records: each side in its order, any interleaving of the two, drains that end anywhere, and
committed records again at any time. `p` and `m` say how far the two sides are. -/
inductive Script (R : Records source revision fence) :
    List VerifiedCapture → List VerifiedCapture → List Action → Prop
  | nil : Script R [] [] []
  | restart {p m : List VerifiedCapture} {actions : List Action} : Script R p m actions →
      Script R p m (actions ++ [.restart])
  | earlier {p m : List VerifiedCapture} {actions : List Action} {c : VerifiedCapture} : Script R p m actions →
      p ++ [c] <+: R.earlier → Script R (p ++ [c]) m (actions ++ [.present c])
  | main {p m : List VerifiedCapture} {actions : List Action} {c : VerifiedCapture} : Script R p m actions →
      m ++ [c] <+: R.main → Script R p (m ++ [c]) (actions ++ [.present c])
  | again {p m : List VerifiedCapture} {actions : List Action} {c : VerifiedCapture} : Script R p m actions →
      c ∈ p ++ m → Script R p m (actions ++ [.present c])

variable {R : Records source revision fence} {base : Store} {p m : List VerifiedCapture} {actions : List Action}

theorem run_concat {d d' d'' : Drain} {action : Action} (h : d.run H fence actions = .ok d')
    (hstep : d'.step H fence action = .ok d'') : d.run H fence (actions ++ [action]) = .ok d'' := by
  unfold Drain.run at h ⊢
  rw [List.foldlM_append, h]
  simp [hstep, bind, Except.bind]

theorem Script.run (hbase : Unread R base) (h : Script R p m actions) :
    ∃ d, Drain.run H fence ⟨base, none, none⟩ actions = .ok d ∧ DrainAt H R base p m d := by
  induction h with
  | nil => exact ⟨_, rfl, hbase.storeAt, .inl ⟨rfl, rfl⟩⟩
  | restart _ ih =>
    obtain ⟨d, hrun, hat⟩ := ih
    exact ⟨d.restart, run_concat hrun rfl, hat.store, .inl ⟨rfl, rfl⟩⟩
  | earlier _ hp ih =>
    obtain ⟨d, hrun, hat⟩ := ih
    obtain ⟨d', hstep, hat'⟩ := hat.addEarlier hbase hp
    exact ⟨d', run_concat hrun hstep, hat'⟩
  | main _ hm ih =>
    obtain ⟨d, hrun, hat⟩ := ih
    obtain ⟨d', hstep, hat'⟩ := hat.addMain hbase hm
    exact ⟨d', run_concat hrun hstep, hat'⟩
  | again _ hc ih =>
    obtain ⟨d, hrun, hat⟩ := ih
    obtain ⟨d', hstep, hat'⟩ := hat.again hbase hc
    exact ⟨d', run_concat hrun hstep, hat'⟩

/-- One drain without restarts: the records once, the earlier prefix first. -/
theorem script_once (R : Records source revision fence) : ∀ {p m : List VerifiedCapture}, p <+: R.earlier →
    m <+: R.main → Script R p m ((p ++ m).map .present) := by
  intro p m hp
  induction m using List.reverseRecOn with
  | nil =>
    intro _
    induction p using List.reverseRecOn with
    | nil => exact .nil
    | append_singleton p c ih =>
      have hprev := ih ((List.prefix_append p [c]).trans hp)
      rw [List.append_nil] at hprev ⊢
      rw [List.map_append]
      exact hprev.earlier hp
  | append_singleton m c ih =>
    intro hm
    rw [← List.append_assoc, List.map_append]
    exact (ih ((List.prefix_append m [c]).trans hm)).main hm

/-- **Prefix digests survive restarts.** However the records of a source revision are presented and cut into drains,
every frame is accepted, each record is committed exactly once, the watermark is the one of a single drain without
restarts, and a new drain starts with the ends and digests of the last. -/
theorem drains_agree (H : Sha256) (R : Records source revision fence) (base : Store) (hbase : Unread R base)
    (p m : List VerifiedCapture) (actions : List Action) (h : Script R p m actions) :
    ∃ d, Drain.run H fence ⟨base, none, none⟩ actions = .ok d ∧
      (∃ added, d.store.commands = base.commands ++ added ∧ (added.map Command.capture).Perm (p ++ m) ∧ (p ++ m).Nodup) ∧
      (∃ one, Drain.run H fence ⟨base, none, none⟩ ((p ++ m).map .present) = .ok one ∧
        d.store.watermark source revision = one.store.watermark source revision) ∧
      (∀ order, Script R p m order → .restart ∉ order →
        ∃ one, Drain.run H fence ⟨base, none, none⟩ order = .ok one ∧
          d.store.watermark source revision = one.store.watermark source revision) ∧
      ∃ state, projectedConfirmedPrefix d.store source revision fence = .ok state ∧
        ∀ live, d.state = some live → state.originFence = live.originFence ∧ state.localEnd = live.localEnd ∧
          state.localDigest = live.localDigest ∧ state.prefixEnd = live.prefixEnd ∧
          state.prefixDigest = live.prefixDigest := by
  obtain ⟨d, hrun, hat⟩ := h.run (H := H) hbase
  have hsame : ∀ order, Script R p m order → ∃ one, Drain.run H fence ⟨base, none, none⟩ order = .ok one ∧
      d.store.watermark source revision = one.store.watermark source revision := by
    intro order horder
    obtain ⟨one, hone, hat'⟩ := horder.run (H := H) hbase
    exact ⟨one, hone, hat.store.watermark.trans hat'.store.watermark.symm⟩
  refine ⟨d, hrun, ?_, hsame _ (script_once R hat.store.earlier hat.store.main), fun order horder _ => hsame order horder,
    ?_⟩
  · obtain ⟨added, hcommands, hperm, -⟩ := hat.store.commands
    exact ⟨added, hcommands, hperm, R.nodup.sublist (hat.store.earlier.sublist.append hat.store.main.sublist)⟩
  · obtain ⟨state, hok, hends, -⟩ := projected_endsAt (H := H) hat.store.earlier hat.store.main hat.store.watermark
    refine ⟨state, hok, fun live hlive => ?_⟩
    rcases hat.state with ⟨hnone, -⟩ | ⟨p₀, m₀, projection, live', hstate, -, -, hlive'⟩
    · rw [hnone] at hlive
      cases hlive
    · rw [hstate] at hlive
      cases hlive
      exact ⟨hends.originFence.trans hlive'.ends.originFence.symm, hends.localEnd.trans hlive'.ends.localEnd.symm,
        hends.localDigest.trans hlive'.ends.localDigest.symm, hends.prefixEnd.trans hlive'.ends.prefixEnd.symm,
        hends.prefixDigest.trans hlive'.ends.prefixDigest.symm⟩

/-! ## A file of two records -/

def fileSource : String := "codex-session:session-a"

def fileRevision : String := "1111111111111111111111111111111111111111111111111111111111111111"

def fileCas : String := "2222222222222222222222222222222222222222222222222222222222222222"

def fileRecord (n : Fin 16) (start finish : Nat) : VerifiedCapture where
  commandId := ⟨⟨0x70008000000000000000 + n.val, version7_lt n⟩⟩
  receipt := ⟨⟨⟨n.val, by omega⟩⟩, fileSource, fileRevision, finish, some ⟨start, finish⟩, fileCas⟩

/-- The encoding of the record before the fence. -/
def earlierBytes : Bytes := (encode "session_import_confirmed_prefix" 1 (.sequence
  [.string fileSource, .string fileRevision, .integer 0, .integer 6, .null, .string fileCas])).toOption.getD []

/-- The SHA-256 values of the two records. -/
def fileSha : Sha256 where
  digest b := if b = earlierBytes then
      [0x7c, 0x64, 0xb3, 0xc0, 0xaf, 0x84, 0xff, 0x37, 0x3a, 0x43, 0xaa, 0xee, 0xf2, 0x2b, 0x42, 0x5d,
        0x96, 0x9b, 0x49, 0x1b, 0xc1, 0xf8, 0x6a, 0xf3, 0x74, 0x1f, 0x40, 0x1a, 0xfd, 0x6f, 0xf9, 0x37]
    else
      [0x8c, 0xa3, 0xe3, 0x09, 0xdc, 0xba, 0x6a, 0xa3, 0xb1, 0x16, 0x8d, 0xbf, 0xde, 0x14, 0x70, 0xe2,
        0x2b, 0xb9, 0x6e, 0x00, 0x87, 0x8a, 0x01, 0x19, 0x56, 0xc5, 0xba, 0xc6, 0x14, 0x7b, 0xfb, 0x86]
  digest_length b := by split <;> rfl

def fileRecords : Records fileSource fileRevision (some 6) where
  earlier := [fileRecord 1 0 6]
  main := [fileRecord 2 6 9]
  earlier_contiguous := ⟨rfl, rfl, by decide, rfl, trivial⟩
  main_contiguous := ⟨rfl, rfl, by decide, rfl, trivial⟩
  earlier_fence := by
    intro c hc
    obtain rfl := List.mem_singleton.mp hc
    exact ⟨6, rfl, Nat.le_refl 6⟩
  ofSource := by
    intro c hc
    simp only [List.cons_append, List.nil_append, List.mem_cons, List.not_mem_nil, or_false] at hc
    rcases hc with rfl | rfl <;> exact ⟨rfl, rfl⟩
  ids := by decide
  texts := by
    refine ⟨by decide +kernel, by decide +kernel, fun c hc => ?_⟩
    simp only [List.cons_append, List.nil_append, List.mem_cons, List.not_mem_nil, or_false] at hc
    rcases hc with rfl | rfl <;> exact (by decide +kernel : (utf8 fileCas).length < 2 ^ 64)

/-- The second record first; the next drain sees it again and reads the one before the fence. -/
def fileScript : List Action :=
  [.present (fileRecord 2 6 9), .restart, .present (fileRecord 2 6 9), .present (fileRecord 1 0 6)]

theorem drains_agree_file : Script fileRecords fileRecords.earlier fileRecords.main fileScript ∧
    ∃ d, Drain.run fileSha (some 6) ⟨⟨[], .empty⟩, none, none⟩ fileScript = .ok d ∧
      ∃ added, d.store.commands = [] ++ added ∧
        (added.map Command.capture).Perm [fileRecord 1 0 6, fileRecord 2 6 9] := by
  have hscript : Script fileRecords fileRecords.earlier fileRecords.main fileScript :=
    (((Script.nil.main (c := fileRecord 2 6 9) (List.prefix_refl _)).restart).again (c := fileRecord 2 6 9)
      (by simp)).earlier (c := fileRecord 1 0 6) (List.prefix_refl _)
  have hunread : Unread fileRecords ⟨[], .empty⟩ := ⟨by simp, by simp, rfl⟩
  obtain ⟨d, hrun, ⟨added, hadded, hperm, -⟩, -⟩ := drains_agree fileSha fileRecords _ hunread _ _ _ hscript
  exact ⟨hscript, d, hrun, added, hadded, hperm⟩

end EverTrace.L2.Ingest
