import EverTrace.L2Machine.SpoolRun
/-!
# Reading a segment in pieces

Two loops of `spool.rs` read a file piece by piece: `validate_active_file` in
chunks of 64 KiB, keeping the bytes of an unfinished frame, and a reader of a
sealed file page by page, each page a window of 8 MiB cut down to 256 frames and
to a budget of 60 MiB of payload.

Both rest on two facts. A prefix of whole frames splits into whole frames and a
piece of the next one, which the scan calls torn (`segment_split`). No frame is
longer than 5243414 bytes (`length_frameBytes_le`), less than 8 MiB.

Results:
* `validateActiveFile_iff`: the chunked validator accepts what the whole-file
  scan accepts without a torn tail.
* `pages_eq_whole`: the pages of a sealed file are the file, read whole.
-/
namespace EverTrace.L2.Capture
open EverTrace.Lib EverTrace.Lib.Command EverTrace.L1 EverTrace.L1.Frame

variable {H : Sha256}

/-! ## Prefixes of a segment -/

/-- The longest frame: two identifiers of 256 bytes, 65535 references, a body of 1 MiB. -/
def maxFrame : Nat := 5243414

theorem length_frameBytes_le {r : SpoolRecord} (ha : Accepted r) : (frameBytes H r).length ≤ maxFrame := by
  obtain ⟨-, -, hid, -, hobservation, hbody, -, hrefs⟩ := validateRecord_ok.mp ha.valid
  have hflat := length_flatMap_utf8 fun value hv => (hrefs value hv).1
  have hcount := ha.refs
  have htrailer : commitTrailer.length = 8 := rfl
  rw [length_frameBytes, htrailer]
  simp only [headerBytes, List.length_append, length_be16, length_be64, length_stringBytes, length_beBytes,
    hflat, maxFrame, prefixLength, maxRecordBody] at hbody ⊢
  omega

theorem segmentBytes_cons (r : SpoolRecord) (rs : List SpoolRecord) :
    segmentBytes H (r :: rs) = frameBytes H r ++ segmentBytes H rs := rfl

/-- The bytes `tail` begin a frame of a segment `rs` and do not finish it. -/
structure Unfinished (H : Sha256) (rs : List SpoolRecord) (tail : Bytes) : Prop where
  starts : tail <+: segmentBytes H rs
  torn : scanFrame H tail = .ok none
  short : tail.length ≤ maxFrame

/-- A prefix of whole frames is whole frames and a piece of the next one. -/
theorem segment_split {rs : List SpoolRecord} (hrs : ∀ r ∈ rs, Accepted r) {p : Bytes}
    (hp : p <+: segmentBytes H rs) :
    ∃ front back tail, rs = front ++ back ∧ p = segmentBytes H front ++ tail ∧ Unfinished H back tail := by
  induction rs generalizing p with
  | nil =>
    obtain rfl : p = [] := List.prefix_nil.mp hp
    exact ⟨[], [], [], rfl, rfl, List.nil_prefix, scanFrame_nil H, Nat.zero_le _⟩
  | cons r rs ih =>
    have hr := hrs r List.mem_cons_self
    rw [segmentBytes_cons] at hp
    by_cases hlen : p.length < (frameBytes H r).length
    · -- the cut is inside the first frame
      have hhead : p <+: frameBytes H r :=
        List.prefix_of_prefix_length_le hp (List.prefix_append _ _) (Nat.le_of_lt hlen)
      have hne : p ≠ frameBytes H r := fun h => Nat.ne_of_lt hlen (congrArg List.length h)
      refine ⟨[], r :: rs, p, rfl, rfl, hp, scanFrame_torn hr hhead hne, ?_⟩
      have := length_frameBytes_le (H := H) hr
      omega
    · have hwhole : frameBytes H r <+: p :=
        List.prefix_of_prefix_length_le (List.prefix_append _ _) hp (Nat.not_lt.mp hlen)
      obtain ⟨q, rfl⟩ := hwhole
      obtain ⟨front, back, tail, rfl, rfl, htail⟩ :=
        ih (fun r hr => hrs r (List.mem_cons_of_mem _ hr)) ((List.prefix_append_right_inj _).mp hp)
      refine ⟨r :: front, back, tail, rfl, ?_, htail⟩
      rw [segmentBytes_cons, List.append_assoc]

theorem eq_nil_of_torn {rs : List SpoolRecord} (hrs : ∀ r ∈ rs, Accepted r)
    (h : scanFrame H (segmentBytes H rs) = .ok none) : rs = [] := by
  cases rs with
  | nil => rfl
  | cons r rs =>
    rw [segmentBytes_cons, scanFrame_frame H (hrs r List.mem_cons_self)] at h
    cases h

/-- All the bytes of a segment leave no frame unfinished. -/
theorem Unfinished.eq_nil {rs : List SpoolRecord} (hrs : ∀ r ∈ rs, Accepted r) {tail : Bytes}
    (h : Unfinished H rs tail) (hall : tail = segmentBytes H rs) : rs = [] ∧ tail = [] := by
  have hnil := eq_nil_of_torn hrs (hall ▸ h.torn)
  subst hnil
  exact ⟨rfl, hall⟩

/-! ## `validate_active_file` -/

/-- The scan of a cut of whole frames, what it leaves, and what is still to come. -/
theorem scanFrames_cut {rs : List SpoolRecord} (hrs : ∀ r ∈ rs, Accepted r) {p q : Bytes}
    (hbytes : p ++ q = segmentBytes H rs) :
    ∃ front back tail, rs = front ++ back ∧ p = segmentBytes H front ++ tail ∧ Unfinished H back tail ∧
      tail ++ q = segmentBytes H back ∧
      scanFrames H p = .ok ⟨front.map (decodedFrame H), (segmentBytes H front).length, !tail.isEmpty⟩ := by
  obtain ⟨front, back, tail, rfl, rfl, htail⟩ := segment_split hrs ⟨q, hbytes⟩
  refine ⟨front, back, tail, rfl, rfl, htail, ?_, ?_⟩
  · rw [segmentBytes_append, List.append_assoc] at hbytes
    exact List.append_cancel_left hbytes
  · exact scanFrames_ok.mpr
      ⟨front, tail, fun r hr => hrs r (List.mem_append_left _ hr), htail.torn, rfl, rfl⟩

/-- The loop over the chunks of whole frames ends with nothing pending, wherever the chunks end. -/
theorem scanChunks_segment {pending rest : Bytes} {rs : List SpoolRecord} (hrs : ∀ r ∈ rs, Accepted r)
    (htorn : scanFrame H pending = .ok none) (hbytes : pending ++ rest = segmentBytes H rs) :
    scanChunks H pending rest = .ok [] := by
  have hchunk : ∀ pending rest : Bytes,
      pending ++ rest = (pending ++ rest.take chunkLength) ++ rest.drop chunkLength := by
    intro pending rest
    rw [List.append_assoc, List.take_append_drop]
  fun_induction scanChunks H pending rest generalizing rs with
  | case1 pending =>
    rw [List.append_nil] at hbytes
    have hnil := eq_nil_of_torn hrs (hbytes ▸ htorn)
    subst hnil
    rw [hbytes]
    rfl
  | case2 pending rest hrest e hscan =>
    rw [hchunk] at hbytes
    obtain ⟨front, back, tail, rfl, -, -, -, hok⟩ := scanFrames_cut hrs hbytes
    rw [hok] at hscan
    cases hscan
  | case3 pending rest hrest scan hscan pending' =>
    rename_i hlen
    -- the pending bytes are less than a frame
    rw [hchunk] at hbytes
    obtain ⟨front, back, tail, rfl, hsplit, htail, -, hok⟩ := scanFrames_cut hrs hbytes
    rw [hok] at hscan
    cases hscan
    have hpending : pending' = tail := by simp only [pending', hsplit, List.drop_left]
    rw [hpending] at hlen
    have hshort := htail.short
    simp only [maxFrame, maxPending] at hshort hlen
    omega
  | case4 pending rest hrest scan hscan pending' hlen =>
    rename_i ih
    rw [hchunk] at hbytes
    obtain ⟨front, back, tail, rfl, hsplit, htail, hnext, hok⟩ := scanFrames_cut hrs hbytes
    rw [hok] at hscan
    cases hscan
    have hpending : pending' = tail := by simp only [pending', hsplit, List.drop_left]
    rw [hpending] at ih ⊢
    exact ih (fun r hr => hrs r (List.mem_append_right _ hr)) htail.torn hnext

theorem validateActiveFile_segment {rs : List SpoolRecord} (hrs : ∀ r ∈ rs, Accepted r) {maxBytes : Nat}
    (hlen : (segmentBytes H rs).length ≤ maxBytes) :
    validateActiveFile H (segmentBytes H rs) maxBytes = .ok () := by
  simp only [validateActiveFile, bind_eq_ok, ensure_ok, decide_eq_true_eq]
  exact ⟨(), hlen, [], scanChunks_segment hrs (scanFrame_nil H) rfl, rfl⟩

/-- **The chunked validator agrees with the whole-file scan.** A file within the size limit passes
exactly when the scan accepts all of it, and the bound on the pending bytes rejects no file of encoded
frames. -/
theorem validateActiveFile_iff (H : Sha256) (maxBytes : Nat) :
    (∀ bytes : Bytes, bytes.length ≤ maxBytes →
      (validateActiveFile H bytes maxBytes = .ok () ↔
        ∃ scan, scanFrames H bytes = .ok scan ∧ scan.incompleteTail = false)) ∧
    ∀ (rs : List SpoolRecord) (encs : List Bytes), rs.mapM (encodeFrame H) = .ok encs →
      encs.flatten.length ≤ maxBytes → validateActiveFile H encs.flatten maxBytes = .ok () := by
  refine ⟨fun bytes hlen => ⟨fun h => ?_, fun ⟨scan, hscan, htail⟩ => ?_⟩, fun rs encs hencs hlen => ?_⟩
  · obtain ⟨rs, hrs, rfl⟩ := validateActiveFile_ok h
    exact ⟨_, scanFrames_ok.mpr ⟨rs, [], hrs, scanFrame_nil H, (List.append_nil _).symm, rfl⟩, rfl⟩
  · obtain ⟨rs, tail, hrs, -, rfl, rfl⟩ := scanFrames_ok.mp hscan
    obtain rfl : tail = [] := by simpa using htail
    rw [List.append_nil] at hlen ⊢
    exact validateActiveFile_segment hrs hlen
  · obtain ⟨hrs, rfl⟩ := mapM_encodeFrame_ok.mp hencs
    rw [flatten_map_frameBytes] at hlen ⊢
    exact validateActiveFile_segment hrs hlen

/-- A file of one frame passes, by its scan. -/
theorem validateActiveFile_iff_sample :
    (frameBytes sampleSha sampleRecord).length ≤ 4096 ∧
      [sampleRecord].mapM (encodeFrame sampleSha) = .ok [frameBytes sampleSha sampleRecord] ∧
      validateActiveFile sampleSha [frameBytes sampleSha sampleRecord].flatten 4096 = .ok () ∧
      ∃ scan, scanFrames sampleSha (frameBytes sampleSha sampleRecord) = .ok scan ∧
        scan.incompleteTail = false := by
  have hlen : (frameBytes sampleSha sampleRecord).length ≤ 4096 := by decide
  have henc : [sampleRecord].mapM (encodeFrame sampleSha) = .ok [frameBytes sampleSha sampleRecord] :=
    mapM_encodeFrame_ok.mpr ⟨by simpa using ⟨by decide, by decide⟩, rfl⟩
  have hflat : [frameBytes sampleSha sampleRecord].flatten = frameBytes sampleSha sampleRecord := by simp
  have hok := (validateActiveFile_iff sampleSha 4096).2 [sampleRecord] _ henc (by rw [hflat]; exact hlen)
  refine ⟨hlen, henc, hok, ?_⟩
  rw [hflat] at hok
  exact ((validateActiveFile_iff sampleSha 4096).1 _ hlen).mp hok

/-! ## Commands whose system calls succeed -/

/-- No system call fails. -/
def Calm (outcomes : List Outcome) : Prop := ∀ outcome ∈ outcomes, outcome.failure = none

/-- Where no system call fails, the command returns `a` and leaves the spool `t`. -/
def Returns {α : Type} (s : Spool) (m : SpoolM α) (a : α) (t : Spool) : Prop :=
  ∀ outcomes, Calm outcomes → ∃ outcomes', Calm outcomes' ∧ m ⟨s, outcomes⟩ = (.ok a, ⟨t, outcomes'⟩)

section Returns
variable {α β : Type} {s t u : Spool} {a : α} {b : β}

theorem returns_pure : Returns s (pure a : SpoolM α) a s :=
  fun outcomes hcalm => ⟨outcomes, hcalm, rfl⟩

theorem returns_bind {m : SpoolM β} {k : β → SpoolM α} (hm : Returns s m b t) (hk : Returns t (k b) a u) :
    Returns s (m >>= k) a u := by
  intro outcomes hcalm
  obtain ⟨outcomes₁, hcalm₁, hm⟩ := hm outcomes hcalm
  obtain ⟨outcomes₂, hcalm₂, hk⟩ := hk outcomes₁ hcalm₁
  refine ⟨outcomes₂, hcalm₂, ?_⟩
  show andThen m k _ = _
  rw [andThen, hm]
  exact hk

theorem returns_io {k : Nat → SpoolM α} (h : ∀ stamp, Returns s (k stamp) a u) :
    Returns s (io >>= k) a u := by
  intro outcomes hcalm
  have hnext : (World.next ⟨s, outcomes⟩).failure = none := by
    cases outcomes with
    | nil => rfl
    | cons outcome rest => exact hcalm outcome List.mem_cons_self
  obtain ⟨outcomes', hcalm', hk⟩ := h (World.next ⟨s, outcomes⟩).stamp outcomes.tail
    fun outcome ho => hcalm outcome (List.mem_of_mem_tail ho)
  refine ⟨outcomes', hcalm', ?_⟩
  show andThen io k _ = _
  unfold andThen io
  rw [hnext]
  exact hk

theorem returns_spool {k : Spool → SpoolM α} (h : Returns s (k s) a u) : Returns s (spool >>= k) a u := h

theorem returns_change {f : Spool → Spool} {k : Unit → SpoolM α} (h : Returns (f s) (k ()) a u) :
    Returns s (change f >>= k) a u := h

theorem returns_lift {x : Except SpoolError β} {k : β → SpoolM α} (hx : x = .ok b)
    (h : Returns s (k b) a u) : Returns s (Command.lift x >>= k) a u := by
  subst hx
  exact h

theorem returns_check {e : SpoolError} {c : Bool} {k : Unit → SpoolM α} (hc : c = true)
    (h : Returns s (k ()) a u) : Returns s (Command.check e c >>= k) a u := by
  subst hc
  exact h

end Returns

/-! ## One page -/

/-- The frames of `rs` with their places, the first at `offset`. -/
def placed (H : Sha256) : Nat → List SpoolRecord → List SealedFrame
  | _, [] => []
  | offset, r :: rs => ⟨r, offset, offset + (frameBytes H r).length⟩ :: placed H (offset + (frameBytes H r).length) rs

theorem placed_append (rs rs' : List SpoolRecord) : ∀ offset : Nat,
    placed H offset (rs ++ rs') = placed H offset rs ++ placed H (offset + (segmentBytes H rs).length) rs' := by
  induction rs with
  | nil => intro offset; rfl
  | cons r rs ih =>
    intro offset
    rw [List.cons_append, placed, ih, placed, segmentBytes_cons, List.length_append, Nat.add_assoc]
    rfl

theorem placed_records (rs : List SpoolRecord) : ∀ offset : Nat,
    (placed H offset rs).map SealedFrame.record = rs := by
  induction rs with
  | nil => intro offset; rfl
  | cons r rs ih => intro offset; rw [placed, List.map_cons, ih]

theorem placed_eq_nil {rs : List SpoolRecord} {offset : Nat} : placed H offset rs = [] ↔ rs = [] := by
  cases rs with
  | nil => simp [placed]
  | cons r rs => simp [placed]

theorem placeFrames_segment : ∀ {rs : List SpoolRecord} {offset : Nat},
    offset + (segmentBytes H rs).length < 2 ^ 64 →
    placeFrames offset (rs.map (decodedFrame H)) =
      .ok (placed H offset rs, offset + (segmentBytes H rs).length) := by
  intro rs
  induction rs with
  | nil => intro offset _; rfl
  | cons r rs ih =>
    intro offset hlt
    rw [segmentBytes_cons, List.length_append] at hlt ⊢
    have hrest := @ih (offset + (frameBytes H r).length) (by omega)
    simp only [List.map_cons, placeFrames, bind_eq_ok, pure_eq_ok, Prod.exists, ensure_ok, decide_eq_true_eq]
    refine ⟨(), ?_, _, _, hrest, ?_⟩
    · show offset + (frameBytes H r).length < 2 ^ 64
      omega
    · rw [placed, Nat.add_assoc]
      rfl

/-- A page has a first frame when the payload of that frame alone fits the budget. -/
theorem pageTaken_ne_nil {protectedLength : SpoolRecord → Option Nat} {page : Option (Option SpoolReadCursor)}
    {frame : DecodedFrame} {frames : List DecodedFrame}
    (hfits : ∀ n, protectedLength frame.record = some n → n + 4096 ≤ pageBudget) :
    pageTaken protectedLength page (frame :: frames) ≠ [] := by
  unfold pageTaken
  split
  · have htake : (frame :: frames).take pageFrames = frame :: frames.take 255 := rfl
    rw [htake, withinBudget]
    split
    · exact List.cons_ne_nil _ _
    · next n hn =>
      have := hfits n hn
      have hneeded : saturatingAdd n 4096 ≤ pageBudget := by
        unfold saturatingAdd
        omega
      dsimp only
      rw [if_neg (Nat.not_lt.mpr hneeded)]
      exact List.cons_ne_nil _ _
  · exact List.cons_ne_nil _ _

/-- The page of a file that holds the frames of `taken`, from `start` on. -/
def pageOf (H : Sha256) (path : String) (file : File) (start : Nat) (taken : List SpoolRecord) : SealedSegment where
  path := path
  inode := file.inode
  length := file.bytes.length
  frames := placed H start taken
  endOffset := start + (segmentBytes H taken).length
  identity := file.identity

/-- What a read window over whole frames shows: at least one of them, and a torn tail only where the
window ends before the file does. -/
theorem window_scan {todo : List SpoolRecord} (hacc : ∀ r ∈ todo, Accepted r) (hne : todo ≠ [])
    {n : Nat} (hn : n = (segmentBytes H todo).length ∨ maxFrame < n ∧ n < (segmentBytes H todo).length) :
    ∃ front back torn, todo = front ++ back ∧ front ≠ [] ∧
      (n = (segmentBytes H todo).length → back = [] ∧ torn = false) ∧
      scanFrames H ((segmentBytes H todo).take n) =
        .ok ⟨front.map (decodedFrame H), (segmentBytes H front).length, torn⟩ := by
  obtain ⟨front, back, tail, rfl, hsplit, htail, hnext, hok⟩ :=
    scanFrames_cut hacc (List.take_append_drop n (segmentBytes H todo))
  have hwhole : n = (segmentBytes H (front ++ back)).length → back = [] ∧ tail = [] := by
    intro hall
    rw [hall, List.drop_length, List.append_nil] at hnext
    exact htail.eq_nil (fun r hr => hacc r (List.mem_append_right _ hr)) hnext
  refine ⟨front, back, !tail.isEmpty, rfl, fun hnil => ?_, fun hall => ?_, hok⟩
  swap
  · obtain ⟨hback, rfl⟩ := hwhole hall
    exact ⟨hback, rfl⟩
  rcases hn with hall | ⟨hbig, hpart⟩
  · rw [hnil, (hwhole hall).1] at hne
    exact hne rfl
  · have hlen := congrArg List.length hsplit
    have hshort := htail.short
    have hempty : segmentBytes H front = [] := by rw [hnil]; rfl
    rw [List.length_take, hempty, List.nil_append] at hlen
    omega

theorem readSegment_returns {protectedLength : SpoolRecord → Option Nat}
    {page : Option (Option SpoolReadCursor)} {path : String} {file : File}
    {done todo : List SpoolRecord} (hacc : ∀ r ∈ todo, Accepted r) (hne : todo ≠ [])
    (hbytes : file.bytes = segmentBytes H (done ++ todo)) (hstart : pageStart page = (segmentBytes H done).length)
    (hsize : file.bytes.length < 2 ^ 64)
    (hfits : ∀ r ∈ todo, ∀ n, protectedLength r = some n → n + 4096 ≤ pageBudget) :
    ∃ taken more, todo = taken ++ more ∧ taken ≠ [] ∧ (page = none → more = []) ∧
      ∀ s preserveCorruption, Returns s (readSegment H protectedLength page preserveCorruption (path, file))
        (pageOf H path file (segmentBytes H done).length taken) s := by
  have hdrop : file.bytes.drop (pageStart page) = segmentBytes H todo := by
    rw [hbytes, hstart, segmentBytes_append, List.drop_left]
  have hlength : file.bytes.length = (segmentBytes H done).length + (segmentBytes H todo).length := by
    rw [hbytes, segmentBytes_append, List.length_append]
  have havailable : file.bytes.length - pageStart page = (segmentBytes H todo).length := by
    omega
  have hwindow : ∀ n, n = (if page.isSome then min (segmentBytes H todo).length pageBytes
      else (segmentBytes H todo).length) →
      n = (segmentBytes H todo).length ∨ maxFrame < n ∧ n < (segmentBytes H todo).length := by
    intro n hn
    split at hn
    · simp only [maxFrame, pageBytes] at hn ⊢
      omega
    · exact .inl hn
  obtain ⟨front, back, torn, rfl, hfront, hwhole, hscan⟩ := window_scan hacc hne (hwindow _ rfl)
  obtain ⟨taken, htaken, hmap⟩ := List.prefix_map_iff.mp
    (pageTaken_isPrefix protectedLength page (front.map (decodedFrame H)))
  have htakenNe : taken ≠ [] := by
    intro hnil
    cases front with
    | nil => exact hfront rfl
    | cons r front =>
      rw [hnil] at hmap
      exact pageTaken_ne_nil (hfits r List.mem_cons_self) hmap
  obtain ⟨others, rfl⟩ := htaken
  refine ⟨taken, others ++ back, List.append_assoc _ _ _, htakenNe, fun hpage => ?_, ?_⟩
  · subst hpage
    have hothers : others = [] := by
      have hlen := congrArg List.length hmap
      simp only [pageTaken, Option.isSome_none, Bool.false_eq_true, if_false, List.length_map,
        List.length_append] at hlen
      exact List.eq_nil_of_length_eq_zero (by omega)
    rw [hothers, (hwhole rfl).1, List.append_nil]
  · have hplaced : placeFrames (pageStart page) (taken.map (decodedFrame H)) =
        .ok (placed H (segmentBytes H done).length taken,
          (segmentBytes H done).length + (segmentBytes H taken).length) := by
      rw [hstart]
      apply placeFrames_segment
      rw [segmentBytes_append, segmentBytes_append] at hlength
      simp only [List.length_append] at hlength
      omega
    intro s preserveCorruption
    unfold readSegment
    refine returns_check ?_ (returns_io fun _ => ?_)
    · simp only [decide_eq_true_eq]
      omega
    simp only [havailable, hdrop, hscan]
    generalize hn : (if page.isSome then min (segmentBytes H (taken ++ others ++ back)).length pageBytes
      else (segmentBytes H (taken ++ others ++ back)).length) = n at hwhole ⊢
    have hvalid : (decide (n = (segmentBytes H (taken ++ others ++ back)).length) && torn
        || ((taken ++ others).map (decodedFrame H)).isEmpty) = false := by
      rw [Bool.or_eq_false_iff]
      refine ⟨?_, by simpa using hfront⟩
      by_cases hall : n = (segmentBytes H (taken ++ others ++ back)).length
      · rw [(hwhole hall).2, Bool.and_false]
      · rw [decide_eq_false hall, Bool.false_and]
    rw [hvalid, Bool.and_false, if_neg Bool.false_ne_true]
    refine returns_lift rfl (returns_check rfl (returns_lift (hmap ▸ hplaced) (returns_check ?_ ?_)))
    · simpa [placed_eq_nil] using htakenNe
    · exact returns_io fun _ => returns_pure

/-! ## The pages of a file -/

def Spool.ordinary (s : Spool) : List (String × File) :=
  s.sealed.entries.filter fun entry => entry.1.startsWith isolatedStem == false

/-- The spool keeps its limits, and the file at `path` is the next one a reader gets: the first
ordinary file, and no segment of it is held. -/
structure Served (limits : SpoolLimits) (s : Spool) (path : String) (file : File) : Prop where
  named : ∀ entry ∈ s.ordinary, hasExtension "sealed" entry.1 = true
  few : s.ordinary.length ≤ limits.maxMainFiles.toNat
  first : s.ordinary.head? = some (path, file)
  fits : file.bytes.length ≤ limits.highWatermarkBytes.toNat
  free : ∀ held ∈ s.claims, held.inode ≠ file.inode

/-- The page starts at the file's beginning, or at a cursor of the file. -/
def StartsAt (page : Option (Option SpoolReadCursor)) (path : String) (file : File) (offset : Nat) : Prop :=
  page.join = none ∧ offset = 0 ∨ page = some (some ⟨path, file.identity, offset⟩)

theorem StartsAt.start {page : Option (Option SpoolReadCursor)} {path : String} {file : File} {offset : Nat}
    (h : StartsAt page path file offset) : pageStart page = offset := by
  unfold pageStart
  rcases h with ⟨hnone, rfl⟩ | rfl
  · rw [hnone]
  · rfl

section Served
variable {limits : SpoolLimits} {s : Spool} {path : String} {file : File}

/-- A reader that got a page and dropped it finds the spool as it was. -/
theorem Served.next (h : Served limits s path file) (segment : SealedSegment) :
    Served limits ((s.handOut [segment]).drop segment) path file := by
  refine ⟨h.named, h.few, h.first, h.fits, fun held hheld => ?_⟩
  have hmem : held ∈ s.claims ++ [segment] := List.mem_of_mem_filter hheld
  have hne : held ≠ segment := by simpa using List.of_mem_filter hheld
  rcases List.mem_append.mp hmem with hmem | hmem
  · exact h.free held hmem
  · exact absurd (List.mem_singleton.mp hmem) hne

theorem claimPaths_served (h : Served limits s path file) {page : Option (Option SpoolReadCursor)} {offset : Nat}
    (hpage : StartsAt page path file offset) :
    ∃ rest, claimPaths limits s false page = .ok ((path, file) :: rest) := by
  obtain ⟨rest, hordinary⟩ : ∃ rest, s.ordinary = (path, file) :: rest := by
    have hfirst := h.first
    cases hs : s.ordinary with
    | nil => rw [hs] at hfirst; cases hfirst
    | cons head rest =>
      rw [hs] at hfirst
      cases hfirst
      exact ⟨rest, rfl⟩
  have hnamed : s.ordinary.all (fun entry => hasExtension "sealed" entry.1) = true :=
    List.all_eq_true.mpr h.named
  have hfew := h.few
  rcases hpage with ⟨hnone, -⟩ | rfl
  · have hunfold : claimPaths limits s false page = (do
        ensure .corrupt (s.ordinary.all fun entry => hasExtension "sealed" entry.1)
        ensure .resourceExhausted (s.ordinary.length ≤ limits.maxMainFiles.toNat)
        return s.ordinary) := by
      cases page with
      | none => rfl
      | some page => cases hnone; rfl
    simp only [hunfold, ensure_bind_ok, decide_eq_true_eq]
    exact ⟨rest, hnamed, hfew, by rw [hordinary]; rfl⟩
  · have hunfold : ∀ cursor : SpoolReadCursor, claimPaths limits s false (some (some cursor)) = (do
        ensure .corrupt (s.ordinary.all fun entry => hasExtension "sealed" entry.1)
        ensure .resourceExhausted (s.ordinary.length ≤ limits.maxMainFiles.toNat)
        ensure .identityChanged (s.ordinary.any fun entry => entry.1 = cursor.path)
        return s.ordinary.filter fun entry => entry.1 = cursor.path) := fun _ => rfl
    simp only [hunfold, ensure_bind_ok, decide_eq_true_eq]
    refine ⟨rest.filter fun entry => entry.1 = path, hnamed, hfew, ?_⟩
    simp only [pure_eq_ok, hordinary]
    simp

theorem claimFiles_served (h : Served limits s path file) {page : Option (Option SpoolReadCursor)} {offset : Nat}
    (hpage : StartsAt page path file offset) (hne : file.bytes.length ≠ 0) (rest : List (String × File)) :
    claimFiles limits (fun inode => s.claims.any fun held => held.inode = inode) page 1 ((path, file) :: rest) =
      .ok [(path, file)] := by
  have hlocked : (s.claims.any fun held => held.inode = file.inode) = false := by
    simpa using h.free
  have hident : (page.join.all fun cursor => file.identity = cursor.identity) = true := by
    rcases hpage with ⟨hnone, -⟩ | rfl
    · rw [hnone]
      rfl
    · simp
  have hfits := h.fits
  have hrest : claimFiles limits (fun inode => s.claims.any fun held => held.inode = inode) page 0 rest = .ok [] := by
    cases rest with
    | nil => rfl
    | cons head rest => rfl
  have hcheck : (!(decide (file.bytes.length = 0)
      || decide (file.bytes.length > limits.highWatermarkBytes.toNat))) = true := by
    simp only [Bool.not_eq_true', Bool.or_eq_false_iff, decide_eq_false_iff_not]
    omega
  simp only [claimFiles, hlocked, Bool.false_eq_true, if_false, bind_eq_ok, pure_eq_ok, ensure_ok]
  exact ⟨(), hcheck, (), hident, [], hrest, rfl⟩

/-- One claim of the served file, whole or a page: some of the frames still to read, and all of them
where it is no page. -/
theorem claimedSegmentsInner_returns {protectedLength : SpoolRecord → Option Nat}
    {page : Option (Option SpoolReadCursor)} {done todo : List SpoolRecord}
    (hacc : ∀ r ∈ todo, Accepted r) (hne : todo ≠ []) (hbytes : file.bytes = segmentBytes H (done ++ todo))
    (hpage : StartsAt page path file (segmentBytes H done).length)
    (hsize : file.bytes.length < 2 ^ 64)
    (hfits : ∀ r ∈ todo, ∀ n, protectedLength r = some n → n + 4096 ≤ pageBudget) :
    ∃ taken more, todo = taken ++ more ∧ taken ≠ [] ∧ (page = none → more = []) ∧
      ∀ s, Served limits s path file → ∀ preserveCorruption,
        Returns s (claimedSegmentsInner H limits protectedLength 1 false page preserveCorruption)
          [pageOf H path file (segmentBytes H done).length taken]
          (s.handOut [pageOf H path file (segmentBytes H done).length taken]) := by
  obtain ⟨taken, more, hsplit, htaken, hmore, hread⟩ :=
    readSegment_returns hacc hne hbytes hpage.start hsize hfits
  refine ⟨taken, more, hsplit, htaken, hmore, fun s hserved preserveCorruption => ?_⟩
  have hlength : file.bytes.length ≠ 0 := by
    rw [hbytes, hsplit, segmentBytes_append, segmentBytes_append]
    cases taken with
    | nil => exact absurd rfl htaken
    | cons r taken =>
      have := length_frameBytes H r
      simp only [segmentBytes_cons, List.length_append, prefixLength] at this ⊢
      omega
  obtain ⟨rest, hpaths⟩ := claimPaths_served hserved hpage
  unfold claimedSegmentsInner
  refine returns_check ?_ (returns_io fun _ => returns_spool (returns_lift hpaths
    (returns_lift (claimFiles_served hserved hpage hlength rest) ?_)))
  · simp only [Bool.not_eq_true', Bool.or_eq_false_iff, decide_eq_false_iff_not]
    omega
  · refine returns_bind (returns_bind (hread s preserveCorruption) ?_) (returns_change returns_pure)
    exact returns_bind returns_pure returns_pure

end Served

/-- Read a file to its end: take a page, drop it, and go on from its continuation. `mode n` says
whether page `n` is an `ingest_page` or a `sealed_page`. -/
def readPages (H : Sha256) (limits : SpoolLimits) (protectedLength : SpoolRecord → Option Nat)
    (mode : Nat → Bool) : Nat → Option SpoolReadCursor → SpoolM (List SealedSegment)
  | 0, _ => Command.fail .resourceExhausted
  | fuel + 1, cursor => do
    let segments ← claimedSegmentsInner H limits protectedLength 1 false (some cursor) (mode 0)
    match segments with
    | [] => return []
    | segment :: _ =>
      change (·.drop segment)
      match segment.continuation with
      | none => return [segment]
      | some next => do
        let more ← readPages H limits protectedLength (fun n => mode (n + 1)) fuel (some next)
        return segment :: more

/-- The last page is complete, and no earlier one. -/
def OnlyLastComplete (pages : List SealedSegment) : Prop :=
  ∃ earlier last, pages = earlier ++ [last] ∧ last.complete = true ∧ ∀ page ∈ earlier, page.complete = false

/-- The frames follow each other without a gap from `start` to `stop`. -/
def Tiles : Nat → List SealedFrame → Nat → Prop
  | start, [], stop => start = stop
  | start, frame :: frames, stop => frame.byteStart = start ∧ start < frame.byteEnd ∧ Tiles frame.byteEnd frames stop

theorem placed_tiles (rs : List SpoolRecord) : ∀ offset : Nat,
    Tiles offset (placed H offset rs) (offset + (segmentBytes H rs).length) := by
  induction rs with
  | nil => intro offset; rfl
  | cons r rs ih =>
    intro offset
    have hpos := List.length_pos_of_ne_nil (frameBytes_ne_nil H r)
    have hrest := ih (offset + (frameBytes H r).length)
    rw [segmentBytes_cons, List.length_append, ← Nat.add_assoc]
    exact ⟨rfl, by dsimp only; omega, hrest⟩

theorem placed_bytes (rs : List SpoolRecord) : ∀ before : Bytes,
    (placed H before.length rs).map (fun frame =>
      ((before ++ segmentBytes H rs).drop frame.byteStart).take (frame.byteEnd - frame.byteStart)) =
      rs.map (frameBytes H) := by
  induction rs with
  | nil => intro before; rfl
  | cons r rs ih =>
    intro before
    have hrest := ih (before ++ frameBytes H r)
    rw [List.length_append] at hrest
    rw [placed, List.map_cons, List.map_cons, segmentBytes_cons, ← List.append_assoc, hrest,
      List.append_assoc, List.drop_left, Nat.add_sub_cancel_left, List.take_left]

/-- A page that ends the file has no continuation; another has its end as the next cursor. -/
theorem pageOf_continuation {path : String} {file : File} {done taken more : List SpoolRecord}
    (hbytes : file.bytes = segmentBytes H (done ++ (taken ++ more))) :
    (more = [] → (pageOf H path file (segmentBytes H done).length taken).complete = true ∧
      (pageOf H path file (segmentBytes H done).length taken).continuation = none) ∧
    (more ≠ [] → (pageOf H path file (segmentBytes H done).length taken).complete = false ∧
      (pageOf H path file (segmentBytes H done).length taken).continuation =
        some ⟨path, file.identity, (segmentBytes H (done ++ taken)).length⟩) := by
  have hend : (pageOf H path file (segmentBytes H done).length taken).endOffset =
      (segmentBytes H (done ++ taken)).length := by
    rw [segmentBytes_append, List.length_append]
    rfl
  have hlength : (pageOf H path file (segmentBytes H done).length taken).length =
      (segmentBytes H (done ++ taken)).length + (segmentBytes H more).length := by
    show file.bytes.length = _
    rw [hbytes, ← List.append_assoc, segmentBytes_append, List.length_append]
  refine ⟨fun hmore => ?_, fun hmore => ?_⟩
  · subst hmore
    have hsame : (pageOf H path file (segmentBytes H done).length taken).endOffset =
        (pageOf H path file (segmentBytes H done).length taken).length := hend.trans hlength.symm
    exact ⟨decide_eq_true hsame, if_pos hsame⟩
  · have hpos : 0 < (segmentBytes H more).length := by
      cases more with
      | nil => exact absurd rfl hmore
      | cons r more =>
        have := List.length_pos_of_ne_nil (frameBytes_ne_nil H r)
        rw [segmentBytes_cons, List.length_append]
        omega
    have hdiffer : (pageOf H path file (segmentBytes H done).length taken).endOffset ≠
        (pageOf H path file (segmentBytes H done).length taken).length := by
      omega
    refine ⟨decide_eq_false hdiffer, (if_neg hdiffer).trans ?_⟩
    rw [hend]
    rfl

/-- The pages from the frames `done` on: they hold the frames of `todo`, in order. -/
theorem readPages_returns {limits : SpoolLimits} {protectedLength : SpoolRecord → Option Nat} {path : String}
    {file : File} (hsize : file.bytes.length < 2 ^ 64) : ∀ (n : Nat) {done todo : List SpoolRecord} {cursor},
    todo.length ≤ n → (∀ r ∈ todo, Accepted r) → todo ≠ [] → file.bytes = segmentBytes H (done ++ todo) →
    StartsAt (some cursor) path file (segmentBytes H done).length →
    (∀ r ∈ todo, ∀ n, protectedLength r = some n → n + 4096 ≤ pageBudget) →
    ∃ pages, pages.flatMap SealedSegment.frames = placed H (segmentBytes H done).length todo ∧
      OnlyLastComplete pages ∧
      ∀ mode fuel s, n ≤ fuel → Served limits s path file →
        ∃ t, t.sealed = s.sealed ∧ Returns s (readPages H limits protectedLength mode fuel cursor) pages t := by
  intro n
  induction n with
  | zero =>
    intro done todo cursor hn _ hne
    exact absurd (List.eq_nil_of_length_eq_zero (Nat.le_zero.mp hn)) hne
  | succ n ih =>
    intro done todo cursor hn hacc hne hbytes hstart hfits
    obtain ⟨taken, more, rfl, htaken, -, hclaim⟩ :=
      @claimedSegmentsInner_returns H limits path file protectedLength _ done todo hacc hne hbytes hstart hsize hfits
    obtain ⟨hlast, hcontinues⟩ := @pageOf_continuation H path file done taken more hbytes
    have hpageFrames : (pageOf H path file (segmentBytes H done).length taken).frames =
        placed H (segmentBytes H done).length taken := rfl
    generalize pageOf H path file (segmentBytes H done).length taken = page at *
    by_cases hmore : more = []
    · obtain ⟨hcomplete, hnone⟩ := hlast hmore
      subst hmore
      refine ⟨[page], ?_, ⟨[], _, rfl, hcomplete, ?_⟩, ?_⟩
      · simp [hpageFrames]
      · intro other hother
        cases hother
      · intro mode fuel s hfuel hserved
        obtain ⟨fuel, rfl⟩ : ∃ k, fuel = k + 1 := ⟨fuel - 1, by omega⟩
        refine ⟨(s.handOut [page]).drop page, rfl, returns_bind (hclaim s hserved (mode 0)) (returns_change ?_)⟩
        rw [hnone]
        exact returns_pure
    · obtain ⟨hcomplete, hsome⟩ := hcontinues hmore
      have hlength : more.length ≤ n := by
        have := List.length_pos_of_ne_nil htaken
        rw [List.length_append] at hn
        omega
      obtain ⟨pages, hframes, ⟨earlier, last, rfl, hlastPage, hearlier⟩, hrun⟩ :=
        @ih (done ++ taken) more _ hlength (fun r hr => hacc r (List.mem_append_right _ hr)) hmore
          (by rw [hbytes, List.append_assoc]) (.inr rfl) fun r hr => hfits r (List.mem_append_right _ hr)
      refine ⟨page :: (earlier ++ [last]), ?_,
        ⟨page :: earlier, last, rfl, hlastPage, ?_⟩, ?_⟩
      · rw [List.flatMap_cons, hframes, hpageFrames, placed_append, segmentBytes_append, List.length_append]
      · intro other hother
        rcases List.mem_cons.mp hother with rfl | hother
        · exact hcomplete
        · exact hearlier other hother
      · intro mode fuel s hfuel hserved
        obtain ⟨fuel, rfl⟩ : ∃ k, fuel = k + 1 := ⟨fuel - 1, by omega⟩
        obtain ⟨t, hsealed, hrest⟩ := hrun (fun n => mode (n + 1)) fuel _ (by omega)
          (hserved.next page)
        refine ⟨t, hsealed, returns_bind (hclaim s hserved (mode 0)) (returns_change ?_)⟩
        rw [hsome]
        exact returns_bind hrest returns_pure

/-- **Paged reading equals reading the file whole.** The pages of a served file of encoded frames end,
without an error; their frames are the records in order, with ranges that tile the file and hold each
record's encoding, as the frames of the whole file read at once; only the last page is complete. -/
theorem pages_eq_whole (H : Sha256) (limits : SpoolLimits) (protectedLength : SpoolRecord → Option Nat)
    (s : Spool) (path : String) (file : File) (hserved : Served limits s path file)
    (rs : List SpoolRecord) (encs : List Bytes) (hencs : rs.mapM (encodeFrame H) = .ok encs) (hne : rs ≠ [])
    (hbytes : file.bytes = encs.flatten)
    (hbudget : ∀ r ∈ rs, ∀ n, protectedLength r = some n → n + 4096 ≤ pageBudget) :
    ∃ pages whole,
      (∀ mode fuel outcomes, rs.length ≤ fuel → Calm outcomes → ∃ w,
        readPages H limits protectedLength mode fuel none ⟨s, outcomes⟩ = (.ok pages, w) ∧
          w.spool.sealed = s.sealed) ∧
      (∀ outcomes, Calm outcomes → ∃ w,
        claimedSegmentsInner H limits protectedLength 1 false none false ⟨s, outcomes⟩ = (.ok [whole], w)) ∧
      pages.flatMap SealedSegment.frames = whole.frames ∧
      whole.frames.map SealedFrame.record = rs ∧
      Tiles 0 whole.frames file.bytes.length ∧
      whole.frames.map (fun frame =>
        (file.bytes.drop frame.byteStart).take (frame.byteEnd - frame.byteStart)) = encs ∧
      OnlyLastComplete pages := by
  obtain ⟨hacc, rfl⟩ := mapM_encodeFrame_ok.mp hencs
  rw [flatten_map_frameBytes] at hbytes
  have hsize : file.bytes.length < 2 ^ 64 :=
    Nat.lt_of_le_of_lt hserved.fits limits.highWatermarkBytes.toNat_lt
  obtain ⟨pages, hframes, hlast, hrun⟩ := @readPages_returns H limits protectedLength path file hsize rs.length [] rs
    none (Nat.le_refl _) hacc hne hbytes (.inl ⟨rfl, rfl⟩) hbudget
  obtain ⟨taken, more, hsplit, -, hmore, hclaim⟩ := @claimedSegmentsInner_returns H limits path file protectedLength
    none [] rs hacc hne hbytes (.inl ⟨rfl, rfl⟩) hsize hbudget
  rw [hmore rfl, List.append_nil] at hsplit
  subst hsplit
  refine ⟨pages, pageOf H path file 0 rs, fun mode fuel outcomes hfuel hcalm => ?_, fun outcomes hcalm => ?_,
    hframes, placed_records rs 0, ?_, ?_, hlast⟩
  · obtain ⟨t, hsealed, hreturns⟩ := hrun mode fuel s hfuel hserved
    obtain ⟨outcomes', -, h⟩ := hreturns outcomes hcalm
    exact ⟨_, h, hsealed⟩
  · obtain ⟨outcomes', -, h⟩ := hclaim s hserved false outcomes hcalm
    exact ⟨_, h⟩
  · rw [hbytes]
    have htiles := placed_tiles (H := H) rs 0
    rw [Nat.zero_add] at htiles
    exact htiles
  · rw [hbytes]
    exact placed_bytes rs []

def sampleFile : File := ⟨0, [frameBytes sampleSha sampleRecord, frameBytes sampleSha sampleRecord].flatten, 7⟩

def sampleSealed : Spool :=
  { Spool.empty with sealed := OrdMap.empty.insert "segment-1-0000.sealed" sampleFile, nextInode := 1 }

theorem sampleSealed_served : Served sampleLimits sampleSealed "segment-1-0000.sealed" sampleFile where
  named := by decide +kernel
  few := by decide +kernel
  first := by decide +kernel
  fits := by decide +kernel
  free := by
    intro held hheld
    cases hheld

/-- Its pages are its two records. -/
theorem pages_eq_whole_sample :
    Served sampleLimits sampleSealed "segment-1-0000.sealed" sampleFile ∧
      [sampleRecord, sampleRecord].mapM (encodeFrame sampleSha) =
        .ok [frameBytes sampleSha sampleRecord, frameBytes sampleSha sampleRecord] ∧
      ∃ pages w, readPages sampleSha sampleLimits (fun _ => none) (fun _ => true) 2 none ⟨sampleSealed, []⟩ =
          (.ok pages, w) ∧
        (pages.flatMap SealedSegment.frames).map SealedFrame.record = [sampleRecord, sampleRecord] ∧
        OnlyLastComplete pages := by
  have henc : [sampleRecord, sampleRecord].mapM (encodeFrame sampleSha) =
      .ok [frameBytes sampleSha sampleRecord, frameBytes sampleSha sampleRecord] :=
    mapM_encodeFrame_ok.mpr ⟨by simpa using ⟨by decide, by decide⟩, rfl⟩
  obtain ⟨pages, whole, hpages, -, hframes, hrecords, -, -, hlast⟩ :=
    pages_eq_whole sampleSha sampleLimits (fun _ => none) sampleSealed "segment-1-0000.sealed" sampleFile
      sampleSealed_served [sampleRecord, sampleRecord] _ henc (List.cons_ne_nil _ _) rfl (by simp)
  obtain ⟨w, hrun, -⟩ := hpages (fun _ => true) 2 [] (Nat.le_refl _) (fun _ h => by cases h)
  exact ⟨sampleSealed_served, henc, pages, w, hrun, by rw [hframes, hrecords], hlast⟩

end EverTrace.L2.Capture
