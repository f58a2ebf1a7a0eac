import EverTrace.L2Machine.SpoolDurable
/-!
# Every operation of the spool keeps its records

Symbolic execution of the operations of `Spool` by the rules of `Lib.Command`:
from a spool `s` with the invariant, whatever its system calls do, an operation
ends, returning or failing, in a spool with the invariant.

Results: `spool_no_loss`.
-/
namespace EverTrace.L2.Capture
open EverTrace.Lib EverTrace.Lib.Command EverTrace.L1 EverTrace.L1.Frame

variable {H : Sha256} {α : Type}

/-- The spool satisfies `A`, whatever outcomes are to come. -/
def On (A : Spool → Prop) : World → Prop := fun w => A w.spool

/-- The command, started on the spool `s`, ends in `R` or fails in `E`. -/
def From (E : Spool → Prop) (s : Spool) (m : SpoolM α) (R : α → Spool → Prop) : Prop :=
  Triple (On (· = s)) m (fun a => On (R a)) (On E)

/-- The command keeps the invariant from `s` on, returning or failing. -/
def Keeps (H : Sha256) (s : Spool) (m : SpoolM α) : Prop := From (Inv H) s m fun _ => Inv H

section From
variable {β : Type} {E : Spool → Prop} {s : Spool} {R : α → Spool → Prop} {k : β → SpoolM α}

theorem on_of_eq {A : Spool → Prop} {w : World} (hw : On (· = s) w) (h : A s) : On A w := by
  have hw : w.spool = s := hw
  unfold On
  rw [hw]
  exact h

theorem from_pure {a : α} (h : R a s) : From E s (pure a) R :=
  Triple.pure fun _ hw => on_of_eq hw h

theorem from_fail {e : SpoolError} (h : E s) : From E s (Command.fail e : SpoolM α) R :=
  Triple.fail fun _ hw => on_of_eq hw h

theorem from_bind {m : SpoolM β} {Q : β → Spool → Prop} (hm : From E s m Q)
    (hk : ∀ b t, Q b t → From E t (k b) R) : From E s (m >>= k) R :=
  Triple.bind hm fun b w hw => hk b w.spool hw w rfl

theorem from_spool {k : Spool → SpoolM α} (h : From E s (k s) R) : From E s (spool >>= k) R := by
  refine Triple.bind_read fun t w hw => ?_
  obtain ⟨hs, ht⟩ := hw
  have : t = s := ht.symm.trans hs
  subst this
  exact h w hs

theorem from_io {k : Nat → SpoolM α} (hs : E s) (h : ∀ stamp, From E s (k stamp) R) :
    From E s (io >>= k) R := by
  refine Triple.bind (Q := fun _ => On (· = s)) (fun w hw => ?_) h
  unfold io
  cases hfail : w.next.failure with
  | none => exact hw
  | some e => exact on_of_eq hw hs

theorem from_change {f : Spool → Spool} {k : Unit → SpoolM α} (h : From E (f s) (k ()) R) :
    From E s (change f >>= k) R := by
  refine Triple.bind (Q := fun _ => On (· = f s)) (Triple.change fun w hw => ?_) fun _ => h
  exact congrArg f hw

theorem from_change_last {f : Spool → Spool} {Q : Unit → Spool → Prop} (h : Q () (f s)) :
    From E s (change f) Q := by
  refine Triple.change fun w hw => ?_
  have hw : w.spool = s := hw
  show Q () (f w.spool)
  rw [hw]
  exact h

theorem from_lift {x : Except SpoolError β} (hs : E s) (h : ∀ b, x = .ok b → From E s (k b) R) :
    From E s (Command.lift x >>= k) R :=
  Triple.bind (Q := fun b => On fun t => t = s ∧ x = .ok b) (Triple.lift (fun _ hw _ hb => ⟨hw, hb⟩)
    fun _ hw => on_of_eq hw hs) fun b w hw => h b hw.2 w hw.1

theorem from_check {e : SpoolError} {c : Bool} {k : Unit → SpoolM α} (hs : E s)
    (h : c = true → From E s (k ()) R) : From E s (Command.check e c >>= k) R :=
  Triple.bind (Q := fun _ => On fun t => t = s ∧ c = true) (Triple.check (fun _ hw hc => ⟨hw, hc⟩)
    fun _ hw => on_of_eq hw hs) fun _ w hw => h hw.2 w hw.1

theorem from_writeAll {extend : Spool → Bytes → Nat → Spool} {bytes : Bytes} {k : Unit → SpoolM α}
    (hcut : ∀ n stamp, E (extend s (bytes.take n) stamp))
    (h : ∀ stamp, From E (extend s bytes stamp) (k ()) R) : From E s (writeAll extend bytes >>= k) R := by
  refine Triple.bind (Q := fun _ => On fun t => ∃ stamp, t = extend s bytes stamp) (fun w hw => ?_)
    fun _ w hw => ?_
  · have hw : w.spool = s := hw
    unfold writeAll
    cases hfail : w.next.failure with
    | none => exact ⟨w.next.stamp, congrArg (extend · bytes w.next.stamp) hw⟩
    | some e =>
      show E (extend w.spool _ _)
      rw [hw]
      exact hcut _ _
  · obtain ⟨stamp, hw⟩ := hw
    exact h stamp w hw

/-- A command whose outcome is looked at afterwards. -/
theorem from_attempt {m : SpoolM β} {E' : Spool → Prop} {Q : β → Spool → Prop}
    {k : Except SpoolError β → SpoolM α} (hm : From E' s m Q) (hok : ∀ b t, Q b t → From E t (k (.ok b)) R)
    (herr : ∀ e t, E' t → From E t (k (.error e)) R) : From E s (Command.attempt m >>= k) R := by
  refine Triple.bind (Q := fun x => On fun t => From E t (k x) R)
    (Triple.attempt hm (fun b w hw => hok b w.spool hw) fun e w hw => herr e w.spool hw) ?_
  exact fun x w hw => hw w rfl

end From

variable {s : Spool}

/-! ## Appending -/

theorem lastWatermark_inv (h : Inv H s) (n : Nat) : Inv H { s with lastWatermark := n } :=
  h.congr rfl rfl rfl rfl rfl h.claims h.cursors

theorem encode_ok {record : SpoolRecord} {frame : Bytes}
    (h : (encodeFrame H record).mapError SpoolError.ofFrame = .ok frame) :
    Accepted record ∧ frame = frameBytes H record := by
  cases henc : encodeFrame H record with
  | error e =>
    rw [henc] at h
    cases h
  | ok b =>
    rw [henc] at h
    cases h
    exact encodeFrame_ok.mp henc

theorem writeFrame_inv (h : Inv H s) {file : File} (hfile : s.active = some file) {rs : List SpoolRecord}
    (hrs : ∀ r ∈ rs, Accepted r) (hbytes : file.bytes = segmentBytes H rs) {record : SpoolRecord}
    (hrecord : Accepted record) : Keeps H s (writeFrame record (frameBytes H record)) := by
  unfold writeFrame
  refine from_writeAll (fun n stamp => h.extendActive hfile hrs hbytes hrecord ( List.take_prefix _ _) stamp)
    fun stamp => ?_
  have hext := h.extendActive hfile hrs hbytes hrecord (List.prefix_refl _) stamp
  have hactive : (s.extendActive (frameBytes H record) stamp).active =
      some { file with bytes := file.bytes ++ frameBytes H record, stamp } := by
    rw [Spool.extendActive, hfile, Option.map_some]
  refine from_io hext fun _ => from_spool ?_
  rw [hactive]
  refine from_change (from_change (from_pure ?_))
  refine (lastWatermark_inv hext _).recordAppended ⟨?_, fun f hf _ => ?_, ?_⟩
  · exact h.activeUsed file hfile
  · obtain rfl := Option.some.inj (hactive.symm.trans hf)
    dsimp only
    rw [hbytes]
    exact HoldsFrame.last hrs hrecord
  · refine .inl ⟨_, hactive, rfl, ?_⟩
    dsimp only
    rw [hbytes]
    exact HoldsFrame.last hrs hrecord

theorem append_inv (h : Inv H s) (limits : SpoolLimits) (record : SpoolRecord) :
    Keeps H s (append H limits record) := by
  unfold append
  refine from_io h fun _ => from_lift h fun frame hframe => from_io h fun _ => from_spool ?_
  refine from_check h fun _ => from_io h fun stamp => from_change ?_
  obtain ⟨hrecord, rfl⟩ := encode_ok hframe
  have hopen := h.openActive stamp
  refine from_io hopen fun _ => ?_
  cases hactive : s.active with
  | none =>
    -- a file just created holds no frames
    have hnew : (s.openActive stamp).active = some ⟨s.nextInode, [], stamp⟩ := by
      simp only [Spool.openActive, hactive]
    have hnone : ∀ r ∈ ([] : List SpoolRecord), Accepted r := fun r hr => by cases hr
    exact writeFrame_inv hopen hnew hnone rfl hrecord
  | some file =>
    have hsame : (s.openActive stamp).active = some file := by
      simp only [Spool.openActive, hactive]
    refine from_lift hopen fun _ hvalid => ?_
    obtain ⟨rs, hrs, hbytes⟩ := validateActiveFile_ok hvalid
    exact writeFrame_inv hopen hsame hrs hbytes hrecord

/-! ## Isolated segments -/

theorem uniquePath_free {taken : String → Bool} {stem suffix path : String}
    (h : uniquePath taken stem suffix = .ok path) : taken path = false := by
  unfold uniquePath at h
  rw [okOr_ok] at h
  simpa using List.find?_some h

theorem get_of_free {m : OrdMap String File} {path : String} (h : (m.get path).isSome = false) :
    m.get path = none := by
  simpa using h

/-- A published segment is the frame, and no append knows it yet; a failed one can be removed. -/
theorem publish_inv (h : Inv H s) {destination : String} (hfree : s.sealed.get destination = none)
    (frame : Bytes) : From (fun t => Inv H t ∧ Private t destination) s (publish destination frame)
      fun file t => Inv H t ∧ t.sealed.get destination = some file ∧ file.bytes = frame := by
  have hnone : Private s destination := fun file hfile => by rw [hfree] at hfile; cases hfile
  unfold publish
  refine from_io ⟨h, hnone⟩ fun stamp => from_change ?_
  obtain ⟨hcreate, hprivate⟩ := h.createSealed hfree stamp
  have hfile : (s.createSealed destination stamp).sealed.get destination = some ⟨s.nextInode, [], stamp⟩ :=
    OrdMap.get_insert_self _ _ _
  have hwrite : ∀ bytes stamp', Inv H ((s.createSealed destination stamp).extendSealed destination bytes stamp') ∧
      ((s.createSealed destination stamp).extendSealed destination bytes stamp').sealed.get destination =
        some ⟨s.nextInode, bytes, stamp'⟩ ∧
      Private ((s.createSealed destination stamp).extendSealed destination bytes stamp') destination := by
    intro bytes stamp'
    have hget : ((s.createSealed destination stamp).extendSealed destination bytes stamp').sealed.get
        destination = some ⟨s.nextInode, bytes, stamp'⟩ := by
      rw [Spool.extendSealed, hfile]
      exact OrdMap.get_insert_self _ _ _
    refine ⟨hcreate.extendSealed hfile rfl bytes stamp', hget, fun f hf r n hr => ?_⟩
    rw [hget] at hf
    cases hf
    refine hprivate _ hfile r n ?_
    rw [Spool.extendSealed, hfile] at hr
    exact hr
  refine from_writeAll (fun n stamp' => ⟨(hwrite _ stamp').1, (hwrite _ stamp').2.2⟩) fun stamp' => ?_
  obtain ⟨hinv, hget, hpriv⟩ := hwrite frame stamp'
  refine from_io ⟨hinv, hpriv⟩ fun _ => from_spool ?_
  rw [hget]
  exact Triple.lift (fun w hw file hok => by cases hok; exact on_of_eq hw ⟨hinv, hget, rfl⟩)
    fun w hw => on_of_eq hw ⟨hinv, hpriv⟩

/-- The segment of a published frame is delivered to whoever published it. -/
theorem appendIsolatedSealed_inv (h : Inv H s) (limits : SpoolLimits) (record : SpoolRecord)
    (routingHint : String) : Keeps H s (appendIsolatedSealed H limits record routingHint) := by
  unfold appendIsolatedSealed
  refine from_check h fun _ => from_io h fun _ => from_lift h fun frame hframe => ?_
  refine from_io h fun _ => from_spool (from_check h fun _ => from_check h fun _ => ?_)
  refine from_lift h fun destination hdest => ?_
  obtain ⟨hrecord, rfl⟩ := encode_ok hframe
  have hfree := get_of_free (uniquePath_free hdest)
  refine from_attempt (publish_inv h hfree _) (fun file t ht => ?_) (fun e t ht => ?_)
  · obtain ⟨hinv, hget, hbytes⟩ := ht
    have hholds : HoldsFrame H file.bytes record (frameBytes H record).length := by
      have hnone : ∀ r ∈ ([] : List SpoolRecord), Accepted r := fun r hr => by cases hr
      rw [hbytes]
      exact HoldsFrame.last hnone hrecord
    refine from_change (from_change (from_pure ?_))
    have happended : Inv H (t.record (.appended record file.inode (frameBytes H record).length)) :=
      hinv.recordAppended ⟨hinv.sealedUsed destination file hget,
        fun a ha hinode => absurd hinode (hinv.sealedInactive destination file a hget ha),
        .inr (.inl ⟨destination, file, hget, rfl, hholds⟩)⟩
    refine happended.handOut fun segment hsegment => ?_
    obtain rfl := List.mem_singleton.mp hsegment
    refine ⟨rfl, destination, file, hget, rfl, [record], [], fun r hr => ?_, ?_, ?_, fun r hr => ?_⟩
    · rw [List.mem_singleton.mp hr]
      exact hrecord
    · rw [segmentBytes_singleton, List.append_nil, hbytes]
    · rw [segmentBytes_singleton, hbytes]
    · exact ⟨_, List.mem_append_right _ (List.mem_singleton_self _), rfl, hr⟩
  · have hclean : Keeps H t (do let _ ← io; change (·.removeSealed destination)) :=
      from_io ht.1 fun _ => from_change_last (ht.1.removePrivate ht.2)
    exact from_attempt hclean (fun _ t' ht' => from_fail ht') fun _ t' ht' => from_fail ht'

/-! ## Sealing and quarantine -/

theorem sealActive_inv (h : Inv H s) (generation : UInt64) : Keeps H s (sealActive generation) := by
  unfold sealActive
  refine from_io h fun _ => from_spool ?_
  cases hactive : s.active with
  | none => exact from_pure h
  | some file =>
    refine Triple.ite (fun _ => from_pure h) fun _ => from_lift h fun destination hdest => ?_
    have hfree := get_of_free (uniquePath_free hdest)
    refine from_io h fun stamp => from_change ?_
    have hrename := h.renameActive hfree stamp
    exact from_io hrename fun _ => from_change (from_pure (lastWatermark_inv hrename 0))

theorem quarantine_inv (h : Inv H s) (source : Carrier) : Keeps H s (quarantine source) := by
  unfold quarantine
  refine from_spool (from_lift h fun destination hdest => from_io h fun stamp => from_change ?_)
  have hmove := h.moveToQuarantine source (get_of_free (uniquePath_free hdest)) stamp
  exact from_io hmove fun _ => from_pure hmove

/-! ## Claiming -/

/-- The pages of a claim: a prefix of the frames that were scanned. -/
theorem withinBudget_isPrefix {protectedLength : SpoolRecord → Option Nat} : ∀ {frames : List DecodedFrame}
    {remaining : Nat}, withinBudget protectedLength remaining frames <+: frames := by
  intro frames
  induction frames with
  | nil => intro _; exact List.prefix_refl _
  | cons frame rest ih =>
    intro remaining
    unfold withinBudget
    split
    · exact List.cons_prefix_cons.mpr ⟨rfl, ih⟩
    · dsimp only
      split
      · exact List.nil_prefix
      · exact List.cons_prefix_cons.mpr ⟨rfl, ih⟩

theorem pageTaken_isPrefix (protectedLength : SpoolRecord → Option Nat)
    (page : Option (Option SpoolReadCursor)) (frames : List DecodedFrame) :
    pageTaken protectedLength page frames <+: frames := by
  unfold pageTaken
  split
  · exact withinBudget_isPrefix.trans ( List.take_prefix _ _)
  · exact List.prefix_refl _

theorem placeFrames_ok {rs : List SpoolRecord} : ∀ {offset stop : Nat} {frames : List SealedFrame},
    placeFrames offset (rs.map (decodedFrame H)) = .ok (frames, stop) →
      frames.map SealedFrame.record = rs ∧ stop = offset + (segmentBytes H rs).length := by
  induction rs with
  | nil =>
    intro offset stop frames h
    cases h
    exact ⟨rfl, rfl⟩
  | cons r rs ih =>
    intro offset stop frames h
    simp only [List.map_cons, placeFrames, bind_eq_ok, pure_eq_ok, Prod.exists] at h
    obtain ⟨-, -, frames', stop', hrest, heq⟩ := h
    cases heq
    obtain ⟨hframes, hstop⟩ := ih hrest
    refine ⟨by rw [List.map_cons, hframes]; rfl, ?_⟩
    have hsplit : segmentBytes H (r :: rs) = frameBytes H r ++ segmentBytes H rs := rfl
    rw [hstop, hsplit, List.length_append, decodedFrame]
    dsimp only
    omega

/-- What a claim returns about the files of `s`. -/
def GoodSegment (H : Sha256) (s : Spool) (segment : SealedSegment) : Prop :=
  segment.identity.inode = segment.inode ∧
    ∃ name file, s.sealed.get name = some file ∧ file.inode = segment.inode ∧
      Delivered H (s.history ++ [.claimed segment]) file segment.endOffset

/-- The file that a claim reads, and where it starts. -/
structure Claimable (H : Sha256) (s : Spool) (page : Option (Option SpoolReadCursor)) (path : String)
    (file : File) : Prop where
  found : s.sealed.get path = some file
  start : ∀ cursor, page.join = some cursor → Delivered H s.history file cursor.offset

theorem delivered_zero (history : List Event) (file : File) : Delivered H history file 0 :=
  ⟨[], file.bytes, fun r hr => (by cases hr), rfl, rfl, fun r hr => by cases hr⟩

/-- A page of whole frames, read from where the delivered ones end. -/
theorem Delivered.page {history : List Event} {file : File} {start n : Nat}
    (h : Delivered H history file start) {rs : List SpoolRecord} (hrs : ∀ r ∈ rs, Accepted r) {tail : Bytes}
    (hpage : (file.bytes.drop start).take n = segmentBytes H rs ++ tail) {segment : SealedSegment}
    (hinode : segment.inode = file.inode) {taken : List SpoolRecord} (htaken : taken <+: rs)
    (hframes : segment.frames.map SealedFrame.record = taken) :
    Delivered H (history ++ [.claimed segment]) file (start + (segmentBytes H taken).length) := by
  obtain ⟨front, rest, hfront, hbytes, hlen, hseen⟩ := h
  obtain ⟨others, rfl⟩ := htaken
  have hrest : file.bytes.drop start = rest := by
    rw [hbytes, ← hlen, List.drop_left]
  obtain ⟨more, hmore⟩ : ∃ more, rest = segmentBytes H taken ++ more := by
    refine ⟨segmentBytes H others ++ tail ++ rest.drop n, ?_⟩
    rw [hrest, segmentBytes_append] at hpage
    calc rest = rest.take n ++ rest.drop n := (List.take_append_drop n rest).symm
      _ = segmentBytes H taken ++ (segmentBytes H others ++ tail ++ rest.drop n) := by
        rw [hpage]
        simp only [List.append_assoc]
  refine ⟨front ++ taken, more, fun r hr => ?_, ?_, ?_, fun r hr => ?_⟩
  · rcases List.mem_append.mp hr with hr | hr
    · exact hfront r hr
    · exact hrs r (List.mem_append_left _ hr)
  · rw [segmentBytes_append, hbytes, hmore, List.append_assoc]
  · rw [segmentBytes_append, List.length_append, hlen]
  · rcases List.mem_append.mp hr with hr | hr
    · obtain ⟨seen, hclaimed, h⟩ := hseen r hr
      exact ⟨seen, List.mem_append_left _ hclaimed, h⟩
    · refine ⟨segment, List.mem_append_right _ (List.mem_singleton_self _), hinode, ?_⟩
      rw [hframes]
      exact hr

theorem readSegment_inv (h : Inv H s) (protectedLength : SpoolRecord → Option Nat)
    {page : Option (Option SpoolReadCursor)} (preserveCorruption : Bool) {path : String} {file : File}
    (hclaim : Claimable H s page path file) :
    From (Inv H) s (readSegment H protectedLength page preserveCorruption (path, file))
      fun segment t => t = s ∧ GoodSegment H s segment := by
  have hdelivered : Delivered H s.history file (pageStart page) := by
    unfold pageStart
    cases hjoin : page.join with
    | none => exact delivered_zero _ _
    | some cursor => exact hclaim.start cursor hjoin
  unfold readSegment
  refine from_check h fun _ => from_io h fun _ => ?_
  refine Triple.ite (fun _ => from_io h fun _ => ?_) fun _ => ?_
  · exact from_bind (quarantine_inv h _) fun _ t ht => from_fail ht
  · refine from_lift h fun scan hscan => from_check h fun _ => from_lift h fun placed hplaced => ?_
    obtain ⟨frames, stop⟩ := placed
    refine from_check h fun _ => from_io h fun _ => from_pure ⟨rfl, rfl, path, file, hclaim.found, rfl, ?_⟩
    obtain ⟨rs, tail, hrs, -, hbytes, rfl⟩ := scanFrames_ok.mp (mapError_ok.mp hscan)
    obtain ⟨taken, htaken, hmap⟩ := List.prefix_map_iff.mp
      (pageTaken_isPrefix protectedLength page (rs.map (decodedFrame H)))
    rw [hmap] at hplaced
    obtain ⟨hframes, rfl⟩ := placeFrames_ok hplaced
    exact hdelivered.page hrs hbytes rfl htaken hframes

theorem claimFiles_mem {limits : SpoolLimits} {locked : Nat → Bool}
    {page : Option (Option SpoolReadCursor)} : ∀ {paths : List (String × File)} {limit : Nat}
    {claimed : List (String × File)}, claimFiles limits locked page limit paths = .ok claimed →
    ∀ claim ∈ claimed, claim ∈ paths ∧
      ∀ cursor, page.join = some cursor → claim.2.identity = cursor.identity := by
  intro paths
  induction paths with
  | nil =>
    intro limit claimed h claim hclaim
    unfold claimFiles at h
    cases h
    cases hclaim
  | cons head rest ih =>
    intro limit claimed h claim hclaim
    obtain ⟨path, file⟩ := head
    cases limit with
    | zero =>
      unfold claimFiles at h
      cases h
      cases hclaim
    | succ limit =>
      simp only [claimFiles, ensure_bind_ok] at h
      obtain ⟨-, h⟩ := h
      split at h
      · obtain ⟨hmem, hident⟩ := ih h claim hclaim
        exact ⟨List.mem_cons_of_mem _ hmem, hident⟩
      · simp only [bind_eq_ok, ensure_ok, pure_eq_ok] at h
        obtain ⟨-, hident, more, hmore, rfl⟩ := h
        rcases List.mem_cons.mp hclaim with rfl | hclaim
        · refine ⟨List.mem_cons_self, fun cursor hcursor => ?_⟩
          rw [hcursor] at hident
          simpa using hident
        · obtain ⟨hmem, hident⟩ := ih hmore claim hclaim
          exact ⟨List.mem_cons_of_mem _ hmem, hident⟩

theorem claimPaths_mem {limits : SpoolLimits} {isolated : Bool} {page : Option (Option SpoolReadCursor)}
    {paths : List (String × File)} (h : claimPaths limits s isolated page = .ok paths) :
    ∀ claim ∈ paths, claim ∈ s.sealed.entries := by
  simp only [claimPaths, ensure_bind_ok] at h
  obtain ⟨-, -, h⟩ := h
  intro claim hclaim
  split at h
  · simp only [ensure_bind_ok, pure_eq_ok] at h
    obtain ⟨-, rfl⟩ := h
    exact List.mem_of_mem_filter (List.mem_of_mem_filter hclaim)
  · cases h
    exact List.mem_of_mem_filter hclaim

theorem claimedSegmentsInner_inv (h : Inv H s) (limits : SpoolLimits)
    (protectedLength : SpoolRecord → Option Nat) (limit : Nat) (isolated : Bool)
    {page : Option (Option SpoolReadCursor)} (preserveCorruption : Bool)
    (hpage : ∀ cursor, page.join = some cursor → cursor ∈ s.cursors) :
    Keeps H s (claimedSegmentsInner H limits protectedLength limit isolated page preserveCorruption) := by
  unfold claimedSegmentsInner
  refine from_check h fun _ => from_io h fun _ => from_spool (from_lift h fun paths hpaths => ?_)
  refine from_lift h fun claimed hclaimed => ?_
  have hclaimable : ∀ claim ∈ claimed, Claimable H s page claim.1 claim.2 := by
    intro claim hclaim
    obtain ⟨hmem, hident⟩ := claimFiles_mem hclaimed claim hclaim
    have hfound := OrdMap.mem_entries.mp (claimPaths_mem hpaths claim hmem)
    refine ⟨hfound, fun cursor hcursor => ?_⟩
    have hreads := h.cursors cursor (hpage cursor hcursor)
    exact hreads.delivered _ _ hfound (congrArg Identity.inode (hident cursor hcursor))
  have hcollect : From (Inv H) s (Command.collect (readSegment H protectedLength page preserveCorruption) claimed)
      fun segments t => t = s ∧ ∀ segment ∈ segments, GoodSegment H s segment :=
    Triple.collect fun claim hclaim => readSegment_inv h protectedLength preserveCorruption (hclaimable claim hclaim)
  refine from_bind hcollect fun segments t ht => ?_
  obtain ⟨rfl, hgood⟩ := ht
  exact from_change (from_pure (h.handOut hgood))

/-! ## Acknowledging and recovering -/

theorem acknowledgeSegment_inv (h : Inv H s) {segment : SealedSegment} (hsegment : segment ∈ s.claims)
    (committedFrames : Nat) : Keeps H s (acknowledgeSegment segment committedFrames) := by
  unfold acknowledgeSegment
  refine from_check h fun hcomplete => from_io h fun _ => from_spool (from_lift h fun file hfile => ?_)
  refine from_check h fun hident => from_io h fun _ => from_change ?_
  rw [okOr_ok] at hfile
  simp only [Bool.not_eq_true', Bool.or_eq_false_iff, Bool.not_eq_false', SealedSegment.complete,
    decide_eq_true_eq, decide_eq_false_iff_not, not_not] at hcomplete hident
  obtain ⟨⟨hinode, hlength⟩, -⟩ := hident
  have hremove := h.removeClaimed hsegment hfile hinode (hcomplete.1.1.trans hlength.symm)
  exact from_io hremove fun _ => from_pure hremove

theorem recoverSealed_inv (h : Inv H s) (path : String) : Keeps H s (recoverSealed H path) := by
  unfold recoverSealed
  refine from_io h fun _ => from_spool (from_lift h fun file hfile => ?_)
  refine Triple.ite (fun _ => ?_) fun _ => from_pure h
  exact from_bind (quarantine_inv h _) fun _ t ht => from_pure ht

theorem recoverActive_inv (h : Inv H s) : Keeps H s (recoverActive H) := by
  unfold recoverActive
  refine from_io h fun _ => from_spool ?_
  cases hactive : s.active with
  | none => exact from_pure h
  | some file =>
    dsimp only
    cases hscan : scanFrames H file.bytes with
    | error e =>
      exact from_bind (quarantine_inv h _) fun _ t ht => from_change (from_pure (lastWatermark_inv ht 0))
    | ok scan =>
      refine Triple.ite (fun _ => from_io h fun stamp => from_change ?_) fun _ => ?_
      · have hcut := h.truncateActive hactive hscan stamp
        exact from_io hcut fun _ => from_change (from_pure (lastWatermark_inv hcut _))
      · exact from_change (from_pure (lastWatermark_inv h _))

theorem recover_inv (h : Inv H s) : Keeps H s (recover H) := by
  unfold recover
  refine from_io h fun _ => from_spool (from_check h fun _ => ?_)
  have hloop : Keeps H s (Command.forEach (fun entry => recoverSealed H entry.1) s.sealed.entries) := by
    refine Triple.weaken (Triple.forEach (P := On (Inv H)) (E := On (Inv H)) (fun entry w hw => ?_) _)
      (fun w hw => on_of_eq hw h) (fun _ _ hw => hw) fun _ hw => hw
    exact recoverSealed_inv hw entry.1 w rfl
  refine from_bind hloop fun _ t ht => from_bind (recoverActive_inv ht) fun _ t' ht' => ?_
  have hgaps : Keeps H t' quarantineEvidence := by
    unfold quarantineEvidence
    exact from_io ht' fun _ => from_spool (from_check ht' fun _ => from_pure ht')
  exact from_bind hgaps fun _ t'' ht'' => from_pure ht''

/-! ## Runs -/

theorem drop_inv (h : Inv H s) (segment : SealedSegment) : Inv H (s.drop segment) :=
  h.congr rfl rfl rfl rfl rfl (fun held hheld => h.claims held (List.mem_of_mem_filter hheld)) h.cursors

/-- One operation keeps the invariant, wherever its system calls fail. -/
theorem perform_inv (h : Inv H s) (limits : SpoolLimits) (protectedLength : SpoolRecord → Option Nat)
    {op : Op} (hop : op.Possible s) : Keeps H s (perform H limits protectedLength op) := by
  have hdone : ∀ {β : Type} {m : SpoolM β}, Keeps H s m → Keeps H s (do let _ ← m) :=
    fun hm => from_bind hm fun _ _ ht => from_pure ht
  cases op with
  | append record => exact hdone (append_inv h limits record)
  | appendIsolatedSealed record hint => exact hdone (appendIsolatedSealed_inv h limits record hint)
  | sealActive generation => exact hdone (sealActive_inv h generation)
  | sealedSegments limit =>
    exact hdone (claimedSegmentsInner_inv h limits protectedLength limit false false fun _ hc => by cases hc)
  | isolatedSegments limit =>
    exact hdone (claimedSegmentsInner_inv h limits protectedLength limit true false fun _ hc => by cases hc)
  | sealedPage cursor =>
    refine hdone (claimedSegmentsInner_inv h limits protectedLength 1 false false fun c hc => ?_)
    obtain rfl : cursor = some c := hc
    exact hop
  | ingestPage cursor =>
    refine hdone (claimedSegmentsInner_inv h limits protectedLength 1 false true fun c hc => ?_)
    obtain rfl : cursor = some c := hc
    exact hop
  | continuation segment =>
    unfold Keeps perform
    refine from_change_last ?_
    refine h.congr rfl rfl rfl rfl rfl h.claims fun cursor hcursor => ?_
    rcases List.mem_append.mp hcursor with hcursor | hcursor
    · exact h.cursors cursor hcursor
    · unfold SealedSegment.continuation at hcursor
      obtain ⟨-, hident, hreads⟩ := h.claims segment hop
      split at hcursor
      · cases hcursor
      · obtain rfl := List.mem_singleton.mp hcursor
        dsimp only
        rw [hident]
        exact hreads
  | release segment =>
    unfold Keeps perform
    refine from_change_last ?_
    exact drop_inv h segment
  | acknowledgeSegment segment committedFrames =>
    have hlast : ∀ {t : Spool} (outcome : Except SpoolError Unit), Inv H t →
        Keeps H t (do change (·.drop segment); Command.lift outcome) := fun outcome ht =>
      from_change (Triple.lift (fun w hw _ _ => on_of_eq hw (drop_inv ht segment))
        fun w hw => on_of_eq hw (drop_inv ht segment))
    exact from_attempt (acknowledgeSegment_inv h hop committedFrames) (fun _ t ht => hlast _ ht)
      fun _ t ht => hlast _ ht
  | recover => exact hdone (recover_inv h)
  | restart =>
    have hfresh : Inv H { s with claims := [], cursors := [], lastWatermark := 0 } :=
      h.congr rfl rfl rfl rfl rfl (fun _ hc => by cases hc) fun _ hc => by cases hc
    refine from_change (from_lift hfresh fun _ _ => ?_)
    exact from_bind (recover_inv hfresh) fun _ _ ht => from_pure ht

theorem step_inv (limits : SpoolLimits) (protectedLength : SpoolRecord → Option Nat)
    (op : Op × List Outcome) (h : Inv H s) : Inv H (step H limits protectedLength s op) := by
  unfold step
  split
  · next hop =>
    have hkeep := perform_inv h limits protectedLength hop ⟨s, op.2⟩ rfl
    cases hresult : perform H limits protectedLength op.1 ⟨s, op.2⟩ with
    | mk outcome w =>
      rw [hresult] at hkeep
      cases outcome <;> exact hkeep
  · exact h

/-- **No durable record is lost.** In every state of every run from an empty spool, with system calls
that fail anywhere: each record whose append returned is complete in the active file, in a sealed file,
in a quarantined file, or in a sealed file that was removed after a claim had reached its end; and no
cut of recovery touched its frame. -/
theorem spool_no_loss (H : Sha256) (limits : SpoolLimits) (protectedLength : SpoolRecord → Option Nat)
    (ops : List (Op × List Outcome)) : Durable H (runOps H limits protectedLength ops) := by
  have hinv : Inv H (runOps H limits protectedLength ops) :=
    run_invariant ops (fun _ op _ h => step_inv limits protectedLength op h) Spool.empty (inv_empty H)
  exact hinv.durable

/-- An append that returns, from the empty spool. -/
theorem spool_no_loss_sample :
    .appended sampleRecord 0 93 ∈
        (runOps sampleSha sampleLimits (fun _ => none) [(.recover, []), (.append sampleRecord, [])]).history ∧
      Durable sampleSha
        (runOps sampleSha sampleLimits (fun _ => none) [(.recover, []), (.append sampleRecord, [])]) := by
  refine ⟨?_, spool_no_loss _ _ _ _⟩
  decide +kernel

end EverTrace.L2.Capture
