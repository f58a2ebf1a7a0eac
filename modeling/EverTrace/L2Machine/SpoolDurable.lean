import EverTrace.L2Machine.Spool
import EverTrace.Lib.Trace
/-!
# No durable record is lost

A record whose append returned stays readable: in every later state its frame
is a complete frame of the active file, of a sealed file or of a quarantined
file, or of a sealed file that an acknowledgement removed after a page reached
the end of that file and after the record itself had been returned to a reader.
Recovery cuts the active file only behind such frames.

`Inv` is kept by every change of the files (`Inv.openActive`,
`Inv.extendActive`, ...); `SpoolRun` carries it through the operations and runs.
-/
namespace EverTrace.L2.Capture
open EverTrace.Lib EverTrace.L1 EverTrace.L1.Frame

variable {H : Sha256}

/-! ## Bytes of a segment -/

/-- The frame of `record` is complete in `bytes` and ends at `stop`: whole frames, the one of
`record` among them, and a tail that the scan calls torn. -/
def HoldsFrame (H : Sha256) (bytes : Bytes) (record : SpoolRecord) (stop : Nat) : Prop :=
  ∃ before after tail, (∀ r ∈ before ++ record :: after, Accepted r) ∧ scanFrame H tail = .ok none ∧
    bytes = segmentBytes H (before ++ record :: after) ++ tail ∧
    stop = (segmentBytes H (before ++ [record])).length

theorem segmentBytes_append (rs rs' : List SpoolRecord) :
    segmentBytes H (rs ++ rs') = segmentBytes H rs ++ segmentBytes H rs' :=
  List.flatMap_append

theorem segmentBytes_singleton (r : SpoolRecord) : segmentBytes H [r] = frameBytes H r := by
  simp [segmentBytes]

/-- A segment splits in one way into whole frames and a torn tail. -/
theorem split_unique {rs rs' : List SpoolRecord} {tail tail' : Bytes} (hrs : ∀ r ∈ rs, Accepted r)
    (hrs' : ∀ r ∈ rs', Accepted r) (htail : scanFrame H tail = .ok none)
    (htail' : scanFrame H tail' = .ok none)
    (h : segmentBytes H rs ++ tail = segmentBytes H rs' ++ tail') : rs = rs' ∧ tail = tail' := by
  have h₁ := scanFrames_ok.mpr ⟨rs, tail, hrs, htail, rfl, rfl⟩
  have h₂ := scanFrames_ok.mpr ⟨rs', tail', hrs', htail', h, rfl⟩
  rw [h₁] at h₂
  have hframes : rs.map (decodedFrame H) = rs'.map (decodedFrame H) :=
    congrArg FrameScan.frames (Except.ok.inj h₂)
  have hinj : Function.Injective (decodedFrame H) := fun a b hab => congrArg DecodedFrame.record hab
  have heq := List.map_injective_iff.mpr hinj hframes
  subst heq
  exact ⟨rfl, List.append_cancel_left h⟩

theorem HoldsFrame.ne_nil {record : SpoolRecord} {stop : Nat} : ¬ HoldsFrame H [] record stop := by
  intro ⟨before, after, tail, _, _, hbytes, _⟩
  rw [segmentBytes_append] at hbytes
  have hnil := (List.append_eq_nil_iff.mp (List.append_eq_nil_iff.mp hbytes.symm).1).2
  exact frameBytes_ne_nil H record (List.append_eq_nil_iff.mp hnil).1

/-- A prefix of a frame behind whole frames leaves the frames before it complete. -/
theorem HoldsFrame.extend {rs : List SpoolRecord} (hrs : ∀ r ∈ rs, Accepted r) {record next : SpoolRecord}
    {stop : Nat} (h : HoldsFrame H (segmentBytes H rs) record stop) (hnext : Accepted next) {p : Bytes}
    (hp : p <+: frameBytes H next) : HoldsFrame H (segmentBytes H rs ++ p) record stop := by
  obtain ⟨before, after, tail, hacc, htail, hbytes, hstop⟩ := h
  obtain ⟨rfl, rfl⟩ := split_unique hrs hacc (scanFrame_nil H) htail (by rw [List.append_nil]; exact hbytes)
  by_cases hwhole : p = frameBytes H next
  · subst hwhole
    refine ⟨before, after ++ [next], [], fun r hr => ?_, scanFrame_nil H, ?_, hstop⟩
    · rw [← List.cons_append, ← List.append_assoc] at hr
      rcases List.mem_append.mp hr with hr | hr
      · exact hacc r hr
      · rw [List.mem_singleton.mp hr]
        exact hnext
    · rw [← List.cons_append, ← List.append_assoc, segmentBytes_append (before ++ record :: after),
        segmentBytes_singleton, List.append_nil]
  · exact ⟨before, after, p, hacc, scanFrame_torn hnext hp hwhole, rfl, hstop⟩

/-- A frame just written behind whole frames is complete. -/
theorem HoldsFrame.last {rs : List SpoolRecord} (hrs : ∀ r ∈ rs, Accepted r) {record : SpoolRecord}
    (hrecord : Accepted record) :
    HoldsFrame H (segmentBytes H rs ++ frameBytes H record) record
      (segmentBytes H rs ++ frameBytes H record).length := by
  refine ⟨rs, [], [], fun r hr => ?_, scanFrame_nil H, ?_, ?_⟩
  · rcases List.mem_append.mp hr with hr | hr
    · exact hrs r hr
    · rw [List.mem_singleton.mp hr]
      exact hrecord
  · rw [segmentBytes_append, segmentBytes_singleton, List.append_nil]
  · rw [segmentBytes_append, segmentBytes_singleton]

/-- The complete length of a scan is behind every complete frame, and a cut there keeps them. -/
theorem HoldsFrame.cut {bytes : Bytes} {record : SpoolRecord} {stop : Nat} {scan : FrameScan}
    (h : HoldsFrame H bytes record stop) (hscan : scanFrames H bytes = .ok scan) :
    stop ≤ scan.completeLength ∧ HoldsFrame H (bytes.take scan.completeLength) record stop := by
  obtain ⟨before, after, tail, hacc, htail, rfl, rfl⟩ := h
  have hok := scanFrames_ok.mpr ⟨_, tail, hacc, htail, rfl, rfl⟩
  rw [hok] at hscan
  cases hscan
  refine ⟨?_, before, after, [], hacc, scanFrame_nil H, ?_, rfl⟩
  · have hsplit : before ++ record :: after = (before ++ [record]) ++ after := by simp
    dsimp only
    rw [hsplit, segmentBytes_append (before ++ [record]) after, List.length_append]
    omega
  · rw [List.take_left, List.append_nil]

/-- The records of a segment of whole frames are the complete ones. -/
theorem HoldsFrame.mem {rs : List SpoolRecord} (hrs : ∀ r ∈ rs, Accepted r) {record : SpoolRecord}
    {stop : Nat} (h : HoldsFrame H (segmentBytes H rs) record stop) : record ∈ rs := by
  obtain ⟨before, after, tail, hacc, htail, hbytes, -⟩ := h
  obtain ⟨rfl, -⟩ := split_unique hrs hacc (scanFrame_nil H) htail (by rw [List.append_nil]; exact hbytes)
  simp

/-- `validate_active_file` accepts only whole frames. -/
theorem scanChunks_ok {pending rest : Bytes} (h : scanChunks H pending rest = .ok []) :
    ∃ rs, (∀ r ∈ rs, Accepted r) ∧ pending ++ rest = segmentBytes H rs := by
  fun_induction scanChunks H pending rest with
  | case1 pending =>
    cases h
    exact ⟨[], fun r hr => (by cases hr), rfl⟩
  | case2 => cases h
  | case3 => cases h
  | case4 pending rest hrest scan hscan pending' hlen ih =>
    obtain ⟨rs, hrs, hrest⟩ := ih h
    obtain ⟨front, tail, hfront, -, hbytes, rfl⟩ := scanFrames_ok.mp hscan
    refine ⟨front ++ rs, fun r hr => ?_, ?_⟩
    · rcases List.mem_append.mp hr with hr | hr
      · exact hfront r hr
      · exact hrs r hr
    · have hpending : pending' = tail := by
        simp only [pending', hbytes, List.drop_left]
      rw [hpending] at hrest
      rw [segmentBytes_append, ← hrest, ← List.append_assoc, ← hbytes, List.append_assoc,
        List.take_append_drop]

theorem validateActiveFile_ok {bytes : Bytes} {maxBytes : Nat}
    (h : validateActiveFile H bytes maxBytes = .ok ()) :
    ∃ rs, (∀ r ∈ rs, Accepted r) ∧ bytes = segmentBytes H rs := by
  simp only [validateActiveFile, bind_eq_ok, ensure_ok, List.isEmpty_iff] at h
  obtain ⟨-, -, pending, hchunks, rfl⟩ := h
  exact scanChunks_ok hchunks

/-! ## The invariant -/

/-- The file is `inode`, and the record is complete in it. -/
def InFile (H : Sha256) (file : File) (record : SpoolRecord) (inode stop : Nat) : Prop :=
  file.inode = inode ∧ HoldsFrame H file.bytes record stop

/-- The sealed file of the record was removed, after a claim had reached its end and the record had
been returned to a reader. -/
def Consumed (H : Sha256) (history : List Event) (record : SpoolRecord) (inode stop : Nat) : Prop :=
  ∃ earlier path file later, history = earlier ++ .removed path file :: later ∧
    InFile H file record inode stop ∧
    (∃ segment, .claimed segment ∈ earlier ∧ segment.inode = inode ∧
      segment.endOffset = file.bytes.length) ∧
    ∃ segment, .claimed segment ∈ earlier ∧ segment.inode = inode ∧
      record ∈ segment.frames.map SealedFrame.record

/-- Where a durable record is. -/
def Kept (H : Sha256) (s : Spool) (record : SpoolRecord) (inode stop : Nat) : Prop :=
  (∃ file, s.active = some file ∧ InFile H file record inode stop) ∨
  (∃ name file, s.sealed.get name = some file ∧ InFile H file record inode stop) ∨
  (∃ name file, s.quarantined.get name = some file ∧ InFile H file record inode stop) ∨
  Consumed H s.history record inode stop

/-- Every cut of a file is behind the frames appended to it before. -/
def Uncut (history : List Event) : Prop :=
  ∀ earlier inode length later, history = earlier ++ .truncated inode length :: later →
    ∀ record stop, .appended record inode stop ∈ earlier → stop ≤ length

/-- **Durability**: every record whose append returned is kept, and no cut touched one. -/
def Durable (H : Sha256) (s : Spool) : Prop :=
  (∀ record inode stop, .appended record inode stop ∈ s.history → Kept H s record inode stop) ∧
  Uncut s.history

/-- The first `offset` bytes of a file are whole frames that were all returned to readers. -/
def Delivered (H : Sha256) (history : List Event) (file : File) (offset : Nat) : Prop :=
  ∃ rs rest, (∀ r ∈ rs, Accepted r) ∧ file.bytes = segmentBytes H rs ++ rest ∧
    (segmentBytes H rs).length = offset ∧
    ∀ r ∈ rs, ∃ segment, .claimed segment ∈ history ∧ segment.inode = file.inode ∧
      r ∈ segment.frames.map SealedFrame.record

/-- A reader has the file `inode` up to `offset`: it is no longer active, and where it is sealed its
first `offset` bytes were delivered. -/
structure Reads (H : Sha256) (s : Spool) (inode offset : Nat) : Prop where
  used : inode < s.nextInode
  inactive : ∀ file, s.active = some file → file.inode ≠ inode
  delivered : ∀ name file, s.sealed.get name = some file → file.inode = inode →
    Delivered H s.history file offset

/-- A durable record: it is kept, and it is in the active file if that is the file it was appended
to (so that a cut of the active file can be judged from the active file alone). -/
structure Safe (H : Sha256) (s : Spool) (record : SpoolRecord) (inode stop : Nat) : Prop where
  used : inode < s.nextInode
  holds : ∀ file, s.active = some file → file.inode = inode → HoldsFrame H file.bytes record stop
  kept : Kept H s record inode stop

structure Inv (H : Sha256) (s : Spool) : Prop where
  safe : ∀ record inode stop, .appended record inode stop ∈ s.history → Safe H s record inode stop
  uncut : Uncut s.history
  activeUsed : ∀ file, s.active = some file → file.inode < s.nextInode
  sealedUsed : ∀ name file, s.sealed.get name = some file → file.inode < s.nextInode
  sealedInactive : ∀ name file active, s.sealed.get name = some file → s.active = some active →
    active.inode ≠ file.inode
  sealedUnique : ∀ name file name' file', s.sealed.get name = some file → s.sealed.get name' = some file' →
    file.inode = file'.inode → name = name'
  claims : ∀ segment ∈ s.claims, .claimed segment ∈ s.history ∧
    segment.identity.inode = segment.inode ∧ Reads H s segment.inode segment.endOffset
  cursors : ∀ cursor ∈ s.cursors, Reads H s cursor.identity.inode cursor.offset

theorem inv_empty (H : Sha256) : Inv H .empty := by
  refine ⟨fun r i n h => ?_, fun e i n l h => ?_, fun f h => ?_, fun n f h => ?_, fun n f a h => ?_,
    fun n f m g h => ?_, fun c h => ?_, fun c h => ?_⟩
  · cases h
  · exact absurd h (List.append_ne_nil_of_right_ne_nil _ (List.cons_ne_nil _ _)).symm
  all_goals cases h

theorem Inv.durable {s : Spool} (h : Inv H s) : Durable H s :=
  ⟨fun r i n hr => (h.safe r i n hr).kept, h.uncut⟩

/-! ## More history -/

theorem Consumed.mono {history : List Event} {record : SpoolRecord} {inode stop : Nat}
    (h : Consumed H history record inode stop) (more : List Event) :
    Consumed H (history ++ more) record inode stop := by
  obtain ⟨earlier, path, file, later, rfl, h⟩ := h
  exact ⟨earlier, path, file, later ++ more, by simp, h⟩

theorem Delivered.mono {history : List Event} {file : File} {offset : Nat}
    (h : Delivered H history file offset) {history' : List Event} (hsub : ∀ e ∈ history, e ∈ history') :
    Delivered H history' file offset := by
  obtain ⟨rs, rest, hrs, hbytes, hlen, hseen⟩ := h
  refine ⟨rs, rest, hrs, hbytes, hlen, fun r hr => ?_⟩
  obtain ⟨segment, hclaimed, h⟩ := hseen r hr
  exact ⟨segment, hsub _ hclaimed, h⟩

theorem Uncut.append {history : List Event} (h : Uncut history) {event : Event}
    (hevent : ∀ inode length, event = .truncated inode length →
      ∀ record stop, .appended record inode stop ∈ history → stop ≤ length) :
    Uncut (history ++ [event]) := by
  intro earlier inode length later heq
  rcases List.eq_nil_or_concat later with rfl | ⟨later, last, rfl⟩
  · obtain ⟨rfl, hlast⟩ := List.append_inj' heq rfl
    exact hevent inode length (List.singleton_inj.mp hlast)
  · rw [List.concat_eq_append, ← List.cons_append, ← List.append_assoc] at heq
    obtain ⟨rfl, -⟩ := List.append_inj' heq rfl
    exact h earlier inode length later rfl

theorem Uncut.append_claims {history : List Event} (h : Uncut history) (segments : List SealedSegment) :
    Uncut (history ++ segments.map .claimed) := by
  induction segments using List.reverseRecOn with
  | nil => simpa using h
  | append_singleton segments segment ih =>
    rw [List.map_append, ← List.append_assoc]
    exact ih.append fun _ _ heq => by cases heq

/-! ## Changes of the files -/

/-- What a change of the files has to show. Claims and cursors are dropped at most, so a reader
keeps what it has as long as its file is not changed under it. -/
theorem Inv.next {s t : Spool} (h : Inv H s) (more : List Event) (hhistory : t.history = s.history ++ more)
    (hnext : s.nextInode ≤ t.nextInode) (hclaims : ∀ segment ∈ t.claims, segment ∈ s.claims)
    (hcursors : ∀ cursor ∈ t.cursors, cursor ∈ s.cursors)
    (hsafe : ∀ record inode stop, .appended record inode stop ∈ t.history → Safe H t record inode stop)
    (huncut : Uncut t.history)
    (hactive : ∀ file, t.active = some file → file.inode < t.nextInode ∧
      ∀ inode offset, Reads H s inode offset → file.inode ≠ inode)
    (hsealed : ∀ name file, t.sealed.get name = some file → file.inode < t.nextInode ∧
      (∀ active, t.active = some active → active.inode ≠ file.inode) ∧
      ∀ offset, Reads H s file.inode offset → Delivered H s.history file offset)
    (hunique : ∀ name file name' file', t.sealed.get name = some file →
      t.sealed.get name' = some file' → file.inode = file'.inode → name = name') : Inv H t := by
  have hreads : ∀ {inode offset}, Reads H s inode offset → Reads H t inode offset := by
    intro inode offset hr
    refine ⟨Nat.lt_of_lt_of_le hr.used hnext, fun f hf => (hactive f hf).2 inode offset hr, ?_⟩
    intro name f hf hinode
    subst hinode
    rw [hhistory]
    exact ((hsealed name f hf).2.2 offset hr).mono fun e he => List.mem_append_left _ he
  refine ⟨hsafe, huncut, fun f hf => (hactive f hf).1, fun n f hf => (hsealed n f hf).1,
    fun n f a hf ha => (hsealed n f hf).2.1 a ha, hunique, fun segment hs => ?_, fun cursor hc => ?_⟩
  · obtain ⟨hclaimed, hident, hr⟩ := h.claims segment (hclaims segment hs)
    rw [hhistory]
    exact ⟨List.mem_append_left _ hclaimed, hident, hreads hr⟩
  · exact hreads (h.cursors cursor (hcursors cursor hc))

theorem Inv.sealed_same {s : Spool} (h : Inv H s) {name : String} {file : File}
    (hf : s.sealed.get name = some file) : file.inode < s.nextInode ∧
      (∀ active, s.active = some active → active.inode ≠ file.inode) ∧
      ∀ offset, Reads H s file.inode offset → Delivered H s.history file offset :=
  ⟨h.sealedUsed name file hf, fun a ha => h.sealedInactive name file a hf ha,
    fun _ hr => hr.delivered name file hf rfl⟩

/-- A change of claims and cursors only. -/
theorem Inv.congr {s t : Spool} (h : Inv H s) (hactive : t.active = s.active) (hsealed : t.sealed = s.sealed)
    (hquarantined : t.quarantined = s.quarantined) (hnext : t.nextInode = s.nextInode)
    (hhistory : t.history = s.history)
    (hclaims : ∀ segment ∈ t.claims, .claimed segment ∈ s.history ∧
      segment.identity.inode = segment.inode ∧ Reads H s segment.inode segment.endOffset)
    (hcursors : ∀ cursor ∈ t.cursors, Reads H s cursor.identity.inode cursor.offset) : Inv H t := by
  have hreads : ∀ {i o}, Reads H s i o → Reads H t i o := by
    intro i o ⟨hused, hinactive, hdelivered⟩
    exact ⟨hnext ▸ hused, hactive ▸ hinactive, hsealed ▸ hhistory ▸ hdelivered⟩
  refine ⟨fun r i n hr => ?_, hhistory ▸ h.uncut, ?_, ?_, ?_, hsealed ▸ h.sealedUnique, fun c hc => ?_,
    fun c hc => hreads (hcursors c hc)⟩
  · obtain ⟨hused, hholds, hk⟩ := h.safe r i n (hhistory ▸ hr)
    refine ⟨hnext ▸ hused, hactive ▸ hholds, ?_⟩
    unfold Kept
    rw [hactive, hsealed, hquarantined, hhistory]
    exact hk
  · rw [hactive, hnext]
    exact h.activeUsed
  · rw [hsealed, hnext]
    exact h.sealedUsed
  · rw [hsealed, hactive]
    exact h.sealedInactive
  · obtain ⟨h₁, h₂, h₃⟩ := hclaims c hc
    exact ⟨hhistory ▸ h₁, h₂, hreads h₃⟩

theorem Inv.openActive {s : Spool} (h : Inv H s) (stamp : Nat) : Inv H (s.openActive stamp) := by
  unfold Spool.openActive
  split
  · exact h
  · next hnone =>
    refine h.next [] (List.append_nil _).symm (Nat.le_succ _) (fun _ hs => hs) (fun _ hc => hc)
      (fun r i n hr => ?_) h.uncut (fun f hf => ?_) (fun n f hf => ?_) h.sealedUnique
    · obtain ⟨hused, -, hk⟩ := h.safe r i n hr
      refine ⟨Nat.lt_succ_of_lt hused, fun f hf hinode => ?_, ?_⟩
      · cases hf
        exact absurd hinode (Nat.ne_of_gt hused)
      · rcases hk with ⟨f, hf, -⟩ | hk
        · rw [hnone] at hf
          cases hf
        · exact .inr hk
    · cases hf
      exact ⟨Nat.lt_succ_self _, fun i o hr => Nat.ne_of_gt hr.used⟩
    · have hused := h.sealedUsed n f hf
      refine ⟨Nat.lt_succ_of_lt hused, fun a ha => ?_, (h.sealed_same hf).2.2⟩
      cases ha
      exact Nat.ne_of_gt hused

/-- Bytes of a new frame, all or some, behind whole frames. -/
theorem Inv.extendActive {s : Spool} (h : Inv H s) {file : File} (hfile : s.active = some file)
    {rs : List SpoolRecord} (hrs : ∀ r ∈ rs, Accepted r) (hbytes : file.bytes = segmentBytes H rs)
    {next : SpoolRecord} (hnext : Accepted next) {p : Bytes} (hp : p <+: frameBytes H next) (stamp : Nat) :
    Inv H (s.extendActive p stamp) := by
  unfold Spool.extendActive
  rw [hfile, Option.map_some]
  refine h.next [] (List.append_nil _).symm (Nat.le_refl _) (fun _ hs => hs) (fun _ hc => hc)
    (fun r i n hr => ?_) h.uncut (fun f hf => ?_) (fun n f hf => ?_) h.sealedUnique
  · obtain ⟨hused, hholds, hk⟩ := h.safe r i n hr
    have hextend : file.inode = i → HoldsFrame H (file.bytes ++ p) r n := by
      intro hinode
      have := hholds file hfile hinode
      rw [hbytes] at this ⊢
      exact this.extend hrs hnext hp
    refine ⟨hused, fun f hf hinode => ?_, ?_⟩
    · cases hf
      exact hextend hinode
    · rcases hk with ⟨f, hf, hinode, -⟩ | hk
      · rw [hfile] at hf
        cases hf
        exact .inl ⟨_, rfl, hinode, hextend hinode⟩
      · exact .inr hk
  · cases hf
    exact ⟨h.activeUsed file hfile, fun i o hr => hr.inactive file hfile⟩
  · refine ⟨h.sealedUsed n f hf, fun a ha => ?_, (h.sealed_same hf).2.2⟩
    cases ha
    exact h.sealedInactive n f file hf hfile

/-- The event of an append that returned. -/
theorem Inv.recordAppended {s : Spool} (h : Inv H s) {record : SpoolRecord} {inode stop : Nat}
    (hsafe : Safe H s record inode stop) : Inv H (s.record (.appended record inode stop)) := by
  have hmore : ∀ r i n, Safe H s r i n → Safe H (s.record (.appended record inode stop)) r i n :=
    fun r i n ⟨hused, hholds, hk⟩ =>
      ⟨hused, hholds, hk.imp_right (Or.imp_right (Or.imp_right (Consumed.mono · _)))⟩
  refine h.next [_] rfl (Nat.le_refl _) (fun _ hs => hs) (fun _ hc => hc) (fun r i n hr => ?_)
    (h.uncut.append fun _ _ heq => by cases heq) (fun f hf => ?_) (fun n f hf => h.sealed_same hf)
    h.sealedUnique
  · rcases List.mem_append.mp hr with hr | hr
    · exact hmore r i n (h.safe r i n hr)
    · have heq := List.mem_singleton.mp hr
      cases heq
      exact hmore _ _ _ hsafe
  · exact ⟨h.activeUsed f hf, fun i o hr => hr.inactive f hf⟩

/-- No append recorded its frame in the sealed file `name`. -/
def Private (s : Spool) (name : String) : Prop :=
  ∀ file, s.sealed.get name = some file → ∀ record stop, .appended record file.inode stop ∉ s.history

theorem Inv.createSealed {s : Spool} (h : Inv H s) {name : String} (hfree : s.sealed.get name = none)
    (stamp : Nat) : Inv H (s.createSealed name stamp) ∧ Private (s.createSealed name stamp) name := by
  have hget : ∀ {n f}, (s.createSealed name stamp).sealed.get n = some f →
      (n = name ∧ f = ⟨s.nextInode, [], stamp⟩) ∨ (n ≠ name ∧ s.sealed.get n = some f) := by
    intro n f hf
    rw [Spool.createSealed, OrdMap.get_insert] at hf
    split at hf
    · next hn => exact .inl ⟨hn, (Option.some.inj hf).symm⟩
    · next hn => exact .inr ⟨hn, hf⟩
  refine ⟨?_, fun f hf r n hr => ?_⟩
  · refine h.next [] (List.append_nil _).symm (Nat.le_succ _) (fun _ hs => hs) (fun _ hc => hc)
      (fun r i n hr => ?_) h.uncut (fun f hf => ?_) (fun n f hf => ?_) (fun n f m g hf hg hinode => ?_)
    · obtain ⟨hused, hholds, hk⟩ := h.safe r i n hr
      refine ⟨Nat.lt_succ_of_lt hused, hholds, ?_⟩
      rcases hk with hk | ⟨m, f, hf, hin⟩ | hk
      · exact .inl hk
      · refine .inr (.inl ⟨m, f, ?_, hin⟩)
        rw [Spool.createSealed, OrdMap.get_insert_of_ne _ _ fun hm => ?_, hf]
        rw [hm, hfree] at hf
        cases hf
      · exact .inr (.inr hk)
    · exact ⟨Nat.lt_succ_of_lt (h.activeUsed f hf), fun i o hr => hr.inactive f hf⟩
    · rcases hget hf with ⟨-, rfl⟩ | ⟨-, hf⟩
      · refine ⟨Nat.lt_succ_self _, fun a ha => Nat.ne_of_lt (h.activeUsed a ha), fun o hr => ?_⟩
        exact absurd hr.used (Nat.lt_irrefl _)
      · obtain ⟨hused, h₂⟩ := h.sealed_same hf
        exact ⟨Nat.lt_succ_of_lt hused, h₂⟩
    · rcases hget hf with ⟨hn, rfl⟩ | ⟨-, hf'⟩
      · rcases hget hg with ⟨hm, -⟩ | ⟨-, hg'⟩
        · rw [hn, hm]
        · exact absurd hinode (Nat.ne_of_gt (h.sealedUsed m g hg'))
      · rcases hget hg with ⟨-, rfl⟩ | ⟨-, hg'⟩
        · exact absurd hinode (Nat.ne_of_lt (h.sealedUsed n f hf'))
        · exact h.sealedUnique n f m g hf' hg' hinode
  · rcases hget hf with ⟨-, rfl⟩ | ⟨hne, -⟩
    · exact absurd (h.safe r _ n hr).used (Nat.lt_irrefl _)
    · exact hne rfl

theorem Inv.extendSealed {s : Spool} (h : Inv H s) {name : String} {file : File}
    (hfile : s.sealed.get name = some file) (hempty : file.bytes = []) (bytes : Bytes) (stamp : Nat) :
    Inv H (s.extendSealed name bytes stamp) := by
  unfold Spool.extendSealed
  rw [hfile]
  dsimp only
  have hget : ∀ {n f}, (s.sealed.insert name { file with bytes := file.bytes ++ bytes, stamp }).get n =
      some f → (n = name ∧ f.inode = file.inode ∧ f.bytes = bytes) ∨ (n ≠ name ∧ s.sealed.get n = some f) := by
    intro n f hf
    rw [OrdMap.get_insert] at hf
    split at hf
    · next hn =>
      cases hf
      exact .inl ⟨hn, rfl, by rw [hempty]; rfl⟩
    · next hn => exact .inr ⟨hn, hf⟩
  refine h.next [] (List.append_nil _).symm (Nat.le_refl _) (fun _ hs => hs) (fun _ hc => hc)
    (fun r i n hr => ?_) h.uncut (fun f hf => ?_) (fun n f hf => ?_) (fun n f m g hf hg hinode => ?_)
  · obtain ⟨hused, hholds, hk⟩ := h.safe r i n hr
    refine ⟨hused, hholds, ?_⟩
    rcases hk with hk | ⟨m, f, hf, hin⟩ | hk
    · exact .inl hk
    · refine .inr (.inl ⟨m, f, ?_, hin⟩)
      rw [OrdMap.get_insert_of_ne _ _ fun hm => ?_, hf]
      rw [hm, hfile] at hf
      cases hf
      have hholds := hin.2
      rw [hempty] at hholds
      exact HoldsFrame.ne_nil hholds
    · exact .inr (.inr hk)
  · exact ⟨h.activeUsed f hf, fun i o hr => hr.inactive f hf⟩
  · rcases hget hf with ⟨-, hinode, hb⟩ | ⟨-, hf⟩
    · obtain ⟨hused, hinactive, hdel⟩ := h.sealed_same hfile
      rw [hinode]
      refine ⟨hused, hinactive, fun o hr => ?_⟩
      -- nothing of an empty file can have been delivered but its start
      obtain ⟨rs, rest, -, hbytes, hlen, -⟩ := hdel o hr
      rw [hempty] at hbytes
      have hnil := (List.append_eq_nil_iff.mp hbytes.symm).1
      rw [hnil] at hlen
      exact ⟨[], f.bytes, fun r hr => (by cases hr), rfl, hlen, fun r hr => by cases hr⟩
    · exact h.sealed_same hf
  · have huse : ∀ {n f}, (s.sealed.insert name { file with bytes := file.bytes ++ bytes, stamp }).get n =
        some f → ∃ f', s.sealed.get n = some f' ∧ f'.inode = f.inode := by
      intro n f hf
      rcases hget hf with ⟨rfl, hinode, -⟩ | ⟨-, hf⟩
      · exact ⟨file, hfile, hinode.symm⟩
      · exact ⟨f, hf, rfl⟩
    obtain ⟨f', hf', hfi⟩ := huse hf
    obtain ⟨g', hg', hgi⟩ := huse hg
    exact h.sealedUnique n f' m g' hf' hg' (by omega)

theorem get_erase_some {m : OrdMap String File} {name n : String} {f : File}
    (h : (m.erase name).get n = some f) : n ≠ name ∧ m.get n = some f := by
  rw [OrdMap.get_erase] at h
  split at h
  · cases h
  · next hn => exact ⟨hn, h⟩

/-- Removing a sealed file, when what it held is accounted for. -/
theorem Inv.eraseSealed {s t : Spool} (h : Inv H s) (more : List Event)
    (hhistory : t.history = s.history ++ more) (hactive : t.active = s.active)
    (hnext : t.nextInode = s.nextInode) {name : String} (hsealed : t.sealed = s.sealed.erase name)
    (hclaims : t.claims = s.claims) (hcursors : t.cursors = s.cursors)
    (hmore : ∀ r i n, .appended r i n ∉ more)
    (hkept : ∀ r i n, .appended r i n ∈ s.history → Kept H s r i n → Kept H t r i n)
    (huncut : Uncut t.history) : Inv H t := by
  refine h.next more hhistory (Nat.le_of_eq hnext.symm) (fun _ hs => hclaims ▸ hs) (fun _ hc => hcursors ▸ hc)
    (fun r i n hr => ?_) huncut (fun f hf => ?_) (fun n f hf => ?_) (fun n f m g hf hg hinode => ?_)
  · rw [hhistory] at hr
    have hr := (List.mem_append.mp hr).resolve_right (hmore r i n)
    obtain ⟨hused, hholds, hk⟩ := h.safe r i n hr
    exact ⟨hnext ▸ hused, hactive ▸ hholds, hkept r i n hr hk⟩
  · rw [hactive] at hf
    rw [hnext]
    exact ⟨h.activeUsed f hf, fun i o hr => hr.inactive f hf⟩
  · rw [hsealed] at hf
    rw [hnext, hactive]
    exact h.sealed_same (get_erase_some hf).2
  · rw [hsealed] at hf hg
    exact h.sealedUnique n f m g (get_erase_some hf).2 (get_erase_some hg).2 hinode

theorem Inv.removePrivate {s : Spool} (h : Inv H s) {name : String} (hprivate : Private s name) :
    Inv H (s.removeSealed name) := by
  refine h.eraseSealed [] (List.append_nil _).symm rfl rfl rfl rfl rfl (fun _ _ _ h => by cases h)
    (fun r i n hr hk => ?_) h.uncut
  rcases hk with hk | ⟨m, f, hf, hin⟩ | hk
  · exact .inl hk
  · refine .inr (.inl ⟨m, f, ?_, hin⟩)
    rw [Spool.removeSealed, OrdMap.get_erase, if_neg fun hm => ?_, hf]
    subst hm
    exact hprivate f hf r n (hin.1 ▸ hr)
  · exact .inr (.inr hk)

theorem Inv.removeClaimed {s : Spool} (h : Inv H s) {segment : SealedSegment} (hsegment : segment ∈ s.claims)
    {file : File} (hfile : s.sealed.get segment.path = some file) (hinode : file.inode = segment.inode)
    (hcomplete : segment.endOffset = file.bytes.length) :
    Inv H ((s.removeSealed segment.path).record (.removed segment.path file)) := by
  refine h.eraseSealed [_] rfl rfl rfl rfl rfl rfl (fun r i n hr => by cases List.mem_singleton.mp hr)
    (fun r i n hr hk => ?_) (h.uncut.append fun _ _ heq => by cases heq)
  rcases hk with hk | ⟨m, f, hf, hin⟩ | hk | hk
  · exact .inl hk
  · by_cases hm : m = segment.path
    · subst hm
      rw [hfile] at hf
      cases hf
      obtain ⟨hclaimed, -, hreads⟩ := h.claims segment hsegment
      obtain ⟨rs, rest, hrs, hbytes, hlen, hseen⟩ := hreads.delivered _ file hfile hinode
      -- the delivered prefix is the whole file
      have hrest : rest = [] := by
        have := congrArg List.length hbytes
        rw [List.length_append] at this
        exact List.length_eq_zero_iff.mp (by omega)
      rw [hrest, List.append_nil] at hbytes
      have hholds := hin.2
      rw [hbytes] at hholds
      obtain ⟨seen, hseen, hseenInode, hframe⟩ := hseen r (hholds.mem hrs)
      refine .inr (.inr (.inr ⟨s.history, segment.path, file, [], rfl, hin, ⟨segment, hclaimed, ?_, hcomplete⟩,
        seen, hseen, hseenInode.trans hin.1, hframe⟩))
      rw [← hinode]
      exact hin.1
    · refine .inr (.inl ⟨m, f, ?_, hin⟩)
      show (s.sealed.erase segment.path).get m = some f
      rw [OrdMap.get_erase, if_neg hm, hf]
  · exact .inr (.inr (.inl hk))
  · exact .inr (.inr (.inr (hk.mono _)))

theorem Inv.renameActive {s : Spool} (h : Inv H s) {name : String} (hfree : s.sealed.get name = none)
    (stamp : Nat) : Inv H (s.renameActive name stamp) := by
  unfold Spool.renameActive
  split
  · next file hfile =>
    have hget : ∀ {n f}, (s.sealed.insert name { file with stamp }).get n = some f →
        (n = name ∧ f.inode = file.inode) ∨ (n ≠ name ∧ s.sealed.get n = some f) := by
      intro n f hf
      rw [OrdMap.get_insert] at hf
      split at hf
      · next hn =>
        cases hf
        exact .inl ⟨hn, rfl⟩
      · next hn => exact .inr ⟨hn, hf⟩
    refine h.next [] (List.append_nil _).symm (Nat.le_refl _) (fun _ hs => hs) (fun _ hc => hc)
      (fun r i n hr => ?_) h.uncut (fun f hf => by cases hf) (fun n f hf => ?_)
      (fun n f m g hf hg hinode => ?_)
    · obtain ⟨hused, -, hk⟩ := h.safe r i n hr
      refine ⟨hused, fun f hf => (by cases hf), .inr ?_⟩
      rcases hk with ⟨f, hf, hin⟩ | ⟨m, f, hf, hin⟩ | hk
      · rw [hfile] at hf
        cases hf
        exact .inl ⟨name, _, OrdMap.get_insert_self _ _ _, hin⟩
      · refine .inl ⟨m, f, ?_, hin⟩
        rw [OrdMap.get_insert_of_ne _ _ fun hm => ?_, hf]
        rw [hm, hfree] at hf
        cases hf
      · exact .inr hk
    · rcases hget hf with ⟨-, hinode⟩ | ⟨-, hf⟩
      · rw [hinode]
        exact ⟨h.activeUsed file hfile, fun a ha => (by cases ha),
          fun o hr => absurd rfl (hr.inactive file hfile)⟩
      · obtain ⟨h₁, -, h₃⟩ := h.sealed_same hf
        exact ⟨h₁, fun a ha => (by cases ha), h₃⟩
    · rcases hget hf with ⟨hn, hfi⟩ | ⟨-, hf'⟩
      · rcases hget hg with ⟨hm, -⟩ | ⟨-, hg'⟩
        · rw [hn, hm]
        · exact absurd (hfi.symm.trans hinode) (h.sealedInactive m g file hg' hfile)
      · rcases hget hg with ⟨-, hgi⟩ | ⟨-, hg'⟩
        · exact absurd (hgi.symm.trans hinode.symm) (h.sealedInactive n f file hf' hfile)
        · exact h.sealedUnique n f m g hf' hg' hinode
  · exact h

theorem Inv.moveToQuarantine {s : Spool} (h : Inv H s) (source : Carrier) {name : String}
    (hfree : s.quarantined.get name = none) (stamp : Nat) :
    Inv H (s.moveToQuarantine source name stamp) := by
  have hold : ∀ {m f} (file : File), s.quarantined.get m = some f →
      (s.quarantined.insert name file).get m = some f := by
    intro m f file hf
    rw [OrdMap.get_insert_of_ne _ _ fun hm => ?_, hf]
    rw [hm, hfree] at hf
    cases hf
  unfold Spool.moveToQuarantine
  split
  · split
    · next file hfile =>
      refine h.next [] (List.append_nil _).symm (Nat.le_refl _) (fun _ hs => hs) (fun _ hc => hc)
        (fun r i n hr => ?_) h.uncut (fun f hf => by cases hf) (fun n f hf => ?_) h.sealedUnique
      · obtain ⟨hused, -, hk⟩ := h.safe r i n hr
        refine ⟨hused, fun f hf => (by cases hf), .inr ?_⟩
        rcases hk with ⟨f, hf, hin⟩ | hk | ⟨m, f, hf, hin⟩ | hk
        · rw [hfile] at hf
          cases hf
          exact .inr (.inl ⟨name, _, OrdMap.get_insert_self _ _ _, hin⟩)
        · exact .inl hk
        · exact .inr (.inl ⟨m, f, hold _ hf, hin⟩)
        · exact .inr (.inr hk)
      · obtain ⟨h₁, -, h₃⟩ := h.sealed_same hf
        exact ⟨h₁, fun a ha => (by cases ha), h₃⟩
    · exact h
  · next path =>
    split
    · next file hfile =>
      refine h.eraseSealed [] (List.append_nil _).symm rfl rfl rfl rfl rfl (fun _ _ _ h => by cases h)
        (fun r i n hr hk => ?_) h.uncut
      rcases hk with hk | ⟨m, f, hf, hin⟩ | ⟨m, f, hf, hin⟩ | hk
      · exact .inl hk
      · by_cases hm : m = path
        · subst hm
          rw [hfile] at hf
          cases hf
          exact .inr (.inr (.inl ⟨name, _, OrdMap.get_insert_self _ _ _, hin⟩))
        · refine .inr (.inl ⟨m, f, ?_, hin⟩)
          show (s.sealed.erase path).get m = some f
          rw [OrdMap.get_erase, if_neg hm, hf]
      · exact .inr (.inr (.inl ⟨m, f, hold _ hf, hin⟩))
      · exact .inr (.inr (.inr hk))
    · exact h

/-- The cut of recovery keeps every complete frame, and is recorded behind them. -/
theorem Inv.truncateActive {s : Spool} (h : Inv H s) {file : File} (hfile : s.active = some file)
    {scan : FrameScan} (hscan : scanFrames H file.bytes = .ok scan) (stamp : Nat) :
    Inv H ((s.truncateActive scan.completeLength stamp).record
      (.truncated file.inode scan.completeLength)) := by
  unfold Spool.truncateActive
  rw [hfile, Option.map_some]
  refine h.next [_] rfl (Nat.le_refl _) (fun _ hs => hs) (fun _ hc => hc) (fun r i n hr => ?_)
    (h.uncut.append fun i n heq r stop hr => ?_) (fun f hf => ?_) (fun n f hf => ?_) h.sealedUnique
  · have hr : .appended r i n ∈ s.history := by
      rcases List.mem_append.mp hr with hr | hr
      · exact hr
      · cases List.mem_singleton.mp hr
    obtain ⟨hused, hholds, hk⟩ := h.safe r i n hr
    refine ⟨hused, fun f hf hinode => ?_, ?_⟩
    · cases hf
      exact ((hholds file hfile hinode).cut hscan).2
    · rcases hk with ⟨f, hf, hinode, -⟩ | hk
      · rw [hfile] at hf
        cases hf
        exact .inl ⟨_, rfl, hinode, ((hholds file hfile hinode).cut hscan).2⟩
      · exact .inr (hk.imp_right (Or.imp_right (Consumed.mono · _)))
  · cases heq
    exact (((h.safe r _ stop hr).holds file hfile rfl).cut hscan).1
  · cases hf
    exact ⟨h.activeUsed file hfile, fun i o hr => hr.inactive file hfile⟩
  · refine ⟨h.sealedUsed n f hf, fun a ha => ?_, (h.sealed_same hf).2.2⟩
    cases ha
    exact h.sealedInactive n f file hf hfile

/-- Segments returned to a reader: each starts where an earlier one stopped, or at the beginning. -/
theorem Inv.handOut {s : Spool} (h : Inv H s) {segments : List SealedSegment}
    (hsegments : ∀ segment ∈ segments, segment.identity.inode = segment.inode ∧
      ∃ name file, s.sealed.get name = some file ∧ file.inode = segment.inode ∧
        Delivered H (s.history ++ [.claimed segment]) file segment.endOffset) :
    Inv H (s.handOut segments) := by
  have hmem : ∀ {r i n}, .appended r i n ∈ s.history ++ segments.map Event.claimed →
      .appended r i n ∈ s.history := by
    intro r i n hr
    rcases List.mem_append.mp hr with hr | hr
    · exact hr
    · obtain ⟨segment, -, heq⟩ := List.mem_map.mp hr
      cases heq
  have hrec : Inv H { s with history := s.history ++ segments.map .claimed } := by
    refine h.next (segments.map .claimed) rfl (Nat.le_refl _) (fun _ hs => hs) (fun _ hc => hc)
      (fun r i n hr => ?_) (h.uncut.append_claims segments)
      (fun f hf => ⟨h.activeUsed f hf, fun i o hr => hr.inactive f hf⟩) (fun n f hf => h.sealed_same hf)
      h.sealedUnique
    obtain ⟨hused, hholds, hk⟩ := h.safe r i n (hmem hr)
    exact ⟨hused, hholds, hk.imp_right (Or.imp_right (Or.imp_right (Consumed.mono · _)))⟩
  refine hrec.congr rfl rfl rfl rfl rfl (fun segment hs => ?_) hrec.cursors
  rcases List.mem_append.mp hs with hs | hs
  · exact hrec.claims segment hs
  · obtain ⟨hident, name, file, hfile, hinode, hdelivered⟩ := hsegments segment hs
    have hclaimed : Event.claimed segment ∈ s.history ++ segments.map .claimed :=
      List.mem_append_right _ (List.mem_map_of_mem hs)
    refine ⟨hclaimed, hident, ?_, fun a ha => ?_, fun m f hf hf' => ?_⟩
    · rw [← hinode]
      exact h.sealedUsed name file hfile
    · rw [← hinode]
      exact h.sealedInactive name file a hfile ha
    · obtain rfl := h.sealedUnique m f name file hf hfile (hf'.trans hinode.symm)
      obtain rfl := Option.some.inj (hf.symm.trans hfile)
      refine hdelivered.mono fun e he => ?_
      rcases List.mem_append.mp he with he | he
      · exact List.mem_append_left _ he
      · rw [List.mem_singleton.mp he]
        exact hclaimed

end EverTrace.L2.Capture
