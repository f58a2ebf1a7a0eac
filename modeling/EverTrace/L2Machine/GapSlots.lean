import EverTrace.L2Machine.GapMarker
import EverTrace.Lib.Trace
import Mathlib.Logic.Function.Basic
/-!
# Emergency slots (`evertrace-capture/src/spool.rs`)

A gap marker is written into the first free of `emergency_slots` slot files. The
reader decodes the slots in order; an acknowledgement removes the file of a
marker that was read.

A write can fail before it has a slot (`create`), after it wrote a part of the
bytes (`write`), or when the file (`sync`) or its directory (`syncDirectory`) is
synced. The calls of the reader do not fail here. Inode numbers are not given out
twice and there is one device. An acknowledgement may name any file, not only one
that was read. A sync that fails after the removal leaves the file removed.

`returned` and `acknowledged` are ghosts: the markers whose write returned `Ok`
and the markers whose file was removed.

Results:
* `step_tidy`: a step that does not fail in a slot keeps the slots whole: they
  hold the markers that were returned and not acknowledged.
* `pending_broken`, `step_broken`: a slot that does not decode ends every reading
  with an error, and stays.
-/
namespace EverTrace.L2.Capture
open EverTrace.Lib EverTrace.L1

structure SlotFile where
  inode : Nat
  bytes : Bytes
  deriving DecidableEq

structure Emergency where
  /-- `slot-NN.marker` by its number -/
  slots : Nat → Option SlotFile
  nextInode : Nat
  returned : List CaptureGapMarker
  acknowledged : List CaptureGapMarker

def Emergency.empty : Emergency := ⟨fun _ => none, 0, [], []⟩

/-- mirrors evertrace-capture/src/spool.rs:177-184 -/
structure PendingGapMarker where
  marker : CaptureGapMarker
  slot : Nat
  inode : Nat
  length : Nat
  deriving DecidableEq

/-! ## Reading -/

/-- One slot of the loop; once `limit` handles are there the rest of the loop changes nothing.
mirrors evertrace-capture/src/spool.rs:1172-1189 -/
def readSlot (H : Sha256) (s : Emergency) (limit : Nat) (handles : List PendingGapMarker) (slot : Nat) :
    Except SpoolError (List PendingGapMarker) :=
  if handles.length = limit then .ok handles
  else
    match s.slots slot with
    | none => .ok handles
    | some file => do
      let marker ← decodeMarker H file.bytes
      return handles ++ [⟨marker, slot, file.inode, file.bytes.length⟩]

/-- mirrors evertrace-capture/src/spool.rs:1157-1192 -/
def pendingGapMarkerHandles (H : Sha256) (limits : SpoolLimits) (s : Emergency) (limit : Nat) :
    Except SpoolError (List PendingGapMarker) := do
  ensure .invalidConfiguration (!(limit == 0 || limits.emergencySlots.toNat < limit))
  (List.range limits.emergencySlots.toNat).foldlM (readSlot H s limit) []

/-! ## Writing and acknowledging -/

/-- The kinds of I/O error that a write tells apart. -/
inductive ErrorKind where
  | permissionDenied
  | readOnlyFilesystem
  | other
  deriving DecidableEq, Repr

/-- mirrors evertrace-capture/src/spool.rs:1986-1995 -/
def mapWriteError : ErrorKind → SpoolError
  | .permissionDenied | .readOnlyFilesystem => .unavailable
  | .other => .io

inductive WriteFault where
  | none
  | create (kind : ErrorKind)
  | write (kind : ErrorKind) (written : Nat)
  | sync (kind : ErrorKind)
  | syncDirectory
  deriving DecidableEq, Repr

/-- The file was created. -/
def WriteFault.hasSlot : WriteFault → Bool
  | .none | .create _ => false
  | .write _ _ | .sync _ | .syncDirectory => true

/-- All bytes were written. -/
def WriteFault.isSync : WriteFault → Bool
  | .none | .create _ | .write _ _ => false
  | .sync _ | .syncDirectory => true

/-- The first slot whose `create_new` does not find a file. -/
def freeSlot (limits : SpoolLimits) (s : Emergency) : Option Nat :=
  (List.range limits.emergencySlots.toNat).find? fun slot => (s.slots slot).isNone

def Emergency.put (s : Emergency) (slot : Nat) (bytes : Bytes) : Emergency :=
  { s with slots := Function.update s.slots slot (some ⟨s.nextInode, bytes⟩), nextInode := s.nextInode + 1 }

/-- mirrors evertrace-capture/src/spool.rs:1108-1143 -/
def writeGapMarker (H : Sha256) (limits : SpoolLimits) (marker : CaptureGapMarker) (fault : WriteFault)
    (s : Emergency) : Except SpoolError Nat × Emergency :=
  match encodeMarker H marker with
  | .error e => (.error e, s)
  | .ok encoded =>
    match freeSlot limits s with
    | Option.none => (.error .emergencyExhausted, s)
    | some slot =>
      match fault with
      | .create kind => (.error (mapWriteError kind), s)
      -- `write_all` fails with some of its buffer unwritten
      | .write kind written =>
        (.error (mapWriteError kind), s.put slot (encoded.take (min written (encoded.length - 1))))
      | .sync kind => (.error (mapWriteError kind), s.put slot encoded)
      | .syncDirectory => (.error .io, s.put slot encoded)
      | .none => (.ok slot, { s.put slot encoded with returned := s.returned ++ [marker] })

/-- mirrors evertrace-capture/src/spool.rs:1208-1236, 1681-1702 -/
def acknowledgeGapMarkerHandle (H : Sha256) (handle : PendingGapMarker) (s : Emergency) :
    Except SpoolError Unit × Emergency :=
  match s.slots handle.slot with
  | none => (.error .io, s)
  | some file =>
    if file.inode != handle.inode || file.bytes.length != handle.length then (.error .identityChanged, s)
    else
      match decodeMarker H file.bytes with
      | .error e => (.error e, s)
      | .ok marker =>
        if marker != handle.marker then (.error .identityChanged, s)
        else (.ok (), { s with
          slots := Function.update s.slots handle.slot none
          acknowledged := s.acknowledged ++ [marker] })

/-- mirrors evertrace-capture/src/spool.rs:1145-1155 -/
def acknowledgeGapMarker (H : Sha256) (limits : SpoolLimits) (markerId : String) (s : Emergency) :
    Except SpoolError Bool × Emergency :=
  match pendingGapMarkerHandles H limits s limits.emergencySlots.toNat with
  | .error e => (.error e, s)
  | .ok handles =>
    match handles.find? fun handle => handle.marker.markerId == markerId with
    | none => (.ok false, s)
    | some handle =>
      let (result, t) := acknowledgeGapMarkerHandle H handle s
      (result.map fun _ => true, t)

/-- What a process does with the slots. An acknowledgement that fails before the removal does nothing. -/
inductive SlotOp where
  | write (marker : CaptureGapMarker) (fault : WriteFault)
  | acknowledgeHandle (handle : PendingGapMarker)
  | acknowledge (markerId : String)
  deriving DecidableEq

section Machine

variable (H : Sha256) (limits : SpoolLimits)

def slotStep (s : Emergency) : SlotOp → Emergency
  | .write marker fault => (writeGapMarker H limits marker fault s).2
  | .acknowledgeHandle handle => (acknowledgeGapMarkerHandle H handle s).2
  | .acknowledge markerId => (acknowledgeGapMarker H limits markerId s).2

def runSlots (ops : List SlotOp) : Emergency := run (slotStep H limits) .empty ops

/-- The write gets a slot and fails after that. -/
def failsInSlot (s : Emergency) : SlotOp → Bool
  | .write marker fault =>
    (encodeMarker H marker).isOk && (freeSlot limits s).isSome && fault.hasSlot
  | _ => false

/-- The reader returns exactly the markers that were returned and not acknowledged. -/
def Delivers (s : Emergency) : Prop :=
  ∃ handles, pendingGapMarkerHandles H limits s limits.emergencySlots.toNat = .ok handles ∧
    (handles.map (·.marker) ++ s.acknowledged).Perm s.returned

end Machine

/-! ## What the reader returns -/

variable {H : Sha256} {limits : SpoolLimits} {s t : Emergency}

def Emergency.markerAt (H : Sha256) (s : Emergency) (slot : Nat) : Option CaptureGapMarker :=
  (s.slots slot).bind fun file => (decodeMarker H file.bytes).toOption

/-- The markers in the slots, in order. -/
def Emergency.held (H : Sha256) (limits : SpoolLimits) (s : Emergency) : List CaptureGapMarker :=
  (List.range limits.emergencySlots.toNat).filterMap (s.markerAt H)

theorem markerAt_eq_some {slot : Nat} {m : CaptureGapMarker} :
    s.markerAt H slot = some m ↔ ∃ file, s.slots slot = some file ∧ decodeMarker H file.bytes = .ok m := by
  simp only [Emergency.markerAt, Option.bind_eq_some_iff, toOption_eq_some]

def Emergency.Sound (H : Sha256) (s : Emergency) : Prop :=
  ∀ slot file, s.slots slot = some file → ∃ m, decodeMarker H file.bytes = .ok m

/-- The loop reads every slot: the limit is only reached at the end. -/
theorem foldlM_readSlot {limit : Nat} (hsound : s.Sound H) : ∀ (slots : List Nat) (handles : List PendingGapMarker),
    handles.length + slots.length ≤ limit → ∃ all, slots.foldlM (readSlot H s limit) handles = .ok all ∧
      all.map (·.marker) = handles.map (·.marker) ++ slots.filterMap (s.markerAt H) := by
  intro slots
  induction slots with
  | nil =>
    intro handles _
    refine ⟨handles, rfl, ?_⟩
    rw [List.filterMap_nil, List.append_nil]
  | cons slot rest ih =>
    intro handles hroom
    rw [List.length_cons] at hroom
    rw [List.foldlM_cons, readSlot, if_neg (by omega)]
    cases hslot : s.slots slot with
    | none =>
      obtain ⟨all, hall, hmarkers⟩ := ih handles (by omega)
      refine ⟨all, hall, ?_⟩
      rw [hmarkers, List.filterMap_cons_none]
      simp [Emergency.markerAt, hslot]
    | some file =>
      obtain ⟨m, hm⟩ := hsound slot file hslot
      obtain ⟨all, hall, hmarkers⟩ := ih (handles ++ [⟨m, slot, file.inode, file.bytes.length⟩])
        (by rw [List.length_append, List.length_singleton]; omega)
      refine ⟨all, ?_, ?_⟩
      · dsimp only
        rw [hm]
        exact hall
      · rw [hmarkers, List.filterMap_cons_some (markerAt_eq_some.mpr ⟨file, hslot, hm⟩), List.map_append,
          List.append_assoc]
        rfl

/-- A slot that does not decode ends the loop with an error. -/
theorem foldlM_readSlot_broken {limit slot : Nat} {file : SlotFile} (hslot : s.slots slot = some file)
    (hbroken : ∀ m, decodeMarker H file.bytes ≠ .ok m) : ∀ {slots : List Nat} {handles : List PendingGapMarker},
    slot ∈ slots → handles.length + slots.length ≤ limit →
    ∀ all, slots.foldlM (readSlot H s limit) handles ≠ .ok all := by
  intro slots
  induction slots with
  | nil => intro handles hmem; cases hmem
  | cons first rest ih =>
    intro handles hmem hroom all h
    rw [List.length_cons] at hroom
    rw [List.foldlM_cons] at h
    obtain ⟨handles', hread, h⟩ := bind_eq_ok.mp h
    rw [readSlot, if_neg (by omega)] at hread
    by_cases hfirst : slot = first
    · subst hfirst
      rw [hslot] at hread
      obtain ⟨m, hm, -⟩ := bind_eq_ok.mp hread
      exact hbroken m hm
    · have hlength : handles'.length ≤ handles.length + 1 := by
        split at hread
        · cases hread
          omega
        · obtain ⟨m, -, hread⟩ := bind_eq_ok.mp hread
          rw [pure_eq_ok] at hread
          rw [← hread, List.length_append, List.length_singleton]
      have hmem : slot ∈ rest := (List.mem_cons.mp hmem).resolve_left hfirst
      exact ih hmem (by omega) all h

theorem pending_ok (hslots : limits.emergencySlots ≠ 0) (hsound : s.Sound H) :
    ∃ handles, pendingGapMarkerHandles H limits s limits.emergencySlots.toNat = .ok handles ∧
      handles.map (·.marker) = s.held H limits := by
  have hpos : limits.emergencySlots.toNat ≠ 0 := fun h => hslots (UInt16.toNat_inj.mp h)
  obtain ⟨all, hall, hmarkers⟩ := @foldlM_readSlot H s limits.emergencySlots.toNat hsound
    (List.range limits.emergencySlots.toNat) [] (by simp)
  refine ⟨all, ?_, hmarkers⟩
  unfold pendingGapMarkerHandles
  rw [ensure_bind_ok]
  exact ⟨by simpa using hpos, hall⟩

/-- A slot whose file does not decode. -/
def Emergency.Broken (H : Sha256) (limits : SpoolLimits) (s : Emergency) : Prop :=
  ∃ slot < limits.emergencySlots.toNat, ∃ file, s.slots slot = some file ∧ ∀ m, decodeMarker H file.bytes ≠ .ok m

theorem pending_broken (h : s.Broken H limits) (handles : List PendingGapMarker) :
    pendingGapMarkerHandles H limits s limits.emergencySlots.toNat ≠ .ok handles := by
  obtain ⟨slot, hlt, file, hslot, hbroken⟩ := h
  intro hok
  unfold pendingGapMarkerHandles at hok
  rw [ensure_bind_ok] at hok
  exact foldlM_readSlot_broken hslot hbroken (List.mem_range.mpr hlt) (by simp) handles hok.2

/-! ## What a step does -/

/-- An acknowledgement changes nothing, or removes a file that decodes to the marker it acknowledges. -/
theorem acknowledge_cases (handle : PendingGapMarker) (s : Emergency) :
    (acknowledgeGapMarkerHandle H handle s).2 = s ∨
      ∃ file m, s.slots handle.slot = some file ∧ decodeMarker H file.bytes = .ok m ∧
        (acknowledgeGapMarkerHandle H handle s).2 = { s with
          slots := Function.update s.slots handle.slot none
          acknowledged := s.acknowledged ++ [m] } := by
  unfold acknowledgeGapMarkerHandle
  cases hslot : s.slots handle.slot with
  | none => exact .inl rfl
  | some file =>
    dsimp only
    split
    · exact .inl rfl
    · cases hm : decodeMarker H file.bytes with
      | error e => exact .inl rfl
      | ok m =>
        dsimp only
        split
        · exact .inl rfl
        · exact .inr ⟨file, m, rfl, hm, rfl⟩

/-- A write changes nothing, or fills the first free slot: with the whole file, or with a part of it. -/
theorem write_cases (marker : CaptureGapMarker) (fault : WriteFault) (s : Emergency) :
    (writeGapMarker H limits marker fault s).2 = s ∧ failsInSlot H limits s (.write marker fault) = false ∨
      ∃ slot encoded, freeSlot limits s = some slot ∧ encodeMarker H marker = .ok encoded ∧
        ((fault = .none ∧
            (writeGapMarker H limits marker fault s).2 =
              { s.put slot encoded with returned := s.returned ++ [marker] }) ∨
          (failsInSlot H limits s (.write marker fault) = true ∧
            ((fault.isSync = true ∧ (writeGapMarker H limits marker fault s).2 = s.put slot encoded) ∨
              ∃ written < encoded.length,
              (writeGapMarker H limits marker fault s).2 = s.put slot (encoded.take written)))) := by
  cases hencoded : encodeMarker H marker with
  | error e => exact .inl ⟨by simp [writeGapMarker, hencoded], by simp [failsInSlot, hencoded, Except.isOk, Except.toBool]⟩
  | ok encoded =>
    cases hfree : freeSlot limits s with
    | none => exact .inl ⟨by simp [writeGapMarker, hencoded, hfree], by simp [failsInSlot, hfree]⟩
    | some slot =>
      cases fault with
      | create kind => exact .inl ⟨by simp [writeGapMarker, hencoded, hfree], by simp [failsInSlot, WriteFault.hasSlot]⟩
      | none =>
        refine .inr ⟨slot, encoded, rfl, rfl, .inl ⟨rfl, ?_⟩⟩
        simp [writeGapMarker, hencoded, hfree]
      | sync kind | syncDirectory =>
        refine .inr ⟨slot, encoded, rfl, rfl, .inr ⟨?_, .inl ⟨rfl, ?_⟩⟩⟩
        · simp [failsInSlot, hencoded, hfree, Except.isOk, Except.toBool, WriteFault.hasSlot]
        · simp [writeGapMarker, hencoded, hfree]
      | write kind written =>
        obtain ⟨-, -, hbytes⟩ := encodeMarker_ok.mp hencoded
        have hpos : 0 < encoded.length := by
          rw [hbytes, fileBytes, List.length_append, length_be16]
          omega
        refine .inr ⟨slot, encoded, rfl, rfl, .inr ⟨?_, .inr ⟨min written (encoded.length - 1), by omega, ?_⟩⟩⟩
        · simp [failsInSlot, hencoded, hfree, Except.isOk, Except.toBool, WriteFault.hasSlot]
        · simp [writeGapMarker, hencoded, hfree]

theorem freeSlot_some {slot : Nat} (h : freeSlot limits s = some slot) :
    slot < limits.emergencySlots.toNat ∧ s.slots slot = none := by
  have hmem := List.mem_of_find?_eq_some h
  have hnone := List.find?_some h
  exact ⟨List.mem_range.mp hmem, Option.isNone_iff_eq_none.mp hnone⟩

/-! ## Whole slots -/

/-- Filling one place of a list without repetitions adds one element to what is collected. -/
theorem filterMap_update {α : Type} {l : List Nat} (hl : l.Nodup) {k : Nat} (hk : k ∈ l) {f g : Nat → Option α}
    (hother : ∀ i ≠ k, g i = f i) (hf : f k = none) {a : α} (hg : g k = some a) :
    (l.filterMap g).Perm (a :: l.filterMap f) := by
  obtain ⟨front, back, rfl⟩ := List.append_of_mem hk
  have hmiddle := (List.nodup_append.mp hl).2.2
  have hback := (List.nodup_cons.mp (List.nodup_append.mp hl).2.1).1
  have hfront : front.filterMap g = front.filterMap f :=
    List.filterMap_congr fun i hi => hother i fun h => hmiddle i hi k List.mem_cons_self h
  have hrest : back.filterMap g = back.filterMap f :=
    List.filterMap_congr fun i hi => hother i fun h => hback (h ▸ hi)
  rw [List.filterMap_append, List.filterMap_append, List.filterMap_cons_some hg, List.filterMap_cons_none hf,
    hfront, hrest]
  exact List.perm_middle

/-- Every slot decodes, and the slots hold what was returned and not acknowledged. -/
structure Emergency.Tidy (H : Sha256) (limits : SpoolLimits) (s : Emergency) : Prop where
  sound : s.Sound H
  inside : ∀ slot, limits.emergencySlots.toNat ≤ slot → s.slots slot = none
  markers : (s.held H limits ++ s.acknowledged).Perm s.returned

theorem tidy_empty : Emergency.empty.Tidy H limits where
  sound := fun slot file h => by cases h
  inside := fun _ _ => rfl
  markers := by
    have hheld : Emergency.empty.held H limits = [] := List.filterMap_eq_nil_iff.mpr fun _ _ => rfl
    rw [hheld]
    exact .nil

theorem Emergency.Tidy.write (h : s.Tidy H limits) {slot : Nat} {m : CaptureGapMarker} {encoded : Bytes}
    (hfree : freeSlot limits s = some slot) (hencoded : encodeMarker H m = .ok encoded) :
    Emergency.Tidy H limits { s.put slot encoded with returned := s.returned ++ [m] } := by
  obtain ⟨hlt, hnone⟩ := freeSlot_some hfree
  have hdecode : decodeMarker H encoded = .ok m := decodeMarker_ok.mpr (encodeMarker_ok.mp hencoded)
  refine ⟨fun i file hi => ?_, fun i hi => ?_, ?_⟩
  · by_cases hslot : i = slot
    · subst hslot
      simp only [Emergency.put, Function.update_self, Option.some.injEq] at hi
      subst hi
      exact ⟨m, hdecode⟩
    · simp only [Emergency.put, Function.update_of_ne hslot] at hi
      exact h.sound i file hi
  · simp only [Emergency.put, Function.update_of_ne (show i ≠ slot by omega)]
    exact h.inside i hi
  · have hheld : (Emergency.held H limits { s.put slot encoded with returned := s.returned ++ [m] }).Perm
        (m :: s.held H limits) := by
      refine filterMap_update List.nodup_range (List.mem_range.mpr hlt) (fun i hi => ?_) ?_ ?_
      · simp [Emergency.markerAt, Emergency.put, hi]
      · simp [Emergency.markerAt, hnone]
      · simp [Emergency.markerAt, Emergency.put, hdecode, Except.toOption]
    refine (hheld.append_right _).trans ?_
    rw [List.cons_append]
    exact (h.markers.cons m).trans (List.perm_append_singleton m s.returned).symm

theorem Emergency.Tidy.remove (h : s.Tidy H limits) {slot : Nat} {file : SlotFile} {m : CaptureGapMarker}
    (hslot : s.slots slot = some file) (hdecode : decodeMarker H file.bytes = .ok m) :
    Emergency.Tidy H limits { s with
      slots := Function.update s.slots slot none, acknowledged := s.acknowledged ++ [m] } := by
  have hlt : slot < limits.emergencySlots.toNat := by
    by_cases hlt : slot < limits.emergencySlots.toNat
    · exact hlt
    · rw [h.inside slot (by omega)] at hslot
      cases hslot
  refine ⟨fun i f hi => ?_, fun i hi => ?_, ?_⟩
  · by_cases heq : i = slot
    · subst heq
      simp only [Function.update_self] at hi
      cases hi
    · simp only [Function.update_of_ne heq] at hi
      exact h.sound i f hi
  · simp only [Function.update_of_ne (show i ≠ slot by omega)]
    exact h.inside i hi
  · have hheld : (s.held H limits).Perm (m :: Emergency.held H limits { s with
        slots := Function.update s.slots slot none, acknowledged := s.acknowledged ++ [m] }) := by
      refine filterMap_update List.nodup_range (List.mem_range.mpr hlt) (fun i hi => ?_) ?_ ?_
      · simp [Emergency.markerAt, hi]
      · simp [Emergency.markerAt]
      · exact markerAt_eq_some.mpr ⟨file, hslot, hdecode⟩
    refine List.Perm.trans ?_ h.markers
    refine List.Perm.trans ?_ (hheld.append_right _).symm
    rw [← List.append_assoc, List.cons_append]
    exact List.perm_append_singleton _ _

theorem step_tidy (h : s.Tidy H limits) (op : SlotOp) (hop : failsInSlot H limits s op = false) :
    (slotStep H limits s op).Tidy H limits := by
  have hhandle : ∀ handle, (acknowledgeGapMarkerHandle H handle s).2.Tidy H limits := by
    intro handle
    rcases acknowledge_cases (H := H) handle s with hsame | ⟨file, m, hslot, hm, hnext⟩
    · rw [hsame]
      exact h
    · rw [hnext]
      exact h.remove hslot hm
  cases op with
  | write marker fault =>
    rcases @write_cases H limits marker fault s with
      ⟨hsame, -⟩ | ⟨slot, encoded, hfree, hencoded, ⟨-, hnext⟩ | ⟨hfails, -⟩⟩
    · rw [slotStep, hsame]
      exact h
    · rw [slotStep, hnext]
      exact h.write hfree hencoded
    · rw [hfails] at hop
      cases hop
  | acknowledgeHandle handle => exact hhandle handle
  | acknowledge markerId =>
    simp only [slotStep, acknowledgeGapMarker]
    split
    · exact h
    · split
      · exact h
      · exact hhandle _

/-! ## Broken slots -/

/-- A proper part of a marker's file does not decode: the length field tells how long the file is. -/
theorem decodeMarker_take {m : CaptureGapMarker} {encoded : Bytes} (hencoded : encodeMarker H m = .ok encoded)
    {written : Nat} (hlt : written < encoded.length) (m' : CaptureGapMarker) :
    decodeMarker H (encoded.take written) ≠ .ok m' := by
  intro h
  have hwhole := encodeMarker_ok.mp hencoded
  obtain ⟨hvalid, hfit, hbytes⟩ := hwhole
  obtain ⟨hvalid', hfit', hbytes'⟩ := decodeMarker_ok.mp h
  obtain ⟨-, hlength, hall, -⟩ := fileBytes_fields (H := H) (length_bodyBytes hfit (validateMarker_fingerprint hvalid))
  obtain ⟨-, hlength', hall', -⟩ :=
    fileBytes_fields (H := H) (length_bodyBytes hfit' (validateMarker_fingerprint hvalid'))
  rw [← hbytes] at hlength hall
  rw [← hbytes', List.length_take] at hall'
  rw [← hbytes', List.drop_take, List.take_take] at hlength'
  have hfour : min 4 (written - 2) = 4 := by omega
  rw [hfour, hlength] at hlength'
  omega

/-- A slot that does not decode stays as it is. -/
theorem step_broken (h : s.Broken H limits) (op : SlotOp) : (slotStep H limits s op).Broken H limits := by
  obtain ⟨slot, hlt, file, hslot, hbroken⟩ := h
  have hput : ∀ free bytes, freeSlot limits s = some free → (s.put free bytes).slots slot = some file := by
    intro free bytes hfree
    have hne : slot ≠ free := by
      intro heq
      rw [heq, (freeSlot_some hfree).2] at hslot
      cases hslot
    simp only [Emergency.put, Function.update_of_ne hne]
    exact hslot
  have hhandle : ∀ handle, (acknowledgeGapMarkerHandle H handle s).2.Broken H limits := by
    intro handle
    rcases acknowledge_cases (H := H) handle s with hsame | ⟨other, m, hother, hm, hnext⟩
    · rw [hsame]
      exact ⟨slot, hlt, file, hslot, hbroken⟩
    · have hne : slot ≠ handle.slot := by
        intro heq
        rw [← heq, hslot] at hother
        cases hother
        exact hbroken m hm
      rw [hnext]
      refine ⟨slot, hlt, file, ?_, hbroken⟩
      simp only [Function.update_of_ne hne]
      exact hslot
  cases op with
  | write marker fault =>
    rcases @write_cases H limits marker fault s with
      ⟨hsame, -⟩ | ⟨free, encoded, hfree, -, ⟨-, hnext⟩ | ⟨-, ⟨-, hnext⟩ | ⟨written, -, hnext⟩⟩⟩
    · rw [slotStep, hsame]
      exact ⟨slot, hlt, file, hslot, hbroken⟩
    · rw [slotStep, hnext]
      exact ⟨slot, hlt, file, hput free encoded hfree, hbroken⟩
    · rw [slotStep, hnext]
      exact ⟨slot, hlt, file, hput free encoded hfree, hbroken⟩
    · rw [slotStep, hnext]
      exact ⟨slot, hlt, file, hput free _ hfree, hbroken⟩
  | acknowledgeHandle handle => exact hhandle handle
  | acknowledge markerId =>
    simp only [slotStep, acknowledgeGapMarker]
    split
    · exact ⟨slot, hlt, file, hslot, hbroken⟩
    · split
      · exact ⟨slot, hlt, file, hslot, hbroken⟩
      · exact hhandle _

theorem broken_of_failsInSlot {marker : CaptureGapMarker} {fault : WriteFault} (hsync : fault.isSync = false)
    (h : failsInSlot H limits s (.write marker fault) = true) :
    (slotStep H limits s (.write marker fault)).Broken H limits := by
  rcases @write_cases H limits marker fault s with
    ⟨-, hfails⟩ | ⟨slot, encoded, hfree, hencoded, ⟨hnone, -⟩ | ⟨-, ⟨hfault, -⟩ | ⟨written, hlt, hnext⟩⟩⟩
  · rw [hfails] at h
    cases h
  · rw [hnone] at h
    simp [failsInSlot, WriteFault.hasSlot] at h
  · rw [hsync] at hfault
    cases hfault
  · rw [slotStep, hnext]
    refine ⟨slot, (freeSlot_some hfree).1, ⟨s.nextInode, encoded.take written⟩, ?_, decodeMarker_take hencoded hlt⟩
    simp [Emergency.put]

end EverTrace.L2.Capture
