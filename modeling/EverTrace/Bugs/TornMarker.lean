import EverTrace.L2Machine.GapSlots
/-!
# A gap marker that breaks off hides all the others

`write_gap_marker` (evertrace-capture/src/spool.rs:1108-1143) creates the slot
file before it writes the marker, and leaves the file when the writing fails.
`pending_gap_marker_handles` returns the first decoding error it meets (line
1179, `decode_marker(&bytes)?`), so from then on it returns `Corrupt`, whatever
is in the other slots; nothing removes the slot, since acknowledging starts from
a handle. `append_isolated_sealed` (lines 586-591) removes its file when the
writing fails.

Counterexample: one marker whose write stops after three bytes, then another
that is written.

`delivers_iff` says exactly when the markers are read back: no write fails in
its slot.
-/
namespace EverTrace.Bugs.TornMarker
open EverTrace.Lib EverTrace.L1 EverTrace.L2.Capture

/-! ## The defect -/

def lostMarker (markerId : String) : CaptureGapMarker where
  markerId := markerId
  sourceRef := "hook"
  sessionRef := "session"
  turnRef := none
  toolRef := some "tool"
  failureReason := .mainPressure
  redactedFingerprint := "0123456789abcdef0123456789abcdef0123456789abcdef0123456789abcdef"
  attemptedBytes := 12
  lastDurableWatermark := 4096

/-- The disk is full after three bytes of the first marker; the second is written. -/
def tornRun : List SlotOp := [.write (lostMarker "gap:a") (.write .other 3), .write (lostMarker "gap:b") .none]

/-- The failures of a write that leave a proper part of the marker, or nothing. -/
def partOnly : SlotOp → Bool
  | .write _ fault => !fault.isSync
  | _ => true

theorem torn_marker_hides : sampleLimits.validate.isOk = true ∧ (∀ op ∈ tornRun, partOnly op = true) ∧
    (runSlots zeroSha sampleLimits tornRun).returned = [lostMarker "gap:b"] ∧
    ¬ Delivers zeroSha sampleLimits (runSlots zeroSha sampleLimits tornRun) := by
  have hbroken : (slotStep zeroSha sampleLimits .empty (.write (lostMarker "gap:a") (.write .other 3))).Broken zeroSha
      sampleLimits := broken_of_failsInSlot (by decide) (by decide +kernel)
  refine ⟨by decide, by decide, by decide +kernel, ?_⟩
  rintro ⟨handles, hok, -⟩
  exact pending_broken (step_broken hbroken (.write (lostMarker "gap:b") .none)) handles hok

/-! ## When the markers are read back -/

variable {H : Sha256} {limits : SpoolLimits}

theorem emergencySlots_ne_zero (h : limits.validate.isOk = true) : limits.emergencySlots ≠ 0 := by
  obtain ⟨_, h⟩ := exists_of_isOk h
  unfold SpoolLimits.validate at h
  rw [ensure_bind_ok] at h
  intro hzero
  simp [hzero] at h

/-- Whole slots are read back. -/
theorem delivers_of_tidy {s : Emergency} (hlimits : limits.validate.isOk = true) (h : s.Tidy H limits) :
    Delivers H limits s := by
  obtain ⟨handles, hok, hmarkers⟩ := pending_ok (emergencySlots_ne_zero hlimits) h.sound
  refine ⟨handles, hok, ?_⟩
  rw [hmarkers]
  exact h.markers

/-- **The markers are read back exactly when no write fails in its slot.** In a run of writes, which may
break off anywhere, and acknowledgements, `pending_gap_marker_handles` returns exactly the markers that
were written and not acknowledged if and only if no write failed once it had a slot. -/
theorem delivers_iff (hlimits : limits.validate.isOk = true) (ops : List SlotOp)
    (hpart : ∀ op ∈ ops, partOnly op = true) :
    Delivers H limits (runSlots H limits ops) ↔
      accepted (failsInSlot H limits) (slotStep H limits) .empty ops = [] := by
  constructor
  · rintro ⟨handles, hok, -⟩
    by_contra hne
    obtain ⟨op, hop⟩ := List.exists_mem_of_ne_nil _ hne
    have hreach : ∀ s, failsInSlot H limits s op = true → (slotStep H limits s op).Broken H limits := by
      intro s hfails
      have hop := hpart op (mem_of_mem_accepted hop)
      cases op with
      | write marker fault =>
        exact broken_of_failsInSlot ((Bool.not_eq_true' _).mp hop) hfails
      | acknowledgeHandle handle => cases hfails
      | acknowledge markerId => cases hfails
    have hbroken : (runSlots H limits ops).Broken H limits :=
      run_of_accepted (P := Emergency.Broken H limits) (fun s op hs => step_broken hs op) hreach ops _ hop
    exact pending_broken hbroken handles hok
  · intro hnone
    refine delivers_of_tidy hlimits ?_
    refine @run_invariant_accepted _ _ (failsInSlot H limits) _ _ (fun s op hop hs => step_tidy hs op hop) ops
      .empty ?_ tidy_empty
    rw [hnone]
    intro t op hop
    cases hop

/-- Two markers, of which the first is acknowledged. -/
theorem delivers_two : Delivers zeroSha sampleLimits (runSlots zeroSha sampleLimits
    [.write (lostMarker "gap:a") .none, .write (lostMarker "gap:b") (.create .permissionDenied), .write (lostMarker "gap:c") .none,
      .acknowledge "gap:a"]) :=
  (delivers_iff (by decide) _ (by decide)).mpr (by decide +kernel)

end EverTrace.Bugs.TornMarker
