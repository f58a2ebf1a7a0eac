import EverTrace.L2Machine.ImportPrefix
import EverTrace.L2Machine.SessionQueue
/-!
# The import fence under ingested records

The fence of a source revision comes from the prospective origin of the session's
metadata; the first record of a revision freezes it in the watermark. A drain
reads both, and `projected_confirmed_prefix` refuses to start when they disagree.

`apply_session_event` alone lets them disagree: a source that was replaced may get
an origin without getting a new revision, and a session may go back to an earlier
revision with another origin (`fence_under_records`). The store looks first: an
origin that is new for a revision is refused when the revision has records
(evertrace-store/src/projections.rs:11140-11170). With that check the two always
agree (`imported_fence`).
-/
namespace EverTrace.L2.Ingest
open EverTrace.Lib EverTrace.L1 EverTrace.L2.Store EverTrace.L2.SessionImport

/-! ## Events and records of one source -/

/-- The session of a source, its store, and what the current drain has read of it. -/
structure Source where
  current : Option SessionImportCurrent
  store : Store
  projection : Option Store
  states : OrdMap String ConfirmedPrefixState

def Source.empty : Source := ⟨none, ⟨[], .empty⟩, none, .empty⟩

/-- mirrors evertrace-store/src/projections.rs:12300-12310 -/
def eventSourceInstance (event : SessionImportEvent) : String :=
  event.sourceInstanceId.getD s!"codex-session:{event.sessionId}"

/-- The fence of the current metadata, when it is of this revision.
mirrors evertrace-engine/src/ingest.rs:569-574 -/
def fenceOf (current : Option SessionImportCurrent) (revision : String) : Option Nat :=
  ((current.filter fun value => value.metadata.sourceRevision == revision).bind
    fun value => value.metadata.prospectiveOrigin).bind ProspectiveSourceOrigin.recordStart

/-- mirrors evertrace-store/src/projections.rs:12322-12331 -/
def prospectiveOriginIsNewForRevision (current : Option SessionImportCurrent) (metadata : SessionMetadata) : Bool :=
  metadata.prospectiveOrigin.isSome
    && current.all fun value => value.metadata.sourceRevision != metadata.sourceRevision
      || value.metadata.prospectiveOrigin.isNone

/-- mirrors evertrace-store/src/projections.rs:12333-12346 -/
def sessionImportRevisionHasFacts (store : Store) (source revision : String) : Bool :=
  (store.watermark source revision).isSome
    || store.receipts.any fun receipt => receipt.sourceInstanceId == source && receipt.sourceRevision == revision

/-- The store's check before it applies an event.
mirrors evertrace-store/src/projections.rs:11156-11167 -/
def Admitted (s : Source) (event : SessionImportEvent) : Prop :=
  ∀ metadata, event.event = .metadataObserved metadata →
    prospectiveOriginIsNewForRevision s.current metadata = true →
    sessionImportRevisionHasFacts s.store (eventSourceInstance event) metadata.sourceRevision = false

/-- One record. A record that is recognised was committed before and is replayed: the store refuses a watermark
that does not advance (evertrace-store/src/projections.rs:12511-12680).
mirrors evertrace-engine/src/ingest.rs:537-758 -/
def Source.ingest (H : Sha256) (s : Source) (capture : VerifiedCapture) : Except IngestError Source := do
  let range ← okOr .invalidRecord capture.receipt.sourceByteRange
  ensure .invalidRecord (range.finish == capture.receipt.sourceSequence && range.start < range.finish)
  let (projection, state) ← Drain.load
    ⟨s.store, s.projection, s.states.get capture.receipt.sourceRevision⟩
    (fenceOf s.current capture.receipt.sourceRevision) capture.receipt
  let (_, watermark, state) ← classify H projection state capture.receipt range
  return { s with
    store := match watermark with
      | some watermark => s.store.commit capture watermark
      | none => s.store
    projection := projection
    states := s.states.insert capture.receipt.sourceRevision state }

/-- Events of a source that the store lets through, and records of its current revision whose scope is granted, in
any order; a drain may end at any point. -/
inductive Run (H : Sha256) (source : String) (admitted : Source → SessionImportEvent → Prop) : Source → Prop
  | empty : Run H source admitted .empty
  | event {s : Source} {event : SessionImportEvent} {seq : Nat} {next : SessionImportCurrent} :
      Run H source admitted s → eventSourceInstance event = source → admitted s event →
      applySessionEvent s.current event seq = .ok next → Run H source admitted { s with current := some next }
  | restart {s : Source} : Run H source admitted s →
      Run H source admitted { s with projection := none, states := .empty }
  | ingest {s s' : Source} {current : SessionImportCurrent} {capture : VerifiedCapture} {range : EvidenceByteRange}
      {snapshot : Option WorktreeSnapshot} {worktree : Option WorktreeInstance} {scope : ImportScope} :
      Run H source admitted s → s.current = some current → capture.receipt.sourceInstanceId = source →
      capture.receipt.sourceRevision = current.metadata.sourceRevision →
      capture.receipt.sourceByteRange = some range →
      current.importScope range snapshot worktree = .ok scope → s.ingest H capture = .ok s' →
      Run H source admitted s'

/-! ## The invariant -/

/-- A watermark a drain can start from. -/
def WatermarkOk (watermark : SourceIngestWatermark) : Prop :=
  match watermark.earlierPrefix with
  | some earlier =>
    (watermark.confirmedPrefixDigest.isSome → earlier.fenceByte < watermark.sourceSequence) ∧
    (watermark.confirmedPrefixDigest = none → watermark.sourceSequence = earlier.fenceByte)
  | none => watermark.confirmedPrefixDigest.isSome

/-- The main chain starts at the fence. -/
def StateOk (state : ConfirmedPrefixState) : Prop :=
  ∀ fence, state.originFence = some fence →
    (state.localDigest.isSome → fence < state.localEnd) ∧ (state.localDigest = none → state.localEnd = fence)

def SourceIngestWatermark.fence (watermark : SourceIngestWatermark) : Option Nat :=
  watermark.earlierPrefix.map SourceImportEarlierPrefix.fenceByte

/-- What holds between the session and the store. -/
structure Inv (source : String) (s : Source) : Prop where
  /-- The session is the one of the source. -/
  named : ∀ current, s.current = some current → current.sourceInstance = source
  /-- A watermark is under its own key, and a drain can start from it. -/
  rows : ∀ revision w, s.store.watermark source revision = some w →
    w.sourceInstanceId = source ∧ w.sourceRevision = revision ∧ WatermarkOk w
  /-- An origin of a revision with records has the fence of the records. -/
  frozen : ∀ current w, s.current = some current →
    s.store.watermark source current.metadata.sourceRevision = some w →
    ∀ origin, current.metadata.prospectiveOrigin = some origin →
      ∃ fence, origin.recordStart = some fence ∧ w.fence = some fence
  /-- What the drain works with is the state of the store. -/
  states : ∀ revision state, s.states.get revision = some state → StateOk state ∧
    ∃ w, s.store.watermark source revision = some w ∧ w.fence = state.originFence
  /-- What the drain did not load yet has not changed since it began. -/
  fresh : ∀ projection revision, s.projection = some projection → s.states.get revision = none →
    projection.watermark source revision = s.store.watermark source revision

theorem inv_empty (source : String) : Inv source .empty where
  named := by simp [Source.empty]
  rows := by simp [Source.empty, Store.watermark]
  frozen := by simp [Source.empty]
  states := by simp [Source.empty]
  fresh := by simp [Source.empty]

variable {H : Sha256} {source revision : String} {s s' : Source} {w : SourceIngestWatermark}

theorem projected_ok (hrow : w.sourceInstanceId = source ∧ w.sourceRevision = revision ∧ WatermarkOk w)
    {store : Store} {fence : Option Nat} (hstore : store.watermark source revision = some w)
    (hfence : fence = none ∨ fence = w.fence) :
    ∃ state, projectedConfirmedPrefix store source revision fence = .ok state ∧ StateOk state ∧
      state.originFence = w.fence ∧ state.localExact = .empty ∧ state.committedWatermark = some w := by
  obtain ⟨hinstance, hrevision, hok⟩ := hrow
  have hpersisted : persistedFence w fence = .ok w.fence := by
    unfold persistedFence SourceIngestWatermark.fence
    unfold SourceIngestWatermark.fence at hfence
    cases hearlier : w.earlierPrefix with
    | none =>
      rw [hearlier] at hfence
      rcases hfence with rfl | rfl <;> rfl
    | some earlier =>
      rw [hearlier] at hfence
      rcases hfence with rfl | rfl <;> simp
  have hends : ∃ ends, chainEnds w w.fence = .ok ends ∧ ∀ fence, w.fence = some fence →
      (ends.2.1.isSome → fence < ends.1) ∧ (ends.2.1 = none → ends.1 = fence) := by
    unfold WatermarkOk at hok
    unfold SourceIngestWatermark.fence
    cases hearlier : w.earlierPrefix with
    | none =>
      rw [hearlier] at hok
      simp only at hok
      refine ⟨_, by simp only [chainEnds, Option.map_none, hearlier, hok, ensure]; rfl, by simp⟩
    | some earlier =>
      rw [hearlier] at hok
      have hfilter : w.earlierPrefix.filter (fun e => e.fenceByte == earlier.fenceByte) = some earlier := by
        rw [hearlier, Option.filter_some_pos (by simp)]
      cases hdigest : w.confirmedPrefixDigest with
      | none =>
        have hseq := hok.2 hdigest
        refine ⟨(earlier.fenceByte, none, earlier.throughByte, earlier.digest), ?_, by simp⟩
        rw [Option.map_some, chainEnds, hfilter]
        simp [hdigest, hseq, okOr, ensure, bind, Except.bind, pure, Except.pure]
      | some digest =>
        have hseq := hok.1 (by rw [hdigest]; rfl)
        refine ⟨(w.sourceSequence, some digest, earlier.throughByte, earlier.digest), ?_, by simpa using hseq⟩
        rw [Option.map_some, chainEnds, hfilter]
        simp [hdigest, hseq, okOr, ensure, bind, Except.bind, pure, Except.pure]
  obtain ⟨ends, hends, hstate⟩ := hends
  refine ⟨⟨w.fence, some w, none, .empty, ends.1, ends.2.1, ends.2.2.1, ends.2.2.2⟩, ?_, hstate, rfl, rfl, rfl⟩
  unfold projectedConfirmedPrefix
  rw [hstore]
  simp [hinstance, hrevision, hpersisted, hends, ensure, bind, Except.bind, pure, Except.pure]

/-! ## One record -/

theorem watermark_fence (state : ConfirmedPrefixState) (receipt : SourceReceipt) :
    (state.watermark receipt).fence = state.originFence := by
  unfold SourceIngestWatermark.fence ConfirmedPrefixState.watermark
  cases state.originFence <;> rfl

theorem advance_ok {state state' : ConfirmedPrefixState} {receipt : SourceReceipt} {range : EvidenceByteRange}
    (hrange : receipt.sourceByteRange = some range) (hok : StateOk state)
    (h : state.advance H receipt = .ok (w, state')) :
    StateOk state' ∧ WatermarkOk w ∧ w.sourceInstanceId = receipt.sourceInstanceId ∧
      w.sourceRevision = receipt.sourceRevision ∧ w.fence = state.originFence ∧
      state'.originFence = state.originFence := by
  obtain ⟨range', hrange', h⟩ := bind_eq_ok.mp h
  cases hrange.symm.trans (okOr_ok.mp hrange')
  simp only [ensure_bind_ok, Bool.not_eq_true'] at h
  obtain ⟨hcross, h⟩ := h
  split at h
  · next hside =>
    obtain ⟨digest, -, h⟩ := bind_eq_ok.mp h
    obtain ⟨next, hnext, h⟩ := bind_eq_ok.mp h
    cases pure_eq_ok.mp hnext
    cases pure_eq_ok.mp h
    obtain ⟨fence, hfence, -⟩ := Option.any_eq_true _ _ |>.mp hside
    refine ⟨hok, ?_, rfl, rfl, watermark_fence _ _, rfl⟩
    simp only [WatermarkOk, ConfirmedPrefixState.watermark, hfence, Option.map_some]
    exact hok fence hfence
  · next hside =>
    obtain ⟨digest, -, h⟩ := bind_eq_ok.mp h
    obtain ⟨next, hnext, h⟩ := bind_eq_ok.mp h
    cases pure_eq_ok.mp hnext
    cases pure_eq_ok.mp h
    refine ⟨fun fence hfence => ?_, ?_, rfl, rfl, watermark_fence _ _, rfl⟩
    · have hfence : state.originFence = some fence := hfence
      simp only [hfence, Option.any_some, decide_eq_true_eq, Bool.and_eq_false_iff, decide_eq_false_iff_not] at hside hcross
      exact ⟨fun _ => by simp only; omega, fun hnone => (by cases hnone)⟩
    · unfold WatermarkOk ConfirmedPrefixState.watermark
      cases hfence : state.originFence with
      | none => simp
      | some fence =>
        simp only [hfence, Option.any_some, decide_eq_true_eq] at hside
        simp
        omega

/-- A record is recognised, or it extends a chain. -/
theorem classify_cases {projection : Option Store} {state state' : ConfirmedPrefixState} {receipt : SourceReceipt}
    {range : EvidenceByteRange} {digest : Option String} {watermark : Option SourceIngestWatermark}
    (h : classify H projection state receipt range = .ok (digest, watermark, state')) :
    (watermark = none ∧ (∃ found, state' = { state with exact_ := found }) ∧
      ((state.localExact.get range.finish).isSome ∨ state.committedWatermark.isSome)) ∨
    ∃ w, watermark = some w ∧ state.advance H receipt = .ok (w, state') := by
  unfold classify at h
  split at h
  · next found hfound =>
    obtain ⟨_, -, h⟩ := bind_eq_ok.mp h
    cases pure_eq_ok.mp h
    exact .inl ⟨rfl, ⟨state.exact_, rfl⟩, .inl (by rw [hfound]; rfl)⟩
  · split at h
    · next hcommitted =>
      obtain ⟨chained, -, h⟩ := bind_eq_ok.mp h
      obtain ⟨found, -, h⟩ := bind_eq_ok.mp h
      obtain ⟨_, -, h⟩ := bind_eq_ok.mp h
      cases pure_eq_ok.mp h
      refine .inl ⟨rfl, ⟨some chained, rfl⟩, .inr ?_⟩
      unfold isCommitted at hcommitted
      cases hwatermark : state.committedWatermark with
      | none => simp [hwatermark] at hcommitted
      | some w => rfl
    · obtain ⟨⟨w, next⟩, hadvance, h⟩ := bind_eq_ok.mp h
      cases pure_eq_ok.mp h
      exact .inr ⟨w, rfl, hadvance⟩

theorem load_spec (inv : Inv source s) {fence : Option Nat}
    (hfence : ∀ w, s.store.watermark source revision = some w → fence = none ∨ fence = w.fence)
    {receipt : SourceReceipt} (hinstance : receipt.sourceInstanceId = source)
    (hrevision : receipt.sourceRevision = revision) {projection : Option Store} {state : ConfirmedPrefixState}
    (h : Drain.load ⟨s.store, s.projection, s.states.get revision⟩ fence receipt = .ok (projection, state)) :
    StateOk state ∧
    ((∃ w, s.store.watermark source revision = some w ∧ w.fence = state.originFence) ∨
      (s.store.watermark source revision = none ∧ state.originFence = fence ∧ state.localExact = .empty ∧
        state.committedWatermark = none)) ∧
    ∀ other, s.states.get other = none → other ≠ revision → ∀ p, projection = some p →
      p.watermark source other = s.store.watermark source other := by
  unfold Drain.load at h
  cases hstate : s.states.get revision with
  | some loaded =>
    rw [hstate] at h
    cases h
    obtain ⟨hok, hw⟩ := inv.states revision state hstate
    exact ⟨hok, .inl hw, fun other hother _ p hp => inv.fresh p other hp hother⟩
  | none =>
    rw [hstate] at h
    obtain ⟨loaded, hloaded, h⟩ := bind_eq_ok.mp h
    cases pure_eq_ok.mp h
    have hsame : ∀ other, s.states.get other = none →
        (s.projection.getD s.store).watermark source other = s.store.watermark source other := by
      intro other hother
      cases hprojection : s.projection with
      | none => rfl
      | some p => exact inv.fresh p other hprojection hother
    rw [hinstance, hrevision] at hloaded
    have hothers : ∀ other, s.states.get other = none → other ≠ revision → ∀ p,
        some (s.projection.getD s.store) = some p → p.watermark source other = s.store.watermark source other := by
      rintro other hother - p hp
      cases hp
      exact hsame other hother
    cases hrow : s.store.watermark source revision with
    | none =>
      unfold projectedConfirmedPrefix at hloaded
      rw [hsame revision hstate, hrow] at hloaded
      cases hloaded
      refine ⟨fun f hf => ?_, .inr ⟨rfl, rfl, rfl, rfl⟩, hothers⟩
      have hf : fence = some f := hf
      simp [hf]
    | some w =>
      obtain ⟨state', hprojected, hok, hfence', -, -⟩ :=
        projected_ok (inv.rows revision w hrow) ((hsame revision hstate).trans hrow) (hfence w hrow)
      rw [hprojected] at hloaded
      cases hloaded
      exact ⟨hok, .inl ⟨w, rfl, hfence'.symm⟩, hothers⟩

theorem watermark_commit (store : Store) (capture : VerifiedCapture) (w : SourceIngestWatermark)
    (hinstance : w.sourceInstanceId = source) (other : String) :
    (store.commit capture w).watermark source other =
      if other = w.sourceRevision then some w else store.watermark source other := by
  unfold Store.watermark Store.commit
  rw [OrdMap.get_insert, hinstance]
  simp

theorem fenceOf_current (current : SessionImportCurrent) :
    fenceOf (some current) current.metadata.sourceRevision =
      current.metadata.prospectiveOrigin.bind ProspectiveSourceOrigin.recordStart := by
  unfold fenceOf
  rw [Option.filter_some_pos (by simp), Option.bind_some]

/-- A record is only granted when the fence is known. -/
theorem fence_of_importScope {current : SessionImportCurrent} {range : EvidenceByteRange}
    {snapshot : Option WorktreeSnapshot} {worktree : Option WorktreeInstance} {scope : ImportScope}
    (h : current.importScope range snapshot worktree = .ok scope) :
    ∀ origin, current.metadata.prospectiveOrigin = some origin → ∃ fence, origin.recordStart = some fence := by
  intro origin horigin
  rw [SessionImportCurrent.importScope, ensure_bind_ok, horigin] at h
  obtain ⟨-, h⟩ := h
  obtain ⟨fence, hfence, -⟩ := bind_eq_ok.mp h
  exact ⟨fence, okOr_ok.mp hfence⟩

theorem Inv.ingest (inv : Inv source s) {current : SessionImportCurrent} {capture : VerifiedCapture}
    {range : EvidenceByteRange} {snapshot : Option WorktreeSnapshot} {worktree : Option WorktreeInstance}
    {scope : ImportScope} (hcurrent : s.current = some current) (hinstance : capture.receipt.sourceInstanceId = source)
    (hrevision : capture.receipt.sourceRevision = current.metadata.sourceRevision)
    (hrange : capture.receipt.sourceByteRange = some range)
    (hscope : current.importScope range snapshot worktree = .ok scope) (h : s.ingest H capture = .ok s') :
    Inv source s' := by
  have hknown := fence_of_importScope hscope
  obtain ⟨range', hrange', h⟩ := bind_eq_ok.mp h
  cases hrange.symm.trans (okOr_ok.mp hrange')
  rw [ensure_bind_ok] at h
  obtain ⟨-, h⟩ := h
  obtain ⟨⟨projection, state⟩, hload, h⟩ := bind_eq_ok.mp h
  obtain ⟨⟨digest, watermark, state'⟩, hclassify, h⟩ := bind_eq_ok.mp h
  cases pure_eq_ok.mp h
  rw [hrevision] at hload ⊢
  generalize hR : current.metadata.sourceRevision = revision at hload ⊢
  have hfence : fenceOf s.current revision = current.metadata.prospectiveOrigin.bind ProspectiveSourceOrigin.recordStart := by
    rw [hcurrent, ← hR, fenceOf_current]
  have hagrees : ∀ w, s.store.watermark source revision = some w →
      fenceOf s.current revision = none ∨ fenceOf s.current revision = w.fence := by
    intro w hw
    rw [hfence]
    cases horigin : current.metadata.prospectiveOrigin with
    | none => exact .inl rfl
    | some origin =>
      obtain ⟨fence, hstart, hwfence⟩ := inv.frozen current w hcurrent (by rw [hR]; exact hw) origin horigin
      exact .inr (by rw [Option.bind_some, hstart, hwfence])
  obtain ⟨hok, hstore, hothers⟩ := load_spec inv hagrees hinstance (hrevision.trans hR) hload
  have hget : ∀ other, (s.states.insert revision state').get other =
      if other = revision then some state' else s.states.get other := fun other => OrdMap.get_insert _ _ _ _
  rcases classify_cases hclassify with ⟨rfl, ⟨found, rfl⟩, hseen⟩ | ⟨w, rfl, hadvance⟩
  · -- a record that was committed before
    have hrow : ∃ w, s.store.watermark source revision = some w ∧ w.fence = state.originFence := by
      rcases hstore with hrow | ⟨-, -, hempty, hnone⟩
      · exact hrow
      · simp [hempty, hnone] at hseen
    refine ⟨inv.named, inv.rows, inv.frozen, fun other loaded hloaded => ?_, fun p other hp hother => ?_⟩
    · rw [hget] at hloaded
      split at hloaded
      · next heq =>
        cases hloaded
        rw [heq]
        exact ⟨hok, hrow⟩
      · exact inv.states other loaded hloaded
    · rw [hget] at hother
      split at hother
      · cases hother
      · next hne => exact hothers other hother hne p hp
  · obtain ⟨hok', hwok, hwinstance, hwrevision, hwfence, hstate'⟩ := advance_ok hrange hok hadvance
    rw [hinstance] at hwinstance
    rw [hrevision, hR] at hwrevision
    have hwatermark : ∀ other, (s.store.commit capture w).watermark source other =
        if other = revision then some w else s.store.watermark source other := by
      intro other
      rw [watermark_commit s.store capture w hwinstance, hwrevision]
    refine ⟨inv.named, fun other w' hw' => ?_, fun current' w' hcurrent' hw' origin horigin => ?_,
      fun other loaded hloaded => ?_, fun p other hp hother => ?_⟩
    · rw [hwatermark] at hw'
      split at hw'
      · next heq =>
        cases hw'
        exact ⟨hwinstance, hwrevision.trans heq.symm, hwok⟩
      · exact inv.rows other w' hw'
    · rw [hcurrent] at hcurrent'
      cases hcurrent'
      rw [hwatermark, if_pos hR] at hw'
      cases hw'
      obtain ⟨fence, hstart⟩ := hknown origin horigin
      refine ⟨fence, hstart, hwfence.trans ?_⟩
      have hcurrentFence : fenceOf s.current revision = some fence := by
        rw [hfence, horigin, Option.bind_some, hstart]
      rcases hstore with ⟨w₀, hw₀, hsame⟩ | ⟨-, hsame, -⟩
      · rcases hagrees w₀ hw₀ with hnone | hfence'
        · rw [hnone] at hcurrentFence
          cases hcurrentFence
        · rw [← hsame, ← hfence', hcurrentFence]
      · rw [hsame, hcurrentFence]
    · rw [hget] at hloaded
      split at hloaded
      · next heq =>
        cases hloaded
        refine ⟨hok', w, ?_, hwfence.trans hstate'.symm⟩
        rw [hwatermark, if_pos heq]
      · next hne =>
        obtain ⟨hok₀, w₀, hw₀, hsame⟩ := inv.states other loaded hloaded
        refine ⟨hok₀, w₀, ?_, hsame⟩
        rw [hwatermark, if_neg hne]
        exact hw₀
    · rw [hget] at hother
      split at hother
      · cases hother
      · next hne =>
        rw [hwatermark, if_neg hne]
        exact hothers other hother hne p hp

/-! ## One event -/

theorem originSuccessor_fence {previous next : ProspectiveSourceOrigin} (h : originSuccessor previous next = true)
    {fence : Nat} (hfence : previous.recordStart = some fence) : next.recordStart = some fence := by
  simp only [originSuccessor, Bool.and_eq_true] at h
  have hstart := h.1.2
  rw [hfence] at hstart
  cases hnext : next.recordStart with
  | none => simp [hnext] at hstart
  | some start =>
    simp only [hnext, beq_iff_eq] at hstart
    rw [hstart]

/-- What an event does to the origin of a revision that has records. -/
theorem Inv.observed (inv : Inv source s) {event : SessionImportEvent} {old : SessionImportCurrent}
    {metadata : SessionMetadata} (hcurrent : s.current = some old)
    (hevent : event.event = .metadataObserved metadata) (hsource : eventSourceInstance event = source)
    (hadmitted : Admitted s event) (horigin : prospectiveOriginTransitionIsValid old.metadata metadata
      (old.metadata.sourceRevision != metadata.sourceRevision) old.bodyState = true)
    (hw : s.store.watermark source metadata.sourceRevision = some w) {origin : ProspectiveSourceOrigin}
    (hnext : metadata.prospectiveOrigin = some origin) :
    old.metadata.sourceRevision = metadata.sourceRevision ∧
      ∃ fence, fenceOf (some old) metadata.sourceRevision = some fence ∧ origin.recordStart = some fence ∧
        w.fence = some fence := by
  have hfacts : sessionImportRevisionHasFacts s.store source metadata.sourceRevision = true := by
    simp [sessionImportRevisionHasFacts, hw]
  -- the origin is not new for the revision
  have hnew : prospectiveOriginIsNewForRevision s.current metadata = false := by
    cases hnew : prospectiveOriginIsNewForRevision s.current metadata with
    | false => rfl
    | true =>
      have := hadmitted metadata hevent hnew
      rw [hsource, hfacts] at this
      cases this
  simp only [prospectiveOriginIsNewForRevision, hcurrent, hnext, Option.isSome_some, Bool.true_and, Option.all_some,
    Bool.or_eq_false_iff, bne_eq_false_iff_eq, Option.isNone_eq_false_iff] at hnew
  obtain ⟨hsame, hsome⟩ := hnew
  obtain ⟨previous, hprevious⟩ := Option.isSome_iff_exists.mp hsome
  obtain ⟨fence, hstart, hfence⟩ := inv.frozen old w hcurrent (by rw [hsame]; exact hw) previous hprevious
  refine ⟨hsame, fence, ?_, ?_, hfence⟩
  · rw [← hsame, fenceOf_current, hprevious, Option.bind_some, hstart]
  · simp only [prospectiveOriginTransitionIsValid, hsame, bne_self_eq_false, Bool.false_or, hprevious, hnext]
      at horigin
    exact originSuccessor_fence horigin hstart

theorem Inv.event (inv : Inv source s) {event : SessionImportEvent} {seq : Nat} {next : SessionImportCurrent}
    (hsource : eventSourceInstance event = source) (hadmitted : Admitted s event)
    (h : applySessionEvent s.current event seq = .ok next) : Inv source { s with current := some next } := by
  have haccepted := applySessionEvent_accepted h
  refine { inv with named := ?_, frozen := ?_ }
  · rintro current hcurrent
    cases hcurrent
    generalize hprevious : s.current = previous at haccepted
    cases haccepted with
    | first _ _ => exact hsource
    | @observed old _ _ _ _ _ => exact inv.named old hprevious
    | @decided old _ _ _ => exact inv.named old hprevious
    | @advanced old _ _ _ _ => exact inv.named old hprevious
  · rintro current w hcurrent hw origin horigin
    cases hcurrent
    generalize hprevious : s.current = previous at haccepted
    cases haccepted with
    | @first metadata hevent _ =>
      -- the first metadata of a session: its origin is new
      have horigin : metadata.prospectiveOrigin = some origin := horigin
      have hfacts := hadmitted metadata hevent (by simp [prospectiveOriginIsNewForRevision, hprevious, horigin])
      have hw : s.store.watermark source metadata.sourceRevision = some w := hw
      rw [hsource, sessionImportRevisionHasFacts, hw] at hfacts
      simp at hfacts
    | @observed old metadata hevent _ hvalid _ =>
      obtain ⟨-, fence, -, hstart, hfence⟩ :=
        inv.observed hprevious hevent hsource hadmitted hvalid hw horigin
      exact ⟨fence, hstart, hfence⟩
    | decided _ _ => exact inv.frozen _ w hprevious hw origin horigin
    | advanced _ _ _ => exact inv.frozen _ w hprevious hw origin horigin

/-! ## Every run -/

theorem Run.inv (h : Run H source Admitted s) : Inv source s := by
  induction h with
  | empty => exact inv_empty source
  | event _ hsource hadmitted happly ih => exact ih.event hsource hadmitted happly
  | restart _ ih =>
    exact { ih with states := by simp, fresh := by simp }
  | ingest _ hcurrent hinstance hrevision hrange hscope hingest ih =>
    exact ih.ingest hcurrent hinstance hrevision hrange hscope hingest

/-- Under the invariant, the fence of the current metadata is none or the one of the records. -/
theorem Inv.fence (inv : Inv source s) (hw : s.store.watermark source revision = some w) :
    fenceOf s.current revision = none ∨ fenceOf s.current revision = w.fence := by
  cases hcurrent : s.current with
  | none => exact .inl rfl
  | some current =>
    by_cases hR : current.metadata.sourceRevision = revision
    · rw [← hR] at hw ⊢
      rw [fenceOf_current]
      cases horigin : current.metadata.prospectiveOrigin with
      | none => exact .inl rfl
      | some origin =>
        obtain ⟨fence, hstart, hfence⟩ := inv.frozen current w hcurrent hw origin horigin
        exact .inr (by rw [Option.bind_some, hstart, hfence])
    · left
      unfold fenceOf
      rw [Option.filter_some_neg (by simpa using hR)]
      rfl

/-- **The import fence never moves under ingested records.** A drain can always start; once a revision has a
record, an event that the store lets through neither gives its metadata another fence than the one of the records
nor, while the revision stays the current one, changes the fence at all. -/
theorem imported_fence (H : Sha256) (source : String) (s : Source) (h : Run H source Admitted s) :
    (∀ revision, ∃ state,
      projectedConfirmedPrefix s.store source revision (fenceOf s.current revision) = .ok state) ∧
    ∀ revision w, s.store.watermark source revision = some w → ∀ event seq next,
      eventSourceInstance event = source → Admitted s event → applySessionEvent s.current event seq = .ok next →
      (fenceOf (some next) revision = none ∨ fenceOf (some next) revision = w.fence) ∧
      ∀ current, s.current = some current → current.metadata.sourceRevision = revision →
        next.metadata.sourceRevision = revision → fenceOf (some next) revision = fenceOf (some current) revision := by
  have inv := h.inv
  constructor
  · intro revision
    cases hw : s.store.watermark source revision with
    | none =>
      unfold projectedConfirmedPrefix
      rw [hw]
      exact ⟨_, rfl⟩
    | some w =>
      obtain ⟨state, hstate, -⟩ := projected_ok (inv.rows revision w hw) hw (inv.fence hw)
      exact ⟨state, hstate⟩
  · intro revision w hw event seq next hsource hadmitted happly
    have inv' := inv.event hsource hadmitted happly
    refine ⟨inv'.fence hw, fun current hcurrent hR hR' => ?_⟩
    rw [← hR', fenceOf_current]
    have haccepted := applySessionEvent_accepted happly
    rw [hcurrent] at haccepted
    cases haccepted with
    | @observed _ metadata hevent _ hvalid _ =>
      have hR' : metadata.sourceRevision = revision := hR'
      have hsame : current.metadata.sourceRevision = metadata.sourceRevision := hR.trans hR'.symm
      change metadata.prospectiveOrigin.bind _ = fenceOf (some current) metadata.sourceRevision
      cases hnext : metadata.prospectiveOrigin with
      | none =>
        -- the origin of a revision is not dropped while the revision stays
        rw [← hsame, fenceOf_current]
        cases hprevious : current.metadata.prospectiveOrigin with
        | none => rfl
        | some previous =>
          simp [prospectiveOriginTransitionIsValid, hsame, hprevious, hnext] at hvalid
      | some origin =>
        obtain ⟨-, fence, hfence, hstart, -⟩ := inv.observed hcurrent hevent hsource hadmitted hvalid
          (by rw [hR']; exact hw) hnext
        rw [hfence, Option.bind_some, hstart]
    | decided _ _ => exact (fenceOf_current current).symm
    | advanced _ _ _ => exact (fenceOf_current current).symm

/-! ## A fence that appears under a record -/

/-- The SHA-256 value of the encoding of the record below. -/
def recordSha : Sha256 where
  digest _ := [0x7c, 0x64, 0xb3, 0xc0, 0xaf, 0x84, 0xff, 0x37, 0x3a, 0x43, 0xaa, 0xee, 0xf2, 0x2b, 0x42, 0x5d,
    0x96, 0x9b, 0x49, 0x1b, 0xc1, 0xf8, 0x6a, 0xf3, 0x74, 0x1f, 0x40, 0x1a, 0xfd, 0x6f, 0xf9, 0x37]
  digest_length _ := rfl

def sampleSource : String := "codex-session:session-a"

def sampleRevision : String := "1111111111111111111111111111111111111111111111111111111111111111"

/-- The first six bytes of the file. -/
def sampleCapture : VerifiedCapture where
  commandId := sampleId 5
  receipt := ⟨⟨1⟩, sampleSource, sampleRevision, 6, some ⟨0, 6⟩,
    "2222222222222222222222222222222222222222222222222222222222222222"⟩

/-- The session after the first `revision` of: observed, queued, importing. -/
def importing (metadata : SessionMetadata) (revision : Nat) : SessionImportCurrent :=
  ⟨"session-a", none, revision, metadata, none,
    if revision ≤ 1 then .notImported else if revision = 2 then .queued else .importing, revision⟩

def before (metadata : SessionMetadata) : Source := { Source.empty with current := some (importing metadata 3) }

def after (metadata : SessionMetadata) : Source := ((before metadata).ingest recordSha sampleCapture).toOption.getD .empty

/-- An event of the session on top of a run. -/
theorem Run.sampleEvent {admitted : Source → SessionImportEvent → Prop} (h : Run recordSha sampleSource admitted s)
    (revision : Nat) (kind : SessionImportEventKind) {next : SessionImportCurrent}
    (hadmitted : admitted s (sampleEvent revision kind))
    (happly : applySessionEvent s.current (sampleEvent revision kind) revision = .ok next) :
    Run recordSha sampleSource admitted { s with current := some next } := by
  refine h.event ?_ hadmitted happly
  change toString "codex-session:" ++ toString "session-a" = sampleSource
  decide +kernel

theorem run_after {admitted : Source → SessionImportEvent → Prop} {metadata : SessionMetadata}
    (hrevision : sampleRevision = metadata.sourceRevision)
    (hadmitted : ∀ s event, s.store = Source.empty.store → admitted s event)
    (hevents : applySessionEvent none (sampleEvent 1 (.metadataObserved metadata)) 1 = .ok (importing metadata 1) ∧
      applySessionEvent (some (importing metadata 1)) (sampleEvent 2 (.bodyStateAdvanced .queued .requested)) 2 =
        .ok (importing metadata 2) ∧
      applySessionEvent (some (importing metadata 2)) (sampleEvent 3 (.bodyStateAdvanced .importing .started)) 3 =
        .ok (importing metadata 3))
    (hscope : (importing metadata 3).importScope ⟨0, 6⟩ none none = .ok (some (sampleId 1), some (sampleId 2)))
    (hingest : ((before metadata).ingest recordSha sampleCapture).isOk = true) :
    Run recordSha sampleSource admitted (after metadata) := by
  obtain ⟨hobserved, hqueued, hstarted⟩ := hevents
  have h₁ := (Run.empty : Run recordSha sampleSource admitted .empty).sampleEvent 1 _ (hadmitted _ _ rfl) hobserved
  have h₂ := h₁.sampleEvent 2 _ (hadmitted _ _ rfl) hqueued
  have h₃ := h₂.sampleEvent 3 _ (hadmitted _ _ rfl) hstarted
  have hresult : (before metadata).ingest recordSha sampleCapture = .ok (after metadata) := by
    unfold after
    cases hok : (before metadata).ingest recordSha sampleCapture with
    | error e => simp [hok, Except.isOk, Except.toBool] at hingest
    | ok s => rfl
  exact h₃.ingest rfl (show sampleCapture.receipt.sourceInstanceId = sampleSource from rfl) hrevision rfl hscope hresult

/-- The session without an origin, then replaced, then with an origin for the same revision. -/
def plainMetadata : SessionMetadata := { sampleMetadata none with prospectiveOrigin := none }

def replaced : SessionImportCurrent := { importing plainMetadata 4 with bodyState := .sourceReplaced }

def fenced : SessionImportCurrent :=
  { importing (sampleMetadata (some 6)) 5 with bodyState := .sourceReplaced }

/-- Without the store's check a fence appears under a record, and no drain of the revision can start. -/
theorem fence_under_records : ∃ s, Run recordSha sampleSource (fun _ _ => True) s ∧
    projectedConfirmedPrefix s.store sampleSource sampleRevision (fenceOf s.current sampleRevision) =
      .error .storeCorrupt := by
  have h₄ : Run recordSha sampleSource (fun _ _ => True) (after plainMetadata) :=
    run_after (by decide +kernel) (fun _ _ _ => trivial) (by decide +kernel) (by decide +kernel) (by decide +kernel)
  have hreplaced : applySessionEvent (after plainMetadata).current
      (sampleEvent 4 (.bodyStateAdvanced .sourceReplaced .sourceReplaced)) 4 = .ok replaced := by decide +kernel
  have hfenced : applySessionEvent (some replaced) (sampleEvent 5 (.metadataObserved (sampleMetadata (some 6)))) 5 =
      .ok fenced := by decide +kernel
  have h₅ := h₄.sampleEvent 4 _ trivial hreplaced
  refine ⟨_, h₅.sampleEvent 5 _ trivial hfenced, ?_⟩
  have herror : (match projectedConfirmedPrefix (after plainMetadata).store sampleSource sampleRevision
      (fenceOf (some fenced) sampleRevision) with
    | .error e => some e
    | .ok _ => none) = some .storeCorrupt := by decide +kernel
  change projectedConfirmedPrefix (after plainMetadata).store sampleSource sampleRevision
    (fenceOf (some fenced) sampleRevision) = _
  cases hstart : projectedConfirmedPrefix (after plainMetadata).store sampleSource sampleRevision
      (fenceOf (some fenced) sampleRevision) with
  | error e =>
    rw [hstart] at herror
    cases herror
    rfl
  | ok state =>
    rw [hstart] at herror
    cases herror

/-- With a fence from the start the same record is in the earlier prefix. -/
theorem fence_before_records : (after (sampleMetadata (some 6))).store.receipts = [sampleCapture.receipt] ∧
    ∀ revision, ∃ state, projectedConfirmedPrefix (after (sampleMetadata (some 6))).store sampleSource revision
      (fenceOf (after (sampleMetadata (some 6))).current revision) = .ok state := by
  have h₄ : Run recordSha sampleSource Admitted (after (sampleMetadata (some 6))) := by
    refine run_after (by decide +kernel) ?_ (by decide +kernel) (by decide +kernel) (by decide +kernel)
    intro s event hstore metadata _ _
    rw [sessionImportRevisionHasFacts, hstore]
    rfl
  exact ⟨by decide +kernel, (imported_fence recordSha sampleSource _ h₄).1⟩

end EverTrace.L2.Ingest
