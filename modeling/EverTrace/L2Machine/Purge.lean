import EverTrace.L1Encoding.Ids
import EverTrace.L2Machine.DeletionLedger
import Mathlib.Data.Prod.Lex
/-!
# Object deletions and scope purges (`evertrace-domain/src/purge.rs`, `evertrace-store/src/purge.rs`)

The two deletion ledgers as the store runs them. An object deletion goes from
`Pending` to `Purged`; a repository purge closes the projections, deletes in
batches and ends in `Purged`. What a backup may put over a current event differs:
an object event must be the same or its direct successor, a scope event must be
at least as far along.

Results:
* `objectRules_lawful`, `scopeRules_lawful`: both ledgers fit `LedgerRules`.
* `deletions_survive_restore`: every accepted run, restored from its rows or
  imported into any earlier state of itself, is the same ledger.
-/
namespace EverTrace.L2.Purge
open EverTrace.Lib EverTrace.L1 EverTrace.L2.Store EverTrace.L2.Work

/-! ## Events -/

/-- mirrors evertrace-domain/src/purge.rs:17-29 -/
inductive ObjectDeletionTarget where
  | atom (atomId : AtomId)
  | procedure (procedureId : ProcedureId)
  | coreMembership (coreMembershipId : CoreMembershipId)
  deriving DecidableEq

namespace ObjectDeletionTarget

/-- mirrors evertrace-domain/src/purge.rs:32-38 -/
def objectRef : ObjectDeletionTarget → String
  | .atom atomId => atomId.toText
  | .procedure procedureId => procedureId.toText
  | .coreMembership coreMembershipId => coreMembershipId.toText

def uuid : ObjectDeletionTarget → Uuid
  | .atom atomId => atomId.uuid
  | .procedure procedureId => procedureId.uuid
  | .coreMembership coreMembershipId => coreMembershipId.uuid

/-- The derived order: by kind, then by id. -/
instance : LinearOrder ObjectDeletionTarget :=
  LinearOrder.lift' (fun t => (toLex (t.ctorIdx, t.uuid) : Nat ×ₗ Uuid)) fun a b h => by
    have hpair : (a.ctorIdx, a.uuid) = (b.ctorIdx, b.uuid) := toLex.injective h
    obtain ⟨hidx, huuid⟩ := Prod.mk.inj hpair
    rcases a with ⟨⟨u⟩⟩ | ⟨⟨u⟩⟩ | ⟨⟨u⟩⟩ <;> rcases b with ⟨⟨v⟩⟩ | ⟨⟨v⟩⟩ | ⟨⟨v⟩⟩ <;>
      first | (cases huuid; rfl) | cases hidx

end ObjectDeletionTarget

/-- mirrors evertrace-domain/src/purge.rs:49-54 -/
inductive ObjectDeletionPhase where
  | pending
  | purged
  deriving DecidableEq, Repr

/-- mirrors evertrace-domain/src/purge.rs:388-390 -/
def digestText (value : String) : Bool :=
  (utf8 value).length == 64 && (utf8 value).all fun b =>
    (48 ≤ b && b ≤ 57) || (65 ≤ b && b ≤ 70) || (97 ≤ b && b ≤ 102)

/-- mirrors evertrace-domain/src/purge.rs:392-394 -/
def strictlySorted {α : Type} [LinearOrder α] (values : List α) : Bool := decide (values.IsChain (· < ·))

/-- mirrors evertrace-domain/src/purge.rs:238-254 -/
structure ObjectDeletionLedgerEvent where
  schemaVersion : Nat
  target : ObjectDeletionTarget
  phase : ObjectDeletionPhase
  exactRevisionIds : List RevisionId
  semanticKindHash : String
  canonicalPayloadHash : String
  scopeIdentityHash : String
  sourceDerivationGuardHash : String
  defaultRetrievalSuppressionRefHashes : List String
  deletionGeneration : Nat
  recordedAtUs : Int
  purgeJobId : JobId
  purgeJobAuditRef : Option String
  deriving DecidableEq

namespace ObjectDeletionLedgerEvent

/-- mirrors evertrace-domain/src/purge.rs:257-281 -/
def validate (e : ObjectDeletionLedgerEvent) : Bool :=
  e.schemaVersion == 1
    && !e.exactRevisionIds.isEmpty
    && e.exactRevisionIds.length ≤ 256
    && strictlySorted e.exactRevisionIds
    && digestText e.semanticKindHash
    && digestText e.canonicalPayloadHash
    && digestText e.scopeIdentityHash
    && digestText e.sourceDerivationGuardHash
    && e.defaultRetrievalSuppressionRefHashes.length ≤ 512
    && strictlySorted e.defaultRetrievalSuppressionRefHashes
    && e.defaultRetrievalSuppressionRefHashes.all digestText
    && 0 < e.deletionGeneration
    && 0 ≤ e.recordedAtUs
    && match e.phase with
      | .pending => e.purgeJobAuditRef.isNone
      | .purged => e.purgeJobAuditRef == some e.purgeJobId.toText

/-- mirrors evertrace-domain/src/purge.rs:283-299 -/
def validateSuccessor (e next : ObjectDeletionLedgerEvent) : Bool :=
  e.validate
    && next.validate
    && e.phase == .pending
    && next.phase == .purged
    && e.target == next.target
    && e.exactRevisionIds == next.exactRevisionIds
    && e.semanticKindHash == next.semanticKindHash
    && e.canonicalPayloadHash == next.canonicalPayloadHash
    && e.scopeIdentityHash == next.scopeIdentityHash
    && e.sourceDerivationGuardHash == next.sourceDerivationGuardHash
    && e.defaultRetrievalSuppressionRefHashes == next.defaultRetrievalSuppressionRefHashes
    && e.deletionGeneration == next.deletionGeneration
    && e.purgeJobId == next.purgeJobId
    && e.recordedAtUs ≤ next.recordedAtUs

/-- What a successor keeps: everything but phase, time and audit reference. -/
theorem validateSuccessor_spec {e next : ObjectDeletionLedgerEvent} (h : e.validateSuccessor next = true) :
    e.phase = .pending ∧ next.phase = .purged ∧ e.target = next.target ∧
      e.exactRevisionIds = next.exactRevisionIds ∧ e.deletionGeneration = next.deletionGeneration ∧
      e.purgeJobId = next.purgeJobId := by
  simp only [validateSuccessor, Bool.and_eq_true, beq_iff_eq] at h
  obtain ⟨⟨⟨⟨⟨⟨⟨⟨⟨⟨⟨⟨⟨_, _⟩, hpending⟩, hpurged⟩, htarget⟩, hids⟩, _⟩, _⟩, _⟩, _⟩, _⟩, hgen⟩, hjob⟩, _⟩ := h
  exact ⟨hpending, hpurged, htarget, hids, hgen, hjob⟩

end ObjectDeletionLedgerEvent

/-- The one kind of scope that is purged.
mirrors evertrace-domain/src/purge.rs:56-80 -/
structure ScopePurgeTarget where
  repositoryId : RepositoryId
  repositoryRevision : Nat
  deriving DecidableEq

/-- mirrors evertrace-domain/src/purge.rs:82-89 -/
inductive ScopePurgeStage where
  | pending
  | projectionClosed
  | physicalDeleting
  | purged
  deriving DecidableEq, Repr

/-- mirrors evertrace-domain/src/purge.rs:100-107 -/
def ScopePurgeStage.rank : ScopePurgeStage → Nat
  | .pending => 0
  | .projectionClosed => 1
  | .physicalDeleting => 2
  | .purged => 3

/-- mirrors evertrace-domain/src/purge.rs:110-122 -/
structure ScopePurgeProgress where
  schemaVersion : Nat
  target : ScopePurgeTarget
  confirmationFrontier : Nat
  deletionGeneration : Nat
  stage : ScopePurgeStage
  nextOrdinal : Nat
  purgeJobId : JobId
  recordedAtUs : Int
  terminalAuditRef : Option JobId
  deriving DecidableEq

namespace ScopePurgeProgress

/-- mirrors evertrace-domain/src/purge.rs:125-137 -/
def validate (e : ScopePurgeProgress) : Bool :=
  e.schemaVersion == 1
    && 0 < e.target.repositoryRevision
    && 0 < e.deletionGeneration
    && 0 ≤ e.recordedAtUs
    && match e.stage with
      | .pending | .projectionClosed => e.nextOrdinal == 0 && e.terminalAuditRef.isNone
      | .physicalDeleting => e.terminalAuditRef.isNone
      | .purged => e.terminalAuditRef == some e.purgeJobId

/-- The stages one record may lead to, with the ordinals.
mirrors evertrace-domain/src/purge.rs:148-165 -/
def advances (e next : ScopePurgeProgress) : Bool :=
  match e.stage, next.stage with
  | .pending, .projectionClosed => next.nextOrdinal == 0
  | .projectionClosed, .physicalDeleting => 0 < next.nextOrdinal
  | .projectionClosed, .purged => e.nextOrdinal == 0 && next.nextOrdinal == 0
  | .physicalDeleting, .physicalDeleting => e.nextOrdinal < next.nextOrdinal
  | .physicalDeleting, .purged => next.nextOrdinal == e.nextOrdinal
  | _, _ => false

/-- mirrors evertrace-domain/src/purge.rs:139-167 -/
def validateSuccessor (e next : ScopePurgeProgress) : Bool :=
  e.validate
    && next.validate
    && e.target == next.target
    && e.confirmationFrontier == next.confirmationFrontier
    && e.deletionGeneration == next.deletionGeneration
    && e.purgeJobId == next.purgeJobId
    && e.recordedAtUs ≤ next.recordedAtUs
    && e.stage != .purged
    && e.advances next
    && e.stage.rank ≤ next.stage.rank

/-- mirrors evertrace-store/src/purge.rs:774-782; the closure `rank` there is the same table. -/
def importable (current event : ScopePurgeProgress) : Bool :=
  !(current.target != event.target
    || current.confirmationFrontier != event.confirmationFrontier
    || current.deletionGeneration != event.deletionGeneration
    || current.purgeJobId != event.purgeJobId
    || event.recordedAtUs < current.recordedAtUs
    || event.nextOrdinal < current.nextOrdinal
    || event.stage.rank < current.stage.rank
    || (current.stage == .purged && current != event))

theorem importable_iff {c e : ScopePurgeProgress} : c.importable e = true ↔
    c.target = e.target ∧ c.confirmationFrontier = e.confirmationFrontier ∧
      c.deletionGeneration = e.deletionGeneration ∧ c.purgeJobId = e.purgeJobId ∧
      c.recordedAtUs ≤ e.recordedAtUs ∧ c.nextOrdinal ≤ e.nextOrdinal ∧ c.stage.rank ≤ e.stage.rank ∧
      (c.stage = .purged → c = e) := by
  simp only [importable, Bool.not_or, Bool.and_eq_true, Bool.not_eq_true', bne_eq_false_iff_eq,
    decide_eq_false_iff_not, Int.not_lt, Nat.not_lt, Bool.and_eq_false_iff, beq_eq_false_iff_ne, and_assoc]
  simp only [imp_iff_not_or]

/-- A stage that may follow is no earlier, and neither is its ordinal. -/
theorem advances_mono {e next : ScopePurgeProgress} (hvalid : e.validate = true) (h : e.advances next = true) :
    e.nextOrdinal ≤ next.nextOrdinal := by
  simp only [validate, Bool.and_eq_true] at hvalid
  obtain ⟨_, hstage⟩ := hvalid
  unfold advances at h
  split at h <;> simp_all
  omega

theorem importable_of_successor {e next : ScopePurgeProgress} (h : e.validateSuccessor next = true) :
    e.importable next = true := by
  simp only [validateSuccessor, Bool.and_eq_true, beq_iff_eq, bne_iff_ne, decide_eq_true_eq] at h
  obtain ⟨⟨⟨⟨⟨⟨⟨⟨⟨hvalid, _⟩, htarget⟩, hfrontier⟩, hgen⟩, hjob⟩, htime⟩, hlive⟩, hadv⟩, hrank⟩ := h
  exact importable_iff.mpr ⟨htarget, hfrontier, hgen, hjob, htime, advances_mono hvalid hadv, hrank,
    fun hpurged => absurd hpurged hlive⟩

end ScopePurgeProgress

/-! ## The two ledgers -/

/-- `ObjectDeletionState`: an event may be imported over the same event or over one it follows.
mirrors evertrace-store/src/purge.rs:601-657 -/
def objectRules : LedgerRules ObjectDeletionTarget ObjectDeletionTarget ObjectDeletionLedgerEvent where
  key := ObjectDeletionLedgerEvent.target
  target := ObjectDeletionLedgerEvent.target
  generation := ObjectDeletionLedgerEvent.deletionGeneration
  opens := fun event => event.phase == .pending
  validate := ObjectDeletionLedgerEvent.validate
  validateSuccessor := ObjectDeletionLedgerEvent.validateSuccessor
  importable := fun current event => current == event || current.validateSuccessor event

/-- `ScopePurgeState`, keyed by repository.
mirrors evertrace-store/src/purge.rs:755-822 -/
def scopeRules : LedgerRules RepositoryId ScopePurgeTarget ScopePurgeProgress where
  key := fun event => event.target.repositoryId
  target := ScopePurgeProgress.target
  generation := ScopePurgeProgress.deletionGeneration
  opens := fun event => event.stage == .pending
  validate := ScopePurgeProgress.validate
  validateSuccessor := ScopePurgeProgress.validateSuccessor
  importable := ScopePurgeProgress.importable

theorem objectRules_lawful : objectRules.Lawful where
  importable_refl := fun e => by simp [objectRules]
  importable_trans := fun {a b c} hab hbc => by
    simp only [objectRules, Bool.or_eq_true, beq_iff_eq] at hab hbc ⊢
    rcases hab with rfl | hab
    · exact hbc
    · rcases hbc with rfl | hbc
      · exact .inr hab
      · -- nothing follows a purged event
        have hpurged := (ObjectDeletionLedgerEvent.validateSuccessor_spec hab).2.1
        have hpending := (ObjectDeletionLedgerEvent.validateSuccessor_spec hbc).1
        rw [hpurged] at hpending
        cases hpending
  importable_of_successor := fun h => by
    simp only [objectRules, Bool.or_eq_true]
    exact .inr h
  importable_target := fun h => by
    simp only [objectRules, Bool.or_eq_true, beq_iff_eq] at h
    rcases h with rfl | h
    · rfl
    · exact (ObjectDeletionLedgerEvent.validateSuccessor_spec h).2.2.1
  importable_generation := fun h => by
    simp only [objectRules, Bool.or_eq_true, beq_iff_eq] at h
    rcases h with rfl | h
    · rfl
    · exact (ObjectDeletionLedgerEvent.validateSuccessor_spec h).2.2.2.2.1

theorem scopeRules_lawful : scopeRules.Lawful where
  importable_refl := fun e => ScopePurgeProgress.importable_iff.mpr
    ⟨rfl, rfl, rfl, rfl, Int.le_refl _, Nat.le_refl _, Nat.le_refl _, fun _ => rfl⟩
  importable_trans := fun {a b c} hab hbc => by
    obtain ⟨ht, hf, hg, hj, htime, hord, hrank, hend⟩ := ScopePurgeProgress.importable_iff.mp hab
    obtain ⟨ht', hf', hg', hj', htime', hord', hrank', hend'⟩ := ScopePurgeProgress.importable_iff.mp hbc
    refine ScopePurgeProgress.importable_iff.mpr ⟨ht.trans ht', hf.trans hf', hg.trans hg', hj.trans hj',
      Int.le_trans htime htime', Nat.le_trans hord hord', Nat.le_trans hrank hrank', fun hpurged => ?_⟩
    have heq := hend hpurged
    rw [heq] at hpurged ⊢
    exact hend' hpurged
  importable_of_successor := ScopePurgeProgress.importable_of_successor
  importable_target := fun h => (ScopePurgeProgress.importable_iff.mp h).1
  importable_generation := fun h => (ScopePurgeProgress.importable_iff.mp h).2.2.1

abbrev ObjectDeletionState := Ledger ObjectDeletionTarget ObjectDeletionLedgerEvent

abbrev ScopePurgeState := Ledger RepositoryId ScopePurgeProgress

/-! ## Rows -/

/-- mirrors evertrace-store/src/purge.rs:1190-1196 -/
def ObjectDeletionPhase.lifecycle : ObjectDeletionPhase → String
  | .pending => "purge_pending"
  | .purged => "purged"

/-- mirrors evertrace-store/src/purge.rs:1232-1240 -/
def ScopePurgeStage.lifecycle : ScopePurgeStage → String
  | .pending => "purge_pending"
  | .projectionClosed => "projection_closed"
  | .physicalDeleting => "physical_deleting"
  | .purged => "purged"

/-- The row `ledger_row` builds before it checks it.
mirrors evertrace-store/src/purge.rs:1182-1214 -/
def ledgerRowOf (event : ObjectDeletionLedgerEvent) (seq : Nat) : ObjectRow ObjectDeletionLedgerEvent where
  rowId := "projection:object_deletion:" ++ event.target.objectRef
  rowKind := .data
  rowClass := some .projection
  objectFamily := none
  objectKind := some "object_deletion_ledger"
  objectId := none
  currentRevisionId := some ("deletion-generation-" ++ toString event.deletionGeneration)
  lifecycle := some event.phase.lifecycle
  authority := some "human"
  repositoryId := none
  payload := event
  sourceEventSeq := seq
  projectionGeneration := 1

/-- mirrors evertrace-store/src/purge.rs:1291-1316 -/
def requireLedgerRow {ρ : Type} (row : ObjectRow ρ) (event : ObjectDeletionLedgerEvent) : Except StoreError Unit :=
  ensure .storeCorrupt (event.validate
    && row.rowKind == .data
    && row.rowClass == some .projection
    && row.objectFamily.isNone
    && row.objectKind == some "object_deletion_ledger"
    && row.rowId == "projection:object_deletion:" ++ event.target.objectRef
    && row.objectId.isNone
    && row.currentRevisionId == some ("deletion-generation-" ++ toString event.deletionGeneration)
    && row.lifecycle == some event.phase.lifecycle
    && row.authority == some "human"
    && row.sourceEventSeq != 0
    && row.projectionGeneration == 1)

/-- mirrors evertrace-store/src/purge.rs:1181-1217 -/
def ledgerRow (event : ObjectDeletionLedgerEvent) (seq : Nat) :
    Except StoreError (ObjectRow ObjectDeletionLedgerEvent) := do
  requireLedgerRow (ledgerRowOf event seq) event
  .ok (ledgerRowOf event seq)

/-- The row `scope_purge_row` builds before it checks it.
mirrors evertrace-store/src/purge.rs:1220-1258 -/
def scopePurgeRowOf (event : ScopePurgeProgress) (seq : Nat) : ObjectRow ScopePurgeProgress where
  rowId := "projection:scope_purge:repository:" ++ event.target.repositoryId.toText
  rowKind := .data
  rowClass := some .projection
  objectFamily := none
  objectKind := some "scope_purge_progress"
  objectId := none
  currentRevisionId := some ("scope-purge-generation-" ++ toString event.deletionGeneration)
  lifecycle := some event.stage.lifecycle
  authority := some "human"
  repositoryId := some event.target.repositoryId.toText
  payload := event
  sourceEventSeq := seq
  projectionGeneration := 1

/-- mirrors evertrace-store/src/purge.rs:1263-1289 -/
def requireScopePurgeRow {ρ : Type} (row : ObjectRow ρ) (event : ScopePurgeProgress) : Except StoreError Unit :=
  ensure .storeCorrupt (event.validate
    && row.rowKind == .data
    && row.rowClass == some .projection
    && row.objectFamily.isNone
    && row.objectKind == some "scope_purge_progress"
    && row.rowId == "projection:scope_purge:repository:" ++ event.target.repositoryId.toText
    && row.objectId.isNone
    && row.currentRevisionId == some ("scope-purge-generation-" ++ toString event.deletionGeneration)
    && row.lifecycle == some event.stage.lifecycle
    && row.authority == some "human"
    && row.repositoryId == some event.target.repositoryId.toText
    && row.sourceEventSeq != 0
    && row.projectionGeneration == 1)

/-- mirrors evertrace-store/src/purge.rs:1219-1261 -/
def scopePurgeRow (event : ScopePurgeProgress) (seq : Nat) : Except StoreError (ObjectRow ScopePurgeProgress) := do
  requireScopePurgeRow (scopePurgeRowOf event seq) event
  .ok (scopePurgeRowOf event seq)

theorem ledgerRow_eq {event : ObjectDeletionLedgerEvent} {seq : Nat} (hvalid : event.validate = true)
    (hseq : 0 < seq) : requireLedgerRow (ledgerRowOf event seq) event = .ok () := by
  have hne : (seq != 0) = true := bne_iff_ne.mpr (by omega)
  unfold requireLedgerRow ledgerRowOf
  rw [ensure_ok]
  simp only [hvalid, hne, beq_self_eq_true, Option.isNone_none, Bool.and_true]

theorem scopePurgeRow_eq {event : ScopePurgeProgress} {seq : Nat} (hvalid : event.validate = true)
    (hseq : 0 < seq) : requireScopePurgeRow (scopePurgeRowOf event seq) event = .ok () := by
  have hne : (seq != 0) = true := bne_iff_ne.mpr (by omega)
  unfold requireScopePurgeRow scopePurgeRowOf
  rw [ensure_ok]
  simp only [hvalid, hne, beq_self_eq_true, Option.isNone_none, Bool.and_true]

/-! ## The operations under their own names -/

namespace ObjectDeletionState

/-- mirrors evertrace-store/src/purge.rs:634-657 -/
def apply (st : ObjectDeletionState) (event : ObjectDeletionLedgerEvent) (seq : Nat) (error : StoreError) :
    Except StoreError ObjectDeletionState :=
  Ledger.apply objectRules st event seq error

/-- mirrors evertrace-store/src/purge.rs:602-621 -/
def importRestore (st : ObjectDeletionState) (event : ObjectDeletionLedgerEvent) (seq : Nat) :
    Except StoreError ObjectDeletionState :=
  Ledger.importRestore objectRules st event seq

/-- mirrors evertrace-store/src/purge.rs:659-672 -/
def restore (st : ObjectDeletionState) (row : ObjectRow ObjectDeletionLedgerEvent)
    (event : ObjectDeletionLedgerEvent) : Except StoreError ObjectDeletionState := do
  requireLedgerRow row event
  if (st.events.get event.target).isSome then .error .storeCorrupt
  else .ok { events := st.events.insert event.target (event, row.sourceEventSeq)
             generation := max st.generation event.deletionGeneration }

/-- mirrors evertrace-store/src/purge.rs:674-679 -/
def rows (st : ObjectDeletionState) : Except StoreError (List (ObjectRow ObjectDeletionLedgerEvent)) :=
  st.events.values.mapM fun v => ledgerRow v.1 v.2

end ObjectDeletionState

namespace ScopePurgeState

/-- mirrors evertrace-store/src/purge.rs:801-822 -/
def apply (st : ScopePurgeState) (event : ScopePurgeProgress) (seq : Nat) (error : StoreError) :
    Except StoreError ScopePurgeState :=
  Ledger.apply scopeRules st event seq error

/-- mirrors evertrace-store/src/purge.rs:756-791 -/
def importRestore (st : ScopePurgeState) (event : ScopePurgeProgress) (seq : Nat) :
    Except StoreError ScopePurgeState :=
  Ledger.importRestore scopeRules st event seq

/-- Unlike the object ledger's, this recomputes the generation from all current events.
mirrors evertrace-store/src/purge.rs:824-845 -/
def restore (st : ScopePurgeState) (row : ObjectRow ScopePurgeProgress) (event : ScopePurgeProgress) :
    Except StoreError ScopePurgeState := do
  requireScopePurgeRow row event
  let events := st.events.insert event.target.repositoryId (event, row.sourceEventSeq)
  if (st.events.get event.target.repositoryId).isSome then .error .storeCorrupt
  else .ok { events := events
             generation := (events.values.map fun v => v.1.deletionGeneration).max?.getD 0 }

/-- mirrors evertrace-store/src/purge.rs:847-852 -/
def rows (st : ScopePurgeState) : Except StoreError (List (ObjectRow ScopePurgeProgress)) :=
  st.events.values.mapM fun v => scopePurgeRow v.1 v.2

end ScopePurgeState

/-! ## Backups of the two ledgers -/

theorem object_restores : Ledger.Restores objectRules ledgerRowOf ObjectDeletionState.restore := by
  intro st event seq hvalid hseq hnone _
  have hnone : st.events.get event.target = none := hnone
  unfold ObjectDeletionState.restore
  rw [ledgerRow_eq hvalid hseq, hnone]
  rfl

theorem scope_restores : Ledger.Restores scopeRules scopePurgeRowOf ScopePurgeState.restore := by
  intro st event seq hvalid hseq hnone largest
  have hget : st.events.get event.target.repositoryId = none := hnone
  have hlargest : Ledger.Largest scopeRules ⟨st.events.insert event.target.repositoryId (event, seq),
      max st.generation event.deletionGeneration⟩ := largest.insert hnone
  -- recomputed over all events, the generation is the larger of the two
  have hmax : ((st.events.insert event.target.repositoryId (event, seq)).values.map fun v =>
      v.1.deletionGeneration).max? = some (max st.generation event.deletionGeneration) := by
    have hmem : ∀ g, g ∈ (st.events.insert event.target.repositoryId (event, seq)).values.map (fun v =>
        v.1.deletionGeneration) ↔ ∃ k e, (Ledger.mk (st.events.insert event.target.repositoryId (event, seq))
          (max st.generation event.deletionGeneration)).current k = some e ∧ e.deletionGeneration = g := by
      intro g
      rw [List.mem_map]
      refine ⟨fun ⟨v, hv, hg⟩ => ?_, fun ⟨k, e, he, hg⟩ => ?_⟩
      · obtain ⟨k, hk⟩ := OrdMap.mem_values.mp hv
        exact ⟨k, v.1, by unfold Ledger.current; rw [hk]; rfl, hg⟩
      · obtain ⟨v, hv, hve⟩ := Option.map_eq_some_iff.mp he
        exact ⟨v, OrdMap.mem_values.mpr ⟨k, hv⟩, by rw [hve]; exact hg⟩
    refine List.max?_eq_some_iff.mpr ⟨(hmem _).mpr ?_, fun g hg => ?_⟩
    · rcases hlargest.reached with hzero | hreached
      · have hzero : max st.generation event.deletionGeneration = 0 := hzero
        refine ⟨event.target.repositoryId, event, by rw [Ledger.current_insert, if_pos rfl], ?_⟩
        omega
      · exact hreached
    · obtain ⟨k, e, he, rfl⟩ := (hmem g).mp hg
      exact hlargest.bound k e he
  unfold ScopePurgeState.restore
  rw [scopePurgeRow_eq hvalid hseq, hget]
  refine congrArg Except.ok (congrArg (Ledger.mk _) ?_)
  exact congrArg (Option.getD · 0) hmax

theorem object_rows {st : ObjectDeletionState} (sound : Ledger.Sound objectRules st) :
    ObjectDeletionState.rows st = .ok (Ledger.rowsOf ledgerRowOf st) := by
  refine mapM_ok_of_forall fun v hv => ?_
  obtain ⟨k, hk⟩ := OrdMap.mem_values.mp hv
  have h := sound k v hk
  unfold ledgerRow
  rw [ledgerRow_eq h.1 h.2]
  rfl

theorem scope_rows {st : ScopePurgeState} (sound : Ledger.Sound scopeRules st) :
    ScopePurgeState.rows st = .ok (Ledger.rowsOf scopePurgeRowOf st) := by
  refine mapM_ok_of_forall fun v hv => ?_
  obtain ⟨k, hk⟩ := OrdMap.mem_values.mp hv
  have h := sound k v hk
  unfold scopePurgeRow
  rw [scopePurgeRow_eq h.1 h.2]
  rfl

/-- What no accepted event changes about an object deletion. -/
structure ObjectDeletionLedgerEvent.Kept (c c' : ObjectDeletionLedgerEvent) : Prop where
  generation : c'.deletionGeneration = c.deletionGeneration
  job : c'.purgeJobId = c.purgeJobId
  revisions : c'.exactRevisionIds = c.exactRevisionIds
  purged : c.phase = .purged → c' = c

/-- What no accepted event changes about a scope purge. -/
structure ScopePurgeProgress.Kept (c c' : ScopePurgeProgress) : Prop where
  generation : c'.deletionGeneration = c.deletionGeneration
  job : c'.purgeJobId = c.purgeJobId
  revision : c'.target.repositoryRevision = c.target.repositoryRevision
  purged : c.stage = .purged → c' = c

theorem object_kept {c c' : ObjectDeletionLedgerEvent} (h : objectRules.importable c c' = true) : c.Kept c' := by
  simp only [objectRules, Bool.or_eq_true, beq_iff_eq] at h
  rcases h with rfl | h
  · exact ⟨rfl, rfl, rfl, fun _ => rfl⟩
  · obtain ⟨hpending, _, _, hids, hgen, hjob⟩ := ObjectDeletionLedgerEvent.validateSuccessor_spec h
    refine ⟨hgen.symm, hjob.symm, hids.symm, fun hpurged => ?_⟩
    rw [hpurged] at hpending
    cases hpending

theorem scope_kept {c c' : ScopePurgeProgress} (h : scopeRules.importable c c' = true) : c.Kept c' := by
  obtain ⟨htarget, _, hgen, hjob, _, _, _, hend⟩ := ScopePurgeProgress.importable_iff.mp h
  exact ⟨hgen.symm, hjob.symm, by rw [htarget], fun hpurged => (hend hpurged).symm⟩

/-- **Deletions survive backup and restore.** Every run of events that either
ledger accepts from empty leaves generations `1..n` in use; its rows rebuild it and
its current events, imported into any earlier state of the run, complete that state to
it. An event taken in, from the journal or from a backup, never moves a target back
from purged nor changes its generation, job or revisions. -/
theorem deletions_survive_restore :
    (∀ (es : List (ObjectDeletionLedgerEvent × Nat)) (st : ObjectDeletionState),
      es.foldlM (fun st e => ObjectDeletionState.apply st e.1 e.2 .storeCorrupt) Ledger.empty = .ok st →
      Ledger.Survives objectRules ObjectDeletionState.rows ObjectDeletionState.restore es st) ∧
    (∀ (es : List (ScopePurgeProgress × Nat)) (st : ScopePurgeState),
      es.foldlM (fun st e => ScopePurgeState.apply st e.1 e.2 .storeCorrupt) Ledger.empty = .ok st →
      Ledger.Survives scopeRules ScopePurgeState.rows ScopePurgeState.restore es st) ∧
    (∀ (st next : ObjectDeletionState) event seq error,
      ObjectDeletionState.apply st event seq error = .ok next ∨
        ObjectDeletionState.importRestore st event seq = .ok next →
      ∀ target c, st.current target = some c → ∃ c', next.current target = some c' ∧ c.Kept c') ∧
    (∀ (st next : ScopePurgeState) event seq error,
      ScopePurgeState.apply st event seq error = .ok next ∨
        ScopePurgeState.importRestore st event seq = .ok next →
      ∀ repositoryId c, st.current repositoryId = some c → ∃ c', next.current repositoryId = some c' ∧ c.Kept c') := by
  refine ⟨fun es st h => ?_, fun es st h => ?_, fun st next event seq error h target c hc => ?_,
    fun st next event seq error h repositoryId c hc => ?_⟩
  · exact Ledger.survives objectRules_lawful (fun _ _ => ⟨rfl, rfl⟩) (fun _ => object_rows) object_restores h
  · exact Ledger.survives scopeRules_lawful (fun _ _ => ⟨rfl, rfl⟩) (fun _ => scope_rows) scope_restores h
  · obtain ⟨c', hc', himport⟩ := Ledger.taken_moved objectRules_lawful h hc
    exact ⟨c', hc', object_kept himport⟩
  · obtain ⟨c', hc', himport⟩ := Ledger.taken_moved scopeRules_lawful h hc
    exact ⟨c', hc', scope_kept himport⟩

/-- An atom deleted: pending, then purged by its job. -/
def sampleDeletion (phase : ObjectDeletionPhase) (recordedAtUs : Int) (audit : Option String) :
    ObjectDeletionLedgerEvent where
  schemaVersion := 1
  target := .atom ⟨7⟩
  phase := phase
  exactRevisionIds := [⟨1⟩, ⟨2⟩]
  semanticKindHash := "6b86b273ff34fce19d6b804eff5a3f5747ada4eaa22f1d49c01e52ddb7875b4b"
  canonicalPayloadHash := "d4735e3a265e16eee03f59718b9b5d03019c07d8b6c51f90da3a666eec13ab35"
  scopeIdentityHash := "4e07408562bedb8b60ce05c1decfe3ad16b72230967de01f640b7e4729b49fce"
  sourceDerivationGuardHash := "4b227777d4dd1fc61c6f884f48641d02b4d121d3fd328cb08b5531fcacdabf8a"
  defaultRetrievalSuppressionRefHashes := []
  deletionGeneration := 1
  recordedAtUs := recordedAtUs
  purgeJobId := ⟨9⟩
  purgeJobAuditRef := audit

/-- A repository purge of two deletion batches. -/
def samplePurge (stage : ScopePurgeStage) (nextOrdinal : Nat) : ScopePurgeProgress where
  schemaVersion := 1
  target := ⟨⟨5⟩, 1⟩
  confirmationFrontier := 40
  deletionGeneration := 1
  stage := stage
  nextOrdinal := nextOrdinal
  purgeJobId := ⟨9⟩
  recordedAtUs := 100
  terminalAuditRef := none

def sampleDeletions : List (ObjectDeletionLedgerEvent × Nat) :=
  [(sampleDeletion .pending 10 none, 3),
    (sampleDeletion .purged 20 (some "00000000-0000-0000-0000-000000000009"), 4)]

def samplePurges : List (ScopePurgeProgress × Nat) :=
  [(samplePurge .pending 0, 5), (samplePurge .projectionClosed 0, 6), (samplePurge .physicalDeleting 256, 7),
    (samplePurge .physicalDeleting 300, 8)]

theorem sample_deletions_survive :
    (∃ st, Ledger.Promised objectRules sampleDeletions ∧
      Ledger.Survives objectRules ObjectDeletionState.rows ObjectDeletionState.restore sampleDeletions st) ∧
    ∃ st, Ledger.Promised scopeRules samplePurges ∧
      Ledger.Survives scopeRules ScopePurgeState.rows ScopePurgeState.restore samplePurges st := by
  have hobjects : (sampleDeletions.foldlM (fun st e => ObjectDeletionState.apply st e.1 e.2 .storeCorrupt)
      Ledger.empty).isOk = true := by decide +kernel
  have hscopes : (samplePurges.foldlM (fun st e => ScopePurgeState.apply st e.1 e.2 .storeCorrupt)
      Ledger.empty).isOk = true := by decide +kernel
  have hdeletions : ∀ e ∈ sampleDeletions, objectRules.validate e.1 = true ∧ 0 < e.2 := by decide +kernel
  have hpurges : ∀ e ∈ samplePurges, scopeRules.validate e.1 = true ∧ 0 < e.2 := by decide +kernel
  obtain ⟨objects, hobjects⟩ := exists_of_isOk hobjects
  obtain ⟨scopes, hscopes⟩ := exists_of_isOk hscopes
  exact ⟨⟨objects, hdeletions, deletions_survive_restore.1 _ _ hobjects⟩,
    ⟨scopes, hpurges, deletions_survive_restore.2.1 _ _ hscopes⟩⟩

end EverTrace.L2.Purge
