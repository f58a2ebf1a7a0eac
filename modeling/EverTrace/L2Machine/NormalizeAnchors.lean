import EverTrace.Lib.Slots
import EverTrace.L2Machine.NormalizeAgain
/-!
# Where source-local calls are placed

The calls that `source_local_pairs` pairs, the occurrence each is placed at, and
what the resulting map holds: a slot has the pairing of the last call that is
placed there.

Results: `Run.sourceLocalPairs_iff`, `Run.get_slot`.
-/
namespace EverTrace.L2.Normalize
open EverTrace.Lib EverTrace.L1 EverTrace.L1.Canonical EverTrace.L2.Work EverTrace.L2.Evidence

variable {H : Sha256} {n : PhysicalNormalizer} {fresh : FreshIds} {observations : List SourceObservation}
  {previous : Option NormalizationSnapshot} {out : NormalizationSnapshot}

/-! ## The calls that are paired -/

/-- A call with a pairing, and its first result. -/
structure PairedCall where
  key : LocalCallKey
  members : List LocalMember
  first : SourceObservation

def PairedCall.pairing (c : PairedCall) : SourceLocalPairing := pairingOf c.key c.members

/-- The pairing of a group, unless the group has no result or is a single one. -/
def pairedCall (group : LocalCallKey × List LocalMember) : Option PairedCall :=
  match group.2.find? fun member => member.observation.observationRole == .result with
  | none => none
  | some member =>
    if (LocalMember.ids .intent group.2).isEmpty && (LocalMember.ids .result group.2).length == 1 then none
    else some ⟨group.1, group.2, member.observation⟩

/-- The paired calls, in the order in which they are placed. -/
def pairedCalls (groups : OrdMap LocalCallKey (List LocalMember)) : List PairedCall := groups.entries.filterMap pairedCall

/-- The occurrence of the first result. -/
def ownSlot (H : Sha256) (observations : List SourceObservation) (c : PairedCall) : HostOccurrenceId :=
  occurrenceIdOf H (conflictingPartialRefs observations) c.first

/-- The occurrence that the call is placed at. -/
def slotOf (H : Sha256) (observations : List SourceObservation) (previous : Option NormalizationSnapshot)
    (c : PairedCall) : HostOccurrenceId :=
  (previousAnchor previous c.key).getD (ownSlot H observations c)

theorem pairedCall_eq_some {group : LocalCallKey × List LocalMember} {c : PairedCall} (h : pairedCall group = some c) :
    c.key = group.1 ∧ c.members = group.2 ∧ ∃ member ∈ group.2, member.observation = c.first ∧
      (LocalMember.ids .result group.2).head? = some c.first.sourceObservationId := by
  unfold pairedCall at h
  split at h
  · cases h
  · next member hmember =>
    split at h
    · cases h
    · cases h
      refine ⟨rfl, rfl, member, List.mem_of_find?_eq_some hmember, rfl, ?_⟩
      rw [LocalMember.ids, List.head?_map, List.head?_filter, hmember]
      rfl

theorem pairedCalls_sorted (groups : OrdMap LocalCallKey (List LocalMember)) :
    (pairedCalls groups).Pairwise fun a b => a.key < b.key := by
  refine List.Pairwise.filterMap _ (fun a b hab c hc d hd => ?_) groups.sorted
  rw [(pairedCall_eq_some hc).1, (pairedCall_eq_some hd).1]
  exact hab

/-! ## Anchors of an earlier run -/

/-- The call a pairing is about. -/
def pairedKey (pairing : SourceLocalPairing) : LocalCallKey := ⟨pairing.namespace_, pairing.requestId⟩

@[simp] theorem pairedKey_pairing (c : PairedCall) : pairedKey c.pairing = c.key := rfl

theorem previousAnchor_eq_some {s : NormalizationSnapshot} {key : LocalCallKey} {id : HostOccurrenceId}
    (h : previousAnchor (some s) key = some id) : ∃ op ∈ s.operations, op.hostOccurrenceId = id ∧
      ∃ pairing, op.sourceLocalPairing = some pairing ∧ pairedKey pairing = key := by
  unfold previousAnchor at h
  obtain ⟨op, hfind, rfl⟩ := Option.map_eq_some_iff.mp h
  have hmatch := List.find?_some hfind
  rw [Option.any_eq_true] at hmatch
  obtain ⟨pairing, hpairing, hkey⟩ := hmatch
  rw [Bool.and_eq_true, beq_iff_eq, beq_iff_eq] at hkey
  refine ⟨op, by simpa using List.mem_of_find?_eq_some hfind, rfl, pairing, hpairing, ?_⟩
  rw [pairedKey, hkey.1, hkey.2]

theorem exists_previousAnchor {s : NormalizationSnapshot} {op : Operation} (hop : op ∈ s.operations)
    {pairing : SourceLocalPairing} (hpairing : op.sourceLocalPairing = some pairing) :
    ∃ id, previousAnchor (some s) (pairedKey pairing) = some id := by
  have hmatch : (op.sourceLocalPairing.any fun p =>
      p.namespace_ == (pairedKey pairing).namespace_ && p.requestId == (pairedKey pairing).requestId) = true := by
    rw [hpairing, Option.any_some, Bool.and_eq_true, beq_iff_eq, beq_iff_eq]
    exact ⟨rfl, rfl⟩
  unfold previousAnchor
  cases hfind : ((some s).toList.flatMap (·.operations)).find? fun op => op.sourceLocalPairing.any fun p =>
      p.namespace_ == (pairedKey pairing).namespace_ && p.requestId == (pairedKey pairing).requestId with
  | none => exact absurd hmatch (List.find?_eq_none.mp hfind op (by simpa using hop))
  | some op' => exact ⟨op'.hostOccurrenceId, rfl⟩

/-! ## Members of a group -/

/-- The call an observation belongs to, as the evidence read so far says. -/
def localKey (s : LocalEvidence) (id : SourceObservationId) : Option LocalCallKey := do
  let call ← s.calls.get id
  let proofs ← s.witnesses.get id
  let first ← proofs.head?
  return ⟨first.2.namespace_, call.requestId⟩

/-- The calls and witnesses of all observations. -/
def localEvidence (observations : List SourceObservation) : Except NormalizeError LocalEvidence :=
  observations.foldlM readWitness (observations.foldl readCall ⟨.empty, .empty⟩)

/-- An observation joins the group of its call, or none. -/
theorem joinGroup_ok {s : LocalEvidence} {groups joined : OrdMap LocalCallKey (List LocalMember)} {o : SourceObservation}
    (h : joinGroup s groups o = .ok joined) : joined = groups ∨
      ∃ key call proofs, localKey s o.sourceObservationId = some key ∧ o.correlation.exactKey = none ∧
        joined = groups.push key ⟨o, call, proofs⟩ := by
  unfold joinGroup at h
  cases hcall : s.calls.get o.sourceObservationId with
  | none =>
    rw [hcall] at h
    cases h
    exact .inl rfl
  | some call =>
    cases hproofs : s.witnesses.get o.sourceObservationId with
    | none =>
      rw [hcall, hproofs] at h
      cases h
      exact .inl rfl
    | some proofs =>
      rw [hcall, hproofs] at h
      dsimp only at h
      cases hfirst : proofs.head? with
      | none =>
        rw [hfirst] at h
        cases h
        exact .inl rfl
      | some first =>
        rw [hfirst] at h
        obtain ⟨hcheck, h⟩ := ensure_bind_ok.mp h
        cases h
        simp only [Bool.not_eq_true', Bool.or_eq_false_iff] at hcheck
        refine .inr ⟨_, call, proofs, ?_, Option.isNone_iff_eq_none.mp (by simpa using hcheck.1.2), rfl⟩
        unfold localKey
        rw [hcall, Option.bind_eq_bind, Option.bind_some, hproofs, Option.bind_eq_bind, Option.bind_some, hfirst]
        rfl

theorem foldlM_joinGroup {s : LocalEvidence} : ∀ {l : List SourceObservation}
    {groups groups' : OrdMap LocalCallKey (List LocalMember)}, l.foldlM (joinGroup s) groups = .ok groups' →
    ∀ key, ∀ m ∈ (groups'.get key).getD [], m ∈ (groups.get key).getD [] ∨
      (m.observation ∈ l ∧ m.observation.correlation.exactKey = none ∧
        localKey s m.observation.sourceObservationId = some key) := by
  intro l
  induction l with
  | nil =>
    intro groups groups' h key m hm
    cases h
    exact .inl hm
  | cons o rest ih =>
    intro groups groups' h key m hm
    rw [List.foldlM_cons] at h
    obtain ⟨joined, hjoined, h⟩ := bind_eq_ok.mp h
    rcases ih h key m hm with hm | ⟨hm, hexact, hkey⟩
    · rcases joinGroup_ok hjoined with rfl | ⟨k, call, proofs, hk, hexact, rfl⟩
      · exact .inl hm
      · rw [OrdMap.getD_push] at hm
        rcases List.mem_append.mp hm with hm | hm
        · exact .inl hm
        · split at hm
          · next hsame =>
            rw [List.mem_singleton.mp hm, hsame]
            exact .inr ⟨List.mem_cons_self, hexact, hk⟩
          · cases hm
    · exact .inr ⟨List.mem_cons_of_mem _ hm, hexact, hkey⟩

/-- A group is made of observations without an exact key, and they belong to its call. -/
theorem localGroups_members {groups : OrdMap LocalCallKey (List LocalMember)}
    (h : localGroups observations = .ok groups) : ∃ s, localEvidence observations = .ok s ∧
      ∀ group ∈ groups.entries, ∀ m ∈ group.2, m.observation ∈ observations ∧
        m.observation.correlation.exactKey = none ∧ localKey s m.observation.sourceObservationId = some group.1 := by
  unfold localGroups at h
  obtain ⟨s, hs, h⟩ := bind_eq_ok.mp h
  refine ⟨s, hs, fun group hgroup m hm => ?_⟩
  have hget : groups.get group.1 = some group.2 := OrdMap.mem_entries.mp hgroup
  rcases foldlM_joinGroup h group.1 m (by rw [hget]; exact hm) with hm | hm
  · rw [OrdMap.get_empty] at hm
    cases hm
  · exact hm

/-- The first result of a paired call is an observation without an exact key, and it belongs to the call. -/
theorem first_nonexact {groups : OrdMap LocalCallKey (List LocalMember)} (h : localGroups observations = .ok groups) :
    ∃ s, localEvidence observations = .ok s ∧ ∀ c ∈ pairedCalls groups, c.first ∈ observations ∧
      c.first.correlation.exactKey = none ∧ localKey s c.first.sourceObservationId = some c.key := by
  obtain ⟨s, hs, hmembers⟩ := localGroups_members h
  refine ⟨s, hs, fun c hc => ?_⟩
  obtain ⟨group, hgroup, hpaired⟩ := List.mem_filterMap.mp hc
  obtain ⟨hkey, -, member, hmember, hfirst, -⟩ := pairedCall_eq_some hpaired
  rw [← hfirst, hkey]
  exact hmembers group hgroup member hmember

/-! ## Later observations -/

def AgreeOn (ids : SourceObservationId → Prop) (s s' : LocalEvidence) : Prop :=
  ∀ id, ids id → s'.calls.get id = s.calls.get id ∧ s'.witnesses.get id = s.witnesses.get id

theorem foldl_readCall_agree {ids : SourceObservationId → Prop} : ∀ {l : List SourceObservation} {s : LocalEvidence},
    (∀ o ∈ l, ¬ ids o.sourceObservationId) → AgreeOn ids s (l.foldl readCall s) := by
  intro l
  induction l with
  | nil => intro s _ id _; exact ⟨rfl, rfl⟩
  | cons o rest ih =>
    intro s h id hid
    obtain ⟨ho, hrest⟩ := List.forall_mem_cons.mp h
    have hne : id ≠ o.sourceObservationId := fun heq => ho (heq ▸ hid)
    obtain ⟨hcalls, hwitnesses⟩ := @ih (readCall s o) hrest id hid
    rw [List.foldl_cons, hcalls, hwitnesses]
    unfold readCall
    cases o.sourceLocalEvidence with
    | none => exact ⟨rfl, rfl⟩
    | some evidence =>
      cases evidence with
      | namespaceWitness => exact ⟨rfl, rfl⟩
      | nativeCall call =>
        dsimp only
        refine ⟨OrdMap.get_insert_of_ne _ _ hne, ?_⟩
        cases call.namespaceWitness with
        | none => rfl
        | some witness => exact OrdMap.get_insert_of_ne _ _ hne

theorem supportObservation_ok {witnessId : SourceObservationId} {witness : SourceLocalNamespaceWitness}
    {call : SourceLocalNativeCall} {s t : LocalEvidence} {id : SourceObservationId}
    (h : supportObservation witnessId witness call s id = .ok t) :
    (t.calls.get id = some ((s.calls.get id).getD call) ∧
      t.witnesses.get id = some ((s.witnesses.get id).getD [] ++ [(witnessId, witness)])) ∧
    ∀ x, x ≠ id → t.calls.get x = s.calls.get x ∧ t.witnesses.get x = s.witnesses.get x := by
  unfold supportObservation at h
  cases hcall : s.calls.get id with
  | some existing =>
    rw [hcall] at h
    obtain ⟨-, h⟩ := ensure_bind_ok.mp h
    cases h
    exact ⟨⟨hcall, OrdMap.get_insert_self _ _ _⟩, fun x hx => ⟨rfl, OrdMap.get_insert_of_ne _ _ hx⟩⟩
  | none =>
    rw [hcall] at h
    cases h
    exact ⟨⟨OrdMap.get_insert_self _ _ _, OrdMap.get_insert_self _ _ _⟩,
      fun x hx => ⟨OrdMap.get_insert_of_ne _ _ hx, OrdMap.get_insert_of_ne _ _ hx⟩⟩

theorem supportObservation_agree {ids : SourceObservationId → Prop} {witnessId : SourceObservationId}
    {witness : SourceLocalNamespaceWitness} {call : SourceLocalNativeCall} {s s' t t' : LocalEvidence}
    {id : SourceObservationId} (h : supportObservation witnessId witness call s id = .ok t)
    (h' : supportObservation witnessId witness call s' id = .ok t') (hagree : AgreeOn ids s s') : AgreeOn ids t t' := by
  intro x hx
  obtain ⟨⟨hcall, hwitness⟩, hother⟩ := supportObservation_ok h
  obtain ⟨⟨hcall', hwitness'⟩, hother'⟩ := supportObservation_ok h'
  obtain ⟨heq, heq'⟩ := hagree x hx
  by_cases hid : x = id
  · subst hid
    rw [hcall, hcall', hwitness, hwitness', heq, heq']
    exact ⟨rfl, rfl⟩
  · rw [(hother x hid).1, (hother x hid).2, (hother' x hid).1, (hother' x hid).2]
    exact ⟨heq, heq'⟩

theorem readWitness_agree {ids : SourceObservationId → Prop} {s s' t t' : LocalEvidence} {o : SourceObservation}
    (h : readWitness s o = .ok t) (h' : readWitness s' o = .ok t') (hagree : AgreeOn ids s s') : AgreeOn ids t t' := by
  unfold readWitness at h h'
  cases hevidence : o.sourceLocalEvidence with
  | none =>
    rw [hevidence] at h h'
    cases h
    cases h'
    exact hagree
  | some evidence =>
    rw [hevidence] at h h'
    cases evidence with
    | nativeCall call =>
      cases h
      cases h'
      exact hagree
    | namespaceWitness witness call refs =>
      exact foldlM_rel h h' hagree fun _ _ _ _ _ _ hs hs' => supportObservation_agree hs hs'

/-- An observation that belongs to a call goes on to belong to it. -/
theorem readWitness_localKey {s t : LocalEvidence} {o : SourceObservation} (h : readWitness s o = .ok t)
    {id : SourceObservationId} {key : LocalCallKey} (hkey : localKey s id = some key) : localKey t id = some key := by
  unfold readWitness at h
  cases hevidence : o.sourceLocalEvidence with
  | none =>
    rw [hevidence] at h
    cases h
    exact hkey
  | some evidence =>
    rw [hevidence] at h
    cases evidence with
    | nativeCall call =>
      cases h
      exact hkey
    | namespaceWitness witness call refs =>
      refine foldlM_inv (P := fun t : LocalEvidence => localKey t id = some key) h hkey fun x _ s t hs hkey => ?_
      obtain ⟨⟨hcalls, hwitnesses⟩, hother⟩ := supportObservation_ok hs
      unfold localKey at hkey ⊢
      by_cases hx : id = x
      · subst hx
        cases hcall : s.calls.get id with
        | none =>
          rw [hcall] at hkey
          cases hkey
        | some existing =>
          cases hproofs : s.witnesses.get id with
          | none =>
            rw [hcall, hproofs] at hkey
            cases hkey
          | some proofs =>
            cases proofs with
            | nil =>
              rw [hcall, hproofs] at hkey
              cases hkey
            | cons first rest =>
              rw [hcall, hproofs] at hkey
              rw [hcalls, hwitnesses, hcall, hproofs]
              exact hkey
      · rw [(hother id hx).1, (hother id hx).2]
        exact hkey

/-- **The call of an observation does not change** when more observations come. -/
theorem localKey_append {earlier later : List SourceObservation} {s s' : LocalEvidence}
    (hn : ((earlier ++ later).map (·.sourceObservationId)).Nodup) (h : localEvidence earlier = .ok s)
    (h' : localEvidence (earlier ++ later) = .ok s') {o : SourceObservation} (ho : o ∈ earlier) {key : LocalCallKey}
    (hkey : localKey s o.sourceObservationId = some key) : localKey s' o.sourceObservationId = some key := by
  unfold localEvidence at h h'
  rw [List.foldl_append, List.foldlM_append] at h'
  obtain ⟨middle, hmiddle, h'⟩ := bind_eq_ok.mp h'
  rw [List.map_append, List.nodup_append] at hn
  -- the later observations have ids of their own, so the calls of the earlier ones are read as before
  have hcalls : AgreeOn (· ∈ earlier.map (·.sourceObservationId)) (earlier.foldl readCall ⟨.empty, .empty⟩)
      (later.foldl readCall (earlier.foldl readCall ⟨.empty, .empty⟩)) := by
    refine foldl_readCall_agree fun x hx hmem => ?_
    exact hn.2.2 _ hmem _ (List.mem_map_of_mem hx) rfl
  obtain ⟨hcall, hwitness⟩ := foldlM_rel h hmiddle hcalls (fun _ _ _ _ _ _ => readWitness_agree) o.sourceObservationId
    (List.mem_map_of_mem ho)
  have hmid : localKey middle o.sourceObservationId = some key := by
    unfold localKey at hkey ⊢
    rw [hcall, hwitness]
    exact hkey
  exact foldlM_inv (P := fun t : LocalEvidence => localKey t o.sourceObservationId = some key) h' hmid
    fun _ _ _ _ hs hk => readWitness_localKey hs hk

/-! ## Placing -/

theorem placePairing_eq {occurrences : List HostOccurrence} {placed : OrdMap HostOccurrenceId SourceLocalPairing}
    {group : LocalCallKey × List LocalMember}
    (hown : ∀ m ∈ group.2, ownOccurrence occurrences m.observation.sourceObservationId =
      some (occurrenceIdOf H (conflictingPartialRefs observations) m.observation)) :
    placePairing occurrences previous placed group =
      match pairedCall group with
      | none => .ok placed
      | some c => (c.pairing.validate.mapError fun _ => NormalizeError.invalidResult) >>= fun _ =>
          .ok (placed.insert (slotOf H observations previous c) c.pairing) := by
  have hhead : (LocalMember.ids .result group.2).head? =
      (group.2.find? fun member => member.observation.observationRole == .result).map (·.observation.sourceObservationId) := by
    rw [LocalMember.ids, List.head?_map, List.head?_filter]
  unfold placePairing pairedCall
  rw [hhead]
  cases hfind : group.2.find? fun member => member.observation.observationRole == .result with
  | none => rfl
  | some member =>
    rw [Option.map_some]
    dsimp only
    rw [hown member (List.mem_of_find?_eq_some hfind), Option.or_some]
    by_cases hlone : ((LocalMember.ids .intent group.2).isEmpty && (LocalMember.ids .result group.2).length == 1) = true
    · simp only [hlone, if_true]
      rfl
    · simp only [hlone]
      rfl

theorem foldlM_placePairing {occurrences : List HostOccurrence} {r : OrdMap HostOccurrenceId SourceLocalPairing} :
    ∀ {l : List (LocalCallKey × List LocalMember)} {placed : OrdMap HostOccurrenceId SourceLocalPairing},
    (∀ group ∈ l, ∀ m ∈ group.2, ownOccurrence occurrences m.observation.sourceObservationId =
      some (occurrenceIdOf H (conflictingPartialRefs observations) m.observation)) →
    (l.foldlM (placePairing occurrences previous) placed = .ok r ↔
      (∀ c ∈ l.filterMap pairedCall, c.pairing.validate = .ok ()) ∧
        r = placed.insertAll ((l.filterMap pairedCall).map fun c =>
          (slotOf H observations previous c, c.pairing))) := by
  intro l
  induction l with
  | nil =>
    intro placed _
    rw [List.foldlM_nil, pure_eq_ok]
    exact ⟨fun h => ⟨by simp, h.symm⟩, fun h => h.2.symm⟩
  | cons group rest ih =>
    intro placed hown
    obtain ⟨hgroup, hrest⟩ := List.forall_mem_cons.mp hown
    rw [List.foldlM_cons, placePairing_eq hgroup]
    cases hcall : pairedCall group with
    | none =>
      rw [List.filterMap_cons_none hcall]
      exact ih hrest
    | some c =>
      rw [List.filterMap_cons_some hcall, List.forall_mem_cons, List.map_cons, and_assoc]
      dsimp only
      rw [bind_assoc, bind_eq_ok]
      constructor
      · rintro ⟨_, hvalid, h⟩
        exact ⟨mapError_ok.mp hvalid, (ih hrest).mp h⟩
      · rintro ⟨hvalid, h⟩
        exact ⟨(), mapError_ok.mpr hvalid, (ih hrest).mpr h⟩

/-! ## The pairings of a run -/

namespace Run

variable {logical : OrdMap HostOccurrenceId SourceLocalPairing} {derived : List (Option (Operation × List ScopeEffect))}
  (h : Run H n fresh observations previous out logical derived)
include h

/-- The occurrence ids of a run are those of its occurrences. -/
theorem inPlay_iff {id : HostOccurrenceId} : InPlay H observations id ↔ ∃ o ∈ out.occurrences, o.hostOccurrenceId = id := by
  constructor
  · rintro ⟨x, hx, rfl⟩
    obtain ⟨o, ho, members, hbuilt, hmem⟩ := h.members.2 x hx
    exact ⟨o, ho, hbuilt.id_eq x hmem⟩
  · rintro ⟨o, ho, rfl⟩
    obtain ⟨members, hbuilt⟩ := h.members.1 o ho
    obtain ⟨x, hx⟩ := List.exists_mem_of_ne_nil _ hbuilt.ne_nil
    exact ⟨x, h.mem_values.mp (hbuilt.mem x hx), (hbuilt.id_eq x hx).symm⟩

theorem ownOccurrence_eq {x : SourceObservation} (hx : x ∈ observations) (hexact : x.correlation.exactKey = none) :
    ownOccurrence out.occurrences x.sourceObservationId = some (occurrenceIdOf H (conflictingPartialRefs observations) x) := by
  unfold ownOccurrence
  cases hfind : out.occurrences.find? fun o => o.sourceObservationRefs == [x.sourceObservationId] with
  | some o =>
    have hrefs := List.find?_some hfind
    rw [beq_iff_eq] at hrefs
    rw [Option.map_some, h.id_of_mem (List.mem_of_find?_eq_some hfind) hx (by rw [hrefs]; exact List.mem_singleton.mpr rfl)]
  | none =>
    obtain ⟨o, ho, members, hbuilt, hmem⟩ := h.members.2 x hx
    refine absurd ?_ (List.find?_eq_none.mp hfind o ho)
    rw [beq_iff_eq, hbuilt.refs_eq]
    rcases hbuilt.origin with ⟨key, hkey, -⟩ | ⟨y, -, hy, -⟩
    · rw [hkey] at hmem
      have hsome := of_decide_eq_true (List.mem_filter.mp hmem).2
      rw [hexact] at hsome
      cases hsome
    · rw [hy, List.mem_singleton] at hmem
      rw [hy, ← hmem]
      rfl

/-- The pairings of a run over the same observations, on top of whatever snapshot. -/
theorem sourceLocalPairs_iff {groups : OrdMap LocalCallKey (List LocalMember)}
    (hgroups : localGroups observations = .ok groups) {before : Option NormalizationSnapshot}
    {r : OrdMap HostOccurrenceId SourceLocalPairing} : sourceLocalPairs observations out.occurrences before = .ok r ↔
      (∀ c ∈ pairedCalls groups, c.pairing.validate = .ok ()) ∧
        r = OrdMap.empty.insertAll ((pairedCalls groups).map fun c => (slotOf H observations before c, c.pairing)) := by
  unfold sourceLocalPairs
  rw [hgroups]
  refine foldlM_placePairing fun group hgroup m hm => ?_
  obtain ⟨s, -, hmembers⟩ := localGroups_members hgroups
  obtain ⟨hmem, hexact, -⟩ := hmembers group hgroup m hm
  exact h.ownOccurrence_eq hmem hexact

theorem localGroups_ok : ∃ groups, localGroups observations = .ok groups := by
  have hpairs := h.pairs
  unfold sourceLocalPairs at hpairs
  obtain ⟨groups, hgroups, -⟩ := bind_eq_ok.mp hpairs
  exact ⟨groups, hgroups⟩

/-- The pairing of a slot is that of the call that holds it. -/
theorem get_slot {groups : OrdMap LocalCallKey (List LocalMember)} (hgroups : localGroups observations = .ok groups)
    {x : HostOccurrenceId} {pairing : SourceLocalPairing} : logical.get x = some pairing ↔
      ∃ c, Holds PairedCall.key (pairedCalls groups) (slotOf H observations previous) x c ∧ c.pairing = pairing := by
  rw [((h.sourceLocalPairs_iff hgroups).mp h.pairs).2]
  exact get_place (pairedCalls_sorted groups)

theorem pairing_iff {groups : OrdMap LocalCallKey (List LocalMember)} (hgroups : localGroups observations = .ok groups)
    {op : Operation} (hop : op ∈ out.operations) {pairing : SourceLocalPairing} :
    op.sourceLocalPairing = some pairing ↔ ∃ c, Holds PairedCall.key (pairedCalls groups)
      (slotOf H observations previous) op.hostOccurrenceId c ∧ c.pairing = pairing := by
  obtain ⟨o, ho, effects, hd⟩ := h.mem_operations.mp hop
  obtain ⟨hhost, -, hpairing⟩ := derived_operation hd
  dsimp only at hhost hpairing
  rw [hpairing, hhost]
  exact h.get_slot hgroups

theorem exists_carrier {groups : OrdMap LocalCallKey (List LocalMember)} (hgroups : localGroups observations = .ok groups)
    {c : PairedCall} {x : HostOccurrenceId} (hx : InPlay H observations x)
    (hheld : Holds PairedCall.key (pairedCalls groups) (slotOf H observations previous) x c) :
    ∃ op ∈ out.operations, op.hostOccurrenceId = x ∧ op.sourceLocalPairing = some c.pairing := by
  obtain ⟨o, ho, rfl⟩ := h.inPlay_iff.mp hx
  exact (h.get_logical ho).mp ((h.get_slot hgroups).mpr ⟨c, hheld, rfl⟩)

theorem own_inj {x y : SourceObservation} (hx : x ∈ observations) (hy : y ∈ observations)
    (hxe : x.correlation.exactKey = none) (hye : y.correlation.exactKey = none)
    (heq : occurrenceIdOf H (conflictingPartialRefs observations) x =
      occurrenceIdOf H (conflictingPartialRefs observations) y) : x = y := by
  have hown : ∀ z ∈ observations, z.correlation.exactKey = none → ∃ o ∈ out.occurrences,
      o.sourceObservationRefs = [z.sourceObservationId] ∧
        o.hostOccurrenceId = occurrenceIdOf H (conflictingPartialRefs observations) z := by
    intro z hz hexact
    obtain ⟨o, hfind, hid⟩ := Option.map_eq_some_iff.mp (h.ownOccurrence_eq hz hexact)
    have hrefs := List.find?_some hfind
    exact ⟨o, List.mem_of_find?_eq_some hfind, beq_iff_eq.mp hrefs, hid⟩
  obtain ⟨o, ho, hrefs, hid⟩ := hown x hx hxe
  obtain ⟨o', ho', hrefs', hid'⟩ := hown y hy hye
  have hsame := h.eq_of_id ho ho' (hid.trans (heq.trans hid'.symm))
  rw [hsame, hrefs', List.cons.injEq] at hrefs
  exact List.inj_on_of_nodup_map h.nodup hx hy hrefs.1.symm

/-- Without an earlier snapshot a call is at its first result, and no other call is there. -/
theorem holds_own {groups : OrdMap LocalCallKey (List LocalMember)} (hgroups : localGroups observations = .ok groups)
    {c : PairedCall} (hc : c ∈ pairedCalls groups) :
    Holds PairedCall.key (pairedCalls groups) (slotOf H observations none) (ownSlot H observations c) c := by
  obtain ⟨s, -, hfirst⟩ := first_nonexact hgroups
  refine ⟨hc, rfl, fun c' hc' hlt heq => ?_⟩
  obtain ⟨hmem, hexact, hkey⟩ := hfirst c hc
  obtain ⟨hmem', hexact', hkey'⟩ := hfirst c' hc'
  have hsame : c'.first = c.first := h.own_inj hmem' hmem hexact' hexact heq
  rw [hsame, hkey, Option.some.injEq] at hkey'
  rw [hkey'] at hlt
  exact lt_irrefl _ hlt

end Run

end EverTrace.L2.Normalize
