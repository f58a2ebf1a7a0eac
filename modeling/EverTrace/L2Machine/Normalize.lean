import EverTrace.Lib.KeySort
import EverTrace.L2Machine.Evidence
/-!
# Physical normalization (`evertrace-engine/src/normalize.rs`)

`normalize` turns a list of source observations into host occurrences,
operations and scope effects. Observations that admit an exact correlation and
agree on its whole key become one occurrence; every other observation is an
occurrence of its own. An occurrence of an executable family, or one that
anchors a source-local pairing, gives one operation; the scope claims of its
members give the operation's scope effects.

A run may be given the snapshot of an earlier run. Occurrences then count their
revision on, and operations and scope effects keep the ids they had.

The ids drawn with `new_v7` are a parameter, one for each place that draws
(`FreshIds`). `BTreeMap`s are ordered maps; a `BTreeSet` that is only asked for
its size or its members is a list without repetition.
-/
namespace EverTrace.L2.Normalize
open EverTrace.Lib EverTrace.L1 EverTrace.L2.Work EverTrace.L2.Evidence

/-- mirrors evertrace-engine/src/normalize.rs:752-758 -/
inductive NormalizeError where
  | invalidInput
  | invalidResult
  deriving DecidableEq, Repr

/-- mirrors evertrace-engine/src/normalize.rs:23-27 -/
structure NormalizationSnapshot where
  occurrences : List HostOccurrence
  operations : List Operation
  scopeEffects : List ScopeEffect
  deriving DecidableEq

namespace NormalizationSnapshot

/-- The loop over the scope effects: each checks itself, has an id of its own and a known operation. -/
def validateEffects (operations : List OperationId) : List ScopeEffectId → List ScopeEffect →
    Except NormalizeError Unit
  | _, [] => .ok ()
  | effectIds, effect :: rest => do
    effect.validate.mapError fun _ => .invalidResult
    ensure .invalidResult (!(effectIds.contains effect.scopeEffectId || !operations.contains effect.operationId))
    validateEffects operations (effect.scopeEffectId :: effectIds) rest

/-- mirrors evertrace-engine/src/normalize.rs:30-78 -/
def validate (H : Sha256) (s : NormalizationSnapshot) : Except NormalizeError Unit := do
  ensure .invalidResult ((s.occurrences.map (·.hostOccurrenceId)).Nodup && (s.operations.map (·.operationId)).Nodup)
  s.occurrences.forM fun occurrence => (occurrence.validate H).mapError fun _ => .invalidResult
  s.operations.forM fun operation => do
    operation.validate.mapError fun _ => .invalidResult
    ensure .invalidResult ((s.occurrences.map (·.hostOccurrenceId)).contains operation.hostOccurrenceId)
  validateEffects (s.operations.map (·.operationId)) [] s.scopeEffects
  s.operations.forM fun operation =>
    ensure .invalidResult (sameElements
      ((s.scopeEffects.filter (·.operationId == operation.operationId)).map (·.scopeEffectId))
      operation.scopeEffectIds)

end NormalizationSnapshot

/-- A normalizer has a resolver version, and it is not zero.
mirrors evertrace-engine/src/normalize.rs:147-150 -/
structure PhysicalNormalizer where
  resolverVersion : UInt32
  resolverVersion_ne : resolverVersion ≠ 0

theorem one_ne_zero_version : (1 : UInt32) ≠ 0 := by decide

/-! ## Map keys -/

/-- `Ord` of an exact key: its fields in order. -/
def exactKeyOrder (key : HostOccurrenceExactKey) :
    Nat ×ₗ String ×ₗ String ×ₗ String ×ₗ Nat ×ₗ String ×ₗ Nat :=
  toLex (key.occurrenceSchemaVersion.toNat, toLex (key.hostInstanceId, toLex (key.hostTraceLineageId,
    toLex (key.hostLaneKey, toLex (key.canonicalEventFamily.ctorIdx, toLex (key.nativeRequestId,
      key.physicalExecutionOrdinal.toNat))))))

theorem ctorIdx_injective : Function.Injective CanonicalEventFamily.ctorIdx := by
  intro a b h
  cases a <;> cases b <;> first | rfl | cases h

theorem exactKeyOrder_injective : Function.Injective exactKeyOrder := by
  intro a b h
  simp only [exactKeyOrder, EmbeddingLike.apply_eq_iff_eq, Prod.mk.injEq, UInt32.toNat_inj,
    ctorIdx_injective.eq_iff] at h
  cases a
  cases b
  simpa using h

instance : LinearOrder HostOccurrenceExactKey := LinearOrder.lift' exactKeyOrder exactKeyOrder_injective

/-- The source-local call a group of observations is about. -/
structure LocalCallKey where
  namespace_ : SourceLocalNamespace
  requestId : String
  deriving DecidableEq

/-- `Ord` of `(namespace, request_id)`; there is one profile. -/
def localCallKeyOrder (key : LocalCallKey) : String ×ₗ String ×ₗ String ×ₗ String :=
  toLex (key.namespace_.rootSession, toLex (key.namespace_.thread, toLex (key.namespace_.rollout, key.requestId)))

theorem localCallKeyOrder_injective : Function.Injective localCallKeyOrder := by
  rintro ⟨⟨⟨⟩, _, _, _⟩, _⟩ ⟨⟨⟨⟩, _, _, _⟩, _⟩ h
  simpa [localCallKeyOrder, and_assoc] using h

instance : LinearOrder LocalCallKey := LinearOrder.lift' localCallKeyOrder localCallKeyOrder_injective

/-- What a scope effect is about: everything of a claim but its evidence.
mirrors evertrace-engine/src/normalize.rs:691-700 -/
structure ScopeClaimKey where
  effectRole : EffectRole
  repositoryInstanceId : Option RepositoryId
  worktreeInstanceId : Option WorktreeId
  preSnapshotId : Option WorktreeSnapshotId
  postSnapshotId : Option WorktreeSnapshotId
  experimentRunIds : List ExperimentRunId
  artifactRefs : List WorkArtifactId
  deriving DecidableEq

/-- `Ord` of a claim key: its fields in order, `None` before `Some`. -/
def scopeClaimKeyOrder (key : ScopeClaimKey) :
    Nat ×ₗ List RepositoryId ×ₗ List WorktreeId ×ₗ List WorktreeSnapshotId ×ₗ List WorktreeSnapshotId ×ₗ
      List ExperimentRunId ×ₗ List WorkArtifactId :=
  toLex (key.effectRole.ctorIdx, toLex (key.repositoryInstanceId.toList, toLex (key.worktreeInstanceId.toList,
    toLex (key.preSnapshotId.toList, toLex (key.postSnapshotId.toList, toLex (key.experimentRunIds,
      key.artifactRefs))))))

theorem effectRole_ctorIdx_injective : Function.Injective EffectRole.ctorIdx := by
  intro a b h
  cases a <;> cases b <;> first | rfl | cases h

theorem option_toList_injective {α : Type} : Function.Injective (Option.toList (α := α)) := by
  intro a b h
  cases a <;> cases b <;> simp_all

theorem scopeClaimKeyOrder_injective : Function.Injective scopeClaimKeyOrder := by
  intro a b h
  simp only [scopeClaimKeyOrder, EmbeddingLike.apply_eq_iff_eq, Prod.mk.injEq,
    effectRole_ctorIdx_injective.eq_iff, option_toList_injective.eq_iff] at h
  cases a
  cases b
  simpa using h

instance : LinearOrder ScopeClaimKey := LinearOrder.lift' scopeClaimKeyOrder scopeClaimKeyOrder_injective

/-- The ids one run draws with `new_v7`: for the operation of an occurrence, and for the
scope effect of what a claim of that occurrence is about. -/
structure FreshIds where
  operation : HostOccurrenceId → OperationId
  scopeEffect : HostOccurrenceId → ScopeClaimKey → ScopeEffectId

/-! ## Occurrences -/

/-- The first loop: every observation checks itself and has an id of its own.
mirrors evertrace-engine/src/normalize.rs:165-176 -/
def collectById (H : Sha256) : OrdMap SourceObservationId SourceObservation → List SourceObservation →
    Except NormalizeError (OrdMap SourceObservationId SourceObservation)
  | byId, [] => .ok byId
  | byId, observation :: rest => do
    (observation.validate H).mapError fun _ => .invalidInput
    ensure .invalidInput (byId.get observation.sourceObservationId).isNone
    collectById H (byId.insert observation.sourceObservationId observation) rest

/-- mirrors evertrace-engine/src/normalize.rs:669-676 -/
structure PartialTuple where
  hostInstanceId : Option String
  hostTraceLineageId : Option String
  hostLaneKey : Option String
  canonicalEventFamily : Option CanonicalEventFamily
  nativeRequestId : Option String
  physicalExecutionOrdinal : Option UInt32
  deriving DecidableEq

/-- mirrors evertrace-engine/src/normalize.rs:679-688 -/
def PartialTuple.from_ (o : SourceObservation) : PartialTuple where
  hostInstanceId := o.correlation.hostInstanceId
  hostTraceLineageId := o.correlation.hostTraceLineageId
  hostLaneKey := o.correlation.hostLaneKey
  canonicalEventFamily := o.correlation.canonicalEventFamily
  nativeRequestId := o.correlation.nativeRequestId
  physicalExecutionOrdinal := o.correlation.physicalExecutionOrdinal

def addPartial (values : OrdMap String (List PartialTuple)) (o : SourceObservation) :
    OrdMap String (List PartialTuple) :=
  match o.correlation.partialCorrelationRef with
  | none => values
  | some reference => values.insert reference (((values.get reference).getD []).insert (.from_ o))

/-- The partial references under which two observations disagree.
mirrors evertrace-engine/src/normalize.rs:652-666 -/
def conflictingPartialRefs (observations : List SourceObservation) : List String :=
  (observations.foldl addPartial .empty).entries.filterMap fun entry =>
    if 1 < entry.2.length then some entry.1 else none

/-- mirrors evertrace-engine/src/normalize.rs:630-650 -/
def pairingState (members : List SourceObservation) (exact : Bool) : PairingState :=
  let intents := members.countP (·.observationRole == .intent)
  let results := members.countP (·.observationRole == .result)
  if 1 < intents || 1 < results then .conflicted
  else if exact && intents == 1 && results == 1 then .paired
  else if intents == 1 then .unmatchedIntent
  else if results == 1 then .unmatchedResult
  else .notApplicable

/-- mirrors evertrace-engine/src/normalize.rs:605-628 -/
def provenance (members : List SourceObservation) : List FieldProvenanceEntry :=
  sortByKey (fun entry => toLex (entry.field.ctorIdx, entry.sourceObservationRef))
    (members.flatMap fun observation => observation.correlation.fieldProvenance.map fun claim =>
      { field := claim.field
        sourceObservationRef := observation.sourceObservationId
        sourceRef := claim.sourceRef
        evidenceRef := claim.evidenceRef })

/-- mirrors evertrace-engine/src/normalize.rs:591-603 -/
def updateOccurrenceRevision (current : HostOccurrence) (previous : Option HostOccurrence) : HostOccurrence :=
  match previous with
  | none => current
  | some previous =>
    if { current with
          normalizationRevision := previous.normalizationRevision
          previousNormalizationRevision := previous.previousNormalizationRevision } = previous then previous
    else { current with
      normalizationRevision := previous.normalizationRevision + 1
      previousNormalizationRevision := some previous.normalizationRevision }

/-- The occurrence of an exact key before its revision is counted on.
mirrors evertrace-engine/src/normalize.rs:481-519 -/
def exactOccurrence (n : PhysicalNormalizer) (id : HostOccurrenceId) (key : HostOccurrenceExactKey)
    (members : List SourceObservation) : HostOccurrence :=
  let pairing := pairingState members true
  { hostOccurrenceId := id
    exactKey := some key
    hostInstanceId := some key.hostInstanceId
    hostTraceLineageId := some key.hostTraceLineageId
    hostLaneKey := some key.hostLaneKey
    canonicalEventFamily := some key.canonicalEventFamily
    nativeRequestId := some key.nativeRequestId
    physicalExecutionOrdinal := some key.physicalExecutionOrdinal
    correlationStrength := .exact
    sourceObservationRefs := (members.map (·.sourceObservationId)).insertionSort (· ≤ ·)
    fieldProvenance := provenance members
    normalizationState :=
      if pairing = .conflicted then .normalizationConflicted
      else if members.length = 1 then .singleSource
      else if 1 < (members.map (·.observationRole)).dedup.length then .complemented
      else .corroborated
    pairingState := pairing
    possibleDuplicateGroupId := none
    correlationResolverVersion := n.resolverVersion
    normalizationRevision := 1
    previousNormalizationRevision := none }

/-- mirrors evertrace-engine/src/normalize.rs:475-525 -/
def buildExactOccurrence (H : Sha256) (n : PhysicalNormalizer) (previous : OrdMap HostOccurrenceId HostOccurrence)
    (group : HostOccurrenceExactKey × List SourceObservation) : Except NormalizeError HostOccurrence := do
  let id ← (hostOccurrenceIdForExact H group.1).mapError fun _ => .invalidInput
  let occurrence := updateOccurrenceRevision (exactOccurrence n id group.1 group.2) (previous.get id)
  (occurrence.validate H).mapError fun _ => .invalidResult
  return occurrence

/-- mirrors evertrace-engine/src/normalize.rs:533-549 -/
def nonexactStrength (conflictedPartialRefs : List String) (o : SourceObservation) : CorrelationStrength :=
  if o.correlation.partialCorrelationRef.any (conflictedPartialRefs.contains ·)
      || o.correlation.admission == .conflicted then .conflicted
  else
    match o.correlation.admission with
    | .unavailable => .unavailable
    | .ambiguous | .exactCapable => .ambiguous
    | .conflicted => .conflicted

def executable (o : SourceObservation) : Bool :=
  (o.correlation.canonicalEventFamily.bind CanonicalEventFamily.operationKind).isSome

/-- The occurrence of a single observation before its revision is counted on.
mirrors evertrace-engine/src/normalize.rs:557-583 -/
def nonexactOccurrence (n : PhysicalNormalizer) (id : HostOccurrenceId) (strength : CorrelationStrength)
    (o : SourceObservation) : HostOccurrence where
  hostOccurrenceId := id
  exactKey := none
  hostInstanceId := o.correlation.hostInstanceId
  hostTraceLineageId := o.correlation.hostTraceLineageId
  hostLaneKey := o.correlation.hostLaneKey
  canonicalEventFamily := o.correlation.canonicalEventFamily
  nativeRequestId := o.correlation.nativeRequestId
  physicalExecutionOrdinal := o.correlation.physicalExecutionOrdinal
  correlationStrength := strength
  sourceObservationRefs := [o.sourceObservationId]
  fieldProvenance := provenance [o]
  normalizationState := if strength = .conflicted then .normalizationConflicted else .singleSource
  pairingState := if executable o then pairingState [o] false else .notApplicable
  possibleDuplicateGroupId := o.correlation.possibleDuplicateGroupId
  correlationResolverVersion := n.resolverVersion
  normalizationRevision := 1
  previousNormalizationRevision := none

/-- mirrors evertrace-engine/src/normalize.rs:527-589 -/
def buildNonexactOccurrence (H : Sha256) (n : PhysicalNormalizer) (conflictedPartialRefs : List String)
    (previous : OrdMap HostOccurrenceId HostOccurrence) (o : SourceObservation) :
    Except NormalizeError HostOccurrence := do
  let strength := nonexactStrength conflictedPartialRefs o
  let id ← (hostOccurrenceIdForNonexact H o.sourceObservationId strength).mapError fun _ => .invalidInput
  let occurrence := updateOccurrenceRevision (nonexactOccurrence n id strength o) (previous.get id)
  (occurrence.validate H).mapError fun _ => .invalidResult
  return occurrence

def addExact (groups : OrdMap HostOccurrenceExactKey (List SourceObservation)) (o : SourceObservation) :
    OrdMap HostOccurrenceExactKey (List SourceObservation) :=
  match o.correlation.exactKey with
  | some key => groups.push key o
  | none => groups

/-- mirrors evertrace-engine/src/normalize.rs:182-191 -/
def exactGroups (values : List SourceObservation) : OrdMap HostOccurrenceExactKey (List SourceObservation) :=
  values.foldl addExact .empty

/-- mirrors evertrace-engine/src/normalize.rs:209-226 -/
def buildOccurrences (H : Sha256) (n : PhysicalNormalizer) (conflictedPartialRefs : List String)
    (previous : OrdMap HostOccurrenceId HostOccurrence) (values : List SourceObservation) :
    Except NormalizeError (List HostOccurrence) := do
  let exact ← (exactGroups values).entries.mapM (buildExactOccurrence H n previous)
  let nonexact ← (values.filter (·.correlation.exactKey.isNone)).mapM
    (buildNonexactOccurrence H n conflictedPartialRefs previous)
  return sortByKey (·.hostOccurrenceId) (exact ++ nonexact)

/-! ## Source-local pairings -/

/-- The native calls known for observations, and the namespace witnesses read for them. -/
structure LocalEvidence where
  calls : OrdMap SourceObservationId SourceLocalNativeCall
  witnesses : OrdMap SourceObservationId (List (SourceObservationId × SourceLocalNamespaceWitness))

/-- mirrors evertrace-engine/src/normalize.rs:345-355 -/
def readCall (s : LocalEvidence) (o : SourceObservation) : LocalEvidence :=
  match o.sourceLocalEvidence with
  | some (.nativeCall call) =>
    { calls := s.calls.insert o.sourceObservationId call
      witnesses :=
        match call.namespaceWitness with
        | some witness => s.witnesses.push o.sourceObservationId (o.sourceObservationId, witness)
        | none => s.witnesses }
  | _ => s

/-- One supported observation of a namespace witness: its call, if known, must be the supported one.
mirrors evertrace-engine/src/normalize.rs:363-379 -/
def supportObservation (witnessId : SourceObservationId) (witness : SourceLocalNamespaceWitness)
    (supportedCall : SourceLocalNativeCall) (s : LocalEvidence) (id : SourceObservationId) :
    Except NormalizeError LocalEvidence :=
  match s.calls.get id with
  | some existing => do
    ensure .invalidInput
      ({ existing with namespaceWitness := none } == { supportedCall with namespaceWitness := none })
    return { s with witnesses := s.witnesses.push id (witnessId, witness) }
  | none =>
    return { calls := s.calls.insert id supportedCall, witnesses := s.witnesses.push id (witnessId, witness) }

/-- mirrors evertrace-engine/src/normalize.rs:356-381 -/
def readWitness (s : LocalEvidence) (o : SourceObservation) : Except NormalizeError LocalEvidence :=
  match o.sourceLocalEvidence with
  | some (.namespaceWitness witness supportedCall supportedObservationRefs) =>
    supportedObservationRefs.foldlM (supportObservation o.sourceObservationId witness supportedCall) s
  | _ => .ok s

/-- An observation in the group of its call, with the witnesses read for it. -/
structure LocalMember where
  observation : SourceObservation
  call : SourceLocalNativeCall
  proofs : List (SourceObservationId × SourceLocalNamespaceWitness)

/-- mirrors evertrace-engine/src/normalize.rs:382-405 -/
def joinGroup (s : LocalEvidence) (groups : OrdMap LocalCallKey (List LocalMember)) (o : SourceObservation) :
    Except NormalizeError (OrdMap LocalCallKey (List LocalMember)) :=
  match s.calls.get o.sourceObservationId, s.witnesses.get o.sourceObservationId with
  | some call, some proofs =>
    match proofs.head? with
    | none => .ok groups
    | some first => do
      ensure .invalidInput (!(!(o.observationRole == .intent || o.observationRole == .result)
        || o.correlation.exactKey.isSome
        || proofs.any fun proof => !call.acceptsWitness proof.2 || proof.2.namespace_ != first.2.namespace_))
      return groups.push ⟨first.2.namespace_, call.requestId⟩ ⟨o, call, proofs⟩
  | _, _ => .ok groups

def LocalMember.ids (role : ObservationRole) (members : List LocalMember) : List SourceObservationId :=
  (members.filter (·.observation.observationRole == role)).map (·.observation.sourceObservationId)

/-- The pairing of a group, whichever occurrence carries it.
mirrors evertrace-engine/src/normalize.rs:435-466 -/
def pairingOf (key : LocalCallKey) (members : List LocalMember) : SourceLocalPairing :=
  let intents := LocalMember.ids .intent members
  let results := LocalMember.ids .result members
  let sameTool := members.all fun member => (members.head?.map (·.call.toolName)) == some member.call.toolName
  { namespace_ := key.namespace_
    requestId := key.requestId
    intentObservationRefs := intents.insertionSort (· ≤ ·)
    resultObservationRefs := results.insertionSort (· ≤ ·)
    namespaceWitnessRefs := sortUnique (members.flatMap fun member => member.proofs.map Prod.fst)
    state := if intents.length == 1 && results.length == 1 && sameTool then .sourcePaired else .conflicted }

/-- The occurrence that anchored this call in the earlier snapshot.
mirrors evertrace-engine/src/normalize.rs:416-427 -/
def previousAnchor (previous : Option NormalizationSnapshot) (key : LocalCallKey) : Option HostOccurrenceId :=
  ((previous.toList.flatMap (·.operations)).find? fun operation =>
    operation.sourceLocalPairing.any fun pairing =>
      pairing.namespace_ == key.namespace_ && pairing.requestId == key.requestId).map (·.hostOccurrenceId)

/-- The occurrence that is just this observation.
mirrors evertrace-engine/src/normalize.rs:428-433 -/
def ownOccurrence (occurrences : List HostOccurrence) (id : SourceObservationId) : Option HostOccurrenceId :=
  (occurrences.find? fun occurrence => occurrence.sourceObservationRefs == [id]).map (·.hostOccurrenceId)

/-- mirrors evertrace-engine/src/normalize.rs:407-471 -/
def placePairing (occurrences : List HostOccurrence) (previous : Option NormalizationSnapshot)
    (placed : OrdMap HostOccurrenceId SourceLocalPairing) (group : LocalCallKey × List LocalMember) :
    Except NormalizeError (OrdMap HostOccurrenceId SourceLocalPairing) :=
  match (LocalMember.ids .result group.2).head? with
  | none => .ok placed
  | some firstResult => do
    let anchor ← okOr .invalidInput ((previousAnchor previous group.1).or (ownOccurrence occurrences firstResult))
    if (LocalMember.ids .intent group.2).isEmpty && (LocalMember.ids .result group.2).length == 1 then
      return placed
    else
      (pairingOf group.1 group.2).validate.mapError fun _ => NormalizeError.invalidResult
      return placed.insert anchor (pairingOf group.1 group.2)

/-- The groups of the calls with a witnessed namespace.
mirrors evertrace-engine/src/normalize.rs:343-405 -/
def localGroups (observations : List SourceObservation) :
    Except NormalizeError (OrdMap LocalCallKey (List LocalMember)) := do
  let evidence ← observations.foldlM readWitness (observations.foldl readCall ⟨.empty, .empty⟩)
  observations.foldlM (joinGroup evidence) .empty

/-- mirrors evertrace-engine/src/normalize.rs:338-473 -/
def sourceLocalPairs (observations : List SourceObservation) (occurrences : List HostOccurrence)
    (previous : Option NormalizationSnapshot) :
    Except NormalizeError (OrdMap HostOccurrenceId SourceLocalPairing) := do
  let groups ← localGroups observations
  groups.entries.foldlM (placePairing occurrences previous) .empty

/-! ## Operations and scope effects -/

/-- What a claim is about. -/
def subject (claim : ScopeEffectClaim) : ScopeClaimKey where
  effectRole := claim.effectRole
  repositoryInstanceId := claim.repositoryInstanceId
  worktreeInstanceId := claim.worktreeInstanceId
  preSnapshotId := claim.preSnapshotId
  postSnapshotId := claim.postSnapshotId
  experimentRunIds := claim.experimentRunIds
  artifactRefs := claim.artifactRefs

/-- What a claim is about, the runs and artifacts in order.
mirrors evertrace-engine/src/normalize.rs:710-722 -/
def claimKey (claim : ScopeEffectClaim) : ScopeClaimKey :=
  { subject claim with
    experimentRunIds := claim.experimentRunIds.insertionSort (· ≤ ·)
    artifactRefs := claim.artifactRefs.insertionSort (· ≤ ·) }

/-- One claim of one member: its evidence joins that of the other claims with its key. -/
def addClaim (claims : OrdMap ScopeClaimKey (List SourceObservationId))
    (entry : SourceObservationId × ScopeEffectClaim) :
    Except NormalizeError (OrdMap ScopeClaimKey (List SourceObservationId)) := do
  entry.2.validate.mapError fun _ => .invalidInput
  return claims.insert (claimKey entry.2)
    ((claims.get (claimKey entry.2)).getD [] ++ entry.1 :: entry.2.evidenceRefs)

def ScopeClaimKey.claim (key : ScopeClaimKey) (evidenceRefs : List SourceObservationId) : ScopeEffectClaim where
  effectRole := key.effectRole
  repositoryInstanceId := key.repositoryInstanceId
  worktreeInstanceId := key.worktreeInstanceId
  preSnapshotId := key.preSnapshotId
  postSnapshotId := key.postSnapshotId
  experimentRunIds := key.experimentRunIds
  artifactRefs := key.artifactRefs
  evidenceRefs := evidenceRefs

/-- The claims of the members, in order, each with the member that makes it. -/
def madeClaims (observations : List SourceObservation) : List (SourceObservationId × ScopeEffectClaim) :=
  observations.flatMap fun o => o.scopeEffectClaims.map fun claim => (o.sourceObservationId, claim)

/-- mirrors evertrace-engine/src/normalize.rs:702-740 -/
def mergeScopeClaims (observations : List SourceObservation) : Except NormalizeError (List ScopeEffectClaim) := do
  let claims ← (madeClaims observations).foldlM addClaim .empty
  return claims.entries.map fun entry => entry.1.claim (sortUnique entry.2)

/-- The fields of an effect that a claim is compared with.
mirrors evertrace-engine/src/normalize.rs:742-750 -/
def effectMatchesClaim (effect : ScopeEffect) (claim : ScopeEffectClaim) : Bool :=
  effect.effectRole == claim.effectRole
    && effect.repositoryInstanceId == claim.repositoryInstanceId
    && effect.worktreeInstanceId == claim.worktreeInstanceId
    && effect.preSnapshotId == claim.preSnapshotId
    && effect.postSnapshotId == claim.postSnapshotId
    && effect.experimentRunIds == claim.experimentRunIds
    && effect.artifactRefs == claim.artifactRefs

/-- The effect a claim gives when no earlier one matches it. -/
def newEffect (scopeEffectId : ScopeEffectId) (operationId : OperationId) (claim : ScopeEffectClaim) :
    ScopeEffect where
  scopeEffectId := scopeEffectId
  operationId := operationId
  effectRole := claim.effectRole
  repositoryInstanceId := claim.repositoryInstanceId
  worktreeInstanceId := claim.worktreeInstanceId
  preSnapshotId := claim.preSnapshotId
  postSnapshotId := claim.postSnapshotId
  experimentRunIds := claim.experimentRunIds
  artifactRefs := claim.artifactRefs
  evidenceRefs := claim.evidenceRefs

/-- The earlier effect of this operation that matches the claim, or a new one.
mirrors evertrace-engine/src/normalize.rs:254-268 -/
def effectFor (previousEffects : List ScopeEffect) (newId : ScopeClaimKey → ScopeEffectId)
    (operationId : OperationId) (claim : ScopeEffectClaim) : ScopeEffect :=
  (previousEffects.find? fun effect => effect.operationId == operationId && effectMatchesClaim effect claim).getD
    (newEffect (newId (subject claim)) operationId claim)

/-- mirrors evertrace-engine/src/normalize.rs:253-273 -/
def deriveEffect (previousEffects : List ScopeEffect) (newId : ScopeClaimKey → ScopeEffectId)
    (operationId : OperationId) (claim : ScopeEffectClaim) : Except NormalizeError ScopeEffect := do
  let effect := effectFor previousEffects newId operationId claim
  effect.validate.mapError fun _ => .invalidResult
  return effect

/-- The operation before its revision is counted on.
mirrors evertrace-engine/src/normalize.rs:275-306 -/
def newOperation (n : PhysicalNormalizer) (occurrence : HostOccurrence) (members : List SourceObservation)
    (pairing : Option SourceLocalPairing) (kind : OperationKind) (operationId : OperationId)
    (effects : List ScopeEffect) : Operation where
  sourceLocalPairing := pairing
  operationId := operationId
  hostOccurrenceId := occurrence.hostOccurrenceId
  executionLaneId := none
  operationKind := kind
  inputSourceObservationRefs :=
    ((members.filter (·.observationRole == .intent)).map (·.sourceObservationId)).insertionSort (· ≤ ·)
  resultSourceObservationRefs :=
    ((members.filter (·.observationRole != .intent)).map (·.sourceObservationId)).insertionSort (· ≤ ·)
  pairingState := occurrence.pairingState
  scopeEffectIds := effects.map (·.scopeEffectId)
  artifactRefs := sortUnique (effects.flatMap (·.artifactRefs))
  operationResolverVersion := n.resolverVersion
  operationRevision := 1
  previousOperationRevision := none

/-- mirrors evertrace-engine/src/normalize.rs:307-317 -/
def updateOperationRevision (operation : Operation) (previous : Option Operation) : Operation :=
  match previous with
  | none => operation
  | some previous =>
    if { operation with
          operationRevision := previous.operationRevision
          previousOperationRevision := previous.previousOperationRevision } = previous then previous
    else { operation with
      operationRevision := previous.operationRevision + 1
      previousOperationRevision := some previous.operationRevision }

/-- mirrors evertrace-engine/src/normalize.rs:238-245 -/
def operationKindOf (occurrence : HostOccurrence) (pairing : Option SourceLocalPairing) : Option OperationKind :=
  (occurrence.canonicalEventFamily.bind CanonicalEventFamily.operationKind).or (pairing.map fun _ => .other)

/-- The snapshot of the earlier run as this run looks things up in it.
mirrors evertrace-engine/src/normalize.rs:193-207 -/
structure Earlier where
  occurrences : OrdMap HostOccurrenceId HostOccurrence
  operations : OrdMap HostOccurrenceId Operation
  effects : List ScopeEffect

def Earlier.of (previous : Option NormalizationSnapshot) : Earlier where
  occurrences := OrdMap.empty.insertAll
    ((previous.toList.flatMap (·.occurrences)).map fun value => (value.hostOccurrenceId, value))
  operations := OrdMap.empty.insertAll
    ((previous.toList.flatMap (·.operations)).map fun value => (value.hostOccurrenceId, value))
  effects := previous.toList.flatMap (·.scopeEffects)

/-- The id the operation of an occurrence keeps, or a new one.
mirrors evertrace-engine/src/normalize.rs:246-250 -/
def operationIdOf (fresh : FreshIds) (earlier : Earlier) (id : HostOccurrenceId) : OperationId :=
  ((earlier.operations.get id).map (·.operationId)).getD (fresh.operation id)

/-- The operation of an occurrence with its scope effects, if it has one.
mirrors evertrace-engine/src/normalize.rs:231-323 -/
def deriveOperation (n : PhysicalNormalizer) (fresh : FreshIds) (earlier : Earlier)
    (byId : OrdMap SourceObservationId SourceObservation) (logical : OrdMap HostOccurrenceId SourceLocalPairing)
    (occurrence : HostOccurrence) : Except NormalizeError (Option (Operation × List ScopeEffect)) := do
  let members ← occurrence.sourceObservationRefs.mapM fun id => okOr .invalidResult (byId.get id)
  let pairing := logical.get occurrence.hostOccurrenceId
  match operationKindOf occurrence pairing with
  | none => return none
  | some kind => do
    let operationId := operationIdOf fresh earlier occurrence.hostOccurrenceId
    let claims ← mergeScopeClaims members
    let effects ← claims.mapM
      (deriveEffect earlier.effects (fresh.scopeEffect occurrence.hostOccurrenceId) operationId)
    let effects := sortByKey (·.scopeEffectId) effects
    let operation := updateOperationRevision (newOperation n occurrence members pairing kind operationId effects)
      (earlier.operations.get occurrence.hostOccurrenceId)
    operation.validate.mapError fun _ => NormalizeError.invalidResult
    return some (operation, effects)

/-- mirrors evertrace-engine/src/normalize.rs:160-333 -/
def normalize (H : Sha256) (n : PhysicalNormalizer) (fresh : FreshIds) (observations : List SourceObservation)
    (previous : Option NormalizationSnapshot) : Except NormalizeError NormalizationSnapshot := do
  let byId ← collectById H .empty observations
  previous.toList.forM (NormalizationSnapshot.validate H)
  let earlier := Earlier.of previous
  let occurrences ← buildOccurrences H n (conflictingPartialRefs observations) earlier.occurrences byId.values
  let logical ← sourceLocalPairs observations occurrences previous
  let derived ← occurrences.mapM (deriveOperation n fresh earlier byId logical)
  let result : NormalizationSnapshot := {
    occurrences
    operations := sortByKey (·.operationId) (derived.reduceOption.map Prod.fst)
    scopeEffects := sortByKey (·.scopeEffectId) (derived.reduceOption.flatMap Prod.snd) }
  result.validate H
  return result

end EverTrace.L2.Normalize
