import EverTrace.Lib.Bytes
import EverTrace.L1Encoding.Digest
import Mathlib.Order.Fin.Basic
/-!
# Object ids (`evertrace-domain/src/ids.rs`, `revision.rs`)

Every `uuid_id!` type is a UUID under its own family; the types differ only in
the prefix of their text form. A UUID is its 128 bits read as a number, which
is also its order.

Printing and reading UUIDs is the `uuid` crate's. The model follows what its
documentation says: `hyphenated` prints 32 lower-case hexadecimal digits in groups
of 8, 4, 4, 4 and 12, and `parse_str` reads this form and also upper case, braces,
the URN prefix and digits without hyphens. The code compares what it read with
what it was given, so only the printed form is left.
-/
namespace EverTrace.L1
open EverTrace.Lib

abbrev Uuid := Fin (2 ^ 128)

instance neZero_uuid : NeZero (2 ^ 128 : Nat) := ⟨by decide⟩
instance neZero_digest : NeZero (2 ^ 256 : Nat) := ⟨by decide⟩
instance neZero_sixteen : NeZero 16 := ⟨by decide⟩
instance neZero_byte : NeZero 256 := ⟨by decide⟩
instance neZero_kibi : NeZero 1024 := ⟨by decide⟩

/-- The low bits of a version 7 UUID stay below the width of a UUID. -/
theorem version7_lt (n : Fin 16) : 0x70008000000000000000 + n.val < 2 ^ 128 := by omega

def hexDigit (n : Nat) : Char := if n < 10 then Char.ofNat (48 + n) else Char.ofNat (87 + n)

/-- Lower-case hexadecimal, two digits a byte (`{byte:02x}`). -/
def hexBytes (b : Bytes) : List Char :=
  b.flatMap fun x => [hexDigit (x.toNat / 16), hexDigit (x.toNat % 16)]

/-- `Uuid::hyphenated`: groups of 4, 2, 2, 2 and 6 bytes. -/
def Uuid.hyphenated (u : Uuid) : List Char :=
  let b := beBytes 16 u.val
  hexBytes (b.take 4) ++ '-' :: hexBytes ((b.drop 4).take 2) ++ '-' :: hexBytes ((b.drop 6).take 2) ++
    '-' :: hexBytes ((b.drop 8).take 2) ++ '-' :: hexBytes (b.drop 10)

/-- The id families used here; a `RevisionId`, a `JobId` and a `CommandId` are bare UUIDs. -/
inductive Family where
  | revision
  | recallNeed
  | presentationAttempt
  | executionLane
  | task
  | workstream
  | repository
  | worktree
  | attempt
  | worktreeSnapshot
  | workBindingRevision
  | scopeEffect
  | captureReceipt
  | captureOutageInterval
  | operation
  | worktreeTransition
  | integrationEvent
  | workEpisode
  | operationBurst
  | competingAttemptGroup
  | experimentRun
  | workArtifact
  | duplicateGroup
  | atom
  | procedure
  | coreMembership
  | revisionProposal
  | procedureUsage
  | procedureNegativeEvidence
  | resultEvidence
  | recoveryCaptureRequest
  | recoveryBundle
  | recoveryApplication
  | job
  | command
  deriving DecidableEq, Repr

/-- The text before the UUID, separator included.
mirrors evertrace-domain/src/ids.rs:254-299 -/
def Family.tag : Family → String
  | .revision => ""
  | .recallNeed => "need:"
  | .presentationAttempt => "present:"
  | .executionLane => "lane:"
  | .task => "task:"
  | .workstream => "ws:"
  | .repository => "repo:"
  | .worktree => "wt:"
  | .attempt => "att:"
  | .worktreeSnapshot => "wts:"
  | .workBindingRevision => "wb:"
  | .scopeEffect => "se:"
  | .captureReceipt => "cap:"
  | .captureOutageInterval => "outage:"
  | .operation => "op:"
  | .worktreeTransition => "wtt:"
  | .integrationEvent => "int:"
  | .workEpisode => "ep:"
  | .operationBurst => "burst:"
  | .competingAttemptGroup => "cmp:"
  | .experimentRun => "run:"
  | .workArtifact => "art:"
  | .duplicateGroup => "dup:"
  | .atom => "atom:"
  | .procedure => "proc:"
  | .coreMembership => "coremem:"
  | .revisionProposal => "proposal:"
  | .procedureUsage => "puse:"
  | .procedureNegativeEvidence => "pneg:"
  | .resultEvidence => "result:"
  | .recoveryCaptureRequest => "recreq:"
  | .recoveryBundle => "rec:"
  | .recoveryApplication => "recapp:"
  | .job => ""
  | .command => ""

/-- An id of one family. -/
structure Id (family : Family) where
  uuid : Uuid
  deriving DecidableEq

/-- Ids are ordered as their UUIDs. -/
instance {family : Family} : LinearOrder (Id family) :=
  LinearOrder.lift' Id.uuid fun _ _ h => (Id.mk.injEq _ _).mpr h

/-- `Display` of an id.
mirrors evertrace-domain/src/ids.rs:119-123, revision.rs:39-43 -/
def Id.toText {family : Family} (id : Id family) : String :=
  family.tag ++ String.ofList id.uuid.hyphenated

theorem length_hexBytes (b : Bytes) : (hexBytes b).length = 2 * b.length := by
  induction b with
  | nil => rfl
  | cons x b ih =>
    unfold hexBytes at ih ⊢
    rw [List.flatMap_cons, List.length_append, ih, List.length_cons]
    simp only [List.length_cons, List.length_nil]
    omega

theorem length_hyphenated (u : Uuid) : u.hyphenated.length = 36 := by
  simp [Uuid.hyphenated, length_hexBytes]

theorem length_toText_le {family : Family} (id : Id family) : id.toText.length ≤ 45 := by
  unfold Id.toText
  rw [String.length_append, String.length_ofList, length_hyphenated]
  cases family <;> decide

abbrev RevisionId := Id .revision
abbrev RecallNeedId := Id .recallNeed
abbrev PresentationAttemptId := Id .presentationAttempt
abbrev ExecutionLaneId := Id .executionLane
abbrev TaskId := Id .task
abbrev WorkstreamId := Id .workstream
abbrev RepositoryId := Id .repository
abbrev WorktreeId := Id .worktree
abbrev AttemptId := Id .attempt
abbrev WorktreeSnapshotId := Id .worktreeSnapshot
abbrev WorkBindingRevisionId := Id .workBindingRevision
abbrev ScopeEffectId := Id .scopeEffect
abbrev CaptureReceiptId := Id .captureReceipt
abbrev CaptureOutageIntervalId := Id .captureOutageInterval
abbrev OperationId := Id .operation
abbrev WorktreeTransitionId := Id .worktreeTransition
abbrev IntegrationEventId := Id .integrationEvent
abbrev WorkEpisodeId := Id .workEpisode
abbrev OperationBurstId := Id .operationBurst
abbrev CompetingAttemptGroupId := Id .competingAttemptGroup
abbrev ExperimentRunId := Id .experimentRun
abbrev WorkArtifactId := Id .workArtifact
abbrev DuplicateGroupId := Id .duplicateGroup
abbrev AtomId := Id .atom
abbrev ProcedureId := Id .procedure
abbrev CoreMembershipId := Id .coreMembership
abbrev RevisionProposalId := Id .revisionProposal
abbrev ProcedureUsageId := Id .procedureUsage
abbrev ProcedureNegativeEvidenceId := Id .procedureNegativeEvidence
abbrev ResultEvidenceId := Id .resultEvidence
abbrev RecoveryCaptureRequestId := Id .recoveryCaptureRequest
abbrev RecoveryBundleId := Id .recoveryBundle
abbrev RecoveryApplicationId := Id .recoveryApplication
abbrev JobId := Id .job
abbrev CommandId := Id .command

/-! ## Reading ids -/

/-- What follows the family and its separator. No family name holds a colon, so the first colon is that of `tag`.
mirrors evertrace-domain/src/ids.rs:32-43 -/
def splitFamily (tag value : String) : Option (List Char) :=
  if tag.toList.isPrefixOf value.toList then some (value.toList.drop tag.length) else none

def isLowerHexChar (c : Char) : Bool := ('0' ≤ c && c ≤ '9') || ('a' ≤ c && c ≤ 'f')

/-- The number that hexadecimal digits in lower case write. -/
def hexNat (digits : List Char) : Nat :=
  digits.foldl (fun n c => 16 * n + (if c ≤ '9' then c.toNat - 48 else c.toNat - 87)) 0

/-- `get_version_num`: the high half of byte 6. -/
def Uuid.versionNum (u : Uuid) : Nat := u.val / 2 ^ 76 % 16

/-- `get_variant() == Variant::RFC4122`: byte 8 starts with the bits 10. -/
def Uuid.isRfc4122 (u : Uuid) : Bool := u.val / 2 ^ 62 % 4 == 2

/-- Only the hyphenated form passes.
mirrors evertrace-domain/src/ids.rs:45-63 -/
def parseUuidPayload (payload : List Char) : Option Uuid :=
  let uuid : Uuid := Fin.ofNat (2 ^ 128) (hexNat (payload.filter (· != '-')))
  if uuid.versionNum == 7 && uuid.isRfc4122 && uuid.hyphenated == payload then some uuid else none

/-- `FromStr` of an id.
mirrors evertrace-domain/src/ids.rs:110-117, 166-172 -/
def Id.fromStr {family : Family} (value : String) : Option (Id family) := do
  let payload ← splitFamily family.tag value
  let uuid ← parseUuidPayload payload
  return ⟨uuid⟩

/-- The `digest_id!` families used here. -/
inductive DigestFamily where
  | sourceObservation
  | hostOccurrence
  | sourceReceipt
  | coreProjection
  | scenario
  | cas
  deriving DecidableEq, Repr

/-- The text before the digest, separator included.
mirrors evertrace-domain/src/ids.rs:254-256, 288-289 -/
def DigestFamily.tag : DigestFamily → String
  | .sourceObservation => "obs:"
  | .hostOccurrence => "occ:"
  | .sourceReceipt => "src:"
  | .coreProjection => "core:"
  | .scenario => "scenario:"
  | .cas => "cas:"

/-- A `digest_id!`: 32 bytes read as a big-endian number, which is also their order. -/
structure DigestId (family : DigestFamily) where
  digest : Fin (2 ^ 256)
  deriving DecidableEq

instance {family : DigestFamily} : LinearOrder (DigestId family) :=
  LinearOrder.lift' DigestId.digest fun _ _ h => (DigestId.mk.injEq _ _).mpr h

abbrev SourceObservationId := DigestId .sourceObservation
abbrev HostOccurrenceId := DigestId .hostOccurrence
abbrev SourceReceiptId := DigestId .sourceReceipt
abbrev CoreProjectionId := DigestId .coreProjection
abbrev ScenarioId := DigestId .scenario
abbrev CasId := DigestId .cas

/-- `from_digest`: 32 bytes read as a number. -/
def DigestId.fromDigest {family : DigestFamily} (d : Digest) : DigestId family :=
  ⟨⟨beNat d.bytes, by have h := beNat_lt d.bytes; rw [d.length_eq] at h; exact h⟩⟩

/-- `as_digest`: the 32 bytes of the id. -/
def DigestId.asDigest {family : DigestFamily} (id : DigestId family) : Bytes := beBytes 32 id.digest.val

/-- `Display` of a digest id.
mirrors evertrace-domain/src/ids.rs:227-231 -/
def DigestId.toText {family : DigestFamily} (id : DigestId family) : String :=
  family.tag ++ String.ofList (hexBytes id.asDigest)

/-- `FromStr` of a digest id.
mirrors evertrace-domain/src/ids.rs:65-79, 218-225 -/
def DigestId.fromStr {family : DigestFamily} (value : String) : Option (DigestId family) := do
  let payload ← splitFamily family.tag value
  if payload.length == 64 && payload.all isLowerHexChar then
    some ⟨Fin.ofNat (2 ^ 256) (hexNat payload)⟩
  else none

theorem hexDigit_inj {m n : Nat} (hm : m < 16) (hn : n < 16) (h : hexDigit m = hexDigit n) : m = n := by
  revert h
  revert n
  revert m
  decide

theorem hexBytes_inj : ∀ {a b : Bytes}, hexBytes a = hexBytes b → a = b
  | [], [], _ => rfl
  | [], y :: b, h => by simp [hexBytes] at h
  | x :: a, [], h => by simp [hexBytes] at h
  | x :: a, y :: b, h => by
    simp only [hexBytes, List.flatMap_cons, List.cons_append, List.nil_append, List.cons.injEq] at h
    obtain ⟨hhigh, hlow, hrest⟩ := h
    have hx := x.toNat_lt
    have hy := y.toNat_lt
    have hdiv := hexDigit_inj (by omega) (by omega) hhigh
    have hmod := hexDigit_inj (by omega) (by omega) hlow
    have hxy : x = y := by
      apply UInt8.toNat_inj.mp
      omega
    rw [hxy, hexBytes_inj hrest]

theorem hexBytes_append (a b : Bytes) : hexBytes (a ++ b) = hexBytes a ++ hexBytes b := List.flatMap_append

theorem hexDigit_ne_hyphen {n : Nat} (h : n < 16) : hexDigit n ≠ '-' := by
  revert h
  revert n
  decide

theorem filter_hexBytes (b : Bytes) : (hexBytes b).filter (· != '-') = hexBytes b := by
  refine List.filter_eq_self.mpr fun c hc => ?_
  obtain ⟨x, -, hc⟩ := List.mem_flatMap.mp hc
  have hx := x.toNat_lt
  have hne : c ≠ '-' := by
    rcases List.mem_cons.mp hc with rfl | hc
    · exact hexDigit_ne_hyphen (by omega)
    · rw [List.mem_singleton.mp hc]
      exact hexDigit_ne_hyphen (by omega)
  exact bne_iff_ne.mpr hne

theorem groups_eq (b : Bytes) :
    b.take 4 ++ ((b.drop 4).take 2 ++ ((b.drop 6).take 2 ++ ((b.drop 8).take 2 ++ b.drop 10))) = b := by
  have hgroup : ∀ n, (b.drop n).take 2 ++ b.drop (n + 2) = b.drop n := by
    intro n
    rw [← List.drop_drop, List.take_append_drop]
  rw [hgroup 8, hgroup 6, hgroup 4, List.take_append_drop]

theorem filter_hyphenated (u : Uuid) : u.hyphenated.filter (· != '-') = hexBytes (beBytes 16 u.val) := by
  unfold Uuid.hyphenated
  generalize beBytes 16 u.val = b
  have hcons : ∀ l : List Char, ('-' :: l).filter (· != '-') = l.filter (· != '-') := fun _ => rfl
  conv_rhs => rw [← groups_eq b]
  simp only [List.append_assoc, List.cons_append, List.filter_append, hcons, filter_hexBytes, hexBytes_append]

theorem Id.toText_inj {family : Family} {a b : Id family} (h : a.toText = b.toText) : a = b := by
  unfold Id.toText at h
  have hlist : family.tag.toList ++ a.uuid.hyphenated = family.tag.toList ++ b.uuid.hyphenated := by
    have h := congrArg String.toList h
    rwa [String.toList_append, String.toList_append, String.toList_ofList, String.toList_ofList] at h
  have hfilter := congrArg (List.filter (· != '-')) (List.append_cancel_left hlist)
  rw [filter_hyphenated, filter_hyphenated] at hfilter
  have hbytes := hexBytes_inj hfilter
  have hval := beBytes_inj (by have h := a.uuid.isLt; omega) (by have h := b.uuid.isLt; omega) hbytes
  cases a
  cases b
  rw [Id.mk.injEq]
  exact Fin.ext hval

theorem DigestId.toText_inj {family : DigestFamily} {a b : DigestId family} (h : a.toText = b.toText) :
    a = b := by
  unfold DigestId.toText at h
  have hlist : family.tag.toList ++ hexBytes a.asDigest = family.tag.toList ++ hexBytes b.asDigest := by
    have h := congrArg String.toList h
    rwa [String.toList_append, String.toList_append, String.toList_ofList, String.toList_ofList] at h
  have hdigest := hexBytes_inj (List.append_cancel_left hlist)
  have ha : a.digest.val < 256 ^ 32 := by have h := a.digest.isLt; omega
  have hb : b.digest.val < 256 ^ 32 := by have h := b.digest.isLt; omega
  have hval := beBytes_inj ha hb hdigest
  cases a
  cases b
  rw [DigestId.mk.injEq]
  exact Fin.ext hval

theorem DigestId.fromDigest_inj {family : DigestFamily} {c d : Digest}
    (h : (DigestId.fromDigest c : DigestId family) = DigestId.fromDigest d) : c = d := by
  have hval : beNat c.bytes = beNat d.bytes := by
    have h := congrArg (fun id => id.digest.val) h
    exact h
  have hbytes : c.bytes = d.bytes := by
    rw [← beBytes_beNat c.bytes, ← beBytes_beNat d.bytes, hval, c.length_eq, d.length_eq]
  cases c
  cases d
  cases hbytes
  rfl

end EverTrace.L1
