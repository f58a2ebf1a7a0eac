import EverTrace.Lib.SqlMeaning
import EverTrace.Lib.Text
import EverTrace.L2Machine.Rows
import EverTrace.L2Machine.Search
import Mathlib.Data.Finset.Sort
/-!
# The search filter (`evertrace-store/src/search.rs`, `evertrace-engine/src/search/production.rs`)

`search_inner` builds a filter from the context; the store writes it as an SQL
condition and asks the index with it, before the rows that come back are tested again in
memory (`hardCompatible`). `filterSql` is that text, word for word.

`filterSql_parse`: the text is the condition `condition`, whatever the texts in it are.
-/
namespace EverTrace.L2.Search
open EverTrace.Lib EverTrace.L1
open EverTrace.L2.Store (StoreError)

/-! ## Rows that may be stored -/

/-- mirrors evertrace-store/src/search.rs:25 -/
def searchCheckpointId : String := "checkpoint:evertrace_search"

def searchProjectionGeneration : Nat := 1

def isHex64 (value : String) : Bool :=
  (utf8 value).length == 64 && value.toList.all fun c => c.isDigit || ('a' ≤ c && c ≤ 'f') || ('A' ≤ c && c ≤ 'F')

/-- The families of `AnyPublicId` whose payload is a UUID. -/
def uuidFamilies : List String :=
  ["cap:", "outage:", "op:", "se:", "wb:", "repo:", "wt:", "wts:", "wtt:", "int:", "recreq:", "rec:", "recapp:", "task:",
    "ws:", "lane:", "ep:", "burst:", "att:", "cmp:", "run:", "result:", "atom:", "proc:", "proposal:", "coremem:", "sdig:",
    "srun:", "art:", "dup:"]

/-- The families of `AnyPublicId` whose payload is a digest. -/
def digestFamilies : List String := ["obs:", "occ:", "src:", "wiki:", "core:", "scenario:", "cas:"]

/-- mirrors evertrace-domain/src/ids.rs:451-499 -/
def anyPublicId (value : String) : Bool :=
  uuidFamilies.any (fun tag => ((splitFamily tag value).bind parseUuidPayload).isSome)
    || digestFamilies.any fun tag =>
      (splitFamily tag value).any fun payload => payload.length == 64 && payload.all isLowerHexChar

/-- mirrors evertrace-store/src/search.rs:780-783 -/
def validUuid (value : String) : Bool := (Id.fromStr value : Option RevisionId).isSome || anyPublicId value

def validEntityRef (value : String) : Bool := validUuid value

/-- mirrors evertrace-store/src/search.rs:765-770 -/
def validSourceRole (value : Option String) : Bool :=
  [some "user", some "assistant", some "tool", some "host", some "imported"].contains value

def validCaptureCompleteness (value : Option String) : Bool :=
  [some "complete", some "partial", some "opaque"].contains value

/-- `value.parse::<u32>().ok()`: digits, which a plus sign may precede, of a number that fits. -/
def parseU32 (text : List Char) : Option Nat :=
  let digits := match text with
    | '+' :: rest => rest
    | text => text
  if digits ≠ [] ∧ digits.all Char.isDigit ∧ Nat.ofDigitChars 10 digits 0 < 2 ^ 32 then some (Nat.ofDigitChars 10 digits 0)
  else none

/-- The text before the last colon and the text after it. -/
def rsplitColon (text : List Char) : Option (List Char × List Char) :=
  (splitOnce [':'] text.reverse).map fun (last, before) => (before.reverse, last.reverse)

/-- The hash at the end of the candidate of an evidence surface, behind the source reference and a positive number.
mirrors evertrace-store/src/search.rs:721-729 -/
def spanHash (sourceRef candidate : String) : Option String := do
  let (before, span) ← rsplitColon candidate.toList
  let (source, number) ← rsplitColon before
  let value ← parseU32 number
  if isHex64 (String.ofList span) && 0 < value && String.ofList source == sourceRef then some (String.ofList span) else none

/-- mirrors evertrace-store/src/search.rs:789-816 -/
def validObjectMetadata (row : SearchProjectionRow) : Bool :=
  [none, some "observed", some "current", some "evidence", some "not_applicable", some "unverified", some "supported",
      some "derived", some "disputed", some "refuted"].contains row.epistemic
    && [none, some "none", some "user_explicit", some "objective_evidence", some "agent_inferred", some "imported_claim",
      some "project_policy"].contains row.authority
    && match row.timeDomain with
      | "none" => row.eventTimeUs == 0 && row.sourceSequence == 0
      | "event_time" => 0 < row.eventTimeUs && row.sourceSequence == 0
      | "source_sequence" => 0 < row.sourceSequence && row.eventTimeUs == 0
      | _ => false

/-- mirrors evertrace-store/src/search.rs:642-663 -/
def checkpointShape (row : SearchProjectionRow) : Bool :=
  [row.candidateId, row.sourceRef, row.sourceKind, row.sourceRole, row.contentTrust, row.captureCompleteness,
      row.objectKind, row.currentness, row.lifecycle, row.epistemic, row.authority, row.taskId, row.repositoryId,
      row.worktreeId, row.suppressionRefHash].all Option.isNone
    && row.text == "" && row.rowVariant == "checkpoint" && row.eventTimeUs == 0 && row.recordedAtUs == 0
    && row.sourceSequence == 0 && row.timeDomain == "none" && row.retrievalCompleteness == "complete"

def objectKinds : List (Option String) :=
  [some "atom_revision", some "task", some "workstream", some "attempt", some "experiment_run", some "result_evidence",
    some "work_artifact", some "scenario", some "core_membership", some "global_support_contract",
    some "global_support_validation", some "procedure_revision", some "revision_proposal_revision", some "semantic_digest",
    some "wiki_projection"]

/-- mirrors evertrace-store/src/search.rs:675-715 -/
def objectShape (row : SearchProjectionRow) : Bool :=
  row.sourceKind == some "object_projection"
    && objectKinds.contains row.objectKind
    && [some "current", some "historical"].contains row.currentness
    && [some "active", some "terminal", some "unknown"].contains row.lifecycle
    && "search:object:".toList.isPrefixOf row.rowId.toList
    && row.candidateId.any validEntityRef
    && row.sourceRef.any validEntityRef
    && row.sourceRole.isNone && row.contentTrust.isNone && row.captureCompleteness.isNone && row.suppressionRefHash.isNone
    && validObjectMetadata row

/-- mirrors evertrace-store/src/search.rs:720-754 -/
def surfaceShape (row : SearchProjectionRow) : Bool :=
  row.sourceKind == some "evidence_surface"
    && validUuid (row.sourceRef.getD "")
    && (spanHash (row.sourceRef.getD "") (row.candidateId.getD "")).any (fun span =>
      row.rowId == "search:evidence:" ++ row.sourceRef.getD "" ++ ":" ++ span)
    && validSourceRole row.sourceRole
    && [some "user_statement", some "observed", some "agent_claim", some "imported_claim",
      some "untrusted_source_content"].contains row.contentTrust
    && validCaptureCompleteness row.captureCompleteness
    && row.suppressionRefHash.any isHex64
    && row.objectKind.isNone && row.currentness.isNone && row.lifecycle.isNone && row.epistemic.isNone
    && row.authority.isNone

/-- mirrors evertrace-store/src/search.rs:628-761 -/
def SearchProjectionRow.validate (row : SearchProjectionRow) : Except StoreError Unit := do
  ensure .storeCorrupt (row.rowId != ""
    && row.projectionGeneration == searchProjectionGeneration
    && row.instructionAuthority == "none"
    && 0 ≤ row.eventTimeUs
    && 0 ≤ row.recordedAtUs
    && ["none", "event_time", "source_sequence"].contains row.timeDomain
    && ["complete", "partial"].contains row.retrievalCompleteness)
  if row.rowId = searchCheckpointId then ensure .storeCorrupt (checkpointShape row)
  else do
    ensure .storeCorrupt (row.candidateId.any (· != "") && row.sourceRef.any (· != "") && row.sourceKind.any (· != "")
      && row.text != "" && (utf8 row.text).length ≤ 16 * 1024)
    if row.rowVariant = "object" then ensure .storeCorrupt (objectShape row)
    else if row.rowVariant = "evidence_surface" then ensure .storeCorrupt (surfaceShape row)
    else .error .storeCorrupt

/-! ## The filter and its text -/

/-- mirrors evertrace-store/src/search.rs:42-61; a set of texts is a finite set -/
structure SearchHardFilter where
  procedureRevisions : Option (Finset String)
  methodProposalRevisions : Finset String
  taskId : Option String
  repositoryId : Option String
  worktreeId : Option String
  sourceKind : Option String
  sourceRole : Option String
  authority : Option String
  lifecycle : Option String
  objectOnly : Bool
  currentOnly : Bool
  suppressedHashes : Finset String
  suppressedRefs : Finset String
  eventTimeAsOf : Option Int
  eventTimeInterval : Option (Int × Int)
  sourceSequenceAtMost : Option Nat

/-- mirrors evertrace-store/src/search.rs:561-563 -/
def sqlLiteral (value : String) : String :=
  "'" ++ String.ofList (value.toList.flatMap fun c => if c = '\'' then ['\'', '\''] else [c]) ++ "'"

/-- The texts of a set in their order, quoted, with commas between them. -/
def literals (values : Finset String) : String := ", ".intercalate ((values.sort (· ≤ ·)).map sqlLiteral)

/-- Rows of a kind need a candidate from the set.
mirrors evertrace-store/src/search.rs:453-485 -/
def revisionClause (kind : String) (revisions : Finset String) : String :=
  let allowed := if revisions = ∅ then "FALSE" else "candidate_id IN (" ++ literals revisions ++ ")"
  "(object_kind IS NULL OR object_kind != '" ++ kind ++ "' OR (" ++ allowed ++ "))"

def equalsClause (column value : String) : String := column ++ " = " ++ sqlLiteral value

/-- mirrors evertrace-store/src/search.rs:492-502 -/
def scopeClauses (filter : SearchHardFilter) : List String :=
  let scope := [("task_id", filter.taskId), ("repository_id", filter.repositoryId),
    ("worktree_id", filter.worktreeId)].filterMap fun (column, value) => value.map (equalsClause column)
  if scope = [] then [] else ["(" ++ " OR ".intercalate scope ++ ")"]

/-- mirrors evertrace-store/src/search.rs:513-534 -/
def suppressionClauses (filter : SearchHardFilter) : List String :=
  (if filter.suppressedHashes = ∅ then [] else
    ["(suppression_ref_hash IS NULL OR suppression_ref_hash NOT IN (" ++ literals filter.suppressedHashes ++ "))"])
  ++ if filter.suppressedRefs = ∅ then [] else
    ["candidate_id NOT IN (" ++ literals filter.suppressedRefs ++ ") AND source_ref NOT IN ("
      ++ literals filter.suppressedRefs ++ ")"]

/-- mirrors evertrace-store/src/search.rs:535-549 -/
def timeClauses (filter : SearchHardFilter) : List String :=
  filter.eventTimeAsOf.toList.map (fun atUs => "time_domain = 'event_time' AND event_time_us <= " ++ toString atUs)
    ++ filter.eventTimeInterval.toList.map (fun (startUs, endUs) =>
      "time_domain = 'event_time' AND event_time_us >= " ++ toString startUs ++ " AND event_time_us < " ++ toString endUs)
    ++ filter.sourceSequenceAtMost.toList.map fun sequence =>
      "time_domain = 'source_sequence' AND source_sequence <= " ++ toString sequence

/-- mirrors evertrace-store/src/search.rs:452-549, without the last line -/
def clausesOf (filter : SearchHardFilter) : List String :=
  ["row_variant != 'checkpoint'", revisionClause "revision_proposal_revision" filter.methodProposalRevisions]
    ++ filter.procedureRevisions.toList.map (revisionClause "procedure_revision")
    ++ (if filter.objectOnly then ["row_variant = 'object'"] else [])
    ++ (if filter.currentOnly then ["currentness = 'current'"] else [])
    ++ scopeClauses filter
    ++ ([("source_kind", filter.sourceKind), ("source_role", filter.sourceRole), ("authority", filter.authority),
      ("lifecycle", filter.lifecycle)].filterMap fun (column, value) => value.map (equalsClause column))
    ++ suppressionClauses filter
    ++ timeClauses filter

/-- mirrors evertrace-store/src/search.rs:451-551 -/
def filterSql (filter : SearchHardFilter) : Option String := some (" AND ".intercalate (clausesOf filter))

/-- The lifecycle that a boundary asks for.
mirrors evertrace-engine/src/search/production.rs:132-136 -/
def LifecycleBoundary.required : LifecycleBoundary → Option String
  | .active => some "active"
  | .terminal => some "terminal"
  | .any => none

/-- The filter that is built from a context.
mirrors evertrace-engine/src/search/production.rs:118-159 -/
def hardFilter (procedureRevisions : Option (Finset String)) (methodProposalRevisions : Finset String)
    (context : SearchContext) (suppressedHashes : Finset String) : SearchHardFilter where
  procedureRevisions := procedureRevisions
  methodProposalRevisions := methodProposalRevisions
  taskId := context.taskId.map Id.toText
  repositoryId := context.repositoryId.map Id.toText
  worktreeId := context.worktreeId.map Id.toText
  sourceKind := none
  sourceRole := none
  authority := requiredAuthority context.queryFacets.sourceBoundary
  lifecycle := context.queryFacets.lifecycleBoundary.required
  objectOnly := true
  currentOnly := currentOnly context
  suppressedHashes := suppressedHashes
  suppressedRefs := suppressedHashes
  eventTimeAsOf := match context.queryFacets.temporalQualifiers with
    | [.eventTimeAsOf atUs] => some atUs
    | _ => none
  eventTimeInterval := match context.queryFacets.temporalQualifiers with
    | [.eventTimeInterval startUs endUs] => some (startUs, endUs)
    | _ => none
  sourceSequenceAtMost := match context.queryFacets.temporalQualifiers with
    | [.sourceSequenceAtMost sequence] => some sequence
    | _ => none

/-! ## The table -/

/-- mirrors evertrace-store/src/search.rs:821-850 -/
inductive Column where
  | rowId
  | rowVariant
  | candidateId
  | sourceRef
  | sourceKind
  | text
  | sourceRole
  | contentTrust
  | captureCompleteness
  | instructionAuthority
  | objectKind
  | currentness
  | lifecycle
  | epistemic
  | authority
  | taskId
  | repositoryId
  | worktreeId
  | eventTimeUs
  | recordedAtUs
  | sourceSequence
  | timeDomain
  | retrievalCompleteness
  | suppressionRefHash
  | sourceEventSeq
  | projectionGeneration
  deriving DecidableEq, Repr

def Column.name : Column → String
  | .rowId => "row_id"
  | .rowVariant => "row_variant"
  | .candidateId => "candidate_id"
  | .sourceRef => "source_ref"
  | .sourceKind => "source_kind"
  | .text => "text"
  | .sourceRole => "source_role"
  | .contentTrust => "content_trust"
  | .captureCompleteness => "capture_completeness"
  | .instructionAuthority => "instruction_authority"
  | .objectKind => "object_kind"
  | .currentness => "currentness"
  | .lifecycle => "lifecycle"
  | .epistemic => "epistemic"
  | .authority => "authority"
  | .taskId => "task_id"
  | .repositoryId => "repository_id"
  | .worktreeId => "worktree_id"
  | .eventTimeUs => "event_time_us"
  | .recordedAtUs => "recorded_at_us"
  | .sourceSequence => "source_sequence"
  | .timeDomain => "time_domain"
  | .retrievalCompleteness => "retrieval_completeness"
  | .suppressionRefHash => "suppression_ref_hash"
  | .sourceEventSeq => "source_event_seq"
  | .projectionGeneration => "projection_generation"

def Column.all : List Column :=
  [.rowId, .rowVariant, .candidateId, .sourceRef, .sourceKind, .text, .sourceRole, .contentTrust, .captureCompleteness,
    .instructionAuthority, .objectKind, .currentness, .lifecycle, .epistemic, .authority, .taskId, .repositoryId,
    .worktreeId, .eventTimeUs, .recordedAtUs, .sourceSequence, .timeDomain, .retrievalCompleteness, .suppressionRefHash,
    .sourceEventSeq, .projectionGeneration]

/-- mirrors evertrace-store/src/search.rs:821-850 -/
def searchSchema : Sql.Schema Column where
  name column := column.name.toList
  resolve word := Column.all.find? fun column => column.name.toList == word
  resolve_name column := by cases column <;> decide
  plain column := by
    cases column
    all_goals exact ⟨⟨_, _, rfl, by decide⟩, List.all_eq_true.mp (by decide), by decide⟩

/-- A row as the table has it; what is missing is `NULL`.
mirrors evertrace-store/src/search.rs:852-927 -/
def SearchProjectionRow.columns (row : SearchProjectionRow) : Sql.Row Column
  | .rowId => some (.text row.rowId)
  | .rowVariant => some (.text row.rowVariant)
  | .candidateId => row.candidateId.map .text
  | .sourceRef => row.sourceRef.map .text
  | .sourceKind => row.sourceKind.map .text
  | .text => some (.text row.text)
  | .sourceRole => row.sourceRole.map .text
  | .contentTrust => row.contentTrust.map .text
  | .captureCompleteness => row.captureCompleteness.map .text
  | .instructionAuthority => some (.text row.instructionAuthority)
  | .objectKind => row.objectKind.map .text
  | .currentness => row.currentness.map .text
  | .lifecycle => row.lifecycle.map .text
  | .epistemic => row.epistemic.map .text
  | .authority => row.authority.map .text
  | .taskId => row.taskId.map .text
  | .repositoryId => row.repositoryId.map .text
  | .worktreeId => row.worktreeId.map .text
  | .eventTimeUs => some (.number row.eventTimeUs)
  | .recordedAtUs => some (.number row.recordedAtUs)
  | .sourceSequence => some (.number row.sourceSequence)
  | .timeDomain => some (.text row.timeDomain)
  | .retrievalCompleteness => some (.text row.retrievalCompleteness)
  | .suppressionRefHash => row.suppressionRefHash.map .text
  | .sourceEventSeq => some (.number row.sourceEventSeq)
  | .projectionGeneration => some (.number row.projectionGeneration)

/-! ## The filter as a condition -/

open Sql (Conjunction Disjunction Atom equals among)

/-- One of the texts of a set; of none, nothing is. -/
def memberTest (column : Column) (negated : Bool) (values : Finset String) : Atom Column :=
  match values.sort (· ≤ ·) with
  | [] => .constant negated
  | first :: rest => among column negated first rest

def revisionPart (kind : String) (revisions : Finset String) : Conjunction Column :=
  (Disjunction.any (Atom.isNull .objectKind false).condition
    [(Atom.compare .objectKind .ne (.text kind)).condition,
      (Disjunction.single (memberTest .candidateId false revisions).condition).condition]).condition

def equalsParts (values : List (Column × Option String)) : List (Conjunction Column) :=
  values.filterMap fun (column, value) => value.map fun value => (equals column value).condition

def scopeParts (filter : SearchHardFilter) : List (Conjunction Column) :=
  match equalsParts [(.taskId, filter.taskId), (.repositoryId, filter.repositoryId), (.worktreeId, filter.worktreeId)] with
  | [] => []
  | first :: rest => [(Disjunction.any first rest).condition]

def suppressionParts (filter : SearchHardFilter) : List (Conjunction Column) :=
  (if filter.suppressedHashes = ∅ then [] else
    [(Disjunction.any (Atom.isNull .suppressionRefHash false).condition
      [(memberTest .suppressionRefHash true filter.suppressedHashes).condition]).condition])
  ++ if filter.suppressedRefs = ∅ then [] else
    [(memberTest .candidateId true filter.suppressedRefs).condition.append
      (memberTest .sourceRef true filter.suppressedRefs).condition]

def timeParts (filter : SearchHardFilter) : List (Conjunction Column) :=
  filter.eventTimeAsOf.toList.map (fun atUs => (equals .timeDomain "event_time").condition.append
      (Atom.compare .eventTimeUs .le (.number atUs.toNat)).condition)
    ++ filter.eventTimeInterval.toList.map (fun (startUs, endUs) => (equals .timeDomain "event_time").condition.append
      ((Atom.compare .eventTimeUs .ge (.number startUs.toNat)).condition.append
        (Atom.compare .eventTimeUs .lt (.number endUs.toNat)).condition))
    ++ filter.sourceSequenceAtMost.toList.map fun sequence => (equals .timeDomain "source_sequence").condition.append
      (Atom.compare .sourceSequence .le (.number sequence)).condition

def partsOf (filter : SearchHardFilter) : List (Conjunction Column) :=
  [revisionPart "revision_proposal_revision" filter.methodProposalRevisions]
    ++ filter.procedureRevisions.toList.map (revisionPart "procedure_revision")
    ++ (if filter.objectOnly then [(equals .rowVariant "object").condition] else [])
    ++ (if filter.currentOnly then [(equals .currentness "current").condition] else [])
    ++ scopeParts filter
    ++ equalsParts [(.sourceKind, filter.sourceKind), (.sourceRole, filter.sourceRole), (.authority, filter.authority),
      (.lifecycle, filter.lifecycle)]
    ++ suppressionParts filter
    ++ timeParts filter

/-- The condition that the text of a filter writes. -/
def condition (filter : SearchHardFilter) : Conjunction Column :=
  (Atom.compare .rowVariant .ne (.text "checkpoint")).condition.all (partsOf filter)

/-! ### The text is the condition's -/

theorem sqlLiteral_toList (value : String) : (sqlLiteral value).toList = Sql.quote value.toList := by
  simp [sqlLiteral, Sql.quote, Sql.escape]

theorem listText_eq (first : String) (rest : List String) :
    Sql.listText (.text first) (rest.map .text) = (", ".intercalate ((first :: rest).map sqlLiteral)).toList := by
  have hjoin : ∀ first : List Char, ∀ rest : List (List Char),
      first ++ rest.flatMap (fun text => ',' :: ' ' :: text) = [',', ' '].intercalate (first :: rest) := by
    intro first rest
    induction rest generalizing first with
    | nil => simp
    | cons next rest ih =>
      rw [List.flatMap_cons, List.intercalate_cons_cons, ← ih next]
      simp
  have hscalars : (rest.map Sql.Scalar.text).flatMap (fun scalar => ',' :: ' ' :: scalar.token.text)
      = (rest.map fun value => (sqlLiteral value).toList).flatMap fun text => ',' :: ' ' :: text := by
    rw [List.flatMap_map, List.flatMap_map]
    exact List.flatMap_congr fun value _ => by rw [sqlLiteral_toList]; rfl
  rw [Sql.listText, hscalars, String.toList_intercalate, List.map_map]
  have hfirst : (Sql.Scalar.text first).token.text = (sqlLiteral first).toList := (sqlLiteral_toList first).symm
  rw [hfirst, hjoin]
  rfl

theorem among_text (column : Column) (negated : Bool) (first : String) (rest : List String) :
    (among column negated first rest).text searchSchema
      = (column.name ++ (if negated then " NOT IN (" else " IN (") ++ ", ".intercalate ((first :: rest).map sqlLiteral)
        ++ ")").toList := by
  rw [among, Sql.Atom.text, listText_eq]
  cases negated <;> simp [Sql.spell, Sql.negation, Sql.Token.text, Sql.Keyword.text, searchSchema]

theorem memberTest_text (column : Column) (negated : Bool) {values : Finset String} (h : values ≠ ∅) :
    (memberTest column negated values).text searchSchema
      = (column.name ++ (if negated then " NOT IN (" else " IN (") ++ literals values ++ ")").toList := by
  unfold memberTest literals
  cases hsort : values.sort (· ≤ ·) with
  | nil =>
    have hempty : values = ∅ := by
      rw [← Finset.sort_toFinset values (· ≤ ·), hsort]
      rfl
    exact absurd hempty h
  | cons first rest => exact among_text column negated first rest

theorem equals_text (column : Column) (value : String) :
    (equals column value).text searchSchema = (equalsClause column.name value).toList := by
  rw [equalsClause, String.toList_append, String.toList_append, sqlLiteral_toList]
  simp [equals, Sql.Atom.text, Sql.Atom.tokens, Sql.spell, Sql.Token.text, Sql.Comparison.mark, Sql.Mark.text,
    Sql.Scalar.token, searchSchema]

theorem number_text (column : Column) (comparison : Sql.Comparison) (value : Nat) :
    (Atom.compare column comparison (.number value)).text searchSchema
      = (column.name ++ " " ++ comparison.mark.text ++ " " ++ toString value).toList := by
  simp [Sql.Atom.text, Sql.Atom.tokens, Sql.spell, Sql.Token.text, Sql.Scalar.token, searchSchema]

theorem toString_toNat {value : Int} (h : 0 ≤ value) : toString value.toNat = toString value := by
  obtain ⟨n, rfl⟩ := Int.eq_ofNat_of_zero_le h
  rfl

theorem revision_text {kind : String} (hkind : Sql.escape kind.toList = kind.toList) (revisions : Finset String) :
    (revisionPart kind revisions).text searchSchema = (revisionClause kind revisions).toList := by
  have hallowed : (memberTest .candidateId false revisions).text searchSchema
      = (if revisions = ∅ then "FALSE" else "candidate_id IN (" ++ literals revisions ++ ")").toList := by
    by_cases h : revisions = ∅
    · subst h
      rw [if_pos rfl, memberTest, Finset.sort_empty]
      rfl
    · rw [if_neg h, memberTest_text _ _ h]
      simp [Column.name]
  have hnull : (Atom.isNull Column.objectKind false).text searchSchema = "object_kind IS NULL".toList := rfl
  have hkinds : (Atom.compare Column.objectKind .ne (.text kind)).text searchSchema
      = ("object_kind != '" ++ kind ++ "'").toList := by
    have hhead : "object_kind != '".toList = "object_kind".toList ++ ' ' :: ("!=".toList ++ [' ', '\'']) := by decide
    have hquote : "'".toList = ['\''] := by decide
    rw [Sql.Atom.text_compare, String.toList_append, String.toList_append, hhead, hquote]
    simp only [searchSchema, Column.name, Sql.Comparison.mark, Sql.Mark.text, Sql.Scalar.token, Sql.Token.text, Sql.quote,
      hkind, List.append_assoc, List.cons_append, List.nil_append]
  have hopen : "(object_kind IS NULL OR object_kind != '".toList
      = '(' :: ("object_kind IS NULL".toList ++ (" OR ".toList ++ "object_kind != '".toList)) := by decide
  have hor : "' OR (".toList = "'".toList ++ (" OR ".toList ++ ['(']) := by decide
  have hclose : "))".toList = [')', ')'] := by decide
  have hclause : (revisionClause kind revisions).toList
      = ("(object_kind IS NULL OR object_kind != '" ++ kind ++ "' OR ("
        ++ (if revisions = ∅ then "FALSE" else "candidate_id IN (" ++ literals revisions ++ ")") ++ "))").toList := rfl
  rw [hclause, String.toList_append, String.toList_append, String.toList_append, String.toList_append, hopen, hor, hclose,
    revisionPart, Sql.Disjunction.text_condition, Sql.Disjunction.text_any]
  rw [String.toList_append, String.toList_append] at hkinds
  simp only [List.map_cons, List.map_nil, Sql.Atom.text_condition, Sql.Disjunction.text_condition, Sql.Disjunction.text,
    hallowed, hnull, hkinds, List.intercalate_cons_cons, List.intercalate_singleton, List.append_assoc, List.cons_append,
    List.nil_append]

theorem equalsParts_text (values : List (Column × Option String)) :
    (equalsParts values).map (Conjunction.text searchSchema)
      = (values.filterMap fun (column, value) => value.map (equalsClause column.name)).map String.toList := by
  unfold equalsParts
  rw [List.map_filterMap, List.map_filterMap]
  refine List.filterMap_congr fun entry _ => ?_
  obtain ⟨column, value⟩ := entry
  cases value with
  | none => rfl
  | some value => simp [equals_text]

theorem scopeParts_text (filter : SearchHardFilter) :
    (scopeParts filter).map (Conjunction.text searchSchema) = (scopeClauses filter).map String.toList := by
  have htexts := equalsParts_text [(.taskId, filter.taskId), (.repositoryId, filter.repositoryId),
    (.worktreeId, filter.worktreeId)]
  have hnames : ([(Column.taskId, filter.taskId), (.repositoryId, filter.repositoryId),
      (.worktreeId, filter.worktreeId)].filterMap fun (column, value) => value.map (equalsClause column.name))
      = [("task_id", filter.taskId), ("repository_id", filter.repositoryId), ("worktree_id", filter.worktreeId)].filterMap
        fun (column, value) => value.map (equalsClause column) := by
    simp only [List.filterMap_cons, List.filterMap_nil, Column.name]
  rw [hnames] at htexts
  unfold scopeParts scopeClauses
  dsimp only
  cases hparts : equalsParts [(.taskId, filter.taskId), (.repositoryId, filter.repositoryId),
      (.worktreeId, filter.worktreeId)] with
  | nil =>
    rw [hparts] at htexts
    rw [if_pos (List.map_eq_nil_iff.mp htexts.symm)]
    rfl
  | cons first rest =>
    rw [hparts] at htexts
    have hne : ([("task_id", filter.taskId), ("repository_id", filter.repositoryId),
        ("worktree_id", filter.worktreeId)].filterMap fun (column, value) => value.map (equalsClause column)) ≠ [] := by
      intro h
      rw [h] at htexts
      cases htexts
    rw [if_neg hne, List.map_singleton, List.map_singleton, Sql.Disjunction.text_condition, Sql.Disjunction.text_any, htexts]
    simp [String.toList_intercalate]

theorem suppressionParts_text (filter : SearchHardFilter) :
    (suppressionParts filter).map (Conjunction.text searchSchema) = (suppressionClauses filter).map String.toList := by
  have hnull : (Atom.isNull Column.suppressionRefHash false).text searchSchema = "suppression_ref_hash IS NULL".toList := rfl
  have hhashes : (if filter.suppressedHashes = ∅ then [] else
      [(Disjunction.any (Atom.isNull .suppressionRefHash false).condition
        [(memberTest .suppressionRefHash true filter.suppressedHashes).condition]).condition]).map
          (Conjunction.text searchSchema)
      = (if filter.suppressedHashes = ∅ then [] else ["(suppression_ref_hash IS NULL OR suppression_ref_hash NOT IN ("
        ++ literals filter.suppressedHashes ++ "))"]).map String.toList := by
    split
    · rfl
    · next h =>
      rw [List.map_singleton, List.map_singleton, Sql.Disjunction.text_condition, Sql.Disjunction.text_any]
      simp [hnull, memberTest_text _ _ h, Column.name, List.intercalate_cons_cons]
  have hrefs : (if filter.suppressedRefs = ∅ then [] else
      [(memberTest .candidateId true filter.suppressedRefs).condition.append
        (memberTest .sourceRef true filter.suppressedRefs).condition]).map (Conjunction.text searchSchema)
      = (if filter.suppressedRefs = ∅ then [] else ["candidate_id NOT IN (" ++ literals filter.suppressedRefs
        ++ ") AND source_ref NOT IN (" ++ literals filter.suppressedRefs ++ ")"]).map String.toList := by
    split
    · rfl
    · next h =>
      rw [List.map_singleton, List.map_singleton, Sql.Conjunction.text_append]
      simp [memberTest_text _ _ h, Column.name]
  rw [suppressionParts, suppressionClauses, List.map_append, List.map_append, hhashes, hrefs]

/-- The times of the filter are no negative numbers. -/
structure SearchHardFilter.Timed (filter : SearchHardFilter) : Prop where
  asOf : ∀ atUs ∈ filter.eventTimeAsOf, 0 ≤ atUs
  interval : ∀ times ∈ filter.eventTimeInterval, 0 ≤ times.1 ∧ 0 ≤ times.2

theorem timeParts_text {filter : SearchHardFilter} (htimed : filter.Timed) :
    (timeParts filter).map (Conjunction.text searchSchema) = (timeClauses filter).map String.toList := by
  have hequals : ∀ value : String, (equals Column.timeDomain value).text searchSchema
      = (equalsClause "time_domain" value).toList := fun value => equals_text .timeDomain value
  have hevent : (equalsClause "time_domain" "event_time").toList = "time_domain = 'event_time'".toList := by decide
  have hsource : (equalsClause "time_domain" "source_sequence").toList = "time_domain = 'source_sequence'".toList := by
    decide
  simp only [timeParts, timeClauses, List.map_append, List.map_map]
  congr 1
  · congr 1
    · refine List.map_congr_left fun atUs hmem => ?_
      have htime := htimed.asOf atUs (Option.mem_toList.mp hmem)
      simp only [Function.comp, Sql.Conjunction.text_append, Sql.Atom.text_condition, hequals, hevent, number_text,
        toString_toNat htime]
      simp [Column.name, Sql.Comparison.mark, Sql.Mark.text]
    · refine List.map_congr_left fun times hmem => ?_
      obtain ⟨hstart, hend⟩ := htimed.interval times (Option.mem_toList.mp hmem)
      simp only [Function.comp, Sql.Conjunction.text_append, Sql.Atom.text_condition, hequals, hevent, number_text,
        toString_toNat hstart, toString_toNat hend]
      simp [Column.name, Sql.Comparison.mark, Sql.Mark.text]
  · refine List.map_congr_left fun sequence _ => ?_
    simp only [Function.comp, Sql.Conjunction.text_append, Sql.Atom.text_condition, hequals, hsource, number_text]
    simp [Column.name, Sql.Comparison.mark, Sql.Mark.text]

theorem clausesOf_text {filter : SearchHardFilter} (htimed : filter.Timed) :
    ((Atom.compare .rowVariant .ne (.text "checkpoint")).condition :: partsOf filter).map (Conjunction.text searchSchema)
      = (clausesOf filter).map String.toList := by
  have hcheckpoint : (Atom.compare Column.rowVariant .ne (.text "checkpoint")).text searchSchema
      = "row_variant != 'checkpoint'".toList := by decide
  have hmethods := revision_text (show Sql.escape "revision_proposal_revision".toList = _ by decide)
    filter.methodProposalRevisions
  have hprocedures : (filter.procedureRevisions.toList.map (revisionPart "procedure_revision")).map
      (Conjunction.text searchSchema)
      = (filter.procedureRevisions.toList.map (revisionClause "procedure_revision")).map String.toList := by
    rw [List.map_map, List.map_map]
    exact List.map_congr_left fun revisions _ =>
      revision_text (show Sql.escape "procedure_revision".toList = _ by decide) revisions
  have hobject : (if filter.objectOnly then [(equals Column.rowVariant "object").condition] else []).map
      (Conjunction.text searchSchema)
      = (if filter.objectOnly then ["row_variant = 'object'"] else []).map String.toList := by
    have htext : (equals Column.rowVariant "object").text searchSchema = "row_variant = 'object'".toList := by decide
    split
    · rw [List.map_singleton, List.map_singleton, Sql.Atom.text_condition, htext]
    · rfl
  have hcurrent : (if filter.currentOnly then [(equals Column.currentness "current").condition] else []).map
      (Conjunction.text searchSchema)
      = (if filter.currentOnly then ["currentness = 'current'"] else []).map String.toList := by
    have htext : (equals Column.currentness "current").text searchSchema = "currentness = 'current'".toList := by decide
    split
    · rw [List.map_singleton, List.map_singleton, Sql.Atom.text_condition, htext]
    · rfl
  have hfields := equalsParts_text [(.sourceKind, filter.sourceKind), (.sourceRole, filter.sourceRole),
    (.authority, filter.authority), (.lifecycle, filter.lifecycle)]
  simp only [partsOf, clausesOf, List.map_append, List.map_cons, List.cons_append, List.nil_append,
    Sql.Atom.text_condition, hcheckpoint, hmethods, hprocedures, hobject, hcurrent, scopeParts_text, hfields,
    suppressionParts_text, timeParts_text htimed]
  rfl

/-- **The text of a filter is read as the filter's condition.** -/
theorem filterSql_parse {filter : SearchHardFilter} (htimed : filter.Timed) :
    (filterSql filter).bind (fun text => Sql.parse searchSchema text.toList) = some (.single (condition filter)) := by
  have htext : (" AND ".intercalate (clausesOf filter)).toList
      = (Disjunction.single (condition filter)).text searchSchema := by
    rw [Sql.Disjunction.text, condition, Sql.Conjunction.text_all, clausesOf_text htimed, String.toList_intercalate]
  rw [filterSql, Option.bind_some, htext, Sql.parse_text]

end EverTrace.L2.Search
