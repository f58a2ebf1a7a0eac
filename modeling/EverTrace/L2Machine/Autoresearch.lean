import EverTrace.L1Encoding.Canonical
import EverTrace.L2Machine.Constraint
import EverTrace.L2Machine.MetricDelta
import EverTrace.L2Machine.Work
/-!
# Experiment runs and their results (`evertrace-domain/src/work/autoresearch.rs`, `semantic.rs`)

A run states what it executes under two hashes of its contract, a result what was
measured in it and who verified that. These are the records that reviews of
harm, the choice among competing attempts and the effects of procedures read.
-/
namespace EverTrace.L2.Autoresearch
open EverTrace.Lib EverTrace.L1
open EverTrace.L1.Canonical (CanonicalValue)
open EverTrace.L2.Work (WorkError)
open EverTrace.L2.Semantic (SemanticError)
open EverTrace.L2.Procedure (ComparisonExecutionBinding MetricDirection)
open EverTrace.L2.Recall (hasControl strictlyIncreasing)

/-! ## Texts and lists -/

/-- `MAX_REFS` of both files -/
def maxRefs : Nat := 256

def maxFields : Nat := 128

/-- `MAX_TEXT` of both files -/
def maxText : Nat := 1024

/-- mirrors evertrace-domain/src/work/autoresearch.rs:911-913, semantic.rs:286-288 -/
def validText (value : String) : Bool :=
  (utf8 value ≠ [] && (utf8 value).length ≤ maxText) && !hasControl value

/-- mirrors evertrace-domain/src/work/autoresearch.rs:936-938 -/
def optionalText (value : Option String) : Bool := value.all validText

/-- mirrors evertrace-domain/src/work/autoresearch.rs:940-944 -/
def canonicalTexts (values : List String) : Bool :=
  values.length ≤ maxFields && values.all validText && strictlyIncreasing values

/-- mirrors evertrace-domain/src/work/autoresearch.rs:946-948, semantic.rs:294-296 -/
def canonicalUnique {α : Type} [LT α] [DecidableLT α] (values : List α) : Bool :=
  values.length ≤ maxRefs && strictlyIncreasing values

/-- mirrors evertrace-domain/src/semantic.rs:298-300 -/
def containsAll {α : Type} [DecidableEq α] (values required : List α) : Bool :=
  required.all fun value => values.contains value

/-- mirrors evertrace-domain/src/semantic.rs:302-304 -/
def strictSuperset {α : Type} [DecidableEq α] (current next : List α) : Bool :=
  current.length < next.length && containsAll next current

/-- A sign in front is neither a digit nor a dot.
mirrors evertrace-domain/src/work/autoresearch.rs:915-934 -/
def positiveDecimal (value : String) : Bool :=
  (!value.isEmpty && value.utf8ByteSize ≤ 64)
    && value.toList.all (fun c => c.isDigit || c == '.')
    && value.toList.count '.' ≤ 1
    && (value.toList.any fun c => c.isDigit && c != '0')
    && value.toList.head? != some '.'
    && value.toList.getLast? != some '.'
    && !(1 < value.utf8ByteSize && value.toList.head? == some '0' && !"0.".toList.isPrefixOf value.toList)
    && !(value.toList.contains '.' && value.toList.getLast? == some '0')

example : ["0.5", "10", "1.05"].all positiveDecimal ∧
    (["", "0", ".5", "5.", "007", "1.50", "-1", "1.2.3"].any positiveDecimal) = false := by
  decide

/-! ## Runs -/

/-- mirrors evertrace-domain/src/work/autoresearch.rs:122-127 -/
inductive RunOrigin where
  | local_
  | external
  deriving DecidableEq

/-- mirrors evertrace-domain/src/work/autoresearch.rs:129-135 -/
inductive AttemptBindingStatus where
  | resolved
  | provisional
  | unresolved
  deriving DecidableEq

/-- mirrors evertrace-domain/src/work/autoresearch.rs:137-143 -/
inductive RunObservability where
  | declared
  | partial_
  | full
  deriving DecidableEq

/-- mirrors evertrace-domain/src/work/autoresearch.rs:145-154 -/
inductive RunExecutionStatus where
  | unknown
  | queued
  | running
  | completed
  | failed
  | interrupted
  deriving DecidableEq

/-- mirrors evertrace-domain/src/work/autoresearch.rs:169-175 -/
inductive RunContractValidity where
  | unknown
  | valid
  | invalid
  deriving DecidableEq

/-- mirrors evertrace-domain/src/work/autoresearch.rs:177-195 -/
inductive SeedPolicy where
  | fixed
  | enumerated
  | randomized
  | unspecified
  deriving DecidableEq

def SeedPolicy.asStr : SeedPolicy → String
  | .fixed => "fixed"
  | .enumerated => "enumerated"
  | .randomized => "randomized"
  | .unspecified => "unspecified"

/-- mirrors evertrace-domain/src/work/autoresearch.rs:197-202, 311-318 -/
inductive MultiCasMetricPolicy where
  | rejectMultipleParsed
  | allowIdenticalParsed
  deriving DecidableEq

def MultiCasMetricPolicy.asStr : MultiCasMetricPolicy → String
  | .rejectMultipleParsed => "reject_multiple_parsed"
  | .allowIdenticalParsed => "allow_identical_parsed"

/-- mirrors evertrace-domain/src/work/autoresearch.rs:320-331 -/
structure ContractField where
  name : String
  value : String
  deriving DecidableEq

def ContractField.valid (field : ContractField) : Bool := validText field.name && validText field.value

/-- mirrors evertrace-domain/src/work/autoresearch.rs:333-339 -/
structure VariableDeclaration where
  varied : List String
  fixed : List String
  uncontrolled : List String
  deriving DecidableEq

/-- Every field of the configuration is declared once.
mirrors evertrace-domain/src/work/autoresearch.rs:342-364 -/
def VariableDeclaration.validateAgainst (value : VariableDeclaration) (config : List ContractField) :
    Except WorkError Unit :=
  let names := value.varied ++ value.fixed ++ value.uncontrolled
  ensure .invalidAutoresearch (canonicalTexts value.varied && canonicalTexts value.fixed
    && canonicalTexts value.uncontrolled
    && decide names.Nodup
    && (names.all fun name => config.any fun field => field.name == name)
    && names.length == config.length)

/-- mirrors evertrace-domain/src/work/autoresearch.rs:367-404 -/
structure ExperimentRun where
  runId : ExperimentRunId
  revisionId : RevisionId
  parentRevisionId : Option RevisionId
  workstreamId : WorkstreamId
  attemptId : Option AttemptId
  attemptBindingStatus : AttemptBindingStatus
  strategyContractFingerprint : Digest
  origin : RunOrigin
  externalSystemId : Option String
  externalRunKey : Option String
  sourceReceiptRefs : List SourceReceiptId
  observability : RunObservability
  executionStatus : RunExecutionStatus
  contractValidity : RunContractValidity
  experimentContractFingerprint : Digest
  codeSnapshotId : WorktreeSnapshotId
  dataFingerprint : String
  normalizedConfig : List ContractField
  variableDeclaration : VariableDeclaration
  comparisonKey : Digest
  seedPolicy : SeedPolicy
  seedValues : List String
  nondeterministic : Bool
  metricDefinition : String
  metricExtractorVersion : String
  multiCasMetricPolicy : MultiCasMetricPolicy
  environmentFingerprint : String
  comparisonExecutionBinding : Option ComparisonExecutionBinding
  workArtifactRefs : List WorkArtifactId
  terminalEvidenceRefs : List SourceReceiptId
  createdAtUs : Int
  startedAtUs : Option Int
  endedAtUs : Option Int
  deriving DecidableEq

/-- mirrors evertrace-domain/src/work/autoresearch.rs:228-246 -/
def validateBinding (binding : ComparisonExecutionBinding) : Except WorkError Unit :=
  ensure .invalidAutoresearch (binding.bindingVersion == 1 && binding.budget != 0
    && ([binding.toolchainRevision, binding.modelRevision, binding.harnessRevision, binding.algorithmRevision,
      binding.metricUnit].all fun value => validText value && value != "unknown")
    && positiveDecimal binding.positiveDeltaThreshold
    && positiveDecimal binding.negativeDeltaThreshold)

def directionValue : MetricDirection → CanonicalValue
  | .higherIsBetter => .string "higher_is_better"
  | .lowerIsBetter => .string "lower_is_better"

/-- The exposure is left out of what runs are compared by.
mirrors evertrace-domain/src/work/autoresearch.rs:248-308 -/
def bindingValue (binding : ComparisonExecutionBinding) (includeExposure : Bool) : CanonicalValue := .map
  [("algorithm_revision", .string binding.algorithmRevision),
    ("binding_version", .integer (BitVec.ofNat 128 binding.bindingVersion)),
    ("budget", .integer (BitVec.ofNat 128 binding.budget)),
    ("harness_revision", .string binding.harnessRevision),
    ("metric_direction", directionValue binding.metricDirection),
    ("metric_unit", .string binding.metricUnit),
    ("model_revision", .string binding.modelRevision),
    ("negative_delta_threshold", .string binding.negativeDeltaThreshold),
    ("positive_delta_threshold", .string binding.positiveDeltaThreshold),
    ("procedure_exposure_revision_id",
      if includeExposure then binding.procedureExposureRevisionId.elim .null fun id => .string id.toText else .null),
    ("toolchain_revision", .string binding.toolchainRevision)]

/-- mirrors evertrace-domain/src/work/autoresearch.rs:980-982 -/
def stringsValue (values : List String) : CanonicalValue := .sequence (values.map .string)

/-- mirrors evertrace-domain/src/work/autoresearch.rs:958-970 -/
def configValue (fields : List ContractField) : CanonicalValue :=
  .sequence (fields.map fun field => .map [("name", .string field.name), ("value", .string field.value)])

/-- mirrors evertrace-domain/src/work/autoresearch.rs:972-978 -/
def variablesValue (value : VariableDeclaration) : CanonicalValue := .map
  [("varied", stringsValue value.varied), ("fixed", stringsValue value.fixed),
    ("uncontrolled", stringsValue value.uncontrolled)]

namespace ExperimentRun

/-- The binding as one more field of the hashed map, and the version of the hash. -/
def bindingField (run : ExperimentRun) (includeExposure : Bool) : List (String × CanonicalValue) :=
  run.comparisonExecutionBinding.toList.map fun binding =>
    ("comparison_execution_binding", bindingValue binding includeExposure)

def contractVersion (run : ExperimentRun) : UInt32 := if run.comparisonExecutionBinding.isSome then 2 else 1

/-- mirrors evertrace-domain/src/work/autoresearch.rs:407-471 -/
def recomputeExactContractFingerprint (H : Sha256) (run : ExperimentRun) : Except WorkError Digest := do
  run.comparisonExecutionBinding.forM validateBinding
  (Canonical.sha256 H "evertrace.experiment_contract.exact" run.contractVersion (.map
    ([("strategy", .bytes run.strategyContractFingerprint.bytes),
      ("code_snapshot", .string run.codeSnapshotId.toText),
      ("data", .string run.dataFingerprint),
      ("config", configValue run.normalizedConfig),
      ("variables", variablesValue run.variableDeclaration),
      ("seed_policy", .string run.seedPolicy.asStr),
      ("seed_values", stringsValue run.seedValues),
      ("nondeterministic", .bool run.nondeterministic),
      ("metric", .string run.metricDefinition),
      ("extractor", .string run.metricExtractorVersion),
      ("multi_cas", .string run.multiCasMetricPolicy.asStr),
      ("environment", .string run.environmentFingerprint)] ++ run.bindingField true))).mapError
    fun _ => .invalidAutoresearch

/-- mirrors evertrace-domain/src/work/autoresearch.rs:473-531 -/
def recomputeComparisonKey (H : Sha256) (run : ExperimentRun) : Except WorkError Digest :=
  (Canonical.sha256 H "evertrace.experiment_contract.comparison" run.contractVersion (.map
    ([("code_snapshot", .string run.codeSnapshotId.toText),
      ("data", .string run.dataFingerprint),
      ("fixed_config",
        configValue (run.normalizedConfig.filter fun field => run.variableDeclaration.fixed.contains field.name)),
      ("variables", variablesValue run.variableDeclaration),
      ("seed_policy", .string run.seedPolicy.asStr),
      ("metric", .string run.metricDefinition),
      ("extractor", .string run.metricExtractorVersion),
      ("multi_cas", .string run.multiCasMetricPolicy.asStr),
      ("environment", .string run.environmentFingerprint)] ++ run.bindingField false))).mapError
    fun _ => .invalidAutoresearch

/-- mirrors evertrace-domain/src/work/autoresearch.rs:561-567 -/
def timesOk (run : ExperimentRun) : Bool :=
  0 ≤ run.createdAtUs
    && (run.startedAtUs.all fun value => run.createdAtUs ≤ value)
    && run.endedAtUs.all fun value => run.startedAtUs.getD run.createdAtUs ≤ value

/-- mirrors evertrace-domain/src/work/autoresearch.rs:568-584 -/
def fieldsOk (run : ExperimentRun) : Bool :=
  !run.sourceReceiptRefs.isEmpty
    && canonicalUnique run.sourceReceiptRefs
    && canonicalUnique run.workArtifactRefs
    && canonicalUnique run.terminalEvidenceRefs
    && run.normalizedConfig.length ≤ maxFields
    && run.normalizedConfig.all ContractField.valid
    && strictlyIncreasing (run.normalizedConfig.map ContractField.name)
    && canonicalTexts run.seedValues
    && optionalText run.externalSystemId
    && optionalText run.externalRunKey
    && validText run.dataFingerprint
    && validText run.metricDefinition
    && validText run.metricExtractorVersion
    && validText run.environmentFingerprint

/-- mirrors evertrace-domain/src/work/autoresearch.rs:590-611 -/
def stateOk (run : ExperimentRun) : Bool :=
  !(run.origin == .external && (run.externalSystemId.isNone || run.externalRunKey.isNone))
    && !(run.origin == .local_ && (run.externalSystemId.isSome || run.externalRunKey.isSome))
    && !(run.attemptBindingStatus == .resolved && run.attemptId.isNone)
    && !(run.attemptId.isNone && run.attemptBindingStatus != .unresolved)
    && !(run.nondeterministic && !run.seedValues.isEmpty)
    && !(run.seedPolicy == .fixed && run.seedValues.length != 1)
    && !(run.seedPolicy == .enumerated && run.seedValues.isEmpty)
    && !((run.seedPolicy == .randomized || run.seedPolicy == .unspecified) && !run.seedValues.isEmpty)
    && (run.executionStatus == .completed || run.executionStatus == .failed || run.executionStatus == .interrupted)
      == run.endedAtUs.isSome
    && !(!run.terminalEvidenceRefs.isEmpty && run.endedAtUs.isNone)

/-- mirrors evertrace-domain/src/work/autoresearch.rs:552-616 -/
def validate (H : Sha256) (run : ExperimentRun) : Except WorkError Unit := do
  run.comparisonExecutionBinding.forM validateBinding
  let exact ← run.recomputeExactContractFingerprint H
  let key ← run.recomputeComparisonKey H
  ensure .invalidAutoresearch (run.experimentContractFingerprint == exact && run.comparisonKey == key)
  ensure .invalidAutoresearch (run.timesOk && run.fieldsOk)
  run.variableDeclaration.validateAgainst run.normalizedConfig
  ensure .invalidAutoresearch run.stateOk

end ExperimentRun

/-! ## Results -/

/-- mirrors evertrace-domain/src/semantic.rs:48-53 -/
inductive ResultScope where
  | complete
  | partial_
  deriving DecidableEq

/-- mirrors evertrace-domain/src/semantic.rs:55-61 -/
inductive EvidenceCompleteness where
  | complete
  | incomplete
  | unavailable
  deriving DecidableEq

/-- mirrors evertrace-domain/src/semantic.rs:73-78 -/
inductive ParserStatus where
  | parsed
  | failed
  deriving DecidableEq

/-- mirrors evertrace-domain/src/semantic.rs:80-85 -/
inductive ParserFailureCode where
  | metricParseFailed
  | ambiguousMetricInput
  deriving DecidableEq

/-- mirrors evertrace-domain/src/semantic.rs:87-92 -/
inductive VerifierStatus where
  | passed
  | failed
  deriving DecidableEq

/-- mirrors evertrace-domain/src/semantic.rs:94-98 -/
inductive VerifierFailureCode where
  | deterministicReparseMismatch
  deriving DecidableEq

/-- mirrors evertrace-domain/src/semantic.rs:100-105 -/
inductive ResultFailure where
  | parser (code : ParserFailureCode)
  | verifier (code : VerifierFailureCode)
  deriving DecidableEq

/-- mirrors evertrace-domain/src/semantic.rs:107-113 -/
structure MetricValue where
  decimal : String
  unit : String
  uncertaintyDecimal : Option String
  deriving DecidableEq

/-- mirrors evertrace-domain/src/semantic.rs:130-138 -/
structure ParserReceipt where
  parserVersion : String
  inputArtifactRefs : List WorkArtifactId
  inputCasRefs : List CasId
  status : ParserStatus
  failureCode : Option ParserFailureCode
  deriving DecidableEq

/-- mirrors evertrace-domain/src/semantic.rs:154-160 -/
structure VerifierReceipt where
  verifierVersion : String
  status : VerifierStatus
  failureCode : Option VerifierFailureCode
  deriving DecidableEq

/-- mirrors evertrace-domain/src/semantic.rs:173-190 -/
structure ResultEvidence where
  resultEvidenceId : ResultEvidenceId
  revisionId : RevisionId
  parentRevisionId : Option RevisionId
  experimentRunId : ExperimentRunId
  experimentRunRevisionId : RevisionId
  resultScope : ResultScope
  rawArtifactRefs : List WorkArtifactId
  rawCasRefs : List CasId
  parsedMetric : Option MetricValue
  parserReceipt : ParserReceipt
  verifierReceipt : Option VerifierReceipt
  completeness : EvidenceCompleteness
  failure : Option ResultFailure
  createdAtUs : Int
  deriving DecidableEq

/-- The digits at the start of a text, as a number, how many they are, and what follows. -/
def spanDigits (text : List Char) : Nat × Nat × List Char :=
  let digits := text.takeWhile Char.isDigit
  (digits.foldl (fun n c => 10 * n + (c.toNat - '0'.toNat)) 0, digits.length, text.drop digits.length)

/-- What follows a leading sign, and whether it is a minus. -/
def spanSign : List Char → Bool × List Char
  | '-' :: rest => (true, rest)
  | '+' :: rest => (false, rest)
  | text => (false, text)

/-- The power of ten behind the digits: nothing, or `e` and a whole number. -/
def exponentOf : List Char → Option Int
  | [] => some 0
  | c :: rest =>
    let (negative, digits) := spanSign rest
    let (value, count, tail) := spanDigits digits
    if (c == 'e' || c == 'E') && count != 0 && tail.isEmpty then
      some (if negative then -(value : Int) else value)
    else none

/-- `value.parse::<f64>().is_ok_and(f64::is_finite)`: digits with at most one point among them, a power of ten, and
a value that does not round to infinity. The words for infinity and for no number are read too, and are not finite. -/
def finiteF64 (value : String) : Bool :=
  let (_, text) := spanSign value.toList
  let (whole, wholeCount, rest) := spanDigits text
  let (fraction, fractionCount, tail) := match rest with
    | '.' :: rest => spanDigits rest
    | rest => (0, 0, rest)
  wholeCount + fractionCount != 0 && match exponentOf tail with
    | none => false
    | some exponent =>
      let mantissa := whole * 10 ^ fractionCount + fraction
      let places := exponent - fractionCount
      mantissa * 10 ^ places.toNat < (2 ^ 1024 - 2 ^ 970) * 10 ^ (-places).toNat

/-- mirrors evertrace-domain/src/semantic.rs:290-292 -/
def validDecimal (value : String) : Bool := validText value && finiteF64 value

/-- mirrors evertrace-domain/src/semantic.rs:116-127 -/
def MetricValue.validate (metric : MetricValue) : Except SemanticError Unit :=
  ensure .invalidResultEvidence
    (validDecimal metric.decimal && validText metric.unit && metric.uncertaintyDecimal.all validDecimal)

/-- mirrors evertrace-domain/src/semantic.rs:141-151 -/
def ParserReceipt.validate (receipt : ParserReceipt) : Except SemanticError Unit :=
  ensure .invalidResultEvidence (validText receipt.parserVersion
    && !(receipt.inputArtifactRefs.isEmpty && receipt.inputCasRefs.isEmpty)
    && canonicalUnique receipt.inputArtifactRefs
    && canonicalUnique receipt.inputCasRefs
    && (receipt.status == .failed) == receipt.failureCode.isSome)

/-- mirrors evertrace-domain/src/semantic.rs:163-170 -/
def VerifierReceipt.validate (receipt : VerifierReceipt) : Except SemanticError Unit :=
  ensure .invalidResultEvidence
    (validText receipt.verifierVersion && (receipt.status == .failed) == receipt.failureCode.isSome)

namespace ResultEvidence

/-- `verifier_receipt.as_ref().is_some_and(|receipt| receipt.status == VerifierStatus::Passed)` -/
def passed (result : ResultEvidence) : Bool := result.verifierReceipt.any fun receipt => receipt.status == .passed

/-- The failure that the receipts report.
mirrors evertrace-domain/src/semantic.rs:214-223 -/
def reportedFailure (result : ResultEvidence) : Option ResultFailure :=
  match result.parserReceipt.failureCode, result.verifierReceipt.bind VerifierReceipt.failureCode with
  | some code, _ => some (.parser code)
  | none, some code => some (.verifier code)
  | none, none => none

/-- mirrors evertrace-domain/src/semantic.rs:193-231 -/
def validate (result : ResultEvidence) : Except SemanticError Unit := do
  result.parserReceipt.validate
  result.verifierReceipt.forM VerifierReceipt.validate
  ensure .invalidResultEvidence (0 ≤ result.createdAtUs
    && !(result.rawArtifactRefs.isEmpty && result.rawCasRefs.isEmpty)
    && canonicalUnique result.rawArtifactRefs
    && canonicalUnique result.rawCasRefs
    && result.parserReceipt.inputArtifactRefs == result.rawArtifactRefs
    && result.parserReceipt.inputCasRefs == result.rawCasRefs
    && !(result.parserReceipt.status == .failed && result.parsedMetric.isSome)
    && !(result.parserReceipt.status == .parsed && result.parsedMetric.isNone)
    && !(result.completeness == .complete
      && !(result.parserReceipt.status == .parsed && result.parsedMetric.isSome && result.passed))
    && result.failure == result.reportedFailure)
  result.parsedMetric.forM MetricValue.validate

/-- mirrors evertrace-domain/src/semantic.rs:278-284 -/
def completenessProgress : EvidenceCompleteness → EvidenceCompleteness → Bool
  | .incomplete, _ => true
  | .complete, next => next == .complete
  | .unavailable, next => next == .unavailable

/-- mirrors evertrace-domain/src/semantic.rs:235-236 -/
def rawProgress (result next : ResultEvidence) : Bool :=
  strictSuperset result.rawArtifactRefs next.rawArtifactRefs || strictSuperset result.rawCasRefs next.rawCasRefs

/-- mirrors evertrace-domain/src/semantic.rs:237-251 -/
def parserProgress (result next : ResultEvidence) : Bool :=
  rawProgress result next
    && result.parserReceipt.parserVersion == next.parserReceipt.parserVersion
    && containsAll next.parserReceipt.inputArtifactRefs result.parserReceipt.inputArtifactRefs
    && containsAll next.parserReceipt.inputCasRefs result.parserReceipt.inputCasRefs
    && (result.parserReceipt.status == next.parserReceipt.status
      || result.parserReceipt.status == .failed && next.parserReceipt.status == .parsed)

/-- mirrors evertrace-domain/src/semantic.rs:252-255 -/
def evidenceProgress (result next : ResultEvidence) : Bool :=
  rawProgress result next
    || result.verifierReceipt != next.verifierReceipt
    || result.completeness != next.completeness
    || result.failure != next.failure

/-- mirrors evertrace-domain/src/semantic.rs:233-275 -/
def validateSuccessor (result next : ResultEvidence) : Except SemanticError Unit := do
  next.validate
  ensure .invalidResultSuccessor (result.resultEvidenceId == next.resultEvidenceId
    && next.parentRevisionId == some result.revisionId
    && result.experimentRunId == next.experimentRunId
    && result.experimentRunRevisionId == next.experimentRunRevisionId
    && result.resultScope == next.resultScope
    && containsAll next.rawArtifactRefs result.rawArtifactRefs
    && containsAll next.rawCasRefs result.rawCasRefs
    && !(result.parsedMetric.isSome && result.parsedMetric != next.parsedMetric)
    && !(result.parserReceipt != next.parserReceipt && !parserProgress result next)
    && result.createdAtUs ≤ next.createdAtUs
    && !(result.verifierReceipt.isSome && result.verifierReceipt != next.verifierReceipt && !rawProgress result next)
    && completenessProgress result.completeness next.completeness
    && evidenceProgress result next)

end ResultEvidence

-- The spellings a decimal may have.
example : finiteF64 "-1.50e3" = true := by decide +kernel
example : (finiteF64 "." || finiteF64 "inf" || finiteF64 "1e") = false := by decide +kernel

end EverTrace.L2.Autoresearch
