import EverTrace.Lib.Bytes
import EverTrace.Lib.Command
import EverTrace.Lib.Cursor
import EverTrace.Lib.Greedy
import EverTrace.Lib.Joined
import EverTrace.Lib.Kleene
import EverTrace.Lib.Chains
import EverTrace.Lib.Guard
import EverTrace.Lib.KeySort
import EverTrace.Lib.Shortlist
import EverTrace.Lib.Outcome
import EverTrace.Lib.OrdMap
import EverTrace.Lib.Slots
import EverTrace.Lib.SqlMeaning
import EverTrace.Lib.Trace
import EverTrace.L1Encoding.Canonical
import EverTrace.L1Encoding.CanonicalParse
import EverTrace.L1Encoding.Digest
import EverTrace.L1Encoding.Frame
import EverTrace.L1Encoding.FrameScan
import EverTrace.L1Encoding.Ids
import EverTrace.L1Encoding.Protect
import EverTrace.L2Machine.ActivityToken
import EverTrace.L2Machine.BurstFolder
import EverTrace.L2Machine.CaptureReceipt
import EverTrace.L2Machine.Detector
import EverTrace.L2Machine.EpisodeCommit
import EverTrace.L2Machine.OperationBurst
import EverTrace.L2Machine.Recall
import EverTrace.L2Machine.RecallLedger
import EverTrace.L2Machine.RecallOnce
import EverTrace.L2Machine.SegmentInv
import EverTrace.L2Machine.Segmenter
import EverTrace.L2Machine.Spool
import EverTrace.L2Machine.GapMarker
import EverTrace.L2Machine.GapSlots
import EverTrace.L2Machine.SpoolDurable
import EverTrace.L2Machine.SpoolRun
import EverTrace.L2Machine.Work
import EverTrace.L2Machine.WorkEpisode
import EverTrace.Bugs.RecallRequestId
import EverTrace.Bugs.SecretOverlap
import EverTrace.L2Machine.SegmentRun
import EverTrace.L2Machine.SegmentRestore
import EverTrace.L2Machine.SegmentPerform
import EverTrace.Bugs.CandidateExtension
import EverTrace.L2Machine.SegmentAlike
import EverTrace.Bugs.RestartLeft
import EverTrace.L2Machine.EpisodeLimits
import EverTrace.Bugs.RecallAttemptReuse
import EverTrace.L2Machine.Constraint
import EverTrace.L2Machine.ConstraintKleene
import EverTrace.L2Machine.RecallDetector
import EverTrace.L2Machine.TriggerIndex
import EverTrace.L2Machine.RecallWorker
import EverTrace.L2Machine.TerminalDecisions
import EverTrace.Bugs.RecallUnchecked
import EverTrace.L2Machine.DeletionLedger
import EverTrace.L2Machine.Purge
import EverTrace.L2Machine.Draft
import EverTrace.L2Machine.Alignment
import EverTrace.L2Machine.AlignmentSound
import EverTrace.L2Machine.AlignmentStable
import EverTrace.L2Machine.Attempt
import EverTrace.L2Machine.Query
import EverTrace.L2Machine.Search
import EverTrace.L2Machine.SearchRanked
import EverTrace.L2Machine.SearchBlind
import EverTrace.Bugs.SilentOmission
import EverTrace.L2Machine.ProcedureEffect
import EverTrace.L2Machine.Proposal
import EverTrace.L2Machine.ProposalStore
import EverTrace.L2Machine.ProposalChain
import EverTrace.Bugs.ProposalRebuild
import EverTrace.L2Machine.Evidence
import EverTrace.L2Machine.Normalize
import EverTrace.L2Machine.EvidenceValid
import EverTrace.L2Machine.NormalizeOccurrences
import EverTrace.L2Machine.NormalizeRun
import EverTrace.L2Machine.NormalizeOperations
import EverTrace.L2Machine.NormalizePartition
import EverTrace.L2Machine.NormalizeAgain
import EverTrace.L2Machine.NormalizeAnchors
import EverTrace.L2Machine.NormalizeIncremental
import EverTrace.Bugs.LopsidedGroup
import EverTrace.Bugs.LostAnchor
import EverTrace.L1Encoding.Redaction
import EverTrace.L2Machine.SpoolPages
import EverTrace.L2Machine.DetectorRun
import EverTrace.Bugs.TakenBurst
import EverTrace.L1Encoding.PemScan
import EverTrace.Bugs.PemBundle
import EverTrace.L2Machine.ScenarioCore
import EverTrace.L2Machine.SupportState
import EverTrace.L2Machine.SupportChains
import EverTrace.L2Machine.SupportRebuild
import EverTrace.L2Machine.CoreRows
import EverTrace.L2Machine.SessionImport
import EverTrace.L2Machine.SessionQueue
import EverTrace.L2Machine.ImportPrefix
import EverTrace.L2Machine.ImportFence
import EverTrace.L2Machine.ImportDrains
import EverTrace.L2Machine.Repository
import EverTrace.L2Machine.Resolver
import EverTrace.L2Machine.ResolverRecords
import EverTrace.L2Machine.ResolverChecks
import EverTrace.Bugs.ArchivedRevived
import EverTrace.L2Machine.Admission
import EverTrace.Bugs.CrowdedContext
import EverTrace.Bugs.CutChain
import EverTrace.Bugs.CoreOrder
import EverTrace.Bugs.ContractOrder
import EverTrace.Bugs.TornMarker
import EverTrace.Bugs.OrphanBlob
import EverTrace.Lib.Checked
import EverTrace.Lib.Decimal
import EverTrace.L2Machine.MetricDelta
import EverTrace.Lib.Text
import EverTrace.L1Encoding.PatchTarget
import EverTrace.Bugs.DroppedEvidence
import EverTrace.Bugs.ForeignHeader
import EverTrace.L2Machine.ObjectForget
import EverTrace.Bugs.LongHistory
import EverTrace.L2Machine.AttemptLive
import EverTrace.Lib.TopK
import EverTrace.L2Machine.FtsSelect
import EverTrace.Lib.Least
import EverTrace.L2Machine.ProcedureRoute
import EverTrace.Bugs.LateQuarantine
import EverTrace.L2Machine.ProcedureSearch
import EverTrace.Bugs.BindingOrder
import EverTrace.L2Machine.RecoveryContract
import EverTrace.L2Machine.RecoveryCapture
import EverTrace.L2Machine.RecoveryAccounts
import EverTrace.L2Machine.RecoveryLedger
import EverTrace.Bugs.SecondObservation
import EverTrace.L2Machine.Autoresearch
import EverTrace.L2Machine.ProcedureUsage
import EverTrace.L2Machine.HarmReview
import EverTrace.Lib.FirstDiff
import EverTrace.L1Encoding.IdOrder
import EverTrace.Bugs.MixedReplay
import EverTrace.L2Machine.CompetingGroup
import EverTrace.Bugs.FullEvidence
import EverTrace.L2Machine.SearchFilter
import EverTrace.Lib.Passes
import EverTrace.Lib.Word
import EverTrace.L2Machine.SurpriseWords
import EverTrace.L2Machine.SearchAgrees
import EverTrace.Lib.CommandLog
import EverTrace.Lib.Transaction
import EverTrace.Lib.Blocks
import EverTrace.L2Machine.JournalRows
import EverTrace.L2Machine.JournalStore
import EverTrace.L2Machine.JournalLog
import EverTrace.L2Machine.JournalRuns
import EverTrace.L2Machine.GcProtocol
import EverTrace.L2Machine.ConfigReload
