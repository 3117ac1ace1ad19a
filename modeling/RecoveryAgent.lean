import RecoveryAgent.Runs.Audit
import RecoveryAgent.Runs.AtMostOnce
import RecoveryAgent.Runs.StatusFold
import RecoveryAgent.Runs.Contacts
import RecoveryAgent.Runs.Interleaving
import RecoveryAgent.Runs.Webhooks
import RecoveryAgent.Api.Caps
import RecoveryAgent.Demo.CreateLink
import RecoveryAgent.Demo.Fraud
import RecoveryAgent.Demo.Abandoned
import RecoveryAgent.Demo.Blocked
import RecoveryAgent.Library.Commit
import RecoveryAgent.Runs.Opening
import RecoveryAgent.Library.Fault
import RecoveryAgent.Python.Errors
import RecoveryAgent.Ingest.Normalise
import RecoveryAgent.Ingest.Verify
import RecoveryAgent.Ingest.Faults
import RecoveryAgent.Api.RoutesWebhooks
import RecoveryAgent.Api.Escapes
import RecoveryAgent.Api.OtherEvents
import RecoveryAgent.Eval.Simulate
import RecoveryAgent.Policy.Legality
import RecoveryAgent.Config.Costs
import RecoveryAgent.Eval.Baselines
import RecoveryAgent.Eval.Costing
import RecoveryAgent.Eval.Played
import RecoveryAgent.Library.Quota
import RecoveryAgent.Eval.GateEstimate
import RecoveryAgent.Eval.GateFeed
import RecoveryAgent.Library.Grouping
import RecoveryAgent.Library.Rounding
import RecoveryAgent.Python.Rounding
import RecoveryAgent.Eval.Bridge
import RecoveryAgent.Eval.Metrics
import RecoveryAgent.Eval.Segments
import RecoveryAgent.Eval.Benchmark
import RecoveryAgent.Eval.Batch
import RecoveryAgent.Eval.Comparison
import RecoveryAgent.Eval.CostKnobs
import RecoveryAgent.Eval.SalaryWindow
import RecoveryAgent.Guard.Fingerprints
import RecoveryAgent.Policy.FixedPoints
import RecoveryAgent.Memory.Episodes
import RecoveryAgent.Runs.RefusedLinks
import RecoveryAgent.Runs.Story
import RecoveryAgent.Api.Reconcile
import RecoveryAgent.Api.DistinctFailures
import RecoveryAgent.Ai.Provenance
import RecoveryAgent.Library.Bisection
import RecoveryAgent.Eval.BreakEven
import RecoveryAgent.Library.Halting
import RecoveryAgent.Eval.Outcomes
import RecoveryAgent.Eval.Futile
import RecoveryAgent.Eval.FailedFees
import RecoveryAgent.Policy.Rows
import RecoveryAgent.Eval.Plans
import RecoveryAgent.Ledger.Views
import RecoveryAgent.Guard.Audit
import RecoveryAgent.Library.Latest
import RecoveryAgent.Api.CasePage
import RecoveryAgent.Library.Marks
import RecoveryAgent.Python.JsonText
import RecoveryAgent.Python.JsonLetters
import RecoveryAgent.Ai.Client
import RecoveryAgent.Ai.RoundTrip
import RecoveryAgent.Ai.Repair
import RecoveryAgent.Config.Overrides
import RecoveryAgent.Diagnose.Scoring
import RecoveryAgent.Eval.BreakEvenNote
import RecoveryAgent.Eval.Percentiles
import RecoveryAgent.Eval.Service
import RecoveryAgent.Memory.Corpus
import RecoveryAgent.Library.Interpolation
import RecoveryAgent.Python.Digits
import RecoveryAgent.Memory.Identity
import RecoveryAgent.Eval.BreakEvenPanel
import RecoveryAgent.Library.Attempts
import RecoveryAgent.Library.Tally
import RecoveryAgent.Memory.Documents
import RecoveryAgent.Memory.Manifest
import RecoveryAgent.Memory.Seed
import RecoveryAgent.Library.Cell
import RecoveryAgent.Memory.InherentClient
import RecoveryAgent.Memory.Resume
import RecoveryAgent.Memory.Search
import RecoveryAgent.Memory.Retrieval
import RecoveryAgent.Demo.Retrieval
import RecoveryAgent.Python.Lines
import RecoveryAgent.Memory.EpisodeText
import RecoveryAgent.Python.IntText
import RecoveryAgent.Eval.Seeds
import RecoveryAgent.Library.Pooling
import RecoveryAgent.Eval.MultiSeed
import RecoveryAgent.Library.Ranking
import RecoveryAgent.Eval.CaseTable
import RecoveryAgent.Library.Growth
import RecoveryAgent.Runs.Growth
import RecoveryAgent.Api.OwnCase
import RecoveryAgent.Api.GuardCheck
import RecoveryAgent.Demo.FraudGate
import RecoveryAgent.Demo.Replay
import RecoveryAgent.Demo.Entries
import RecoveryAgent.Api.System
import RecoveryAgent.Api.PaidLoop
import RecoveryAgent.Api.CaseSource
import RecoveryAgent.Execute.Simulated
import RecoveryAgent.Config.Loader
import RecoveryAgent.Config.CostTable
import RecoveryAgent.Eval.RunStore
