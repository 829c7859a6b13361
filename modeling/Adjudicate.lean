import Adjudicate.Js.Value
import Adjudicate.Canonical.Canonicalize
import Adjudicate.Canonical.Rfc8785
import Adjudicate.Canonical.ContentAddress
import Adjudicate.Core.Envelope
import Adjudicate.Core.Decision
import Adjudicate.Kernel.Adjudicate
import Adjudicate.Kernel.Steps
import Adjudicate.Kernel.TraceFidelity
import Adjudicate.Kernel.TaintFloor
import Adjudicate.Audit.Record
import Adjudicate.Canonical.Reload
import Adjudicate.Audit.Verify
import Adjudicate.Audit.Integrity
import Adjudicate.Audit.BuiltRecord
import Adjudicate.Audit.Replay
import Adjudicate.Effect.Pool
import Adjudicate.Shell.AdjudicateAndAudit
import Adjudicate.Shell.Runs
import Adjudicate.Shell.Deliberation
import Adjudicate.Shell.Delivery
import Adjudicate.Shell.Authorization
import Adjudicate.Kernel.FirstAnswer
import Adjudicate.Shell.Provenance
import Adjudicate.Shell.Interleaving
import Adjudicate.Shell.Atomicity
import Adjudicate.Canonical.Finite
import Adjudicate.Js.Comparison
import Adjudicate.RateLimit.Store
import Adjudicate.RateLimit.Windows
import Adjudicate.Claims.EvidenceLedger
import Adjudicate.Claims.EvidenceRequirement
import Adjudicate.RateLimit.Conservation
import Adjudicate.Claims.Allowed
import Adjudicate.Claims.EvidenceProvenance
import Adjudicate.Claims.Consistency
import Adjudicate.Claims.ConsistencyGate
import Adjudicate.Claims.ConsistencyLaws
import Adjudicate.Claims.ConsistencyOrder
import Adjudicate.Claims.ConsistencyGuarantees
import Adjudicate.Claims.RegistryDiff
import Adjudicate.Claims.TableTightening
import Adjudicate.Claims.Tightening
import Adjudicate.Claims.VersionMonotonicity
import Adjudicate.Runtime.DeferSession
import Adjudicate.Runtime.ParkResume
import Adjudicate.Runtime.ParkInvariant
import Adjudicate.Runtime.ParkConservation
import Adjudicate.Claims.ClaimsKernel
import Adjudicate.Claims.ProvenSlice
import Adjudicate.Audit.Recordable
import Adjudicate.Shell.Confirmation
import Adjudicate.Agent.Bridge
import Adjudicate.Agent.ResumeRounds
import Adjudicate.Agent.ResumeOscillation
import Adjudicate.Budget.BurnDown
import Adjudicate.Budget.Windows
import Adjudicate.Audit.ReplayIntegrity
import Adjudicate.Audit.ChainDetection
import Adjudicate.Audit.Checkpoint
import Adjudicate.Approval.Engine
import Adjudicate.Effect.Execution
import Adjudicate.Approval.Quorum
import Adjudicate.Agent.Dependencies
import Adjudicate.Effect.Since
import Adjudicate.Agent.Decisions
import Adjudicate.Agent.Loop
import Adjudicate.Shell.Recording
import Adjudicate.Agent.AuditedExecution
import Adjudicate.Agent.ContaminatedSession
import Adjudicate.Audit.SupersessionChain
import Adjudicate.Audit.SupersessionCoverage
import Adjudicate.Audit.SupersessionLineage
import Adjudicate.Effect.Machine
import Adjudicate.Sink.PersistentBuffered
import Adjudicate.Sink.Conservation
import Adjudicate.Effect.Actors
import Adjudicate.Shell.ExpiringLedger
import Adjudicate.Shell.ClaimOwnership
import Adjudicate.KillSwitch.PubSub
import Adjudicate.KillSwitch.Propagation
import Adjudicate.Js.JsonSchema
import Adjudicate.Kernel.PanicTotality
import Adjudicate.Core.EnvelopeGuard
import Adjudicate.Claims.ClaimDefinition
import Adjudicate.Claims.OrderIndependence
import Adjudicate.Js.Path
import Adjudicate.Primitives.RewriteFrame
import Adjudicate.Pack.BasisAudit
import Adjudicate.Pack.InstalledPolicy
import Adjudicate.Core.Ownership
import Adjudicate.Primitives.AuthorityGuard
import Adjudicate.Canonical.Rearrangement
import Adjudicate.AdminSdk.Coverage
import Adjudicate.AdminSdk.WireRecord
import Adjudicate.AccessGovernance.Policies
import Adjudicate.Shell.Emission
import Adjudicate.AccessGovernance.Review
import Adjudicate.AccessGovernance.Redaction
import Adjudicate.Agent.ToolNames
import Adjudicate.Claims.ClaimCompiler
import Adjudicate.Core.FieldTaint
import Adjudicate.Js.Rounding
import Adjudicate.RateLimit.CumulativeVelocity
import Adjudicate.Approval.ChannelFallback
import Adjudicate.Js.Days
import Adjudicate.Js.Tally
import Adjudicate.Sink.Buffered
import Adjudicate.Kernel.GuardStats
import Adjudicate.Agent.MemoryStore
import Adjudicate.Agent.OptimisticMemory
import Adjudicate.Audit.EventBus
import Adjudicate.Budget.TokenUsage
import Adjudicate.Budget.UsageAccounts
import Adjudicate.Budget.UsageConservation
import Adjudicate.AdminSdk.ChainIntegrity
import Adjudicate.Analyze.EscalationCycles
import Adjudicate.AuditPostgres.LegacyCompat
import Adjudicate.Analyze.Manifest
import Adjudicate.Analyze.ManifestDiff
import Adjudicate.AccessGovernance.Clamps
import Adjudicate.Adjutant.ProposalRestart
import Adjudicate.Deployments.Clamps
import Adjudicate.Drift.Detector
import Adjudicate.Drift.NewCategories
import Adjudicate.Pack.ClampLaw
import Adjudicate.PaymentsPix.Policies
import Adjudicate.PaymentsPix.RefundSafety
import Adjudicate.AccessGovernance.GrantSafety
import Adjudicate.CliAgent.Policies
import Adjudicate.CliAgent.SafeShape
import Adjudicate.CliAgent.Sanitising
import Adjudicate.IdentityKyc.Policy
import Adjudicate.IdentityKyc.Verification
import Adjudicate.RedTeam.CanarySoundness
import Adjudicate.IncidentResponse.Policies
import Adjudicate.Shell.LedgerRuns
import Adjudicate.AuditPostgres.AuditPaging
import Adjudicate.IncidentResponse.Remediation
import Adjudicate.Adjutant.Orchestrator
import Adjudicate.Adjutant.OrchestratorRuns
import Adjudicate.Adjutant.ExecutorSafety
