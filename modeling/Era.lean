import Era.Lib.Machine
import Era.Lib.Calendar
import Era.Lib.CalendarCycle
import Era.Lib.Search
import Era.Lib.FileSystem
import Era.Lib.PathResolution
import Era.Lib.FileCalls
import Era.Lib.FileEffects
import Era.Lib.FixedWidth
import Era.Lib.Base64
import Era.Lib.HashChain
import Era.Lib.Holding
import Era.Core.Enums
import Era.Core.Value
import Era.Core.Clock
import Era.Core.Platform
import Era.Core.Result
import Era.Core.CronField
import Era.Core.CronReading
import Era.Core.CronGrammar
import Era.Core.CronExact
import Era.Core.Cron
import Era.Core.CronSearch
import Era.Core.CronDays
import Era.Core.CronTotal
import Era.Core.Retry
import Era.Core.RetryTrace
import Era.Core.Timeout
import Era.Core.CircuitBreaker
import Era.Core.ToolRegistry
import Era.Security.Hashing
import Era.Security.Json
import Era.Security.CanonicalJson
import Era.Security.Signing
import Era.Security.Redaction
import Era.Security.Validation
import Era.Security.ParamLimits
import Era.Security.Vault
import Era.Security.ResultSafety
import Era.Security.SecretPatterns
import Era.Security.SanitizedResults
import Era.Providers.Http
import Era.Providers.Booking
import Era.Providers.Delivery
import Era.Providers.WhatsApp
import Era.Providers.EmailSmtp
import Era.Services.Policy
import Era.Services.Storage
import Era.Services.AuditService
import Era.Services.Confirmation
import Era.Services.DualApproval
import Era.Services.Dispatch
import Era.Services.Execution
import Era.Services.ExecutionCases
import Era.Services.System
import Era.Services.Timestamps
import Era.Services.Provenance
import Era.Services.ApprovalRace
import Era.Services.AuditBeforeDispatch
import Era.Services.TerminalStatus
import Era.Services.ConfirmationBinding
import Era.Services.OperatorDecisions
import Era.Services.DispatchClosure
import Era.Services.SideEffects
import Era.Services.MessageDelivery
import Era.Services.SchedulerLeader
import Era.Services.Jobs
import Era.Services.Idempotency
import Era.Services.IdempotencyAnswers
import Era.Services.ScheduledJobs
import Era.Services.ScheduleRows
import Era.Repositories.Audit
import Era.Repositories.AuditVerify
import Era.Repositories.AuditRace
import Era.Workflows.Definition
import Era.Workflows.Rendering
import Era.Workflows.Validation
import Era.Workflows.Rows
import Era.Workflows.Engine
import Era.Workflows.Machine
import Era.Workflows.Steps
import Era.Workflows.ExactlyOnce
import Era.Workflows.Sequential
import Era.Workflows.Dependencies
import Era.Workflows.Transitions
import Era.Workflows.RoleGuard
import Era.Workflows.Conditions
import Era.Workflows.Completion
import Era.Workflows.Order
import Era.Workflows.Absorbing
import Era.Workflows.Advance
import Era.Workflows.Progress
import Era.Workflows.Resolved
import Era.Workflows.Rest
import Era.Workflows.Supplied
import Era.Workflows.Firing
import Era.Workflows.Isolation
import Era.Workflows.ScheduleRows
import Era.Workflows.Versions
import Era.Workflows.Governance
import Era.Workflows.Slots
import Era.Workflows.Balance
import Era.Workflows.CounterMap
import Era.Workflows.RenderedParams
import Era.Workflows.FillRule
import Era.Workflows.GraphCheck
import Era.Workflows.Receipts
import Era.Workflows.ReceiptRoutes
import Era.Workflows.WaitBound
import Era.Workflows.Revalidation
import Era.Lib.Path
import Era.Lib.Pattern
import Era.Workflows.Waiting
import Era.Workflows.ApprovedSteps
import Era.Workflows.ApprovalInFlight
import Era.Workflows.Denial
import Era.Agents.Gate
import Era.Agents.Verdicts
import Era.Agents.Ending
import Era.Agents.Caps
import Era.Agents.Routes
import Era.Lib.Refinement
import Era.Core.BreakerReference
import Era.Core.SharedBreaker
import Era.Services.HalfOpen
import Era.Services.AuditHistory
import Era.Services.SecretFlow
import Era.Services.VaultService
import Era.Services.VaultReferences
import Era.Services.SchemaConformance
import Era.Core.Registration
import Era.Lib.RollingWindow
import Era.Lib.Log
import Era.Agents.TaskRows
import Era.Agents.SendsOnce
import Era.Agents.Rescue
import Era.Providers.ActorRateLimit
import Era.Lib.FixedWindow
import Era.Api.RateLimit
import Era.Api.AdminRoutes
import Era.Api.AdminIsolation
import Era.Providers.SendAccounting
import Era.Lib.Memo
import Era.Providers.BookingResults
import Era.Security.UrlSafety
import Era.Providers.WebEgress
import Era.Providers.ElementRefs
import Era.Providers.BrowserCommands
import Era.Providers.AccessibilityWalker
import Era.Providers.WalkedPages
import Era.Agents.Continues
import Era.Agents.Resolution
import Era.Providers.WorkspaceContents
import Era.Providers.WorkspaceIsolation
import Era.Lib.Utf8
import Era.Lib.Frames
import Era.Agents.Events
import Era.Web.ChatClient
import Era.Services.AgentStream
import Era.Services.EventHistory
import Era.Services.LiveEvents
