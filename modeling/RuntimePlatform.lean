import RuntimePlatform.Lib.Dict
import RuntimePlatform.Lib.Redis
import RuntimePlatform.Budget.Ledger
import RuntimePlatform.Budget.Backend
import RuntimePlatform.Budget.Scripts
import RuntimePlatform.Budget.ScriptLedger
import RuntimePlatform.Budget.Memory
import RuntimePlatform.Budget.MemoryLedger
import RuntimePlatform.Budget.Overspend
import RuntimePlatform.Lib.Simulation
import RuntimePlatform.Budget.Equivalence
import RuntimePlatform.Admission.Leases
import RuntimePlatform.Admission.Fencing
import RuntimePlatform.Governance.Decision
import RuntimePlatform.Governance.Enforcement
import RuntimePlatform.Lib.Decimal
import RuntimePlatform.Budget.Guard
import RuntimePlatform.Budget.FailClosed
import RuntimePlatform.Chat.Resilience
import RuntimePlatform.Chat.Routing
import RuntimePlatform.Lib.Coroutine
import RuntimePlatform.Lib.FixedWindow
import RuntimePlatform.Chat.Operations
import RuntimePlatform.Chat.Handler
import RuntimePlatform.Chat.Frames
import RuntimePlatform.Chat.Slots
import RuntimePlatform.Chat.Choice
import RuntimePlatform.Chat.Mediation
import RuntimePlatform.Chat.Probes
import RuntimePlatform.Chat.RetryBudget
import RuntimePlatform.Chat.Settlement
import RuntimePlatform.Governance.Binding
import RuntimePlatform.Governance.Replay
import RuntimePlatform.Governance.ToolCall
import RuntimePlatform.Decisions.Store
import RuntimePlatform.Decisions.Shadow
import RuntimePlatform.Decisions.Isolation
import RuntimePlatform.Lib.Runs
import RuntimePlatform.Admission.Renewal
import RuntimePlatform.Admission.Controller
import RuntimePlatform.Admission.Counters
import RuntimePlatform.Admission.LocalAdmission
import RuntimePlatform.Admission.Queues
import RuntimePlatform.Governance.Identity
import RuntimePlatform.Governance.Payloads
import RuntimePlatform.Governance.RequestDigest
import RuntimePlatform.Governance.Genuine
import RuntimePlatform.Chat.Estimates
import RuntimePlatform.Tenant.Backend
import RuntimePlatform.Tenant.Memory
import RuntimePlatform.Tenant.Scripts
import RuntimePlatform.Tenant.Midnight
import RuntimePlatform.Budget.Rounding
import RuntimePlatform.Lib.ReadThenWrite
import RuntimePlatform.Lib.Base64
import RuntimePlatform.Auth.JwtVerify
import RuntimePlatform.Health.Store
import RuntimePlatform.Health.Scores
import RuntimePlatform.Usage.Emitter
import RuntimePlatform.Tenant.Accounts
import RuntimePlatform.Tenant.Reports
import RuntimePlatform.Chat.Refunds
import RuntimePlatform.Admission.Scopes
import RuntimePlatform.Admission.Leaks
import RuntimePlatform.Chat.Breaker
import RuntimePlatform.Chat.Selection
import RuntimePlatform.Usage.EventIds
import RuntimePlatform.Lib.Json
import RuntimePlatform.Lib.JsonWriter
import RuntimePlatform.Governance.CanonicalText
import RuntimePlatform.Config.Digest
import RuntimePlatform.Config.Environment
import RuntimePlatform.Auth.Boundary
import RuntimePlatform.Auth.Roles
import RuntimePlatform.Auth.Tokens
import RuntimePlatform.Runtime.Verification
import RuntimePlatform.Runtime.Signing
import RuntimePlatform.Tenant.Months
import RuntimePlatform.Tenant.Agreement
import RuntimePlatform.Lib.EventStream
import RuntimePlatform.Lib.JsonLoads
import RuntimePlatform.Lib.JsonObjects
import RuntimePlatform.Lib.Utf8
import RuntimePlatform.Usage.Streams
import RuntimePlatform.Lib.JsonCodes
import RuntimePlatform.Mcp.Transport
import RuntimePlatform.Mcp.Framing
import RuntimePlatform.Mcp.LastMessage
import RuntimePlatform.Usage.WholeEvents
import RuntimePlatform.Errors.Envelope
import RuntimePlatform.Lib.JsonAscii
import RuntimePlatform.Mcp.Truncation
import RuntimePlatform.Mcp.Sessions
import RuntimePlatform.Mcp.SessionSafety
import RuntimePlatform.Lib.Keyspace
import RuntimePlatform.Fleet.Accounts
import RuntimePlatform.Fleet.Budgets
import RuntimePlatform.Lib.FairQueue
import RuntimePlatform.Admission.Fairness
import RuntimePlatform.Decisions.Retention
import RuntimePlatform.Fleet.Stores
import RuntimePlatform.Budget.Enforcement
