import VelaFlow.Foundation.Machine
import VelaFlow.Foundation.Json
import VelaFlow.Foundation.JsonString
import VelaFlow.Foundation.JsonText
import VelaFlow.Foundation.JsonCodec
import VelaFlow.Foundation.HashChain
import VelaFlow.Foundation.Python
import VelaFlow.Foundation.Base64
import VelaFlow.Foundation.BoundedDeque
import VelaFlow.Foundation.Counting
import VelaFlow.Foundation.DateTime
import VelaFlow.Foundation.Calendar
import VelaFlow.Foundation.Filesystem
import VelaFlow.Foundation.Program
import VelaFlow.Foundation.Transactions
import VelaFlow.Foundation.Faults
import VelaFlow.Security.CircuitBreaker
import VelaFlow.Security.CircuitBreakerRecovery
import VelaFlow.Security.CircuitBreakerSafety
import VelaFlow.Security.RetryWithBackoff
import VelaFlow.Security.Sanitization
import VelaFlow.Security.Aead
import VelaFlow.Security.Encryption
import VelaFlow.Security.FieldCipher
import VelaFlow.Security.CredentialCipher
import VelaFlow.Security.Digest
import VelaFlow.Security.ActionLedger
import VelaFlow.Security.LedgerEntries
import VelaFlow.Security.LedgerCompleteness
import VelaFlow.Security.LedgerSoundness
import VelaFlow.Rag.Chunker
import VelaFlow.Rag.VectorStore
import VelaFlow.Rag.Pipeline
import VelaFlow.Rag.Isolation
import VelaFlow.Rag.Replacement
import VelaFlow.Storage.Path
import VelaFlow.Storage.PurePath
import VelaFlow.Storage.Containment
import VelaFlow.Security.SafePath
import VelaFlow.Backup.Restore
import VelaFlow.Backup.Archive
import VelaFlow.Backup.RoundTrip
import VelaFlow.Storage.Local
import VelaFlow.Storage.Encrypted
import VelaFlow.Storage.EnvelopeBinding
import VelaFlow.Tenant.Models
import VelaFlow.Tenant.Records
import VelaFlow.Security.AuditLog
import VelaFlow.Security.AuditEntries
import VelaFlow.Security.AuditCompleteness
import VelaFlow.Security.AuditSoundness
import VelaFlow.Process.World
import VelaFlow.Process.Actions
import VelaFlow.Process.Quota
import VelaFlow.Process.Effects
import VelaFlow.Process.Directories
import VelaFlow.Tenant.Manager
import VelaFlow.Tenant.Deactivation
import VelaFlow.Tenant.RecordUpdates
import VelaFlow.Tenant.Erasure
import VelaFlow.Tenant.Users
import VelaFlow.Storage.EncryptionCoverage
import VelaFlow.Security.Rbac
import VelaFlow.Tenant.UserManager
import VelaFlow.Tenant.Footprints
import VelaFlow.Tenant.UserRecords
import VelaFlow.Api.Auth
import VelaFlow.Queue.Tasks
import VelaFlow.Queue.Loops
import VelaFlow.Queue.Conservation
import VelaFlow.Queue.Draining
import VelaFlow.Queue.Worker
import VelaFlow.Queue.Charging
import VelaFlow.Queue.WorkerRuns
import VelaFlow.Queue.Conduct
import VelaFlow.Queue.Gating
import VelaFlow.Queue.Lifecycle
import VelaFlow.Api.LoginTokens
import VelaFlow.Api.UserAdministration
import VelaFlow.Api.Registry
import VelaFlow.Api.RoleGrants
import VelaFlow.Api.Privileges
import VelaFlow.Security.Moderation
import VelaFlow.Security.RateLimiter
import VelaFlow.Api.Webhooks
import VelaFlow.Api.JobStatus
import VelaFlow.Api.Billing
import VelaFlow.Api.TenantWriters
import VelaFlow.Api.TierAgreement
import VelaFlow.Api.Pipelines
import VelaFlow.Api.Admission
import VelaFlow.Notion.Pages
import VelaFlow.Notion.Sync
import VelaFlow.Notion.Services
import VelaFlow.Notion.Writes
import VelaFlow.Notion.Mirror
import VelaFlow.Notion.Pushes
import VelaFlow.Notion.Lookups
import VelaFlow.Notion.Edits
import VelaFlow.Notion.PageSet
import VelaFlow.Security.RequestSigner
import VelaFlow.Security.ReplayWindow
import VelaFlow.Security.RequestAuthenticity
import VelaFlow.Queue.Scheduler
import VelaFlow.Queue.MissedSlots
import VelaFlow.Queue.ExactlyOnce
import VelaFlow.Queue.LocalTime
import VelaFlow.Pipeline.Bronze
import VelaFlow.Pipeline.Batches
import VelaFlow.Llm.Fallback
import VelaFlow.Llm.DemoIsolation
import VelaFlow.Api.RagRoutes
import VelaFlow.Api.RagGate
import VelaFlow.Planner.Models
import VelaFlow.Planner.Scoring
import VelaFlow.Planner.Digest
import VelaFlow.Planner.Ranking
import VelaFlow.Security.Pii
import VelaFlow.Pipeline.Silver
import VelaFlow.Pipeline.Scheduler
import VelaFlow.Foundation.Firsts
import VelaFlow.Pipeline.Runs
import VelaFlow.Pipeline.Records
import VelaFlow.Queue.TenantDigest
import VelaFlow.Security.Ban
import VelaFlow.Security.BanEscalation
import VelaFlow.Security.BanPermanence
import VelaFlow.Security.LogSurvival
import VelaFlow.Llm.Delivery
import VelaFlow.Pipeline.Masking
import VelaFlow.Api.ModerationCover
import VelaFlow.Foundation.Base64Reading
import VelaFlow.Security.Preflight
import VelaFlow.Pipeline.Failures
import VelaFlow.Pipeline.RunHistory
import VelaFlow.Api.TenantLogin
import VelaFlow.Api.LoginRetry
import VelaFlow.Security.Resilience
import VelaFlow.Foundation.Spans
import VelaFlow.Security.PiiLocality
import VelaFlow.Security.UserDataBoundary
import VelaFlow.Foundation.Matching
import VelaFlow.Foundation.Removal
import VelaFlow.Security.HtmlStripping
import VelaFlow.Security.LedgerRedaction
import VelaFlow.Todoist.Parsing
import VelaFlow.Todoist.Agreement
import VelaFlow.Pipeline.Tolerance
import VelaFlow.Pipeline.Deduplication
import VelaFlow.Foundation.Windows
import VelaFlow.Engine.Processor
import VelaFlow.Engine.SilverAgreement
import VelaFlow.Foundation.KeyValue
import VelaFlow.Storage.Disk
import VelaFlow.Foundation.Sorting
import VelaFlow.Planner.Urgency
import VelaFlow.Planner.DigestSections
import VelaFlow.Planner.Weekend
import VelaFlow.Planner.WeekendPlan
import VelaFlow.Engine.Gold
import VelaFlow.Catalog.Store
import VelaFlow.Catalog.ReadBack
import VelaFlow.Engine.Statistics
import VelaFlow.Engine.Truthfulness
import VelaFlow.Api.RunCharges
import VelaFlow.Planner.Organizer
import VelaFlow.Planner.OrganizerFixpoint
import VelaFlow.Notion.RoundTrip
import VelaFlow.Storage.KeyValueStore
import VelaFlow.Foundation.OverlapRuns
import VelaFlow.Rag.ChunkRuns
import VelaFlow.Rag.ChunkBounds
import VelaFlow.Foundation.Pieces
import VelaFlow.Rag.Sentences
import VelaFlow.Rag.Ingestion
import VelaFlow.Installer.ConfigBuilder
import VelaFlow.Installer.RoundTrip
import VelaFlow.Foundation.Paging
import VelaFlow.Todoist.Fetching
import VelaFlow.Todoist.FilteredFetch
import VelaFlow.Foundation.Names
import VelaFlow.Pipeline.Medallion
import VelaFlow.Api.ServedGold
import VelaFlow.Engine.TenantView
import VelaFlow.Api.DataExplorer
import VelaFlow.Api.Vault
import VelaFlow.Api.VaultRefinement
import VelaFlow.Api.AccessTokens
import VelaFlow.Api.Middleware
import VelaFlow.Catalog.Grants
import VelaFlow.Foundation.Outline
import VelaFlow.Notebook.Extraction
import VelaFlow.Notebook.Sync
import VelaFlow.Tenant.DemoAccounts
import VelaFlow.Api.DemoRuns
import VelaFlow.Api.DemoAnalytics
import VelaFlow.Planner.BoardAnalysis
import VelaFlow.Backup.Retention
import VelaFlow.Security.LedgerExport
