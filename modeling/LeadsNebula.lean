import LeadsNebula.ActiveCampaigns
import LeadsNebula.ApiAuth
import LeadsNebula.AppliedConfigs
import LeadsNebula.AssocList
import LeadsNebula.Auction
import LeadsNebula.AuditFaithful
import LeadsNebula.AuditRecords
import LeadsNebula.Auth
import LeadsNebula.BackupCodes
import LeadsNebula.Batcher
import LeadsNebula.Batching
import LeadsNebula.BinaryRound
import LeadsNebula.BreakerRaces
import LeadsNebula.BuyerRouter
import LeadsNebula.CacheKeys
import LeadsNebula.CacheOutage
import LeadsNebula.CacheRuns
import LeadsNebula.CacheService
import LeadsNebula.CacheStatistics
import LeadsNebula.CacheWarmup
import LeadsNebula.CachedReads
import LeadsNebula.CircuitBreaker
import LeadsNebula.ClaimRelease
import LeadsNebula.Completion
import LeadsNebula.Confinement
import LeadsNebula.CreateLead
import LeadsNebula.Dashboard
import LeadsNebula.DashboardBuyers
import LeadsNebula.DashboardCampaigns
import LeadsNebula.DashboardEdits
import LeadsNebula.DashboardIntegrity
import LeadsNebula.DashboardPingTrees
import LeadsNebula.DashboardPublishers
import LeadsNebula.DashboardRuleSets
import LeadsNebula.DatabaseEffects
import LeadsNebula.DoubleSell
import LeadsNebula.Encoding
import LeadsNebula.EncryptionKeys
import LeadsNebula.Envelopes
import LeadsNebula.ExternalPing
import LeadsNebula.FailureClasses
import LeadsNebula.Fallible
import LeadsNebula.FixedWindow
import LeadsNebula.FullpostDirect
import LeadsNebula.FullpostSplit
import LeadsNebula.Glob
import LeadsNebula.HmacGate
import LeadsNebula.IntegrationLookup
import LeadsNebula.Interleaving
import LeadsNebula.Join
import LeadsNebula.Json
import LeadsNebula.JsonRel
import LeadsNebula.KnownLeads
import LeadsNebula.LeadBody
import LeadsNebula.LeadListing
import LeadsNebula.LeadReports
import LeadsNebula.LeadResponses
import LeadsNebula.LeadSearch
import LeadsNebula.LeadUpdateFrame
import LeadsNebula.Like
import LeadsNebula.Models
import LeadsNebula.OtpEnrolment
import LeadsNebula.Outcome
import LeadsNebula.Paging
import LeadsNebula.PartialUpdates
import LeadsNebula.PasskeyLimits
import LeadsNebula.Passkeys
import LeadsNebula.PasswordReset
import LeadsNebula.PingIds
import LeadsNebula.PingPayloads
import LeadsNebula.PingSale
import LeadsNebula.PingTrace
import LeadsNebula.PingTreeRouter
import LeadsNebula.PostPayloads
import LeadsNebula.PostQualification
import LeadsNebula.PreChecks
import LeadsNebula.PriceGuarantee
import LeadsNebula.PublisherIsolation
import LeadsNebula.Publishers
import LeadsNebula.Pulsar
import LeadsNebula.PulsarAsync
import LeadsNebula.Qualification
import LeadsNebula.QualificationConfigs
import LeadsNebula.QualificationEngine
import LeadsNebula.QualificationRules
import LeadsNebula.QueryBuilder
import LeadsNebula.Ranking
import LeadsNebula.RateLimit
import LeadsNebula.Reorder
import LeadsNebula.ReportedStatus
import LeadsNebula.ResetFailures
import LeadsNebula.ResetSecrecy
import LeadsNebula.ResponseBatch
import LeadsNebula.Resubmission
import LeadsNebula.RetryBackoff
import LeadsNebula.RevenueCalculator
import LeadsNebula.RevenueShares
import LeadsNebula.Revocation
import LeadsNebula.RouterStatement
import LeadsNebula.RoutingFreshness
import LeadsNebula.RoutingIntegrity
import LeadsNebula.RoutingLoad
import LeadsNebula.RoutingQueries
import LeadsNebula.RuleSetAtomicity
import LeadsNebula.RuleSets
import LeadsNebula.SaleRecord
import LeadsNebula.SaleStamps
import LeadsNebula.SingleWriter
import LeadsNebula.Spelling
import LeadsNebula.SsmParameters
import LeadsNebula.StageTimings
import LeadsNebula.StoredPii
import LeadsNebula.System
import LeadsNebula.Table
import LeadsNebula.Tenancy
import LeadsNebula.TenantBuyers
import LeadsNebula.TenantIsolation
import LeadsNebula.TenantPingTrees
import LeadsNebula.TenantPublishers
import LeadsNebula.TenantStatements
import LeadsNebula.Transition
import LeadsNebula.Triple
import LeadsNebula.TtlCache
import LeadsNebula.UpdateStatements
import LeadsNebula.UuidText
import LeadsNebula.WinnerSelection
import LeadsNebula.WinnerTerms
import LeadsNebula.WriteBehindQueue
import LeadsNebula.ZipLists
import LeadsNebula.ZipRoundTrip
