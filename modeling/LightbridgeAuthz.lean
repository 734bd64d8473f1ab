import LightbridgeAuthz.Library.EventRun
import LightbridgeAuthz.Library.KeyedRows
import LightbridgeAuthz.Library.CallSlots
import LightbridgeAuthz.Library.CheckedInt
import LightbridgeAuthz.Library.ChronoTime
import LightbridgeAuthz.Library.ExpiringKeys
import LightbridgeAuthz.Library.SortedEntries
import LightbridgeAuthz.Library.KeyRenames
import LightbridgeAuthz.Library.RowVersions
import LightbridgeAuthz.Library.MeteredRuns
import LightbridgeAuthz.Library.CursorPages
import LightbridgeAuthz.Library.CivilDates
import LightbridgeAuthz.Library.SpacedWords
import LightbridgeAuthz.Library.ItemRuns
import LightbridgeAuthz.Library.GroupedSums
import LightbridgeAuthz.Library.CborTokens
import LightbridgeAuthz.Library.CborTrees
import LightbridgeAuthz.Access.Tenancy
import LightbridgeAuthz.Access.TenancyOps
import LightbridgeAuthz.Access.ModelPolicies
import LightbridgeAuthz.Access.ProjectOwnership
import LightbridgeAuthz.Access.RpcGates
import LightbridgeAuthz.Access.LenientCodec
import LightbridgeAuthz.Access.DefaultProjects
import LightbridgeAuthz.Access.DefaultSteps
import LightbridgeAuthz.Access.SingleDefault
import LightbridgeAuthz.Budget.Domain
import LightbridgeAuthz.Budget.GrantLedger
import LightbridgeAuthz.Budget.LedgerReplay
import LightbridgeAuthz.Budget.Revocation
import LightbridgeAuthz.Budget.EffectiveBalance
import LightbridgeAuthz.Budget.TierStamp
import LightbridgeAuthz.Budget.RuleData
import LightbridgeAuthz.Budget.AugmentationRequests
import LightbridgeAuthz.Budget.ServiceWorld
import LightbridgeAuthz.Budget.ServiceSteps
import LightbridgeAuthz.Budget.ServiceWrites
import LightbridgeAuthz.Budget.IdempotencyKeys
import LightbridgeAuthz.Budget.UnaidedAllowance
import LightbridgeAuthz.Budget.ExactlyOnceRefill
import LightbridgeAuthz.Budget.ReviewLock
import LightbridgeAuthz.Budget.ReviewRace
import LightbridgeAuthz.Budget.ReviewRecovery
import LightbridgeAuthz.Budget.PolicyStore
import LightbridgeAuthz.Budget.RequestLedger
import LightbridgeAuthz.Budget.PolicyRevisions
import LightbridgeAuthz.Budget.PolicySnapshot
import LightbridgeAuthz.Budget.PolicyFleet
import LightbridgeAuthz.Budget.ReviewPool
import LightbridgeAuthz.ApiKeys.KeyTable
import LightbridgeAuthz.ApiKeys.KeyCalls
import LightbridgeAuthz.ApiKeys.KeyValidity
import LightbridgeAuthz.ApiKeys.LiveKeys
import LightbridgeAuthz.ApiKeys.RosterCalls
import LightbridgeAuthz.ApiKeys.LeadRemoval
import LightbridgeAuthz.ApiKeys.KeyIntrospection
import LightbridgeAuthz.ApiKeys.MemberCeilings
import LightbridgeAuthz.ApiKeys.KeySigning
import LightbridgeAuthz.ApiKeys.KeyExpiry
import LightbridgeAuthz.ApiKeys.SigningKeys
import LightbridgeAuthz.ApiKeys.DefaultRosters
import LightbridgeAuthz.Sessions.RefreshTokens
import LightbridgeAuthz.Sessions.TokenGrants
import LightbridgeAuthz.Sessions.SessionCalls
import LightbridgeAuthz.Sessions.SessionSteps
import LightbridgeAuthz.Sessions.RefreshChains
import LightbridgeAuthz.Sessions.AbsoluteCap
import LightbridgeAuthz.Sessions.FinalRevocation
import LightbridgeAuthz.Sessions.AuthorizedPairs
import LightbridgeAuthz.Sessions.QuotaAnswers
import LightbridgeAuthz.Sessions.ClientAssertions
import LightbridgeAuthz.Sessions.SelfIssuedTokens
import LightbridgeAuthz.Sessions.RefreshRetries
import LightbridgeAuthz.Sessions.ScopeGrants
import LightbridgeAuthz.Sessions.IdentityRoundTrip
import LightbridgeAuthz.Sessions.RevokeEndpoint
import LightbridgeAuthz.Access.RolePermissions
import LightbridgeAuthz.Budget.RefillProcedure
import LightbridgeAuthz.Budget.AccountRows
import LightbridgeAuthz.Budget.SelfRefill
import LightbridgeAuthz.Budget.ReferencedDeletion
import LightbridgeAuthz.Budget.DeletionBlocking
import LightbridgeAuthz.Budget.QuietRuns
import LightbridgeAuthz.Budget.ConditionWalks
import LightbridgeAuthz.Budget.PolicyDecisions
import LightbridgeAuthz.Budget.ApprovedAmounts
import LightbridgeAuthz.Budget.SettledRefills
import LightbridgeAuthz.Budget.ListedPages
import LightbridgeAuthz.Budget.PeriodTiling
import LightbridgeAuthz.Usage.OtlpEvents
import LightbridgeAuthz.Usage.EventAttribution
import LightbridgeAuthz.Usage.Ingestion
import LightbridgeAuthz.Usage.UsageQueries
import LightbridgeAuthz.Usage.BucketIntervals
import LightbridgeAuthz.Usage.UsageRollUps
import LightbridgeAuthz.Usage.SpendGrowth
import LightbridgeAuthz.Usage.SpendRetention
import LightbridgeAuthz.Migrations.LegacyValues
import LightbridgeAuthz.Migrations.AccountRekeying
import LightbridgeAuthz.Migrations.BillingIdentities
import LightbridgeAuthz.Library.Separation
import LightbridgeAuthz.Access.TenantSides
import LightbridgeAuthz.ApiKeys.KeySides
import LightbridgeAuthz.ApiKeys.StoreCalls
import LightbridgeAuthz.ApiKeys.StoreSides
import LightbridgeAuthz.ApiKeys.KeyWriteSides
import LightbridgeAuthz.ApiKeys.TenantSeparation
import LightbridgeAuthz.Budget.RuleDocuments
import LightbridgeAuthz.Budget.StoredRules
import LightbridgeAuthz.Library.TextPatterns
import LightbridgeAuthz.Config.EnvInterpolation
import LightbridgeAuthz.Access.BearerTokens
import LightbridgeAuthz.Access.McpGates
import LightbridgeAuthz.Library.Handovers
import LightbridgeAuthz.Access.Standings
import LightbridgeAuthz.ApiKeys.AuthorityRuns
import LightbridgeAuthz.Library.References
import LightbridgeAuthz.Access.TenancyConstraints
import LightbridgeAuthz.ApiKeys.StoreConstraints
import LightbridgeAuthz.ApiKeys.CatalogueRuns
import LightbridgeAuthz.Usage.SpendQueries
import LightbridgeAuthz.Library.RowCodecs
import LightbridgeAuthz.Budget.StoredColumns
import LightbridgeAuthz.Budget.ColumnStatements
import LightbridgeAuthz.Budget.DryRuns
