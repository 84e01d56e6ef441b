import DesignHarness.Library.Except
import DesignHarness.Library.Dict
import DesignHarness.Library.Runs
import DesignHarness.Core.Errors
import DesignHarness.Contracts.Records
import DesignHarness.Domain.Catalog
import DesignHarness.Domain.StateMachine
import DesignHarness.Domain.Plan
import DesignHarness.Domain.Commands
import DesignHarness.Domain.Membership
import DesignHarness.Domain.Aggregation
import DesignHarness.Domain.Members
import DesignHarness.Domain.Refresh
import DesignHarness.Domain.Service
import DesignHarness.Domain.Decisions
import DesignHarness.Domain.Moves
import DesignHarness.Domain.Invariant
import DesignHarness.Domain.History
import DesignHarness.Domain.Completion
import DesignHarness.Domain.StartGate
import DesignHarness.Domain.Reaggregation
import DesignHarness.Library.Script
import DesignHarness.Library.EventStore
import DesignHarness.Library.EventStoreRules
import DesignHarness.Services.PptStart
import DesignHarness.Services.Records
import DesignHarness.Storage.Objects
import DesignHarness.Storage.Store
import DesignHarness.Storage.Projections
import DesignHarness.Storage.Recovery
import DesignHarness.Storage.History
import DesignHarness.Library.Sums
import DesignHarness.Services.Approvals
import DesignHarness.Services.RetryBudget
import DesignHarness.Services.BudgetMoves
import DesignHarness.Services.BudgetLedger
import DesignHarness.Services.BudgetPolicy
import DesignHarness.Services.BudgetOperations
import DesignHarness.Services.BudgetRuns
import DesignHarness.Services.PendingDecisions
import DesignHarness.Services.ResolveApproval
import DesignHarness.Services.DecisionKeys
import DesignHarness.Services.BudgetHistory
import DesignHarness.Library.Parts
import DesignHarness.Library.Revisions
import DesignHarness.Core.ConfigKernel
import DesignHarness.Storage.ConfigRevisions
import DesignHarness.Services.AgentConfig
import DesignHarness.Services.TaskConfig
import DesignHarness.Services.TaskConfigRules
import DesignHarness.Services.InstanceConfigRules
import DesignHarness.Services.ConfigRebaseRules
import DesignHarness.Services.ConfigHistory
import DesignHarness.Services.TaskIntakes
import DesignHarness.Services.TaskIntakeRules
import DesignHarness.Services.TaskIntakeOperations
import DesignHarness.Services.TaskIntakeHistory
import DesignHarness.Services.Publications
import DesignHarness.Services.PublicationRules
import DesignHarness.Services.PublicationOperations
import DesignHarness.Services.PublicationBatches
import DesignHarness.Services.PublicationRecovery
import DesignHarness.Services.PublicationCalls
import DesignHarness.Services.AssetRecovery
import DesignHarness.Services.AssetHistory
import DesignHarness.Services.RuntimeSagas
import DesignHarness.Services.RuntimeSettingsRules
import DesignHarness.Services.RuntimeSagaRules
import DesignHarness.Services.RuntimeSagaSteps
import DesignHarness.Services.RuntimeSettingsHistory
import DesignHarness.Services.AssetQuota
import DesignHarness.Services.AssetVisibility
import DesignHarness.Services.StatusRecordings
import DesignHarness.Services.TerminalNotifications
import DesignHarness.Services.TaskArchiveRuns
import DesignHarness.Services.DeliverySelection
import DesignHarness.Services.InboxLookup
import DesignHarness.Domain.StatusPaths
import DesignHarness.Domain.Grading
import DesignHarness.Storage.CommandCalls
import DesignHarness.Storage.Ndjson
import DesignHarness.Services.RevisionCalls
import DesignHarness.Services.UsageRules
import DesignHarness.Services.RetryLineages
import DesignHarness.Library.Mapping
import DesignHarness.Services.OverrideDocuments
import DesignHarness.Adapters.ImageUsageRules
import DesignHarness.Library.Regex
import DesignHarness.Domain.CitationRules
import DesignHarness.Domain.ProposalRules
import DesignHarness.Domain.TextPatterns
import DesignHarness.Domain.ProposalPlans
import DesignHarness.Services.PlanDraftRules
import DesignHarness.Library.EventStoreCounts
import DesignHarness.Library.Simulation
import DesignHarness.Storage.CommandCommits
import DesignHarness.Storage.CommandHistory
import DesignHarness.Storage.CommandRefinement
import DesignHarness.Library.Threads
import DesignHarness.Services.ProcessSupervisor
import DesignHarness.Services.ProcessSupervisorHistory
import DesignHarness.Services.StartOperationHistory
import DesignHarness.Api.PaginationReads
