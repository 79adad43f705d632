import GuildRoles.Text.Blank
import GuildRoles.Text.Integer
import GuildRoles.Text.Hidden
import GuildRoles.Text.Quoted
import GuildRoles.Text.Similarity
import GuildRoles.Json.Binary64
import GuildRoles.Json.Value
import GuildRoles.Json.Cursor
import GuildRoles.Json.Reader
import GuildRoles.Json.Writer
import GuildRoles.Json.Decode
import GuildRoles.Json.Stream
import GuildRoles.Sorted
import GuildRoles.Flag
import GuildRoles.UserId
import GuildRoles.Role.Basic
import GuildRoles.Role.Codec
import GuildRoles.Membership
import GuildRoles.Duration
import GuildRoles.Guild.Error
import GuildRoles.Guild.Basic
import GuildRoles.Guild.Gateway
import GuildRoles.Guild.Session
import GuildRoles.Store.Basic
import GuildRoles.Store.Source
import GuildRoles.Sync.Report
import GuildRoles.Sync.Progress
import GuildRoles.Sync.Config
import GuildRoles.Sync.Plan
import GuildRoles.Sync.Cycle
import GuildRoles.Sync.Queue
import GuildRoles.Sync.Sig
import GuildRoles.Guild.Codec
import GuildRoles.Store.Codec
import GuildRoles.Deployment
import GuildRoles.DryRun.Options
import GuildRoles.DryRun.Failure
import GuildRoles.DryRun.Fixture
import GuildRoles.DryRun.Printout
import GuildRoles.DryRun.Run
import GuildRoles.Main
import GuildRoles.Proofs.Decimal
import GuildRoles.Proofs.IdOrder
import GuildRoles.Proofs.SortedSets
import GuildRoles.Proofs.GuildState
import GuildRoles.Proofs.MemberFetch
import GuildRoles.Proofs.PolicyState
import GuildRoles.Proofs.CycleSteps
import GuildRoles.Proofs.Plans
import GuildRoles.Proofs.MemberPhase
import GuildRoles.Proofs.Holding
import GuildRoles.Proofs.MemberFrame
import GuildRoles.Proofs.RoleTable
import GuildRoles.Proofs.HealthyRun
import GuildRoles.Proofs.MemberSync
import GuildRoles.Proofs.Reconcile
import GuildRoles.Proofs.Convergence
import GuildRoles.Proofs.AdminCalls
import GuildRoles.Proofs.CycleReport
import GuildRoles.Proofs.Resolution
import GuildRoles.Proofs.GuildCalls
import GuildRoles.Proofs.ProgressStream
import GuildRoles.Sync.Scheduler
import GuildRoles.Proofs.Scheduling
import GuildRoles.Proofs.PlanOutcomes
import GuildRoles.Proofs.RoleCodec
import GuildRoles.Proofs.RoleUpdates
import GuildRoles.Proofs.SigCommands
import GuildRoles.Proofs.ClashMessages
