import Lxcup.Lib.Machine
import Lxcup.Lib.Table
import Lxcup.Lib.Text
import Lxcup.Lib.Numerals
import Lxcup.Lib.Codes
import Lxcup.Lib.LockOrder
import Lxcup.Lib.Lists
import Lxcup.Lib.Occurrences
import Lxcup.Lib.Utf8
import Lxcup.Lib.Slices
import Lxcup.Lib.Sections
import Lxcup.Lib.Columns
import Lxcup.Lib.WriteBehind
import Lxcup.Lib.Outcome
import Lxcup.Lib.Program
import Lxcup.Core.Ids
import Lxcup.Core.Resource
import Lxcup.Core.Target
import Lxcup.Core.Schedule
import Lxcup.Core.Scan
import Lxcup.Core.Plan
import Lxcup.Core.PlanHash
import Lxcup.Core.Execution
import Lxcup.Core.Secret
import Lxcup.Core.Agent
import Lxcup.Core.Enrollment
import Lxcup.Core.TelemetryAlerts
import Lxcup.Ansible.Contract
import Lxcup.Ansible.Coordinator
import Lxcup.Ansible.Exclusivity
import Lxcup.Ansible.Consistency
import Lxcup.Persistence.JobTable
import Lxcup.Persistence.Database
import Lxcup.Persistence.Cascade
import Lxcup.Persistence.DockerEvents
import Lxcup.Apt.Output
import Lxcup.Apt.Texts
import Lxcup.Agent.Command
import Lxcup.Agent.Host
import Lxcup.Agent.CommandCache
import Lxcup.Agent.WorkflowRounds
import Lxcup.Agent.PackageInventory
import Lxcup.Agent.Heartbeat
import Lxcup.Agent.Client
import Lxcup.Agent.BaseUrl
import Lxcup.Agent.Versions
import Lxcup.Agent.WingetIds
import Lxcup.Agent.WingetTable
import Lxcup.Execution.Planner
import Lxcup.Execution.Coordinator
import Lxcup.Execution.Invariant
import Lxcup.Execution.Safety
import Lxcup.Secrets.Store
import Lxcup.Secrets.Encrypted
import Lxcup.Secrets.Refinement
import Lxcup.Secrets.Failures
import Lxcup.Secrets.MasterKey
import Lxcup.Worker.Execution
import Lxcup.Worker.Recovery
import Lxcup.Worker.Run
import Lxcup.Worker.Loop
import Lxcup.Worker.Outcome
import Lxcup.Worker.Idle
import Lxcup.Worker.PlaybookOutput
import Lxcup.Worker.Redaction
import Lxcup.Worker.Recap
import Lxcup.Worker.TaskResults
import Lxcup.Server.Api
import Lxcup.Server.WindowsWorkflows
import Lxcup.Server.Schedules
import Lxcup.Server.DeleteTarget
import Lxcup.Server.Locks
import Lxcup.Server.Inventory
import Lxcup.Server.UpgradableList
import Lxcup.Server.PackagePolicy
import Lxcup.Server.Producers
import Lxcup.Server.WindowsResults
import Lxcup.Server.Executions
import Lxcup.Server.Upkeep
import Lxcup.Server.Integrity
import Lxcup.Server.Removal
import Lxcup.Server.FailedCreations
import Lxcup.Server.SupportSummary
import Lxcup.Queue.Fleet
import Lxcup.Queue.Steps
import Lxcup.Queue.DeadEnd
import Lxcup.Queue.Ownership
import Lxcup.Queue.Barrier
import Lxcup.Queue.Reconciliation
import Lxcup.Queue.WayOut
import Lxcup.Queue.Lifting
import Lxcup.Submission.Service
import Lxcup.Submission.Steps
import Lxcup.Submission.Provenance
import Lxcup.Submission.PolicyBinding
import Lxcup.Submission.DisplayedPolicy
import Lxcup.Submission.Durability
import Lxcup.Submission.ReconciliationKeys
import Lxcup.Submission.PlanUse
import Lxcup.Submission.Resend
import Lxcup.Submission.Deletion
import Lxcup.Reports.Service
import Lxcup.Reports.Steps
import Lxcup.Reports.Regular
import Lxcup.Reports.Claims
import Lxcup.Reports.Plans
import Lxcup.Executions.Service
import Lxcup.Executions.Confirmations
import Lxcup.Executions.Outcomes
import Lxcup.Executions.Tables
import Lxcup.Events.Writers
import Lxcup.Events.Steps
import Lxcup.Events.Integrity
import Lxcup.Credentials.Service
import Lxcup.Credentials.Revocation
import Lxcup.Credentials.Invalidation
import Lxcup.Auth.Service
import Lxcup.Auth.Steps
import Lxcup.Auth.Admins
import Lxcup.Auth.LastAdmin
import Lxcup.Auth.Sessions
import Lxcup.Auth.Passwords
import Lxcup.WriteBack.Schedules
import Lxcup.WriteBack.Targets
import Lxcup.WriteBack.StandardPolicy
import Lxcup.Agreement.Retry
import Lxcup.Agreement.WindowsClaims
import Lxcup.Agreement.Docker
import Lxcup.Agreement.DockerInventory
import Lxcup.Enrollments.Service
import Lxcup.Enrollments.FailedRequests
import Lxcup.Enrollments.Interleavings
import Lxcup.Enrollments.Convergence
import Lxcup.Onboarding.Followups
import Lxcup.Onboarding.Sequence
import Lxcup.Heartbeats.Telemetry
import Lxcup.Heartbeats.Overlap
import Lxcup.Heartbeats.Packages
import Lxcup.Heartbeats.Pending
import Lxcup.Schedules.Keys
import Lxcup.Schedules.Packages
import Lxcup.Schedules.Dispatch
import Lxcup.Schedules.Advance
import Lxcup.Schedules.Catchup
import Lxcup.Lib.Recorded
import Lxcup.Lib.Runs
import Lxcup.Docker.Host
import Lxcup.Docker.Agent
import Lxcup.Docker.Commands
import Lxcup.Docker.ComposeUpdate
import Lxcup.Docker.Controller
import Lxcup.Docker.EndToEnd
import Lxcup.Updater.Artifacts
import Lxcup.Updater.Service
import Lxcup.Updater.Safety
import Lxcup.Lib.Routes
import Lxcup.Lib.Pool
import Lxcup.Access.Routes
import Lxcup.Access.Rules
import Lxcup.Access.Matrix
import Lxcup.Access.Audit
import Lxcup.Access.Middleware
import Lxcup.Access.Guarded
import Lxcup.Access.Login
import Lxcup.Access.AuditLog
import Lxcup.Lib.Counts
import Lxcup.Terminal.Sessions
import Lxcup.Terminal.Guarded
import Lxcup.Terminal.Registry
