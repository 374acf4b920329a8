import CodeMaster.Lib.Table
import CodeMaster.Lib.Transition
import CodeMaster.Lib.Replay
import CodeMaster.Lib.FirstFree
import CodeMaster.Lib.FixedWidth
import CodeMaster.Lib.Descending
import CodeMaster.Lib.Template
import CodeMaster.Lib.Reconciliation
import CodeMaster.Lib.Exec
import CodeMaster.Lib.Calls
import CodeMaster.Core.Models
import CodeMaster.Data.Schema
import CodeMaster.Data.Repositories
import CodeMaster.Data.AuditLogRepository
import CodeMaster.Engine.AccessPolicyEvaluator
import CodeMaster.Engine.HardwareSlotSyncWorker
import CodeMaster.Engine.HardwareSlotSyncCalls
import CodeMaster.Engine.AutoLockStateMachine
import CodeMaster.Engine.AutoLockClock
import CodeMaster.Engine.DoorOperationService
import CodeMaster.Engine.MqttLockProviders
import CodeMaster.Engine.MqttBackgroundService
import CodeMaster.Proofs.Engine.AutoLock
import CodeMaster.Proofs.Engine.AutoLockMethods
import CodeMaster.Proofs.Engine.NoStall
import CodeMaster.Proofs.Engine.AnnouncedTimers
import CodeMaster.Proofs.Engine.StaleAttempt
import CodeMaster.Proofs.Engine.SwitchedOff
import CodeMaster.Proofs.Engine.AutoLockView
import CodeMaster.Proofs.Engine.RepeatedReports
import CodeMaster.Proofs.Engine.DoorOperations
import CodeMaster.Proofs.Engine.DoorStates
import CodeMaster.Proofs.Engine.Engagement
import CodeMaster.Proofs.Engine.ReportedSuccess
import CodeMaster.Proofs.Engine.MqttConnection
import CodeMaster.Proofs.Engine.VerifyPin
import CodeMaster.Proofs.Engine.SaltedHashes
import CodeMaster.Proofs.Engine.Evaluate
import CodeMaster.Proofs.Engine.DoorScoping
import CodeMaster.Proofs.Engine.LockedOut
import CodeMaster.Proofs.Engine.Agreement
import CodeMaster.Proofs.Engine.SlotMemory
import CodeMaster.Proofs.Engine.Reconcile
import CodeMaster.Proofs.Engine.CutShort
import CodeMaster.Proofs.Engine.StandingSlots
import CodeMaster.Proofs.Engine.Allocations
import CodeMaster.Proofs.Engine.SecondPass
import CodeMaster.Engine.ConcurrentEvaluation
import CodeMaster.Proofs.Engine.UseLimits
import CodeMaster.Proofs.Engine.Accounting
import CodeMaster.Proofs.Engine.OpeningActions
import CodeMaster.Web.UsersController
import CodeMaster.Web.AccessPointsController
import CodeMaster.Web.AccessLogsController
import CodeMaster.Web.ConcurrentSavePolicy
import CodeMaster.Mcp.DoorTools
import CodeMaster.Mcp.SseSession
import CodeMaster.Engine.DoorLocks
import CodeMaster.Engine.HomeAssistantDiscoveryService
import CodeMaster.Proofs.Engine.Discovery
import CodeMaster.Proofs.Engine.CommandTopics
import CodeMaster.Proofs.Engine.ListenedNode
import CodeMaster.Proofs.Web.SavePolicy
import CodeMaster.Proofs.Web.SetPin
import CodeMaster.Proofs.Web.DeletedDoor
import CodeMaster.Proofs.Web.DoorSettings
import CodeMaster.Proofs.Web.UnlockDuration
import CodeMaster.Proofs.Web.LogPages
import CodeMaster.Proofs.Web.PartialUpdate
import CodeMaster.Proofs.Web.StandingEdit
import CodeMaster.Proofs.Provisioning
import CodeMaster.Proofs.UserPolicies
import CodeMaster.Proofs.GuestWindow
import CodeMaster.Proofs.StoredPolicy
import CodeMaster.Proofs.OvernightWindow
import CodeMaster.Ui.ScheduleEditor
import CodeMaster.Proofs.ShownSchedule
import CodeMaster.Ui.AuditStore
import CodeMaster.Proofs.AuditFilter
import CodeMaster.Proofs.SseDelivery
import CodeMaster.Administration
import CodeMaster.DoorCommands
import CodeMaster.Engine.InboundEvents
import CodeMaster.Proofs.Engine.InboundEvents
import CodeMaster.Proofs.Engine.KeypadNotifications
import CodeMaster.Proofs.AuditTrail
import CodeMaster.Proofs.RecentLogs
import CodeMaster.Proofs.AuditEntries
import CodeMaster.Proofs.StaleCodes
import CodeMaster.Lib.Fanout
import CodeMaster.Lib.EventStream
import CodeMaster.Web.LiveFeed
import CodeMaster.Proofs.Web.LiveFeed
import CodeMaster.Mcp.McpProtocol
import CodeMaster.Mcp.CodeMasterMcpServer
import CodeMaster.Proofs.McpServer
import CodeMaster.Server
import CodeMaster.Proofs.Server.Effects
import CodeMaster.Proofs.Server.Integrity
import CodeMaster.Proofs.Server.Provenance
import CodeMaster.Proofs.Server.Revocation
import CodeMaster.Proofs.Server.History
import CodeMaster.Proofs.Engine.LockingDeadline
import CodeMaster.Ui.DoorStore
import CodeMaster.Proofs.DoorStore
import CodeMaster.Lib.Replica
import CodeMaster.Ui.UserStore
import CodeMaster.UserSession
import CodeMaster.Proofs.UserSession
import CodeMaster.Lib.Json
import CodeMaster.Engine.JsonDocument
import CodeMaster.Ui.DoorSetupWizard
import CodeMaster.Proofs.Server.DoorSetup
import CodeMaster.Engine.MqttTopicDiscoveryService
import CodeMaster.Proofs.Server.Suggestions
import CodeMaster.Proofs.DoorSession
import CodeMaster.Lib.Agreement
import CodeMaster.Web.ForwardAuthMiddleware
import CodeMaster.Proofs.ForwardAuth
