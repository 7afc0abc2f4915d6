import WartungsRemote.ControlHub.Revocation
import WartungsRemote.ControlHub.Staleness
import WartungsRemote.ControlHub.Architecture
import WartungsRemote.RemoteSession.FailedOpen
import WartungsRemote.RemoteSession.MaintenanceRecords
import WartungsRemote.Server.Supersession
import WartungsRemote.Relay.Closing
import WartungsRemote.Relay.Isolation
import WartungsRemote.Server.Opening
import WartungsRemote.Agent.UploadAtomicity
import WartungsRemote.Agent.Sampler
import WartungsRemote.Agent.SupportAccount
import WartungsRemote.Agent.Gate
import WartungsRemote.Device.Retention
import WartungsRemote.Audit.Concurrent
import WartungsRemote.RemoteSession.Tickets
import WartungsRemote.RemoteSession.TunnelStream
import WartungsRemote.RemoteSession.Lifetime
import WartungsRemote.Enrollment.SingleUse
import WartungsRemote.Auth.SecondFactor
import WartungsRemote.Auth.Challenge
import WartungsRemote.Auth.Setup
import WartungsRemote.Auth.Recovery
import WartungsRemote.Auth.Lockout
import WartungsRemote.Auth.SessionStore
import WartungsRemote.Auth.SensitiveActions
import WartungsRemote.Auth.Administrators
import WartungsRemote.Auth.Account
import WartungsRemote.ControlHub.Authentication
import WartungsRemote.Httpapi.Isolation
import WartungsRemote.AgentRelease.Pipeline
import WartungsRemote.AgentUpdate.CrashLoop
import WartungsRemote.AgentUpdate.Trusted
import WartungsRemote.AgentUpdate.Rollback
import WartungsRemote.Server.Orphans
import WartungsRemote.Server.StreamEnd
import WartungsRemote.Server.Confirmation
import WartungsRemote.Server.Download
import WartungsRemote.Alerting.Agreement
import WartungsRemote.Alerting.Uniqueness
import WartungsRemote.Appsettings.Durations
import WartungsRemote.Netutil.ClientIP
import WartungsRemote.Help.Sections
import WartungsRemote.Platform.Password
import WartungsRemote.Platform.BlockDevice
