import WartungsRemote.AgentUpdate.Verify

/-!
# The policy of the agent

The flags with which the administrator of a device can forbid remote actions, the operations of the
agent that the server can cause, and **which flag permits which operation**. Where the agent looks
at the flags is not said here.
-/

namespace WartungsRemote.Agent

open AgentUpdate (AgentUpdateParams)

structure AgentPolicy where
  terminal : Bool
  sshTunnel : Bool
  rdpTunnel : Bool
  filesRead : Bool
  filesWrite : Bool
  serviceControl : Bool
  processTerminate : Bool
  powerControl : Bool
  selfUpdate : Bool
  deriving DecidableEq

/-- The policy of `DefaultAgent`. -/
def AgentPolicy.default : AgentPolicy where
  terminal := true
  sshTunnel := true
  rdpTunnel := true
  filesRead := true
  filesWrite := true
  serviceControl := true
  processTerminate := true
  powerControl := true
  selfUpdate := true

/-- Some tunnel is allowed, so there is a support account. -/
def AgentPolicy.tunnels (policy : AgentPolicy) : Bool :=
  policy.sshTunnel || policy.rdpTunnel

/-! ### Operations -/

structure LogQuery where
  query : String
  sinceTime : Option ℤ
  untilTime : Option ℤ
  level : String
  limit : ℤ
  deriving DecidableEq

/-- An operation of the provider, a connection to a local port, or an update of the agent. -/
inductive Op
  | inventory
  | openTerminal
  | listServices
  | startService (name : String)
  | stopService (name : String)
  | restartService (name : String)
  | listProcesses
  | terminateProcess (pid : Int32) (startTimeUnixMS : Int64)
  | listDir (path : String)
  | mkdir (path : String)
  | rename (src dst : String)
  | delete (path : String)
  | readFile (path : String)
  | writeFile (path : String)
  | queryLogs (q : LogQuery)
  | ensureSupportAccount
  | beginUpdate (p : AgentUpdateParams)
  /-- `DialContext` with `tcp`. -/
  | dial (target : String)
  deriving DecidableEq

def sshTarget : String := "127.0.0.1:22"

def rdpTarget : String := "127.0.0.1:3389"

/-- The policy permits the operation. Inventory and process list need no permission. -/
def AgentPolicy.permits (policy : AgentPolicy) : Op → Bool
  | .inventory | .listProcesses => true
  | .openTerminal => policy.terminal
  | .listServices | .startService _ | .stopService _ | .restartService _ => policy.serviceControl
  | .terminateProcess _ _ => policy.processTerminate
  | .listDir _ | .readFile _ | .queryLogs _ => policy.filesRead
  | .mkdir _ | .rename _ _ | .delete _ | .writeFile _ => policy.filesWrite
  | .ensureSupportAccount => policy.tunnels
  | .beginUpdate _ => policy.selfUpdate
  | .dial target =>
    target == sshTarget && policy.sshTunnel || target == rdpTarget && policy.rdpTunnel

end WartungsRemote.Agent
