import WartungsRemote.Agent.Policy
import WartungsRemote.Protocol.Stream
import WartungsRemote.Transition.Run

/-!
# What the agent does with messages

The read loop of the agent gets text messages and binary frames from the server. A text message is
an envelope with a type, an id and a payload; the answer to a `device_command` or a `session_open`
has that id as its `request_id`. Terminals, tunnels and uploads stay open after that, and frames
write to them.

The handlers are those of `internal/agentcore`, branch by branch, with their codes and texts. What
they do is kept in a **trace**: the operations they call, the bytes they write and the envelopes
they send. The results of the operations come with every message and can be anything; the values
that the provider lists (services, processes, files, log entries, the inventory) are only passed on,
and so of any type. How JSON is read is a parameter; that an envelope is written is assumed, except
for the report of a new support password.
-/

namespace WartungsRemote.Agent.Commands

open AgentUpdate (AgentUpdateParams)
open Protocol

/-! ### Messages from the server -/

inductive MessageType
  | inventoryRequest
  | sessionOpen
  | terminalResize
  | terminalSignal
  | sessionClose
  | terminalClose
  | sessionPrivilegeUpdate
  | deviceCommand
  | protocolError
  deriving DecidableEq

/-- The types that `handleMessage` knows. -/
def MessageType.parse : String → Option MessageType
  | "inventory_request" => some .inventoryRequest
  | "session_open" => some .sessionOpen
  | "terminal_resize" => some .terminalResize
  | "terminal_signal" => some .terminalSignal
  | "session_close" => some .sessionClose
  | "terminal_close" => some .terminalClose
  | "session_privilege_update" => some .sessionPrivilegeUpdate
  | "device_command" => some .deviceCommand
  | "protocol_error" => some .protocolError
  | _ => none

inductive CommandType
  | servicesList
  | serviceStart
  | serviceStop
  | serviceRestart
  | processesList
  | processTerminate
  | filesList
  | filesMkdir
  | filesRename
  | filesDelete
  | filesDownload
  | filesUpload
  | logsQuery
  | agentUpdate
  | rotateSupportCredential
  deriving DecidableEq

def CommandType.parse : String → Option CommandType
  | "services.list" => some .servicesList
  | "services.start" => some .serviceStart
  | "services.stop" => some .serviceStop
  | "services.restart" => some .serviceRestart
  | "processes.list" => some .processesList
  | "processes.terminate" => some .processTerminate
  | "files.list" => some .filesList
  | "files.mkdir" => some .filesMkdir
  | "files.rename" => some .filesRename
  | "files.delete" => some .filesDelete
  | "files.download" => some .filesDownload
  | "files.upload" => some .filesUpload
  | "logs.query" => some .logsQuery
  | "agent.update" => some .agentUpdate
  | "support_credential.rotate" => some .rotateSupportCredential
  | _ => none

abbrev RawPayload : Type := List UInt8

/-- The fields of an `Envelope` that the agent reads. -/
structure Envelope where
  protocol : ℤ
  type : String
  messageID : String
  payload : RawPayload

structure DeviceCommandPayload where
  commandType : String
  params : RawPayload

structure SessionOpenPayload where
  sessionID : String
  kind : String

structure SessionClosePayload where
  sessionID : String

structure TerminalResizePayload where
  sessionID : String
  cols : ℤ
  rows : ℤ

structure ProcessTerminateParams where
  pid : Int32
  startTimeUnixMS : Int64

structure FilesRenameParams where
  src : String
  dst : String

/-- `FilesDownloadParams` and `FilesUploadParams`. -/
structure FilesStreamParams where
  path : String
  streamID : String

/-- `json.Unmarshal` into the types above, and `%q` of `fmt`. -/
structure Library where
  envelope : List UInt8 → Option Envelope
  deviceCommand : RawPayload → Option DeviceCommandPayload
  sessionOpen : RawPayload → Option SessionOpenPayload
  sessionClose : RawPayload → Option SessionClosePayload
  terminalResize : RawPayload → Option TerminalResizePayload
  /-- The name in `ServiceActionParams`. -/
  serviceAction : RawPayload → Option String
  processTerminate : RawPayload → Option ProcessTerminateParams
  /-- The path in `FilesListParams`, `FilesMkdirParams` and `FilesDeleteParams`. -/
  filesPath : RawPayload → Option String
  filesRename : RawPayload → Option FilesRenameParams
  filesStream : RawPayload → Option FilesStreamParams
  logsQuery : RawPayload → Option LogQuery
  agentUpdate : RawPayload → Option AgentUpdateParams
  quote : String → String

def decode (lib : Library) (raw : List UInt8) : Option Envelope :=
  (lib.envelope raw).filter fun env ↦ !(env.protocol == 0 || env.type == "" || env.messageID == "")

/-- `DecodePayload`, and `decodeParams`. -/
def decodePayload {β : Type} (unmarshal : RawPayload → Option β) (payload : RawPayload) :
    Option β :=
  if payload = [] then none else unmarshal payload

/-! ### What the agent does -/

inductive Data (α : Type)
  | null
  | value (a : α)
  | size (n : Int64)
  deriving DecidableEq

/-- The payload of an envelope that the agent sends. -/
inductive Outgoing (α : Type)
  | inventoryResponse (inventory : α)
  | commandResult (status code message : String) (data : Data α)
  | sessionOpenResult (sessionID status code message : String)
  | sessionClose (sessionID reason : String)
  | supportCredentialReport (username password : String)
  deriving DecidableEq

/-- Something that stays open. -/
inductive Opened
  | terminal
  | tunnel (target : String)
  | download (path : String)
  | upload (path : String)
  deriving DecidableEq

/-- The operation that opens it. -/
def Opened.op : Opened → Op
  | terminal => .openTerminal
  | tunnel target => .dial target
  | download path => .readFile path
  | upload path => .writeFile path

/-- What is done with something that is open. -/
inductive Use
  | write (payload : List UInt8)
  | resize (cols rows : ℤ)
  | close
  deriving DecidableEq

inductive Action (α : Type)
  | call (op : Op)
  /-- Something opened, by its number, is used. -/
  | use (r : ℕ) (u : Use)
  /-- An envelope is written, with its `request_id`. -/
  | send (requestID : Option String) (m : Outgoing α)
  /-- The agent is going to exit. -/
  | exit
  deriving DecidableEq

/-- The results of the operations. -/
structure Provider (α : Type) where
  inventory : Except String α
  openTerminal : Except String Unit
  listServices : Except String α
  startService : String → Except String Unit
  stopService : String → Except String Unit
  restartService : String → Except String Unit
  listProcesses : Except String α
  terminateProcess : Int32 → Int64 → Except String Unit
  listDir : String → Except String α
  mkdir : String → Except String Unit
  rename : String → String → Except String Unit
  delete : String → Except String Unit
  readFile : String → Except String Int64
  writeFile : String → Except String Unit
  queryLogs : LogQuery → Except String α
  ensureSupportAccount : Except String (String × String)
  beginUpdate : AgentUpdateParams → Except String Unit
  dial : String → Except String Unit
  /-- The report of a support password is written. -/
  report : Bool
  /-- A write to an upload succeeds. -/
  write : Bool
  /-- `Close` of an upload. -/
  close : Except String Unit

/-- What is open under an id: the maps of `sessionManager` and `fileTransferManager`. -/
abbrev Table : Type := List (UUID × ℕ)

namespace Table

def get (table : Table) (id : UUID) : Option ℕ :=
  (table.find? fun e ↦ e.1 = id).map Prod.snd

def remove (table : Table) (id : UUID) : Table :=
  table.filter fun e ↦ e.1 ≠ id

def add (table : Table) (id : UUID) (r : ℕ) : Table :=
  (id, r) :: table.remove id

end Table

structure State (α : Type) where
  sessions : Table
  uploads : Table
  /-- The runs of `pumpStream`. -/
  pumps : List (UUID × ℕ)
  /-- The started runs of `ensureSupportAccountProvisioned`. -/
  provisioning : ℕ
  /-- What was opened so far. -/
  opened : List Opened
  trace : List (Action α)

/-- The control channel is established. -/
def State.init (α : Type) (policy : AgentPolicy) : State α where
  sessions := []
  uploads := []
  pumps := []
  provisioning := if policy.tunnels then 1 else 0
  opened := []
  trace := []

/-- `sessionID.String()`. -/
def uuidString (id : UUID) : String :=
  String.ofList (Uuid.string id)

def codeOK : String := "ok"

def codeInvalidRequest : String := "invalid_request"

def codeUnsupportedCapability : String := "unsupported_capability"

def codePermissionDenied : String := "permission_denied"

def codeInternalError : String := "internal_error"

namespace State

variable {α : Type} (s : State α)

/-! ### Replies -/

def act (a : Action α) : State α :=
  { s with trace := s.trace ++ [a] }

/-- An operation is called. -/
def call (op : Op) : State α :=
  s.act (.call op)

/-- What an operation has opened gets the next number. -/
def keep (o : Opened) : State α :=
  { s with opened := s.opened ++ [o] }

def replyCommand (requestID status code message : String) (data : Data α) : State α :=
  s.act (.send (some requestID) (.commandResult status code message data))

def replySessionOpenResult (requestID sessionID status code message : String) : State α :=
  s.act (.send (some requestID) (.sessionOpenResult sessionID status code message))

def deny (requestID message : String) : State α :=
  s.replyCommand requestID "error" codePermissionDenied message .null

def replyResult (requestID : String) : Except String (Data α) → State α
  | .error err => s.replyCommand requestID "error" codeInternalError err .null
  | .ok data => s.replyCommand requestID "success" codeOK "" data

/-! ### Commands -/

/-- A branch that the policy can deny. -/
def gated (requestID : String) (allowed : Bool) (message : String) (rest : State α) : State α :=
  if allowed then rest else s.deny requestID message

/-- A branch that reads parameters. -/
def withParams {β : Type} (requestID : String) (params : Option β) (rest : β → State α) : State α :=
  match params with
  | some p => rest p
  | none => s.replyCommand requestID "error" codeInvalidRequest "malformed params" .null

/-- A branch that reads a stream id. -/
def withStreamID (requestID streamID : String) (rest : UUID → State α) : State α :=
  match Uuid.parse streamID.toList with
  | some id => rest id
  | none => s.replyCommand requestID "error" codeInvalidRequest "invalid stream_id" .null

/-- An operation is called, and its result is the answer. -/
def run (requestID : String) (op : Op) (result : Except String (Data α)) : State α :=
  (s.call op).replyResult requestID result

def filesDownload (provider : Provider α) (requestID path : String) : State α :=
  let s := s.call (.readFile path)
  match provider.readFile path with
  | .error err => s.replyResult requestID (.error err)
  | .ok size => (s.keep (.download path)).replyResult requestID (.ok (.size size))

def filesUpload (provider : Provider α) (requestID path : String) (streamID : UUID) : State α :=
  let s := s.call (.writeFile path)
  match provider.writeFile path with
  | .error err => s.replyResult requestID (.error err)
  | .ok _ =>
    let s := { s.keep (.upload path) with uploads := s.uploads.add streamID s.opened.length }
    s.replyResult requestID (.ok .null)

def agentUpdate (provider : Provider α) (requestID : String) (p : AgentUpdateParams) : State α :=
  let s := s.call (.beginUpdate p)
  match provider.beginUpdate p with
  | .error err => s.replyCommand requestID "error" codeInternalError err .null
  | .ok _ => (s.replyCommand requestID "success" codeOK "update staged, restarting" .null).act .exit

def rotateSupportCredential (provider : Provider α) (requestID : String) : State α :=
  let s := s.call .ensureSupportAccount
  match provider.ensureSupportAccount with
  | .error err => s.replyCommand requestID "error" codeInternalError err .null
  | .ok (username, password) =>
    if provider.report then
      (s.act (.send none (.supportCredentialReport username password))).replyCommand requestID
        "success" codeOK "support credential rotated" .null
    else
      s.replyCommand requestID "error" codeInternalError
        "rotated locally but failed to report to server" .null

/-- The branches of `handleDeviceCommand`. -/
def command (policy : AgentPolicy) (lib : Library) (provider : Provider α) (id : String)
    (params : RawPayload) : CommandType → State α
  | .servicesList =>
    s.gated id policy.serviceControl "service control disabled by local agent policy" <|
      s.run id .listServices (provider.listServices.map .value)
  | .serviceStart =>
    s.gated id policy.serviceControl "service control disabled by local agent policy" <|
      s.withParams id (decodePayload lib.serviceAction params) fun name ↦
        s.run id (.startService name) ((provider.startService name).map fun _ ↦ .null)
  | .serviceStop =>
    s.gated id policy.serviceControl "service control disabled by local agent policy" <|
      s.withParams id (decodePayload lib.serviceAction params) fun name ↦
        s.run id (.stopService name) ((provider.stopService name).map fun _ ↦ .null)
  | .serviceRestart =>
    s.gated id policy.serviceControl "service control disabled by local agent policy" <|
      s.withParams id (decodePayload lib.serviceAction params) fun name ↦
        s.run id (.restartService name) ((provider.restartService name).map fun _ ↦ .null)
  | .processesList => s.run id .listProcesses (provider.listProcesses.map .value)
  | .processTerminate =>
    s.gated id policy.processTerminate "process termination disabled by local agent policy" <|
      s.withParams id (decodePayload lib.processTerminate params) fun p ↦
        s.run id (.terminateProcess p.pid p.startTimeUnixMS)
          ((provider.terminateProcess p.pid p.startTimeUnixMS).map fun _ ↦ .null)
  | .filesList =>
    s.gated id policy.filesRead "file access disabled by local agent policy" <|
      s.withParams id (decodePayload lib.filesPath params) fun path ↦
        s.run id (.listDir path) ((provider.listDir path).map .value)
  | .filesMkdir =>
    s.gated id policy.filesWrite "file write disabled by local agent policy" <|
      s.withParams id (decodePayload lib.filesPath params) fun path ↦
        s.run id (.mkdir path) ((provider.mkdir path).map fun _ ↦ .null)
  | .filesRename =>
    s.gated id policy.filesWrite "file write disabled by local agent policy" <|
      s.withParams id (decodePayload lib.filesRename params) fun p ↦
        s.run id (.rename p.src p.dst) ((provider.rename p.src p.dst).map fun _ ↦ .null)
  | .filesDelete =>
    s.gated id policy.filesWrite "file write disabled by local agent policy" <|
      s.withParams id (decodePayload lib.filesPath params) fun path ↦
        s.run id (.delete path) ((provider.delete path).map fun _ ↦ .null)
  | .logsQuery =>
    s.gated id policy.filesRead "log access disabled by local agent policy" <|
      s.withParams id (decodePayload lib.logsQuery params) fun q ↦
        s.run id (.queryLogs q) ((provider.queryLogs q).map .value)
  | .filesDownload =>
    s.gated id policy.filesRead "file access disabled by local agent policy" <|
      s.withParams id (decodePayload lib.filesStream params) fun p ↦
        s.withStreamID id p.streamID fun _ ↦ s.filesDownload provider id p.path
  | .agentUpdate =>
    s.gated id policy.selfUpdate "self-update disabled by local agent policy" <|
      s.withParams id (decodePayload lib.agentUpdate params) fun p ↦ s.agentUpdate provider id p
  | .rotateSupportCredential =>
    s.gated id policy.tunnels "SSH/RDP tunnel disabled by local agent policy" <|
      s.rotateSupportCredential provider id
  | .filesUpload =>
    s.gated id policy.filesWrite "file write disabled by local agent policy" <|
      s.withParams id (decodePayload lib.filesStream params) fun p ↦
        s.withStreamID id p.streamID fun streamID ↦ s.filesUpload provider id p.path streamID

def handleDeviceCommand (policy : AgentPolicy) (lib : Library) (provider : Provider α)
    (env : Envelope) : State α :=
  match decodePayload lib.deviceCommand env.payload with
  | none =>
    s.replyCommand env.messageID "error" codeInvalidRequest "malformed device_command" .null
  | some cmd =>
    match CommandType.parse cmd.commandType with
    | some type => s.command policy lib provider env.messageID cmd.params type
    | none =>
      s.replyCommand env.messageID "error" codeUnsupportedCapability "unknown command_type" .null

/-! ### Sessions -/

/-- A session is added, and its pump started. -/
def addSession (id : UUID) (o : Opened) : State α :=
  { s.keep o with
    sessions := s.sessions.add id s.opened.length
    pumps := s.pumps ++ [(id, s.opened.length)] }

def openTerminalSession (policy : AgentPolicy) (provider : Provider α) (requestID : String)
    (id : UUID) : State α :=
  if policy.terminal then
    let s := s.call .openTerminal
    match provider.openTerminal with
    | .error _ =>
      s.replySessionOpenResult requestID (uuidString id) "error" codeInternalError
        "failed to open terminal"
    | .ok _ =>
      (s.addSession id .terminal).replySessionOpenResult requestID (uuidString id) "success"
        codeOK ""
  else
    s.replySessionOpenResult requestID (uuidString id) "error" codePermissionDenied
      "terminal disabled by local agent policy"

def openTunnelSession (provider : Provider α) (requestID : String) (id : UUID) (target : String)
    (allowed : Bool) : State α :=
  if allowed then
    let s := s.call (.dial target)
    match provider.dial target with
    | .error _ =>
      s.replySessionOpenResult requestID (uuidString id) "error" codeInternalError
        "failed to reach local target"
    | .ok _ =>
      (s.addSession id (.tunnel target)).replySessionOpenResult requestID (uuidString id) "success"
        codeOK ""
  else
    s.replySessionOpenResult requestID (uuidString id) "error" codePermissionDenied
      "tunnel disabled by local agent policy"

def handleSessionOpen (policy : AgentPolicy) (lib : Library) (provider : Provider α)
    (env : Envelope) : State α :=
  match decodePayload lib.sessionOpen env.payload with
  | none =>
    s.replySessionOpenResult env.messageID "" "error" codeInvalidRequest "malformed session_open"
  | some req =>
    match Uuid.parse req.sessionID.toList with
    | none =>
      s.replySessionOpenResult env.messageID req.sessionID "error" codeInvalidRequest
        "invalid session_id"
    | some id =>
      match req.kind with
      | "terminal" => s.openTerminalSession policy provider env.messageID id
      | "ssh_local" => s.openTunnelSession provider env.messageID id sshTarget policy.sshTunnel
      | "rdp_local" => s.openTunnelSession provider env.messageID id rdpTarget policy.rdpTunnel
      | kind =>
        s.replySessionOpenResult env.messageID req.sessionID "error" codeUnsupportedCapability
          ("unsupported session kind " ++ lib.quote kind)

/-- Only a terminal can be resized. -/
def handleTerminalResize (lib : Library) (env : Envelope) : State α :=
  match decodePayload lib.terminalResize env.payload with
  | none => s
  | some req =>
    match (Uuid.parse req.sessionID.toList).bind s.sessions.get with
    | none => s
    | some r =>
      if s.opened[r]? = some .terminal then s.act (.use r (.resize req.cols req.rows)) else s

def handleSessionClose (lib : Library) (env : Envelope) : State α :=
  match decodePayload lib.sessionClose env.payload with
  | none => s
  | some req =>
    match Uuid.parse req.sessionID.toList with
    | none => s
    | some id =>
      match s.sessions.get id with
      | none => s
      | some r => { s.act (.use r .close) with sessions := s.sessions.remove id }

/-- `pumpStream` after its loop: the session is removed, and if it was there, the stream of the pump
is closed. -/
def endPump (id : UUID) (r : ℕ) : State α :=
  let s := { s with pumps := s.pumps.erase (id, r) }
  let s := match s.sessions.get id with
    | none => s
    | some _ => { s.act (.use r .close) with sessions := s.sessions.remove id }
  s.act (.send none (.sessionClose (uuidString id) "stream_ended"))

/-! ### Frames -/

def handleFileBinaryFrame (provider : Provider α) (id : UUID) (payload : List UInt8) : State α :=
  match s.uploads.get id with
  | none => s
  | some r =>
    if payload = [] then
      let s := { s.act (.use r .close) with uploads := s.uploads.remove id }
      match provider.close with
      | .ok _ => s.replyCommand (uuidString id) "success" codeOK "" .null
      | .error err => s.replyCommand (uuidString id) "error" codeInternalError err .null
    else
      let s := s.act (.use r (.write payload))
      if provider.write then s
      else { s.act (.use r .close) with uploads := s.uploads.remove id }

def handleBinaryFrame (provider : Provider α) (raw : List UInt8) : State α :=
  match decodeStreamFrame raw with
  | none => s
  | some f =>
    match f.kind with
    | 1 | 2 =>
      match s.sessions.get f.streamID with
      | none => s
      | some r => s.act (.use r (.write f.payload))
    | 3 => s.handleFileBinaryFrame provider f.streamID f.payload
    | _ => s

/-! ### The read loop -/

def handleMessage (policy : AgentPolicy) (lib : Library) (provider : Provider α) (env : Envelope) :
    State α :=
  match MessageType.parse env.type with
  | some .inventoryRequest =>
    let s := s.call .inventory
    match provider.inventory with
    | .error _ => s
    | .ok inventory => s.act (.send (some env.messageID) (.inventoryResponse inventory))
  | some .sessionOpen => s.handleSessionOpen policy lib provider env
  | some .terminalResize => s.handleTerminalResize lib env
  | some .sessionClose | some .terminalClose => s.handleSessionClose lib env
  | some .deviceCommand => s.handleDeviceCommand policy lib provider env
  | some .terminalSignal | some .sessionPrivilegeUpdate | some .protocolError | none => s

/-- `ensureSupportAccountProvisioned`; the marker is there or not. -/
def provision (provider : Provider α) (marker : Bool) : State α :=
  let s := { s with provisioning := s.provisioning - 1 }
  if marker then s
  else
    let s := s.call .ensureSupportAccount
    match provider.ensureSupportAccount with
    | .error _ => s
    | .ok (username, password) =>
      if provider.report then s.act (.send none (.supportCredentialReport username password)) else s

/-- The connection ends between two messages, and the next one begins. The two `closeAll` close what
is open, and the old pumps have nothing left to do. -/
def reconnect (policy : AgentPolicy) : State α :=
  { s with
    sessions := []
    uploads := []
    pumps := []
    provisioning := s.provisioning + if policy.tunnels then 1 else 0
    trace := s.trace ++ (s.uploads ++ s.sessions).map fun e ↦ .use e.2 .close }

end State

inductive Label (α : Type)
  | message (raw : List UInt8) (provider : Provider α)
  | frame (raw : List UInt8) (provider : Provider α)
  /-- The loop of a pump ends. -/
  | pumpEnds (id : UUID) (r : ℕ)
  | provision (provider : Provider α) (marker : Bool)
  | reconnect

def step {α : Type} (policy : AgentPolicy) (lib : Library) (s : State α) :
    Label α → Option (State α)
  | .message raw provider =>
    match decode lib raw with
    | none => some s
    | some env => some (s.handleMessage policy lib provider env)
  | .frame raw provider => some (s.handleBinaryFrame provider raw)
  | .pumpEnds id r => if (id, r) ∈ s.pumps then some (s.endPump id r) else none
  | .provision provider marker =>
    if 0 < s.provisioning then some (s.provision provider marker) else none
  | .reconnect => some (s.reconnect policy)

end WartungsRemote.Agent.Commands
