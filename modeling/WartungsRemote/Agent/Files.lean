import WartungsRemote.Posix.FileSystem
import WartungsRemote.Relay.Broker
import WartungsRemote.Transition.Run

/-!
# File uploads

`handleFilesUpload` on the server announces an upload to the agent, waits for the agent to be ready
and sends the request body in frames, with an empty frame at the end. The agent's read loop opens a
temporary file beside the target, writes each frame to it, and **closes the writer** at the empty
frame, at a write error, and — from another goroutine, `closeAll` — when the control connection
ends. Closing is what renames the temporary file to the target.

The model has one device. Its control connections are numbered; each is the log of what the server
has sent over it, with the position its read loop has reached, so loss of a connection is a read
loop that takes no more. Frames go to whichever connection the hub has at that moment. Every system
call is a step of its own, and the label says whether it succeeds. Writers are kept under the stream
id they were made for: `uuid.New` gives every upload its own.

Left out: what `handleFilesUpload` does after the last frame, the Windows provider, and the other
commands on files.
-/

namespace WartungsRemote.Agent

open Posix (FileSystem File)
open Relay (Payload)

/-! ### Paths -/

abbrev Path : Type := List Char

/-- The errors of `cleanPath`. -/
inductive PathError
  /-- `linux: empty path`. -/
  | empty
  /-- `linux: path must be absolute`. -/
  | relative (path : Path)
  deriving DecidableEq

/-- What `filepath.Clean` does with the next element of a rooted path. -/
def cleanElement (done : List Path) (element : Path) : List Path :=
  if element = [] ∨ element = ['.'] then done
  else if element = ['.', '.'] then done.dropLast
  else done ++ [element]

/-- `filepath.Clean` on a rooted path. -/
def clean (path : Path) : Path :=
  '/' :: ['/'].intercalate ((path.splitOn '/').foldl cleanElement [])

def cleanPath : Path → Except PathError Path
  | [] => .error .empty
  | '/' :: rest => .ok (clean ('/' :: rest))
  | path => .error (.relative path)

/-- What `WriteFile` appends to a name: `.wr-upload.tmp`. -/
def tmpSuffix : Path :=
  ['.', 'w', 'r', '-', 'u', 'p', 'l', 'o', 'a', 'd', '.', 't', 'm', 'p']

/-- The name of the temporary file for a target. -/
def tmpPathOf (path : Path) : Path :=
  path ++ tmpSuffix

/-- The name could be that of a temporary file. -/
def IsTemp (path : Path) : Prop :=
  tmpSuffix <:+ path
  deriving Decidable

theorem isTemp_tmpPathOf (path : Path) : IsTemp (tmpPathOf path) :=
  List.suffix_append path tmpSuffix

theorem tmpPathOf_inj {path path' : Path} (h : tmpPathOf path = tmpPathOf path') : path = path' :=
  List.append_cancel_right h

/-! ### The state -/

/-- What the server sends. -/
inductive Message
  /-- The `files.upload` command. -/
  | command (id : UUID) (path : Path)
  /-- A `StreamKindFile` frame; the empty payload ends the file. -/
  | frame (id : UUID) (payload : Payload)

structure AtomicWriteCloser where
  f : File Path
  /-- `f.Close` has been called. -/
  closed : Bool
  tmpPath : Path
  finalPath : Path

/-- The next call of `atomicWriteCloser.Close`. -/
inductive CloseStage
  /-- `w.f.Close()`. -/
  | file
  /-- `os.Rename(w.tmpPath, w.finalPath)`. -/
  | rename
  /-- `os.Remove(w.tmpPath)`, after an error. -/
  | remove
  deriving DecidableEq

/-- Where the agent's read loop is. -/
inductive ReadLoop
  /-- Before `conn.Read`. -/
  | idle
  /-- `WriteFile` has returned a writer and `addUpload` is next. -/
  | adding (id : UUID)
  /-- `getUpload` has returned the writer for this frame. -/
  | got (id : UUID) (payload : Payload)
  /-- Inside `w.Write`, with these bytes to go. -/
  | writing (id : UUID) (rest : Payload)
  /-- `w.Write` has returned an error and `removeUpload` is next. -/
  | failed (id : UUID)
  | closing (id : UUID) (stage : CloseStage)
  deriving DecidableEq

/-- The upload that the read loop is busy with. -/
def ReadLoop.upload : ReadLoop → Option UUID
  | .idle => none
  | .adding id | .got id _ | .writing id _ | .failed id | .closing id _ => some id

/-- The bytes of the frame at hand that are not in the file yet. -/
def ReadLoop.unwritten : ReadLoop → Payload
  | .got _ payload => payload
  | .writing _ rest => rest
  | _ => []

/-- `w.Write` goes on until no bytes are left. -/
def ReadLoop.writeRest (id : UUID) (rest : Payload) : ReadLoop :=
  if rest = [] then .idle else .writing id rest

/-- `w.Close` goes on with its next call, if there is one. -/
def ReadLoop.closeRest (id : UUID) : Option CloseStage → ReadLoop
  | some stage => .closing id stage
  | none => .idle

/-- A control connection, with the agent's `agentSession` for it. -/
structure Conn where
  /-- Everything the server has sent over it. -/
  sent : List Message
  /-- How much of it the read loop has taken. -/
  taken : ℕ
  /-- `conn.Read` can still succeed. -/
  alive : Bool
  /-- The keys of `fileTransferManager.uploads`. -/
  uploads : List UUID
  readLoop : ReadLoop
  /-- `closeAll` has emptied the map; it has still to close these writers and is at this call. -/
  closeAll : Option (List UUID × CloseStage)

/-- Where `handleFilesUpload` is. -/
inductive Phase
  | awaiting
  /-- Reading the request body. -/
  | streaming
  /-- The whole body has been read and the empty frame sent. -/
  | finished
  /-- It has returned with an error. -/
  | aborted
  deriving DecidableEq

/-- A run of `handleFilesUpload`. -/
structure Request where
  path : Path
  /-- The connection the command went to. -/
  conn : ℕ
  phase : Phase
  /-- What it has read from the request body. -/
  body : List UInt8

/-- One device and the server's handlers for it. -/
structure State where
  /-- `policy.FilesWrite` of the agent. -/
  filesWrite : Bool
  fs : FileSystem Path
  /-- The heap of writers, by the stream id they were made for. -/
  writer : UUID → Option AtomicWriteCloser
  conns : ℕ → Conn
  /-- The number of control connections so far. -/
  connections : ℕ
  /-- The connection the hub has for the device. -/
  current : Option ℕ
  requests : UUID → Option Request
  /-- The agent's reply to the command. -/
  answered : UUID → Option Bool
  /-- History: the uploads one of whose writes has failed. -/
  writeFailed : List UUID

/-- A fresh connection. -/
def Conn.init : Conn where
  sent := []
  taken := 0
  alive := true
  uploads := []
  readLoop := .idle
  closeAll := none

/-- The read loop has taken a message. -/
def Conn.take (conn : Conn) : Conn :=
  { conn with taken := conn.taken + 1 }

/-- A connection whose process is gone. -/
def Conn.kill (conn : Conn) : Conn :=
  { conn with alive := false, uploads := [], readLoop := .idle, closeAll := some ([], .file) }

/-- No upload yet, on a device with these files. -/
def State.init (filesWrite : Bool) (files : Path → Option (List UInt8)) : State where
  filesWrite
  fs := .ofFiles files
  writer _ := none
  conns _ := .init
  connections := 0
  current := none
  requests _ := none
  answered _ := none
  writeFailed := []

inductive Label
  /-- The agent connects; the hub replaces what it had. -/
  | connect
  /-- The hub drops the connection. -/
  | disconnect
  /-- `handleFilesUpload` starts and sends the command. -/
  | request (id : UUID) (path : Path)
  /-- `SendAndWait` returns the reply, and it is a success. -/
  | ready (id : UUID)
  /-- `handleFilesUpload` returns with an error: a timeout, a refusal, a body that is too large or
  breaks off, a `Send` that fails. -/
  | giveUp (id : UUID)
  /-- It reads a piece of the body and sends it. -/
  | bodyChunk (id : UUID) (chunk : Payload)
  /-- It has read the whole body and sends the empty frame. -/
  | bodyEOF (id : UUID)
  /-- The agent's read loop takes a message; `ok` is the outcome of `os.OpenFile`. -/
  | read (c : ℕ) (ok : Bool)
  /-- `write(2)` takes the next `k` bytes. -/
  | write (c k : ℕ)
  /-- Any other step of the read loop inside a handler, with the outcome of its call. -/
  | work (c : ℕ) (ok : Bool)
  /-- `closeAll` empties the map and is going to close the writers in this order. -/
  | closeAll (c : ℕ) (order : List UUID)
  /-- `closeAll` makes its next call, with this outcome. -/
  | closeNext (c : ℕ) (ok : Bool)
  /-- `conn.CloseNow`, after `closeAll`. -/
  | closeNow (c : ℕ)
  /-- The agent's process ends without warning; its files stay. -/
  | restart

namespace State

/-- Change a connection. -/
def setConn (s : State) (c : ℕ) (conn : Conn) : State :=
  { s with conns := Function.update s.conns c conn }

/-- Change a run of `handleFilesUpload`. -/
def setRequest (s : State) (id : UUID) (r : Request) : State :=
  { s with requests := Function.update s.requests id (some r) }

/-- `replyResult`. -/
def answer (s : State) (id : UUID) (success : Bool) : State :=
  { s with answered := Function.update s.answered id (some success) }

/-! ### The server -/

/-- The hub writes a message to a connection. -/
def send (s : State) (c : ℕ) (msg : Message) : State :=
  s.setConn c { s.conns c with sent := (s.conns c).sent ++ [msg] }

/-- `handleFilesUpload` up to the wait. -/
def request (s : State) (id : UUID) (path : Path) : Option State :=
  match s.requests id, s.current with
  | none, some c =>
    if path = [] then none
    else
      some ((s.setRequest id { path, conn := c, phase := .awaiting, body := [] }).send c
        (.command id path))
  | _, _ => none

def ready (s : State) (id : UUID) : Option State :=
  match s.requests id, s.answered id with
  | some r, some true =>
    if r.phase = .awaiting then some (s.setRequest id { r with phase := .streaming }) else none
  | _, _ => none

def giveUp (s : State) (id : UUID) : Option State :=
  match s.requests id with
  | some r =>
    if r.phase = .awaiting ∨ r.phase = .streaming then
      some (s.setRequest id { r with phase := .aborted })
    else none
  | none => none

/-- The size of the buffer of `handleFilesUpload`. -/
def bufferSize : ℕ := 64 * 1024

/-- The limit of `http.MaxBytesReader`. -/
def maxUploadBytes : ℕ := 500 * 1024 * 1024

def bodyChunk (s : State) (id : UUID) (chunk : Payload) : Option State :=
  match s.requests id, s.current with
  | some r, some c =>
    if r.phase = .streaming ∧ chunk ≠ [] ∧ chunk.length ≤ bufferSize ∧
        r.body.length + chunk.length ≤ maxUploadBytes then
      some ((s.setRequest id { r with body := r.body ++ chunk }).send c (.frame id chunk))
    else none
  | _, _ => none

/-- The error of the last `Send` is ignored. -/
def bodyEOF (s : State) (id : UUID) : Option State :=
  match s.requests id with
  | some r =>
    if r.phase = .streaming then
      let s' := s.setRequest id { r with phase := .finished }
      some (match s.current with
        | some c => s'.send c (.frame id [])
        | none => s')
    else none
  | none => none

/-! ### The agent -/

/-- `WriteFile`, after `cleanPath`. -/
def writeFile (s : State) (id : UUID) (path : Path) : State :=
  { s with
    fs := s.fs.truncate (tmpPathOf path)
    writer := Function.update s.writer id (some
      { f := s.fs.opened (tmpPathOf path)
        closed := false
        tmpPath := tmpPathOf path
        finalPath := path }) }

/-- The `files.upload` case of `handleDeviceCommand`, up to `addUpload`. -/
def command (s : State) (c : ℕ) (id : UUID) (path : Path) (ok : Bool) : State :=
  if s.filesWrite then
    match cleanPath path with
    | .ok path =>
      if ok then (s.writeFile id path).setConn c { s.conns c with readLoop := .adding id }
      else s.answer id false
    | .error _ => s.answer id false
  else s.answer id false

/-- The start of `handleFileBinaryFrame`. -/
def frame (s : State) (c : ℕ) (id : UUID) (payload : Payload) : State :=
  if id ∈ (s.conns c).uploads then
    s.setConn c { s.conns c with readLoop := .got id payload }
  else s

/-- One round of the read loop begins. -/
def read (s : State) (c : ℕ) (ok : Bool) : Option State :=
  let conn := s.conns c
  if conn.alive ∧ conn.readLoop = .idle then
    let s' := s.setConn c conn.take
    match conn.sent[conn.taken]? with
    | some (.command id path) => some (s'.command c id path ok)
    | some (.frame id payload) => some (s'.frame c id payload)
    | none => none
  else none

/-- A `write(2)` of `w.f.Write`, which goes on until all bytes are written. It started before any
`f.Close`, which does not stop it. -/
def write (s : State) (c k : ℕ) : Option State :=
  match (s.conns c).readLoop with
  | .writing id rest =>
    match s.writer id with
    | some w =>
      if 0 < k ∧ k ≤ rest.length then
        some ({ s with
          fs := s.fs.write w.f (rest.take k)
          writer := Function.update s.writer id (some { w with f := w.f.advance k }) }.setConn c
            { s.conns c with readLoop := .writeRest id (rest.drop k) })
      else none
    | none => none
  | _ => none

/-- One call of `atomicWriteCloser.Close`, and the call after it. -/
def close (s : State) (id : UUID) (stage : CloseStage) (ok : Bool) :
    Option (State × Option CloseStage) :=
  match s.writer id with
  | some w =>
    match stage with
    | .file =>
      if w.closed then some (s, some .remove)
      else
        some ({ s with writer := Function.update s.writer id (some { w with closed := true }) },
          some (if ok then .rename else .remove))
    | .rename =>
      if ok then
        if (s.fs.dir w.tmpPath).isSome then
          some ({ s with fs := s.fs.rename w.tmpPath w.finalPath }, none)
        else none
      else some (s, some .remove)
    | .remove =>
      if ok then some ({ s with fs := s.fs.remove w.tmpPath }, none) else some (s, none)
  | none => none

/-- `removeUpload`, after which the writer is closed. -/
def removeUpload (s : State) (c : ℕ) (id : UUID) : State :=
  s.setConn c { s.conns c with
    uploads := (s.conns c).uploads.erase id
    readLoop := .closing id .file }

/-- The steps of the read loop inside a handler, apart from successful writes. -/
def work (s : State) (c : ℕ) (ok : Bool) : Option State :=
  let conn := s.conns c
  match conn.readLoop with
  | .idle => none
  | .adding id =>
    some ((s.setConn c { conn with uploads := id :: conn.uploads, readLoop := .idle }).answer id
      true)
  | .got id [] => some (s.removeUpload c id)
  | .got id payload =>
    match s.writer id with
    | some w =>
      -- a closed `os.File` refuses the write
      if w.closed then
        some ({ s with writeFailed := id :: s.writeFailed }.setConn c
          { conn with readLoop := .failed id })
      else some (s.setConn c { conn with readLoop := .writing id payload })
    | none => none
  | .writing id _ =>
    if ok then none
    else
      some ({ s with writeFailed := id :: s.writeFailed }.setConn c
        { conn with readLoop := .failed id })
  | .failed id => some (s.removeUpload c id)
  | .closing id stage =>
    match s.close id stage ok with
    | some (s', next) => some (s'.setConn c { conn with readLoop := .closeRest id next })
    | none => none

/-- The part of `closeAll` under the lock. The map is read in any order. -/
def closeAll (s : State) (c : ℕ) (order : List UUID) : Option State :=
  let conn := s.conns c
  if conn.closeAll = none ∧ order.Perm conn.uploads then
    some (s.setConn c { conn with uploads := [], closeAll := some (order, .file) })
  else none

/-- The loop of `closeAll`. -/
def closeNext (s : State) (c : ℕ) (ok : Bool) : Option State :=
  let conn := s.conns c
  match conn.closeAll with
  | some (id :: rest, stage) =>
    match s.close id stage ok with
    | some (s', some stage') =>
      some (s'.setConn c { conn with closeAll := some (id :: rest, stage') })
    | some (s', none) => some (s'.setConn c { conn with closeAll := some (rest, .file) })
    | none => none
  | _ => none

def closeNow (s : State) (c : ℕ) : Option State :=
  match (s.conns c).closeAll with
  | some ([], _) => some (s.setConn c { s.conns c with alive := false })
  | _ => none

end State

/-- One step of the device and the server. -/
def step (s : State) : Label → Option State
  | .connect => some { s with connections := s.connections + 1, current := some s.connections }
  | .disconnect => some { s with current := none }
  | .request id path => s.request id path
  | .ready id => s.ready id
  | .giveUp id => s.giveUp id
  | .bodyChunk id chunk => s.bodyChunk id chunk
  | .bodyEOF id => s.bodyEOF id
  | .read c ok => s.read c ok
  | .write c k => s.write c k
  | .work c ok => s.work c ok
  | .closeAll c order => s.closeAll c order
  | .closeNext c ok => s.closeNext c ok
  | .closeNow c => s.closeNow c
  | .restart => some { s with conns := fun c ↦ (s.conns c).kill }

end WartungsRemote.Agent
