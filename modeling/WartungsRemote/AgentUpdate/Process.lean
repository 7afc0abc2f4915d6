import WartungsRemote.AgentUpdate.Stage
import WartungsRemote.AgentUpdate.Verify

/-!
# The agent over many lifetimes

An agent on its machine: the binary, its backup and the update marker on disk, and at most one
process, which is started, works, and ends at any moment (`die`: it is killed, it crashes, or it
exits, as it does some seconds after an update). The service manager starts what is at `exePath`.

A process first looks at the marker (`reconcilePendingUpdate`), counts its start there, or puts the
backup back if there were too many. Then it connects. After its **first** handshake it deletes the
marker and the backup (`commitPendingUpdate`). Only then does it read what the server sends. The
goroutine that reads from the connection handles the command; a connection that breaks is replaced
by another one with a goroutine of its own, while the first one is still busy. So **several updates
can be under way** in one process. Each of them downloads and verifies, asks for the path of the
executable, swaps the binary there, and writes the marker.

`os.Executable` reads a link of the kernel. On Linux the link follows the running binary when that
is renamed, so after a swap it leads to the backup.

The history of the machine is part of the state: which process staged the update that the marker is
about, which binaries have completed a handshake, and what was restored.
-/

namespace WartungsRemote.AgentUpdate

open Posix List Option

structure Config where
  /-- What the service manager starts. -/
  exePath : Path
  crypto : Crypto
  releasePublicKeyHex : Text
  selfUpdate : Bool
  /-- Whether `os.Executable` follows a rename of the running binary. -/
  followsRenames : Bool

/-! ### What `beginUpdate` checks -/

/-- Why an update is rejected before anything is written. -/
inductive UpdateError
  /-- "no release public key embedded in this build; self-update disabled". -/
  | noKey
  /-- "malformed embedded release public key". -/
  | malformedKey
  /-- "download artifact". -/
  | download
  /-- "download artifact: server returned %s". -/
  | status (code : ℕ)
  /-- "read artifact". -/
  | read
  /-- "artifact exceeds %d byte limit". -/
  | tooLarge
  /-- "artifact verification failed". -/
  | verification (err : VerifyError)
  deriving DecidableEq

def Config.releasePublicKey (cfg : Config) : Except UpdateError (List UInt8) :=
  if cfg.releasePublicKeyHex = [] then .error .noKey
  else
    match Hex.decodeString cfg.releasePublicKeyHex with
    | none => .error .malformedKey
    | some raw => if raw.length = 32 then .ok raw else .error .malformedKey

def maxArtifactBytes : ℕ := 268435456

/-- The response to the download: nothing, or a status with a body that can be read or not. -/
abbrev Response : Type := Option (ℕ × Option (List UInt8))

/-- The downloaded artifact. -/
def readArtifact : Response → Except UpdateError (List UInt8)
  | none => .error .download
  | some (status, body) =>
    if status ≠ 200 then .error (.status status)
    else
      match body with
      | none => .error .read
      | some body =>
        if maxArtifactBytes < (body.take (maxArtifactBytes + 1)).length then .error .tooLarge
        else .ok (body.take (maxArtifactBytes + 1))

/-- `beginUpdate` up to the verification. -/
def Config.fetchArtifact (cfg : Config) (params : AgentUpdateParams) (response : Response) :
    Except UpdateError (List UInt8) := do
  let pubKey ← cfg.releasePublicKey
  let data ← readArtifact response
  match verifyArtifact cfg.crypto pubKey data params.artifactSHA256Hex params.signatureBase64 with
  | .ok () => .ok data
  | .error err => .error (.verification err)

/-- The binary's hash carries a signature under the embedded key. -/
def Config.Signed (cfg : Config) (data : List UInt8) : Prop :=
  ∃ key, cfg.releasePublicKey = .ok key ∧ AgentUpdate.Signed cfg.crypto key data

theorem signed_of_fetchArtifact {cfg : Config} {params : AgentUpdateParams} {response : Response}
    {data : List UInt8} (h : cfg.fetchArtifact params response = .ok data) : cfg.Signed data := by
  unfold Config.fetchArtifact at h
  rcases hkey : cfg.releasePublicKey with err | key
  · rw [hkey] at h
    cases h
  rcases hread : readArtifact response with err | body
  · rw [hkey, hread] at h
    cases h
  rw [hkey, hread] at h
  simp only [bind, Except.bind] at h
  split at h
  next hver =>
    obtain rfl := Except.ok.inj h
    exact ⟨key, hkey, signed_of_verifyArtifact hver⟩
  · cases h

/-! ### The marker -/

structure Marker where
  version : Text
  backupPath : Path
  bootAttempts : ℕ
  deriving DecidableEq

def maxBootAttempts : ℕ := 3

/-- The file `update.marker`: what it says, if it is well-formed, and which process staged its
update. -/
structure MarkerFile where
  content : Option Marker
  stagedBy : ℕ
  deriving DecidableEq

/-- The next system call of `SaveMarker`: `os.WriteFile` truncates the file, and then writes it. -/
inductive SavePC
  | create
  | write
  | returned
  deriving DecidableEq

/-- One system call of `SaveMarker`. Half a marker is malformed. -/
def saveStep (m : Marker) (stagedBy : ℕ) :
    Option MarkerFile × SavePC → Syscall → Option (Option MarkerFile × SavePC)
  | (_, .create), .done => some (some ⟨none, stagedBy⟩, .write)
  | (_, .write), .done => some (some ⟨some m, stagedBy⟩, .returned)
  | (file, .create), .failed | (file, .write), .failed => some (file, .returned)
  | _, _ => none

variable {m : Marker} {o : Syscall} {stagedBy : ℕ} {Q : Path → Prop}

theorem saveStep_cases {file file' : Option MarkerFile} {pc pc' : SavePC}
    (h : saveStep m stagedBy (file, pc) o = some (file', pc')) :
    file' = file ∨ file' = some ⟨none, stagedBy⟩ ∨ file' = some ⟨some m, stagedBy⟩ := by
  cases pc <;> cases o <;> cases h
  · exact .inr (.inl rfl)
  · exact .inl rfl
  · exact .inr (.inr rfl)
  · exact .inl rfl

/-- What holds of the paths in the marker file and in the saved marker holds afterwards. -/
theorem backupPath_of_saveStep
    {file file' : Option MarkerFile} {pc pc' : SavePC}
    (hfile : ∀ m stagedBy, file = some ⟨some m, stagedBy⟩ → Q m.backupPath) (hm : Q m.backupPath)
    (hstep : saveStep m stagedBy (file, pc) o = some (file', pc')) :
    ∀ m stagedBy, file' = some ⟨some m, stagedBy⟩ → Q m.backupPath := by
  intro m' stagedBy' hm'
  rcases saveStep_cases hstep with heq | heq | heq
  · exact hfile m' stagedBy' (heq ▸ hm')
  · cases heq.symm.trans hm'
  · cases heq.symm.trans hm'
    exact hm

/-! ### The process -/

/-- Where the process is in `runAgent`. -/
inductive Phase
  /-- Before `reconcilePendingUpdate`: it loads its configuration and identity, and may enroll. -/
  | starting
  /-- `RestoreBackup` in `reconcilePendingUpdate`. -/
  | restoring (m : Marker) (pc : RestorePC)
  /-- `DeleteMarker` in `reconcilePendingUpdate`, after which the process exits. -/
  | deleting
  /-- `SaveMarker` in `reconcilePendingUpdate`. -/
  | saving (m : Marker) (pc : SavePC)
  /-- `agentcore.Run`. -/
  | running
  deriving DecidableEq

/-- The marker that `reconcilePendingUpdate` works with. -/
def Phase.marker? : Phase → Option Marker
  | .restoring m _ | .saving m _ => some m
  | .starting | .deleting | .running => none

/-- How far the callback of the first handshake has got. -/
inductive Commit
  /-- There was no handshake yet. -/
  | waiting
  | loading
  | removing (backupPath : Path)
  | deleting
  | finished
  deriving DecidableEq

/-- A verified update. -/
inductive Update
  | verified (version : Text) (newData : List UInt8)
  | staging (version : Text) (newData : List UInt8) (cur : Path) (pc : StagePC)
  | marking (version : Text) (backupPath : Path) (pc : SavePC)

structure Process where
  pid : ℕ
  /-- The file that is running, what `os.Executable` returns, and what is running. -/
  image : Inode Path
  name : Path
  binary : List UInt8
  phase : Phase
  commit : Commit
  updates : ℕ → Option Update

/-- A process that was just started. -/
def Process.launch (pid : ℕ) (image : Inode Path) (name : Path) (binary : List UInt8) :
    Process where
  pid
  image
  name
  binary
  phase := .starting
  commit := .waiting
  updates _ := none

structure State where
  fs : FileSystem Path
  marker : Option MarkerFile
  proc : Option Process
  /-- How many processes were started. -/
  starts : ℕ
  /-- The binaries that have completed a handshake. -/
  proven : List (List UInt8)
  /-- Which process restored which binary. -/
  restored : List (ℕ × List UInt8)

/-- The agent was never started on this machine. -/
def State.init (fs : FileSystem Path) : State where
  fs
  marker := none
  proc := none
  starts := 0
  proven := []
  restored := []

/-! ### Steps -/

inductive Label
  /-- The service manager starts the agent. -/
  | start
  | die
  /-- `reconcilePendingUpdate` reads the marker and decides; `LoadMarker` and `os.Executable` may
  fail. -/
  | reconcile (readable located : Bool)
  /-- The next system call of `reconcilePendingUpdate`. -/
  | boot (o : Syscall)
  /-- A handshake succeeds. -/
  | handshake
  /-- The next system call of the callback of the first handshake. -/
  | commit (o : Syscall)
  /-- The server sends `agent.update`, and the artifact is downloaded and verified. -/
  | update (u : ℕ) (params : AgentUpdateParams) (response : Response)
  /-- `os.Executable` in `beginUpdate`, which may fail. -/
  | executable (u : ℕ) (located : Bool)
  /-- The next system call of `StageAndSwap`. -/
  | stage (u : ℕ) (o : Syscall)
  /-- The next system call of `SaveMarker` in `beginUpdate`. -/
  | mark (u : ℕ) (o : Syscall)
  deriving DecidableEq

/-- What `reconcilePendingUpdate` decides. -/
def reconcilePhase (marker : Option MarkerFile) (readable located : Bool) : Phase :=
  if readable = false then .running
  else
    match marker with
    | none | some ⟨none, _⟩ => .running
    | some ⟨some m, _⟩ =>
      if maxBootAttempts < m.bootAttempts + 1 then
        if located then .restoring m .stat else .running
      else .saving { m with bootAttempts := m.bootAttempts + 1 } .create

theorem reconcilePhase_cases (marker : Option MarkerFile) (readable located : Bool) :
    reconcilePhase marker readable located = .running ∨
      ∃ m stagedBy, marker = some ⟨some m, stagedBy⟩ ∧
        (reconcilePhase marker readable located = .restoring m .stat ∨
          reconcilePhase marker readable located =
            .saving { m with bootAttempts := m.bootAttempts + 1 } .create) := by
  unfold reconcilePhase
  split
  · exact .inl rfl
  split
  · exact .inl rfl
  · exact .inl rfl
  next m stagedBy =>
    split_ifs
    · exact .inr ⟨m, stagedBy, rfl, .inl rfl⟩
    · exact .inl rfl
    · exact .inr ⟨m, stagedBy, rfl, .inr rfl⟩

theorem backupPath_of_reconcilePhase {marker : Option MarkerFile} {readable located : Bool}
    (hmark : ∀ m stagedBy, marker = some ⟨some m, stagedBy⟩ → Q m.backupPath) :
    ∀ m, (reconcilePhase marker readable located).marker? = some m → Q m.backupPath := by
  intro m hm
  obtain heq | ⟨m', stagedBy, hfile, heq | heq⟩ := reconcilePhase_cases marker readable located <;>
    rw [heq] at hm
  · cases hm
  · exact some.inj hm ▸ hmark m' stagedBy hfile
  · exact some.inj hm ▸ hmark m' stagedBy hfile

/-- The name of the running binary, after a system call on files with the given names. -/
def Process.follow (cfg : Config) (p : Process) (fs : FileSystem Path) (names : List Path) : Path :=
  if cfg.followsRenames then (names.find? fun q ↦ fs.dir q = some p.image).getD p.name else p.name

theorem Process.follow_mem (cfg : Config) (p : Process) (fs : FileSystem Path) (names : List Path) :
    p.follow cfg fs names ∈ p.name :: names := by
  unfold Process.follow
  split
  · rcases hfind : names.find? fun q ↦ fs.dir q = some p.image with _ | q
    · exact mem_cons_self
    · exact mem_cons_of_mem _ (mem_of_find?_eq_some hfind)
  · exact mem_cons_self

/-- An update after a system call of `StageAndSwap`. -/
def Update.afterStage (version : Text) (newData : List UInt8) (cur : Path) : StagePC → Option Update
  | .returned none => some (.marking version (backup cur) .create)
  | .returned (some _) => none
  | pc => some (.staging version newData cur pc)

/-- An update after a system call of `SaveMarker`. -/
def Update.afterMark (version : Text) (backupPath : Path) : SavePC → Option Update
  | .returned => none
  | pc => some (.marking version backupPath pc)

/-- The process after a system call of `SaveMarker` in `reconcilePendingUpdate`. -/
def Phase.afterSave (m : Marker) : SavePC → Phase
  | .returned => .running
  | pc => .saving m pc

def Process.setUpdate (p : Process) (u : ℕ) (up : Option Update) : Process :=
  { p with updates := Function.update p.updates u up }

namespace State

variable (cfg : Config) (s : State) (p : Process)

def setProc (p : Process) : State :=
  { s with proc := some p }

/-- The next system call of `reconcilePendingUpdate`. -/
def boot (o : Syscall) : Option State :=
  match p.phase with
  | .restoring m pc =>
    (restoreStep p.name m.backupPath (s.fs, pc) o).map fun
      | (fs, .returned none) =>
        { s with
          fs
          restored := s.restored ++ [(p.pid, (fs.content p.name).getD [])]
          proc := some { p with phase := .deleting } }
      | (fs, .returned (some _)) => { s with fs, proc := some { p with phase := .running } }
      | (fs, pc) => { s with fs, proc := some { p with phase := .restoring m pc } }
  | .deleting =>
    match o with
    | .done => some { s with marker := none, proc := none }
    | .failed => some { s with proc := none }
    | .wrote _ => none
  | .saving m pc =>
    (saveStep m ((s.marker.map (·.stagedBy)).getD 0) (s.marker, pc) o).map fun (marker, pc) ↦
      { s with marker, proc := some { p with phase := .afterSave m pc } }
  | .starting | .running => none

/-- A handshake succeeds. Only the first one matters. -/
def handshake : Option State :=
  if p.phase ≠ .running then none
  else if p.commit = .waiting then
    some { s with proven := p.binary :: s.proven, proc := some { p with commit := .loading } }
  else some s

/-- The next system call of the callback that `commitPendingUpdate` returns. -/
def commit (o : Syscall) : Option State :=
  match p.commit, o with
  | .loading, .done =>
    match s.marker with
    | some ⟨some m, _⟩ => some (s.setProc { p with commit := .removing m.backupPath })
    | _ => some (s.setProc { p with commit := .finished })
  | .loading, .failed => some (s.setProc { p with commit := .finished })
  | .removing backupPath, .done =>
    some { s with fs := s.fs.remove backupPath, proc := some { p with commit := .deleting } }
  | .removing _, .failed => some (s.setProc { p with commit := .deleting })
  | .deleting, .done => some { s with marker := none, proc := some { p with commit := .finished } }
  | .deleting, .failed => some (s.setProc { p with commit := .finished })
  | _, _ => none

/-- The server sends `agent.update`. -/
def update (u : ℕ) (params : AgentUpdateParams) (response : Response) : Option State :=
  if p.commit = .finished ∧ p.updates u = none then
    if cfg.selfUpdate then
      match cfg.fetchArtifact params response with
      | .ok data => some (s.setProc (p.setUpdate u (some (.verified params.version data))))
      | .error _ => some s
    else some s
  else none

/-- `beginUpdate` asks for the path of the executable. -/
def executable (u : ℕ) (located : Bool) : Option State :=
  match p.updates u with
  | some (.verified version newData) =>
    if located then
      some (s.setProc (p.setUpdate u (some (.staging version newData p.name .create))))
    else some (s.setProc (p.setUpdate u none))
  | _ => none

/-- The next system call of `StageAndSwap`. -/
def stage (u : ℕ) (o : Syscall) : Option State :=
  match p.updates u with
  | some (.staging version newData cur pc) =>
    (stageStep cur newData (s.fs, pc) o).map fun (fs, pc) ↦
      { s with
        fs
        proc := some
          { p with
            name := p.follow cfg fs [p.name, cur, backup cur]
            updates := Function.update p.updates u (Update.afterStage version newData cur pc) } }
  | _ => none

/-- The next system call of `SaveMarker` in `beginUpdate`. -/
def mark (u : ℕ) (o : Syscall) : Option State :=
  match p.updates u with
  | some (.marking version backupPath pc) =>
    (saveStep ⟨version, backupPath, 0⟩ p.pid (s.marker, pc) o).map fun (marker, pc) ↦
      { s with marker, proc := some (p.setUpdate u (Update.afterMark version backupPath pc)) }
  | _ => none

end State

/-- One step of the machine. -/
def step (cfg : Config) (s : State) (l : Label) : Option State :=
  match s.proc, l with
  | none, .start =>
    (s.fs.dir cfg.exePath).map fun image ↦
      { s with
        starts := s.starts + 1
        proc := some (.launch (s.starts + 1) image cfg.exePath (s.fs.data image)) }
  | some _, .die => some { s with proc := none }
  | some p, .reconcile readable located =>
    if p.phase = .starting then
      some (s.setProc { p with phase := reconcilePhase s.marker readable located })
    else none
  | some p, .boot o => s.boot p o
  | some p, .handshake => s.handshake p
  | some p, .commit o => s.commit p o
  | some p, .update u params response => s.update cfg p u params response
  | some p, .executable u located => s.executable p u located
  | some p, .stage u o => s.stage cfg p u o
  | some p, .mark u o => s.mark p u o
  | _, _ => none

/-- What a step can do. -/
inductive Step (cfg : Config) (s : State) : Label → State → Prop
  | start {image} (hproc : s.proc = none) (himage : s.fs.dir cfg.exePath = some image) :
      Step cfg s .start
        { s with
          starts := s.starts + 1
          proc := some (.launch (s.starts + 1) image cfg.exePath (s.fs.data image)) }
  | die {p} (hproc : s.proc = some p) : Step cfg s .die { s with proc := none }
  | reconcile {p readable located} (hproc : s.proc = some p) (hph : p.phase = .starting) :
      Step cfg s (.reconcile readable located)
        (s.setProc { p with phase := reconcilePhase s.marker readable located })
  | restoring {p m pc pc' o fs} (hproc : s.proc = some p) (hph : p.phase = .restoring m pc)
      (hstep : RestoreStep p.name m.backupPath s.fs pc o fs pc')
      (hpc : ∀ err, pc' ≠ .returned err) :
      Step cfg s (.boot o) { s with fs, proc := some { p with phase := .restoring m pc' } }
  | restored {p m} (hproc : s.proc = some p) (hph : p.phase = .restoring m .rename)
      (hbak : s.fs.dir m.backupPath ≠ none) :
      Step cfg s (.boot .done)
        { s with
          fs := s.fs.rename m.backupPath p.name
          restored := s.restored ++
            [(p.pid, ((s.fs.rename m.backupPath p.name).content p.name).getD [])]
          proc := some { p with phase := .deleting } }
  | restoreFailed {p m pc o} (hproc : s.proc = some p) (hph : p.phase = .restoring m pc)
      (hpc : o = .failed ∨ s.fs.dir m.backupPath = none) :
      Step cfg s (.boot o) (s.setProc { p with phase := .running })
  | deleted {p} (hproc : s.proc = some p) (hph : p.phase = .deleting) :
      Step cfg s (.boot .done) { s with marker := none, proc := none }
  | deleteFailed {p} (hproc : s.proc = some p) (hph : p.phase = .deleting) :
      Step cfg s (.boot .failed) { s with proc := none }
  | saving {p m pc pc' o marker} (hproc : s.proc = some p) (hph : p.phase = .saving m pc)
      (hstep : saveStep m ((s.marker.map (·.stagedBy)).getD 0) (s.marker, pc) o =
        some (marker, pc')) :
      Step cfg s (.boot o) { s with marker, proc := some { p with phase := .afterSave m pc' } }
  | handshake {p} (hproc : s.proc = some p) (hph : p.phase = .running)
      (hcom : p.commit = .waiting) : Step cfg s .handshake
        { s with proven := p.binary :: s.proven, proc := some { p with commit := .loading } }
  | reconnect : Step cfg s .handshake s
  | loaded {p m stagedBy} (hproc : s.proc = some p) (hcom : p.commit = .loading)
      (hmark : s.marker = some ⟨some m, stagedBy⟩) :
      Step cfg s (.commit .done) (s.setProc { p with commit := .removing m.backupPath })
  | nothing {p o} (hproc : s.proc = some p) (hcom : p.commit = .loading) :
      Step cfg s (.commit o) (s.setProc { p with commit := .finished })
  | removed {p backupPath} (hproc : s.proc = some p) (hcom : p.commit = .removing backupPath) :
      Step cfg s (.commit .done)
        { s with fs := s.fs.remove backupPath, proc := some { p with commit := .deleting } }
  | keptBackup {p backupPath} (hproc : s.proc = some p) (hcom : p.commit = .removing backupPath) :
      Step cfg s (.commit .failed) (s.setProc { p with commit := .deleting })
  | committed {p} (hproc : s.proc = some p) (hcom : p.commit = .deleting) :
      Step cfg s (.commit .done)
      { s with marker := none, proc := some { p with commit := .finished } }
  | keptMarker {p} (hproc : s.proc = some p) (hcom : p.commit = .deleting) :
      Step cfg s (.commit .failed) (s.setProc { p with commit := .finished })
  | rejected {u params response} : Step cfg s (.update u params response) s
  | accepted {p u params response newData} (hproc : s.proc = some p) (hcom : p.commit = .finished)
      (hupd : p.updates u = none) (hfetch : cfg.fetchArtifact params response = .ok newData) :
      Step cfg s (.update u params response)
        (s.setProc (p.setUpdate u (some (.verified params.version newData))))
  | located {p u version newData} (hproc : s.proc = some p)
      (hupd : p.updates u = some (.verified version newData)) :
      Step cfg s (.executable u true)
        (s.setProc (p.setUpdate u (some (.staging version newData p.name .create))))
  | notLocated {p u version newData} (hproc : s.proc = some p)
      (hupd : p.updates u = some (.verified version newData)) :
      Step cfg s (.executable u false) (s.setProc (p.setUpdate u none))
  | stage {p u version newData cur pc pc' o fs} (hproc : s.proc = some p)
      (hupd : p.updates u = some (.staging version newData cur pc))
      (hstep : StageStep cur newData s.fs pc o fs pc') :
      Step cfg s (.stage u o)
        { s with
          fs
          proc := some
            { p with
              name := p.follow cfg fs [p.name, cur, backup cur]
              updates := Function.update p.updates u (Update.afterStage version newData cur pc') } }
  | mark {p u version backupPath pc pc' o marker} (hproc : s.proc = some p)
      (hupd : p.updates u = some (.marking version backupPath pc))
      (hstep : saveStep ⟨version, backupPath, 0⟩ p.pid (s.marker, pc) o = some (marker, pc')) :
      Step cfg s (.mark u o)
        { s with marker, proc := some (p.setUpdate u (Update.afterMark version backupPath pc')) }

section StepCases

variable {cfg : Config} {s t : State} {p : Process} {u : ℕ} {o : Syscall}

section

variable (hproc : s.proc = some p)
include hproc

theorem step_boot (h : s.boot p o = some t) : Step cfg s (.boot o) t := by
  unfold State.boot at h
  split at h
  next m pc hph =>
    obtain ⟨⟨_, pc'⟩, hstep, rfl⟩ := map_eq_some_iff.1 h
    have hcas := restoreStep_cases hstep
    cases hcas with
    | found | removed | kept => exact .restoring hproc hph (restoreStep_cases hstep) (by simp)
    | notFound ho | renameFailed ho => exact .restoreFailed hproc hph ho
    | restored hbak => exact .restored hproc hph hbak
  next hph =>
    split at h <;> cases h
    · exact .deleted hproc hph
    · exact .deleteFailed hproc hph
  next m pc hph =>
    obtain ⟨_, hstep, rfl⟩ := map_eq_some_iff.1 h
    exact .saving hproc hph hstep
  · cases h
  · cases h

theorem step_handshake (h : s.handshake p = some t) : Step cfg s .handshake t := by
  unfold State.handshake at h
  split_ifs at h with hph hcom
  · cases h
    exact .handshake hproc (not_not.1 hph) hcom
  · cases h
    exact .reconnect

theorem step_commit (h : s.commit p o = some t) : Step cfg s (.commit o) t := by
  unfold State.commit at h
  split at h
  next hcom =>
    split at h <;> cases h
    next hmark => exact .loaded hproc hcom hmark
    · exact .nothing hproc hcom
  next hcom =>
    cases h
    exact .nothing hproc hcom
  next hcom =>
    cases h
    exact .removed hproc hcom
  next hcom =>
    cases h
    exact .keptBackup hproc hcom
  next hcom =>
    cases h
    exact .committed hproc hcom
  next hcom =>
    cases h
    exact .keptMarker hproc hcom
  · cases h

theorem step_update {params : AgentUpdateParams} {response : Response}
    (h : s.update cfg p u params response = some t) : Step cfg s (.update u params response) t := by
  unfold State.update at h
  split_ifs at h with hready
  · split at h <;> cases h
    next hfetch => exact .accepted hproc hready.1 hready.2 hfetch
    · exact .rejected
  · cases h
    exact .rejected

theorem step_executable {located : Bool} (h : s.executable p u located = some t) :
    Step cfg s (.executable u located) t := by
  unfold State.executable at h
  split at h
  next hupd =>
    split_ifs at h with hlocated <;> cases h
    · subst hlocated
      exact .located hproc hupd
    · obtain rfl := Bool.eq_false_iff.2 hlocated
      exact .notLocated hproc hupd
  · cases h

theorem step_stage (h : s.stage cfg p u o = some t) : Step cfg s (.stage u o) t := by
  unfold State.stage at h
  split at h
  next hupd =>
    obtain ⟨_, hstep, rfl⟩ := map_eq_some_iff.1 h
    exact .stage hproc hupd (stageStep_cases hstep)
  · cases h

theorem step_mark (h : s.mark p u o = some t) : Step cfg s (.mark u o) t := by
  unfold State.mark at h
  split at h
  next hupd =>
    obtain ⟨_, hstep, rfl⟩ := map_eq_some_iff.1 h
    exact .mark hproc hupd hstep
  · cases h

end

theorem step_cases {l : Label} (h : step cfg s l = some t) : Step cfg s l t := by
  unfold step at h
  split at h
  next hproc =>
    obtain ⟨_, himage, rfl⟩ := map_eq_some_iff.1 h
    exact .start hproc himage
  next hproc =>
    cases h
    exact .die hproc
  next hproc =>
    split_ifs at h with hph
    cases h
    exact .reconcile hproc hph
  next hproc => exact step_boot hproc h
  next hproc => exact step_handshake hproc h
  next hproc => exact step_commit hproc h
  next hproc => exact step_update hproc h
  next hproc => exact step_executable hproc h
  next hproc => exact step_stage hproc h
  next hproc => exact step_mark hproc h
  · cases h

end StepCases

/-! ### Sample runs -/

namespace Sample

theorem length_take_padded (data : List UInt8) :
    ((data ++ replicate 32 0).take 32).length = 32 := by
  simp

/-- An agent on Linux. A signature is the key followed by what is signed; the hash of the empty file
is not signed. -/
def config : Config where
  exePath := ['a']
  crypto :=
    { sha256 := fun data ↦ (data ++ replicate 32 0).take 32
      verify := fun key message sig ↦ sig = key ++ message ∧ message ≠ replicate 32 0
      sha256_length := length_take_padded }
  releasePublicKeyHex := replicate 64 '0'
  selfUpdate := true
  followsRenames := true

/-- A machine with the agent's binary. -/
def machine : FileSystem Path :=
  .ofFiles fun p ↦ if p = config.exePath then some [1] else none

/-- The command for an update to a binary, with its signature. -/
def params (newData : List UInt8) : AgentUpdateParams where
  version := ['2']
  artifactURL := []
  artifactSHA256Hex := Hex.encodeToString (config.crypto.sha256 newData)
  signatureBase64 := Base64.Std.encodeToString (replicate 32 0 ++ config.crypto.sha256 newData)

/-- A process starts, finds no marker, and connects. -/
def connect : List Label :=
  [.start, .reconcile true true, .handshake, .commit .done]

/-- An update is downloaded and verified. -/
def download (u : ℕ) (newData : List UInt8) : Label :=
  .update u (params newData) (some (200, some newData))

/-- An update swaps the binary. -/
def swap (u : ℕ) (newData : List UInt8) : List Label :=
  [.executable u true, .stage u .done, .stage u (.wrote newData.length), .stage u .done,
    .stage u .done, .stage u .done, .stage u .done]

/-- An update, from its command to its marker. -/
def update (u : ℕ) (newData : List UInt8) : List Label :=
  download u newData :: swap u newData ++ [.mark u .done, .mark u .done]

/-- A process updates the binary and exits. -/
def staged : List Label :=
  connect ++ update 0 [2, 2] ++ [.die]

/-- Three starts count themselves and die, and the fourth one puts the backup back. -/
def counted : List Label :=
  (replicate 3 [.start, .reconcile true true, .boot .done, .boot .done, .die]).flatten ++
    [.start, .reconcile true true, .boot .done, .boot .done, .boot .done, .boot .done]

end Sample

end WartungsRemote.AgentUpdate
