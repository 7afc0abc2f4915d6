import WartungsRemote.RemoteSession.Absorption

/-!
# Opening a session

The server creates the session, sends `session_open` and waits; the agent opens the target, **starts
the pump**, and then answers; the server gets the answer, writes to the database, and only then
registers the broker stream. `Broker.Register` asks for the opposite order in its comment ("must be
called before the agent starts sending frames"): whatever the target says first, an SSH banner or a
shell prompt, is on the control channel before the stream exists, and a frame without a stream is
dropped.

The model is the session service restricted to its opening half, an agent per device, and two FIFO
channels per device. Each agent handles `session_open` messages one at a time in its read loop,
while every session it has opened has a pump of its own. The read loop of the server hands answers
to the waiting request and frames to the broker. Closing a session removes its stream on purpose and
is not part of this module; neither is the `session_close` a pump sends after its last frame.
-/

namespace WartungsRemote.Server.Opening

open Function List Option RemoteSession Relay
open Transition

/-- A `session_open` message. -/
structure OpenRequest where
  request : ℕ
  id : UUID
  kind : Kind

/-- A message from the agent. -/
inductive Message
  | openResult (request : ℕ) (id : UUID) (success : Bool)
  /-- A binary stream frame. -/
  | frame (kind : UInt8) (id : UUID) (payload : Payload)

/-- The agent of one device. -/
structure Agent where
  /-- The sessions with a running pump, each with the kind of its frames. -/
  streams : List (UUID × UInt8)
  /-- `handleSessionOpen` has dealt with this request, with this result, and not yet answered. -/
  replying : Option (ℕ × UUID × Bool)

/-- The server, the agents and the channels between them. -/
structure State where
  svc : RemoteSession.State
  /-- The requests that have sent `session_open`. -/
  asked : ℕ → Bool
  toAgent : UUID → List OpenRequest
  agent : UUID → Agent
  toServer : UUID → List Message
  /-- The answer that `tryDeliver` has passed to the waiting request. -/
  answer : ℕ → Option Bool
  /-- History: the sessions an agent has answered with success. -/
  succeeded : List UUID
  /-- History: the sessions of the frames dropped as unknown. -/
  unknown : List UUID

/-- An empty installation before its first request. -/
def State.init : State where
  svc := .init
  asked _ := false
  toAgent _ := []
  agent _ := { streams := [], replying := none }
  toServer _ := []
  answer _ := none
  succeeded := []
  unknown := []

inductive Label
  /-- A step of `OpenTerminal`, `OpenTunnel` or the handler that called it. -/
  | session (l : RemoteSession.Label)
  /-- `SendAndWait` writes `session_open`. -/
  | sendOpen (n : ℕ)
  /-- The agent takes the next `session_open` and opens the target, or cannot or may not. -/
  | agentOpen (deviceID : UUID) (success : Bool)
  | agentAnswer (deviceID : UUID)
  /-- A pump sends what its target said. -/
  | pump (deviceID id : UUID) (payload : Payload)
  /-- The read loop of the server takes the next message. -/
  | readLoop (deviceID : UUID)
  /-- `SendAndWait` returns the answer. -/
  | wake (n : ℕ)
  | timeout (n : ℕ)

/-- The steps of the session service that belong to opening a session. -/
def opens : RemoteSession.Label → Bool
  | .tick _ | .openTerminal _ _ _ _ _ _ | .openTunnel _ _ _ _ _ _ | .openMaintenance _ _
  | .exec (.request _) _ => true
  | _ => false

/-- Requests that have sent a message are told apart by its id: their names are not reused. -/
def State.unused (s : State) : RemoteSession.Label → Bool
  | .openTerminal n _ _ _ _ _ | .openTunnel n _ _ _ _ _ => !s.asked n
  | _ => true

namespace State

/-- `SendAndWait` up to the wait. -/
def sendOpen (s : State) (n : ℕ) : Option State :=
  match s.svc.threads (.request n) with
  | some (.awaiting sess) =>
    if s.asked n then none
    else
      some { s with
        asked := Function.update s.asked n true
        toAgent := Function.update s.toAgent sess.deviceID
          (s.toAgent sess.deviceID ++ [{ request := n, id := sess.id, kind := sess.kind }]) }
  | _ => none

/-- `handleSessionOpen` up to the start of the pump. -/
def agentOpen (s : State) (deviceID : UUID) (success : Bool) : Option State :=
  let a := s.agent deviceID
  match s.toAgent deviceID, a.replying with
  | req :: rest, none =>
    some { s with
      toAgent := Function.update s.toAgent deviceID rest
      agent := Function.update s.agent deviceID
        { streams :=
            if success then (req.id, req.kind.streamKind) :: a.streams else a.streams
          replying := some (req.request, req.id, success) } }
  | _, _ => none

/-- `replySessionOpenResult`. -/
def agentAnswer (s : State) (deviceID : UUID) : Option State :=
  let a := s.agent deviceID
  match a.replying with
  | some (n, id, success) =>
    some { s with
      agent := Function.update s.agent deviceID { a with replying := none }
      toServer := Function.update s.toServer deviceID (s.toServer deviceID ++
        [.openResult n id success])
      succeeded := if success then id :: s.succeeded else s.succeeded }
  | none => none

/-- One round of `pumpStream`. -/
def pump (s : State) (deviceID id : UUID) (payload : Payload) : Option State :=
  match (s.agent deviceID).streams.find? fun p ↦ p.1 = id with
  | some (_, kind) =>
    some { s with
      toServer := Function.update s.toServer deviceID (s.toServer deviceID ++
        [.frame kind id payload]) }
  | none => none

/-- One round of the hub's `readLoop`: `tryDeliver` for an answer, `handleInbound` for a frame. -/
def readLoop (s : State) (deviceID : UUID) : Option State :=
  match s.toServer deviceID with
  | .openResult n _ success :: rest =>
    some { s with
      toServer := Function.update s.toServer deviceID rest
      answer := Function.update s.answer n (some success) }
  | .frame kind id payload :: rest =>
    match s.svc.broker.route deviceID kind id with
    | some r =>
      some { s with
        toServer := Function.update s.toServer deviceID rest
        svc := { s.svc with broker := s.svc.broker.send r payload } }
    | none =>
      some { s with
        toServer := Function.update s.toServer deviceID rest
        unknown := id :: s.unknown }
  | [] => none

/-- `SendAndWait` returns the answer. -/
def wake (s : State) (n : ℕ) : Option State :=
  match s.answer n with
  | some success =>
    (s.svc.agentReply n (if success then .success else .rejected)).map fun svc ↦ { s with svc }
  | none => none

/-- `SendAndWait` returns an error. -/
def timeout (s : State) (n : ℕ) : Option State :=
  (s.svc.agentReply n .unreachable).map fun svc ↦ { s with svc }

end State

/-- One step of the two programs. -/
def step (s : State) : Label → Option State
  | .session l =>
    if opens l && s.unused l then (RemoteSession.step s.svc l).map fun svc ↦ { s with svc }
    else none
  | .sendOpen n => s.sendOpen n
  | .agentOpen deviceID success => s.agentOpen deviceID success
  | .agentAnswer deviceID => s.agentAnswer deviceID
  | .pump deviceID id payload => s.pump deviceID id payload
  | .readLoop deviceID => s.readLoop deviceID
  | .wake n => s.wake n
  | .timeout n => s.timeout n

/-- **No early stream data is lost**: no frame of a session opened by its agent was dropped as
unknown. -/
def NoEarlyLoss (s : State) : Prop :=
  ∀ id ∈ s.unknown, id ∉ s.succeeded

/-- The condition on a step: a pump sends only once the server has registered the stream. -/
def PumpsRegistered (s : State) : Label → Prop
  | .pump _ id _ => id ∈ s.svc.broker.streams
  | _ => True

variable {s t : State} {l : Label}

/-! ### What belongs to a session -/

/-- The session has this device, and its frames are of this kind. -/
def Owns (rows : List Session) (id deviceID : UUID) (kind : UInt8) : Prop :=
  ∃ r ∈ rows, r.id = id ∧ r.deviceID = deviceID ∧ r.kind.streamKind = kind

variable {deviceID : UUID} {rows : List Session} {svc svc' : RemoteSession.State} {n : ℕ}

theorem Owns.unique (hnd : (rows.map (·.id)).Nodup) {id deviceID' : UUID} {kind kind' : UInt8}
    (h : Owns rows id deviceID kind) (h' : Owns rows id deviceID' kind') :
    deviceID = deviceID' ∧ kind = kind' := by
  obtain ⟨r, hr, hid, rfl, rfl⟩ := h
  obtain ⟨_, hr', hid', rfl, rfl⟩ := h'
  obtain rfl := inj_on_of_nodup_map hnd hr hr' (hid.trans hid'.symm)
  exact ⟨rfl, rfl⟩

/-- Rows are added, or changed in columns other than these. -/
def Extends (rows rows' : List Session) : Prop :=
  ∀ id deviceID kind, Owns rows id deviceID kind → Owns rows' id deviceID kind

/-- What an opening handler may do: it removes no stream, and registers the session's. -/
def OpeningStmt (rows : List Session) : Stmt → Prop
  | .register id deviceID kind => Owns rows id deviceID kind
  | .unregister _ => False
  | _ => True

/-- What an opening handler is about is a stored session. -/
def OpeningThread (rows : List Session) : Thread → Prop
  | .created sess _ | .awaiting sess => Owns rows sess.id sess.deviceID sess.kind.streamKind
  | .preparing sess stmts => Owns rows sess.id sess.deviceID sess.kind.streamKind ∧
      ∀ stmt ∈ stmts, OpeningStmt rows stmt
  | .running stmts => ∀ stmt ∈ stmts, OpeningStmt rows stmt
  | .attaching _ _ | .streaming _ _ | .rereading _ _ => False

/-- The part of the invariant that is about the server. -/
structure ServiceInv (svc : RemoteSession.State) : Prop where
  ids_nodup : (svc.sessions.map (·.id)).Nodup
  threads : ∀ tid th, svc.threads tid = some th → OpeningThread svc.sessions th
  table : ∀ id r, svc.broker.streams.lookup id = some r →
    ∃ st, svc.broker.heap[r]? = some st ∧ Owns svc.sessions id st.deviceID st.kind

/-- **The invariant of the opening protocol**, in runs that pump to registered streams only. -/
structure OpeningInv (s : State) : Prop where
  service : ServiceInv s.svc
  requests : ∀ deviceID, ∀ req ∈ s.toAgent deviceID, Owns s.svc.sessions req.id deviceID
    req.kind.streamKind
  pumps : ∀ deviceID, ∀ p ∈ (s.agent deviceID).streams, Owns s.svc.sessions p.1 deviceID p.2
  frames : ∀ deviceID kind id payload, .frame kind id payload ∈ s.toServer deviceID →
    id ∈ s.svc.broker.streams ∧ Owns s.svc.sessions id deviceID kind
  unknown : s.unknown = []

/-! ### Steps of the server -/

theorem Extends.refl (rows : List Session) : Extends rows rows :=
  fun _ _ _ h ↦ h

theorem extends_append (rows : List Session) (sess : Session) : Extends rows (rows ++ [sess]) := by
  rintro id deviceID kind ⟨r, hr, hrest⟩
  exact ⟨r, mem_append_left _ hr, hrest⟩

theorem extends_map {f : Session → Session} (hf : ∀ r : Session, r.Keeps (f r))
    (rows : List Session) : Extends rows (rows.map f) := by
  rintro id deviceID kind ⟨r, hr, rfl, rfl, rfl⟩
  exact ⟨f r, mem_map_of_mem hr, (hf r).id, (hf r).deviceID, by rw [(hf r).kind]⟩

theorem OpeningStmt.mono {rows' : List Session} (hext : Extends rows rows') {stmt : Stmt}
    (h : OpeningStmt rows stmt) : OpeningStmt rows' stmt := by
  cases stmt with
  | register id deviceID kind => exact hext id deviceID kind h
  | unregister => exact h
  | setMaintenanceSession | addEvent | closeMaintenance | setState | close | createTunnel =>
    trivial

theorem OpeningThread.mono {rows' : List Session} (hext : Extends rows rows') {th : Thread}
    (h : OpeningThread rows th) : OpeningThread rows' th := by
  cases th with
  | created | awaiting => exact hext _ _ _ h
  | preparing =>
    exact ⟨hext _ _ _ h.1, fun stmt hmem ↦ (h.2 stmt hmem).mono hext⟩
  | running => exact fun stmt hmem ↦ (h stmt hmem).mono hext
  | attaching | streaming | rereading => exact h

/-- What a step of the server keeps for everybody else. -/
structure Evolves (svc svc' : RemoteSession.State) : Prop where
  rows : Extends svc.sessions svc'.sessions
  streams : ∀ id ∈ svc.broker.streams, id ∈ svc'.broker.streams

theorem Evolves.refl (svc : RemoteSession.State) : Evolves svc svc :=
  ⟨Extends.refl _, fun _ h ↦ h⟩

theorem owns_create (svc : RemoteSession.State) (id deviceID userID : UUID) (kind : Kind)
    (ttl : ℕ) :
    Owns (svc.create id deviceID userID kind ttl).1.sessions id deviceID kind.streamKind :=
  ⟨_, mem_append_right _ (mem_singleton_self _), rfl, rfl, rfl⟩

theorem openingStmt_replyStmts {sess : Session}
    (h : Owns rows sess.id sess.deviceID sess.kind.streamKind) (reply : OpenReply) :
    ∀ stmt ∈ replyStmts sess reply, OpeningStmt rows stmt := by
  cases reply with
  | unreachable | rejected => simp [replyStmts, OpeningStmt]
  | success =>
    by_cases hkind : sess.kind = .terminal <;> simpa [replyStmts, hkind, OpeningStmt] using h

theorem openingThread_ofStmts {stmts : List Stmt} (h : ∀ stmt ∈ stmts, OpeningStmt rows stmt)
    {th : Thread} (hth : Thread.ofStmts stmts = some th) : OpeningThread rows th := by
  rw [stmts_ofStmts hth]
  exact h

section

variable (hinv : ServiceInv svc)
include hinv

theorem ServiceInv.setThread {tid : ThreadID} {th : Option Thread}
    (hth : ∀ th', th = some th' → OpeningThread svc.sessions th') :
    ServiceInv (svc.setThread tid th) :=
  { hinv with threads := forall_setThread hinv.threads rfl hth }

theorem ServiceInv.run {stmt : Stmt} (hstmt : OpeningStmt svc.sessions stmt) :
    ServiceInv (stmt.run svc) ∧ Evolves svc (stmt.run svc) := by
  obtain ⟨f, hkeep, hf⟩ := stmt.run_keeps svc
  have hext : Extends svc.sessions (stmt.run svc).sessions := by
    rw [hf]
    exact extends_map hkeep svc.sessions
  have hnd : ((stmt.run svc).sessions.map (·.id)).Nodup := by
    rw [hf, ids_map fun r ↦ (hkeep r).id]
    exact hinv.ids_nodup
  have hths : ∀ tid th, (stmt.run svc).threads tid = some th →
      OpeningThread (stmt.run svc).sessions th := by
    intro tid th h
    rw [Stmt.run_threads] at h
    exact (hinv.threads tid th h).mono hext
  cases stmt with
  | unregister => exact hstmt.elim
  | register id =>
    refine ⟨⟨hnd, hths, fun id' r h ↦ ?_⟩, hext, fun id' h ↦ ?_⟩
    · by_cases hid : id' = id
      · subst hid
        obtain rfl : svc.broker.heap.length = r := by simpa [Stmt.run, Broker.register] using h
        exact ⟨_, Broker.register_heap_length, hstmt⟩
      · have hold : svc.broker.streams.lookup id' = some r := by
          simpa [Stmt.run, Broker.register, AList.lookup_insert_ne hid] using h
        obtain ⟨st, hst, howns⟩ := hinv.table id' r hold
        refine ⟨st, ?_, howns⟩
        rw [← hst]
        exact Broker.register_heap_of_lt (List.getElem?_eq_some_iff.1 hst).1
    · simp only [Stmt.run, Broker.register, AList.mem_insert]
      exact .inr h
  | setMaintenanceSession | addEvent | closeMaintenance | setState | close | createTunnel =>
    refine ⟨⟨hnd, hths, fun id' r h ↦ ?_⟩, hext, fun id' h ↦ h⟩
    obtain ⟨st, hst, howns⟩ := hinv.table id' r h
    exact ⟨st, hst, hext _ _ _ howns⟩

theorem ServiceInv.attempt {stmt : Stmt} (hstmt : OpeningStmt svc.sessions stmt)
    (out : RemoteSession.Outcome) :
    ServiceInv (stmt.attempt svc out) ∧ Evolves svc (stmt.attempt svc out) := by
  unfold Stmt.attempt
  split
  · exact ⟨hinv, Evolves.refl svc⟩
  · exact hinv.run hstmt

theorem ServiceInv.create {id : UUID} (hnew : id ∉ svc.sessions.map (·.id)) {userID : UUID}
    {kind : Kind} {ttl : ℕ} {tid : ThreadID} {th : Thread}
    (hth : OpeningThread (svc.create id deviceID userID kind ttl).1.sessions th) :
    ServiceInv ((svc.create id deviceID userID kind ttl).1.setThread tid (some th)) ∧
      Evolves svc ((svc.create id deviceID userID kind ttl).1.setThread tid (some th)) := by
  have hext : Extends svc.sessions (svc.create id deviceID userID kind ttl).1.sessions :=
    extends_append _ _
  refine ⟨ServiceInv.setThread ⟨?_, fun tid' th' h ↦ ?_, fun id' r h ↦ ?_⟩ ?_, hext, fun _ h ↦ h⟩
  · simp only [State.create, map_append]
    exact hinv.ids_nodup.append (nodup_singleton _) (by simpa using hnew)
  · exact (hinv.threads tid' th' h).mono hext
  · obtain ⟨st, hst, howns⟩ := hinv.table id' r h
    exact ⟨st, hst, hext _ _ _ howns⟩
  · rintro th' ⟨⟩
    exact hth

theorem serviceInv_agentReply {reply : OpenReply} (h : svc.agentReply n reply = some svc') :
    ServiceInv svc' ∧ Evolves svc svc' := by
  cases step_cases (l := .agentReply n reply) h with
  | agentReply hth =>
    refine ⟨hinv.setThread fun th' ↦ ?_, Extends.refl _, fun _ h ↦ h⟩
    exact openingThread_ofStmts (openingStmt_replyStmts (hinv.threads _ _ hth) reply)

/-- The opening handlers only add sessions and streams. -/
theorem serviceInv_of_sessionStep {l : RemoteSession.Label} (hopen : opens l = true)
    (h : RemoteSession.step svc l = some svc') : ServiceInv svc' ∧ Evolves svc svc' := by
  cases step_cases h with
  | tick => exact ⟨{ hinv with }, Extends.refl _, fun _ h ↦ h⟩
  | openTerminal hnew | openTunnel hnew => exact hinv.create hnew (owns_create ..)
  | openMaintenance _ hth =>
    have howns := hinv.threads _ _ hth
    refine ⟨ServiceInv.setThread ?_ ?_, Extends.refl _, fun _ h ↦ h⟩
    · exact { hinv with }
    · rintro th' ⟨⟩
      refine ⟨howns, fun stmt hmem ↦ ?_⟩
      simp only [mem_cons, not_mem_nil, or_false] at hmem
      obtain rfl | rfl := hmem <;> trivial
  | unmaintained hth =>
    have howns := hinv.threads _ _ hth
    refine ⟨hinv.setThread ?_, Extends.refl _, fun _ h ↦ h⟩
    rintro th' ⟨⟩
    exact howns
  | @prepare _ out _ stmt rest hth =>
    obtain ⟨howns, hall⟩ := hinv.threads _ _ hth
    obtain ⟨hinv', hevo⟩ := hinv.attempt (hall stmt mem_cons_self) out
    refine ⟨hinv'.setThread ?_, hevo.rows, hevo.streams⟩
    rintro th' ⟨⟩
    have hrest : ∀ stmt' ∈ rest, OpeningStmt (stmt.attempt svc out).sessions stmt' :=
      fun stmt' hmem ↦ (hall stmt' (mem_cons_of_mem _ hmem)).mono hevo.rows
    cases rest with
    | nil => exact hevo.rows _ _ _ howns
    | cons => exact ⟨hevo.rows _ _ _ howns, hrest⟩
  | @exec _ out stmt rest _ hth hnext =>
    have hall : ∀ stmt' ∈ stmt :: rest, OpeningStmt svc.sessions stmt' := hinv.threads _ _ hth
    obtain ⟨hinv', hevo⟩ := hinv.attempt (hall stmt mem_cons_self) out
    refine ⟨hinv'.setThread fun th' hth' ↦ ?_, hevo.rows, hevo.streams⟩
    obtain ⟨rfl, -⟩ | rfl := hnext
    · cases hth'
    · exact openingThread_ofStmts
        (fun stmt' hmem ↦ (hall stmt' (mem_cons_of_mem _ hmem)).mono hevo.rows) hth'
  | _ => cases hopen

theorem serviceInv_send {r : StreamRef} {st : Stream}
    (hst : svc.broker.heap[r]? = some st) (payload : Payload) :
    ServiceInv { svc with broker := svc.broker.send r payload } ∧
      Evolves svc { svc with broker := svc.broker.send r payload } := by
  have hsame : Broker.SameStreams svc.broker (svc.broker.send r payload) :=
    Broker.sameStreams_send hst
  refine ⟨{ hinv with table := fun id r' h ↦ ?_ }, Extends.refl _, fun id h ↦ ?_⟩
  · rw [hsame.streams] at h
    obtain ⟨st', hst', howns⟩ := hinv.table id r' h
    obtain ⟨_, hst''⟩ := hsame.heap r' st' hst'
    exact ⟨_, hst'', howns⟩
  · show id ∈ (svc.broker.send r payload).streams
    rwa [hsame.streams]

end

/-! ### Channels -/

theorem mem_update_append {α : Type*} {f : UUID → List α} {deviceID' : UUID} {x y : α}
    (h : x ∈ update f deviceID (f deviceID ++ [y]) deviceID') :
    x ∈ f deviceID' ∨ (deviceID' = deviceID ∧ x = y) := by
  rw [update_apply] at h
  split at h
  next heq =>
    subst heq
    exact (mem_snoc.1 h).imp_right fun hy ↦ ⟨rfl, hy⟩
  · exact .inl h

theorem mem_of_mem_update_tail {α : Type*} {f : UUID → List α} {deviceID' : UUID} {x y : α}
    {ys : List α} (hf : f deviceID = y :: ys) (h : x ∈ update f deviceID ys deviceID') :
    x ∈ f deviceID' := by
  rw [update_apply] at h
  split at h
  next heq =>
    subst heq
    rw [hf]
    exact mem_cons_of_mem _ h
  · exact h

/-! ### Steps of both programs -/

/-- A step of the server keeps what the agents and the channels rely on. -/
theorem OpeningInv.of_service (hinv : OpeningInv s) (h : ServiceInv svc ∧ Evolves s.svc svc) :
    OpeningInv { s with svc } where
  service := h.1
  requests deviceID req hmem := h.2.rows _ _ _ (hinv.requests deviceID req hmem)
  pumps deviceID p hmem := h.2.rows _ _ _ (hinv.pumps deviceID p hmem)
  frames deviceID kind id payload hmem := by
    obtain ⟨hreg, howns⟩ := hinv.frames deviceID kind id payload hmem
    exact ⟨h.2.streams id hreg, h.2.rows _ _ _ howns⟩
  unknown := hinv.unknown

theorem OpeningInv.route_isSome (hinv : OpeningInv s) {id : UUID} {kind : UInt8} {payload : Payload}
    (hmem : .frame kind id payload ∈ s.toServer deviceID) :
    ∃ r st, s.svc.broker.route deviceID kind id = some r ∧ s.svc.broker.heap[r]? = some st := by
  obtain ⟨hreg, howns⟩ := hinv.frames deviceID kind id payload hmem
  obtain ⟨r, hr⟩ := isSome_iff_exists.1 (AList.lookup_isSome.2 hreg)
  obtain ⟨st, hst, howns'⟩ := hinv.service.table id r hr
  -- the stream under the id and the frame belong to the same row
  obtain ⟨hdev, hkind⟩ := howns'.unique hinv.service.ids_nodup howns
  exact ⟨r, st, by simp [Broker.route, hr, hst, hdev, hkind], hst⟩

section

variable (hinv : OpeningInv s)
include hinv

theorem OpeningInv.session {l : RemoteSession.Label} (h : step s (.session l) = some t) :
    OpeningInv t := by
  simp only [step] at h
  split at h
  next hopen =>
    obtain ⟨_, hsvc, rfl⟩ := map_eq_some_iff.1 h
    exact hinv.of_service (serviceInv_of_sessionStep hinv.service (Bool.and_eq_true_iff.1 hopen).1
      hsvc)
  · cases h

theorem OpeningInv.sendOpen (h : s.sendOpen n = some t) : OpeningInv t := by
  unfold State.sendOpen at h
  split at h
  next sess hth =>
    split_ifs at h
    · cases h
      refine { hinv with requests := fun deviceID req hmem ↦ ?_ }
      obtain hold | ⟨rfl, rfl⟩ := mem_update_append hmem
      · exact hinv.requests _ req hold
      · exact hinv.service.threads _ _ hth
  · cases h

theorem OpeningInv.agentOpen {success : Bool} (h : s.agentOpen deviceID success = some t) :
    OpeningInv t := by
  simp only [State.agentOpen] at h
  split at h
  next req rest hto hreply =>
    cases h
    have hreq : Owns s.svc.sessions req.id deviceID req.kind.streamKind :=
      hinv.requests deviceID req (hto ▸ mem_cons_self)
    refine { hinv with
      requests := fun deviceID' req' hmem ↦ hinv.requests _ req' (mem_of_mem_update_tail hto hmem)
      pumps := (forall_update_iff s.agent fun deviceID a ↦ ∀ p ∈ a.streams,
        Owns s.svc.sessions p.1 deviceID p.2).2 ⟨fun p hmem ↦ ?_, fun d _ ↦ hinv.pumps d⟩ }
    simp only at hmem
    split at hmem
    · obtain rfl | hmem := mem_cons.1 hmem
      · exact hreq
      · exact hinv.pumps _ p hmem
    · exact hinv.pumps _ p hmem
  · cases h

theorem OpeningInv.agentAnswer (h : s.agentAnswer deviceID = some t) : OpeningInv t := by
  simp only [State.agentAnswer] at h
  split at h
  · cases h
    refine { hinv with
      pumps := (forall_update_iff s.agent fun deviceID a ↦ ∀ p ∈ a.streams,
        Owns s.svc.sessions p.1 deviceID p.2).2 ⟨hinv.pumps deviceID, fun d _ ↦ hinv.pumps d⟩
      frames := fun deviceID' kind id payload hmem ↦ ?_ }
    obtain hold | ⟨-, ⟨⟩⟩ := mem_update_append hmem
    exact hinv.frames _ kind id payload hold
  · cases h

/-- A pump with a registered stream puts a frame in the channel that will find the stream. -/
theorem OpeningInv.pump {id : UUID} {payload : Payload} (h : s.pump deviceID id payload = some t)
    (hreg : id ∈ s.svc.broker.streams) : OpeningInv t := by
  unfold State.pump at h
  split at h
  next id' kind hfind =>
    cases h
    obtain rfl : id' = id := by simpa using find?_some hfind
    have howns : Owns s.svc.sessions id' deviceID kind :=
      hinv.pumps deviceID _ (mem_of_find?_eq_some hfind)
    refine { hinv with frames := fun deviceID' kind' id payload' hmem ↦ ?_ }
    obtain hold | ⟨rfl, hnew⟩ := mem_update_append hmem
    · exact hinv.frames _ kind' id payload' hold
    · obtain ⟨rfl, rfl, -⟩ := Message.frame.inj hnew
      exact ⟨hreg, howns⟩
  · cases h

/-- A frame that is read finds its stream. -/
theorem OpeningInv.readLoop (h : s.readLoop deviceID = some t) : OpeningInv t := by
  unfold State.readLoop at h
  split at h
  next n id success rest hto =>
    cases h
    exact { hinv with
      frames := fun d k i p hmem ↦ hinv.frames d k i p (mem_of_mem_update_tail hto hmem) }
  next kind id payload rest hto =>
    -- the branch that drops the frame as unknown is not taken
    obtain ⟨r, _, hrte, hst⟩ := hinv.route_isSome (hto ▸ mem_cons_self)
    rw [hrte] at h
    cases h
    have hinv' := hinv.of_service (serviceInv_send hinv.service hst payload)
    exact { hinv' with
      frames := fun d k i p hmem ↦ hinv'.frames d k i p (mem_of_mem_update_tail hto hmem) }
  · cases h

theorem OpeningInv.agentReply {reply : OpenReply}
    (h : (s.svc.agentReply n reply).map (fun svc ↦ { s with svc }) = some t) : OpeningInv t := by
  obtain ⟨svc, hsvc, rfl⟩ := map_eq_some_iff.1 h
  exact hinv.of_service (serviceInv_agentReply hinv.service hsvc)

/-- **Every step preserves the invariant** when pumps wait for registration. -/
theorem OpeningInv.step (h : step s l = some t) (hpump : PumpsRegistered s l) : OpeningInv t := by
  cases l with
  | session => exact hinv.session h
  | sendOpen => exact hinv.sendOpen h
  | agentOpen => exact hinv.agentOpen h
  | agentAnswer => exact hinv.agentAnswer h
  | pump => exact hinv.pump h hpump
  | readLoop => exact hinv.readLoop h
  | wake =>
    simp only [Opening.step, State.wake] at h
    split at h
    · exact hinv.agentReply h
    · cases h
  | timeout => exact hinv.agentReply h

end

theorem openingInv_init : OpeningInv State.init where
  service := ⟨List.nodup_nil, fun _ _ h ↦ (by cases h), fun _ _ h ↦ (by cases h)⟩
  requests := nofun
  pumps := nofun
  frames := nofun
  unknown := rfl

/-- **No early stream data is lost in runs whose pumps send only to registered streams.** -/
theorem noEarlyLoss_of_pumpsRegistered (ls : List Label) (hrun : exec step State.init ls = some s)
    (hpump : Along step (fun s l _ ↦ PumpsRegistered s l) State.init ls) : NoEarlyLoss s := by
  have hinv : OpeningInv s :=
    invariant_of_along (I := OpeningInv) (fun _ _ _ hi h hp ↦ hi.step h hp) openingInv_init hrun
      hpump
  intro id hid
  rw [hinv.unknown] at hid
  cases hid

/-- A tunnel whose target waits to be spoken to: the first frame follows the registration. -/
theorem noEarlyLoss_of_pumpsRegistered_quiet : ∃ s, exec step State.init
        [.session (.openTunnel 0 1 2 3 .sshTunnel 100), .sendOpen 0, .agentOpen 2 true,
          .agentAnswer 2, .readLoop 2, .wake 0, .session (.exec (.request 0) .ok),
            .session (.exec (.request 0) .ok),
          .session (.exec (.request 0) .ok), .pump 2 1 [104], .readLoop 2] = some s ∧
      s.succeeded = [1] ∧ s.svc.broker.channel 0 = [[104]] ∧ NoEarlyLoss s := by
  refine exists_of_exec (fun s ↦ s.succeeded = [1] ∧ s.svc.broker.channel 0 = [[104]])
    (by decide +kernel) fun s hrun ⟨hsucceeded, hchan⟩ ↦
      ⟨hsucceeded, hchan, noEarlyLoss_of_pumpsRegistered _ hrun ?_⟩
  iterate 9 refine .cons rfl trivial ?_
  refine .cons rfl ?_ ?_
  · exact AList.lookup_isSome.1 rfl
  refine .cons rfl trivial trivial

/-- A tunnel to a server that speaks first: its banner overtakes the answer, the read loop finds no
stream, and the bytes are gone although the session opens. -/
theorem not_noEarlyLoss_banner : ∃ s, exec step State.init
        [.session (.openTunnel 0 1 2 3 .sshTunnel 100), .sendOpen 0, .agentOpen 2 true,
          .pump 2 1 [83], .agentAnswer 2, .readLoop 2] = some s ∧ ¬ NoEarlyLoss s :=
  ⟨_, rfl, fun h ↦ h 1 mem_cons_self mem_cons_self⟩

end WartungsRemote.Server.Opening
