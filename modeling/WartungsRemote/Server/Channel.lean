import WartungsRemote.Agent.SessionManager
import WartungsRemote.ControlHub.Steps
import WartungsRemote.RemoteSession.Handlers
import WartungsRemote.Server.Composition

/-!
# The server and its agents

The hub and the session service with the control connections between them and the agents. A
connection is a `Link`; the hub's map says which one a message to a device goes to. `OpenTerminal`
and `OpenTunnel` send `session_open` and wait; they get the agent's answer, or **give up**, because
the device is not connected, the write fails, fifteen seconds have passed or the request was
cancelled. The read loop of a connection passes answers on and handles a `session_close` itself.

`Service.Close` sends `session_close` to the agent **before** it touches the database, and ignores
how that ends. A handler that is about to call it owes the agent this message (`owes`). The message
is sent, or nobody is connected, or the write breaks the connection, or it fails and the connection
stays (it has waited longer for its turn than its deadline allows), or the request of the
administrator was cancelled, and then what follows in the database fails too.

A connection may break at any moment, and it does when the server's read loop returns. The agents
answer in their own time. The read loop does not wait for the handler of a `session_close` here, as
it does in the source, so there are more interleavings. Left out: restarts of the server, which end
all connections, and all other messages.
-/

namespace WartungsRemote.Server.Channel

open Function List Option RemoteSession Agent
open ControlHub (ConnID)
open Transition

/-- A `session_close` still to be sent by a handler, and whether its context can be cancelled. -/
structure Notice where
  sess : Session
  cancellable : Bool

structure State where
  srv : Server.State
  link : ConnID → Link
  /-- The connection that `session_open` was sent on. -/
  home : UUID → Option ConnID
  /-- The answer that `tryDeliver` has passed to the handler that waits for it. -/
  answer : UUID → Option Bool
  owes : ThreadID → Option Notice

namespace State

/-- An empty installation before its first request. -/
def init : State where
  srv := .init
  link _ := .fresh
  home _ := none
  answer _ := none
  owes _ := none

abbrev hub (s : State) : ControlHub.State :=
  s.srv.hub

abbrev svc (s : State) : RemoteSession.State :=
  s.srv.svc

/-- `getConn`. -/
abbrev conn? (s : State) (deviceID : UUID) : Option ConnID :=
  s.hub.conns.lookup deviceID

def withHub (s : State) (hub : ControlHub.State) : State :=
  { s with srv := { s.srv with hub } }

def withSvc (s : State) (svc : RemoteSession.State) : State :=
  { s with srv := { s.srv with svc } }

def setLink (s : State) (c : ConnID) (k : Link) : State :=
  { s with link := update s.link c k }

def setHome (s : State) (id : UUID) (c : ConnID) : State :=
  { s with home := update s.home id (some c) }

def setAnswer (s : State) (id : UUID) (success : Bool) : State :=
  { s with answer := update s.answer id (some success) }

def setOwes (s : State) (tid : ThreadID) (notice : Option Notice) : State :=
  { s with owes := update s.owes tid notice }

end State

/-- How the write of a `session_close` ends. -/
inductive SendOutcome
  | sent
  /-- It fails, and the connection stays. -/
  | dropped
  /-- It breaks the connection. -/
  | broken
  /-- The context was cancelled: nothing is sent, and the database calls that follow fail. -/
  | cancelled
  deriving DecidableEq

inductive Label
  | tick (d : ℕ)
  /-- A step of the hub alone. -/
  | hub (l : ControlHub.Label)
  /-- A step of the session service alone. -/
  | session (l : RemoteSession.Label)
  /-- The teardown of a connection calls the disconnect handler. -/
  | notify (c : ConnID) (out : Outcome) (rows : List InterruptedSession)
  /-- `SendAndWait` writes `session_open`. -/
  | sendOpen (n : ℕ)
  /-- `SendAndWait` returns the answer. -/
  | wake (n : ℕ)
  /-- `SendAndWait` returns an error. -/
  | giveUp (n : ℕ)
  /-- `Service.Close` writes `session_close`. -/
  | sendClose (tid : ThreadID) (o : SendOutcome)
  /-- A step of the agent. -/
  | agent (c : ConnID) (a : Action)
  /-- The read loop of a connection takes the next message; `n` names the handler of a
  `session_close`. -/
  | readLoop (c : ConnID) (n : ℕ)
  | cut (c : ConnID)

/-! ### What the session service owes the agent -/

/-- `DELETE` passes the context of its request on. The handlers of an agent's `session_close` and of
streams have their own. -/
def cancellable : RemoteSession.Label → Bool
  | .closeSession _ _ => true
  | _ => false

/-- What is owed after a step of the session service. -/
def owing (owes : ThreadID → Option Notice) (svc : RemoteSession.State) (l : RemoteSession.Label) :
    ThreadID → Option Notice :=
  match closes svc l with
  | some (n, sess) => Function.update owes (.request n) (some ⟨sess, cancellable l⟩)
  | none => owes

/-- Nothing of `Service.Close` happens before the message. The handler of an agent's `session_close`
unregisters the stream before. -/
def holdsBack (owes : ThreadID → Option Notice) (svc : RemoteSession.State) (tid : ThreadID) :
    Bool :=
  (owes tid).isSome &&
    match svc.threads tid with
    | some (.running (.unregister _ :: _)) => false
    | _ => true

namespace State

/-- A step of the session service alone. What the agent says has a label of its own. -/
def session (cfg : ControlHub.Config) (s : State) (l : RemoteSession.Label) : Option State :=
  let next := (Server.step cfg s.srv (.session l)).map fun srv ↦
    { s with srv, owes := owing s.owes s.svc l }
  match l with
  | .agentReply _ _ | .agentClose _ _ _ _ => none
  | .exec tid _ => if holdsBack s.owes s.svc tid then none else next
  | _ => next

/-- A step of the hub alone. When the read loop returns, the socket is closed. -/
def hubStep (cfg : ControlHub.Config) (s : State) (l : ControlHub.Label) : Option State :=
  (Server.step cfg s.srv (.hub l)).map fun srv ↦
    match l with
    | .endRead c => { s with srv }.setLink c (s.link c).broken
    | _ => { s with srv }

/-- `SendAndWait` up to the wait. -/
def sendOpen (s : State) (n : ℕ) : Option State :=
  match s.svc.threads (.request n) with
  | some (.awaiting sess) =>
    match s.conn? sess.deviceID with
    | some c =>
      if s.home sess.id = none ∧ (s.link c).cut = false then
        some ((s.setLink c ((s.link c).send (.sessionOpen sess.id))).setHome sess.id c)
      else none
    | none => none
  | _ => none

/-- `SendAndWait` returns the answer. -/
def wake (s : State) (n : ℕ) : Option State :=
  match s.svc.threads (.request n) with
  | some (.awaiting sess) =>
    match s.answer sess.id with
    | some success =>
      (s.svc.agentReply n (if success then .success else .rejected)).map s.withSvc
    | none => none
  | _ => none

/-- `SendAndWait` returns an error. -/
def giveUp (s : State) (n : ℕ) : Option State :=
  (s.svc.agentReply n .unreachable).map s.withSvc

/-- The handler goes on with a cancelled context. -/
def cancel (s : State) (tid : ThreadID) : State :=
  match s.svc.threads tid with
  | some (.running stmts) =>
    s.withSvc (s.svc.setThread tid (Thread.ofStmts (stmts.filter fun stmt ↦ !stmt.fallible)))
  | _ => s

def sendMessage (s : State) (sess : Session) (o : SendOutcome) : State :=
  match s.conn? sess.deviceID with
  | none => s
  | some c =>
    if (s.link c).cut then s
    else
      match o with
      | .sent => s.setLink c ((s.link c).send (.sessionClose sess.id))
      | .broken => s.setLink c (s.link c).broken
      | .dropped | .cancelled => s

/-- The message of `Service.Close`. -/
def sendClose (s : State) (tid : ThreadID) (o : SendOutcome) : Option State :=
  match s.owes tid, holdsBack s.owes s.svc tid with
  | some notice, true =>
    if o ≠ .cancelled then some ((s.sendMessage notice.sess o).setOwes tid none)
    else if notice.cancellable then some ((s.cancel tid).setOwes tid none)
    else none
  | _, _ => none

/-- One round of the hub's `readLoop`. -/
def readLoop (s : State) (c : ConnID) (n : ℕ) : Option State :=
  match s.hub.phase c, (s.link c).toServer with
  | .serving _, .sessionOpenResult id success :: rest =>
    some ((s.setLink c { s.link c with toServer := rest }).setAnswer id success)
  | .serving conn, .sessionClose id :: rest =>
    (s.svc.agentClose n conn.deviceID id "stream_ended").map fun svc ↦
      { (s.withSvc svc).setLink c { s.link c with toServer := rest } with
        owes := owing s.owes s.svc (.agentClose n conn.deviceID id "stream_ended") }
  | _, _ => none

end State

/-- One step of the server and its agents. -/
def step (cfg : ControlHub.Config) (s : State) : Label → Option State
  | .tick d => (Server.step cfg s.srv (.tick d)).map fun srv ↦ { s with srv }
  | .hub l => s.hubStep cfg l
  | .session l => s.session cfg l
  | .notify c out rows => (Server.step cfg s.srv (.notify c out rows)).map fun srv ↦ { s with srv }
  | .sendOpen n => s.sendOpen n
  | .wake n => s.wake n
  | .giveUp n => s.giveUp n
  | .sendClose tid o => s.sendClose tid o
  | .agent c a => ((s.link c).step a).map (s.setLink c)
  | .readLoop c n => s.readLoop c n
  | .cut c => some (s.setLink c (s.link c).broken)

/-! ### What a step can do -/

/-- What a step can do. -/
inductive Step (cfg : ControlHub.Config) (s : State) : Label → State → Prop
  | tick {d hub svc} (hhub : ControlHub.step cfg s.hub (.tick d) = some hub)
      (hsvc : RemoteSession.step s.svc (.tick d) = some svc) :
      Step cfg s (.tick d) ((s.withHub hub).withSvc svc)
  | hub {l hub} (hhub : ControlHub.step cfg s.hub l = some hub) :
      Step cfg s (.hub l) (s.withHub hub)
  | endRead {c hub} (hhub : ControlHub.step cfg s.hub (.endRead c) = some hub) :
      Step cfg s (.hub (.endRead c)) ((s.withHub hub).setLink c (s.link c).broken)
  | session {l svc} (hl : RemoteSession.step s.svc l = some svc)
      (hback : ∀ tid out, l = .exec tid out → holdsBack s.owes s.svc tid = false)
      (hagent : ∀ n reply, l ≠ .agentReply n reply) (hshar : sharedBySessions l = false) :
      Step cfg s (.session l) { s.withSvc svc with owes := owing s.owes s.svc l }
  | notify {c out rows conn hub svc notified} (hph : s.hub.phase c = .lost conn)
      (hhub : ControlHub.step cfg s.hub (.notify c) = some hub)
      (hsvc : RemoteSession.step s.svc (.interruptDevice c conn.deviceID out rows) = some svc) :
      Step cfg s (.notify c out rows) { s with srv := ⟨hub, svc, notified⟩ }
  | sendOpen {n sess c} (hth : s.svc.threads (.request n) = some (.awaiting sess))
      (hconn : s.conn? sess.deviceID = some c) (hhome : s.home sess.id = none) :
      Step cfg s (.sendOpen n) ((s.setLink c ((s.link c).send (.sessionOpen sess.id))).setHome
        sess.id c)
  | wake {n sess success svc} (hth : s.svc.threads (.request n) = some (.awaiting sess))
      (hans : s.answer sess.id = some success)
      (hsvc : RemoteSession.step s.svc (.agentReply n (if success then .success else .rejected)) =
        some svc) :
      Step cfg s (.wake n) (s.withSvc svc)
  | giveUp {n svc} (hsvc : RemoteSession.step s.svc (.agentReply n .unreachable) = some svc) :
      Step cfg s (.giveUp n) (s.withSvc svc)
  /-- Nobody is connected, the connection is broken, or the message is dropped. -/
  | unsent {tid o notice} (howes : s.owes tid = some notice)
      (ho : o = .dropped ∨ ∀ c, s.conn? notice.sess.deviceID = some c → (s.link c).cut = true) :
      Step cfg s (.sendClose tid o) (s.setOwes tid none)
  | sent {tid notice c} (howes : s.owes tid = some notice)
      (hconn : s.conn? notice.sess.deviceID = some c) : Step cfg s (.sendClose tid .sent)
        ((s.setLink c ((s.link c).send (.sessionClose notice.sess.id))).setOwes tid none)
  | broke {tid notice c} (howes : s.owes tid = some notice)
      (hconn : s.conn? notice.sess.deviceID = some c) :
      Step cfg s (.sendClose tid .broken) ((s.setLink c (s.link c).broken).setOwes tid none)
  | cancelled {tid notice} (howes : s.owes tid = some notice) (hcanc : notice.cancellable = true) :
      Step cfg s (.sendClose tid .cancelled) ((s.cancel tid).setOwes tid none)
  | agent {c a k} (hk : (s.link c).step a = some k) : Step cfg s (.agent c a) (s.setLink c k)
  | answered {c n id success rest}
      (htoS : (s.link c).toServer = .sessionOpenResult id success :: rest) :
      Step cfg s (.readLoop c n) ((s.setLink c { s.link c with toServer := rest }).setAnswer
        id success)
  | reported {c n conn id rest svc} (hph : s.hub.phase c = .serving conn)
      (htoS : (s.link c).toServer = .sessionClose id :: rest)
      (hsvc : RemoteSession.step s.svc (.agentClose n conn.deviceID id "stream_ended") = some svc) :
      Step cfg s (.readLoop c n)
        { (s.withSvc svc).setLink c { s.link c with toServer := rest } with
          owes := owing s.owes s.svc (.agentClose n conn.deviceID id "stream_ended") }
  | cut {c} : Step cfg s (.cut c) (s.setLink c (s.link c).broken)

section StepCases

variable {cfg : ControlHub.Config} {s t : State}

theorem step_hub {l : ControlHub.Label} (h : s.hubStep cfg l = some t) : Step cfg s (.hub l) t := by
  obtain ⟨_, hsrv, rfl⟩ := map_eq_some_iff.1 h
  obtain ⟨_, hhub, rfl⟩ := step_hub_eq_some hsrv
  split
  · exact .endRead hhub
  · exact .hub hhub

theorem step_session {l : RemoteSession.Label} (h : s.session cfg l = some t) :
    Step cfg s (.session l) t := by
  have hnext : (∀ n reply, l ≠ .agentReply n reply) →
      (∀ tid out, l = .exec tid out → holdsBack s.owes s.svc tid = false) →
      ((Server.step cfg s.srv (.session l)).map fun srv ↦
        { s with srv, owes := owing s.owes s.svc l }) = some t →
      Step cfg s (.session l) t := by
    intro hagent hback hmap
    obtain ⟨_, hsrv, rfl⟩ := map_eq_some_iff.1 hmap
    obtain ⟨hshar, _, hsvc, rfl⟩ := step_session_eq_some hsrv
    exact .session hsvc hback hagent hshar
  unfold State.session at h
  split at h
  · cases h
  · cases h
  next tid out =>
    split_ifs at h
    next hback =>
      refine hnext (by simp) ?_ h
      rintro tid' outcome' ⟨⟩
      simpa using hback
  next hreply _ hexec =>
    exact hnext (fun n reply heq ↦ hreply n reply heq) (fun tid out heq ↦
      absurd heq (hexec tid out)) h

theorem step_sendOpen {n : ℕ} (h : s.sendOpen n = some t) : Step cfg s (.sendOpen n) t := by
  unfold State.sendOpen at h
  split at h
  next hth =>
    split at h
    next hconn =>
      split at h <;> cases h
      next hhome => exact .sendOpen hth hconn hhome.1
    · cases h
  · cases h

theorem step_wake {n : ℕ} (h : s.wake n = some t) : Step cfg s (.wake n) t := by
  unfold State.wake at h
  split at h
  next hth =>
    split at h
    next hans =>
      obtain ⟨_, hsvc, rfl⟩ := map_eq_some_iff.1 h
      exact .wake hth hans hsvc
    · cases h
  · cases h

theorem step_sendClose {tid : ThreadID} {o : SendOutcome} (h : s.sendClose tid o = some t) :
    Step cfg s (.sendClose tid o) t := by
  unfold State.sendClose at h
  split at h
  next howes _ =>
    split_ifs at h with ho hcanc
    · cases h
      unfold State.sendMessage
      split
      next hconn => exact .unsent howes (.inr (by simp [hconn]))
      next hconn =>
        split_ifs with hcut
        · refine .unsent howes (.inr fun c' hc' ↦ ?_)
          cases hconn.symm.trans hc'
          exact hcut
        · cases o with
          | sent => exact .sent howes hconn
          | broken => exact .broke howes hconn
          | dropped => exact .unsent howes (.inl rfl)
          | cancelled => exact absurd rfl ho
    · cases h
      obtain rfl := not_not.1 ho
      exact .cancelled howes hcanc
  · cases h

theorem step_readLoop {c : ConnID} {n : ℕ} (h : s.readLoop c n = some t) :
    Step cfg s (.readLoop c n) t := by
  unfold State.readLoop at h
  split at h
  next htoS =>
    cases h
    exact .answered htoS
  next hph htoS =>
    obtain ⟨_, hsvc, rfl⟩ := map_eq_some_iff.1 h
    exact .reported hph htoS hsvc
  · cases h

theorem step_cases {l : Label} (h : step cfg s l = some t) : Step cfg s l t := by
  cases l with
  | tick =>
    simp only [step, Server.step] at h
    obtain ⟨_, hsrv, rfl⟩ := map_eq_some_iff.1 h
    obtain ⟨_, hhub, hmap⟩ := bind_eq_some_iff.1 hsrv
    obtain ⟨_, hsvc, rfl⟩ := map_eq_some_iff.1 hmap
    exact .tick hhub hsvc
  | hub => exact step_hub h
  | session => exact step_session h
  | notify =>
    obtain ⟨_, hsrv, rfl⟩ := map_eq_some_iff.1 h
    obtain ⟨_, _, hph, hsvc, rfl⟩ := step_notify_eq_some hsrv
    refine .notify hph ?_ hsvc
    simp [ControlHub.step, ControlHub.State.notify, hph]
  | sendOpen => exact step_sendOpen h
  | wake => exact step_wake h
  | giveUp =>
    obtain ⟨_, hsvc, rfl⟩ := map_eq_some_iff.1 h
    exact .giveUp hsvc
  | sendClose => exact step_sendClose h
  | agent =>
    obtain ⟨_, hk, rfl⟩ := map_eq_some_iff.1 h
    exact .agent hk
  | readLoop => exact step_readLoop h
  | cut =>
    cases h
    exact .cut

end StepCases

/-! ### What always holds -/

/-- The parts fit together. A session that a connection carries or carried was sent on it, to its
device; and a handler works with a stored session. -/
structure Consistent (s : State) : Prop where
  ids_nodup : (s.svc.sessions.map (·.id)).Nodup
  copies : Copies s.svc
  regular : Regular s.svc
  owed : ∀ tid notice, s.owes tid = some notice → Stored s.svc.sessions notice.sess
  mapped : ∀ deviceID c, s.conn? deviceID = some c → (s.hub.phase c).Mapped deviceID
  carried_nodup : ∀ c, (s.link c).carried.Nodup
  carried : ∀ c, ∀ id ∈ (s.link c).carried, s.home id = some c
  finished : ∀ c, ∀ id ∈ (s.link c).finished, s.home id = some c
  home : ∀ id c, s.home id = some c → ∃ r ∈ s.svc.sessions, r.id = id ∧
    (s.hub.phase c).Joined r.deviceID

section Consistent

variable {cfg : ControlHub.Config} {s t : State} {l : Label}

theorem consistent_init : Consistent .init where
  ids_nodup := List.nodup_nil
  copies _ _ _ hth := by cases hth
  regular _ _ hth := by cases hth
  owed := nofun
  mapped := nofun
  carried_nodup _ := nodup_nil
  carried := nofun
  finished := nofun
  home := nofun

section

variable (h : Consistent s)
include h

theorem Consistent.withHub {hl : ControlHub.Label} {hub : ControlHub.State}
    (hhub : ControlHub.step cfg s.hub hl = some hub) : Consistent (s.withHub hub) :=
  { h with
    mapped := ControlHub.mapped_of_step hhub h.mapped
    home := fun id c hc ↦ by
      obtain ⟨r, hr, hid, hjoin⟩ := h.home id c hc
      exact ⟨r, hr, hid, ControlHub.joined_of_step hhub hjoin⟩ }

theorem Consistent.setLink {c : ConnID} {k : Link} (hnd : k.carried.Nodup)
    (hcarr : ∀ id ∈ k.carried, s.home id = some c) (hfin : ∀ id ∈ k.finished, s.home id = some c) :
    Consistent (s.setLink c k) :=
  { h with
    carried_nodup := (forall_update_iff s.link fun _ k ↦ k.carried.Nodup).2
      ⟨hnd, fun c' _ ↦ h.carried_nodup c'⟩
    carried := (forall_update_iff s.link fun c k ↦ ∀ id ∈ k.carried, s.home id = some c).2
      ⟨hcarr, fun c' _ ↦ h.carried c'⟩
    finished := (forall_update_iff s.link fun c k ↦ ∀ id ∈ k.finished, s.home id = some c).2
      ⟨hfin, fun c' _ ↦ h.finished c'⟩ }

theorem Consistent.broken (c : ConnID) : Consistent (s.setLink c (s.link c).broken) :=
  h.setLink nodup_nil nofun (h.finished c)

theorem Consistent.sendClose (c : ConnID) (id : UUID) :
    Consistent (s.setLink c ((s.link c).send (.sessionClose id))) := by
  have hcarr := Link.carried_send_close (s.link c) id
  exact h.setLink (hcarr ▸ h.carried_nodup c) (hcarr ▸ h.carried c) (h.finished c)

/-- A session step; the handlers then owe what they owed, or something about a stored session. -/
theorem Consistent.withSvc {sl : RemoteSession.Label} {svc : RemoteSession.State}
    (hsvc : RemoteSession.step s.svc sl = some svc) (hres : ∀ out rows, sl ≠ .restart out rows)
    {owes : ThreadID → Option Notice}
    (howes : ∀ tid notice, owes tid = some notice → Stored s.svc.sessions notice.sess) :
    Consistent { s.withSvc svc with owes } :=
  { h with
    ids_nodup := RemoteSession.ids_nodup_of_step hsvc h.ids_nodup
    copies := h.copies.step hsvc
    regular := h.regular.step hsvc hres
    owed := fun tid notice hnotice ↦ Stored.of_step hsvc (howes tid notice hnotice)
    home := fun id c hc ↦ by
      obtain ⟨r, hr, hid, hjoin⟩ := h.home id c hc
      obtain ⟨r', hr', hid', hdev⟩ := Stored.of_step hsvc (stored_of_mem hr)
      exact ⟨r', hr', hid'.trans hid, hdev ▸ hjoin⟩ }

theorem Consistent.setOwes (tid : ThreadID) : Consistent (s.setOwes tid none) :=
  { h with
    owed := (forall_update_iff s.owes fun _ o ↦
      ∀ notice, o = some notice → Stored s.svc.sessions notice.sess).2 ⟨nofun, fun tid' _ ↦
        h.owed tid'⟩ }

theorem Consistent.owing (sl : RemoteSession.Label) :
    ∀ tid notice, owing s.owes s.svc sl tid = some notice → Stored s.svc.sessions notice.sess := by
  rcases hcls : closes s.svc sl with _ | ⟨n, _⟩
  · simp only [Channel.owing, hcls]
    exact h.owed
  · simp only [Channel.owing, hcls]
    refine (forall_update_iff s.owes fun _ o ↦
      ∀ notice, o = some notice → Stored s.svc.sessions notice.sess).2 ⟨?_, fun tid _ ↦ h.owed tid⟩
    rintro notice ⟨⟩
    exact stored_of_closes h.copies hcls

theorem Consistent.cancel (tid : ThreadID) : Consistent (s.cancel tid) := by
  unfold State.cancel
  split
  next stmts hth =>
    refine { h with
      copies := h.copies.setThread rfl (fun _ hs ↦ hs) fun th' sess hth' hsess ↦ ?_
      regular := forall_setThread h.regular rfl fun th' hth' ↦ ?_ }
    · rw [sess?_ofStmts hth'] at hsess
      cases hsess
    · refine regular_ofStmts hth' fun id state reason hmem ↦ ?_
      exact h.regular tid _ hth id state reason (mem_filter.1 hmem).1
  · exact h

theorem Consistent.sendOpen {tid : ThreadID} {sess : Session} {c : ConnID}
    (hth : s.svc.threads tid = some (.awaiting sess)) (hconn : s.conn? sess.deviceID = some c)
    (hhome : s.home sess.id = none) :
    Consistent ((s.setLink c ((s.link c).send (.sessionOpen sess.id))).setHome sess.id c) := by
  have hkept : ∀ {id c'}, s.home id = some c' → update s.home sess.id (some c) id = some c' := by
    intro id c' hid
    have hne : id ≠ sess.id := by
      rintro rfl
      rw [hid] at hhome
      cases hhome
    exact (update_of_ne hne _ _).trans hid
  have hnew : sess.id ∉ (s.link c).carried := by
    intro hmem
    rw [h.carried c _ hmem] at hhome
    cases hhome
  have hstor : Consistent (s.setHome sess.id c) := by
    refine { h with
      carried := fun c' id hid ↦ hkept (h.carried c' id hid)
      finished := fun c' id hid ↦ hkept (h.finished c' id hid)
      home := (forall_update_iff s.home fun id o ↦ ∀ c', o = some c' → ∃ r ∈ s.svc.sessions,
        r.id = id ∧ (s.hub.phase c').Joined r.deviceID).2 ⟨?_, fun id _ ↦ h.home id⟩ }
    rintro c' ⟨⟩
    obtain ⟨r, hr, hid, hdev⟩ := h.copies _ _ sess hth rfl
    exact ⟨r, hr, hid, hdev ▸ (h.mapped _ c hconn).joined⟩
  have hperm := Link.carried_send_open (s.link c) sess.id
  refine hstor.setLink (hperm.nodup_iff.2 (nodup_cons.2 ⟨hnew, h.carried_nodup c⟩))
    (fun id hid ↦ ?_) (hstor.finished c)
  rcases mem_cons.1 (hperm.subset hid) with rfl | hid
  · exact update_self _ _ _
  · exact hkept (h.carried c id hid)

/-- **Every step keeps the parts together.** -/
theorem Consistent.step (hstep : Step cfg s l t) : Consistent t := by
  cases hstep with
  | tick hhub hsvc => exact (h.withHub hhub).withSvc hsvc (by simp) h.owed
  | hub hhub => exact h.withHub hhub
  | endRead hhub => exact (h.withHub hhub).broken _
  | session hsvc _ _ hshar =>
    refine h.withSvc hsvc ?_ (h.owing _)
    rintro out rows rfl
    cases hshar
  | notify _ hhub hsvc => exact { (h.withHub hhub).withSvc hsvc (by simp) h.owed with }
  | sendOpen hth hconn hhome => exact h.sendOpen hth hconn hhome
  | wake _ _ hsvc | giveUp hsvc => exact h.withSvc hsvc (by simp) h.owed
  | unsent => exact h.setOwes _
  | sent => exact (h.sendClose _ _).setOwes _
  | broke => exact (h.broken _).setOwes _
  | cancelled => exact (h.cancel _).setOwes _
  | @agent c _ _ hk =>
    obtain ⟨hnd, hsubset⟩ := Link.carried_of_step hk (h.carried_nodup c)
    refine h.setLink hnd (fun id hid ↦ h.carried c id (hsubset hid)) fun id hid ↦ ?_
    obtain hold | ⟨hstr, -⟩ := Link.finished_of_step hk hid
    · exact h.finished c id hold
    · exact h.carried c id (Link.mem_carried.2 (.inr hstr))
  | @answered c _ _ _ rest =>
    exact { h.setLink (k := { s.link c with toServer := rest }) (h.carried_nodup c) (h.carried c)
      (h.finished c) with }
  | @reported c _ _ _ rest _ _ _ hsvc =>
    exact (h.withSvc hsvc (by simp) (h.owing _)).setLink (k := { s.link c with toServer := rest })
      (h.carried_nodup c) (h.carried c) (h.finished c)
  | cut => exact h.broken _

end

end Consistent

/-! ### What a label does not name -/

/-- The handler that a label moves. -/
def Label.handler? : Label → Option ThreadID
  | .session l => l.handler?
  | .notify c _ _ => some (.disconnect c)
  | .wake n | .giveUp n | .readLoop _ n => some (.request n)
  | .sendClose tid _ => some tid
  | .tick _ | .hub _ | .sendOpen _ | .agent _ _ | .cut _ => none

/-- The connection that a label is about, apart from the one in the hub's map. -/
def Label.conn? : Label → Option ConnID
  | .hub (.register c) | .hub (.endRead c) | .agent c _ | .readLoop c _ | .cut c => some c
  | _ => none

/-- A connection that is not in the map and has not been used. -/
def Untouched (s : State) (c : ConnID) : Prop :=
  s.link c = .fresh ∧ ∀ deviceID, s.conn? deviceID ≠ some c

section Frame

variable {cfg : ControlHub.Config} {s t : State} {l : Label}

theorem threads_of_step {tid : ThreadID} (h : Step cfg s l t) (hl : l.handler? ≠ some tid) :
    t.svc.threads tid = s.svc.threads tid := by
  cases h with
  | tick _ hsvc =>
    exact RemoteSession.threads_of_step hsvc (by simp [RemoteSession.Label.handler?]) (by simp)
  | session hsvc _ _ hshar =>
    refine threads_of_step hsvc hl ?_
    rintro out rows rfl
    cases hshar
  | notify _ _ hsvc | wake _ _ hsvc | giveUp hsvc | reported _ _ hsvc =>
    exact threads_of_step hsvc hl (by simp)
  | @cancelled tid' =>
    have htid : tid ≠ tid' := by
      rintro rfl
      exact hl rfl
    show (s.cancel tid').svc.threads tid = s.svc.threads tid
    unfold State.cancel
    split
    · exact State.setThread_threads_of_ne _ _ htid
    · rfl
  | _ => rfl

theorem Untouched.step {c : ConnID} (hs : Untouched s c) (h : Step cfg s l t)
    (hl : l.conn? ≠ some c) :
    Untouched t c := by
  obtain ⟨hlink, hconn⟩ := hs
  -- something happens on another connection
  have hoth : ∀ {c' k}, c' ≠ c → update s.link c' k c = .fresh := by
    intro c' k hne
    rw [update_of_ne hne.symm, hlink]
  have hhub : ∀ {hl hub}, ControlHub.step cfg s.hub hl = some hub → hl ≠ .register c →
      ∀ deviceID, hub.conns.lookup deviceID ≠ some c := by
    intro hl hub hstep hregister deviceID hlook
    obtain hold | ⟨heq, -⟩ := ControlHub.lookup_of_step hstep hlook
    · exact hconn deviceID hold
    · exact hregister heq
  have hmapped : ∀ {deviceID c'}, s.conn? deviceID = some c' → c' ≠ c := by
    rintro deviceID c' hc' rfl
    exact hconn deviceID hc'
  cases h with
  | tick hstep | notify _ hstep => exact ⟨hlink, hhub hstep (by simp)⟩
  | hub hstep =>
    refine ⟨hlink, hhub hstep ?_⟩
    rintro rfl
    exact hl rfl
  | endRead hstep =>
    refine ⟨hoth ?_, hhub hstep (by simp)⟩
    rintro rfl
    exact hl rfl
  | session | wake | giveUp | unsent => exact ⟨hlink, hconn⟩
  | cancelled =>
    unfold State.cancel
    split
    · exact ⟨hlink, hconn⟩
    · exact ⟨hlink, hconn⟩
  | sendOpen _ hconn' | sent _ hconn' | broke _ hconn' => exact ⟨hoth (hmapped hconn'), hconn⟩
  | agent | answered | reported | cut => exact ⟨hoth (fun heq ↦ hl (heq ▸ rfl)), hconn⟩

end Frame

/-! ### Quiet states -/

/-- Nothing is on its way, and the agent does nothing. -/
def LinkQuiet (k : Link) : Prop :=
  k.toAgent = [] ∧ k.toServer = [] ∧ k.replying = none ∧ k.ended = []
  deriving Decidable

/-- No message is on its way and no handler runs, on the server or on an agent. -/
def Quiet (s : State) : Prop :=
  (∀ tid, s.svc.threads tid = none) ∧ ∀ c, (s.link c).cut = false → LinkQuiet (s.link c)

/-- In a run with one connection and handlers of one name, it is enough to look at these. -/
theorem quiet_of_exec {cfg : ControlHub.Config} {s : State} {labels : List Label} {tid : ThreadID}
    {c : ConnID} (hrun : exec (step cfg) .init labels = some s)
    (hlabels : ∀ l ∈ labels, (l.handler? = none ∨ l.handler? = some tid) ∧
      (l.conn? = none ∨ l.conn? = some c))
    (hth : s.svc.threads tid = none) (hlink : LinkQuiet (s.link c)) : Quiet s := by
  constructor
  · intro tid'
    by_cases htid : tid' = tid
    · rw [htid, hth]
    refine invariant_of_along (I := fun s ↦ s.svc.threads tid' = none) (P := fun _ l _ ↦
      l.handler? ≠ some tid') (fun s l t hs h hl ↦ (threads_of_step (step_cases h) hl).trans hs)
        rfl hrun
      (along_of_forall_mem fun l hl _ _ ↦ ?_)
    rcases (hlabels l hl).1 with h | h <;> simp [h, Ne.symm htid]
  · intro c' _
    by_cases hc : c' = c
    · rw [hc]
      exact hlink
    have huntouched : Untouched s c' := invariant_of_along (I := fun s ↦ Untouched s c')
      (P := fun _ l _ ↦ l.conn? ≠ some c') (fun s l t hs h hl ↦ hs.step (step_cases h) hl)
      ⟨rfl, fun _ h ↦ by cases h⟩ hrun (along_of_forall_mem fun l hl _ _ ↦ by
        rcases (hlabels l hl).2 with h | h <;> simp [h, Ne.symm hc])
    rw [huntouched.1]
    exact ⟨rfl, rfl, rfl, rfl⟩

/-- **A connection carries sessions of its own device only**, in every run. -/
theorem carried_device (cfg : ControlHub.Config) (ls : List Label) :
    Along (step cfg) (fun _ _ t ↦ ∀ c, ∀ id ∈ (t.link c).carried,
      ∃ r ∈ t.svc.sessions, r.id = id ∧ (t.hub.phase c).Joined r.deviceID) .init ls := by
  refine along_of_exec (fun _ _ _ hs h ↦ hs.step (step_cases h)) (fun s l t hs h c id hid ↦
    ?_) consistent_init
  have ht := hs.step (step_cases h)
  exact ht.home id c (ht.carried c id hid)

/-! ### Sample runs -/

namespace Sample

/-- The agent of a device connects. -/
def connected : List Label :=
  (ControlHub.Sample.enroll :: ControlHub.Sample.connect 0).map .hub

/-- An administrator opens a tunnel, and the server asks the agent. -/
def asked (id : UUID) : List Label :=
  [.session (.openTunnel 0 id ControlHub.Sample.device 3 .sshTunnel 600), .sendOpen 0]

/-- The agent opens the stream and answers. -/
def agentOpens : List Label :=
  [.agent 0 (.handleSessionOpen true), .agent 0 .reply]

/-- The handler gets the answer and makes the session active. -/
def activated : List Label :=
  [.wake 0, .session (.exec (.request 0) .ok), .session (.exec (.request 0) .ok),
    .session (.exec (.request 0) .ok)]

end Sample

end WartungsRemote.Server.Channel
