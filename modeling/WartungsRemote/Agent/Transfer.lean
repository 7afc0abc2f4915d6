import WartungsRemote.Agent.Files

/-!
# What an agent has received of an upload

A connection that replaces another never makes room for it again, so the frames of one upload on the
connection it was announced on are a first part of the upload, and **an empty frame among them means
that they are all of it**. This is so in every run: connections may come and go, and handlers may
give up at any point.

The agent does not appear here except as a reader of its connections (`SameServer`).
-/

namespace WartungsRemote.Agent

open Function List Option State
open Relay (Payload)
open Transition

/-- The upload a message is for. -/
def Message.stream : Message → UUID
  | .command id _ | .frame id _ => id

/-- The payload of a frame of this upload. -/
def Message.payloadFor (id : UUID) : Message → Option Payload
  | .frame id' payload => if id' = id then some payload else none
  | .command _ _ => none

/-- The frames of an upload, in order. -/
def frames (log : List Message) (id : UUID) : List Payload :=
  log.filterMap (Message.payloadFor id)

/-- The frames of an upload that the read loop has taken. -/
def Conn.received (conn : Conn) (id : UUID) : List Payload :=
  frames (conn.sent.take conn.taken) id

@[simp] theorem frames_append (log log' : List Message) (id : UUID) :
    frames (log ++ log') id = frames log id ++ frames log' id :=
  filterMap_append

@[simp] theorem frames_frame (id : UUID) (payload : Payload) :
    frames [.frame id payload] id = [payload] := by
  simp [frames, Message.payloadFor]

theorem frames_frame_of_ne {id id' : UUID} (h : id' ≠ id) (payload : Payload) :
    frames [.frame id' payload] id = [] := by
  simp [frames, Message.payloadFor, h]

theorem frames_eq_nil {log : List Message} {id : UUID} (h : ∀ msg ∈ log, msg.stream ≠ id) :
    frames log id = [] := by
  refine filterMap_eq_nil_iff.2 fun msg hmsg ↦ ?_
  cases msg with
  | command => rfl
  | frame => exact if_neg (h _ hmsg)

theorem received_prefix_frames (conn : Conn) (id : UUID) :
    conn.received id <+: frames conn.sent id :=
  IsPrefix.filterMap _ ⟨_, take_append_drop _ _⟩

/-! ### The invariant -/

/-- The frames of an upload on the connection it was announced on. -/
structure Flow (current : Option ℕ) (r : Request) (sent : List Payload) : Prop where
  /-- The end of the file is not sent before the handler has it. -/
  unfinished : r.phase ≠ .finished → [] ∉ sent
  /-- As long as the hub keeps the connection, it has got all that was read. -/
  complete : r.phase = .awaiting ∨ r.phase = .streaming → current = some r.conn →
    sent.flatten = r.body
  /-- After the end of the file nothing follows, and nothing is missing before it. -/
  ended : [] ∈ sent → sent.flatten = r.body ∧ ∃ pieces, sent = pieces ++ [[]] ∧ [] ∉ pieces

/-- **The invariant of the transfer.** -/
structure TransferInv (s : State) : Prop where
  taken_le : ∀ c, (s.conns c).taken ≤ (s.conns c).sent.length
  current_lt : ∀ c, s.current = some c → c < s.connections
  conn_lt : ∀ id r, s.requests id = some r → r.conn < s.connections
  fresh : ∀ id, s.requests id = none → ∀ c, ∀ msg ∈ (s.conns c).sent, msg.stream ≠ id
  flow : ∀ id r, s.requests id = some r → Flow s.current r (frames (s.conns r.conn).sent id)

variable {s t u : State} {l : Label} {r : Request} {c : ℕ} {ok : Bool} {id : UUID}

/-- **What was received is the body**, once the end of the file was received. -/
theorem TransferInv.received_flatten (hinv : TransferInv s) (hr : s.requests id = some r)
    (heof : [] ∈ (s.conns r.conn).received id) :
    r.phase = .finished ∧ ((s.conns r.conn).received id).flatten = r.body := by
  have hpre := received_prefix_frames (s.conns r.conn) id
  have hflow := hinv.flow id r hr
  obtain ⟨hbody, _, hsent, hpieces⟩ := hflow.ended (hpre.subset heof)
  refine ⟨by_contra fun hph ↦ hflow.unfinished hph (hpre.subset heof), ?_⟩
  -- a proper prefix would not contain the empty frame
  rw [hsent, prefix_concat_iff] at hpre
  obtain heq | hpre := hpre
  · rw [heq, ← hsent, hbody]
  · exact absurd (hpre.subset heof) hpieces

/-! ### Steps of the agent -/

/-- The server's side of the state is the same, and nothing unsent has been taken. -/
structure SameServer (s t : State) : Prop where
  requests : t.requests = s.requests
  current : t.current = s.current
  connections : t.connections = s.connections
  sent : ∀ c, (t.conns c).sent = (s.conns c).sent
  taken_mono : ∀ c, (s.conns c).taken ≤ (t.conns c).taken
  taken_le : (∀ c, (s.conns c).taken ≤ (s.conns c).sent.length) →
    ∀ c, (t.conns c).taken ≤ (s.conns c).sent.length

theorem SameServer.refl (s : State) : SameServer s s :=
  ⟨rfl, rfl, rfl, fun _ ↦ rfl, fun _ ↦ Nat.le_refl _, id⟩

theorem SameServer.trans (h : SameServer s t) (h' : SameServer t u) : SameServer s u where
  requests := h'.requests.trans h.requests
  current := h'.current.trans h.current
  connections := h'.connections.trans h.connections
  sent c := (h'.sent c).trans (h.sent c)
  taken_mono c := Nat.le_trans (h.taken_mono c) (h'.taken_mono c)
  taken_le hle c := by
    have hle' : ∀ c, (t.conns c).taken ≤ (t.conns c).sent.length := fun c ↦ by
      rw [h.sent c]
      exact h.taken_le hle c
    rw [← h.sent c]
    exact h'.taken_le hle' c

variable {conn : Conn} {next : Option CloseStage} {stage : CloseStage} {chunk : Payload}
  {msg : Message} {current : Option ℕ} {sent : List Payload}

theorem sameServer_setConn (hsent : conn.sent = (s.conns c).sent)
    (htaken : conn.taken = (s.conns c).taken) : SameServer s (s.setConn c conn) := by
  have hconns (c' : ℕ) : ((s.setConn c conn).conns c').sent = (s.conns c').sent ∧
      ((s.setConn c conn).conns c').taken = (s.conns c').taken := by
    by_cases hc : c' = c <;> simp [setConn, hc, hsent, htaken]
  exact ⟨rfl, rfl, rfl, fun c ↦ (hconns c).1, fun c ↦ Nat.le_of_eq (hconns c).2.symm, fun hle c ↦
    (hconns c).2 ▸ hle c⟩

theorem TransferInv.of_sameServer (hinv : TransferInv s) (h : SameServer s t) : TransferInv t := by
  constructor <;> simp only [h.requests, h.current, h.connections, h.sent]
  exacts [h.taken_le hinv.taken_le, hinv.current_lt, hinv.conn_lt, hinv.fresh, hinv.flow]

theorem sameServer_close (h : s.close id stage ok = some (t, next)) : t.conns = s.conns ∧
    SameServer s t := by
  unfold close at h
  split at h
  · cases stage <;> dsimp only at h <;> split at h
    case rename.isTrue => split at h <;> cases h; exact ⟨rfl, { SameServer.refl s with }⟩
    all_goals cases h; exact ⟨rfl, { SameServer.refl s with }⟩
  · cases h

theorem sameServer_close_setConn (h : s.close id stage ok = some (t, next))
    (hsent : conn.sent = (s.conns c).sent) (htaken : conn.taken = (s.conns c).taken) :
    SameServer s (t.setConn c conn) := by
  obtain ⟨hconns, hsame⟩ := sameServer_close h
  refine hsame.trans (sameServer_setConn ?_ ?_)
  · rw [hconns, hsent]
  · rw [hconns, htaken]

theorem sameServer_answer (s : State) (id : UUID) (success : Bool) :
    SameServer s (s.answer id success) :=
  { SameServer.refl s with }

theorem sameServer_command (s : State) (c : ℕ) (id : UUID) (path : Path) (ok : Bool) :
    SameServer s (s.command c id path ok) := by
  unfold command
  split
  · split
    · split
      next path' _ _ =>
        have hfile : SameServer s (s.writeFile id path') := { SameServer.refl s with }
        exact hfile.trans (sameServer_setConn rfl rfl)
      · exact sameServer_answer ..
    · exact sameServer_answer ..
  · exact sameServer_answer ..

theorem sameServer_frame (s : State) (c : ℕ) (id : UUID) (payload : Payload) :
    SameServer s (s.frame c id payload) := by
  unfold frame
  split
  · exact sameServer_setConn rfl rfl
  · exact { SameServer.refl s with }

theorem sameServer_take (h : (s.conns c).taken < (s.conns c).sent.length) :
    SameServer s (s.setConn c (s.conns c).take) where
  requests := rfl
  current := rfl
  connections := rfl
  sent c' := by by_cases hc : c' = c <;> simp [setConn, Conn.take, hc]
  taken_mono c' := by by_cases hc : c' = c <;> simp [setConn, Conn.take, hc]
  taken_le hle := (forall_update_iff s.conns fun c' conn ↦ conn.taken ≤ (s.conns c').sent.length).2
    ⟨h, fun c' _ ↦ hle c'⟩

theorem sameServer_read (h : s.read c ok = some t) : SameServer s t := by
  simp only [State.read] at h
  split at h
  · split at h
    next id path hmsg =>
      cases h
      exact (sameServer_take (List.getElem?_eq_some_iff.1 hmsg).1).trans (sameServer_command ..)
    next id payload hmsg =>
      cases h
      exact (sameServer_take (List.getElem?_eq_some_iff.1 hmsg).1).trans (sameServer_frame ..)
    · cases h
  · cases h

theorem sameServer_write {k : ℕ} (h : s.write c k = some t) : SameServer s t := by
  simp only [write] at h
  split at h
  · split at h
    · split at h
      · cases h
        refine SameServer.trans ?_ (sameServer_setConn rfl rfl)
        exact { SameServer.refl s with }
      · cases h
    · cases h
  · cases h

theorem sameServer_work (h : s.work c ok = some t) : SameServer s t := by
  have hfail (id : UUID) : SameServer s { s with writeFailed := id :: s.writeFailed } :=
    { SameServer.refl s with }
  simp only [work] at h
  split at h
  · cases h
  · cases h
    refine SameServer.trans ?_ (sameServer_answer ..)
    exact sameServer_setConn rfl rfl
  · cases h
    exact sameServer_setConn rfl rfl
  · split at h
    · split at h
      · cases h
        exact (hfail _).trans (sameServer_setConn rfl rfl)
      · cases h
        exact sameServer_setConn rfl rfl
    · cases h
  · split_ifs at h
    · cases h
      exact (hfail _).trans (sameServer_setConn rfl rfl)
  · cases h
    exact sameServer_setConn rfl rfl
  · split at h
    next hcl =>
      cases h
      exact sameServer_close_setConn hcl rfl rfl
    · cases h

theorem sameServer_closeNext (h : s.closeNext c ok = some t) : SameServer s t := by
  simp only [closeNext] at h
  split at h
  · split at h
    next hcl =>
      cases h
      exact sameServer_close_setConn hcl rfl rfl
    next hcl =>
      cases h
      exact sameServer_close_setConn hcl rfl rfl
    · cases h
  · cases h

/-- The labels of the agent. -/
def Label.ofAgent : Label → Bool
  | .read _ _ | .write _ _ | .work _ _ | .closeAll _ _ | .closeNext _ _ | .closeNow _ | .restart =>
    true
  | _ => false

/-- **The agent leaves the server's side alone.** -/
theorem sameServer_of_step (hl : l.ofAgent) (h : step s l = some t) : SameServer s t := by
  cases l with
  | read => exact sameServer_read h
  | write => exact sameServer_write h
  | work => exact sameServer_work h
  | closeNext => exact sameServer_closeNext h
  | closeAll | closeNow =>
    simp only [step, closeAll, closeNow] at h
    split at h
    · cases h
      exact sameServer_setConn rfl rfl
    · cases h
  | restart =>
    cases h
    exact { SameServer.refl s with }
  | connect | disconnect | request | ready | giveUp | bodyChunk | bodyEOF => cases hl

/-! ### Steps of the server -/

theorem State.request_eq_some {path : Path} (h : s.request id path = some t) :
    ∃ c, s.requests id = none ∧ s.current = some c ∧
      t = (s.setRequest id { path, conn := c, phase := .awaiting, body := [] }).send c
      (.command id path) := by
  unfold request at h
  split at h
  next c hid hc =>
    split_ifs at h
    · exact ⟨c, hid, hc, (some.inj h).symm⟩
  · cases h

theorem State.ready_eq_some (h : s.ready id = some t) :
    ∃ r, s.requests id = some r ∧ s.answered id = some true ∧ r.phase = .awaiting ∧
      t = s.setRequest id { r with phase := .streaming } := by
  unfold ready at h
  split at h
  next r hr hans =>
    split at h
    next hph => exact ⟨r, hr, hans, hph, (some.inj h).symm⟩
    · cases h
  · cases h

theorem State.giveUp_eq_some (h : s.giveUp id = some t) :
    ∃ r, s.requests id = some r ∧ r.phase ≠ .finished ∧
      t = s.setRequest id { r with phase := .aborted } := by
  unfold giveUp at h
  split at h
  next r hr =>
    split at h
    next hph =>
      refine ⟨r, hr, fun hfin ↦ ?_, (some.inj h).symm⟩
      simp [hfin] at hph
    · cases h
  · cases h

theorem State.bodyChunk_eq_some (h : s.bodyChunk id chunk = some t) :
    ∃ r c, s.requests id = some r ∧ s.current = some c ∧ r.phase = .streaming ∧ chunk ≠ [] ∧
      t = (s.setRequest id { r with body := r.body ++ chunk }).send c (.frame id chunk) := by
  unfold bodyChunk at h
  split at h
  next r c hr hc =>
    split at h
    next hcond => exact ⟨r, c, hr, hc, hcond.1, hcond.2.1, (some.inj h).symm⟩
    · cases h
  · cases h

/-- The empty frame is sent if there is a connection at that moment. -/
theorem State.bodyEOF_eq_some (h : s.bodyEOF id = some t) :
    ∃ r, s.requests id = some r ∧ r.phase = .streaming ∧
      ((∃ c, s.current = some c ∧ t = (s.setRequest id { r with phase := .finished }).send c
        (.frame id [])) ∨ t = s.setRequest id { r with phase := .finished }) := by
  unfold bodyEOF at h
  split at h
  next r hr =>
    split at h
    next hph =>
      refine ⟨r, hr, hph, ?_⟩
      split at h
      next c hc => exact .inl ⟨c, hc, (some.inj h).symm⟩
      · exact .inr (some.inj h).symm
    · cases h
  · cases h

theorem send_sent (s : State) (c c' : ℕ) (msg : Message) :
    ((s.send c msg).conns c').sent = (s.conns c').sent ++ if c' = c then [msg] else [] := by
  by_cases hc : c' = c <;> simp [send, setConn, hc]

theorem send_taken (s : State) (c c' : ℕ) (msg : Message) :
    ((s.send c msg).conns c').taken = (s.conns c').taken := by
  by_cases hc : c' = c <;> simp [send, setConn, hc]

theorem send_taken_le (hinv : TransferInv s) (c : ℕ) (msg : Message) (c' : ℕ) :
    ((s.send c msg).conns c').taken ≤ ((s.send c msg).conns c').sent.length := by
  rw [send_sent, send_taken, length_append]
  exact Nat.le_add_right_of_le (hinv.taken_le c')

theorem frames_send_of_ne (hmsg : msg.stream ≠ id) (s : State) (c c' : ℕ) :
    frames ((s.send c msg).conns c').sent id = frames (s.conns c').sent id := by
  rw [send_sent, frames_append]
  refine append_right_eq_self.2 (frames_eq_nil fun m hm ↦ ?_)
  split at hm
  · exact mem_singleton.1 hm ▸ hmsg
  · cases hm

/-- A handler changes its own record and sends messages of its own upload. -/
theorem TransferInv.of_request {r' : Request} (hinv : TransferInv s)
    (hconns : ∀ c, (t.conns c).taken ≤ (t.conns c).sent.length)
    (hreqs : t.requests = update s.requests id (some r')) (hcurr : t.current = s.current)
    (hconn : t.connections = s.connections)
    (hsent : ∀ c, ∀ msg ∈ (t.conns c).sent, msg ∈ (s.conns c).sent ∨ msg.stream = id)
    (hframes : ∀ id' ≠ id, ∀ c, frames (t.conns c).sent id' = frames (s.conns c).sent id')
    (hlt : r'.conn < s.connections) (hflow : Flow s.current r' (frames (t.conns r'.conn).sent id)) :
    TransferInv t where
  taken_le := hconns
  current_lt := by
    rw [hcurr, hconn]
    exact hinv.current_lt
  conn_lt id' r'' h := by
    rw [hreqs, update_apply] at h
    rw [hconn]
    split at h
    · exact some.inj h ▸ hlt
    · exact hinv.conn_lt id' r'' h
  fresh id' h c msg hmsg := by
    rw [hreqs, update_apply] at h
    split_ifs at h
    next hne =>
      obtain hmsg | hmsg := hsent c msg hmsg
      · exact hinv.fresh id' h c msg hmsg
      · exact hmsg ▸ Ne.symm hne
  flow id' r'' h := by
    rw [hreqs, update_apply] at h
    rw [hcurr]
    split at h
    next heq =>
      cases h
      rw [heq]
      exact hflow
    next hne =>
      rw [hframes id' hne]
      exact hinv.flow id' r'' h

theorem TransferInv.setRequest (hinv : TransferInv s) (hlt : r.conn < s.connections)
    (hflow : Flow s.current r (frames (s.conns r.conn).sent id)) :
    TransferInv (s.setRequest id r) :=
  hinv.of_request hinv.taken_le rfl rfl rfl (fun _ _ h ↦ .inl h) (fun _ _ _ ↦ rfl) hlt hflow

theorem TransferInv.setRequest_send (hinv : TransferInv s) (hmsg : msg.stream = id)
    (hlt : r.conn < s.connections)
    (hflow : Flow s.current r (frames ((s.send c msg).conns r.conn).sent id)) :
    TransferInv ((s.setRequest id r).send c msg) := by
  refine hinv.of_request (send_taken_le hinv c msg) rfl rfl rfl (fun c' m hm ↦ ?_)
    (fun id' hid c' ↦ frames_send_of_ne (hmsg.trans_ne hid.symm) s c c') hlt hflow
  rw [send_sent] at hm
  obtain hm | hm := mem_append.1 hm
  · exact .inl hm
  · split at hm
    · exact .inr (mem_singleton.1 hm ▸ hmsg)
    · cases hm

/-- The hub's connection changes: by then no handler has used the new one. -/
theorem TransferInv.setCurrent (hinv : TransferInv s) {n : ℕ} (hn : s.connections ≤ n)
    (hcurr : ∀ c, current = some c → s.connections ≤ c ∧ c < n) :
    TransferInv { s with connections := n, current := current } where
  taken_le := hinv.taken_le
  current_lt c h := (hcurr c h).2
  conn_lt id r h := Nat.lt_of_lt_of_le (hinv.conn_lt id r h) hn
  fresh := hinv.fresh
  flow id r h := by
    obtain ⟨hunfinished, -, hend⟩ := hinv.flow id r h
    refine ⟨hunfinished, fun _ hc ↦ ?_, hend⟩
    exact absurd (hinv.conn_lt id r h) (Nat.not_lt_of_le (hcurr _ hc).1)

theorem frames_send_self (s : State) (c c' : ℕ) (id : UUID) (payload : Payload) :
    frames ((s.send c (.frame id payload)).conns c').sent id =
      frames (s.conns c').sent id ++ if c' = c then [payload] else [] := by
  rw [send_sent, frames_append]
  split
  · rw [frames_frame]
  · rfl

theorem Flow.bodyChunk
    (hflow : Flow (some c) r sent) (hph : r.phase = .streaming) (hchunk : chunk ≠ []) :
    Flow (some c) { r with body := r.body ++ chunk } (sent ++ if r.conn = c then [chunk]
      else []) := by
  have hunended : [] ∉ sent := hflow.unfinished (by simp [hph])
  have hunended' : [] ∉ sent ++ if r.conn = c then [chunk] else [] := by
    intro hmem
    obtain hmem | hmem := mem_append.1 hmem
    · exact hunended hmem
    · split at hmem
      · exact hchunk (mem_singleton.1 hmem).symm
      · cases hmem
  refine ⟨fun _ ↦ hunended', fun _ hc ↦ ?_, fun hmem ↦ absurd hmem hunended'⟩
  have hc' : c = r.conn := some.inj hc
  rw [if_pos hc'.symm, flatten_append, hflow.complete (.inr hph) hc, flatten_singleton]

theorem Flow.bodyEOF
    (hflow : Flow current r sent) (hph : r.phase = .streaming) {last : List Payload}
    (hlast : last = [] ∨ (last = [[]] ∧ current = some r.conn)) :
    Flow current { r with phase := .finished } (sent ++ last) := by
  have hunended : [] ∉ sent := hflow.unfinished (by simp [hph])
  refine ⟨fun h ↦ absurd rfl h, fun h ↦ by simp at h, fun hmem ↦ ?_⟩
  obtain rfl | ⟨rfl, hc⟩ := hlast
  · rw [append_nil] at hmem
    exact absurd hmem hunended
  · exact ⟨by simp [hflow.complete (.inr hph) hc], sent, rfl, hunended⟩

/-- **Every step preserves the invariant of the transfer.** -/
theorem TransferInv.step (hinv : TransferInv s) (h : step s l = some t) : TransferInv t := by
  cases l with
  | connect =>
    cases h
    refine hinv.setCurrent (Nat.le_succ _) fun c hc ↦ ?_
    cases hc
    exact ⟨Nat.le_refl _, Nat.lt_succ_self _⟩
  | disconnect =>
    cases h
    exact hinv.setCurrent (Nat.le_refl _) nofun
  | request id path =>
    obtain ⟨c, hid, hc, rfl⟩ := request_eq_some h
    refine hinv.setRequest_send rfl (hinv.current_lt c hc) ?_
    have hnil : frames ((s.send c (.command id path)).conns c).sent id = [] := by
      rw [send_sent, frames_append, frames_eq_nil (hinv.fresh id hid c), if_pos rfl]
      rfl
    show Flow _ _ (frames ((s.send c (.command id path)).conns c).sent id)
    rw [hnil]
    exact ⟨fun _ ↦ not_mem_nil, fun _ _ ↦ rfl, fun h ↦ absurd h not_mem_nil⟩
  | ready id =>
    obtain ⟨r, hr, -, hph, rfl⟩ := ready_eq_some h
    have hflow := hinv.flow id r hr
    exact hinv.setRequest (hinv.conn_lt id r hr)
      ⟨fun _ ↦ hflow.unfinished (by simp [hph]), fun _ ↦ hflow.complete (.inl hph), hflow.ended⟩
  | giveUp id =>
    obtain ⟨r, hr, hph, rfl⟩ := giveUp_eq_some h
    have hflow := hinv.flow id r hr
    exact hinv.setRequest (hinv.conn_lt id r hr)
      ⟨fun _ ↦ hflow.unfinished hph, fun h ↦ by simp at h, hflow.ended⟩
  | bodyChunk id =>
    obtain ⟨r, c, hr, hc, hph, hchunk, rfl⟩ := bodyChunk_eq_some h
    refine hinv.setRequest_send rfl (hinv.conn_lt id r hr) ?_
    rw [frames_send_self, hc]
    exact (hc ▸ hinv.flow id r hr).bodyChunk hph hchunk
  | bodyEOF id =>
    obtain ⟨r, hr, hph, ⟨c, hc, rfl⟩ | rfl⟩ := bodyEOF_eq_some h
    · refine hinv.setRequest_send rfl (hinv.conn_lt id r hr) ?_
      rw [frames_send_self]
      refine (hinv.flow id r hr).bodyEOF hph ?_
      -- the connection may no longer be the one the upload was announced on
      by_cases hconn : r.conn = c
      · exact .inr ⟨if_pos hconn, hconn ▸ hc⟩
      · exact .inl (if_neg hconn)
    · refine hinv.setRequest (hinv.conn_lt id r hr) ?_
      have hflow := (hinv.flow id r hr).bodyEOF hph (.inl rfl)
      rwa [append_nil] at hflow
  | read | write | work | closeAll | closeNext | closeNow | restart =>
    exact hinv.of_sameServer (sameServer_of_step rfl h)

theorem transferInv_init (filesWrite : Bool) (files : Path → Option (List UInt8)) :
    TransferInv (init filesWrite files) where
  taken_le _ := Nat.le_refl 0
  current_lt := nofun
  conn_lt := nofun
  fresh := nofun
  flow := nofun

/-- **What the agent takes for a whole file is the body of the request**, in every run. -/
theorem received_whole (filesWrite : Bool) (files : Path → Option (List UInt8)) (ls : List Label) :
    Along step (fun _ _ t ↦ ∀ id r, t.requests id = some r → [] ∈ (t.conns r.conn).received id →
      r.phase = .finished ∧ ((t.conns r.conn).received id).flatten = r.body) (init filesWrite files)
        ls :=
  along_of_exec (fun _ _ _ hinv h ↦ hinv.step h)
    (fun _ _ _ hinv h _ _ hr heof ↦ (hinv.step h).received_flatten hr heof)
      (transferInv_init filesWrite files)

end WartungsRemote.Agent
