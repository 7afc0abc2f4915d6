import WartungsRemote.RemoteSession.Steps
import WartungsRemote.RemoteSession.Tunnel

/-!
# The rows of tunnels and their handlers

A tunnel is **active** from the redemption of its ticket, with which `handleTunnelStream` begins, to
the `Close` with which it ends. Between the two the handler returns without closing the row if it
does not find the session active, if the broker does not have the stream, or if the helper does not
get its websocket. A restart of the server ends all handlers and only writes rows whose ticket was
not redeemed. What is left is a row that is active for ever (`not_idle_sessionNotActive`).

The handlers run beside the session service, whose tables and broker decide how they go on. The
calls of the database on the rows of tunnels succeed.
-/

namespace WartungsRemote.RemoteSession.Tunnel

open Transition List

/-- The session service, the rows of tunnels, and the requests in `handleTunnelStream` with what
`ConsumeTicket` has returned. Where a request stands is its thread of the service; it has none
before it reads the session. -/
structure Served where
  svc : RemoteSession.State
  rows : List Row
  handlers : List (ℕ × TunnelSession)

namespace Served

inductive Label
  /-- A step of the session service that is none of `handleTunnelStream`. -/
  | session (l : RemoteSession.Label)
  | create (row : Row)
  /-- `ConsumeTicket` redeems the ticket of a row. -/
  | redeem (n : ℕ) (id : UUID)
  /-- The handler reads the session, and returns if it is not active. -/
  | get (n : ℕ)
  /-- The handler looks up the stream, and returns if there is none. -/
  | getStream (n : ℕ)
  /-- The helper does not get a websocket, and the handler returns. -/
  | acceptFailed (n : ℕ)
  /-- The loops of the handler have ended; it unregisters the stream. -/
  | endStream (n : ℕ)
  /-- The handler closes the row. -/
  | close (n : ℕ)
  | restart (rows : List InterruptedSession)

/-- The step is one of the server as a whole, or of a request in `handleTunnelStream`. -/
def taken (s : Served) (l : RemoteSession.Label) : Bool :=
  match l with
  | .attach _ _ true | .restart _ _ => true
  | .attach n _ _ | .getStream n | .endStream n | .reread n | .closeSession n _
  | .agentClose n _ _ _
  | .openTerminal n _ _ _ _ _ | .openTunnel n _ _ _ _ _ => (s.handlers.lookup n).isSome
  | _ => false

/-- A step of the request `n`, which has returned if it has no thread afterwards. -/
def serve (s : Served) (n : ℕ) (next : TunnelSession → Option RemoteSession.State) :
    Option Served :=
  (s.handlers.lookup n).bind fun tunnel ↦ (next tunnel).map fun svc ↦
    { s with
      svc
      handlers := if svc.threads (.request n) = none then s.handlers.erase (n, tunnel)
        else s.handlers }

def write (w : Write) (now : ℕ) (rows : List Row) : List Row :=
  rows.map fun row ↦ if w.Matches row then w.set now row else row

def step (s : Served) : Label → Option Served
  | .session l =>
    if s.taken l then none else (RemoteSession.step s.svc l).map fun svc ↦ { s with svc }
  | .create row =>
    if row.state = .ticketIssued ∧ ∀ r ∈ s.rows, r.id ≠ row.id then
      some { s with rows := s.rows ++ [row] }
    else none
  | .redeem n id =>
    match s.rows.find? fun row ↦ row.id = id ∧ row.state = .ticketIssued ∧
        ¬ s.svc.now > row.expiresAt with
    | some row =>
      if s.svc.threads (.request n) = none ∧ s.handlers.lookup n = none then
        some
          { s with
            rows := s.rows.map fun r ↦ if r.id = id then r.redeem s.svc.now else r
            handlers := (n, { row.toTunnelSession with state := .active }) :: s.handlers }
      else none
    | none => none
  | .get n => s.serve n fun tunnel ↦
    if s.svc.threads (.request n) = none then s.svc.attach n tunnel.remoteSessionID true else none
  | .getStream n => s.serve n fun _ ↦ s.svc.getStream n
  | .acceptFailed n => s.serve n fun _ ↦
    match s.svc.threads (.request n) with
    | some (.streaming _ _) => some (s.svc.setThread (.request n) none)
    | _ => none
  | .endStream n => s.serve n fun _ ↦ s.svc.endStream n
  | .close n =>
    match s.handlers.lookup n, s.svc.threads (.request n) with
    | some tunnel, some (.rereading _ _) => some
      { s with
        rows := write (.close tunnel.id .closed) s.svc.now s.rows
        handlers := s.handlers.erase (n, tunnel) }
    | _, _ => none
  | .restart rows =>
    (s.svc.restart .ok rows).map fun svc ↦ ⟨svc, write .invalidate s.svc.now s.rows, []⟩

def init : Served := ⟨.init, [], []⟩

/-- A handler is about to return before its loops, or is in progress when the server stops. -/
def early (s : Served) : Label → Bool
  | .get n => (s.handlers.lookup n).any fun tunnel ↦
    (s.svc.get tunnel.remoteSessionID).all fun sess ↦ sess.state ≠ .active
  | .getStream n =>
    match s.svc.threads (.request n) with
    | some (.attaching sess _) => (s.svc.broker.get sess.id).isNone
    | _ => false
  | .acceptFailed _ => true
  | .restart _ => s.handlers ≠ []
  | _ => false

/-- The condition on a step, in the state before it. -/
def Orderly (s : Served) (l : Label) (_ : Served) : Prop :=
  s.early l = false
  deriving Decidable

/-- An active row has its handler. -/
def Handled (s : Served) : Prop :=
  ∀ row ∈ s.rows, row.state = .active → ∃ h ∈ s.handlers, h.2.id = row.id

variable {s t : Served} {l : Label} {n : ℕ} {next : TunnelSession → Option RemoteSession.State}

theorem mem_of_mem_write {w : Write} {now : ℕ} {rows : List Row} {row : Row}
    (h : row ∈ write w now rows) (hrow : row.state ≠ w.state) : row ∈ rows ∧ ¬ w.Matches row := by
  obtain ⟨old, hold, rfl⟩ := mem_map.1 h
  split_ifs at hrow ⊢ with hmatches
  · exact absurd rfl hrow
  · exact ⟨hold, hmatches⟩

/-- **A request that keeps its thread keeps its place among the handlers.** -/
theorem Handled.serve (hs : s.Handled) (h : s.serve n next = some t)
    (hnext : ∀ tunnel svc, s.handlers.lookup n = some tunnel → next tunnel = some svc →
      svc.threads (.request n) ≠ none) : t.Handled := by
  obtain ⟨tunnel, hlook, h⟩ := Option.bind_eq_some_iff.1 h
  obtain ⟨svc, hsvc, rfl⟩ := Option.map_eq_some_iff.1 h
  intro row hrow hact
  rw [if_neg (hnext tunnel svc hlook hsvc)]
  exact hs row hrow hact

theorem threads_of_attach {svc svc' : RemoteSession.State} {id : UUID}
    (h : svc.attach n id true = some svc')
    (hact : (svc.get id).all (fun sess ↦ sess.state ≠ .active) = false) :
    svc'.threads (.request n) ≠ none := by
  simp only [RemoteSession.State.attach] at h
  split at h
  next sess hget =>
    have hact : sess.state = .active := by simpa [hget] using hact
    rw [if_pos hact] at h
    split_ifs at h
    obtain ⟨-, rfl⟩ := RemoteSession.State.start_eq_some_iff.1 h
    simp
  next hget => simp [hget] at hact

theorem threads_of_getStream {svc svc' : RemoteSession.State} (h : svc.getStream n = some svc')
    (hstr : ∀ sess reason, svc.threads (.request n) = some (.attaching sess reason) →
      (svc.broker.get sess.id).isNone = false) : svc'.threads (.request n) ≠ none := by
  simp only [RemoteSession.State.getStream] at h
  split at h
  next sess reason hth =>
    rw [if_pos (by simpa using hstr sess reason hth)] at h
    cases h
    simp
  · cases h

theorem threads_of_endStream {svc svc' : RemoteSession.State} (h : svc.endStream n = some svc') :
    svc'.threads (.request n) ≠ none := by
  simp only [RemoteSession.State.endStream] at h
  split at h <;> cases h
  simp

/-- **An orderly step leaves no active row without its handler.** -/
theorem Handled.step (hs : s.Handled) (h : s.step l = some t) (hord : Orderly s l t) :
    t.Handled := by
  cases l with
  | session l =>
    simp only [Served.step, Option.ite_none_left_eq_some, Option.map_eq_some_iff] at h
    obtain ⟨-, svc, -, rfl⟩ := h
    exact hs
  | create new =>
    simp only [Served.step, Option.ite_none_right_eq_some, Option.some.injEq] at h
    obtain ⟨hnew, rfl⟩ := h
    intro row hrow hact
    obtain hrow | rfl := mem_snoc.1 hrow
    · exact hs row hrow hact
    · cases hnew.1.symm.trans hact
  | redeem n id =>
    simp only [Served.step] at h
    split at h
    next new hfind =>
      simp only [Option.ite_none_right_eq_some, Option.some.injEq] at h
      obtain ⟨-, rfl⟩ := h
      intro row hrow hact
      obtain ⟨old, hold, rfl⟩ := mem_map.1 hrow
      split_ifs at hact ⊢ with hid
      · have hnew := find?_some hfind
        simp only [decide_eq_true_eq] at hnew
        exact ⟨_, mem_cons_self, hnew.1.trans hid.symm⟩
      · obtain ⟨h, hmem, hrow⟩ := hs old hold hact
        exact ⟨h, mem_cons_of_mem _ hmem, hrow⟩
    · cases h
  | get n =>
    refine hs.serve h fun tunnel svc hlook hsvc ↦ ?_
    split_ifs at hsvc
    simp only [Orderly, early, hlook, Option.any_some] at hord
    exact threads_of_attach hsvc hord
  | getStream n =>
    refine hs.serve h fun _ svc _ hsvc ↦ threads_of_getStream hsvc fun sess reason hth ↦ ?_
    simpa only [Orderly, early, hth] using hord
  | acceptFailed => cases hord
  | endStream n => exact hs.serve h fun _ svc _ hsvc ↦ threads_of_endStream hsvc
  | close n =>
    simp only [Served.step] at h
    split at h <;> cases h
    intro row hrow hact
    obtain ⟨hold, hoth⟩ := mem_of_mem_write hrow (by rw [hact]; nofun)
    obtain ⟨h, hmem, hid⟩ := hs row hold hact
    refine ⟨h, (mem_erase_of_ne ?_).2 hmem, hid⟩
    rintro rfl
    exact hoth hid.symm
  | restart =>
    obtain ⟨svc, -, rfl⟩ := Option.map_eq_some_iff.1 h
    intro row hrow hact
    obtain ⟨hold, -⟩ := mem_of_mem_write hrow (by rw [hact]; nofun)
    obtain ⟨h, hmem, -⟩ := hs row hold hact
    rw [show s.handlers = [] by simpa [Orderly, early] using hord] at hmem
    cases hmem

/-- **No tunnel stays active without its handler.** -/
theorem ne_active_of_idle {ls : List Label} (hrun : exec step init ls = some t)
    (hord : Along step Orderly init ls) (hidle : t.handlers = []) :
    ∀ row ∈ t.rows, row.state ≠ .active := by
  have hinit : init.Handled := fun _ h ↦ absurd h not_mem_nil
  have ht := invariant_of_along (fun _ _ _ ↦ Handled.step) hinit hrun hord
  intro row hrow hact
  obtain ⟨h, hmem, -⟩ := ht row hrow hact
  rw [hidle] at hmem
  cases hmem

def ticket : Row := newRow ⟨id⟩ 1 2 3 4 .sshLocal [] 9

/-- The session of the tunnel is opened, and the ticket is issued. -/
def opened : List Label :=
  [.session (.openTunnel 0 2 3 4 .sshTunnel 1800), .session (.agentReply 0 .success),
    .session (.exec (.request 0) .ok), .session (.exec (.request 0) .ok), .create ticket,
    .session (.exec (.request 0) .ok)]

/-- A tunnel served to its end. -/
def served : List Label :=
  opened ++ [.redeem 1 1, .get 1, .getStream 1, .endStream 1, .close 1]

/-- The administrator closes the session before the ticket is redeemed. -/
def closed : List Label :=
  opened ++ [.session (.closeSession 2 2), .session (.exec (.request 2) .ok), .redeem 1 1, .get 1]

theorem ne_active_of_idle_served :
    ∃ t, exec step init served = some t ∧ ∀ row ∈ t.rows, row.state ≠ .active :=
  exists_of_exec (·.handlers = []) (by decide) fun _ hrun hidle ↦
    ne_active_of_idle hrun (by decide) hidle

/-- The session has ended when the ticket is redeemed. -/
theorem not_idle_sessionNotActive :
    (exec step init closed).any fun t ↦ t.handlers = [] ∧ ∃ row ∈ t.rows, row.state = .active := by
  decide

end Served

end WartungsRemote.RemoteSession.Tunnel
