import WartungsRemote.ControlHub.Correlation

/-!
# The confirmation of an upload

`handleFilesUpload` sends the body of the request to the agent in frames, then an empty frame, and
then waits for a `command_result` that refers to the id of the stream. The agent sends it when it
has got the empty frame and closed the file. On both ways the order is kept; everything else that
happens on the connection happens in between: other calls that wait, and other envelopes.

The handler **sends the empty frame first and registers afterwards** that it waits. A result read in
between finds no entry and is dropped, and the handler answers after 30 seconds that the upload was
not confirmed.

`arrived` is the result that has arrived in time, whether or not the handler gets it; no step reads
it. A `select` whose time is up may choose so, also if the result is in the channel; a handler does
that only if it was not scheduled for 30 seconds, and the condition excludes it, too.
-/

namespace WartungsRemote.Server.Confirmation

open Function List Option ControlHub.Correlation
open ControlHub
open Transition

/-- The status in the payload of a `command_result`, if there is one. -/
inductive Reply
  | success
  | error
  | malformed
  deriving DecidableEq

/-- How `handleFilesUpload` answers its request. -/
inductive Answer
  /-- "Upload interrupted". -/
  | interrupted
  /-- "Upload too large or interrupted". -/
  | badBody
  /-- "Agent did not confirm the upload". -/
  | unconfirmed
  /-- "Agent failed to finalize the upload". -/
  | failed
  | ok (bytes : ℕ)
  deriving DecidableEq

/-- The answer after the wait. -/
def answerOf (total : ℕ) : Option Reply → Answer
  | none => .unconfirmed
  | some .success => .ok total
  | some .error | some .malformed => .failed

/-- How far the handler has come, since the agent has accepted the upload. -/
inductive Handler
  | sending (total : ℕ)
  /-- The empty frame is sent, and the wait is not registered. -/
  | sent (total : ℕ)
  | waiting (call : CallID) (total : ℕ)
  | answered (a : Answer)
  deriving DecidableEq

/-- The handler has not registered that it waits. -/
def Handler.early : Handler → Bool
  | sending _ | sent _ => true
  | _ => false

/-- The handler waits for the result of the call. -/
def Handler.waits (call : CallID) : Handler → Bool
  | waiting call' _ => call' = call
  | _ => false

structure State where
  conn : Correlation.State Reply
  /-- The ids that other calls were registered with. -/
  issued : List Text
  handler : Handler
  /-- The frames of the stream on their way to the agent. -/
  toAgent : List (List UInt8)
  /-- The agent has the upload open. -/
  uploading : Bool
  /-- The envelopes on their way to the server. -/
  toServer : List (Envelope Reply)
  arrived : Option Reply

def State.init : State where
  conn := .init Reply
  issued := []
  handler := .sending 0
  toAgent := []
  uploading := true
  toServer := []
  arrived := none

inductive Label
  /-- A read from the body returns a chunk, which is sent or not. -/
  | chunk (payload : List UInt8) (ok : Bool)
  | bodyError
  /-- The body ends, and the empty frame is sent; whether that succeeds is ignored. -/
  | eof (ok : Bool)
  /-- `waitForID` puts its channel into the map. -/
  | wait (call : CallID)
  | answer
  /-- The agent takes a frame; its `Write` or `Close` succeeds or not. -/
  | agentFrame (ok : Bool)
  /-- The agent sends something else. -/
  | agentSends (env : Envelope Reply)
  /-- The read loop gets the next envelope. -/
  | read
  /-- Any other step of the connection. -/
  | conn (l : Correlation.Label Reply)

/-- How long the handler waits, in seconds. -/
def waitTimeout : ℕ := 30

/-- The time of the call is not up. -/
def inTime (conn : Correlation.State Reply) (call : CallID) : Bool :=
  match conn.calls call with
  | some (.registered _ _) => true
  | some (.armed _ deadline) | some (.parked _ deadline) => decide (conn.now < deadline)
  | _ => false

namespace State

variable (streamID : Text) (s : State)

def chunk (payload : List UInt8) (ok : Bool) : Option State :=
  match s.handler with
  | .sending total =>
    if payload = [] then none
    else if ok then
      some { s with
        handler := .sending (total + payload.length)
        toAgent := s.toAgent ++ [payload] }
    else some { s with handler := .answered .interrupted }
  | _ => none

def eof (ok : Bool) : Option State :=
  match s.handler with
  | .sending total =>
    some { s with handler := .sent total, toAgent := if ok then s.toAgent ++ [[]] else s.toAgent }
  | _ => none

def wait (call : CallID) : Option State :=
  match s.handler with
  | .sent total =>
    (s.conn.register call streamID waitTimeout false).map fun conn ↦
      { s with conn, handler := .waiting call total }
  | _ => none

def answer : Option State :=
  match s.handler with
  | .waiting call total =>
    match s.conn.calls call with
    | some (.done _ result) =>
      some { s with handler := .answered (answerOf total (result.map fun a ↦ a.2.body)) }
    | _ => none
  | _ => none

/-- `handleFileBinaryFrame`. -/
def agentFrame (ok : Bool) : Option State :=
  match s.toAgent with
  | [] => none
  | payload :: rest =>
    if ¬ s.uploading then some { s with toAgent := rest }
    else if payload = [] then
      some { s with
        toAgent := rest
        uploading := false
        toServer := s.toServer ++ [⟨some streamID, if ok then .success else .error⟩] }
    else some { s with toAgent := rest, uploading := ok }

/-- The read loop gets an envelope. An early result has arrived, although nobody waits. -/
def read : Option State :=
  match s.toServer with
  | [] => none
  | env :: rest =>
    (s.conn.read env).map fun conn ↦
      { s with
        conn
        toServer := rest
        arrived := if env.requestID = some streamID ∧ s.handler.early then some env.body
          else s.arrived }

/-- What has arrived after the read loop has got rid of its envelope. -/
def arrivedBy : Option Reply :=
  match s.conn.reader with
  | .delivering call a =>
    if a.2.requestID = some streamID ∧ inTime s.conn call then some a.2.body else s.arrived
  | .reading => s.arrived

/-- Other steps of the connection. Other calls have other ids. -/
def connStep (l : Correlation.Label Reply) : Option State :=
  match l with
  | .read _ => none
  | .register _ id _ _ =>
    if id = streamID ∨ s.issued.contains id then none
    else (Correlation.step s.conn l).map fun conn ↦ { s with conn, issued := id :: s.issued }
  | .deliver =>
    (Correlation.step s.conn l).map fun conn ↦ { s with conn, arrived := s.arrivedBy streamID }
  | _ => (Correlation.step s.conn l).map fun conn ↦ { s with conn }

end State

/-- One step of an upload over the stream. -/
def step (streamID : Text) (s : State) : Label → Option State
  | .chunk payload ok => s.chunk payload ok
  | .bodyError =>
    match s.handler with
    | .sending _ => some { s with handler := .answered .badBody }
    | _ => none
  | .eof ok => s.eof ok
  | .wait call => s.wait streamID call
  | .answer => s.answer
  | .agentFrame ok => s.agentFrame streamID ok
  | .agentSends env =>
    if env.requestID = some streamID then none else some { s with toServer := s.toServer ++ [env] }
  | .read => s.read streamID
  | .conn l => s.connStep streamID l

/-- The condition on a step: the result is not read before the wait is registered, and the handler
does not give up with the result in its channel. -/
def attentive (streamID : Text) (s : State) : Label → Bool
  | .read => !(s.handler.early && decide (s.toServer.head?.bind Envelope.requestID = some streamID))
  | .conn (.giveUp call) => !s.handler.waits call || (s.conn.chans call).isNone
  | _ => true

/-! ### A call that has its envelope -/

section HasReply

variable {conn conn' : Correlation.State Reply} {call : CallID} {r : Reply}

/-- The call returns the envelope that it was given, sooner or later. -/
def Heeds : Call Reply → Prop
  | .registered _ _ | .armed _ _ => True
  | .returning _ result | .done _ result => result.isSome
  | .unsent _ _ | .parked _ _ => False

/-- The reply has got to the call. -/
structure HasReply (conn : Correlation.State Reply) (call : CallID) (r : Reply) : Prop where
  idle : conn.reader.towards call = []
  given : ∃ a, conn.given call = [a] ∧ a.2.body = r
  heeds : ∃ c, conn.calls call = some c ∧ Heeds c

theorem HasReply.chan (h : HasReply conn call r) {c : Call Reply} (hc : conn.calls call = some c)
    (hres : c.result? = none) : ∃ a, conn.chans call = some a := by
  obtain ⟨a, hgiv, -⟩ := h.given
  simp only [Correlation.State.given, h.idle, hc, bind_some, hres, toList_none,
    append_nil, nil_append] at hgiv
  cases hchan : conn.chans call with
  | none => simp [hchan] at hgiv
  | some a' => exact ⟨a', rfl⟩

variable {l : Correlation.Label Reply}

theorem given_of_mem (hs : Correlated conn) {a : Arrival Reply} (ha : a ∈ conn.given call) :
    conn.given call = [a] := by
  obtain ⟨_, ha'⟩ := length_eq_one_iff.1 (Nat.le_antisymm (hs.given_length call)
    (length_pos_of_mem ha))
  rw [ha', mem_singleton] at ha
  rw [ha', ha]

/-- What the call itself does: it does not miss its envelope. -/
theorem HasReply.heeds_of_own (h : HasReply conn call r) (hl : l.advances? = some call)
    (hstep : Correlation.step conn l = some conn')
    (hgive : l = .giveUp call → conn.chans call = none) :
    ∃ c, conn'.calls call = some c ∧ Heeds c := by
  obtain ⟨c, hc, hheeds⟩ := h.heeds
  cases l <;> cases hl <;> simp only [Correlation.step] at hstep
  case write.refl ok =>
    unfold Correlation.State.write at hstep
    rw [hc] at hstep
    split at hstep
    next hcall => cases hcall; exact hheeds.elim
    · cases hstep
  case arm.refl =>
    unfold Correlation.State.arm at hstep
    split at hstep <;> cases hstep
    exact ⟨_, update_self call _ _, trivial⟩
  case take.refl =>
    unfold Correlation.State.take at hstep
    split at hstep <;> cases hstep
    exact ⟨_, update_self call _ _, rfl⟩
  case park.refl =>
    unfold Correlation.State.park at hstep
    split at hstep
    next hcall hchan =>
      obtain ⟨a, ha⟩ := h.chan hcall rfl
      rw [hchan] at ha
      cases ha
    · cases hstep
  case giveUp.refl =>
    unfold Correlation.State.giveUp at hstep
    split at hstep
    next hcall =>
      obtain ⟨a, ha⟩ := h.chan hcall rfl
      rw [hgive rfl] at ha
      cases ha
    next hcall =>
      rw [hc] at hcall
      cases hcall
      exact hheeds.elim
    · cases hstep
  case finish.refl =>
    unfold Correlation.State.finish at hstep
    split at hstep <;> cases hstep
    next id result hcall =>
      rw [hc] at hcall
      cases hcall
      exact ⟨_, update_self call _ _, hheeds⟩

section

variable (hs : Correlated conn) (hstep : Correlation.step conn l = some conn')
include hs hstep

theorem given_of_step (hs' : Correlated conn') {a : Arrival Reply} (ha : conn.given call = [a]) :
    conn'.given call = [a] :=
  given_of_mem hs' (hs.given_subset_of_step hstep call (by simp [ha]))

theorem HasReply.idle_of_step (h : HasReply conn call r) : conn'.reader.towards call = [] := by
  cases Correlation.step_cases hs hstep with
  | tick | cancel | register | unmatched => exact h.idle
  | @matched call' _ id _ _ hlook =>
    have hne : call' ≠ call := by
      rintro rfl
      obtain ⟨a, ha, -⟩ := h.given
      rw [(hs.pending id call' hlook).1] at ha
      cases ha
    exact if_neg hne
  | handed | queued => rfl
  | advance _ hadv => rw [hadv.reader]; exact h.idle

theorem HasReply.heeds_of_step (h : HasReply conn call r)
    (hgive : l = .giveUp call → conn.chans call = none) : ∃ c, conn'.calls call = some c ∧
      Heeds c := by
  obtain ⟨c, hc, hheeds⟩ := h.heeds
  obtain hc' | hown | ⟨_, _, rfl⟩ := hs.call_of_step hstep hc
  · exact ⟨c, hc', hheeds⟩
  · exact h.heeds_of_own hown hstep hgive
  · exact hheeds.elim

/-- **A call keeps its envelope**, unless it gives up with the envelope in its channel. -/
theorem HasReply.step (h : HasReply conn call r) (hs' : Correlated conn')
    (hgive : l = .giveUp call → conn.chans call = none) : HasReply conn' call r where
  idle := h.idle_of_step hs hstep
  given := by
    obtain ⟨a, ha, hbody⟩ := h.given
    exact ⟨a, given_of_step hs hstep hs' ha, hbody⟩
  heeds := h.heeds_of_step hs hstep hgive

end

/-- An envelope sent in time gets to the call. -/
theorem hasReply_of_deliver (hs : Correlated conn)
    (hstep : Correlation.step conn .deliver = some conn') (hs' : Correlated conn')
    {a : Arrival Reply} (hread : conn.reader = .delivering call a)
    (htime : inTime conn call = true) : HasReply conn' call a.2.body := by
  have hgiv : conn'.given call = [a] := given_of_mem hs'
    (hs.given_subset_of_step hstep call (by simp [Correlation.State.given, hread, Reader.towards]))
  cases Correlation.step_cases hs hstep with
  | handed hread' =>
    cases hread.symm.trans hread'
    exact ⟨rfl, ⟨a, hgiv, rfl⟩, _, update_self call _ _, rfl⟩
  | queued hread' hparked =>
    cases hread.symm.trans hread'
    refine ⟨rfl, ⟨a, hgiv, rfl⟩, ?_⟩
    unfold inTime at htime
    split at htime
    next hcall => exact ⟨_, hcall, trivial⟩
    next hcall => exact ⟨_, hcall, trivial⟩
    next hcall => exact absurd hcall (hparked _ _)
    · cases htime
  | advance hl => cases hl

end HasReply

/-! ### The handler gets the result -/

section Confirming

variable {streamID : Text} {s t : State} {conn' : Correlation.State Reply}

/-- A result that has arrived is with the handler, or is what it has answered. -/
def Received (s : State) (r : Reply) : Prop :=
  (∃ call total, s.handler = .waiting call total ∧ HasReply s.conn call r) ∨
    ∃ total, s.handler = .answered (answerOf total (some r))

/-- The handler's wait is the only one with the id of the stream, and nothing is lost. -/
structure Confirming (streamID : Text) (s : State) : Prop where
  correlated : Correlated s.conn
  issued : ∀ call c, s.conn.calls call = some c → c.id = streamID ∨ c.id ∈ s.issued
  unissued : streamID ∉ s.issued
  /-- The call with the id of the stream is the handler's. -/
  own : ∀ call c, s.conn.calls call = some c → c.id = streamID →
    s.handler.waits call = true ∨ ¬ c.InProgress ∧ s.handler.early = false
  arrived : ∀ r, s.arrived = some r → Received s r

theorem confirming_init : Confirming streamID .init where
  correlated := Correlation.correlated_init
  issued := nofun
  unissued := not_mem_nil
  own := nofun
  arrived := nofun

variable {call : CallID} {l : Correlation.Label Reply}

theorem waiting_of_waits {h : Handler} (hwaits : h.waits call = true) :
    ∃ total, h = .waiting call total := by
  cases h with
  | waiting _ total => exact ⟨total, by rw [of_decide_eq_true hwaits]⟩
  | sending | sent | answered => cases hwaits

section

variable (h : Confirming streamID s)
include h

theorem Confirming.none_of_early (hearly : s.handler.early = true) :
    (∀ call c, s.conn.calls call = some c → c.id ≠ streamID) ∧ s.arrived = none := by
  constructor
  · intro call c hc hid
    obtain hwaits | ⟨-, hnot⟩ := h.own call c hc hid
    · obtain ⟨total, hhand⟩ := waiting_of_waits hwaits
      rw [hhand] at hearly
      cases hearly
    · rw [hearly] at hnot
      cases hnot
  · cases harr : s.arrived with
    | none => rfl
    | some r =>
      obtain ⟨call, total, hhand, -⟩ | ⟨total, hhand⟩ := h.arrived r harr <;>
        · rw [hhand] at hearly
          cases hearly

theorem Confirming.of_early (hearly : s.handler.early = true) (hconn : t.conn = s.conn)
    (hiss : t.issued = s.issued) (harr : t.arrived = s.arrived) : Confirming streamID t := by
  obtain ⟨hnone, hnothing⟩ := h.none_of_early hearly
  refine ⟨hconn ▸ h.correlated, hconn ▸ hiss ▸ h.issued, hiss ▸ h.unissued, ?_, ?_⟩
  · intro call c hc hid
    exact absurd hid (hnone call c (hconn ▸ hc))
  · intro r hr
    rw [harr, hnothing] at hr
    cases hr

/-- **A step of the connection.** -/
theorem Confirming.conn (hstep : Correlation.step s.conn l = some conn')
    (hfresh : ∀ id, l.id? = some id → id ≠ streamID ∧ id ∉ s.issued)
    (hgive : ∀ call, l = .giveUp call → s.handler.waits call = true → s.conn.chans call = none) :
    Confirming streamID { s with conn := conn', issued := l.id?.toList ++ s.issued } := by
  have hs := h.correlated
  have hs' : Correlated conn' := by
    refine hs.step hstep fun id hid call c hc hcid ↦ ?_
    obtain ⟨hne, hnew⟩ := hfresh id hid
    obtain hown | hoth := h.issued call c hc
    · exact hne (hcid.symm.trans hown)
    · exact hnew (hcid ▸ hoth)
  refine ⟨hs', ?_, ?_, ?_, ?_⟩
  · intro call c hc
    obtain hid | ⟨c', hc', hid⟩ := hs.id_of_step hstep hc
    · exact .inr (mem_append_left _ (by simp [hid]))
    · exact (hid ▸ h.issued call c' hc').imp_right (mem_append_right _)
  · intro hmem
    obtain hmem | hmem := mem_append.1 hmem
    · exact (hfresh streamID (mem_toList.1 hmem)).1 rfl
    · exact h.unissued hmem
  · intro call c hc hid
    obtain hnew | ⟨c', hc', hid'⟩ := hs.id_of_step hstep hc
    · exact absurd hid (hfresh c.id hnew).1
    · obtain hwaits | ⟨hdone, hearly⟩ := h.own call c' hc' (hid'.trans hid)
      · exact .inl hwaits
      · cases (hs.calls_of_step hstep hc' hdone).symm.trans hc
        exact .inr ⟨hdone, hearly⟩
  · intro r hr
    obtain ⟨call, total, hhand, hreply⟩ | hans := h.arrived r hr
    · have hwaits : s.handler.waits call = true := by simp [hhand, Handler.waits]
      exact .inl ⟨call, total, hhand, hreply.step hs hstep hs' fun hl ↦ hgive call hl hwaits⟩
    · exact .inr hans

theorem Confirming.wait (hstep : s.wait streamID call = some t) : Confirming streamID t := by
  unfold State.wait at hstep
  split at hstep
  next total hhand =>
    obtain ⟨hnone, hnothing⟩ := h.none_of_early (by rw [hhand]; rfl)
    obtain ⟨conn', hregister, rfl⟩ := map_eq_some_iff.1 hstep
    have hl : Correlation.step s.conn (.register call streamID waitTimeout false) = some conn' :=
      hregister
    have hs' : Correlated conn' := by
      refine h.correlated.step hl fun id hid call' c hc ↦ ?_
      cases hid
      exact hnone call' c hc
    have hcas : ∀ call' c, conn'.calls call' = some c →
        call' = call ∧ c.id = streamID ∨ s.conn.calls call' = some c := by
      intro call' c hc
      cases Correlation.step_cases h.correlated hl with
      | register =>
        obtain ⟨rfl, ⟨⟩⟩ | ⟨-, hold⟩ := update_apply_eq_iff.1 hc
        · exact .inl ⟨rfl, rfl⟩
        · exact .inr hold
      | advance hl => cases hl
    refine ⟨hs', ?_, h.unissued, ?_, ?_⟩
    · intro call' c hc
      obtain ⟨-, hid⟩ | hold := hcas call' c hc
      · exact .inl hid
      · exact h.issued call' c hold
    · intro call' c hc hid
      obtain ⟨rfl, -⟩ | hold := hcas call' c hc
      · exact .inl (by simp [Handler.waits])
      · exact absurd hid (hnone call' c hold)
    · intro r hr
      rw [hnothing] at hr
      cases hr
  · cases hstep

theorem Confirming.answer (hstep : s.answer = some t) : Confirming streamID t := by
  unfold State.answer at hstep
  split at hstep
  next call total hhand =>
    split at hstep
    next id result hcall =>
      cases hstep
      refine { h with own := ?_, arrived := ?_ }
      · intro call' c hc hid
        obtain hwaits | ⟨hdone, -⟩ := h.own call' c hc hid
        · obtain ⟨total', hhand'⟩ := waiting_of_waits hwaits
          rw [hhand] at hhand'
          obtain ⟨rfl, -⟩ := Handler.waiting.inj hhand'
          cases hcall.symm.trans hc
          exact .inr ⟨fun hprog ↦ hprog, rfl⟩
        · exact .inr ⟨hdone, rfl⟩
      · intro r hr
        obtain ⟨call', total', hhand', hreply⟩ | ⟨total', hhand'⟩ := h.arrived r hr
        · rw [hhand] at hhand'
          obtain ⟨rfl, rfl⟩ := Handler.waiting.inj hhand'
          obtain ⟨c, hc, hheeds⟩ := hreply.heeds
          cases hcall.symm.trans hc
          obtain ⟨a', rfl⟩ := isSome_iff_exists.1 hheeds
          obtain ⟨a, hgiv, rfl⟩ := hreply.given
          have hmem : a' ∈ s.conn.given call := Correlation.mem_given_of_done hcall
          rw [hgiv, mem_singleton] at hmem
          exact .inr ⟨total, by rw [hmem]; rfl⟩
        · rw [hhand] at hhand'
          cases hhand'
    · cases hstep
  · cases hstep

/-- The read loop gets an envelope; if it is the result, the handler has registered. -/
theorem Confirming.read (hstep : s.read streamID = some t)
    (hatt : attentive streamID s .read = true) :
    Confirming streamID t := by
  unfold State.read at hstep
  split at hstep
  · cases hstep
  next env rest hserv =>
    obtain ⟨conn', hread, rfl⟩ := map_eq_some_iff.1 hstep
    have hl : Correlation.step s.conn (.read env) = some conn' := hread
    have hlate : ¬ (env.requestID = some streamID ∧ s.handler.early = true) := by
      rintro ⟨hid, hearly⟩
      simp [attentive, hserv, hid, hearly] at hatt
    have hnext := h.conn hl (fun _ hid ↦ nomatch hid) fun _ hgive ↦ nomatch hgive
    rw [if_neg hlate]
    exact { hnext with }

theorem Confirming.deliver (hstep : Correlation.step s.conn .deliver = some conn') :
    Confirming streamID { s with conn := conn', arrived := s.arrivedBy streamID } := by
  have hnext := h.conn hstep (fun _ hid ↦ nomatch hid) fun _ hgive ↦ nomatch hgive
  refine { hnext with arrived := fun r hr ↦ ?_ }
  simp only [State.arrivedBy] at hr
  split at hr
  next call a hread =>
    split_ifs at hr with hreply
    · cases hr
      -- the call that gets the result is the one that the handler waits for
      have hgiv : a ∈ s.conn.given call := by simp [Correlation.State.given, hread, Reader.towards]
      obtain ⟨-, c, hc, hid⟩ := h.correlated.given call a hgiv
      obtain hwaits | ⟨hdone, -⟩ := h.own call c hc (some.inj (hid.symm.trans hreply.1))
      · obtain ⟨total, hhand⟩ := waiting_of_waits hwaits
        exact .inl ⟨call, total, hhand,
          hasReply_of_deliver h.correlated hstep hnext.correlated hread hreply.2⟩
      · have htime := hreply.2
        cases c with
        | done => simp [inTime, hc] at htime
        | unsent | registered | armed | parked | returning => exact absurd trivial hdone
    · exact hnext.arrived r hr
  · exact hnext.arrived r hr

theorem Confirming.connStep (hstep : s.connStep streamID l = some t)
    (hatt : attentive streamID s (.conn l) = true) : Confirming streamID t := by
  cases l with
  | read => cases hstep
  | register =>
    simp only [State.connStep] at hstep
    split_ifs at hstep with hid
    obtain ⟨conn', hl, rfl⟩ := map_eq_some_iff.1 hstep
    refine h.conn hl (fun id' hid' ↦ ?_) (by simp)
    cases hid'
    simpa [not_or] using hid
  | deliver =>
    obtain ⟨conn', hl, rfl⟩ := map_eq_some_iff.1 hstep
    exact h.deliver hl
  | giveUp =>
    obtain ⟨conn', hl, rfl⟩ := map_eq_some_iff.1 hstep
    refine h.conn hl (by rintro _ ⟨⟩) fun call' hgive hwaits ↦ ?_
    cases hgive
    simpa [attentive, hwaits] using hatt
  | tick | cancel | write | arm | take | park | finish =>
    simp only [State.connStep] at hstep
    obtain ⟨conn', hl, rfl⟩ := map_eq_some_iff.1 hstep
    exact h.conn hl (by rintro _ ⟨⟩) (by simp)

/-- **Every step keeps the invariant**, if it is attentive. -/
theorem Confirming.step {l : Label} (hstep : step streamID s l = some t)
    (hatt : attentive streamID s l = true) : Confirming streamID t := by
  cases l with
  | chunk =>
    simp only [Confirmation.step, State.chunk] at hstep
    split at hstep
    next total hhand =>
      have hearly : s.handler.early = true := by rw [hhand]; rfl
      split_ifs at hstep <;> cases hstep <;> exact h.of_early hearly rfl rfl rfl
    · cases hstep
  | bodyError =>
    simp only [Confirmation.step] at hstep
    split at hstep <;> cases hstep
    next total hhand => exact h.of_early (by rw [hhand]; rfl) rfl rfl rfl
  | eof =>
    simp only [Confirmation.step, State.eof] at hstep
    split at hstep <;> cases hstep
    next total hhand => exact h.of_early (by rw [hhand]; rfl) rfl rfl rfl
  | wait => exact h.wait hstep
  | answer => exact h.answer hstep
  | agentFrame =>
    simp only [Confirmation.step, State.agentFrame] at hstep
    split at hstep
    · cases hstep
    · split_ifs at hstep <;> cases hstep <;> exact { h with }
  | agentSends =>
    simp only [Confirmation.step] at hstep
    split_ifs at hstep
    cases hstep
    exact { h with }
  | read => exact h.read hstep hatt
  | conn => exact h.connStep hstep hatt

end

/-! ### The handler answers -/

/-- The steps that the handler takes by itself. -/
def Label.ofHandler (call : CallID) : Label → Prop
  | .answer => True
  | .conn l => l.advances? = some call
  | _ => False

/-- The handler goes on to its answer by itself. -/
def Answers (streamID : Text) (s : State) (call : CallID) (a : Answer) : Prop :=
  ∃ own t, (∀ l ∈ own, l.ofHandler call) ∧ exec (step streamID) s own = some t ∧
    t.handler = .answered a

theorem Answers.cons {a : Answer} {l : Label} (hl : l.ofHandler call)
    (hstep : step streamID s l = some t) (h : Answers streamID t call a) :
    Answers streamID s call a := by
  obtain ⟨own, u, hown, hrun, hans⟩ := h
  refine ⟨l :: own, u, ?_, (exec_cons_eq_some_iff _).2 ⟨t, hstep, hrun⟩, hans⟩
  simpa using ⟨hl, hown⟩

variable {call : CallID} {total : ℕ} {id : Text} {a : Arrival Reply}

section

variable (hhand : s.handler = .waiting call total)
include hhand

theorem answers_of_done (hcall : s.conn.calls call = some (.done id (some a))) :
    Answers streamID s call (answerOf total (some a.2.body)) := by
  refine ⟨[.answer], { s with handler := .answered (answerOf total (some a.2.body)) },
    by simp [Label.ofHandler], (exec_cons_eq_some_iff _).2 ⟨_, ?_, rfl⟩, rfl⟩
  simp only [Confirmation.step, State.answer, hhand, hcall]
  rfl

theorem answers_of_returning (hcall : s.conn.calls call = some (.returning id (some a))) :
    Answers streamID s call (answerOf total (some a.2.body)) := by
  refine Answers.cons (l := .conn (.finish call)) rfl ?_ (answers_of_done (s := { s with
    conn := { s.conn.setCall call (.done id (some a)) with pending := s.conn.pending.erase id } })
    hhand (update_self call _ _))
  simp only [Confirmation.step, State.connStep, Correlation.step, Correlation.State.finish, hcall]
  rfl

theorem answers_of_armed {deadline : ℕ} (hcall : s.conn.calls call = some (.armed id deadline))
    (hchan : s.conn.chans call = some a) :
    Answers streamID s call (answerOf total (some a.2.body)) := by
  refine Answers.cons (l := .conn (.take call)) rfl ?_ (answers_of_returning (s := { s with
    conn := (s.conn.setCall call (.returning id (some a))).setChan call none })
    hhand (update_self call _ _))
  simp only [Confirmation.step, State.connStep, Correlation.step, Correlation.State.take, hcall,
    hchan]
  rfl

theorem answers_of_registered {timeout : ℕ}
    (hcall : s.conn.calls call = some (.registered id timeout))
    (hchan : s.conn.chans call = some a) :
    Answers streamID s call (answerOf total (some a.2.body)) := by
  refine Answers.cons (l := .conn (.arm call)) rfl ?_ (answers_of_armed (s := { s with
    conn := s.conn.setCall call (.armed id (s.conn.now + timeout)) })
    hhand (update_self call _ _) hchan)
  simp only [Confirmation.step, State.connStep, Correlation.step, Correlation.State.arm, hcall]
  rfl

end

theorem HasReply.answers {r : Reply} (h : HasReply s.conn call r)
    (hhand : s.handler = .waiting call total) :
    Answers streamID s call (answerOf total (some r)) := by
  obtain ⟨c, hc, hheeds⟩ := h.heeds
  -- what the call has in its channel or as its result is what it was given
  have hbody : ∀ a ∈ s.conn.given call, a.2.body = r := by
    obtain ⟨a, ha, rfl⟩ := h.given
    simp [ha]
  have hmem : ∀ a, s.conn.chans call = some a → a ∈ s.conn.given call := by
    intro a ha
    simp [Correlation.State.given, ha]
  cases c with
  | unsent | parked => exact hheeds.elim
  | registered =>
    obtain ⟨a, ha⟩ := h.chan hc rfl
    exact hbody a (hmem a ha) ▸ answers_of_registered hhand hc ha
  | armed =>
    obtain ⟨a, ha⟩ := h.chan hc rfl
    exact hbody a (hmem a ha) ▸ answers_of_armed hhand hc ha
  | returning _ result =>
    obtain ⟨a, rfl⟩ := isSome_iff_exists.1 hheeds
    have ha : a ∈ s.conn.given call := by simp [Correlation.State.given, hc, Call.result?]
    exact hbody a ha ▸ answers_of_returning hhand hc
  | done =>
    obtain ⟨a, rfl⟩ := isSome_iff_exists.1 hheeds
    exact hbody a (Correlation.mem_given_of_done hc) ▸ answers_of_done hhand hc

/-- **A result that has arrived in time reaches the handler**: it has answered so, or is on the way
to this answer by itself. -/
def Confirmed (streamID : Text) (s : State) : Prop :=
  ∀ r, s.arrived = some r → ∃ total,
    s.handler = .answered (answerOf total (some r)) ∨
      ∃ call, s.handler = .waiting call total ∧ Answers streamID s call (answerOf total (some r))

/-- **An upload is confirmed if the result does not come too early.** -/
theorem confirmed_of_attentive {ls : List Label}
    (hatt : Along (step streamID) (fun s l _ ↦ attentive streamID s l = true) .init ls)
    (hrun : exec (step streamID) .init ls = some s) : Confirmed streamID s := by
  have h : Confirming streamID s :=
    invariant_of_along (fun _ _ _ h hstep hatt ↦ h.step hstep hatt) confirming_init hrun hatt
  intro r hr
  obtain ⟨call, total, hhand, hreply⟩ | ⟨total, hhand⟩ := h.arrived r hr
  · exact ⟨total, .inr ⟨call, hhand, hreply.answers hhand⟩⟩
  · exact ⟨total, .inl hhand⟩

end Confirming

namespace Sample

def streamID : Text := ['s']

/-- One chunk is uploaded, and the agent confirms it. -/
def upload : List Label :=
  [.chunk [1, 2, 3] true, .eof true, .agentFrame true, .agentFrame true]

/-- The handler registers before the result is read. -/
def orderly : List Label :=
  upload ++ [.wait 0, .conn (.arm 0), .conn (.park 0), .read, .conn .deliver, .conn (.finish 0),
    .answer]

/-- The result is read before the handler registers, which then waits in vain. -/
def overtaken : List Label :=
  upload ++ [.read, .wait 0, .conn (.arm 0), .conn (.park 0), .conn (.tick 30), .conn (.giveUp 0),
    .conn (.finish 0), .answer]

end Sample

open Sample

/-- The theorem applies to a confirmed upload. -/
theorem confirmed_of_attentive_orderly :
    ∃ s, exec (step streamID) .init orderly = some s ∧ s.arrived = some .success ∧
      s.handler = .answered (.ok 3) ∧ Confirmed streamID s := by
  refine exists_of_exec (fun s ↦ s.arrived = some .success ∧ s.handler = .answered (.ok 3))
    (by decide +kernel) fun s hrun ⟨harr, hans⟩ ↦ ?_
  exact ⟨harr, hans, confirmed_of_attentive (by decide +kernel) hrun⟩

/-- **A confirmation is missed**: the upload is finalized and its result has arrived, and the
handler answers that it was not confirmed. -/
theorem not_confirmed_overtaken :
    ∃ s, exec (step streamID) .init overtaken = some s ∧ s.arrived = some .success ∧
      s.handler = .answered .unconfirmed ∧ ¬ Confirmed streamID s := by
  refine exists_of_exec (fun s ↦ s.arrived = some .success ∧
        s.handler = .answered .unconfirmed) (by decide +kernel)
    fun s hrun ⟨harr, hans⟩ ↦ ?_
  refine ⟨harr, hans, fun hconf ↦ ?_⟩
  obtain ⟨_, hok | ⟨_, hwait, -⟩⟩ := hconf .success harr
  · rw [hans] at hok
    cases hok
  · rw [hans] at hwait
    cases hwait

end WartungsRemote.Server.Confirmation
