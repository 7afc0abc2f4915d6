import WartungsRemote.Protocol.Stream
import WartungsRemote.Relay.Delivery

/-!
# Streams of different devices

An agent may send any bytes as a binary message. `handleBinaryFrame` passes on what
`DecodeStreamFrame` reads as a frame, together with the device that the connection has authenticated
as; `handleInbound` offers it to a stream only if the stream was registered for this device and for
the kind of the frame. So what a stream is offered does not depend on the messages of other devices
at all (`stream_isolation`).

The steps are those of the relay, with messages as bytes; `offered` are the payloads offered to a
stream, whether or not there was room for them. A consumer that finds its channel empty waits, which
changes nothing. `Unregister` is one step, as nothing here depends on when a channel is closed:
`offered` counts a frame in either case.
-/

namespace WartungsRemote.Relay

open Function List Option Broker

/-- What a stream was registered for: its id, its device and its kind. -/
def Broker.identity (b : Broker) (r : StreamRef) : Option (UUID × UUID × UInt8) :=
  (b.heap[r]?).map fun st ↦ (st.id, st.deviceID, st.kind)

section Identity

variable {b b' : Broker} {r : StreamRef} {streamID deviceID : UUID} {kind : UInt8}

theorem Broker.identity_register_of_lt (h : r < b.heap.length) :
    (b.register streamID deviceID kind).identity r = b.identity r := by
  rw [identity, register_heap_of_lt h, identity]

theorem Broker.identity_unregister : (b.unregister streamID).identity r = b.identity r := by
  rw [identity, unregister_heap, identity, Option.map_map]
  congr 1
  funext st
  simp only [comp_apply]
  split <;> rfl

theorem Broker.SameStreams.identity (h : SameStreams b b') (r : StreamRef) :
    b'.identity r = b.identity r := by
  unfold Broker.identity
  cases hst : b.heap[r]? with
  | none =>
    have hnone : b'.heap[r]? = none := getElem?_eq_none (h.length ▸ getElem?_eq_none_iff.1 hst)
    rw [hnone]
  | some st =>
    obtain ⟨_, hst'⟩ := h.heap r st hst
    rw [hst']
    rfl

theorem Broker.lt_of_identity {x : UUID × UUID × UInt8} (h : b.identity r = some x) :
    r < b.heap.length := by
  obtain ⟨_, hst, -⟩ := map_eq_some_iff.1 h
  exact (List.getElem?_eq_some_iff.1 hst).1

end Identity

namespace Isolation

open ControlHub (ConnID)
open Transition Protocol

structure State where
  relay : Relay.State
  /-- The payloads offered to a stream. -/
  offered : StreamRef → List Payload

def State.init : State where
  relay := .init
  offered _ := []

inductive Label
  | register (streamID deviceID : UUID) (kind : UInt8)
  | unregister (streamID : UUID)
  /-- The read loop of `c` takes a binary message, and `handleInbound` looks up its stream. -/
  | message (c : ConnID) (raw : List UInt8)
  /-- `handleInbound` tries to send the payload. -/
  | offer (c : ConnID)
  /-- The consumer reads from the stream, or waits. -/
  | receive (r : StreamRef)

namespace State

variable (device : ConnID → UUID) (s : State)

/-- `handleBinaryFrame`. -/
def message (c : ConnID) (raw : List UInt8) : Option State :=
  match decodeStreamFrame raw with
  | none => some s
  | some f => (s.relay.frame device c f.kind f.streamID f.payload).map fun relay ↦ { s with relay }

def offer (c : ConnID) : Option State :=
  match s.relay.inflight c with
  | some (r, payload) =>
    (s.relay.offer c).map fun relay ↦
      { relay, offered := Function.update s.offered r (s.offered r ++ [payload]) }
  | none => none

def receive (r : StreamRef) : State :=
  { s with relay := (s.relay.receive r).getD s.relay }

end State

/-- One step; `device` is the device each connection has authenticated as. -/
def step (device : ConnID → UUID) (s : State) : Label → Option State
  | .register streamID deviceID kind =>
    some
      { s with relay := { s.relay with broker := s.relay.broker.register streamID deviceID kind } }
  | .unregister streamID =>
    some { s with relay := { s.relay with broker := s.relay.broker.unregister streamID } }
  | .message c raw => s.message device c raw
  | .offer c => s.offer c
  | .receive r => some (s.receive r)

section Steps

variable {device : ConnID → UUID} {s t : State} {l : Label} {c : ConnID} {r : StreamRef}

theorem sameStreams_refl (b : Broker) : SameStreams b b :=
  ⟨rfl, rfl, fun _ st hst ↦ ⟨st.toBrowser, hst⟩⟩

theorem message_eq_some {raw : List UInt8} (h : s.message device c raw = some t) :
    decodeStreamFrame raw = none ∧ t = s ∨
      ∃ f relay, decodeStreamFrame raw = some f ∧
        s.relay.frame device c f.kind f.streamID f.payload = some relay ∧ t = { s with relay } := by
  unfold State.message at h
  split at h
  next hraw => exact .inl ⟨hraw, (some.inj h).symm⟩
  next f hraw =>
    obtain ⟨relay, hrel, rfl⟩ := map_eq_some_iff.1 h
    exact .inr ⟨f, relay, hraw, hrel, rfl⟩

theorem frame_eq_some {relay relay' : Relay.State} {kind : UInt8} {streamID : UUID}
    {payload : Payload} (h : relay.frame device c kind streamID payload = some relay') :
    relay.inflight c = none ∧ relay' = { relay with
      inflight := update relay.inflight c
        ((relay.broker.route (device c) kind streamID).map fun r ↦ (r, payload))
      sent := fun r ↦ if relay.broker.addressed (device c) kind streamID r then
        relay.sent r ++ [(c, payload)] else relay.sent r } := by
  unfold State.frame at h
  split at h
  next hnone => exact ⟨hnone, (some.inj h).symm⟩
  · cases h

theorem offer_eq_some (h : s.offer c = some t) :
    ∃ r payload relay, s.relay.inflight c = some (r, payload) ∧ s.relay.offer c = some relay ∧
      t = { relay, offered := Function.update s.offered r (s.offered r ++ [payload]) } := by
  unfold State.offer at h
  split at h
  next r payload hinfl =>
    obtain ⟨relay, hrel, rfl⟩ := map_eq_some_iff.1 h
    exact ⟨r, payload, relay, hinfl, hrel, rfl⟩
  · cases h

theorem relay_of_step (h : step device s l = some t) :
    t.relay = s.relay ∨ ∃ l', Relay.step device s.relay l' = some t.relay := by
  cases l with
  | register streamID deviceID kind =>
    cases h
    exact .inr ⟨.register streamID deviceID kind, rfl⟩
  | unregister streamID =>
    cases h
    exact .inr ⟨.unregister streamID, rfl⟩
  | message c =>
    obtain ⟨-, rfl⟩ | ⟨f, relay, -, hrel, rfl⟩ := message_eq_some h
    · exact .inl rfl
    · exact .inr ⟨.frame c f.kind f.streamID f.payload, hrel⟩
  | offer c =>
    obtain ⟨r, _, relay, -, hrel, rfl⟩ := offer_eq_some h
    exact .inr ⟨.offer c, hrel⟩
  | receive r =>
    cases h
    simp only [State.receive]
    cases hrecv : s.relay.receive r with
    | none => exact .inl rfl
    | some => exact .inr ⟨.receive r, hrecv⟩

theorem deliveryInv_of_step (hinv : DeliveryInv s.relay) (h : step device s l = some t) :
    DeliveryInv t.relay := by
  obtain heq | ⟨_, hl'⟩ := relay_of_step h
  · exact heq ▸ hinv
  · exact hinv.step hl'

theorem receive_same (hinv : DeliveryInv s.relay) (r : StreamRef) :
    (s.receive r).relay.sent = s.relay.sent ∧ (s.receive r).relay.inflight = s.relay.inflight ∧
      SameStreams s.relay.broker (s.receive r).relay.broker := by
  simp only [State.receive]
  cases hrecv : s.relay.receive r with
  | none => exact ⟨rfl, rfl, sameStreams_refl _⟩
  | some =>
    obtain ⟨hsent, hinfl, -, -, hsame⟩ := accounted_receive hinv hrecv
    exact ⟨hsent, hinfl, hsame⟩

/-! ### Where a payload comes from -/

theorem identity_of_step {x : UUID × UUID × UInt8} (hinv : DeliveryInv s.relay)
    (h : step device s l = some t) (hr : s.relay.broker.identity r = some x) :
    t.relay.broker.identity r = some x := by
  obtain heq | ⟨l', hl'⟩ := relay_of_step h
  · rw [heq, hr]
  cases l' with
  | register =>
    rw [← some.inj hl']
    exact (identity_register_of_lt (lt_of_identity hr)).trans hr
  | unregister =>
    rw [← some.inj hl']
    exact identity_unregister.trans hr
  | frame => rw [broker_frame hl', hr]
  | offer =>
    obtain ⟨_, _, _, -, hst, hbroker, -⟩ := accounted_offer hl'
    rw [hbroker, (sameStreams_send hst).identity, hr]
  | receive =>
    obtain ⟨-, -, -, -, hsame⟩ := accounted_receive hinv hl'
    rw [hsame.identity, hr]

variable {frames : List (ConnID × Payload)} {p : Payload}

theorem mem_of_mem_via (h : p ∈ via c frames) : (c, p) ∈ frames := by
  obtain ⟨f, hf, rfl⟩ := mem_map.1 h
  obtain ⟨hmem, hc⟩ := mem_filter.1 hf
  rw [← of_decide_eq_true hc]
  exact hmem

theorem mem_via (h : (c, p) ∈ frames) : p ∈ via c frames :=
  mem_map.2 ⟨(c, p), mem_filter.2 ⟨h, by simp⟩, rfl⟩

/-- The only step that sends a payload for a stream: a message of the stream's device. -/
theorem message_of_sent (hinv : DeliveryInv s.relay) (h : step device s l = some t)
    (hnew : (c, p) ∈ t.relay.sent r) (hold : (c, p) ∉ s.relay.sent r) :
    ∃ raw id kind, l = .message c raw ∧ decodeStreamFrame raw = some ⟨kind, id, p⟩ ∧
      s.relay.broker.identity r = some (id, device c, kind) := by
  have hsame : t.relay.sent ≠ s.relay.sent := fun heq ↦ hold (heq ▸ hnew)
  cases l with
  | register | unregister => cases h; exact absurd rfl hsame
  | message _ raw =>
    obtain ⟨-, rfl⟩ | ⟨f, relay, hraw, hrel, rfl⟩ := message_eq_some h
    · exact absurd rfl hsame
    obtain ⟨-, rfl⟩ := frame_eq_some hrel
    simp only at hnew
    split_ifs at hnew with haddr
    · obtain hmem | heq := mem_snoc.1 hnew
      · exact absurd hmem hold
      · obtain ⟨rfl, rfl⟩ := Prod.mk.inj heq
        refine ⟨raw, f.streamID, f.kind, rfl, hraw, ?_⟩
        unfold addressed at haddr
        split at haddr
        next st hst =>
          simp only [Bool.and_eq_true, decide_eq_true_eq] at haddr
          obtain ⟨⟨hid, hdev⟩, hkind⟩ := haddr
          rw [identity, hst, map_some, hid, hdev, hkind]
        · cases haddr
    · exact absurd hnew hold
  | offer =>
    obtain ⟨r', _, relay, -, hrel, rfl⟩ := offer_eq_some h
    obtain ⟨-, -, -, -, -, -, hsent, -⟩ := accounted_offer hrel
    exact absurd hsent hsame
  | receive r' =>
    cases h
    exact absurd (receive_same hinv r').1 hsame

/-- **What a consumer has read was sent by the stream's device**, as a frame of its kind with its
id, while the stream was registered. -/
theorem message_of_received {ls : List Label} {id d : UUID} {kind : UInt8}
    (hrun : exec (Isolation.step device) .init ls = some s)
    (hid : s.relay.broker.identity r = some (id, d, kind)) (hmem : (c, p) ∈ s.relay.received r) :
    ∃ before raw after u, ls = before ++ .message c raw :: after ∧
      exec (Isolation.step device) .init before = some u ∧
        u.relay.broker.identity r = some (id, d, kind) ∧
      decodeStreamFrame raw = some ⟨kind, id, p⟩ ∧ device c = d := by
  have hdelivery : ∀ {ls : List Label} {u : State}, exec (Isolation.step device) .init ls = some u →
      DeliveryInv u.relay :=
    fun hrun ↦ invariant_of_exec (I := fun s ↦ DeliveryInv s.relay) (fun _ _ _ hinv h ↦
      deliveryInv_of_step hinv h) deliveryInv_init hrun
  have hsent : (c, p) ∈ s.relay.sent r := by
    refine mem_of_mem_via (((hdelivery hrun).inOrder r c).subset ?_)
    rw [Relay.State.accounted, via_append]
    exact mem_append_left _ (mem_append_left _ (mem_via hmem))
  obtain ⟨before, l, after, u, v, rfl, hbef, hstep, hold, hnew⟩ :=
    exists_step_of_exec (I := fun s : State ↦ (c, p) ∈ s.relay.sent r) hrun not_mem_nil hsent
  obtain ⟨raw, id', kind', rfl, hraw, hidentity⟩ := message_of_sent (hdelivery hbef) hstep hnew hold
  -- the identity of the stream has not changed since
  obtain ⟨_, hu', hrest⟩ := (exec_append_eq_some_iff _).1 hrun
  cases hbef.symm.trans hu'
  have hpersists : DeliveryInv s.relay ∧ s.relay.broker.identity r = some (id', device c, kind') :=
    invariant_of_exec
      (I := fun s : State ↦ DeliveryInv s.relay ∧
        s.relay.broker.identity r = some (id', device c, kind'))
      (fun _ _ _ h hstep ↦ ⟨deliveryInv_of_step h.1 hstep, identity_of_step h.1 hstep h.2⟩)
      ⟨hdelivery hbef, hidentity⟩ hrest
  rw [hid] at hpersists
  obtain ⟨rfl, rfl, rfl⟩ : id = id' ∧ d = device c ∧ kind = kind' := by
    simpa using some.inj hpersists.2
  exact ⟨before, raw, after, u, rfl, hbef, hidentity, hraw, rfl⟩

end Steps

/-! ### What one stream sees -/

/-- A stream with its channel, whose content has the connections it came over, what the consumer has
read, and what was offered. -/
structure View where
  stream : Option Stream
  queued : List (ConnID × Payload)
  received : List (ConnID × Payload)
  offered : List Payload

def State.view (s : State) (r : StreamRef) : View where
  stream := s.relay.broker.heap[r]?
  queued := s.relay.queued r
  received := s.relay.received r
  offered := s.offered r

/-- A payload is offered to the stream. -/
def View.offer (c : ConnID) (payload : Payload) (v : View) : View :=
  match v.stream with
  | some st =>
    if Broker.offer st = .accepted then
      { v with
        stream := some { st with toBrowser := st.toBrowser ++ [payload] }
        queued := v.queued ++ [(c, payload)]
        offered := v.offered ++ [payload] }
    else { v with offered := v.offered ++ [payload] }
  | none => v

/-- The consumer reads. -/
def View.receive (v : View) : View :=
  match v.stream, v.queued with
  | some st, (c, _) :: queued =>
    match st.toBrowser with
    | payload :: rest =>
      { v with
        stream := some { st with toBrowser := rest }
        queued
        received := v.received ++ [(c, payload)] }
    | [] => v
  | _, _ => v

section View

variable {device : ConnID → UUID} {s t : State} {c : ConnID} {r : StreamRef}

theorem view_offer {payload : Payload} (hin : s.relay.inflight c = some (r, payload))
    (h : s.offer c = some t) (r' : StreamRef) : t.view r' = if r' = r then
    (s.view r).offer c payload else s.view r' := by
  obtain ⟨_, _, _, hin₀, hrel, rfl⟩ := offer_eq_some h
  obtain ⟨rfl, rfl⟩ := Prod.mk.inj (some.inj (hin.symm.trans hin₀))
  unfold Relay.State.offer at hrel
  rw [hin] at hrel
  simp only at hrel
  split at hrel
  next st hst =>
    cases hrel
    by_cases hr' : r' = r
    · subst hr'
      by_cases hacc : offer st = .accepted
      · simp [State.view, View.offer, hst, hacc, send_heap hst]
      · simp [State.view, View.offer, hst, hacc, send_heap hst]
    · by_cases hacc : offer st = .accepted
      · simp [State.view, hr', hacc, send_heap hst]
      · simp [State.view, hr', hacc, send_heap hst]
  · cases hrel

theorem view_receive (s : State) (r r' : StreamRef) :
    (s.receive r).view r' = if r' = r then (s.view r).receive else s.view r' := by
  unfold State.receive Relay.State.receive receive
  by_cases hr' : r' = r
  · subst hr'
    cases hst : s.relay.broker.heap[r']? with
    | none => simp [State.view, View.receive, hst]
    | some st =>
      have hlt : r' < s.relay.broker.heap.length := (List.getElem?_eq_some_iff.1 hst).1
      cases hcont : st.toBrowser <;> cases hqueued : s.relay.queued r' <;>
        simp [State.view, View.receive, hst, hqueued, hcont, getElem?_set_self hlt]
  · cases s.relay.broker.heap[r]? with
    | none => simp [State.view, hr']
    | some st =>
      cases hcont : st.toBrowser with
      | nil => simp [State.view, hr', hcont]
      | cons =>
        cases s.relay.queued r <;> simp [State.view, hr', hcont, getElem?_set_ne (Ne.symm hr')]

end View

/-! ### Leaving out other devices -/

/-- The steps left when the messages of other devices than `d` are left out. -/
def Label.keeps (device : ConnID → UUID) (d : UUID) : Label → Bool
  | .message c _ | .offer c => device c = d
  | _ => true

/-- Frames are on their way to streams of the device they come from. -/
def Targets (device : ConnID → UUID) (s : State) : Prop :=
  ∀ c r payload, s.relay.inflight c = some (r, payload) →
    ∃ id kind, s.relay.broker.identity r = some (id, device c, kind)

/-- The stream is not one of another device; it may also be one that does not exist yet. -/
def Spared (d : UUID) (s : State) (r : StreamRef) : Prop :=
  ∀ x, s.relay.broker.identity r = some x → x.2.1 = d

/-- The two states look the same to the streams of device `d`. -/
structure Similar (device : ConnID → UUID) (d : UUID) (s s' : State) : Prop where
  streams : s'.relay.broker.streams = s.relay.broker.streams
  length : s'.relay.broker.heap.length = s.relay.broker.heap.length
  identity : ∀ r, s'.relay.broker.identity r = s.relay.broker.identity r
  view : ∀ r, Spared d s r → s'.view r = s.view r
  inflight : ∀ c, device c = d → s'.relay.inflight c = s.relay.inflight c

section Similar

variable {device : ConnID → UUID} {d : UUID} {s s' t : State} {c : ConnID}

variable {kind : UInt8} {streamID : UUID} {l : Label} {raw : List UInt8}

theorem route_eq {b : Broker} {deviceID : UUID} :
    b.route deviceID kind streamID = (b.streams.lookup streamID).bind fun r ↦
      (b.identity r).bind fun x ↦ if x.2.1 = deviceID ∧ x.2.2 = kind then some r else none := by
  unfold route identity
  cases b.streams.lookup streamID with
  | none => rfl
  | some r => cases hst : b.heap[r]? <;> simp [hst]

theorem Similar.route (h : Similar device d s s') (deviceID streamID : UUID) (kind : UInt8) :
    s'.relay.broker.route deviceID kind streamID = s.relay.broker.route deviceID kind streamID := by
  rw [route_eq, route_eq, h.streams]
  simp only [h.identity]

/-- A frame stays on its way to a stream of its own device. -/
theorem targets_of_step (hinv : DeliveryInv s.relay) (hs : Targets device s)
    (h : step device s l = some t) :
    Targets device t := by
  have hkeep : ∀ {c r payload}, s.relay.inflight c = some (r, payload) →
      ∃ id kind, t.relay.broker.identity r = some (id, device c, kind) := by
    intro c r payload hin
    obtain ⟨id, kind, hid⟩ := hs c r payload hin
    exact ⟨id, kind, identity_of_step hinv h hid⟩
  intro c r payload hin
  cases l with
  | register | unregister => cases h; exact hkeep hin
  | message =>
    obtain ⟨-, rfl⟩ | ⟨f, relay, -, hrel, rfl⟩ := message_eq_some h
    · exact hs c r payload hin
    obtain ⟨-, rfl⟩ := frame_eq_some hrel
    simp only [update_apply] at hin
    split_ifs at hin with hc
    · obtain ⟨r', hrte, heq⟩ := map_eq_some_iff.1 hin
      obtain ⟨rfl, -⟩ := Prod.mk.inj heq
      rw [route_eq] at hrte
      obtain ⟨_, -, hbind⟩ := bind_eq_some_iff.1 hrte
      obtain ⟨⟨id, _, kind⟩, hid, hif⟩ := bind_eq_some_iff.1 hbind
      split_ifs at hif with hmatch
      cases hif
      exact ⟨id, kind, by rw [hid, hc, ← hmatch.1]⟩
    · exact hs c r payload hin
  | offer =>
    obtain ⟨r', _, relay, -, hrel, rfl⟩ := offer_eq_some h
    obtain ⟨-, -, -, -, -, -, -, hinfl, -⟩ := accounted_offer hrel
    simp only [hinfl, update_apply] at hin
    split_ifs at hin
    exact hkeep hin
  | receive r' =>
    cases h
    exact hkeep ((receive_same hinv r').2.1 ▸ hin)

theorem similar_init : Similar device d .init .init :=
  ⟨rfl, rfl, fun _ ↦ rfl, fun _ _ ↦ rfl, fun _ _ ↦ rfl⟩

theorem identity_length (b : Broker) (streamID deviceID : UUID) (kind : UInt8) (r : StreamRef) :
    (b.register streamID deviceID kind).identity r =
      if r = b.heap.length then some (streamID, deviceID, kind) else b.identity r := by
  unfold identity
  split_ifs with hr
  · rw [hr, register_heap_length]
    rfl
  · obtain hlt | hge := Nat.lt_or_gt_of_ne hr
    · rw [register_heap_of_lt hlt]
    · rw [getElem?_eq_none (Nat.le_of_lt hge),
        getElem?_eq_none (by simpa [register] using Nat.succ_le_of_lt hge)]

section

variable (h : Similar device d s s')
include h

/-- The streams stay what they are. -/
theorem Similar.of_same {t' : State} (hsame : SameStreams s.relay.broker t.relay.broker)
    (hsame' : SameStreams s'.relay.broker t'.relay.broker)
    (hview : ∀ r, Spared d s r → t'.view r = t.view r)
    (hinfl : ∀ c, device c = d → t'.relay.inflight c = t.relay.inflight c) :
    Similar device d t t' where
  streams := hsame'.streams.trans (h.streams.trans hsame.streams.symm)
  length := hsame'.length.trans (h.length.trans hsame.length.symm)
  identity r := (hsame'.identity r).trans ((h.identity r).trans (hsame.identity r).symm)
  view r hr := hview r fun x hx ↦ hr x ((hsame.identity r).trans hx)
  inflight := hinfl

theorem Similar.register (streamID deviceID : UUID) (kind : UInt8) :
    Similar device d
      { s with relay := { s.relay with broker := s.relay.broker.register streamID deviceID kind } }
      { s' with relay := { s'.relay with
          broker := s'.relay.broker.register streamID deviceID kind } } := by
  refine ⟨?_, ?_, fun r ↦ ?_, fun r hr ↦ ?_, h.inflight⟩
  · simp [Broker.register, h.streams, h.length]
  · simp [Broker.register, h.length]
  · simp only [identity_length, h.identity, h.length]
  · -- the stream did not exist before, or was not one of another device
    have hspar : Spared d s r := by
      intro x hx
      have hlt := lt_of_identity hx
      exact hr x ((identity_register_of_lt hlt).trans hx)
    have hview := View.mk.inj (h.view r hspar)
    refine View.mk.injEq _ _ _ _ _ _ _ _ ▸ ⟨?_, hview.2⟩
    obtain hlt | rfl | hgt := Nat.lt_trichotomy r s.relay.broker.heap.length
    · rw [register_heap_of_lt hlt, register_heap_of_lt (h.length ▸ hlt), hview.1]
    · rw [register_heap_length, ← h.length, register_heap_length]
    · have hgt' : s'.relay.broker.heap.length < r := by rw [h.length]; exact hgt
      rw [getElem?_eq_none (by simpa [Broker.register] using Nat.succ_le_of_lt hgt'),
        getElem?_eq_none (by simpa [Broker.register] using Nat.succ_le_of_lt hgt)]

theorem Similar.unregister (streamID : UUID) :
    Similar device d
    { s with relay := { s.relay with broker := s.relay.broker.unregister streamID } }
      { s' with relay := { s'.relay with broker := s'.relay.broker.unregister streamID } } := by
  refine ⟨?_, ?_, fun r ↦ ?_, fun r hr ↦ ?_, h.inflight⟩
  · simp only [Broker.unregister, h.streams]
    split
    · rfl
    · exact h.streams
  · rw [unregister_heap_length, unregister_heap_length, h.length]
  · rw [identity_unregister, identity_unregister, h.identity]
  · have hspar : Spared d s r := fun x hx ↦ hr x (identity_unregister.trans hx)
    have hview := View.mk.inj (h.view r hspar)
    refine View.mk.injEq _ _ _ _ _ _ _ _ ▸ ⟨?_, hview.2⟩
    rw [unregister_heap, unregister_heap, hview.1, h.streams]

theorem Similar.message (hc : device c = d) (hstep : s.message device c raw = some t) :
    ∃ t', s'.message device c raw = some t' ∧ Similar device d t t' := by
  obtain ⟨hraw, rfl⟩ | ⟨f, relay, hraw, hrel, rfl⟩ := message_eq_some hstep
  · exact ⟨s', by simp [State.message, hraw], h⟩
  obtain ⟨hnone, rfl⟩ := frame_eq_some hrel
  have hnone' : s'.relay.inflight c = none := (h.inflight c hc).trans hnone
  obtain ⟨relay', hrel'⟩ :
      ∃ relay', s'.relay.frame device c f.kind f.streamID f.payload = some relay' := by
    simp only [Relay.State.frame, hnone']
    exact ⟨_, rfl⟩
  refine ⟨{ s' with relay := relay' }, by simp only [State.message, hraw, hrel', map_some], ?_⟩
  obtain ⟨-, rfl⟩ := frame_eq_some hrel'
  refine { h with inflight := fun c' hc' ↦ ?_ }
  simp only [update_apply, h.route]
  split
  · rfl
  · exact h.inflight c' hc'

theorem Similar.message_other (hc : device c ≠ d) (hstep : s.message device c raw = some t) :
    Similar device d t s' := by
  obtain ⟨-, rfl⟩ | ⟨f, _, -, hrel, rfl⟩ := message_eq_some hstep
  · exact h
  obtain ⟨-, rfl⟩ := frame_eq_some hrel
  refine { h with inflight := fun c' hc' ↦ ?_ }
  have hne : c' ≠ c := by
    rintro rfl
    exact hc hc'
  exact (h.inflight c' hc').trans (update_of_ne hne _ _).symm

omit h in
theorem relay_offer {relay relay' : Relay.State} (h : relay.offer c = some relay') :
    SameStreams relay.broker relay'.broker ∧ relay'.inflight = update relay.inflight c none := by
  obtain ⟨r, _, _, -, hst, hbroker, -, hinfl, -⟩ := accounted_offer h
  exact ⟨hbroker ▸ sameStreams_send hst, hinfl⟩

theorem Similar.offer (hs : Targets device s) (hc : device c = d) (hstep : s.offer c = some t) :
    ∃ t', s'.offer c = some t' ∧ Similar device d t t' := by
  obtain ⟨r, payload, relay, hin, hrel, rfl⟩ := offer_eq_some hstep
  have hin' : s'.relay.inflight c = some (r, payload) := (h.inflight c hc).trans hin
  obtain ⟨_, _, hid⟩ := hs c r payload hin
  -- the stream exists in the other state as well
  obtain ⟨_, hst', -⟩ := map_eq_some_iff.1 ((h.identity r).trans hid)
  obtain ⟨relay', hrel'⟩ : ∃ relay', s'.relay.offer c = some relay' := by
    simp only [Relay.State.offer, hin', hst']
    exact ⟨_, rfl⟩
  have hstep' : s'.offer c =
      some { relay := relay', offered := update s'.offered r (s'.offered r ++ [payload]) } := by
    simp only [State.offer, hin', hrel', map_some]
  obtain ⟨hsame, hinfl⟩ := relay_offer hrel
  obtain ⟨hsame', hinfl'⟩ := relay_offer hrel'
  refine ⟨_, hstep', h.of_same hsame hsame' (fun r' hr' ↦ ?_) fun c' hc' ↦ ?_⟩
  · rw [view_offer hin' hstep', view_offer hin hstep]
    split_ifs with hr
    · rw [h.view r (hr ▸ hr')]
    · exact h.view r' hr'
  · simp only [hinfl, hinfl', update_apply]
    split
    · rfl
    · exact h.inflight c' hc'

theorem Similar.offer_other (hs : Targets device s) (hc : device c ≠ d)
    (hstep : s.offer c = some t) :
    Similar device d t s' := by
  obtain ⟨r, payload, _, hin, hrel, rfl⟩ := offer_eq_some hstep
  obtain ⟨_, _, hid⟩ := hs c r payload hin
  obtain ⟨hsame, hinfl⟩ := relay_offer hrel
  refine h.of_same hsame (sameStreams_refl _) (fun r' hr' ↦ ?_) fun c' hc' ↦ ?_
  · have hne : r' ≠ r := by
      rintro rfl
      exact hc (hr' _ hid)
    rw [view_offer hin hstep, if_neg hne]
    exact h.view r' hr'
  · have hne : c' ≠ c := by
      rintro rfl
      exact hc hc'
    rw [hinfl, update_of_ne hne]
    exact h.inflight c' hc'

theorem Similar.receive (hinv : DeliveryInv s.relay) (hinv' : DeliveryInv s'.relay)
    (r : StreamRef) : Similar device d (s.receive r) (s'.receive r) := by
  obtain ⟨-, hinfl, hsame⟩ := receive_same hinv r
  obtain ⟨-, hinfl', hsame'⟩ := receive_same hinv' r
  refine h.of_same hsame hsame' (fun r' hr' ↦ ?_) fun c' hc' ↦ ?_
  · rw [view_receive, view_receive]
    split_ifs with hr
    · rw [← hr, h.view r' hr']
    · exact h.view r' hr'
  · rw [hinfl, hinfl']
    exact h.inflight c' hc'

/-- **One step, with and without the other devices.** -/
theorem Similar.step (hinv : DeliveryInv s.relay) (hinv' : DeliveryInv s'.relay)
    (hs : Targets device s) (hstep : Isolation.step device s l = some t) :
    if l.keeps device d then ∃ t', Isolation.step device s' l = some t' ∧ Similar device d t t'
    else Similar device d t s' := by
  cases l with
  | register =>
    cases hstep
    exact ⟨_, rfl, h.register _ _ _⟩
  | unregister streamID =>
    cases hstep
    exact ⟨_, rfl, h.unregister streamID⟩
  | message =>
    split_ifs with hc
    · exact h.message (of_decide_eq_true hc) hstep
    · exact h.message_other (of_decide_eq_false (Bool.not_eq_true _ ▸ hc)) hstep
  | offer =>
    split_ifs with hc
    · exact h.offer hs (of_decide_eq_true hc) hstep
    · exact h.offer_other hs (of_decide_eq_false (Bool.not_eq_true _ ▸ hc)) hstep
  | receive r =>
    cases hstep
    exact ⟨_, rfl, h.receive hinv hinv' r⟩

end

/-- **A run, with and without the other devices.** -/
theorem Similar.exec {ls : List Label} (h : Similar device d s s') (hinv : DeliveryInv s.relay)
    (hinv' : DeliveryInv s'.relay) (hs : Targets device s)
    (hrun : exec (Isolation.step device) s ls = some t) :
    ∃ t', exec (Isolation.step device) s' (ls.filter (Label.keeps device d)) = some t' ∧
      Similar device d t t' := by
  induction ls generalizing s s' with
  | nil =>
    cases hrun
    exact ⟨s', rfl, h⟩
  | cons _ _ ih =>
    obtain ⟨u, hu, hrest⟩ := (exec_cons_eq_some_iff _).1 hrun
    have hstep := h.step hinv hinv' hs hu
    split_ifs at hstep with hkeep
    · obtain ⟨u', hu', hsimilar⟩ := hstep
      obtain ⟨t', ht', hfin⟩ :=
        ih hsimilar (deliveryInv_of_step hinv hu) (deliveryInv_of_step hinv' hu')
          (targets_of_step hinv hs hu) hrest
      rw [filter_cons_of_pos hkeep]
      exact ⟨t', (exec_cons_eq_some_iff _).2 ⟨u', hu', ht'⟩, hfin⟩
    · rw [filter_cons_of_neg hkeep]
      exact ih hstep (deliveryInv_of_step hinv hu) hinv' (targets_of_step hinv hs hu) hrest

/-- **A stream only ever sees its own device.** For a stream registered for an id, a device
and a kind:

* whatever its consumer has read is the payload of a frame of this kind and this id, in a message
  that came over a connection of this device after the registration;
* if the messages of all other devices are left out of the run, it is offered the same payloads, and
  the same ones are read from it. -/
theorem stream_isolation {ls : List Label} {r : StreamRef} {id : UUID} {kind : UInt8}
    (hrun : exec (step device) .init ls = some s)
    (hid : s.relay.broker.identity r = some (id, d, kind)) :
    (∀ c p, (c, p) ∈ s.relay.received r → ∃ before raw after u, ls = before ++ .message c raw ::
      after ∧ exec (step device) .init before = some u ∧
      u.relay.broker.identity r = some (id, d, kind) ∧
      decodeStreamFrame raw = some ⟨kind, id, p⟩ ∧ device c = d) ∧
    ∃ s', Transition.exec (Isolation.step device) .init (ls.filter (Label.keeps device d)) =
      some s' ∧ s'.relay.broker.identity r = some (id, d, kind) ∧ s'.offered r = s.offered r ∧
      s'.relay.received r = s.relay.received r := by
  refine ⟨fun c p ↦ message_of_received hrun hid, ?_⟩
  obtain ⟨s', hrun', hsimilar⟩ := (similar_init (d := d)).exec deliveryInv_init deliveryInv_init
    (fun _ _ _ h ↦ nomatch h) hrun
  have hview := View.mk.inj (hsimilar.view r fun x hx ↦ by rw [hid] at hx; rw [← some.inj hx])
  exact ⟨s', hrun', (hsimilar.identity r).trans hid, hview.2.2.2, hview.2.2.1⟩

end Similar

namespace Sample

/-- Device 7 on connection 0, and device 8 on all others. -/
def device (c : ConnID) : UUID :=
  if c = 0 then 7 else 8

/-- Device 8 sends garbage, and a frame with the id of a stream of device 7. -/
def labels : List Label :=
  [.register 5 7 3, .message 1 [1, 3], .message 1 (encodeStreamFrame ⟨3, 5, [9]⟩),
    .message 0 (encodeStreamFrame ⟨3, 5, [1]⟩), .offer 0, .receive 0]

end Sample

/-- The theorem applies to a stream whose consumer has read something. -/
theorem stream_isolation_guessed :
    ∃ s, exec (step Sample.device) .init Sample.labels = some s ∧ s.relay.received 0 = [(0, [1])] ∧
      ∃ s', exec (step Sample.device) .init (Sample.labels.filter (Label.keeps Sample.device 7)) =
        some s' ∧ s'.relay.broker.identity 0 = some (5, 7, 3) ∧ s'.offered 0 = s.offered 0 ∧
        s'.relay.received 0 = s.relay.received 0 := by
  refine exists_of_exec (fun s ↦ s.relay.broker.identity 0 = some (5, 7, 3) ∧
        s.relay.received 0 = [(0, [1])]) (by decide +kernel)
    fun s hrun ⟨hid, hrecv⟩ ↦ ?_
  exact ⟨hrecv, (stream_isolation hrun hid).2⟩

end Isolation

end WartungsRemote.Relay
