import WartungsRemote.ControlHub.Hub
import WartungsRemote.Relay.Broker

/-!
# Delivery of stream frames

What a consumer of a broker stream gets of what the agent sends. Each control connection has one
read loop, so at most one of its frames is in `handleInbound` at a time, between the lookup under
the lock and the non-blocking send; an old and a new connection of one device may be in there
together. The consumer and `Unregister` run beside them.

The send drops the frame when the consumer is 64 frames behind. The relay does so on purpose, to
keep one slow browser from holding up the control connection of a device, and it is the **only** way
to lose a frame from the middle: a frame that meets a closed channel is followed by no other, as its
stream is out of the table by then.

`Unregister` is one step here. The source closes the channel after it has released the lock, and a
frame looked up before can still be sent in between. The consumer gets it as if it had been sent
before `Unregister`: no later frame finds the stream, so none can overtake it. In `Relay.Closing`
the two parts are two steps.

The state carries history: for every stream the frames sent for it since its registration, and those
received, each with the connection it came over. `queued` is the content of the channel with that
annotation.
-/

namespace WartungsRemote.Relay

open List Broker
open ControlHub (ConnID)
open Transition

/-- The broker, the frames in `handleInbound`, and the history of every stream. -/
structure State where
  broker : Broker
  /-- The frame of a connection looked up and not yet sent on. -/
  inflight : ConnID → Option (StreamRef × Payload)
  /-- The frames the owning device has sent for the stream's id and kind since its registration. -/
  sent : StreamRef → List (ConnID × Payload)
  /-- The content of the channel. -/
  queued : StreamRef → List (ConnID × Payload)
  /-- What the consumer has got. -/
  received : StreamRef → List (ConnID × Payload)

/-- A server before its first stream. -/
def State.init : State where
  broker := .empty
  inflight _ := none
  sent _ := []
  queued _ := []
  received _ := []

inductive Label
  | register (streamID deviceID : UUID) (kind : UInt8)
  | unregister (streamID : UUID)
  /-- The read loop of `c` takes a frame and `handleInbound` looks up its stream. -/
  | frame (c : ConnID) (kind : UInt8) (streamID : UUID) (payload : Payload)
  /-- `handleInbound` tries to send the frame of `c` to the stream it found. -/
  | offer (c : ConnID)
  | receive (r : StreamRef)

/-- The stream is the device's, for this id and kind. -/
def Broker.addressed (b : Broker) (deviceID : UUID) (kind : UInt8) (streamID : UUID)
    (r : StreamRef) : Bool :=
  match b.heap[r]? with
  | some st =>
    decide (st.id = streamID) && decide (st.deviceID = deviceID) && decide (st.kind = kind)
  | none => false

namespace State

/-- The lookup of `handleInbound`. -/
def frame (device : ConnID → UUID) (s : State) (c : ConnID) (kind : UInt8) (streamID : UUID)
    (payload : Payload) : Option State :=
  match s.inflight c with
  | none =>
    some { s with
      inflight := Function.update s.inflight c
        ((s.broker.route (device c) kind streamID).map fun r ↦ (r, payload))
      sent := fun r ↦
        if s.broker.addressed (device c) kind streamID r then s.sent r ++ [(c, payload)]
        else s.sent r }
  | some _ => none

/-- The `select` of `handleInbound`. -/
def offer (s : State) (c : ConnID) : Option State :=
  match s.inflight c with
  | some (r, payload) =>
    match s.broker.heap[r]? with
    | some st =>
      some { s with
        broker := s.broker.send r payload
        inflight := Function.update s.inflight c none
        queued :=
          if Broker.offer st = .accepted then
            Function.update s.queued r (s.queued r ++ [(c, payload)])
          else s.queued }
    | none => none
  | none => none

/-- A receive by the consumer. -/
def receive (s : State) (r : StreamRef) : Option State :=
  match s.broker.receive r, s.queued r with
  | some (payload, broker), (c, _) :: rest =>
    some { s with
      broker
      queued := Function.update s.queued r rest
      received := Function.update s.received r (s.received r ++ [(c, payload)]) }
  | _, _ => none

end State

/-- One step of the relay; `device` is the device each connection has authenticated as. -/
def step (device : ConnID → UUID) (s : State) : Label → Option State
  | .register streamID deviceID kind =>
    some { s with broker := s.broker.register streamID deviceID kind }
  | .unregister streamID => some { s with broker := s.broker.unregister streamID }
  | .frame c kind streamID payload => s.frame device c kind streamID payload
  | .offer c => s.offer c
  | .receive r => s.receive r

/-- The payloads that came over connection `c`. -/
def via (c : ConnID) (frames : List (ConnID × Payload)) : List Payload :=
  (frames.filter fun f ↦ f.1 = c).map Prod.snd

/-- The frame in `handleInbound`, if it is on its way to stream `r`. -/
def towards (r : StreamRef) : Option (StreamRef × Payload) → List Payload
  | some (r', payload) => if r' = r then [payload] else []
  | none => []

/-- The step does not offer a frame to stream `r` while the channel is full. -/
def HasRoom (r : StreamRef) (s : State) : Label → Prop
  | .offer c => ∀ payload st, s.inflight c = some (r, payload) → s.broker.heap[r]? = some st →
      offer st ≠ .dropped
  | _ => True

variable {device : ConnID → UUID} {s t : State} {l : Label}

/-! ### Frames of one connection -/

@[simp] theorem via_nil (c : ConnID) : via c [] = [] := rfl

@[simp] theorem via_append (c : ConnID) (xs ys : List (ConnID × Payload)) :
    via c (xs ++ ys) = via c xs ++ via c ys := by
  simp [via]

theorem via_singleton (c c' : ConnID) (payload : Payload) :
    via c [(c', payload)] = if c' = c then [payload] else [] := by
  by_cases h : c' = c <;> simp [via, h]

/-- The frames of `c` that are past `handleInbound`, or in it, on their way through stream `r`. -/
def State.accounted (s : State) (c : ConnID) (r : StreamRef) : List Payload :=
  via c (s.received r ++ s.queued r) ++ towards r (s.inflight c)

/-! ### The invariant -/

/-- **The invariant of the relay.** -/
structure DeliveryInv (s : State) : Prop where
  /-- The history knows the content of every channel. -/
  mirror : ∀ r, s.broker.channel r = (s.queued r).map Prod.snd
  /-- Frames are on their way to streams that exist. -/
  refs : ∀ c r payload, s.inflight c = some (r, payload) → r < s.broker.heap.length
  /-- The table holds open streams under their own ids. -/
  table : ∀ id r, s.broker.streams.lookup id = some r →
    ∃ st, s.broker.heap[r]? = some st ∧ st.id = id ∧ st.closed = false
  /-- Nothing was sent for a stream that does not exist yet. -/
  fresh : ∀ r, s.broker.heap.length ≤ r → s.sent r = []
  /-- What came through is, connection by connection, a subsequence of what was sent. -/
  inOrder : ∀ r c, (s.accounted c r).Sublist (via c (s.sent r))

theorem deliveryInv_init : DeliveryInv State.init where
  mirror r := by simp [State.init, Broker.channel, Broker.empty]
  refs := by simp [State.init]
  table := by simp [State.init, empty]
  fresh := by simp [State.init]
  inOrder := by simp [State.init, State.accounted, towards]

variable {kind : UInt8} {r : StreamRef} {streamID : UUID} {c : ConnID} {payload : Payload}

variable {deviceID : UUID} {c' : ConnID}

theorem DeliveryInv.addressed_of_route (hinv : DeliveryInv s)
    (h : s.broker.route deviceID kind streamID = some r) :
    s.broker.streams.lookup streamID = some r ∧
      s.broker.addressed deviceID kind streamID r = true := by
  unfold route at h
  split at h
  next r₀ hlook =>
    obtain ⟨_, hst, hid, -⟩ := hinv.table streamID r₀ hlook
    rw [hst] at h
    simp only at h
    split at h
    next hmatch =>
      cases h
      exact ⟨hlook, by simp [addressed, hst, hid, hmatch.1, hmatch.2]⟩
    · cases h
  · cases h

/-- A frame addressed to a stream but not routed to it finds the stream out of the table. -/
theorem DeliveryInv.not_registered_of_addressed (hinv : DeliveryInv s)
    (haddr : s.broker.addressed deviceID kind streamID r = true)
    (hrte : s.broker.route deviceID kind streamID ≠ some r) (id : UUID) :
    s.broker.streams.lookup id ≠ some r := by
  intro hlook
  obtain ⟨_, hst, hid, -⟩ := hinv.table id r hlook
  simp only [addressed, hst, Bool.and_eq_true, decide_eq_true_eq] at haddr
  obtain ⟨⟨hstr, hdev⟩, hkind⟩ := haddr
  refine hrte ?_
  rw [← hstr, hid, route, hlook]
  simp [hst, hdev, hkind]

/-! ### Steps -/

/-- A lookup puts the frame on its way to the stream it found. -/
theorem accounted_frame
    (h : s.frame device c kind streamID payload = some t) (c' : ConnID) (r : StreamRef) :
    t.accounted c' r = s.accounted c' r ++
      if c' = c ∧ s.broker.route (device c) kind streamID = some r then [payload] else [] := by
  unfold State.frame at h
  split at h
  next hnone =>
    cases h
    by_cases hc : c' = c
    · subst hc
      cases hrte : s.broker.route (device c') kind streamID with
      | none => simp [State.accounted, towards, hnone]
      | some r₀ => by_cases hr : r₀ = r <;> simp [State.accounted, towards, hnone, hr]
    · simp [State.accounted, hc]
  · cases h

theorem sent_frame
    (h : s.frame device c kind streamID payload = some t) (c' : ConnID) (r : StreamRef) :
    via c' (t.sent r) = via c' (s.sent r) ++
      if c' = c ∧ s.broker.addressed (device c) kind streamID r = true then [payload] else [] := by
  unfold State.frame at h
  split at h
  · cases h
    by_cases haddr : s.broker.addressed (device c) kind streamID r = true
    · simp [haddr, via_singleton, eq_comm]
    · simp [haddr]
  · cases h

/-- A send that is not accepted forgets the frame; otherwise it only moves it into the channel. -/
theorem accounted_offer (h : s.offer c = some t) :
    ∃ r payload st, s.inflight c = some (r, payload) ∧ s.broker.heap[r]? = some st ∧
      t.broker = s.broker.send r payload ∧ t.sent = s.sent ∧
      t.inflight = Function.update s.inflight c none ∧
      (t.queued = if Broker.offer st = .accepted then
        Function.update s.queued r (s.queued r ++ [(c, payload)]) else s.queued) ∧
      ∀ c' r', if c' = c ∧ r' = r ∧ Broker.offer st ≠ .accepted
        then s.accounted c' r' = t.accounted c' r' ++ [payload]
        else t.accounted c' r' = s.accounted c' r' := by
  unfold State.offer at h
  split at h
  next r payload hin =>
    split at h
    next st hst =>
      cases h
      refine ⟨r, payload, st, hin, hst, rfl, rfl, rfl, rfl, fun c' r' ↦ ?_⟩
      by_cases hacc : offer st = .accepted
      · rw [if_neg (by simp [hacc])]
        by_cases hr : r' = r
        · subst hr
          by_cases hc : c' = c
          · subst hc
            simp [State.accounted, hacc, hin, towards, via_singleton]
          · simp [State.accounted, hacc, hc, via_singleton, Ne.symm hc]
        · by_cases hc : c' = c
          · subst hc
            simp [State.accounted, hacc, hin, towards, hr, Ne.symm hr]
          · simp [State.accounted, hacc, hc, hr]
      · by_cases hc : c' = c
        · subst hc
          by_cases hr : r' = r
          · subst hr
            simp [State.accounted, hacc, hin, towards]
          · simp [State.accounted, hacc, hin, towards, hr, Ne.symm hr]
        · simp [State.accounted, hacc, hc]
    · cases h
  · cases h

/-- A receive only moves a payload from the channel to the consumer. -/
theorem accounted_receive (hinv : DeliveryInv s) (h : s.receive r = some t) :
    t.sent = s.sent ∧ t.inflight = s.inflight ∧ (∀ c r', t.accounted c r' = s.accounted c r') ∧
      (∀ r', t.broker.channel r' = (t.queued r').map Prod.snd) ∧
      SameStreams s.broker t.broker := by
  unfold State.receive at h
  split at h
  next payload broker c p rest hrecv hqueued =>
    cases h
    obtain ⟨hsame, rest', hcont, hchan⟩ := receive_eq_some hrecv
    -- the channel and its annotated copy begin with the same payload
    have hmirror : payload :: rest' = p :: rest.map Prod.snd := by
      rw [← hcont, hinv.mirror r, hqueued]
      rfl
    obtain ⟨rfl, rfl⟩ := cons.inj hmirror
    refine ⟨rfl, rfl, fun c' r' ↦ ?_, fun r' ↦ ?_, hsame⟩
    · by_cases hr : r' = r
      · subst hr
        simp [State.accounted, hqueued, via, filter_cons]
      · simp [State.accounted, hr]
    · by_cases hr : r' = r
      · subst hr
        simp [hchan]
      · simp [hchan, hr, hinv.mirror r']
  · cases h

theorem table_of_sameStreams {b b' : Broker} (hsame : SameStreams b b')
    (htable : ∀ id r, b.streams.lookup id = some r →
      ∃ st, b.heap[r]? = some st ∧ st.id = id ∧ st.closed = false) (id : UUID) (r : StreamRef)
    (h : b'.streams.lookup id = some r) : ∃ st, b'.heap[r]? = some st ∧ st.id = id ∧
      st.closed = false := by
  rw [hsame.streams] at h
  obtain ⟨st, hst, hid, hopen⟩ := htable id r h
  obtain ⟨_, hst'⟩ := hsame.heap r st hst
  exact ⟨_, hst', hid, hopen⟩

section

variable (hinv : DeliveryInv s)
include hinv

theorem DeliveryInv.register (streamID deviceID : UUID) (kind : UInt8) :
    DeliveryInv { s with broker := s.broker.register streamID deviceID kind } := by
  have hlen : (s.broker.register streamID deviceID kind).heap.length =
      s.broker.heap.length + 1 := by simp [Broker.register]
  refine ⟨fun r ↦ ?_, fun c r payload hin ↦ ?_, fun id r h ↦ ?_, fun r hr ↦ ?_, hinv.inOrder⟩
  · simpa using hinv.mirror r
  · rw [hlen]
    exact Nat.lt_succ_of_lt (hinv.refs c r payload hin)
  · obtain ⟨rfl, rfl⟩ | ⟨-, hold⟩ := GoMap.lookup_of_insert h
    · exact ⟨_, register_heap_length, rfl, rfl⟩
    · obtain ⟨st, hst, hrest⟩ := hinv.table id r hold
      refine ⟨st, ?_, hrest⟩
      rw [← hst]
      exact register_heap_of_lt (List.getElem?_eq_some_iff.1 hst).1
  · rw [hlen] at hr
    exact hinv.fresh r (Nat.le_of_succ_le hr)

theorem DeliveryInv.unregister (streamID : UUID) :
    DeliveryInv { s with broker := s.broker.unregister streamID } := by
  refine ⟨fun r ↦ ?_, fun c r payload hin ↦ ?_, fun id r h ↦ ?_, fun r hr ↦ ?_, hinv.inOrder⟩
  · simpa using hinv.mirror r
  · simpa [unregister_heap_length] using hinv.refs c r payload hin
  · obtain ⟨hold, hne⟩ := lookup_of_unregister h
    obtain ⟨st, hst, hid, hopen⟩ := hinv.table id r hold
    -- a stream stands in the table under its own id only
    have hoth : s.broker.streams.lookup streamID ≠ some r := by
      intro hsame
      obtain ⟨st', hst', hid', -⟩ := hinv.table streamID r hsame
      obtain rfl : st = st' := by simpa [hst] using hst'
      exact hne (hid.symm.trans hid')
    exact ⟨st, by simp [unregister_heap, hst, hoth], hid, hopen⟩
  · exact hinv.fresh r (by simpa [unregister_heap_length] using hr)

/-- A frame is routed to the stream that it is addressed to. -/
theorem DeliveryInv.frame (h : s.frame device c kind streamID payload = some t) :
    DeliveryInv t := by
  have hinOrder : ∀ r c', (t.accounted c' r).Sublist (via c' (t.sent r)) := by
    intro r c'
    rw [accounted_frame h, sent_frame h]
    refine (hinv.inOrder r c').append ?_
    by_cases hrte : c' = c ∧ s.broker.route (device c) kind streamID = some r
    · have haddr := (hinv.addressed_of_route hrte.2).2
      rw [if_pos hrte, if_pos ⟨hrte.1, haddr⟩]
    · rw [if_neg hrte]
      exact nil_sublist _
  unfold State.frame at h
  split at h
  · cases h
    refine ⟨hinv.mirror, fun c' r p hin ↦ ?_, hinv.table, fun r hr ↦ ?_, hinOrder⟩
    · simp only [Function.update_apply] at hin
      split at hin
      · obtain ⟨r', hr', heq⟩ := Option.map_eq_some_iff.1 hin
        obtain ⟨rfl, -⟩ := Prod.mk.inj heq
        obtain ⟨_, hst, -⟩ := hinv.table streamID r' (hinv.addressed_of_route hr').1
        exact (List.getElem?_eq_some_iff.1 hst).1
      · exact hinv.refs c' r p hin
    · have hnone : s.broker.heap[r]? = none := getElem?_eq_none hr
      simpa [addressed, hnone] using hinv.fresh r hr
  · cases h

/-- The channel takes the frame, or the frame is dropped. -/
theorem DeliveryInv.offer (h : s.offer c = some t) : DeliveryInv t := by
  obtain ⟨r, _, st, -, hst, hbroker, hsent, hinfl, hqueued, haccounted⟩ :=
    accounted_offer h
  have hsame : SameStreams s.broker t.broker := hbroker ▸ sameStreams_send hst
  refine ⟨fun r' ↦ ?_, fun c' r' p hin' ↦ ?_, table_of_sameStreams hsame hinv.table,
    fun r' hr' ↦ ?_, fun r' c' ↦ ?_⟩
  · rw [hbroker, send_channel hst, hqueued, hinv.mirror r']
    by_cases hacc : Broker.offer st = .accepted
    · by_cases hr : r' = r
      · subst hr
        simp [hacc]
      · simp [hacc, hr]
    · simp [hacc]
  · rw [hinfl, Function.update_apply] at hin'
    split at hin'
    · cases hin'
    · rw [hsame.length]
      exact hinv.refs c' r' p hin'
  · rw [hsent]
    exact hinv.fresh r' (hsame.length ▸ hr')
  · rw [hsent]
    have hcase := haccounted c' r'
    split at hcase
    · refine Sublist.trans ?_ (hinv.inOrder r' c')
      rw [hcase]
      exact sublist_append_left _ _
    · rw [hcase]
      exact hinv.inOrder r' c'

theorem DeliveryInv.receive (h : s.receive r = some t) : DeliveryInv t := by
  obtain ⟨hsent, hinfl, hacc, hmirror, hsame⟩ := accounted_receive hinv h
  refine ⟨hmirror, fun c r' p hin ↦ ?_, table_of_sameStreams hsame hinv.table, fun r' hr' ↦
    ?_, fun r' c ↦ ?_⟩
  · rw [hsame.length]
    exact hinv.refs c r' p (hinfl ▸ hin)
  · rw [hsent]
    exact hinv.fresh r' (hsame.length ▸ hr')
  · rw [hacc, hsent]
    exact hinv.inOrder r' c

/-- **Every step preserves the invariant.** -/
theorem DeliveryInv.step (h : step device s l = some t) : DeliveryInv t := by
  cases l with
  | register streamID deviceID kind =>
    cases h
    exact hinv.register streamID deviceID kind
  | unregister streamID =>
    cases h
    exact hinv.unregister streamID
  | frame => exact hinv.frame h
  | offer => exact hinv.offer h
  | receive => exact hinv.receive h

end

/-! ### Nothing is lost from the middle while there is room -/

/-- The stream is out of the table, or nothing sent for it over `c` is missing. -/
def Gapless (s : State) (r : StreamRef) (c : ConnID) : Prop :=
  ∃ missed, via c (s.sent r) = s.accounted c r ++ missed ∧
    (missed ≠ [] → ∀ id, s.broker.streams.lookup id ≠ some r)

theorem Gapless.of_eq (h : Gapless s r c) (hsent : via c (t.sent r) = via c (s.sent r))
    (hacc : t.accounted c r = s.accounted c r)
    (htable : ∀ id, t.broker.streams.lookup id = some r →
      ∃ id, s.broker.streams.lookup id = some r) :
    Gapless t r c := by
  obtain ⟨missed, hmiss, hout⟩ := h
  refine ⟨missed, by rw [hsent, hacc, hmiss], fun hne id hid ↦ ?_⟩
  obtain ⟨id', hid'⟩ := htable id hid
  exact hout hne id' hid'

theorem Gapless.register (hinv : DeliveryInv s) (hgap : Gapless s r c)
    (h : step device s (.register streamID deviceID kind) = some t) : Gapless t r c := by
  cases h
  obtain hold | hnew := Nat.lt_or_ge r s.broker.heap.length
  · refine hgap.of_eq rfl rfl fun id hid ↦ ?_
    simp only [register] at hid
    obtain ⟨-, hr⟩ | ⟨-, hlook⟩ := GoMap.lookup_of_insert hid
    · exact absurd hr (Nat.ne_of_lt hold)
    · exact ⟨id, hlook⟩
  · -- nothing was sent for a stream that is only now made
    have hsent : s.sent r = [] := hinv.fresh r hnew
    have hacc : s.accounted c r = [] := by
      have := hinv.inOrder r c
      rwa [hsent, via_nil, sublist_nil] at this
    refine ⟨[], ?_, fun hne ↦ absurd rfl hne⟩
    show via c (s.sent r) = s.accounted c r ++ []
    rw [hsent, hacc]
    rfl

/-- With room in the channel, a frame gets lost only after the channel is closed. -/
theorem Gapless.offer (hinv : DeliveryInv s) (hgap : Gapless s r c)
    (h : step device s (.offer c') = some t) (hroom : HasRoom r s (.offer c')) : Gapless t r c := by
  obtain ⟨_, payload, st, hin, hst, hbroker, hsent, -, -, hacc⟩ := accounted_offer h
  have hsame : SameStreams s.broker t.broker := hbroker ▸ sameStreams_send hst
  have hcase := hacc c r
  split at hcase
  · -- the channel is closed, so the stream is out of the table
    next hlost =>
    obtain ⟨rfl, rfl, hnot⟩ := hlost
    have hclosed : st.closed = true := by
      have hdrop := hroom payload st hin hst
      by_contra hopen
      rw [offer, if_neg hopen] at hnot hdrop
      split at hnot <;> simp_all
    obtain ⟨missed, hmiss, -⟩ := hgap
    refine ⟨payload :: missed, by rw [hsent, hmiss, hcase]; simp, fun _ id hid ↦ ?_⟩
    rw [hsame.streams] at hid
    obtain ⟨st', hst', -, hopen⟩ := hinv.table id r hid
    obtain rfl : st = st' := by simpa [hst] using hst'
    rw [hclosed] at hopen
    cases hopen
  · refine hgap.of_eq (by rw [hsent]) hcase fun id hid ↦ ⟨id, ?_⟩
    rwa [hsame.streams] at hid

theorem broker_frame (h : step device s (.frame c kind streamID payload) = some t) :
    t.broker = s.broker := by
  simp only [Relay.step, State.frame] at h
  split at h
  · cases h
    rfl
  · cases h

/-- A frame is accounted for while the stream is in the table, and missed afterwards. -/
theorem Gapless.frame (hinv : DeliveryInv s) (hgap : Gapless s r c)
    (h : step device s (.frame c' kind streamID payload) = some t) : Gapless t r c := by
  obtain ⟨missed, hmiss, hout⟩ := hgap
  by_cases hrte : c = c' ∧ s.broker.route (device c') kind streamID = some r
  · -- the stream is in the table, so nothing was missed before
    obtain ⟨hlook, haddr⟩ := hinv.addressed_of_route hrte.2
    have hnone : missed = [] := by
      by_contra hne
      exact hout hne streamID hlook
    refine ⟨[], ?_, fun hne ↦ absurd rfl hne⟩
    rw [sent_frame h, accounted_frame h, if_pos hrte, if_pos ⟨hrte.1, haddr⟩, hmiss, hnone]
    simp
  · refine ⟨missed ++ if c = c' ∧ s.broker.addressed (device c') kind streamID r = true
      then [payload] else [], ?_, fun hne id ↦ ?_⟩
    · rw [sent_frame h, accounted_frame h, if_neg hrte, hmiss]
      simp
    · rw [broker_frame h]
      by_cases haddr : c = c' ∧ s.broker.addressed (device c') kind streamID r = true
      · exact hinv.not_registered_of_addressed haddr.2 (fun hr ↦ hrte ⟨haddr.1, hr⟩) id
      · rw [if_neg haddr, append_nil] at hne
        exact hout hne id

/-- **No gap opens** while the channel has room. -/
theorem Gapless.step (hinv : DeliveryInv s) (hgap : Gapless s r c) (h : step device s l = some t)
    (hroom : HasRoom r s l) : Gapless t r c := by
  cases l with
  | register => exact hgap.register hinv h
  | unregister =>
    cases h
    exact hgap.of_eq rfl rfl fun id hid ↦ ⟨id, (lookup_of_unregister hid).1⟩
  | receive =>
    obtain ⟨hsent, -, hacc, -, hsame⟩ := accounted_receive hinv h
    refine hgap.of_eq (by rw [hsent]) (hacc c r) fun id hid ↦ ⟨id, ?_⟩
    rwa [hsame.streams] at hid
  | offer => exact hgap.offer hinv h hroom
  | frame => exact hgap.frame hinv h

/-- **What a consumer receives.** Of the frames that came over one control connection it receives,
in order and none twice, a subsequence of those the device sent for the stream since its
registration; and a prefix of them unless one was offered while the channel was full. -/
theorem received_in_order (device : ConnID → UUID) (ls : List Label)
    (hrun : exec (step device) State.init ls = some s) (r : StreamRef) (c : ConnID) :
    (via c (s.received r)).Sublist (via c (s.sent r)) ∧
      (Along (step device) (fun s l _ ↦ HasRoom r s l) State.init ls →
        via c (s.received r) <+: via c (s.sent r)) := by
  constructor
  · have hinv : DeliveryInv s :=
      invariant_of_exec (I := DeliveryInv) (fun _ _ _ hi h ↦ hi.step h) deliveryInv_init hrun
    have hsub := hinv.inOrder r c
    rw [State.accounted, via_append, append_assoc] at hsub
    exact (sublist_append_left _ _).trans hsub
  · intro hroom
    have hboth : DeliveryInv s ∧ Gapless s r c :=
      invariant_of_along (I := fun s ↦ DeliveryInv s ∧ Gapless s r c)
        (fun _ _ _ hi h hp ↦ ⟨hi.1.step h, Gapless.step hi.1 hi.2 h hp⟩)
        ⟨deliveryInv_init, [], rfl, fun hne ↦ absurd rfl hne⟩ hrun hroom
    obtain ⟨_, hmiss, -⟩ := hboth.2
    rw [hmiss, State.accounted, via_append, append_assoc, append_assoc]
    exact prefix_append _ _

/-- Two frames sent, one of them read: a prefix, as the channel had room. -/
theorem received_in_order_two : ∃ s, exec (step fun _ ↦ 2) State.init
        [.register 1 2 1, .frame 0 1 1 [7], .offer 0, .frame 0 1 1 [8], .offer 0, .receive 0] =
          some s ∧
      via 0 (s.sent 0) = [[7], [8]] ∧ via 0 (s.received 0) <+: via 0 (s.sent 0) := by
  refine ⟨_, rfl, rfl, (received_in_order (fun _ ↦ 2)
    [.register 1 2 1, .frame 0 1 1 [7], .offer 0, .frame 0 1 1 [8], .offer 0, .receive 0]
    rfl 0 0).2 ?_⟩
  iterate 2 refine .cons rfl trivial ?_
  refine .cons rfl ?_ ?_
  · rintro payload st ⟨⟩ ⟨⟩
    decide
  refine .cons rfl trivial ?_
  refine .cons rfl ?_ ?_
  · rintro payload st ⟨⟩ ⟨⟩
    decide
  refine .cons rfl trivial ?_
  exact trivial

/-- The consumer reads nothing while 65 frames come in, and then reads on. -/
def overflowRun : List Label :=
  .register 1 2 1 :: (replicate 65 [.frame 0 1 1 [0], .offer 0]).flatten ++
    [.receive 0, .frame 0 1 1 [1], .offer 0] ++ replicate 64 (.receive 0)

/-- The 65th frame is missing between the 64th and the 66th. -/
theorem not_prefix_after_overflow : ¬ ∀ (device : ConnID → UUID) (ls : List Label) (s : State)
    (r : StreamRef),
      exec (step device) State.init ls = some s → (s.received r).map Prod.snd <+: (s.sent r).map
        Prod.snd := by
  intro h
  have heval : (exec (step fun _ ↦ 2) State.init overflowRun).map (fun s ↦
      decide ((s.received 0).map Prod.snd <+: (s.sent 0).map Prod.snd)) = some false := by
    decide +kernel
  obtain ⟨s, hs, hfalse⟩ := Option.map_eq_some_iff.1 heval
  exact absurd (h _ _ s 0 hs) (of_decide_eq_false hfalse)

end WartungsRemote.Relay
