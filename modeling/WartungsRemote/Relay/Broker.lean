import WartungsRemote.Device.Registry

/-!
# The relay broker

`internal/relay`: the in-process table that routes stream frames from an agent's control connection
to whoever reads the stream. A `Stream` is used through a pointer: `handleInbound` looks the stream
up under the lock and sends to it after releasing the lock, and a consumer keeps reading from a
stream that is no longer in the table. So there is a heap of all streams ever made, and the table
holds references into it.
-/

namespace WartungsRemote.Relay

open List Option

/-- The bytes of one frame. -/
abbrev Payload : Type := List UInt8

/-- A reference to a `Stream`. -/
abbrev StreamRef : Type := ℕ

/-- `Stream`: the identity it was registered with and its `toBrowser` channel. -/
structure Stream where
  id : UUID
  deviceID : UUID
  kind : UInt8
  toBrowser : List Payload
  closed : Bool
  deriving DecidableEq

/-- The capacity of `toBrowser`. -/
def toBrowserCapacity : ℕ := 64

/-- `Broker`, and the heap its streams live in. -/
structure Broker where
  streams : GoMap UUID StreamRef
  heap : List Stream

namespace Broker

/-- `NewBroker`. -/
def empty : Broker where
  streams := ∅
  heap := []

/-- `Register`: a new stream under the id, in place of any stream that was there. -/
def register (b : Broker) (streamID deviceID : UUID) (kind : UInt8) : Broker where
  streams := b.streams.insert streamID b.heap.length
  heap := b.heap ++ [{ id := streamID, deviceID, kind, toBrowser := [], closed := false }]

def get (b : Broker) (streamID : UUID) : Option StreamRef :=
  b.streams.lookup streamID

/-- `Unregister`: out of the table, and the channel is closed. -/
def unregister (b : Broker) (streamID : UUID) : Broker :=
  match b.streams.lookup streamID with
  | some r =>
    { streams := b.streams.erase streamID
      heap := b.heap.modify r fun st ↦ { st with closed := true } }
  | none => b

/-- The lookup of `handleInbound`: the stream under the id, if it is the device's and of the frame's
kind. -/
def route (b : Broker) (deviceID : UUID) (kind : UInt8) (streamID : UUID) : Option StreamRef :=
  match b.streams.lookup streamID with
  | some r =>
    match b.heap[r]? with
    | some st => if st.deviceID = deviceID ∧ st.kind = kind then some r else none
    | none => none
  | none => none

/-- What the `select` of `handleInbound` does with the frame. -/
inductive Offer
  | accepted
  | dropped
  /-- A send on a closed channel. -/
  | panicked
  deriving DecidableEq

/-- The non-blocking send to a stream. -/
def offer (st : Stream) : Offer :=
  if st.closed then .panicked
  else if st.toBrowser.length < toBrowserCapacity then .accepted
  else .dropped

theorem offer_eq_panicked_iff {st : Stream} : offer st = .panicked ↔ st.closed = true := by
  unfold offer
  split_ifs with hclosed hroom <;> simp [hclosed]

/-- The heap after a non-blocking send. -/
def send (b : Broker) (r : StreamRef) (payload : Payload) : Broker :=
  match b.heap[r]? with
  | some st =>
    if offer st = .accepted then
      { b with heap := b.heap.set r { st with toBrowser := st.toBrowser ++ [payload] } }
    else b
  | none => b

/-- A receive from `FromAgent`: the oldest payload, also from a closed channel. -/
def receive (b : Broker) (r : StreamRef) : Option (Payload × Broker) :=
  match b.heap[r]? with
  | some st =>
    match st.toBrowser with
    | payload :: rest =>
      some (payload, { b with heap := b.heap.set r { st with toBrowser := rest } })
    | [] => none
  | none => none

/-! ### What registration and removal change -/

theorem unregister_eq_self_iff {b : Broker} {streamID : UUID} :
    b.unregister streamID = b ↔ streamID ∉ b.streams := by
  unfold unregister
  constructor
  · intro h hmem
    obtain ⟨r, hr⟩ := isSome_iff_exists.1 (AList.lookup_isSome.2 hmem)
    rw [hr] at h
    have hstrs : b.streams.erase streamID = b.streams := congrArg streams h
    rw [← hstrs] at hmem
    exact (AList.mem_erase.1 hmem).1 rfl
  · intro h
    rw [AList.lookup_eq_none.2 h]

/-- The content of a stream's channel. -/
def channel (b : Broker) (r : StreamRef) : List Payload :=
  match b.heap[r]? with
  | some st => st.toBrowser
  | none => []

section Heap

variable {b b' : Broker} {r r' : StreamRef} {streamID deviceID : UUID} {kind : UInt8}
  {payload : Payload} {st : Stream}

theorem register_heap_of_lt (h : r < b.heap.length) :
    (b.register streamID deviceID kind).heap[r]? = b.heap[r]? :=
  getElem?_append_left h

theorem register_heap_length : (b.register streamID deviceID kind).heap[b.heap.length]? =
    some { id := streamID, deviceID, kind, toBrowser := [], closed := false } := by
  simp [register]

@[simp] theorem register_channel : (b.register streamID deviceID kind).channel r = b.channel r := by
  obtain h | h | h := Nat.lt_trichotomy r b.heap.length
  · rw [channel, register_heap_of_lt h]
    rfl
  · subst h
    rw [channel, register_heap_length]
    simp [channel]
  · have hnew : (b.register streamID deviceID kind).heap[r]? = none :=
      getElem?_eq_none (by simpa [register] using Nat.succ_le_of_lt h)
    have hold : b.heap[r]? = none := getElem?_eq_none (Nat.le_of_lt h)
    rw [channel, channel, hnew, hold]

theorem unregister_heap : (b.unregister streamID).heap[r]? =
    (b.heap[r]?).map fun st ↦
      if b.streams.lookup streamID = some r then { st with closed := true } else st := by
  unfold unregister
  split
  next r₀ h₀ =>
    rw [h₀, getElem?_modify]
    cases b.heap[r]? <;> simp
  next h₀ => simp [h₀]

theorem unregister_heap_length : (b.unregister streamID).heap.length = b.heap.length := by
  unfold unregister
  split <;> simp

@[simp] theorem unregister_channel : (b.unregister streamID).channel r = b.channel r := by
  rw [channel, channel, unregister_heap]
  cases b.heap[r]? with
  | none => rfl
  | some =>
    simp only [map_some]
    split <;> rfl

theorem lookup_of_unregister {id : UUID} (h : (b.unregister streamID).streams.lookup id = some r) :
    b.streams.lookup id = some r ∧ id ≠ streamID := by
  unfold unregister at h
  split at h
  · exact (GoMap.lookup_of_erase h).symm
  next hnone =>
    refine ⟨h, ?_⟩
    rintro rfl
    rw [hnone] at h
    cases h

theorem send_heap (hst : b.heap[r]? = some st) : (b.send r payload).heap[r']? =
    if r' = r ∧ offer st = .accepted then some { st with toBrowser := st.toBrowser ++ [payload] }
    else b.heap[r']? := by
  have hlt : r < b.heap.length := (List.getElem?_eq_some_iff.1 hst).1
  simp only [send, hst]
  by_cases hoffer : offer st = .accepted
  · rw [if_pos hoffer]
    by_cases hr : r' = r
    · subst hr
      simp [hoffer, hlt]
    · simp [hr, getElem?_set_ne (Ne.symm hr)]
  · simp [hoffer]

/-- Only the contents of channels differ. -/
structure SameStreams (b b' : Broker) : Prop where
  streams : b'.streams = b.streams
  length : b'.heap.length = b.heap.length
  heap : ∀ (r : StreamRef) (st : Stream), b.heap[r]? = some st →
    ∃ content, b'.heap[r]? = some { st with toBrowser := content }

theorem sameStreams_send (hst : b.heap[r]? = some st) : SameStreams b (b.send r payload) where
  streams := by
    simp only [send, hst]
    split <;> rfl
  length := by
    simp only [send, hst]
    split <;> simp
  heap r' st' hst' := by
    rw [send_heap hst]
    split
    next h =>
      obtain rfl : st = st' := by simpa [h.1, hst] using hst'
      exact ⟨_, rfl⟩
    · exact ⟨st'.toBrowser, hst'⟩

theorem send_channel (hst : b.heap[r]? = some st) : (b.send r payload).channel r' =
    if r' = r ∧ offer st = .accepted then b.channel r' ++ [payload] else b.channel r' := by
  rw [channel, send_heap hst]
  by_cases h : r' = r ∧ offer st = .accepted
  · rw [if_pos h, if_pos h, channel, h.1, hst]
  · rw [if_neg h, if_neg h]
    rfl

theorem receive_eq_some (h : b.receive r = some (payload, b')) :
    SameStreams b b' ∧ ∃ rest, b.channel r = payload :: rest ∧
      ∀ r', b'.channel r' = if r' = r then rest else b.channel r' := by
  unfold receive at h
  split at h
  next st hst =>
    have hlt : r < b.heap.length := (List.getElem?_eq_some_iff.1 hst).1
    split at h
    next p rest hcont =>
      obtain ⟨rfl, rfl⟩ := Prod.mk.inj (some.inj h)
      refine ⟨⟨rfl, by simp, fun r' st' hst' ↦ ?_⟩, rest, by simp [channel, hst, hcont],
        fun r' ↦ ?_⟩
      · by_cases hr : r' = r
        · subst hr
          obtain rfl : st = st' := by simpa [hst] using hst'
          exact ⟨rest, by simp [hlt]⟩
        · exact ⟨st'.toBrowser, by simpa [getElem?_set_ne (Ne.symm hr)] using hst'⟩
      · by_cases hr : r' = r
        · subst hr
          simp [channel, hlt]
        · simp [channel, hr, getElem?_set_ne (Ne.symm hr)]
    · cases h
  · cases h

end Heap

end Broker

end WartungsRemote.Relay
