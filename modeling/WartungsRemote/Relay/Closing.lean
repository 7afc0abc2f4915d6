import WartungsRemote.Relay.Delivery

/-!
# Sends and closes

`handleInbound` looks up a stream under the lock of the broker and sends to its channel after the
lock is released. `Unregister` takes a stream out of the table under the lock and closes its channel
after the lock is released. Here each of the two is two steps, which interleave with all others; a
send on a channel that is closed panics, in the goroutine of the read loop.

A channel is closed **at most once**, because a stream leaves the table once (`closes_le_one`). It
may be closed between the lookup and the send of a frame, though, and then the send panics. If that
does not happen, no send does (`neverPanics_of_undisturbed`).
-/

namespace WartungsRemote.Relay

open Function List Option Broker

/-- The first part of `Unregister`: the stream is out of the table. -/
def Broker.remove (b : Broker) (streamID : UUID) : Broker :=
  { b with streams := b.streams.erase streamID }

/-- The second part of `Unregister`: the channel is closed. -/
def Broker.close (b : Broker) (r : StreamRef) : Broker :=
  { b with heap := b.heap.modify r fun st ↦ { st with closed := true } }

namespace Closing

open ControlHub (ConnID)
open Transition

/-- A call of `Unregister`. -/
abbrev CallID : Type := ℕ

structure State where
  broker : Broker
  /-- The frames between their lookup and their send. -/
  inflight : GoMap ConnID (StreamRef × Payload)
  /-- The calls of `Unregister` that have removed a stream and not closed its channel yet. -/
  closing : CallID → Option StreamRef
  /-- How often a channel was closed. -/
  closes : StreamRef → ℕ
  /-- The connections whose read loop has sent on a closed channel. -/
  panicked : List ConnID

def State.init : State where
  broker := .empty
  inflight := ∅
  closing _ := none
  closes _ := 0
  panicked := []

inductive Label
  | register (streamID deviceID : UUID) (kind : UInt8)
  /-- The locked part of `Unregister`. -/
  | remove (u : CallID) (streamID : UUID)
  /-- `close(s.toBrowser)`. -/
  | close (u : CallID)
  /-- The locked part of `handleInbound`. -/
  | lookup (c : ConnID) (kind : UInt8) (streamID : UUID) (payload : Payload)
  /-- The `select` of `handleInbound`. -/
  | send (c : ConnID)
  | receive (r : StreamRef)

namespace State

variable (s : State)

def remove (u : CallID) (streamID : UUID) : Option State :=
  match s.closing u with
  | some _ => none
  | none =>
    match s.broker.streams.lookup streamID with
    | some r =>
      some { s with
        broker := s.broker.remove streamID
        closing := update s.closing u (some r) }
    | none => some s

def close (u : CallID) : Option State :=
  match s.closing u with
  | some r =>
    some { s with
      broker := s.broker.close r
      closing := update s.closing u none
      closes := update s.closes r (s.closes r + 1) }
  | none => none

/-- The read loop takes one frame after the other, and none after a panic. -/
def lookup (device : ConnID → UUID) (c : ConnID) (kind : UInt8) (streamID : UUID)
    (payload : Payload) : Option State :=
  if c ∈ s.inflight ∨ s.panicked.contains c then none
  else
    match s.broker.route (device c) kind streamID with
    | some r => some { s with inflight := s.inflight.insert c (r, payload) }
    | none => some s

def send (c : ConnID) : Option State :=
  match s.inflight.lookup c with
  | some (r, payload) =>
    match s.broker.heap[r]? with
    | some st =>
      some { s with
        broker := s.broker.send r payload
        inflight := s.inflight.erase c
        panicked := if offer st = .panicked then c :: s.panicked else s.panicked }
    | none => none
  | none => none

end State

/-- One step; `device` is the device each connection has authenticated as. -/
def step (device : ConnID → UUID) (s : State) : Label → Option State
  | .register streamID deviceID kind =>
    some { s with broker := s.broker.register streamID deviceID kind }
  | .remove u streamID => s.remove u streamID
  | .close u => s.close u
  | .lookup c kind streamID payload => s.lookup device c kind streamID payload
  | .send c => s.send c
  | .receive r => (s.broker.receive r).map fun p ↦ { s with broker := p.2 }

/-- **The broker is safe**: no send on a closed channel, and no channel closed twice. -/
def NeverPanics (s : State) : Prop :=
  s.panicked = [] ∧ ∀ r, s.closes r ≤ 1

/-- The connections that have found the stream and not sent to it yet. -/
def State.approaching (s : State) (r : StreamRef) : List ConnID :=
  (s.inflight.entries.filter fun e ↦ e.2.1 = r).map Sigma.fst

/-- The condition on a step: a channel is not closed while a frame is on its way to it. -/
def Undisturbed (s : State) : Label → Prop
  | .close u => ∀ r ∈ (s.closing u).toList, s.approaching r = []
  | _ => True

instance (s : State) : DecidablePred (Undisturbed s) := by
  rintro (_ | _) <;> unfold Undisturbed <;> infer_instance

theorem mem_approaching {s : State} {c : ConnID} {r : StreamRef} {payload : Payload}
    (h : s.inflight.lookup c = some (r, payload)) : c ∈ s.approaching r := by
  refine mem_map.2 ⟨⟨c, r, payload⟩, mem_filter.2 ⟨?_, by simp⟩, rfl⟩
  exact AList.mem_lookup_iff.1 h

/-! ### Channels are closed once -/

/-- Which channels are open: those in the table, and those about to be closed. -/
structure ClosingInv (s : State) : Prop where
  table : ∀ id r, s.broker.streams.lookup id = some r →
    ∃ st, s.broker.heap[r]? = some st ∧ st.id = id ∧ st.closed = false
  removed : ∀ u r, s.closing u = some r →
    (∀ id, s.broker.streams.lookup id ≠ some r) ∧ ∃ st, s.broker.heap[r]? = some st ∧
      st.closed = false
  closing_inj : ∀ u u' r, s.closing u = some r → s.closing u' = some r → u = u'
  closes : ∀ r, s.closes r = if (s.broker.heap[r]?).any Stream.closed then 1 else 0

theorem closingInv_init : ClosingInv .init where
  table := nofun
  removed := nofun
  closing_inj := nofun
  closes _ := rfl

section Invariant

variable {device : ConnID → UUID} {s t : State} {l : Label}

theorem ClosingInv.of_sameStreams (h : ClosingInv s) (hsame : SameStreams s.broker t.broker)
    (hclos : t.closing = s.closing) (hcls : t.closes = s.closes) : ClosingInv t := by
  refine ⟨table_of_sameStreams hsame h.table, ?_, hclos ▸ h.closing_inj, ?_⟩
  · intro u r hu
    obtain ⟨hout, st, hst, hopen⟩ := h.removed u r (hclos ▸ hu)
    obtain ⟨content, hst'⟩ := hsame.heap r st hst
    exact ⟨hsame.streams ▸ hout, _, hst', hopen⟩
  · intro r
    rw [hcls, h.closes r]
    cases hst : s.broker.heap[r]? with
    | none =>
      have hnone : t.broker.heap[r]? = none :=
        getElem?_eq_none (hsame.length ▸ getElem?_eq_none_iff.1 hst)
      rw [hnone]
    | some st =>
      obtain ⟨content, hst'⟩ := hsame.heap r st hst
      rw [hst']
      rfl

theorem ClosingInv.register (h : ClosingInv s) (streamID deviceID : UUID) (kind : UInt8) :
    ClosingInv { s with broker := s.broker.register streamID deviceID kind } := by
  have hold : ∀ (r : StreamRef) (st : Stream), s.broker.heap[r]? = some st →
      (s.broker.register streamID deviceID kind).heap[r]? = some st := by
    intro r st hst
    rw [register_heap_of_lt (List.getElem?_eq_some_iff.1 hst).1, hst]
  refine ⟨?_, ?_, h.closing_inj, ?_⟩
  · intro id r hlook
    obtain ⟨rfl, rfl⟩ | ⟨-, hlook⟩ := GoMap.lookup_of_insert hlook
    · exact ⟨_, register_heap_length, rfl, rfl⟩
    · obtain ⟨st, hst, hrest⟩ := h.table id r hlook
      exact ⟨st, hold r st hst, hrest⟩
  · intro u r hu
    obtain ⟨hout, st, hst, hopen⟩ := h.removed u r hu
    refine ⟨fun id hlook ↦ ?_, st, hold r st hst, hopen⟩
    obtain ⟨rfl, rfl⟩ | ⟨-, hlook⟩ := GoMap.lookup_of_insert hlook
    · exact absurd (List.getElem?_eq_some_iff.1 hst).1 (Nat.lt_irrefl _)
    · exact hout id hlook
  · intro r
    rw [h.closes r]
    cases hst : s.broker.heap[r]? with
    | some st => rw [hold r st hst]
    | none =>
      -- the channel that is new is open
      by_cases hr : r = s.broker.heap.length
      · rw [hr, register_heap_length]
        rfl
      · have hnone : (s.broker.register streamID deviceID kind).heap[r]? = none := by
          refine getElem?_eq_none ?_
          have hlen : s.broker.heap.length < r :=
            Nat.lt_of_le_of_ne (getElem?_eq_none_iff.1 hst) (Ne.symm hr)
          simpa [Broker.register] using Nat.succ_le_of_lt hlen
        rw [hnone]

variable {streamID : UUID} {u : CallID} {c : ConnID}

/-- A stream leaves the table before its channel is closed. -/
theorem ClosingInv.remove (h : ClosingInv s) (hstep : s.remove u streamID = some t) :
    ClosingInv t := by
  unfold State.remove at hstep
  split at hstep
  · cases hstep
  next hu =>
    split at hstep
    next r hlook =>
      cases hstep
      obtain ⟨st, hst, hid, hopen⟩ := h.table streamID r hlook
      refine ⟨fun id r' hlook' ↦ h.table id r' (GoMap.lookup_of_erase hlook').2, ?_, ?_, h.closes⟩
      · refine (forall_update_iff s.closing (fun u' v ↦ ∀ r', v = some r' →
          (∀ id, (s.broker.streams.erase streamID).lookup id ≠ some r') ∧
            ∃ st, s.broker.heap[r']? = some st ∧ st.closed = false)).2 ⟨?_, ?_⟩
        · intro r' hr'
          cases hr'
          refine ⟨fun id hlook' ↦ ?_, st, hst, hopen⟩
          -- a stream stands in the table under its own id only
          obtain ⟨hne, hlook'⟩ := GoMap.lookup_of_erase hlook'
          obtain ⟨_, hst', hid', -⟩ := h.table id r hlook'
          rw [hst] at hst'
          cases hst'
          exact hne (hid'.symm.trans hid)
        · intro u' _ r' hu'
          obtain ⟨hout, hheap⟩ := h.removed u' r' hu'
          exact ⟨fun id hlook' ↦ hout id (GoMap.lookup_of_erase hlook').2, hheap⟩
      · -- a stream that another call has removed is not in the table
        have hoth : ∀ u', s.closing u' ≠ some r :=
          fun u' hu' ↦ (h.removed u' r hu').1 streamID hlook
        intro u₁ u₂ r' h₁ h₂
        simp only [update_apply] at h₁ h₂
        split_ifs at h₁ h₂ with hu₁ hu₂ hu₂
        · rw [hu₁, hu₂]
        · exact absurd (h₂.trans h₁.symm) (hoth u₂)
        · exact absurd (h₁.trans h₂.symm) (hoth u₁)
        · exact h.closing_inj u₁ u₂ r' h₁ h₂
    · cases hstep
      exact h

/-- A channel is closed by the one call that has removed its stream. -/
theorem ClosingInv.close (h : ClosingInv s) (hstep : s.close u = some t) : ClosingInv t := by
  unfold State.close at hstep
  split at hstep
  next r hu =>
    cases hstep
    obtain ⟨hout, st, hst, hopen⟩ := h.removed u r hu
    have hheap : ∀ r', r' ≠ r → (s.broker.close r).heap[r']? = s.broker.heap[r']? :=
      fun r' hr' ↦ getElem?_modify_ne _ _ (Ne.symm hr')
    refine ⟨?_, ?_, ?_, ?_⟩
    · intro id r' hlook
      have hne : r' ≠ r := by
        rintro rfl
        exact hout id hlook
      rw [hheap r' hne]
      exact h.table id r' hlook
    · intro u' r' hu'
      simp only [update_apply] at hu'
      split_ifs at hu' with hu''
      have hne : r' ≠ r := by
        rintro rfl
        exact hu'' (h.closing_inj u' u r' hu' hu)
      rw [hheap r' hne]
      exact h.removed u' r' hu'
    · intro u₁ u₂ r' h₁ h₂
      simp only [update_apply] at h₁ h₂
      split_ifs at h₁ h₂
      exact h.closing_inj u₁ u₂ r' h₁ h₂
    · intro r'
      by_cases hr' : r' = r
      · subst hr'
        have hnever : s.closes r' = 0 := by simp [h.closes r', hst, hopen]
        have hclosed : (s.broker.close r').heap[r']? = some { st with closed := true } := by
          simp [close, hst]
        simp [hnever, hclosed]
      · rw [hheap r' hr', ← h.closes r']
        exact update_of_ne hr' _ _
  · cases hstep

theorem send_eq_some (h : s.send c = some t) :
    ∃ r payload st, s.inflight.lookup c = some (r, payload) ∧ s.broker.heap[r]? = some st ∧
      t = { s with
        broker := s.broker.send r payload
        inflight := s.inflight.erase c
        panicked := if offer st = .panicked then c :: s.panicked else s.panicked } := by
  unfold State.send at h
  split at h
  next r payload hinfl =>
    split at h
    next st hst => exact ⟨r, payload, st, hinfl, hst, (some.inj h).symm⟩
    · cases h
  · cases h

theorem lookup_eq_some {kind : UInt8} {payload : Payload}
    (h : s.lookup device c kind streamID payload = some t) :
    t = s ∨ ∃ r, s.broker.route (device c) kind streamID = some r ∧
      t = { s with inflight := s.inflight.insert c (r, payload) } := by
  unfold State.lookup at h
  split_ifs at h
  split at h
  next r hrte => exact .inr ⟨r, hrte, (some.inj h).symm⟩
  · exact .inl (some.inj h).symm

/-- **Every step keeps the invariant.** -/
theorem ClosingInv.step (h : ClosingInv s) (hstep : step device s l = some t) : ClosingInv t := by
  cases l with
  | register streamID deviceID kind =>
    cases hstep
    exact h.register streamID deviceID kind
  | remove => exact h.remove hstep
  | close => exact h.close hstep
  | lookup =>
    obtain rfl | ⟨r, -, rfl⟩ := lookup_eq_some hstep
    · exact h
    · exact { h with }
  | send =>
    obtain ⟨r, payload, _, -, hst, rfl⟩ := send_eq_some hstep
    exact h.of_sameStreams (sameStreams_send hst) rfl rfl
  | receive =>
    obtain ⟨⟨payload, _⟩, hrecv, rfl⟩ := map_eq_some_iff.1 hstep
    exact h.of_sameStreams (receive_eq_some hrecv).1 rfl rfl

/-- **A channel is closed at most once**, in every run. -/
theorem closes_le_one {ls : List Label} (hrun : exec (step device) .init ls = some s)
    (r : StreamRef) : s.closes r ≤ 1 := by
  have h : ClosingInv s := invariant_of_exec (fun _ _ _ h hstep ↦ h.step hstep) closingInv_init hrun
  rw [h.closes r]
  split <;> omega

/-- **The table holds open streams under their own ids**, in every run, and a stream about to be
closed is out of the table, with its channel still open. -/
theorem streams_open (device : ConnID → UUID) (ls : List Label) :
    Along (step device) (fun _ _ t ↦
      (∀ id r, t.broker.streams.lookup id = some r →
        ∃ st, t.broker.heap[r]? = some st ∧ st.id = id ∧ st.closed = false) ∧
      ∀ u r, t.closing u = some r → (∀ id, t.broker.streams.lookup id ≠ some r) ∧
        ∃ st, t.broker.heap[r]? = some st ∧ st.closed = false) .init ls := by
  refine along_of_exec (fun _ _ _ h hstep ↦ h.step hstep) (fun _ _ _ h hstep ↦ ?_) closingInv_init
  exact ⟨(h.step hstep).table, (h.step hstep).removed⟩

/-! ### Sends on open channels -/

/-- The streams that frames are on their way to are open. -/
structure OpenInv (s : State) : Prop where
  inflight : ∀ c r payload, s.inflight.lookup c = some (r, payload) →
    ∃ st, s.broker.heap[r]? = some st ∧ st.closed = false
  panicked : s.panicked = []

theorem openInv_init : OpenInv .init where
  inflight := nofun
  panicked := rfl

theorem OpenInv.of_heap (h : OpenInv s) (hinfl : t.inflight = s.inflight)
    (hpan : t.panicked = s.panicked)
    (hheap : ∀ c r payload st, s.inflight.lookup c = some (r, payload) → s.broker.heap[r]? =
      some st → st.closed = false → ∃ st', t.broker.heap[r]? = some st' ∧ st'.closed = false) :
      OpenInv t where
  inflight c r payload hc := by
    rw [hinfl] at hc
    obtain ⟨st, hst, hopen⟩ := h.inflight c r payload hc
    exact hheap c r payload st hc hst hopen
  panicked := hpan.trans h.panicked

/-- Undisturbed, a frame in flight finds its channel open. -/
theorem OpenInv.step (h : OpenInv s) (hinv : ClosingInv s) (hstep : step device s l = some t)
    (hund : Undisturbed s l) : OpenInv t := by
  cases l with
  | register =>
    cases hstep
    refine h.of_heap rfl rfl fun c r payload st _ hst hopen ↦ ⟨st, ?_, hopen⟩
    rw [register_heap_of_lt (List.getElem?_eq_some_iff.1 hst).1, hst]
  | remove =>
    simp only [Closing.step, State.remove] at hstep
    split at hstep
    · cases hstep
    · split at hstep <;> cases hstep
      · exact { h with }
      · exact h
  | close =>
    simp only [Closing.step, State.close] at hstep
    split at hstep <;> cases hstep
    next r hu =>
      refine h.of_heap rfl rfl fun c r' payload st hc hst hopen ↦ ⟨st, ?_, hopen⟩
      -- no frame is on its way to the closed channel
      have hne : r' ≠ r := by
        rintro rfl
        have hnone : s.approaching r' = [] := hund r' (by simp [hu])
        exact not_mem_nil (hnone ▸ mem_approaching hc)
      exact (getElem?_modify_ne _ _ (Ne.symm hne)).trans hst
  | lookup _ _ streamID =>
    obtain rfl | ⟨r, hrte, rfl⟩ := lookup_eq_some hstep
    · exact h
    · refine ⟨fun c' r' payload' hc' ↦ ?_, h.panicked⟩
      obtain ⟨rfl, heq⟩ | ⟨-, hold⟩ := GoMap.lookup_of_insert hc'
      · obtain ⟨rfl, -⟩ := Prod.mk.inj heq
        -- what the lookup finds is in the table, and open
        unfold route at hrte
        split at hrte
        next r₀ hlook =>
          obtain ⟨st, hst, -, hopen⟩ := hinv.table streamID r₀ hlook
          rw [hst] at hrte
          simp only at hrte
          split_ifs at hrte
          cases hrte
          exact ⟨st, hst, hopen⟩
        · cases hrte
      · exact h.inflight c' r' payload' hold
  | send c =>
    obtain ⟨r, payload, st, hc, hst, rfl⟩ := send_eq_some hstep
    refine ⟨fun c' r' payload' hc' ↦ ?_, ?_⟩
    · obtain ⟨st', hst', hopen⟩ := h.inflight c' r' payload' (GoMap.lookup_of_erase hc').2
      obtain ⟨content, hst''⟩ := (sameStreams_send hst).heap r' st' hst'
      exact ⟨_, hst'', hopen⟩
    · obtain ⟨st', hst', hopen⟩ := h.inflight c r payload hc
      rw [hst] at hst'
      cases hst'
      rw [if_neg (fun hpanics ↦ by simp [offer_eq_panicked_iff.1 hpanics] at hopen)]
      exact h.panicked
  | receive =>
    obtain ⟨⟨payload, _⟩, hrecv, rfl⟩ := map_eq_some_iff.1 hstep
    refine h.of_heap rfl rfl fun c r' payload' st _ hst hopen ↦ ?_
    obtain ⟨content, hst'⟩ := (receive_eq_some hrecv).1.heap r' st hst
    exact ⟨_, hst', hopen⟩

/-- **No send panics if no channel is closed between the lookup and the send of a frame.** -/
theorem neverPanics_of_undisturbed {ls : List Label}
    (hund : Along (step device) (fun s l _ ↦ Undisturbed s l) .init ls)
    (hrun : exec (step device) .init ls = some s) : NeverPanics s := by
  have h : ClosingInv s ∧ OpenInv s :=
    invariant_of_along (I := fun s ↦ ClosingInv s ∧ OpenInv s) (fun _ _ _ h hstep hund ↦
      ⟨h.1.step hstep, h.2.step h.1 hstep hund⟩) ⟨closingInv_init, openInv_init⟩ hrun hund
  exact ⟨h.2.panicked, closes_le_one hrun⟩

end Invariant

namespace Sample

/-- One device, with one connection. -/
def device : ConnID → UUID := fun _ ↦ 7

/-- A frame is sent, another one finds the stream, and the stream is removed. -/
def beforeClose : List Label :=
  [.register 5 7 1, .lookup 0 1 5 [1], .send 0, .lookup 0 1 5 [2], .remove 0 5]

end Sample

/-- The theorem applies to a stream closed after the last send. -/
theorem neverPanics_of_undisturbed_patient :
    ∃ s, exec (step Sample.device) .init (Sample.beforeClose ++ [.send 0, .close 0]) = some s ∧
      s.closes 0 = 1 ∧ NeverPanics s := by
  refine exists_of_exec (fun s ↦ s.closes 0 = 1) (by decide +kernel) fun s hrun h ↦ ?_
  exact ⟨h, neverPanics_of_undisturbed (by decide +kernel) hrun⟩

/-- **A send on a closed channel**: the stream is closed between the lookup and the send. -/
theorem not_neverPanics_closed :
    ∃ s, exec (step Sample.device) .init (Sample.beforeClose ++ [.close 0, .send 0]) = some s ∧
      s.panicked = [0] ∧ ¬ NeverPanics s := by
  refine exists_of_exec (fun s ↦ s.panicked = [0]) (by decide +kernel) fun s hrun hpan ↦ ?_
  refine ⟨hpan, fun hsafe ↦ ?_⟩
  rw [hsafe.1] at hpan
  cases hpan

end Closing

end WartungsRemote.Relay
