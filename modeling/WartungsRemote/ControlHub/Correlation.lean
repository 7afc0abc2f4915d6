import WartungsRemote.Device.Registry
import WartungsRemote.Text.Splitting
import WartungsRemote.Transition.Run

/-!
# Responses and their callers

`connection.pending`, with which a control connection finds out who waits for an envelope.
`sendAndWait` puts a channel into the map under the id of the message that it is about to write,
`waitForID` one under an id that it is given; both then wait for an envelope in the channel or for
the end of their time, and take the entry out again when they return. The read loop hands every
envelope to `tryDeliver`, which looks up the entry of its `request_id`, removes it under the lock,
and sends to the channel **after** the lock is released.

A channel belongs to one call and has room for one envelope. A `select` that waits takes an envelope
from the sender directly; one that has not started to wait yet finds it in the channel, and if its
time is up as well, either of the two may be chosen.

`given` is where an envelope is that was found to be for a call: with the read loop, in the channel,
or in the result. It never gets lost there, and no call is given two (`Correlated`), as long as the
ids of the calls are **different**. Calls are numbered by whoever starts them, envelopes in the
order in which they are read. `handled` are the envelopes that were passed on to `handleMessage`; no
step reads it.
-/

namespace WartungsRemote.ControlHub.Correlation

open Transition Function List Option

/-- `protocol.Envelope`: the id of the message that it refers to, and everything else. -/
structure Envelope (β : Type) where
  requestID : Option Text
  body : β
  deriving DecidableEq

/-- A call of `sendAndWait` or `waitForID`. -/
abbrev CallID : Type := ℕ

/-- A read envelope, with its number. -/
abbrev Arrival (β : Type) : Type := ℕ × Envelope β

/-- How far a call has come. -/
inductive Call (β : Type)
  /-- The entry is in the map, and the message is not written yet. -/
  | unsent (id : Text) (timeout : ℕ)
  /-- The entry is in the map, and there is nothing to write. -/
  | registered (id : Text) (timeout : ℕ)
  /-- Its time has started. -/
  | armed (id : Text) (deadline : ℕ)
  /-- It waits in its `select`. -/
  | parked (id : Text) (deadline : ℕ)
  /-- It has its result, and the entry is not removed yet. -/
  | returning (id : Text) (result : Option (Arrival β))
  | done (id : Text) (result : Option (Arrival β))
  deriving DecidableEq

/-- What the read loop does. -/
inductive Reader (β : Type)
  | reading
  /-- `tryDeliver` has removed the entry of a call and not sent to its channel yet. -/
  | delivering (call : CallID) (a : Arrival β)

structure State (β : Type) where
  now : ℕ
  /-- `connection.pending`, whose channels are named by the calls that they belong to. -/
  pending : GoMap Text CallID
  calls : CallID → Option (Call β)
  chans : CallID → Option (Arrival β)
  /-- The cancelled contexts of callers. -/
  cancelled : CallID → Bool
  reader : Reader β
  /-- How many envelopes were read. -/
  arrivals : ℕ
  handled : List (Arrival β)

def State.init (β : Type) : State β where
  now := 0
  pending := ∅
  calls _ := none
  chans _ := none
  cancelled _ := false
  reader := .reading
  arrivals := 0
  handled := []

inductive Label (β : Type)
  | tick (time : ℕ)
  /-- `sendAndWait` (which `sends` a message) or `waitForID` puts its channel into the map. -/
  | register (call : CallID) (id : Text) (timeout : ℕ) (sends : Bool)
  | write (call : CallID) (ok : Bool)
  /-- `context.WithTimeout`. -/
  | arm (call : CallID)
  /-- The `select` finds an envelope. -/
  | take (call : CallID)
  /-- The `select` finds nothing. -/
  | park (call : CallID)
  /-- The `select` finds the context done, or is woken up by it. -/
  | giveUp (call : CallID)
  /-- The deferred removal of the entry. -/
  | finish (call : CallID)
  | cancel (call : CallID)
  /-- The read loop gets an envelope, and `tryDeliver` looks for its entry. -/
  | read (env : Envelope β)
  /-- `tryDeliver` sends to the channel. -/
  | deliver

/-! ### Steps -/

section Steps

variable {β : Type}

namespace State

variable (s : State β)

def setCall (call : CallID) (c : Call β) : State β :=
  { s with calls := update s.calls call (some c) }

def setChan (call : CallID) (content : Option (Arrival β)) : State β :=
  { s with chans := update s.chans call content }

/-- `waitCtx.Done()`. -/
def ctxDone (call : CallID) (deadline : ℕ) : Bool :=
  s.cancelled call || decide (deadline ≤ s.now)

def register (call : CallID) (id : Text) (timeout : ℕ) (sends : Bool) : Option (State β) :=
  match s.calls call with
  | none =>
    some { s.setCall call (if sends then .unsent id timeout else .registered id timeout) with
      pending := s.pending.insert id call }
  | some _ => none

def write (call : CallID) (ok : Bool) : Option (State β) :=
  match s.calls call with
  | some (.unsent id timeout) =>
    some (s.setCall call (if ok then .registered id timeout else .returning id none))
  | _ => none

def arm (call : CallID) : Option (State β) :=
  match s.calls call with
  | some (.registered id timeout) => some (s.setCall call (.armed id (s.now + timeout)))
  | _ => none

def take (call : CallID) : Option (State β) :=
  match s.calls call, s.chans call with
  | some (.armed id _), some a => some ((s.setCall call (.returning id (some a))).setChan call none)
  | _, _ => none

def park (call : CallID) : Option (State β) :=
  match s.calls call, s.chans call with
  | some (.armed id deadline), none =>
    if s.ctxDone call deadline then none else some (s.setCall call (.parked id deadline))
  | _, _ => none

def giveUp (call : CallID) : Option (State β) :=
  match s.calls call with
  | some (.armed id deadline) | some (.parked id deadline) =>
    if s.ctxDone call deadline then some (s.setCall call (.returning id none)) else none
  | _ => none

def finish (call : CallID) : Option (State β) :=
  match s.calls call with
  | some (.returning id result) =>
    some { s.setCall call (.done id result) with pending := s.pending.erase id }
  | _ => none

/-- The first part of `tryDeliver`. -/
def read (env : Envelope β) : Option (State β) :=
  match s.reader with
  | .delivering _ _ => none
  | .reading =>
    let unmatched : State β :=
      { s with arrivals := s.arrivals + 1, handled := s.handled ++ [(s.arrivals, env)] }
    match env.requestID with
    | none => some unmatched
    | some id =>
      match s.pending.lookup id with
      | none => some unmatched
      | some call =>
        some { s with
          arrivals := s.arrivals + 1
          pending := s.pending.erase id
          reader := .delivering call (s.arrivals, env) }

/-- The second part of `tryDeliver`: to the waiting call, or into the channel if there is room. -/
def deliver : Option (State β) :=
  match s.reader with
  | .reading => none
  | .delivering call a =>
    let s' : State β := { s with reader := .reading }
    match s.calls call, s.chans call with
    | some (.parked id _), _ => some (s'.setCall call (.returning id (some a)))
    | _, none => some (s'.setChan call (some a))
    | _, some _ => some s'

end State

/-- One step of a connection and of the calls on it. -/
def step (s : State β) : Label β → Option (State β)
  | .tick time => some { s with now := s.now + time }
  | .register call id timeout sends => s.register call id timeout sends
  | .write call ok => s.write call ok
  | .arm call => s.arm call
  | .take call => s.take call
  | .park call => s.park call
  | .giveUp call => s.giveUp call
  | .finish call => s.finish call
  | .cancel call => some { s with cancelled := update s.cancelled call true }
  | .read env => s.read env
  | .deliver => s.deliver

end Steps

/-! ### Calls and what they are given -/

section Given

variable {β : Type}

namespace Call

def id : Call β → Text
  | unsent id _ | registered id _ | armed id _ | parked id _ | returning id _ | done id _ => id

/-- The envelope that the call returns. -/
def result? : Call β → Option (Arrival β)
  | returning _ result | done _ result => result
  | _ => none

def InProgress : Call β → Prop
  | done _ _ => False
  | _ => True

end Call

/-- The envelope that the read loop is about to send to the call's channel. -/
def Reader.towards (call : CallID) : Reader β → List (Arrival β)
  | .reading => []
  | .delivering call' a => if call' = call then [a] else []

/-- The envelopes found to be for a call. -/
def State.given (s : State β) (call : CallID) : List (Arrival β) :=
  s.reader.towards call ++ (s.chans call).toList ++ ((s.calls call).bind Call.result?).toList

/-- The id under which a step registers a call. -/
def Label.id? : Label β → Option Text
  | .register _ id _ _ => some id
  | _ => none

/-- The condition on a step: no call has the id that it registers. -/
def Fresh (s : State β) (l : Label β) : Prop :=
  ∀ id, l.id? = some id → ∀ call c, s.calls call = some c → c.id ≠ id

/-- What the map, the channels and the calls have to do with each other. -/
structure Correlated (s : State β) : Prop where
  ids : ∀ call call' c c', s.calls call = some c → s.calls call' = some c' → c.id = c'.id →
    call = call'
  /-- An entry of the map is for a call in progress, which was given nothing yet. -/
  pending : ∀ id call, s.pending.lookup id = some call →
    s.given call = [] ∧ ∃ c, s.calls call = some c ∧ c.id = id ∧ c.InProgress
  given_length : ∀ call, (s.given call).length ≤ 1
  /-- What a call is given refers to its id. -/
  given : ∀ call, ∀ a ∈ s.given call, a.1 < s.arrivals ∧ ∃ c, s.calls call = some c ∧
    a.2.requestID = some c.id
  given_inj : ∀ call call' a a', a ∈ s.given call → a' ∈ s.given call' → a.1 = a'.1 → call = call'
  /-- What is passed on is not given to anyone. -/
  handled : ∀ a ∈ s.handled, a.1 < s.arrivals ∧ ∀ call, ∀ a' ∈ s.given call, a'.1 ≠ a.1

theorem correlated_init : Correlated (State.init β) where
  ids := nofun
  pending := nofun
  given_length _ := Nat.zero_le _
  given := nofun
  given_inj := nofun
  handled := nofun

end Given

/-! ### What a step does -/

section Cases

variable {β : Type} {s t : State β} {l : Label β} {call : CallID}

/-- A call goes on by itself, from `c` to `c'`. -/
structure Advances (s t : State β) (call : CallID) (c c' : Call β) : Prop where
  before : s.calls call = some c
  progress : c.InProgress
  after : t.calls = update s.calls call (some c')
  id_eq : c'.id = c.id
  result : (t.chans call).toList ++ c'.result?.toList = (s.chans call).toList ++ c.result?.toList
  chans : ∀ other, other ≠ call → t.chans other = s.chans other
  reader : t.reader = s.reader
  arrivals : t.arrivals = s.arrivals
  handled : t.handled = s.handled
  pending : t.pending = s.pending ∧ c'.InProgress ∨ t.pending = s.pending.erase c.id

/-- The steps in which a call goes on. -/
def Label.advances? : Label β → Option CallID
  | .write call _ | .arm call | .take call | .park call | .giveUp call | .finish call => some call
  | _ => none

/-- **What a call does by itself.** -/
theorem advances_of_step (h : step s l = some t) (hl : l.advances? = some call) :
    ∃ c c', Advances s t call c c' := by
  cases l <;> cases hl <;> simp only [step] at h
  case write ok =>
    unfold State.write at h
    split at h <;> cases h
    next id timeout hcall =>
      cases ok <;> exact ⟨_, _, hcall, trivial, rfl, rfl, rfl, fun _ _ ↦ rfl, rfl, rfl, rfl,
        .inl ⟨rfl, trivial⟩⟩
  case arm =>
    unfold State.arm at h
    split at h <;> cases h
    next id timeout hcall =>
      exact ⟨_, _, hcall, trivial, rfl, rfl, rfl, fun _ _ ↦ rfl, rfl, rfl, rfl, .inl ⟨rfl, trivial⟩⟩
  case take =>
    unfold State.take at h
    split at h <;> cases h
    next id deadline a hcall hchan =>
      refine ⟨_, _, hcall, trivial, rfl, rfl, ?_, fun other hoth ↦ update_of_ne hoth _ _, rfl,
        rfl, rfl, .inl ⟨rfl, trivial⟩⟩
      simp [State.setChan, Call.result?, hchan]
  case park =>
    unfold State.park at h
    split at h
    · split_ifs at h
      cases h
      next id deadline hcall hchan _ =>
        exact ⟨_, _, hcall, trivial, rfl, rfl, rfl, fun _ _ ↦ rfl, rfl, rfl, rfl,
          .inl ⟨rfl, trivial⟩⟩
    · cases h
  case giveUp =>
    unfold State.giveUp at h
    split at h
    · split_ifs at h
      cases h
      next id deadline hcall _ =>
        exact ⟨_, _, hcall, trivial, rfl, rfl, rfl, fun _ _ ↦ rfl, rfl, rfl, rfl,
          .inl ⟨rfl, trivial⟩⟩
    · split_ifs at h
      cases h
      next id deadline hcall _ =>
        exact ⟨_, _, hcall, trivial, rfl, rfl, rfl, fun _ _ ↦ rfl, rfl, rfl, rfl,
          .inl ⟨rfl, trivial⟩⟩
    · cases h
  case finish =>
    unfold State.finish at h
    split at h <;> cases h
    next id result hcall =>
      exact ⟨_, _, hcall, trivial, rfl, rfl, rfl, fun _ _ ↦ rfl, rfl, rfl, rfl, .inr rfl⟩

/-- What a step finds and does. -/
inductive Step (s : State β) : Label β → State β → Prop
  | tick {time} : Step s (.tick time) { s with now := s.now + time }
  | cancel {call : CallID} :
      Step s (.cancel call) { s with cancelled := update s.cancelled call true }
  | register {call : CallID} {timeout sends} {c : Call β} (new : s.calls call = none)
      (progress : c.InProgress) (result : c.result? = none) :
      Step s (.register call c.id timeout sends)
        { s.setCall call c with pending := s.pending.insert c.id call }
  | unmatched {env} (free : env.requestID.bind s.pending.lookup = none) :
      Step s (.read env)
        { s with arrivals := s.arrivals + 1, handled := s.handled ++ [(s.arrivals, env)] }
  | matched {call : CallID} {env id} (reader : s.reader = .reading)
      (id_eq : env.requestID = some id) (entry : s.pending.lookup id = some call) :
      Step s (.read env)
        { s with
          arrivals := s.arrivals + 1
          pending := s.pending.erase id
          reader := .delivering call (s.arrivals, env) }
  /-- The waiting call gets the envelope. -/
  | handed {call : CallID} {a id deadline} (reader : s.reader = .delivering call a)
      (parked : s.calls call = some (.parked id deadline)) :
      Step s .deliver ({ s with reader := .reading }.setCall call (.returning id (some a)))
  /-- The envelope goes into the channel. -/
  | queued {call : CallID} {a} (reader : s.reader = .delivering call a)
      (busy : ∀ id deadline, s.calls call ≠ some (.parked id deadline)) :
      Step s .deliver ({ s with reader := .reading }.setChan call (some a))
  | advance {l : Label β} {t : State β} {call : CallID} {c c'} (label : l.advances? = some call)
      (advances : Advances s t call c c') : Step s l t

/-- A call to which an envelope is on its way has none yet. -/
theorem Correlated.empty_of_delivering (hs : Correlated s) {a : Arrival β}
    (h : s.reader = .delivering call a) :
    s.chans call = none ∧ (s.calls call).bind Call.result? = none := by
  have hlen := hs.given_length call
  simp only [State.given, h, Reader.towards, if_pos, length_append, length_singleton] at hlen
  have hchan : (s.chans call).toList.length = 0 := by omega
  have hres : ((s.calls call).bind Call.result?).toList.length = 0 := by omega
  exact ⟨toList_eq_nil_iff.1 (length_eq_zero_iff.1 hchan), toList_eq_nil_iff.1
    (length_eq_zero_iff.1 hres)⟩

/-- **`tryDeliver` always gets rid of its envelope**: the call has it, or it is in the call's
channel. -/
theorem step_cases (hs : Correlated s) (h : step s l = some t) : Step s l t := by
  cases l with
  | tick | cancel => cases h; constructor
  | register _ id timeout sends =>
    simp only [step, State.register] at h
    split at h
    next hcall =>
      cases h
      cases sends with
      | false => exact .register (c := .registered id timeout) hcall trivial rfl
      | true => exact .register (c := .unsent id timeout) hcall trivial rfl
    · cases h
  | read env =>
    simp only [step, State.read] at h
    split at h
    · cases h
    next hread =>
      split at h
      next hid => exact some.inj h ▸ .unmatched (by rw [hid]; rfl)
      next id hid =>
        split at h
        next hlook => exact some.inj h ▸ .unmatched (by rw [hid]; exact hlook)
        next hlook => exact some.inj h ▸ .matched hread hid hlook
  | deliver =>
    simp only [step, State.deliver] at h
    split at h
    · cases h
    next hread =>
      have hemp := (hs.empty_of_delivering hread).1
      split at h
      next hcall => exact some.inj h ▸ .handed hread hcall
      next hcall => exact some.inj h ▸ .queued hread hcall
      next hchan _ => rw [hemp] at hchan; cases hchan
  | write | arm | take | park | giveUp | finish =>
    obtain ⟨_, _, hadv⟩ := advances_of_step h rfl
    exact .advance rfl hadv

end Cases

/-! ### The invariant -/

section Invariant

variable {β : Type} {s t : State β} {l : Label β} {call : CallID}

theorem Correlated.of_given (hs : Correlated s)
    (hcalls : ∀ call, (t.calls call).map Call.id = (s.calls call).map Call.id)
    (hgiv : ∀ call, t.given call = s.given call) (harrivals : t.arrivals = s.arrivals)
    (hhand : t.handled = s.handled) (hpend : ∀ id call, t.pending.lookup id = some call →
      s.pending.lookup id = some call ∧ ∀ c, t.calls call = some c → c.InProgress) :
      Correlated t := by
  -- a call of either state is one of the other, with the same id
  have hback : ∀ call c, t.calls call = some c → ∃ c', s.calls call = some c' ∧ c'.id = c.id := by
    intro call c hc
    have hid := hcalls call
    rw [hc, map_some, eq_comm, map_eq_some_iff] at hid
    exact hid
  have hforth : ∀ call c, s.calls call = some c → ∃ c', t.calls call = some c' ∧ c'.id = c.id := by
    intro call c hc
    have hid := hcalls call
    rw [hc, map_some, map_eq_some_iff] at hid
    exact hid
  refine ⟨?_, ?_, ?_, ?_, ?_, ?_⟩
  · intro call call' c c' hc hc' hid
    obtain ⟨c₀, hc₀, hid₀⟩ := hback call c hc
    obtain ⟨c₁, hc₁, hid₁⟩ := hback call' c' hc'
    exact hs.ids call call' c₀ c₁ hc₀ hc₁ (by rw [hid₀, hid₁, hid])
  · intro id call hlook
    obtain ⟨hlook, hprog⟩ := hpend id call hlook
    obtain ⟨hnil, c, hc, hid, -⟩ := hs.pending id call hlook
    obtain ⟨c', hc', hid'⟩ := hforth call c hc
    exact ⟨(hgiv call).trans hnil, c', hc', hid'.trans hid, hprog c' hc'⟩
  · intro call
    rw [hgiv]
    exact hs.given_length call
  · intro call a ha
    rw [hgiv] at ha
    obtain ⟨hlt, c, hc, hid⟩ := hs.given call a ha
    obtain ⟨c', hc', hid'⟩ := hforth call c hc
    exact ⟨harrivals ▸ hlt, c', hc', by rw [hid, hid']⟩
  · simpa only [hgiv] using hs.given_inj
  · simpa only [hgiv, harrivals, hhand] using hs.handled

variable {c : Call β}

theorem given_of_advances {c' : Call β} (h : Advances s t call c c') (other : CallID) :
    t.given other = s.given other := by
  by_cases hoth : other = call
  · subst hoth
    have hres := h.result
    simp only [State.given, h.reader, h.after, h.before, update_self, bind_some, append_assoc, hres]
  · simp only [State.given, h.reader, h.chans other hoth, h.after, update_of_ne hoth]

theorem map_id_of_update (c' : Call β) (hc : s.calls call = some c)
    (ht : t.calls = update s.calls call (some c')) (hid : c'.id = c.id) (other : CallID) :
    (t.calls other).map Call.id = (s.calls other).map Call.id := by
  rw [ht]
  by_cases hoth : other = call
  · rw [hoth, update_self, hc, map_some, map_some, hid]
  · rw [update_of_ne hoth]

section

variable (hs : Correlated s)
include hs

theorem Correlated.advance {c' : Call β} (h : Advances s t call c c') : Correlated t := by
  refine hs.of_given (map_id_of_update _ h.before h.after h.id_eq) (given_of_advances h) h.arrivals
    h.handled ?_
  · intro id other hlook
    obtain ⟨hpend, hprog⟩ | herase := h.pending
    · rw [hpend] at hlook
      refine ⟨hlook, fun c₁ hc₁ ↦ ?_⟩
      obtain ⟨-, c₀, hc₀, -, hprog₀⟩ := hs.pending id other hlook
      rw [h.after] at hc₁
      by_cases hoth : other = call
      · rw [hoth, update_self] at hc₁
        exact some.inj hc₁ ▸ hprog
      · rw [update_of_ne hoth, hc₀] at hc₁
        exact some.inj hc₁ ▸ hprog₀
    · -- the entry that goes is the call's own
      rw [herase] at hlook
      obtain ⟨hne, hlook⟩ := GoMap.lookup_of_erase hlook
      refine ⟨hlook, fun c₁ hc₁ ↦ ?_⟩
      obtain ⟨-, c₀, hc₀, hid₀, hprog₀⟩ := hs.pending id other hlook
      have hoth : other ≠ call := by
        rintro rfl
        rw [h.before] at hc₀
        exact hne (hid₀ ▸ some.inj hc₀ ▸ rfl)
      rw [h.after, update_of_ne hoth, hc₀] at hc₁
      exact some.inj hc₁ ▸ hprog₀

theorem Correlated.given_eq_nil (h : s.calls call = none) : s.given call = [] := by
  refine eq_nil_iff_forall_not_mem.2 fun a ha ↦ ?_
  obtain ⟨-, c, hc, -⟩ := hs.given call a ha
  rw [h] at hc
  cases hc

theorem Correlated.register (hcall : s.calls call = none)
    (hnew : ∀ other c', s.calls other = some c' → c'.id ≠ c.id) (hprog : c.InProgress)
    (hres : c.result? = none) :
    Correlated { s.setCall call c with pending := s.pending.insert c.id call } := by
  have hne : ∀ other c', s.calls other = some c' → other ≠ call := by
    rintro other c' hc' rfl
    rw [hcall] at hc'
    cases hc'
  have hold : ∀ other c', s.calls other = some c' → (s.setCall call c).calls other = some c' :=
    fun other c' hc' ↦ (update_of_ne (hne other c' hc') _ _).trans hc'
  have hcas : ∀ other c', (s.setCall call c).calls other = some c' →
      other = call ∧ c' = c ∨ s.calls other = some c' := by
    intro other c' hc'
    obtain ⟨rfl, ⟨⟩⟩ | ⟨-, hold⟩ := update_apply_eq_iff.1 hc'
    · exact .inl ⟨rfl, rfl⟩
    · exact .inr hold
  have hgiv : ∀ other,
      State.given { s.setCall call c with pending := s.pending.insert c.id call } other =
          s.given other := by
    intro other
    by_cases hoth : other = call
    · subst hoth
      simp [State.given, State.setCall, hcall, hres]
    · simp [State.given, State.setCall, update_of_ne hoth]
  refine ⟨?_, ?_, ?_, ?_, ?_, ?_⟩
  · intro other other' c₁ c₁' hc₁ hc₁' hid
    obtain ⟨rfl, rfl⟩ | hold₁ := hcas other c₁ hc₁
    · obtain ⟨rfl, -⟩ | hold₁' := hcas other' c₁' hc₁'
      · rfl
      · exact absurd hid.symm (hnew other' c₁' hold₁')
    · obtain ⟨rfl, rfl⟩ | hold₁' := hcas other' c₁' hc₁'
      · exact absurd hid (hnew other c₁ hold₁)
      · exact hs.ids other other' c₁ c₁' hold₁ hold₁' hid
  · intro id other hlook
    obtain ⟨rfl, rfl⟩ | ⟨-, hlook⟩ := GoMap.lookup_of_insert hlook
    · exact ⟨(hgiv other).trans (hs.given_eq_nil hcall), c, update_self other _ _, rfl, hprog⟩
    · obtain ⟨hnil, c', hc', hid', hprog'⟩ := hs.pending id other hlook
      exact ⟨(hgiv other).trans hnil, c', hold other c' hc', hid', hprog'⟩
  · intro other
    rw [hgiv]
    exact hs.given_length other
  · intro other a ha
    rw [hgiv] at ha
    obtain ⟨hlt, c', hc', hid⟩ := hs.given other a ha
    exact ⟨hlt, c', hold other c' hc', hid⟩
  · simpa only [hgiv] using hs.given_inj
  · intro a ha
    obtain ⟨hlt, hnot⟩ := hs.handled a ha
    exact ⟨hlt, fun other a' ha' ↦ hnot other a' (hgiv other ▸ ha')⟩

theorem Correlated.unmatched (env : Envelope β) :
    Correlated { s with arrivals := s.arrivals + 1, handled := s.handled ++ [(s.arrivals, env)] }
      where
  ids := hs.ids
  pending := hs.pending
  given_length := hs.given_length
  given call a ha := (hs.given call a ha).imp_left Nat.lt_succ_of_lt
  given_inj := hs.given_inj
  handled a ha := by
    obtain ha | rfl := mem_snoc.1 ha
    · exact (hs.handled a ha).imp_left Nat.lt_succ_of_lt
    · exact ⟨Nat.lt_succ_self _, fun call a' ha' ↦ Nat.ne_of_lt (hs.given call a' ha').1⟩

theorem Correlated.matched (hread : s.reader = .reading) {env : Envelope β} {id : Text}
    (hid : env.requestID = some id) (hlook : s.pending.lookup id = some call) : Correlated { s with
      arrivals := s.arrivals + 1
      pending := s.pending.erase id
      reader := .delivering call (s.arrivals, env) } := by
  set t : State β := { s with
    arrivals := s.arrivals + 1
    pending := s.pending.erase id
    reader := .delivering call (s.arrivals, env) }
  obtain ⟨hnil, c, hc, hcid, -⟩ := hs.pending id call hlook
  have hself : t.given call = [(s.arrivals, env)] := by
    simp only [State.given, hread, Reader.towards, nil_append] at hnil
    simp only [State.given, t, Reader.towards, if_pos, append_assoc, hnil, append_nil]
  have hoth : ∀ other, other ≠ call → t.given other = s.given other := by
    intro other hne
    simp only [State.given, t, hread, Reader.towards, if_neg (Ne.symm hne)]
  -- everything given is the new envelope, or was given before and has a smaller number
  have hcas : ∀ other, ∀ a ∈ t.given other,
      other = call ∧ a = (s.arrivals, env) ∨ other ≠ call ∧ a ∈ s.given other := by
    intro other a ha
    by_cases hne : other = call
    · subst hne
      rw [hself, mem_singleton] at ha
      exact .inl ⟨rfl, ha⟩
    · exact .inr ⟨hne, hoth other hne ▸ ha⟩
  refine ⟨hs.ids, ?_, ?_, ?_, ?_, ?_⟩
  · intro id' other hlook'
    obtain ⟨hne, hlook'⟩ := GoMap.lookup_of_erase hlook'
    obtain ⟨hnil', c', hc', hid', hprog⟩ := hs.pending id' other hlook'
    refine ⟨?_, c', hc', hid', hprog⟩
    rw [hoth other, hnil']
    rintro rfl
    rw [hc] at hc'
    exact hne (by rw [← hid', ← hcid, some.inj hc'])
  · intro other
    by_cases hne : other = call
    · rw [hne, hself]
      exact Nat.le_refl 1
    · rw [hoth other hne]
      exact hs.given_length other
  · intro other a ha
    obtain ⟨rfl, rfl⟩ | ⟨-, hold⟩ := hcas other a ha
    · exact ⟨Nat.lt_succ_self _, c, hc, by rw [hid, hcid]⟩
    · exact (hs.given other a hold).imp_left Nat.lt_succ_of_lt
  · intro other other' a a' ha ha' hnumber
    obtain ⟨rfl, rfl⟩ | ⟨-, hold⟩ := hcas other a ha
    · obtain ⟨rfl, -⟩ | ⟨-, hold'⟩ := hcas other' a' ha'
      · rfl
      · exact absurd hnumber.symm (Nat.ne_of_lt (hs.given other' a' hold').1)
    · obtain ⟨rfl, rfl⟩ | ⟨-, hold'⟩ := hcas other' a' ha'
      · exact absurd hnumber (Nat.ne_of_lt (hs.given other a hold).1)
      · exact hs.given_inj other other' a a' hold hold' hnumber
  · intro a ha
    obtain ⟨hlt, hgiv⟩ := hs.handled a ha
    refine ⟨Nat.lt_succ_of_lt hlt, fun other a' ha' ↦ ?_⟩
    obtain ⟨rfl, rfl⟩ | ⟨-, hold⟩ := hcas other a' ha'
    · exact Nat.ne_of_gt hlt
    · exact hgiv other a' hold

/-- The send moves an envelope from the read loop to the call or its channel. -/
theorem Correlated.given_of_deliver (h : Correlation.step s .deliver = some t) (other : CallID) :
    t.given other = s.given other := by
  cases step_cases hs h with
  | @handed call _ _ _ hread hcall =>
    have hchan := (hs.empty_of_delivering hread).1
    by_cases hoth : other = call
    · subst hoth
      simp [State.given, State.setCall, Reader.towards, hread, hchan, hcall, Call.result?]
    · simp [State.given, State.setCall, Reader.towards, hread, update_of_ne hoth, Ne.symm hoth]
  | @queued call _ hread =>
    obtain ⟨hchan, hres⟩ := hs.empty_of_delivering hread
    by_cases hoth : other = call
    · subst hoth
      simp [State.given, State.setChan, Reader.towards, hread, hchan, hres]
    · simp [State.given, State.setChan, Reader.towards, hread, update_of_ne hoth, Ne.symm hoth]
  | advance hl => cases hl

/-- **Every step keeps the invariant**, if it does not register an id that is taken. -/
theorem Correlated.step (h : step s l = some t) (hnew : Fresh s l) : Correlated t := by
  cases step_cases hs h with
  | tick | cancel => exact { hs with }
  | register hcall hprog hres => exact hs.register hcall (hnew _ rfl) hprog hres
  | unmatched => exact hs.unmatched _
  | matched hread hid hlook => exact hs.matched hread hid hlook
  | @handed call a id _ _ hcall =>
    refine hs.of_given (map_id_of_update (.returning id (some a)) hcall rfl rfl)
      (hs.given_of_deliver h) rfl rfl fun id' other hlook ↦ ⟨hlook, fun c hc ↦ ?_⟩
    obtain ⟨-, c₀, hc₀, -, hprog⟩ := hs.pending id' other hlook
    obtain ⟨-, ⟨⟩⟩ | ⟨-, hc⟩ := update_apply_eq_iff.1 hc
    · trivial
    · exact some.inj (hc₀.symm.trans hc) ▸ hprog
  | queued =>
    refine hs.of_given (fun _ ↦ rfl) (hs.given_of_deliver h) rfl rfl fun id' other hlook ↦ ?_
    obtain ⟨-, c₀, hc₀, -, hprog⟩ := hs.pending id' other hlook
    exact ⟨hlook, fun c hc ↦ some.inj (hc₀.symm.trans hc) ▸ hprog⟩
  | advance _ hadv => exact hs.advance hadv

section

variable (h : Correlation.step s l = some t)
include h

theorem Correlated.given_subset_of_step (call : CallID) : s.given call ⊆ t.given call := by
  cases step_cases hs h with
  | tick | cancel | unmatched => exact Subset.refl _
  | @register call' _ _ _ hcall =>
    by_cases hcall' : call = call'
    · rw [hcall', hs.given_eq_nil hcall]
      exact nil_subset _
    · simp [State.given, State.setCall, update_of_ne hcall']
  | matched hread =>
    simp only [State.given, hread, Reader.towards, nil_append, append_assoc]
    exact subset_append_right _ _
  | handed | queued => rw [hs.given_of_deliver h]; exact Subset.refl _
  | advance _ hadv => rw [given_of_advances hadv]; exact Subset.refl _

theorem Correlated.map_id_of_step (hl : l.id? = none) (call : CallID) :
    (t.calls call).map Call.id = (s.calls call).map Call.id := by
  cases step_cases hs h with
  | register => cases hl
  | @handed _ a id _ _ hcall => exact map_id_of_update (.returning id (some a)) hcall rfl rfl call
  | advance _ hadv => exact map_id_of_update _ hadv.before hadv.after hadv.id_eq call
  | _ => rfl

/-- A call stays as it is, goes on by itself, or gets an envelope for which it is parked. -/
theorem Correlated.call_of_step (hc : s.calls call = some c) : t.calls call = some c ∨
    l.advances? = some call ∨
      ∃ id deadline, c = .parked id deadline := by
  have hoth : ∀ {call'} {c' : Call β}, call ≠ call' → (s.setCall call' c').calls call = some c :=
    fun hne ↦ (update_of_ne hne _ _).trans hc
  cases step_cases hs h with
  | register hnone =>
    refine .inl (hoth ?_)
    rintro rfl
    cases hnone.symm.trans hc
  | @handed call' _ id deadline _ hcall =>
    by_cases hne : call = call'
    · subst hne
      exact .inr (.inr ⟨id, deadline, some.inj (hc.symm.trans hcall)⟩)
    · exact .inl (hoth hne)
  | @advance _ _ call' _ _ hl hadv =>
    by_cases hne : call = call'
    · exact .inr (.inl (hne ▸ hl))
    · exact .inl (by rw [hadv.after, update_of_ne hne, hc])
  | _ => exact .inl hc

theorem Correlated.calls_of_step (hc : s.calls call = some c) (hdone : ¬ c.InProgress) :
    t.calls call = some c := by
  obtain hc' | hown | ⟨_, _, rfl⟩ := hs.call_of_step h hc
  · exact hc'
  · obtain ⟨_, _, hadv⟩ := advances_of_step h hown
    rw [hadv.before] at hc
    exact absurd (some.inj hc ▸ hadv.progress) hdone
  · exact absurd trivial hdone

theorem Correlated.id_of_step (hc : t.calls call = some c) : l.id? = some c.id ∨
    ∃ c', s.calls call = some c' ∧ c'.id = c.id := by
  cases hl : l.id? with
  | none =>
    have hid := hs.map_id_of_step h hl call
    rw [hc, map_some, eq_comm, map_eq_some_iff] at hid
    exact .inr hid
  | some =>
    cases l <;> cases hl
    cases step_cases hs h with
    | register =>
      obtain ⟨-, ⟨⟩⟩ | ⟨-, hold⟩ := update_apply_eq_iff.1 hc
      · exact .inl rfl
      · exact .inr ⟨c, hold, rfl⟩
    | advance hl => cases hl

end

end

end Invariant

/-! ### Runs -/

section Runs

variable {β : Type} {s : State β} {ls : List (Label β)}

/-- In a run with different ids, no step registers one that is taken. -/
theorem along_fresh (hs : Correlated s) (hids : (ls.filterMap Label.id?).Nodup)
    (hnew : ∀ call c, s.calls call = some c → c.id ∉ ls.filterMap Label.id?) :
    Along step (fun s l _ ↦ Fresh s l) s ls := by
  induction ls generalizing s with
  | nil => trivial
  | cons l ls ih =>
    intro t ht
    have hfresh : Fresh s l := by
      intro id hid call c hc hcid
      exact hnew call c hc (mem_filterMap.2 ⟨l, mem_cons_self, hcid ▸ hid⟩)
    have htail : (ls.filterMap Label.id?).Nodup := by
      rw [filterMap_cons] at hids
      split at hids
      · exact hids
      · exact hids.of_cons
    refine ⟨hfresh, ih (hs.step ht hfresh) htail fun call c hc hmem ↦ ?_⟩
    obtain hid | ⟨c', hc', hid⟩ := hs.id_of_step ht hc
    · rw [filterMap_cons, hid] at hids
      exact (nodup_cons.1 hids).1 hmem
    · refine hnew call c' hc' ?_
      rw [filterMap_cons]
      split
      · exact hid ▸ hmem
      · exact mem_cons_of_mem _ (hid ▸ hmem)

/-- What a step does with an envelope for a call: it is put into the call's channel, or the waiting
call gets it; it is not passed on or taken away. -/
def Delivers (s : State β) (l : Label β) (t : State β) : Prop :=
  (∀ call, s.given call ⊆ t.given call) ∧
    match l with
    | .read env => ∀ id call, env.requestID = some id → s.pending.lookup id = some call →
        t.handled = s.handled ∧ t.reader = .delivering call (s.arrivals, env)
    | .deliver => ∀ call a, s.reader = .delivering call a → t.handled = s.handled ∧
        (t.chans call = some a ∨ ∃ id, t.calls call = some (.returning id (some a)))
    | _ => t.handled = s.handled

theorem Correlated.delivers {l : Label β} {t : State β} (hs : Correlated s)
    (h : Correlation.step s l = some t) :
    Delivers s l t := by
  refine ⟨hs.given_subset_of_step h, ?_⟩
  cases step_cases hs h with
  | tick | cancel | register => rfl
  | unmatched hnone =>
    intro id call hid hlook
    rw [hid, bind_some, hlook] at hnone
    cases hnone
  | matched _ hid' hlook' =>
    intro id call hid hlook
    cases hid.symm.trans hid'
    cases hlook.symm.trans hlook'
    exact ⟨rfl, rfl⟩
  | handed hread' =>
    intro call a hread
    cases hread.symm.trans hread'
    exact ⟨rfl, .inr ⟨_, update_self _ _ _⟩⟩
  | queued hread' =>
    intro call a hread
    cases hread.symm.trans hread'
    exact ⟨rfl, .inl (update_self _ _ _)⟩
  | advance hl hadv => cases l <;> cases hl <;> exact hadv.handled

theorem exists_deliver {call : CallID} {a : Arrival β} (h : s.reader = .delivering call a) :
    ∃ t, step s .deliver = some t ∧ t.reader = .reading := by
  simp only [step, State.deliver, h]
  split <;> exact ⟨_, rfl, rfl⟩

theorem mem_given_of_done {call : CallID} {id : Text} {a : Arrival β}
    (h : s.calls call = some (.done id (some a))) : a ∈ s.given call := by
  simp [State.given, h, Call.result?]

/-- **Responses reach their callers**: in every run in which the ids of the calls are different,

* an envelope that arrives while its id is registered is put into the channel of the call, and is
  never passed on; the send does not block;
* a call returns only envelopes with its id, and no two calls return the same;
* the map has entries of calls in progress only. -/
theorem responses_reach_callers (hrun : exec step (State.init β) ls = some s)
    (hids : (ls.filterMap Label.id?).Nodup) : Along step Delivers (State.init β) ls ∧
      (∀ call, ∀ a ∈ s.given call, ∀ a' ∈ s.handled, a.1 ≠ a'.1) ∧
      (∀ call a, s.reader = .delivering call a → ∃ t, step s .deliver = some t ∧
        t.reader = .reading) ∧
      (∀ call id a, s.calls call = some (.done id (some a)) → a.2.requestID = some id) ∧
      (∀ call call' id id' a a', s.calls call = some (.done id (some a)) →
        s.calls call' = some (.done id' (some a')) → a.1 = a'.1 → call = call') ∧
      (∀ id call, s.pending.lookup id = some call → ∃ c, s.calls call = some c ∧ c.id = id ∧
        c.InProgress) ∧
      ((∀ call c, s.calls call = some c → ¬ c.InProgress) → s.pending.keys = []) := by
  have hnew := along_fresh correlated_init hids nofun
  have hs : Correlated s :=
    invariant_of_along (fun _ _ _ hs h hnew ↦ hs.step h hnew) correlated_init hrun hnew
  have hpend : ∀ id call, s.pending.lookup id = some call →
      ∃ c, s.calls call = some c ∧ c.id = id ∧ c.InProgress :=
        fun id call h ↦ (hs.pending id call h).2
  refine ⟨?_, ?_, fun call a h ↦ exists_deliver h, ?_, ?_, hpend, ?_⟩
  · exact along_of_invariant (fun _ _ _ hs h hnew ↦ hs.step h hnew) (fun _ _ _ hs h _ ↦
      hs.delivers h) correlated_init hnew
  · exact fun call a ha a' ha' ↦ (hs.handled a' ha').2 call a ha
  · intro call id a hcall
    obtain ⟨-, c, hc, hid⟩ := hs.given call a (mem_given_of_done hcall)
    cases hcall.symm.trans hc
    exact hid
  · intro call call' id id' a a' hcall hcall'
    exact hs.given_inj call call' a a' (mem_given_of_done hcall) (mem_given_of_done hcall')
  · intro hnone
    refine eq_nil_iff_forall_not_mem.2 fun id hid ↦ ?_
    obtain ⟨call, hlook⟩ := isSome_iff_exists.1 (AList.lookup_isSome.2 (AList.mem_keys.2 hid))
    obtain ⟨c, hc, -, hprog⟩ := hpend id call hlook
    exact hnone call c hc hprog

namespace Sample

/-- One call sends a message and another waits. The responses come in the other order, and the first
call has given up before its own is sent to it. -/
def labels : List (Label ℕ) :=
  [.register 0 ['a'] 10 true, .register 1 ['b'] 30 false, .write 0 true, .arm 0, .park 0, .arm 1,
    .read ⟨some ['b'], 7⟩, .deliver, .take 1, .finish 1, .read ⟨some ['a'], 8⟩, .tick 10, .giveUp 0,
    .finish 0, .deliver, .read ⟨some ['a'], 9⟩]

end Sample

/-- The theorem applies to a run with two calls, of which one returns an envelope. -/
theorem responses_reach_callers_two : ∃ s, exec step (State.init ℕ) Sample.labels = some s ∧
      s.calls 1 = some (.done ['b'] (some (0, ⟨some ['b'], 7⟩))) ∧
        s.calls 0 = some (.done ['a'] none) ∧
      (∀ call id a, s.calls call = some (.done id (some a)) → a.2.requestID = some id) ∧
      s.handled = [(2, ⟨some ['a'], 9⟩)] := by
  refine exists_of_exec (fun s ↦ s.calls 1 = some (.done ['b'] (some (0, ⟨some ['b'], 7⟩))) ∧
        s.calls 0 = some (.done ['a'] none) ∧ s.handled = [(2, ⟨some ['a'], 9⟩)])
          (by decide +kernel)
    fun s hrun ⟨hone, hzero, hhand⟩ ↦ ?_
  obtain ⟨-, -, -, hres, -⟩ := responses_reach_callers hrun (by decide +kernel)
  exact ⟨hone, hzero, hres, hhand⟩

end Runs

end WartungsRemote.ControlHub.Correlation
