import WartungsRemote.Transition.Run

/-!
# Downloads

The agent reads a file in chunks and sends each one as a frame, then an empty frame
(`pumpFileDownload`). The relay puts the frames into the channel of the download's stream, and
`handleFilesDownload` writes what it takes from the channel to the HTTP response. When it takes the
empty frame, or finds the channel closed, it records the event `file.download` with the result
success.

Two different things end in that event without being a complete download. `pumpFileDownload` leaves
its loop at **any** error of `Read` and then sends the empty frame, so a read that fails looks like
the end of the file. And so does a stream that is unregistered while the handler waits.

The relay delivers every frame in order, as long as the stream is registered. The agent may
disconnect at any time, and some of the frames on their way are lost then; a write to the response
may fail, and the handler may run out of time.
-/

namespace WartungsRemote.Server.Download

open Transition List Option

/-- The error that ends the reads. -/
inductive ReadEnd
  /-- `io.EOF`. -/
  | eof
  | failure
  deriving DecidableEq

/-- How far `pumpFileDownload` has come. -/
inductive Pump
  | reading
  /-- Out of the loop; the empty frame is not sent. -/
  | ended (e : ReadEnd)
  /-- It has returned; `e` is the error of its last read. -/
  | finished (e : Option ReadEnd)
  deriving DecidableEq

/-- How the reads have ended. -/
def Pump.readEnd : Pump → Option ReadEnd
  | reading => none
  | ended e => some e
  | finished e => e

/-- The loop goes on, or is left. -/
def Pump.after : Option ReadEnd → Pump
  | none => reading
  | some e => ended e

/-- How far the loop of `handleFilesDownload` has come. -/
inductive Handler
  | streaming
  | recorded
  /-- A write has failed, or the time is up. -/
  | stopped
  deriving DecidableEq

structure State where
  pump : Pump
  /-- The bytes that the reads have returned. -/
  content : List UInt8
  connected : Bool
  /-- The frames between the agent and the relay. -/
  wire : List (List UInt8)
  /-- The stream is in the table; if it is not, its channel is closed. -/
  registered : Bool
  channel : List (List UInt8)
  handler : Handler
  /-- The bytes written to the response. -/
  written : List UInt8

def State.init : State where
  pump := .reading
  content := []
  connected := true
  wire := []
  registered := true
  channel := []
  handler := .streaming
  written := []

inductive Label
  /-- `Read` returns a chunk and an error or none; a chunk is written as a frame, or not. -/
  | read (chunk : List UInt8) (err : Option ReadEnd) (sent : Bool)
  /-- The agent writes the empty frame, or does not succeed in it. -/
  | marker (sent : Bool)
  /-- The agent disconnects; of the frames on their way the first ones arrive. -/
  | disconnect (arriving : ℕ)
  /-- `handleInbound` gets the next frame. -/
  | inbound
  | unregister
  /-- The handler takes a frame; its write to the response succeeds, or fails after some bytes. -/
  | receive (failure : Option ℕ)
  /-- `ctx.Done()`. -/
  | timeout

namespace State

variable (s : State)

/-- The size of the buffer. -/
def bufferSize : ℕ := 64 * 1024

/-- A frame is written, which does not succeed after a disconnect. -/
def canSend (sent : Bool) : Bool :=
  !sent || s.connected

/-- One pass of the loop. -/
def read (chunk : List UInt8) (err : Option ReadEnd) (sent : Bool) : Option State :=
  match s.pump with
  | .reading =>
    if bufferSize < chunk.length ∨ s.canSend sent = false then none
    else if chunk = [] then some { s with pump := .after err }
    else if sent then
      some { s with pump := .after err, content := s.content ++ chunk, wire := s.wire ++ [chunk] }
    else some { s with pump := .finished err, content := s.content ++ chunk }
  | _ => none

def marker (sent : Bool) : Option State :=
  match s.pump with
  | .ended e =>
    if s.canSend sent = false then none
    else some { s with pump := .finished (some e), wire := if sent then s.wire ++ [[]] else s.wire }
  | _ => none

/-- A frame for a stream that is not registered is dropped. -/
def inbound : Option State :=
  match s.wire with
  | [] => none
  | frame :: wire =>
    if s.registered then some { s with wire, channel := s.channel ++ [frame] }
    else some { s with wire }

/-- One pass of the loop: an empty chunk is the end, and so is a closed channel. -/
def receive (failure : Option ℕ) : Option State :=
  match s.handler with
  | .streaming =>
    match s.channel with
    | [] => if s.registered then none else some { s with handler := .recorded }
    | chunk :: channel =>
      if chunk = [] then some { s with channel, handler := .recorded }
      else
        match failure with
        | none => some { s with channel, written := s.written ++ chunk }
        | some n =>
          some { s with channel, written := s.written ++ chunk.take n, handler := .stopped }
  | _ => none

end State

def step (s : State) : Label → Option State
  | .read chunk err sent => s.read chunk err sent
  | .marker sent => s.marker sent
  | .disconnect arriving => some { s with connected := false, wire := s.wire.take arriving }
  | .inbound => s.inbound
  | .unregister => some { s with registered := false }
  | .receive failure => s.receive failure
  | .timeout =>
    match s.handler with
    | .streaming => some { s with handler := .stopped }
    | _ => none

/-- **A recorded download is complete**: the reads have ended with the end of the file, and
the response has all they returned. -/
def Complete (s : State) : Prop :=
  s.handler = .recorded → s.pump.readEnd = some .eof ∧ s.written = s.content
  deriving Decidable

/-- The condition on a step: no empty frame is sent after a failed read, and the handler does not
find its stream closed. -/
def Faithful (s : State) : Label → Prop
  | .marker sent => sent = true → s.pump ≠ .ended .failure
  | .receive _ => s.channel = [] → s.registered = true
  | _ => True

instance (s : State) : DecidablePred (Faithful s) := by
  rintro (_ | _) <;> unfold Faithful <;> infer_instance

/-! ### The frames in flight -/

section Flow

/-- Only the last frame may be the empty one. -/
def Ended (frames : List (List UInt8)) : Prop :=
  ∀ f ∈ frames.dropLast, f ≠ []

variable {frames more : List (List UInt8)} {f : List UInt8}

theorem ended_nil : Ended [] :=
  nofun

theorem ended_concat (h : [] ∉ frames) : Ended (frames ++ [f]) := by
  intro g hg hnil
  rw [dropLast_concat] at hg
  exact h (hnil ▸ hg)

theorem Ended.tail (h : Ended (f :: frames)) : Ended frames := by
  cases frames with
  | nil => exact ended_nil
  | cons => exact fun x hx ↦ h x (mem_cons_of_mem f hx)

theorem Ended.eq_nil (h : Ended (frames ++ more)) (hmem : [] ∈ frames) : more = [] := by
  by_contra hne
  rw [Ended, dropLast_append_of_ne_nil hne] at h
  exact h [] (mem_append_left _ hmem) rfl

theorem Ended.left (h : Ended (frames ++ more)) : Ended frames := by
  by_cases hne : more = []
  · rwa [hne, append_nil] at h
  · rw [Ended, dropLast_append_of_ne_nil hne] at h
    exact fun g hg ↦ h g (mem_append_left _ (dropLast_subset _ hg))

end Flow

/-- The frames that the handler will get. -/
def State.flow (s : State) : List (List UInt8) :=
  if s.registered then s.channel ++ s.wire else s.channel

/-- The invariant of a download. -/
structure DownloadInv (s : State) : Prop where
  /-- What was read is written, in flight, or lost; nothing is lost while the agent can send and the
  stream is registered, and nothing in front of the empty frame. -/
  whole : s.handler = .streaming → ∃ lost, s.content = s.written ++ s.flow.flatten ++ lost ∧
    (s.connected = true → s.registered = true → (∀ e, s.pump ≠ .finished e) → lost = []) ∧
    ([] ∈ s.flow → lost = [])
  ended : Ended s.flow
  marker : [] ∈ s.flow → s.pump = .finished (some .eof)
  recorded : s.handler = .recorded → s.pump = .finished (some .eof) ∧ s.written = s.content

theorem downloadInv_init : DownloadInv .init where
  whole _ := ⟨[], rfl, fun _ _ _ ↦ rfl, fun _ ↦ rfl⟩
  ended := ended_nil
  marker := nofun
  recorded := nofun

/-! ### The steps -/

section Steps

variable {s s' : State}

/-- What a read does: it returns no bytes, or they are sent, or the frame is not written. -/
theorem read_cases {chunk : List UInt8} {err : Option ReadEnd} {sent : Bool}
    (hs : s.read chunk err sent = some s') : s.pump = .reading ∧
    (s' = { s with pump := .after err } ∨
      (chunk ≠ [] ∧
        s' =
        { s with pump := .after err, content := s.content ++ chunk, wire := s.wire ++ [chunk] } ∧
          s.connected = true) ∨
      s' = { s with pump := .finished err, content := s.content ++ chunk }) := by
  unfold State.read at hs
  split at hs
  case h_2 => cases hs
  case h_1 hreading =>
  refine ⟨hreading, ?_⟩
  split at hs
  case isTrue => cases hs
  case isFalse hcan =>
  split at hs
  case isTrue => exact .inl (some.inj hs).symm
  case isFalse hchunk =>
  split at hs
  case isTrue hsent =>
    refine .inr (.inl ⟨hchunk, (some.inj hs).symm, ?_⟩)
    simpa [State.canSend, hsent] using fun hf ↦ hcan (.inr hf)
  case isFalse => exact .inr (.inr (some.inj hs).symm)

/-- A frame sent is the last one in flight, if the stream is registered. -/
theorem flow_send (p : Pump) (c : List UInt8) (f : List UInt8) :
    State.flow { s with pump := p, content := c, wire := s.wire ++ [f] } =
      s.flow ++ if s.registered then [f] else [] := by
  unfold State.flow
  cases s.registered with
  | true => simp only [if_true, append_assoc]
  | false => simp

namespace DownloadInv

section

variable (h : DownloadInv s)
include h

theorem not_mem_of_unfinished (hp : ∀ e, s.pump ≠ .finished e) : [] ∉ s.flow :=
  fun hmem ↦ hp _ (h.marker hmem)

theorem not_recorded_of_unfinished (hp : ∀ e, s.pump ≠ .finished e) : s.handler ≠ .recorded :=
  fun hr ↦ hp _ (h.recorded hr).1

theorem ended_send (hflow : [] ∉ s.flow) {p : Pump} {c f : List UInt8} :
    Ended (State.flow { s with pump := p, content := c, wire := s.wire ++ [f] }) := by
  rw [flow_send]
  split
  · exact ended_concat hflow
  · rw [append_nil]
    exact h.ended

theorem of_flow_cons {f : List UInt8} {rest : List (List UInt8)} (hflow : s.flow = f :: rest) :
    Ended rest ∧ ([] ∈ rest → s.pump = .finished (some .eof)) := by
  refine ⟨?_, fun hmem ↦ h.marker ?_⟩
  · have hend := h.ended
    rw [hflow] at hend
    exact hend.tail
  · rw [hflow]
    exact mem_cons_of_mem _ hmem

theorem read {chunk : List UInt8} {err : Option ReadEnd} {sent : Bool}
    (hs : s.read chunk err sent = some s') :
    DownloadInv s' := by
  obtain ⟨hreading, hcas⟩ := read_cases hs
  have hp : ∀ e, s.pump ≠ .finished e := fun e he ↦ by cases hreading.symm.trans he
  -- There is no empty frame in flight while the file is read, and nothing is recorded.
  have hflow := h.not_mem_of_unfinished hp
  have hrec := h.not_recorded_of_unfinished hp
  obtain rfl | ⟨hchunk, rfl, hconn⟩ | rfl := hcas
  · refine ⟨fun hst ↦ ?_, h.ended, fun hmem ↦ absurd hmem hflow, fun hr ↦ absurd hr hrec⟩
    obtain ⟨lost, hwhole, hlost, hmark⟩ := h.whole hst
    exact ⟨lost, hwhole, fun hc hr _ ↦ hlost hc hr hp, hmark⟩
  · have hnil : [] ∉ s.flow ++ if s.registered then [chunk] else [] := by
      split <;> simp [hflow, hchunk.symm]
    constructor
    case whole =>
      intro hst
      obtain ⟨lost, hwhole, hlost, -⟩ := h.whole hst
      rw [flow_send]
      cases hr : s.registered with
      | true =>
        rw [hlost hconn hr hp, append_nil] at hwhole
        exact ⟨[], by simp [hwhole], fun _ _ _ ↦ rfl, fun _ ↦ rfl⟩
      | false =>
        refine ⟨lost ++ chunk, by simp [hwhole], fun _ hreg ↦ ?_, fun hmem ↦ ?_⟩
        · cases hreg
        · simp only [Bool.false_eq_true, if_false, append_nil] at hmem
          exact absurd hmem hflow
    case ended => exact h.ended_send hflow
    case marker =>
      rw [flow_send]
      exact fun hmem ↦ absurd hmem hnil
    case recorded => exact fun hr ↦ absurd hr hrec
  · refine ⟨fun hst ↦ ?_, h.ended, fun hmem ↦ absurd hmem hflow, fun hr ↦ absurd hr hrec⟩
    obtain ⟨lost, hwhole, -, -⟩ := h.whole hst
    refine ⟨lost ++ chunk, ?_, fun _ _ hf ↦ absurd rfl (hf err), fun hmem ↦ absurd hmem hflow⟩
    show s.content ++ chunk = s.written ++ s.flow.flatten ++ (lost ++ chunk)
    rw [hwhole, append_assoc _ lost chunk]

theorem sendMarker {sent : Bool} (hs : s.marker sent = some s') (hf : Faithful s (.marker sent)) :
    DownloadInv s' := by
  unfold State.marker at hs
  split at hs
  case h_2 => cases hs
  case h_1 e hend =>
  split at hs
  case isTrue => cases hs
  case isFalse hcan =>
  have hp : ∀ e, s.pump ≠ .finished e := fun e he ↦ by cases hend.symm.trans he
  have hflow := h.not_mem_of_unfinished hp
  have hrec := h.not_recorded_of_unfinished hp
  cases hs
  cases sent with
  | false =>
    refine ⟨fun hst ↦ ?_, h.ended, fun hmem ↦ absurd hmem hflow, fun hr ↦ absurd hr hrec⟩
    obtain ⟨lost, hwhole, -, hmark⟩ := h.whole hst
    exact ⟨lost, hwhole, fun _ _ hfin ↦ absurd rfl (hfin _), hmark⟩
  | true =>
    have heof : e = .eof := by
      cases e with
      | eof => rfl
      | failure => exact absurd hend (hf rfl)
    have hconn : s.connected = true := by simpa [State.canSend] using hcan
    simp only [if_true]
    constructor
    case whole =>
      intro hst
      obtain ⟨lost, hwhole, hlost, -⟩ := h.whole hst
      rw [flow_send]
      refine ⟨lost, ?_, fun _ _ hfin ↦ absurd rfl (hfin _), fun hmem ↦ ?_⟩
      · split <;> simp [hwhole]
      · cases hr : s.registered with
        | true => exact hlost hconn hr hp
        | false => simp [hr, hflow] at hmem
    case ended => exact h.ended_send hflow
    case marker => exact fun _ ↦ heof ▸ rfl
    case recorded => exact fun hr ↦ absurd hr hrec

theorem lose (c r : Bool) (w more : List (List UInt8))
    (hflow : s.flow = State.flow { s with connected := c, registered := r, wire := w } ++ more)
    (hclosed : more ≠ [] → (c && r) = false) (hc : c = true → s.connected = true)
    (hr : r = true → s.registered = true) :
    DownloadInv { s with connected := c, registered := r, wire := w } := by
  have hend : Ended (State.flow { s with connected := c, registered := r, wire := w } ++ more) :=
    hflow ▸ h.ended
  refine ⟨fun hst ↦ ?_, hend.left, fun hmem ↦ h.marker ?_, h.recorded⟩
  · obtain ⟨lost, hwhole, hlost, hmark⟩ := h.whole hst
    refine ⟨more.flatten ++ lost, ?_, fun hc' hr' hp ↦ ?_, fun hmem ↦ ?_⟩
    · rw [hflow, flatten_append] at hwhole
      simpa only [append_assoc] using hwhole
    · have hmore : more = [] := by
        by_contra hne
        have := hclosed hne
        simp [show c = true from hc', show r = true from hr'] at this
      rw [hmore, hlost (hc hc') (hr hr') hp]
      rfl
    · rw [hend.eq_nil hmem, hmark (hflow ▸ mem_append_left _ hmem)]
      rfl
  · rw [hflow]
    exact mem_append_left _ hmem

theorem disconnect (n : ℕ) : DownloadInv { s with connected := false, wire := s.wire.take n } := by
  refine h.lose false s.registered (s.wire.take n) (if s.registered then s.wire.drop n else []) ?_
    (fun _ ↦ rfl) (fun hc ↦ nomatch hc) id
  unfold State.flow
  cases s.registered with
  | true => simp only [if_true, append_assoc, take_append_drop]
  | false => simp

theorem unregister : DownloadInv { s with registered := false } := by
  refine h.lose s.connected false s.wire (if s.registered then s.wire else []) ?_
    (fun _ ↦ Bool.and_false _) id (fun hr ↦ nomatch hr)
  unfold State.flow
  cases s.registered with
  | true | false => simp

theorem inbound (hs : s.inbound = some s') : DownloadInv s' := by
  unfold State.inbound at hs
  split at hs
  case h_1 => cases hs
  case h_2 frame wire hwire =>
  -- The frames in flight are the same ones.
  have hflow : s'.flow = s.flow ∧ s' = { s with wire := s'.wire, channel := s'.channel } := by
    split at hs
    case isTrue hr =>
      cases hs
      refine ⟨?_, rfl⟩
      simp only [State.flow, hr, if_true, hwire, append_assoc, singleton_append]
    case isFalse hr =>
      cases hs
      refine ⟨?_, rfl⟩
      simp only [State.flow, if_neg hr]
  obtain ⟨hflow, heq⟩ := hflow
  rw [heq] at hflow ⊢
  refine ⟨?_, ?_, ?_, h.recorded⟩ <;> rw [hflow]
  exacts [h.whole, h.ended, h.marker]

end

theorem flow_of_channel {f : List UInt8} {channel : List (List UInt8)}
    (hc : s.channel = f :: channel) (hd : Handler) (w : List UInt8) :
    s.flow = f :: State.flow { s with channel, handler := hd, written := w } := by
  unfold State.flow
  rw [hc]
  cases s.registered with
  | true | false => rfl

theorem receive {failure : Option ℕ} (h : DownloadInv s) (hs : s.receive failure = some s')
    (hf : Faithful s (.receive failure)) : DownloadInv s' := by
  unfold State.receive at hs
  split at hs
  case h_2 => cases hs
  case h_1 hst =>
  obtain ⟨lost, hwhole, hlost, hmark⟩ := h.whole hst
  split at hs
  case h_1 hnil =>
    rw [if_pos (hf hnil)] at hs
    cases hs
  case h_2 chunk channel hchan =>
  have hflow := flow_of_channel hchan
  split at hs
  case isTrue hchunk =>
    cases hs
    rw [hchunk] at hflow
    -- The empty frame is the last one, so everything is written.
    have hmem : [] ∈ s.flow := hflow .recorded s.written ▸ mem_cons_self
    have hrest : State.flow { s with channel, handler := .recorded } = [] := by
      have hend := h.ended
      rw [hflow .recorded s.written, ← singleton_append] at hend
      exact hend.eq_nil mem_cons_self
    constructor
    case whole => exact nofun
    case ended =>
      rw [hrest]
      exact ended_nil
    case marker =>
      rw [hrest]
      exact nofun
    case recorded =>
      refine fun _ ↦ ⟨h.marker hmem, ?_⟩
      rw [hwhole, hmark hmem, hflow .recorded s.written, flatten_cons, hrest]
      simp
  case isFalse hchunk =>
  split at hs
  case h_1 =>
    cases hs
    have hflow := hflow s.handler (s.written ++ chunk)
    constructor
    case whole =>
      refine fun _ ↦ ⟨lost, ?_, hlost, fun hmem ↦ hmark ?_⟩
      · rw [hflow, flatten_cons] at hwhole
        simpa only [append_assoc] using hwhole
      · rw [hflow]
        exact mem_cons_of_mem _ hmem
    case ended => exact (h.of_flow_cons hflow).1
    case marker => exact (h.of_flow_cons hflow).2
    case recorded => exact fun hr ↦ by cases hst.symm.trans hr
  case h_2 n =>
    cases hs
    have hflow := hflow .stopped (s.written ++ chunk.take n)
    constructor
    case whole => exact nofun
    case ended => exact (h.of_flow_cons hflow).1
    case marker => exact (h.of_flow_cons hflow).2
    case recorded => exact nofun

theorem timeout (h : DownloadInv s) : DownloadInv { s with handler := .stopped } where
  whole := nofun
  ended := h.ended
  marker := h.marker
  recorded := nofun

theorem step {l : Label} (h : DownloadInv s) (hs : step s l = some s') (hf : Faithful s l) :
    DownloadInv s' := by
  cases l with
  | read => exact h.read hs
  | marker => exact h.sendMarker hs hf
  | disconnect n =>
    cases hs
    exact h.disconnect n
  | inbound => exact h.inbound hs
  | unregister =>
    cases hs
    exact h.unregister
  | receive => exact h.receive hs hf
  | timeout =>
    simp only [Download.step] at hs
    split at hs
    · cases hs
      exact h.timeout
    · cases hs

theorem complete (h : DownloadInv s) : Complete s := by
  intro hr
  obtain ⟨hpump, hwr⟩ := h.recorded hr
  rw [hpump]
  exact ⟨rfl, hwr⟩

end DownloadInv

end Steps

/-! ### Complete downloads -/

/-- **What is recorded is complete**, in every run whose steps are faithful. -/
theorem complete_of_faithful {ls : List Label} {s : State} (hrun : exec step .init ls = some s)
    (hfaithful : Along step (fun s l _ ↦ Faithful s l) .init ls) : Complete s :=
  (invariant_of_along (fun _ _ _ h hs hf ↦ h.step hs hf) downloadInv_init hrun hfaithful).complete

/-- A file of two chunks: the second read returns `io.EOF` with its bytes, the relay is a frame
behind, and the agent disconnects when all has arrived. -/
theorem complete_of_faithful_two : ∃ s, exec step .init
    [.read [104, 105] none true, .inbound, .read [33] (some .eof) true, .receive none, .marker true,
      .inbound, .inbound, .disconnect 0, .receive none, .receive none] = some s ∧
        s.handler = .recorded ∧
    s.written = [104, 105, 33] ∧ Complete s := by
  refine exists_of_exec (fun s ↦ s.handler = .recorded ∧ s.written = [104, 105, 33])
    (by decide +kernel) fun s hrun ⟨hrec, hwr⟩ ↦ ?_
  exact ⟨hrec, hwr, complete_of_faithful hrun (by decide +kernel)⟩

/-- **A read that fails looks like the end of the file**: the first read returns two bytes, the
second an error, and the download of two bytes is recorded as done. -/
theorem not_complete_failed_read : ∃ s, exec step .init
    [.read [104, 105] none true, .read [] (some .failure) false, .marker true, .inbound, .inbound,
      .receive none, .receive none] = some s ∧ ¬ Complete s := by
  exact exists_of_exec _ (by decide +kernel) fun _ _ h ↦ h

end WartungsRemote.Server.Download
