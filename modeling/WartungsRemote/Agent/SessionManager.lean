import WartungsRemote.Device.Registry
import WartungsRemote.Transition.Run

/-!
# The agent's sessions

One control connection as the agent sees it: what is on its way to the agent and to the server, the
`sessionManager` with the streams that are open, and the pumps. Messages arrive in the order in
which they were sent, and the read loop handles one at a time. Every stream has a pump of its own,
which may end at any moment; then it removes the stream and **reports the end** with a
`session_close`, also when the server had asked for the close.

A session is *settled* on a connection if no `session_open` for it is on its way, and its stream is
closed or will be, by a `session_close` that is on its way. No step of the agent changes that
(`settled_of_step`). And a stream that has ended is reported (`finished_of_step`).
-/

namespace WartungsRemote.Agent

open List

/-- A message from the server. -/
inductive ToAgent
  | sessionOpen (id : UUID)
  | sessionClose (id : UUID)

/-- A message from the agent. -/
inductive ToServer
  | sessionOpenResult (id : UUID) (success : Bool)
  | sessionClose (id : UUID)

/-- A control connection. -/
structure Link where
  cut : Bool
  toAgent : List ToAgent
  toServer : List ToServer
  streams : List UUID
  /-- `handleSessionOpen` has dealt with this session, with this result, and not yet answered. -/
  replying : Option (UUID × Bool)
  /-- The pumps that have ended and have not yet reported it. -/
  ended : List UUID
  /-- History: the sessions whose stream has ended. -/
  finished : List UUID

namespace Link

/-- A new connection. -/
def fresh : Link where
  cut := false
  toAgent := []
  toServer := []
  streams := []
  replying := none
  ended := []
  finished := []

/-- The connection breaks: what was on its way is lost, and `closeAll` closes the streams. -/
def broken (k : Link) : Link :=
  { fresh with cut := true, finished := k.finished }

/-- The server sends a message. -/
def send (k : Link) (m : ToAgent) : Link :=
  { k with toAgent := k.toAgent ++ [m] }

/-- A stream is removed and its pump ends. -/
def close (k : Link) (id : UUID) : Link :=
  { k with streams := k.streams.erase id, ended := id :: k.ended, finished := id :: k.finished }

end Link

/-- What the agent does. -/
inductive Action
  /-- `handleSessionOpen` opens the target, or cannot or may not. -/
  | handleSessionOpen (success : Bool)
  | reply
  | handleSessionClose
  /-- The stream of a pump ends. -/
  | streamEnds (id : UUID)
  /-- A pump reports its end. -/
  | report (id : UUID)

namespace Link

/-- One step of the agent on a connection. -/
def step (k : Link) : Action → Option Link
  | .handleSessionOpen success =>
    match k.toAgent, k.replying with
    | .sessionOpen id :: rest, none =>
      some { k with
        toAgent := rest
        streams := if success then id :: k.streams else k.streams
        replying := some (id, success) }
    | _, _ => none
  | .reply =>
    match k.replying with
    | some (id, success) =>
      some { k with replying := none, toServer := k.toServer ++ [.sessionOpenResult id success] }
    | none => none
  | .handleSessionClose =>
    match k.toAgent, k.replying with
    | .sessionClose id :: rest, none =>
      if id ∈ k.streams then some { k.close id with toAgent := rest }
      else some { k with toAgent := rest }
    | _, _ => none
  | .streamEnds id => if id ∈ k.streams then some (k.close id) else none
  | .report id =>
    if id ∈ k.ended then
      some { k with ended := k.ended.erase id, toServer := k.toServer ++ [.sessionClose id] }
    else none

/-- What a step of the agent can do. -/
inductive Step (k : Link) : Action → Link → Prop
  | opened {id rest} (htoA : k.toAgent = .sessionOpen id :: rest) :
      Step k (.handleSessionOpen true)
        { k with toAgent := rest, streams := id :: k.streams, replying := some (id, true) }
  | refused {id rest} (htoA : k.toAgent = .sessionOpen id :: rest) :
      Step k (.handleSessionOpen false) { k with toAgent := rest, replying := some (id, false) }
  | replied {id success} (hrep : k.replying = some (id, success)) :
      Step k .reply
        { k with replying := none, toServer := k.toServer ++ [.sessionOpenResult id success] }
  | closed {id rest} (htoA : k.toAgent = .sessionClose id :: rest) (hid : id ∈ k.streams) :
      Step k .handleSessionClose { k.close id with toAgent := rest }
  | unknown {id rest} (htoA : k.toAgent = .sessionClose id :: rest) (hid : id ∉ k.streams) :
      Step k .handleSessionClose { k with toAgent := rest }
  | streamEnded {id} (hid : id ∈ k.streams) : Step k (.streamEnds id) (k.close id)
  | reported {id} (hid : id ∈ k.ended) :
      Step k (.report id)
        { k with ended := k.ended.erase id, toServer := k.toServer ++ [.sessionClose id] }

variable {k k' : Link} {a : Action} {id : UUID}

/-- `Step` has every case of `step`. -/
theorem step_cases (h : k.step a = some k') : Step k a k' := by
  cases a with
  | handleSessionOpen success =>
    simp only [step] at h
    split at h
    next htoA _ =>
      cases success <;> cases h
      · exact .refused htoA
      · exact .opened htoA
    · cases h
  | reply =>
    simp only [step] at h
    split at h <;> cases h
    next hrep => exact .replied hrep
  | handleSessionClose =>
    simp only [step] at h
    split at h
    next htoA _ =>
      split at h <;> cases h
      next hid => exact .closed htoA hid
      next hid => exact .unknown htoA hid
    · cases h
  | streamEnds =>
    simp only [step] at h
    split at h <;> cases h
    next hid => exact .streamEnded hid
  | report =>
    simp only [step] at h
    split at h <;> cases h
    next hid => exact .reported hid

/-! ### Sessions that a connection carries -/

/-- The sessions that the agent is asked to open. -/
def opens (toAgent : List ToAgent) : List UUID :=
  toAgent.filterMap fun
    | .sessionOpen id => some id
    | .sessionClose _ => none

/-- The sessions that the agent is asked to open or has open. -/
def carried (k : Link) : List UUID :=
  opens k.toAgent ++ k.streams

theorem mem_opens {toAgent : List ToAgent} : id ∈ opens toAgent ↔ .sessionOpen id ∈ toAgent := by
  simp only [opens, mem_filterMap]
  constructor
  · rintro ⟨m, hm, hid⟩
    cases m with
    | sessionOpen => exact Option.some.inj hid ▸ hm
    | sessionClose => cases hid
  · exact fun hm ↦ ⟨_, hm, rfl⟩

theorem mem_carried : id ∈ k.carried ↔ .sessionOpen id ∈ k.toAgent ∨ id ∈ k.streams := by
  rw [carried, mem_append, mem_opens]

theorem carried_send_open (k : Link) (id : UUID) :
    (k.send (.sessionOpen id)).carried.Perm (id :: k.carried) := by
  have happend : opens (k.toAgent ++ [.sessionOpen id]) = opens k.toAgent ++ [id] :=
    filterMap_append
  rw [carried, send, happend, append_assoc]
  exact perm_middle

theorem carried_send_close (k : Link) (id : UUID) :
    (k.send (.sessionClose id)).carried = k.carried := by
  have happend : opens (k.toAgent ++ [.sessionClose id]) = opens k.toAgent ++ [] := filterMap_append
  rw [carried, send, happend, append_nil, carried]

/-- The agent opens no session it was not asked to open, and none twice. -/
theorem carried_of_step (h : k.step a = some k') (hnd : k.carried.Nodup) :
    k'.carried.Nodup ∧ k'.carried ⊆ k.carried := by
  have hsublist : ∀ {l}, l.Sublist k.carried → l.Nodup ∧ l ⊆ k.carried := fun hl ↦
    ⟨hnd.sublist hl, hl.subset⟩
  cases step_cases h with
  | @opened id rest htoA =>
    have hperm : (opens rest ++ id :: k.streams).Perm k.carried := by
      rw [carried, htoA]
      exact perm_middle
    exact ⟨hperm.nodup_iff.2 hnd, hperm.subset⟩
  | @refused id rest htoA =>
    refine hsublist (l := opens rest ++ k.streams) ?_
    rw [carried, htoA]
    exact (sublist_cons_self id (opens rest)).append_right k.streams
  | replied | reported => exact hsublist (Sublist.refl _)
  | @closed id rest htoA =>
    refine hsublist (l := opens rest ++ k.streams.erase id) ?_
    rw [carried, htoA]
    exact erase_sublist.append_left (opens rest)
  | @unknown _ rest htoA =>
    refine hsublist (l := opens rest ++ k.streams) ?_
    rw [carried, htoA]
    exact Sublist.refl _
  | streamEnded => exact hsublist (erase_sublist.append_left (opens k.toAgent))

/-! ### Answers -/

theorem cut_of_step (h : k.step a = some k') : k'.cut = k.cut := by
  cases step_cases h <;> rfl

theorem toAgent_of_step (h : k.step a = some k') : k'.toAgent ⊆ k.toAgent := by
  have hrest : ∀ {m rest}, k.toAgent = m :: rest → rest ⊆ k.toAgent := fun heq ↦
    heq ▸ subset_cons_self _ _
  cases step_cases h with
  | opened htoA | refused htoA | closed htoA | unknown htoA => exact hrest htoA
  | replied | streamEnded | reported => exact Subset.refl _

/-- The answer for a session is ready or on its way. -/
def Replies (k : Link) (id : UUID) (success : Bool) : Prop :=
  k.replying = some (id, success) ∨ .sessionOpenResult id success ∈ k.toServer

/-- The agent answers for a session it was asked to open. It has taken that message; if it has not
opened the session, it carries it no more. -/
theorem replies_of_step {success : Bool} (h : k.step a = some k') (hnd : k.carried.Nodup)
    (hid : k'.Replies id success) : k.Replies id success ∨
      id ∈ k.carried ∧ .sessionOpen id ∉ k'.toAgent ∧ (success = false → id ∉ k'.carried) := by
  cases step_cases h with
  | @opened _ rest htoA =>
    obtain ⟨⟨⟩⟩ | hid := hid
    · rw [carried, htoA] at hnd ⊢
      have hnew : id ∉ opens rest ++ k.streams := (nodup_cons.1 hnd).1
      exact .inr ⟨mem_cons_self, fun hmem ↦ hnew (mem_append_left _ (mem_opens.2 hmem)), by simp⟩
    · exact .inl (.inr hid)
  | @refused _ rest htoA =>
    obtain ⟨⟨⟩⟩ | hid := hid
    · rw [carried, htoA] at hnd ⊢
      have hnew : id ∉ opens rest ++ k.streams := (nodup_cons.1 hnd).1
      exact .inr ⟨mem_cons_self, fun hmem ↦ hnew (mem_append_left _ (mem_opens.2 hmem)), fun _ ↦
        hnew⟩
    · exact .inl (.inr hid)
  | replied hrep =>
    obtain hid | ⟨⟨⟩⟩ := mem_snoc.1 (hid.resolve_left nofun)
    · exact .inl (.inr hid)
    · exact .inl (.inl hrep)
  | reported =>
    refine .inl (hid.imp_right fun hid ↦ ?_)
    obtain hid | ⟨⟨⟩⟩ := mem_snoc.1 hid
    exact hid
  | closed | unknown | streamEnded => exact .inl hid

/-! ### Settled sessions -/

/-- No `session_open` is on its way, and the stream is closed or will be. -/
structure Settled (k : Link) (id : UUID) : Prop where
  not_coming : .sessionOpen id ∉ k.toAgent
  closing : id ∈ k.streams → .sessionClose id ∈ k.toAgent

theorem settled_of_not_carried (h : id ∉ k.carried) : k.Settled id where
  not_coming hmem := h (mem_carried.2 (.inl hmem))
  closing hmem := absurd (mem_carried.2 (.inr hmem)) h

theorem Settled.send (h : k.Settled id) {m : ToAgent} (hm : m ≠ .sessionOpen id) :
    (k.send m).Settled id where
  not_coming hmem := by
    obtain hmem | rfl := mem_snoc.1 hmem
    · exact h.not_coming hmem
    · exact hm rfl
  closing hid := mem_append_left _ (h.closing hid)

/-- The server asks for the end of a session that it has opened before. -/
theorem settled_send_close (h : .sessionOpen id ∉ k.toAgent) :
    (k.send (.sessionClose id)).Settled id where
  not_coming hmem := by
    obtain hmem | ⟨⟨⟩⟩ := mem_snoc.1 hmem
    exact h hmem
  closing _ := mem_append_right _ (mem_singleton_self _)

theorem Settled.tail (hid : k.Settled id) {m : ToAgent} (htoA : k.toAgent = m :: k'.toAgent)
    (hstrs : id ∈ k'.streams → id ∈ k.streams ∧ m ≠ .sessionClose id) : k'.Settled id := by
  refine ⟨fun hmem ↦ hid.not_coming (htoA ▸ mem_cons_of_mem _ hmem), fun hmem ↦ ?_⟩
  obtain ⟨hmem, hne⟩ := hstrs hmem
  have hcl := hid.closing hmem
  rw [htoA] at hcl
  exact (mem_cons.1 hcl).resolve_left hne.symm

/-- What is settled stays settled. -/
theorem settled_of_step (h : k.step a = some k') (hnd : k.carried.Nodup) (hid : k.Settled id) :
    k'.Settled id := by
  cases step_cases h with
  | @opened id' _ htoA =>
    have hne : id ≠ id' := fun heq ↦ hid.not_coming (htoA ▸ heq ▸ mem_cons_self)
    exact hid.tail htoA fun hmem ↦ ⟨(mem_cons.1 hmem).resolve_left hne, by simp⟩
  | refused htoA => exact hid.tail htoA fun hmem ↦ ⟨hmem, by simp⟩
  | replied | reported => exact { hid with }
  | closed htoA =>
    have hstrs : k.streams.Nodup := (nodup_append.1 hnd).2.1
    refine hid.tail htoA fun hmem ↦ ?_
    obtain ⟨hne, hmem⟩ := hstrs.mem_erase_iff.1 hmem
    exact ⟨hmem, by simpa using hne.symm⟩
  | unknown htoA hid' =>
    refine hid.tail htoA fun hmem ↦ ⟨hmem, ?_⟩
    rintro ⟨⟩
    exact hid' hmem
  | streamEnded =>
    exact ⟨hid.not_coming, fun hmem ↦ hid.closing (mem_of_mem_erase hmem)⟩

/-! ### Reports -/

/-- A `session_close` from the agent is on its way, or will be. -/
def Reports (k : Link) (id : UUID) : Prop :=
  id ∈ k.ended ∨ .sessionClose id ∈ k.toServer

theorem reports_of_step (h : k.step a = some k') (hid : k.Reports id) : k'.Reports id := by
  cases step_cases h with
  | opened | refused | unknown => exact hid
  | replied => exact hid.imp_right (mem_append_left _)
  | closed | streamEnded => exact hid.imp_left (mem_cons_of_mem _)
  | @reported id' =>
    by_cases heq : id = id'
    · exact .inr (mem_append_right _ (heq ▸ mem_singleton_self _))
    · exact hid.imp (mem_erase_of_ne heq).2 (mem_append_left _)

theorem finished_of_step (h : k.step a = some k') (hid : id ∈ k'.finished) :
    id ∈ k.finished ∨ id ∈ k.streams ∧ k'.Reports id := by
  cases step_cases h with
  | opened | refused | unknown | replied | reported => exact .inl hid
  | closed _ hid' | streamEnded hid' =>
    rcases mem_cons.1 hid with rfl | hid
    · exact .inr ⟨hid', .inl mem_cons_self⟩
    · exact .inl hid

end Link

end WartungsRemote.Agent
