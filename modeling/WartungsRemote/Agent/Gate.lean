import WartungsRemote.Agent.Commands

/-!
# The policy is a gate

Whatever the server sends, the agent calls only operations that the policy permits, writes only to
what it has opened with such an operation, and answers every `device_command` and `session_open`
once (`policy_gate`).

`Does x n s t` says that a sequence of calls, replies and uses of what is open **keeps to the
policy** (`Gated`) and sends `n` envelopes that refer to the message `x`, and none that refer to
another one. It is proved of the single actions, and composed along the branches.
-/

namespace WartungsRemote.Agent.Commands

open AgentUpdate (AgentUpdateParams)
open Protocol Transition List Commands.State

variable {α : Type}

/-! ### Keeping to the policy -/

/-- Bytes can be written to it. -/
def Opened.writable : Opened → Bool
  | download _ => false
  | _ => true

/-- Only a terminal can be resized, and a download is only read. -/
def Use.fits (o : Opened) : Use → Bool
  | resize _ _ => o = .terminal
  | _ => o.writable

/-- Something that bytes can be written to was opened under this number. -/
def State.Live (s : State α) (r : ℕ) : Prop :=
  ∃ o, s.opened[r]? = some o ∧ o.writable = true

/-- **The agent keeps to the policy**: it has called only what is permitted, opened only by such
calls, and used things as it may. -/
structure Gated (policy : AgentPolicy) (s : State α) : Prop where
  calls : ∀ op, .call op ∈ s.trace → policy.permits op = true
  opened : ∀ o ∈ s.opened, .call o.op ∈ s.trace
  uses : ∀ r u, .use r u ∈ s.trace → ∃ o, s.opened[r]? = some o ∧ u.fits o = true
  sessions : ∀ e ∈ s.sessions, s.Live e.2
  uploads : ∀ e ∈ s.uploads, s.Live e.2
  pumps : ∀ e ∈ s.pumps, s.Live e.2
  provisioning : 0 < s.provisioning → policy.tunnels = true

/-- The action is an envelope that refers to the message. -/
def Action.answers (x : String) : Action α → Bool
  | send (some y) _ => y == x
  | _ => false

/-- The number of envelopes that refer to the message. -/
def State.replies (s : State α) (x : String) : ℕ :=
  s.trace.countP (Action.answers x)

/-- What is done keeps to the policy, and refers to the message so many times. -/
structure Does (policy : AgentPolicy) (x : String) (n : ℕ) (s t : State α) : Prop where
  gated : Gated policy s → Gated policy t
  replies : ∀ y, t.replies y = s.replies y + if y = x then n else 0

/-! ### Single actions -/

section Actions

variable {policy : AgentPolicy} {x : String} {n m : ℕ} {s t u : State α} {a : Action α} {o : Opened}
  {r : ℕ}

theorem Does.refl : Does policy x 0 s s where
  gated := id
  replies y := by rw [ite_self, Nat.add_zero]

theorem Does.trans (h : Does policy x n s t) (h' : Does policy x m t u) :
    Does policy x (n + m) s u where
  gated hs := h'.gated (h.gated hs)
  replies y := by
    rw [h'.replies, h.replies, Nat.add_assoc]
    split_ifs
    · rfl
    · rfl

theorem replies_act (y : String) : (s.act a).replies y = s.replies y + if a.answers y then 1
    else 0 := by
  rw [replies, act, countP_append, countP_singleton]
  rfl

theorem Gated.act (h : Gated policy s) (hcall : ∀ op, a = .call op → policy.permits op = true)
    (huse : ∀ r u, a = .use r u → ∃ o, s.opened[r]? = some o ∧ u.fits o = true) :
    Gated policy (s.act a) where
  calls op hop := by
    obtain hold | hnew := mem_snoc.1 hop
    · exact h.calls op hold
    · exact hcall op hnew.symm
  opened o ho := mem_append_left _ (h.opened o ho)
  uses r u hu := by
    obtain hold | hnew := mem_snoc.1 hu
    · exact h.uses r u hold
    · exact huse r u hnew.symm
  sessions := h.sessions
  uploads := h.uploads
  pumps := h.pumps
  provisioning := h.provisioning

/-- **An action that is no answer**, and that calls and uses only what it may. -/
theorem does_act (ha : ∀ y, a.answers y = false)
    (hcall : ∀ op, a = .call op → policy.permits op = true)
    (huse : Gated policy s → ∀ r u, a = .use r u → ∃ o, s.opened[r]? = some o ∧ u.fits o = true) :
    Does policy x 0 s (s.act a) where
  gated h := h.act hcall (huse h)
  replies y := by simp [replies_act, ha]

theorem does_call (op : Op) (hop : policy.permits op = true) : Does policy x 0 s (s.call op) :=
  does_act (fun _ ↦ rfl) (fun _ heq ↦ Action.call.inj heq ▸ hop) nofun

theorem does_reply (m : Outgoing α) : Does policy x 1 s (s.act (.send (some x) m)) where
  gated h := h.act (fun _ heq ↦ nomatch heq) fun _ _ heq ↦ nomatch heq
  replies y := by
    rw [replies_act]
    by_cases hxy : y = x
    · simp [Action.answers, hxy]
    · simp [Action.answers, hxy, Ne.symm hxy]

theorem does_send (m : Outgoing α) : Does policy x 0 s (s.act (.send none m)) :=
  does_act (fun _ ↦ rfl) nofun nofun

theorem does_exit : Does policy x 0 s (s.act .exit) :=
  does_act (fun _ ↦ rfl) nofun nofun

theorem does_use {v : Use} (hv : Gated policy s → ∃ o, s.opened[r]? = some o ∧ v.fits o = true) :
    Does policy x 0 s (s.act (.use r v)) := by
  refine does_act (fun _ ↦ rfl) nofun fun h r' v' heq ↦ ?_
  obtain ⟨rfl, rfl⟩ := Action.use.inj heq
  exact hv h

theorem live_keep (h : s.Live r) : (s.keep o).Live r := by
  obtain ⟨o', ho', hw⟩ := h
  exact ⟨o', List.getElem?_append_left (List.getElem?_eq_some_iff.1 ho').1 ▸ ho', hw⟩

theorem does_open (o : Opened) (ho : policy.permits o.op = true) :
    Does policy x 0 s ((s.call o.op).keep o) where
  gated h := by
    have hcall : Gated policy (s.call o.op) := (does_call o.op ho : Does policy x 0 s _).gated h
    refine ⟨hcall.calls, fun o' ho' ↦ ?_, fun r v hv ↦ ?_, fun e he ↦
      live_keep (hcall.sessions e he), fun e he ↦ live_keep (hcall.uploads e he), fun e he ↦
        live_keep (hcall.pumps e he),
      hcall.provisioning⟩
    · obtain hold | hnew := mem_snoc.1 ho'
      · exact hcall.opened o' hold
      · rw [hnew]
        exact mem_append_right _ mem_cons_self
    · obtain ⟨o', ho', hfits⟩ := hcall.uses r v hv
      exact ⟨o', List.getElem?_append_left (List.getElem?_eq_some_iff.1 ho').1 ▸ ho', hfits⟩
  replies := (does_call o.op ho : Does policy x 0 s (s.call o.op)).replies

theorem live_length (ho : o.writable = true) : (s.keep o).Live s.opened.length :=
  ⟨o, getElem?_concat_length, ho⟩

theorem does_tables {sessions uploads : Table} {pumps : List (UUID × ℕ)} {provisioning : ℕ}
    (hsess : ∀ e ∈ sessions, e ∈ s.sessions ∨ s.Live e.2)
    (hups : ∀ e ∈ uploads, e ∈ s.uploads ∨ s.Live e.2)
    (hpumps : ∀ e ∈ pumps, e ∈ s.pumps ∨ s.Live e.2)
    (hprovisioning : 0 < provisioning → 0 < s.provisioning ∨ policy.tunnels = true) :
    Does policy x 0 s { s with sessions, uploads, pumps, provisioning } where
  gated h :=
    { calls := h.calls
      opened := h.opened
      uses := h.uses
      sessions := fun e he ↦ (hsess e he).elim (h.sessions e) id
      uploads := fun e he ↦ (hups e he).elim (h.uploads e) id
      pumps := fun e he ↦ (hpumps e he).elim (h.pumps e) id
      provisioning := fun hpos ↦ (hprovisioning hpos).elim h.provisioning id }
  replies y := by
    rw [ite_self]
    rfl

end Actions

section Table

variable {table : Table} {id : UUID} {r : ℕ} {e : UUID × ℕ}

theorem Table.mem_of_get (h : table.get id = some r) : (id, r) ∈ table := by
  obtain ⟨e, he, rfl⟩ := Option.map_eq_some_iff.1 h
  have hid : e.1 = id := by simpa using find?_some he
  exact hid ▸ mem_of_find?_eq_some he

theorem Table.mem_of_mem_remove (h : e ∈ table.remove id) : e ∈ table :=
  (mem_filter.1 h).1

theorem Table.mem_of_mem_add (h : e ∈ table.add id r) : e ∈ table ∨ e.2 = r := by
  obtain rfl | hold := mem_cons.1 h
  · exact .inr rfl
  · exact .inl (Table.mem_of_mem_remove hold)

end Table

/-! ### The branches -/

section Branches

variable {policy : AgentPolicy} {lib : Library} {provider : Provider α} {x : String} {s t : State α}

theorem does_replyCommand {status code message : String} {data : Data α} :
    Does policy x 1 s (s.replyCommand x status code message data) :=
  does_reply _

theorem does_replySessionOpenResult {sessionID status code message : String} :
    Does policy x 1 s (s.replySessionOpenResult x sessionID status code message) :=
  does_reply _

theorem does_replyResult (result : Except String (Data α)) :
    Does policy x 1 s (s.replyResult x result) := by
  cases result with
  | error | ok => exact does_reply _

variable {allowed : Bool} {path : String} {r : ℕ}

theorem does_gated {message : String} (h : allowed = true → Does policy x 1 s t) :
    Does policy x 1 s (s.gated x allowed message t) := by
  unfold gated
  split
  next hallowed => exact h hallowed
  · exact does_reply _

theorem does_withParams {β : Type} {params : Option β} {rest : β → State α}
    (h : ∀ p, Does policy x 1 s (rest p)) : Does policy x 1 s (s.withParams x params rest) := by
  cases params with
  | none => exact does_reply _
  | some p => exact h p

theorem does_withStreamID {streamID : String} {rest : UUID → State α}
    (h : ∀ id, Does policy x 1 s (rest id)) :
    Does policy x 1 s (s.withStreamID x streamID rest) := by
  unfold withStreamID
  split
  next id _ => exact h id
  · exact does_reply _

theorem does_run {op : Op} {result : Except String (Data α)} (hop : policy.permits op = true) :
    Does policy x 1 s (s.run x op result) :=
  (does_call op hop).trans (does_replyResult result)

theorem does_filesDownload (h : policy.filesRead = true) :
    Does policy x 1 s (s.filesDownload provider x path) := by
  unfold filesDownload
  cases provider.readFile path with
  | error => exact (does_call (.readFile path) h).trans (does_replyResult _)
  | ok => exact (does_open (.download path) h).trans (does_replyResult _)

theorem does_filesUpload {streamID : UUID} (h : policy.filesWrite = true) :
    Does policy x 1 s (s.filesUpload provider x path streamID) := by
  unfold filesUpload
  cases provider.writeFile path with
  | error => exact (does_call (.writeFile path) h).trans (does_replyResult _)
  | ok =>
    refine ((does_open (.upload path) h).trans (does_tables (fun _ ↦ .inl) (fun e he ↦ ?_)
      (fun _ ↦ .inl) .inl)).trans (does_replyResult _)
    refine (Table.mem_of_mem_add he).imp_right fun hr ↦ ?_
    rw [hr]
    exact live_length rfl

theorem does_agentUpdate {p : AgentUpdateParams} (h : policy.selfUpdate = true) :
    Does policy x 1 s (s.agentUpdate provider x p) := by
  unfold agentUpdate
  cases provider.beginUpdate p with
  | error => exact (does_call (.beginUpdate p) h).trans does_replyCommand
  | ok => exact ((does_call (.beginUpdate p) h).trans does_replyCommand).trans does_exit

theorem does_rotateSupportCredential (h : policy.tunnels = true) :
    Does policy x 1 s (s.rotateSupportCredential provider x) := by
  unfold rotateSupportCredential
  cases provider.ensureSupportAccount with
  | error => exact (does_call .ensureSupportAccount h).trans does_replyCommand
  | ok =>
    simp only
    split
    · exact ((does_call .ensureSupportAccount h).trans (does_send _)).trans does_replyCommand
    · exact (does_call .ensureSupportAccount h).trans does_replyCommand

/-- **Every command is answered once, within the policy.** -/
theorem does_command (params : RawPayload) (type : CommandType) :
    Does policy x 1 s (s.command policy lib provider x params type) := by
  cases type with
  | servicesList => exact does_gated fun h ↦ does_run h
  | serviceStart | serviceStop | serviceRestart | processTerminate | filesList | filesMkdir
  | filesRename
  | filesDelete | logsQuery => exact does_gated fun h ↦ does_withParams fun _ ↦ does_run h
  | processesList => exact does_run rfl
  | filesDownload =>
    exact does_gated fun h ↦ does_withParams fun _ ↦ does_withStreamID fun _ ↦ does_filesDownload h
  | filesUpload =>
    exact does_gated fun h ↦ does_withParams fun _ ↦ does_withStreamID fun _ ↦ does_filesUpload h
  | agentUpdate => exact does_gated fun h ↦ does_withParams fun _ ↦ does_agentUpdate h
  | rotateSupportCredential => exact does_gated fun h ↦ does_rotateSupportCredential h

theorem does_handleDeviceCommand (env : Envelope) :
    Does policy env.messageID 1 s (s.handleDeviceCommand policy lib provider env) := by
  unfold handleDeviceCommand
  split
  · exact does_replyCommand
  next cmd _ =>
    split
    · exact does_command _ _
    · exact does_replyCommand

/-! ### Sessions -/

theorem does_addSession (id : UUID) {o : Opened} (ho : policy.permits o.op = true)
    (hw : o.writable = true) : Does policy x 0 s ((s.call o.op).addSession id o) := by
  refine (does_open o ho).trans (does_tables (fun e he ↦ ?_) (fun _ ↦ .inl) (fun e he ↦ ?_) .inl)
  · refine (Table.mem_of_mem_add he).imp_right fun hr ↦ ?_
    rw [hr]
    exact live_length hw
  · refine (mem_append.1 he).imp_right fun hnew ↦ ?_
    rw [mem_singleton.1 hnew]
    exact live_length hw

theorem does_openTerminalSession (id : UUID) :
    Does policy x 1 s (s.openTerminalSession policy provider x id) := by
  unfold openTerminalSession
  split
  next h =>
    cases provider.openTerminal with
    | error => exact (does_call .openTerminal h).trans does_replySessionOpenResult
    | ok => exact (does_addSession id (o := .terminal) h rfl).trans does_replySessionOpenResult
  · exact does_replySessionOpenResult

theorem does_openTunnelSession (id : UUID) {target : String}
    (h : allowed = true → policy.permits (.dial target) = true) :
    Does policy x 1 s (s.openTunnelSession provider x id target allowed) := by
  unfold openTunnelSession
  split
  next hallowed =>
    cases provider.dial target with
    | error => exact (does_call (.dial target) (h hallowed)).trans does_replySessionOpenResult
    | ok =>
      exact (does_addSession id (o := .tunnel target) (h hallowed) rfl).trans
        does_replySessionOpenResult
  · exact does_replySessionOpenResult

theorem does_handleSessionOpen (env : Envelope) :
    Does policy env.messageID 1 s (s.handleSessionOpen policy lib provider env) := by
  unfold handleSessionOpen
  split
  · exact does_replySessionOpenResult
  · split
    · exact does_replySessionOpenResult
    · split
      · exact does_openTerminalSession _
      · exact does_openTunnelSession _ fun h ↦ by simp [AgentPolicy.permits, h]
      · exact does_openTunnelSession _ fun h ↦ by simp [AgentPolicy.permits, h]
      · exact does_replySessionOpenResult

theorem does_handleTerminalResize (env : Envelope) :
    Does policy x 0 s (s.handleTerminalResize lib env) := by
  unfold handleTerminalResize
  split
  · exact .refl
  · split
    · exact .refl
    · split
      next hterminal => exact does_use fun _ ↦ ⟨.terminal, hterminal, rfl⟩
      · exact .refl

theorem does_closeSession (id : UUID) (hr : Gated policy s → s.Live r) :
    Does policy x 0 s { s.act (.use r .close) with sessions := s.sessions.remove id } :=
  (does_use hr).trans
    (does_tables (fun _ he ↦ .inl (Table.mem_of_mem_remove he)) (fun _ ↦ .inl) (fun _ ↦ .inl) .inl)

theorem does_handleSessionClose (env : Envelope) :
    Does policy x 0 s (s.handleSessionClose lib env) := by
  unfold handleSessionClose
  split
  · exact .refl
  · split
    · exact .refl
    next id _ =>
      split
      · exact .refl
      next hget => exact does_closeSession id fun h ↦ h.sessions _ (Table.mem_of_get hget)

/-- The pump closes the stream that it has read, which need not be the one now in the table. -/
theorem does_endPump {id : UUID} (hmem : (id, r) ∈ s.pumps) :
    Does policy x 0 s (s.endPump id r) := by
  -- The stream is live before the pump is forgotten.
  have hlive (h : Gated policy s) : s.Live r := h.pumps _ hmem
  have hsub : ∀ e ∈ s.pumps.erase (id, r), e ∈ s.pumps ∨ s.Live e.2 :=
    fun e he ↦ .inl (mem_of_mem_erase he)
  unfold endPump
  simp only
  split
  · exact (does_tables (fun _ ↦ .inl) (fun _ ↦ .inl) hsub .inl).trans (does_send _)
  · refine Does.trans (t := { s.act (.use r .close) with
      sessions := s.sessions.remove id, pumps := s.pumps.erase (id, r) }) ?_ (does_send _)
    exact (does_use hlive).trans (does_tables (fun _ he ↦ .inl (Table.mem_of_mem_remove he))
      (fun _ ↦ .inl) hsub .inl)

/-! ### Frames -/

theorem does_closeUpload (id : UUID) (hr : Gated policy s → s.Live r) :
    Does policy x 0 s { s.act (.use r .close) with uploads := s.uploads.remove id } :=
  (does_use hr).trans
    (does_tables (fun _ ↦ .inl) (fun _ he ↦ .inl (Table.mem_of_mem_remove he)) (fun _ ↦ .inl) .inl)

/-- The last frame of an upload is answered under the id of the stream. -/
theorem does_handleFileBinaryFrame (id : UUID) (payload : List UInt8) :
    ∃ n, Does policy (uuidString id) n s (s.handleFileBinaryFrame provider id payload) := by
  unfold handleFileBinaryFrame
  split
  · exact ⟨0, .refl⟩
  next r hget =>
    have hlive (h : Gated policy s) : s.Live r := h.uploads _ (Table.mem_of_get hget)
    split
    · have hcl := does_closeUpload (x := uuidString id) id hlive
      cases provider.close with
      | ok | error => exact ⟨1, hcl.trans does_replyCommand⟩
    · refine ⟨0, ?_⟩
      have hwrite : Does policy (uuidString id) 0 s (s.act (.use r (.write payload))) :=
        does_use hlive
      simp only
      split
      · exact hwrite
      · exact hwrite.trans (does_closeUpload id fun h ↦ h.uploads _ (Table.mem_of_get hget))

theorem does_writeSession (id : UUID) (payload : List UInt8) :
    Does policy x 0 s (match s.sessions.get id with
      | none => s
      | some r => s.act (.use r (.write payload))) := by
  split
  · exact .refl
  next hget => exact does_use fun h ↦ h.sessions _ (Table.mem_of_get hget)

/-- A frame is answered, if at all, under the id of its stream. -/
theorem does_handleBinaryFrame (raw : List UInt8) :
    ∃ y n, Does policy y n s (s.handleBinaryFrame provider raw) ∧
      (n ≠ 0 → ∃ f, decodeStreamFrame raw = some f ∧ uuidString f.streamID = y) := by
  unfold handleBinaryFrame
  split
  · exact ⟨"", 0, .refl, fun h ↦ absurd rfl h⟩
  next f hf =>
    split
    · exact ⟨"", 0, does_writeSession _ _, fun h ↦ absurd rfl h⟩
    · exact ⟨"", 0, does_writeSession _ _, fun h ↦ absurd rfl h⟩
    · obtain ⟨n, hn⟩ : ∃ n, Does policy (uuidString f.streamID) n s
          (s.handleFileBinaryFrame provider f.streamID f.payload) := does_handleFileBinaryFrame _ _
      exact ⟨_, n, hn, fun _ ↦ ⟨f, hf, rfl⟩⟩
    · exact ⟨"", 0, .refl, fun h ↦ absurd rfl h⟩

/-! ### Messages -/

/-- The message is a command or opens a session. -/
def Envelope.asks (env : Envelope) : Bool :=
  match MessageType.parse env.type with
  | some .deviceCommand | some .sessionOpen => true
  | _ => false

/-- The message asks for an inventory that can be read. -/
def Envelope.inventories (env : Envelope) (provider : Provider α) : Bool :=
  match MessageType.parse env.type with
  | some .inventoryRequest => provider.inventory.isOk
  | _ => false

theorem inventories_of_asks {env : Envelope} (h : env.asks = true) :
    env.inventories provider = false := by
  unfold Envelope.asks at h
  unfold Envelope.inventories
  cases hparse : MessageType.parse env.type with
  | none => rfl
  | some type =>
    cases type with
    | inventoryRequest => simp [hparse] at h
    | _ => rfl

theorem does_inventory (x : String) : Does policy x (if provider.inventory.isOk then 1 else 0) s
      (match provider.inventory with
        | .error _ => s.call .inventory
        | .ok inventory =>
          (s.call .inventory).act (.send (some x) (.inventoryResponse inventory))) := by
  cases provider.inventory with
  | error => exact does_call _ rfl
  | ok => exact (does_call .inventory rfl).trans (does_reply _)

theorem does_handleMessage (env : Envelope) :
    Does policy env.messageID ((if env.asks then 1 else 0) + if env.inventories provider then
      1 else 0) s (s.handleMessage policy lib provider env) := by
  unfold handleMessage Envelope.asks Envelope.inventories
  cases MessageType.parse env.type with
  | none => exact .refl
  | some type =>
    cases type with
    | inventoryRequest =>
      simp only [Bool.false_eq_true, if_false, Nat.zero_add]
      exact does_inventory _
    | sessionOpen => exact does_handleSessionOpen env
    | deviceCommand => exact does_handleDeviceCommand env
    | terminalResize => exact does_handleTerminalResize env
    | sessionClose | terminalClose => exact does_handleSessionClose env
    | terminalSignal | sessionPrivilegeUpdate | protocolError => exact .refl

/-! ### The support account, and the end of a connection -/

theorem does_provision {marker : Bool} (h : policy.tunnels = true) :
    Does policy x 0 s (s.provision provider marker) := by
  have hless : Does policy x 0 s { s with provisioning := s.provisioning - 1 } :=
    does_tables (fun _ ↦ .inl) (fun _ ↦ .inl) (fun _ ↦ .inl) fun _ ↦ .inr h
  unfold provision
  simp only
  split
  · exact hless
  · have hcall := hless.trans (does_call .ensureSupportAccount h)
    cases provider.ensureSupportAccount with
    | error => exact hcall
    | ok =>
      simp only
      split
      · exact hcall.trans (does_send _)
      · exact hcall

theorem does_reconnect : Does policy x 0 s (s.reconnect policy) where
  gated h :=
    { calls := fun op hop ↦ by
        obtain hold | hnew := mem_append.1 hop
        · exact h.calls op hold
        · obtain ⟨e, -, he⟩ := mem_map.1 hnew
          cases he
      opened := fun o ho ↦ mem_append_left _ (h.opened o ho)
      uses := fun r u hu ↦ by
        obtain hold | hnew := mem_append.1 hu
        · exact h.uses r u hold
        · obtain ⟨e, he, heq⟩ := mem_map.1 hnew
          obtain ⟨rfl, rfl⟩ := Action.use.inj heq
          exact (mem_append.1 he).elim (h.uploads e) (h.sessions e)
      sessions := nofun
      uploads := nofun
      pumps := nofun
      provisioning := fun hpos ↦ by
        by_contra htuns
        have hzero : ¬0 < s.provisioning := fun h' ↦ htuns (h.provisioning h')
        rw [reconnect, if_neg htuns] at hpos
        exact hzero hpos }
  replies y := by
    rw [ite_self, replies, reconnect, countP_append, countP_map]
    exact congrArg _ (countP_eq_zero.2 fun e _ ↦ Bool.false_ne_true)

end Branches

/-! ### Runs -/

/-- A command with this id arrives, or a message that opens a session. -/
def Label.asks (lib : Library) (x : String) : Label α → Bool
  | message raw _ => (decode lib raw).any fun env ↦ env.asks && env.messageID == x
  | _ => false

/-- A request for an inventory arrives with this id, and the inventory is read. -/
def Label.inventories (lib : Library) (x : String) : Label α → Bool
  | message raw provider =>
    (decode lib raw).any fun env ↦ env.inventories provider && env.messageID == x
  | _ => false

/-- A frame arrives whose stream has this id. -/
def Label.streams (x : String) : Label α → Bool
  | frame raw _ => (decodeStreamFrame raw).any fun f ↦ uuidString f.streamID == x
  | _ => false

section Runs

variable {policy : AgentPolicy} {lib : Library} {s t : State α} {l : Label α} {ls : List (Label α)}
  {x : String}

theorem gated_init : Gated policy (init α policy) where
  calls := nofun
  opened := nofun
  uses := nofun
  sessions := nofun
  uploads := nofun
  pumps := nofun
  provisioning hpos := by
    by_contra htuns
    rw [init, if_neg htuns] at hpos
    exact absurd hpos (Nat.lt_irrefl 0)

/-- **One step** keeps to the policy, and answers what asks. -/
theorem does_step (h : Gated policy s) (hstep : step policy lib s l = some t) :
    ∃ y n, Does policy y n s t ∧ ∀ x, l.streams x = false →
      (if x = y then n else 0) = (if l.asks lib x then 1 else 0) + if l.inventories lib x then
        1 else 0 := by
  cases l with
  | message raw =>
    simp only [step] at hstep
    cases hdec : decode lib raw with
    | none =>
      rw [hdec] at hstep
      cases hstep
      exact ⟨"", 0, .refl, fun x _ ↦ by simp [Label.asks, Label.inventories, hdec]⟩
    | some env =>
      rw [hdec] at hstep
      cases hstep
      refine ⟨_, _, does_handleMessage env, fun x _ ↦ ?_⟩
      by_cases hx : x = env.messageID
      · simp [Label.asks, Label.inventories, hdec, hx]
      · simp [Label.asks, Label.inventories, hdec, hx, Ne.symm hx]
  | frame raw =>
    cases hstep
    obtain ⟨y, n, hdoes, hstr⟩ := does_handleBinaryFrame (s := s) raw
    refine ⟨y, n, hdoes, fun x hx ↦ ?_⟩
    show (if x = y then n else 0) = 0
    split
    next hxy =>
      by_contra hn
      obtain ⟨f, hf, hid⟩ := hstr hn
      simp [Label.streams, hf, hid, hxy] at hx
    · rfl
  | pumpEnds =>
    simp only [step] at hstep
    split at hstep
    next hmem =>
      cases hstep
      exact ⟨"", 0, does_endPump hmem, fun x _ ↦ ite_self 0⟩
    · cases hstep
  | provision =>
    simp only [step] at hstep
    split at hstep
    next hpos =>
      cases hstep
      exact ⟨"", 0, does_provision (h.provisioning hpos), fun x _ ↦ ite_self 0⟩
    · cases hstep
  | reconnect =>
    cases hstep
    exact ⟨"", 0, does_reconnect, fun x _ ↦ ite_self 0⟩

theorem gated_run (hrun : exec (step policy lib) (init α policy) ls = some s) : Gated policy s := by
  refine invariant_of_exec (fun s l t h hstep ↦ ?_) gated_init hrun
  obtain ⟨y, n, hdoes, -⟩ := does_step h hstep
  exact hdoes.gated h

/-- As many envelopes refer to a message as there are messages with this id to be answered. -/
theorem replies_run (h : Gated policy s) (hrun : exec (step policy lib) s ls = some t)
    (hstrs : ∀ l ∈ ls, l.streams x = false) :
    t.replies x = s.replies x + (ls.countP (Label.asks lib x) +
      ls.countP (Label.inventories lib x)) := by
  induction ls generalizing s with
  | nil =>
    cases hrun
    rfl
  | cons l _ ih =>
    obtain ⟨u, hstep, hrest⟩ := (exec_cons_eq_some_iff _).1 hrun
    obtain ⟨y, n, hdoes, hn⟩ := does_step h hstep
    rw [ih (hdoes.gated h) hrest fun l' hl' ↦ hstrs l' (mem_cons_of_mem _ hl'), hdoes.replies,
      hn x (hstrs l mem_cons_self), countP_cons, countP_cons]
    omega

/-- **The policy is a gate.** Whatever arrives, the agent calls only what the policy permits, and
uses only what it has opened by such a call. A command and a message that opens a session are
answered once each: the envelopes that refer to an id which no stream has are as many as the
messages with that id, and the next message that asks adds one envelope with its id and none with
another. -/
theorem policy_gate (hrun : exec (step policy lib) (init α policy) ls = some s) :
    (∀ op, .call op ∈ s.trace → policy.permits op = true) ∧
    (∀ r u, .use r u ∈ s.trace → ∃ o, s.opened[r]? = some o ∧ u.fits o = true ∧
      .call o.op ∈ s.trace ∧ policy.permits o.op = true) ∧
    (∀ x, (∀ l ∈ ls, l.streams x = false) →
      s.replies x = ls.countP (Label.asks lib x) + ls.countP (Label.inventories lib x)) ∧
    ∀ raw provider env, decode lib raw = some env → env.asks = true →
      ∃ t, step policy lib s (.message raw provider) = some t ∧
        ∀ x, t.replies x = s.replies x + if x = env.messageID then 1 else 0 := by
  have h : Gated policy s := gated_run hrun
  refine ⟨h.calls, fun r u hu ↦ ?_, fun x hx ↦ ?_, fun raw provider env hdec hasks ↦ ?_⟩
  · obtain ⟨o, ho, hfits⟩ := h.uses r u hu
    have hcall := h.opened o (mem_of_getElem? ho)
    exact ⟨o, ho, hfits, hcall, h.calls _ hcall⟩
  · exact (replies_run gated_init hrun hx).trans (Nat.zero_add _)
  · refine ⟨s.handleMessage policy lib provider env, by simp only [step, hdec], fun x ↦ ?_⟩
    have hdoes : Does policy env.messageID _ s (s.handleMessage policy lib provider env) :=
      does_handleMessage env
    rw [hdoes.replies, hasks, inventories_of_asks hasks]
    rfl

/-- A server opens a terminal, uploads a file and asks for the services. -/
def uploadLibrary : Library where
  envelope
    | [1] => some ⟨1, "session_open", "first", [1]⟩
    | [2] => some ⟨1, "device_command", "second", [2]⟩
    | [3] => some ⟨1, "device_command", "third", [3]⟩
    | _ => none
  deviceCommand
    | [2] => some ⟨"files.upload", [2]⟩
    | [3] => some ⟨"services.list", []⟩
    | _ => none
  sessionOpen _ := some ⟨"00000000-0000-0000-0000-000000000001", "terminal"⟩
  sessionClose _ := none
  terminalResize _ := none
  serviceAction _ := none
  processTerminate _ := none
  filesPath _ := none
  filesRename _ := none
  filesStream _ := some ⟨"/tmp/notes", "00000000-0000-0000-0000-000000000002"⟩
  logsQuery _ := none
  agentUpdate _ := none
  quote := id

/-- Every operation succeeds. -/
def readyProvider : Provider Unit where
  inventory := .ok ()
  openTerminal := .ok ()
  listServices := .ok ()
  startService _ := .ok ()
  stopService _ := .ok ()
  restartService _ := .ok ()
  listProcesses := .ok ()
  terminateProcess _ _ := .ok ()
  listDir _ := .ok ()
  mkdir _ := .ok ()
  rename _ _ := .ok ()
  delete _ := .ok ()
  readFile _ := .ok 0
  writeFile _ := .ok ()
  queryLogs _ := .ok ()
  ensureSupportAccount := .ok ("", "")
  beginUpdate _ := .ok ()
  dial _ := .ok ()
  report := true
  write := true
  close := .ok ()

/-- The terminal and the upload are written to; the services are not listed, but the command is
answered. -/
theorem policy_gate_upload :
    ∃ s, exec (step { AgentPolicy.default with serviceControl := false } uploadLibrary)
      (init Unit { AgentPolicy.default with serviceControl := false })
      [.message [1] readyProvider, .frame (encodeStreamFrame ⟨1, 1, [108, 115]⟩) readyProvider,
        .message [2] readyProvider, .frame (encodeStreamFrame ⟨3, 2, [104, 105]⟩) readyProvider,
        .message [3] readyProvider] = some s ∧
      .use 0 (.write [108, 115]) ∈ s.trace ∧ .use 1 (.write [104, 105]) ∈ s.trace ∧
      .call .listServices ∉ s.trace ∧ s.opened = [.terminal, .upload "/tmp/notes"] ∧
        s.replies "third" = 1 := by
  refine exists_of_exec (fun s ↦ .use 0 (.write [108, 115]) ∈ s.trace ∧ .use 1 (.write [104, 105]) ∈
        s.trace ∧ s.opened = [.terminal, .upload "/tmp/notes"]) (by decide +kernel)
    fun s hrun ⟨hterminal, hupload, hopn⟩ ↦ ?_
  obtain ⟨hcalls, -, hreplies, -⟩ := policy_gate hrun
  refine ⟨hterminal, hupload, fun hcall ↦ ?_, hopn, ?_⟩
  · exact absurd (hcalls _ hcall) (by decide)
  · exact hreplies "third" (by decide +kernel)

end Runs

end WartungsRemote.Agent.Commands
