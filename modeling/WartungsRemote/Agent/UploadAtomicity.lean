import WartungsRemote.Agent.UploadSession

/-!
# Atomicity of uploads

The steps of the server and the hub, which leave the agent alone (`SameAgent`), complete the step
lemma of careful uploads, and with it the theorem about careful runs: **a target holds what it held,
or the whole of an upload**. A run after it ends the control connection in the middle of an upload.
-/

namespace WartungsRemote.Agent

open Posix Function List Option State
open Relay (Payload)
open Transition

variable {files : Path → Option (List UInt8)} {s t : State} {l : Label} {c : ℕ} {id : UUID}

/-! ### Steps of the server -/

/-- What the server changes: its own records, and what is left to take. -/
structure SameAgent (s t : State) : Prop where
  fs : t.fs = s.fs
  writer : t.writer = s.writer
  answered : t.answered = s.answered
  writeFailed : t.writeFailed = s.writeFailed
  session : ∀ c, (t.conns c).uploads = (s.conns c).uploads ∧
    (t.conns c).readLoop = (s.conns c).readLoop ∧ (t.conns c).closeAll = (s.conns c).closeAll
  taken : ∀ c, (t.conns c).taken = (s.conns c).taken
  sent : ∀ c, (s.conns c).sent <+: (t.conns c).sent
  requests : ∀ id r, s.requests id = some r → ∃ r', t.requests id = some r' ∧ r'.path = r.path ∧
    r'.conn = r.conn ∧ (r.phase = .finished → r'.phase = .finished ∧ r'.body = r.body)

theorem SameAgent.inProgress (h : SameAgent s t) {c : ℕ} {id : UUID} :
    InProgress t c id ↔ InProgress s c id := by
  obtain ⟨hups, hloop, hcl⟩ := h.session c
  simp only [InProgress, Conn.Uses, hups, hloop, hcl]

variable (hinv : UploadInv files s)
include hinv

theorem SameAgent.received (h : SameAgent s t) (c : ℕ) (id : UUID) :
    (t.conns c).received id = (s.conns c).received id := by
  unfold Conn.received
  rw [h.taken, prefix_iff_eq_append.1 (h.sent c) |>.symm, take_append_of_le_length
    (hinv.transfer.taken_le c)]

/-- **A server step keeps the invariant** if it keeps that of the transfer and sends what is in
order. -/
theorem UploadInv.of_sameAgent (h : SameAgent s t) (htr : TransferInv t)
    (hreqs : ∀ id r, t.requests id = some r → s.requests id = some r ∨
      (∀ path, cleanPath r.path = .ok path → ¬ IsTemp path) ∧
      (r.phase = .streaming → s.answered id = some true))
    (hannounced : ∀ c id path, .command id path ∈ (t.conns c).sent.drop (t.conns c).taken →
      .command id path ∈ (s.conns c).sent.drop (s.conns c).taken ∨ Announced t c id path)
    (honce : ∀ c, (((t.conns c).sent.drop (t.conns c).taken).filterMap Message.announces).Nodup)
    (huna : ∀ id, t.answered id ≠ some true → ∀ c, frames (t.conns c).sent id = []) :
    UploadInv files t where
  transfer := htr
  targets id r path hr hclean := by
    obtain hold | ⟨hnew, -⟩ := hreqs id r hr
    · exact hinv.targets id r path hold hclean
    · exact hnew path hclean
  writing c id hin := by
    obtain ⟨w, hw⟩ := hinv.writing c id (h.inProgress.1 hin)
    obtain ⟨r, hr, hconn, hpath⟩ := hw.request
    obtain ⟨r', hr', hpath', hconn', -⟩ := h.requests id r hr
    refine ⟨w, ⟨r', hr', hconn'.trans hconn, hpath' ▸ hpath⟩, h.writer ▸ hw.writer, hw.tmpPath, ?_⟩
    rw [h.fs, h.received hinv]
    unfold Conn.unwritten
    rw [(h.session c).2.1]
    exact hw.file
  alone c id w c' id' w' hin hin' hw hw' hpath :=
    hinv.alone c id w c' id' w' (h.inProgress.1 hin) (h.inProgress.1 hin') (h.writer ▸ hw)
      (h.writer ▸ hw') hpath
  session c := by
    obtain ⟨hnd, hopen, hloop, hclrs⟩ := hinv.session c
    obtain ⟨hups, hread, hcl⟩ := h.session c
    refine ⟨hups ▸ hnd, ?_, ?_, hcl ▸ hclrs⟩
    · rw [hups, h.writer]
      exact hopen
    · simpa only [LoopInv, hread, hups, h.writer, h.received hinv] using hloop
  announced c id path hmem := by
    obtain hmem | hnew := hannounced c id path hmem
    · obtain ⟨⟨r, hr, hconn, hpath⟩, hans, hidle⟩ := hinv.announced c id path hmem
      obtain ⟨r', hr', hpath', hconn', -⟩ := h.requests id r hr
      exact ⟨⟨r', hr', hconn'.trans hconn, hpath'.trans hpath⟩, h.answered ▸ hans,
        fun c' hin ↦ hidle c' (h.inProgress.1 hin)⟩
    · exact hnew
  once := honce
  unanswered := huna
  streaming id r hr hph := by
    rw [h.answered]
    obtain hold | ⟨-, hnew⟩ := hreqs id r hr
    · exact hinv.streaming id r hold hph
    · exact hnew hph
  unrequested id hid := by
    rw [h.answered]
    refine hinv.unrequested id (eq_none_iff_forall_not_mem.2 fun r hr ↦ ?_)
    obtain ⟨r', hr', -⟩ := h.requests id r hr
    rw [hid] at hr'
    cases hr'
  writeFailed := h.writeFailed.trans hinv.writeFailed
  intact path hpath := by
    unfold Intact
    rw [h.fs]
    obtain hfiles | ⟨bytes, ⟨id, r, hr, hclean, hph, hbody, heof, hok⟩, hbytes⟩ :=
      hinv.intact path hpath
    · exact .inl hfiles
    · obtain ⟨r', hr', hpath', hconn', hfin⟩ := h.requests id r hr
      refine .inr ⟨bytes, ⟨id, r', hr', hpath' ▸ hclean, (hfin hph).1,
        (hfin hph).2.trans hbody, ?_, h.writeFailed ▸ hok⟩, hbytes⟩
      rw [hconn', h.received hinv]
      exact heof

theorem UploadInv.setCurrent {n : ℕ} {current : Option ℕ}
    (htr : TransferInv { s with connections := n, current := current }) :
    UploadInv files { s with connections := n, current := current } :=
  hinv.of_sameAgent
    ⟨rfl, rfl, rfl, rfl, fun _ ↦ ⟨rfl, rfl, rfl⟩, fun _ ↦ rfl, fun _ ↦ prefix_rfl,
      fun _ r hr ↦ ⟨r, hr, rfl, rfl, fun h ↦ ⟨h, rfl⟩⟩⟩
    htr (fun _ _ h ↦ .inl h) (fun _ _ _ h ↦ .inl h) hinv.once hinv.unanswered

omit hinv in
theorem drop_setRequest_send (hinv : TransferInv s) (id : UUID) (r : Request) (c c' : ℕ)
    (msg : Message) :
    (((s.setRequest id r).send c msg).conns c').sent.drop
    (((s.setRequest id r).send c msg).conns c').taken =
      (s.conns c').sent.drop (s.conns c').taken ++ if c' = c then [msg] else [] := by
  rw [send_taken, send_sent]
  exact drop_append_of_le_length (hinv.taken_le c')

omit hinv in
theorem SameAgent.setRequest {r' : Request} (h : ∀ r, s.requests id = some r → r'.path = r.path ∧
    r'.conn = r.conn ∧ r.phase ≠ .finished) : SameAgent s (s.setRequest id r') := by
  refine ⟨rfl, rfl, rfl, rfl, fun _ ↦ ⟨rfl, rfl, rfl⟩, fun _ ↦ rfl, fun _ ↦ prefix_rfl,
    fun id' r hr ↦ ?_⟩
  by_cases hid : id' = id
  · subst hid
    obtain ⟨hpath, hconn, hph⟩ := h r hr
    exact ⟨r', update_self .., hpath, hconn, fun hfin ↦ absurd hfin hph⟩
  · exact ⟨r, (update_of_ne hid ..).trans hr, rfl, rfl, fun hfin ↦ ⟨hfin, rfl⟩⟩

omit hinv in
theorem SameAgent.send (h : SameAgent s t) (c : ℕ) (msg : Message) :
    SameAgent s (t.send c msg) where
  fs := h.fs
  writer := h.writer
  answered := h.answered
  writeFailed := h.writeFailed
  requests := h.requests
  taken c' := (send_taken t c c' msg).trans (h.taken c')
  sent c' := by
    rw [send_sent]
    exact (h.sent c').trans (prefix_append ..)
  session c' := by
    by_cases hc : c' = c
    · subst hc
      simp only [State.send, State.setConn, update_self]
      exact h.session c'
    · simp only [State.send, State.setConn, update_of_ne hc]
      exact h.session c'

theorem UploadInv.setRequest {r r' : Request} (hr : s.requests id = some r)
    (hpath : r'.path = r.path) (hconn : r'.conn = r.conn) (hph : r.phase ≠ .finished)
    (hready : r'.phase = .streaming → s.answered id = some true)
    (htr : TransferInv (s.setRequest id r')) : UploadInv files (s.setRequest id r') := by
  have hsame : SameAgent s (s.setRequest id r') := SameAgent.setRequest fun r₀ hr₀ ↦ by
    cases hr.symm.trans hr₀
    exact ⟨hpath, hconn, hph⟩
  refine hinv.of_sameAgent hsame htr (fun id' r₀ hr₀ ↦ ?_) (fun _ _ _ h ↦
    .inl h) hinv.once hinv.unanswered
  obtain ⟨rfl, ⟨⟩⟩ | ⟨-, hr₀⟩ := update_apply_eq_iff.1 hr₀
  · exact .inr ⟨fun path hclean ↦ hinv.targets id' r path hr (hpath ▸ hclean), hready⟩
  · exact .inl hr₀

theorem UploadInv.setRequest_send {r r' : Request} {payload : Payload}
    (hr : s.requests id = some r) (hpath : r'.path = r.path) (hconn : r'.conn = r.conn)
    (hph : r.phase = .streaming)
    (htr : TransferInv ((s.setRequest id r').send c (.frame id payload))) :
    UploadInv files ((s.setRequest id r').send c (.frame id payload)) := by
  have hready := hinv.streaming id r hr hph
  have hsame : SameAgent s ((s.setRequest id r').send c (.frame id payload)) := by
    refine (SameAgent.setRequest fun r₀ hr₀ ↦ ?_).send c _
    cases hr.symm.trans hr₀
    exact ⟨hpath, hconn, by simp [hph]⟩
  refine hinv.of_sameAgent hsame htr (fun id' r₀ hr₀ ↦ ?_) (fun c' id' path h ↦ ?_) (fun c' ↦ ?_)
    fun id' hid c' ↦ ?_
  · obtain ⟨rfl, ⟨⟩⟩ | ⟨-, hr₀⟩ := update_apply_eq_iff.1 hr₀
    · exact .inr ⟨fun path hclean ↦ hinv.targets id' r path hr (hpath ▸ hclean), fun _ ↦ hready⟩
    · exact .inl hr₀
  · rw [drop_setRequest_send hinv.transfer, mem_append] at h
    refine .inl (h.resolve_right fun h ↦ ?_)
    split at h
    · cases mem_singleton.1 h
    · cases h
  · rw [drop_setRequest_send hinv.transfer, filterMap_append]
    have hnone : (if c' = c then [Message.frame id payload] else []).filterMap Message.announces =
        [] := by
      split <;> rfl
    rw [hnone, append_nil]
    exact hinv.once c'
  · have hne : (Message.frame id payload).stream ≠ id' := fun heq ↦ hid (heq ▸ hready)
    rw [frames_send_of_ne hne]
    exact hinv.unanswered id' hid c'

theorem UploadInv.request {path : Path} (hid : s.requests id = none) {r : Request}
    (hr : r.conn = c ∧ r.path = path ∧ r.phase = .awaiting)
    (htarget : ∀ target, cleanPath path = .ok target → ¬ IsTemp target)
    (htr : TransferInv ((s.setRequest id r).send c (.command id path))) :
    UploadInv files ((s.setRequest id r).send c (.command id path)) := by
  have hsame : SameAgent s ((s.setRequest id r).send c (.command id path)) := by
    refine (SameAgent.setRequest fun r₀ hr₀ ↦ ?_).send c _
    rw [hid] at hr₀
    cases hr₀
  refine hinv.of_sameAgent hsame htr (fun id' r₀ hr₀ ↦ ?_) (fun c' id' path' h ↦ ?_) (fun c' ↦ ?_)
    fun id' hid' c' ↦ ?_
  · obtain ⟨rfl, ⟨⟩⟩ | ⟨-, hr₀⟩ := update_apply_eq_iff.1 hr₀
    · exact .inr ⟨hr.2.1 ▸ htarget, fun hstreaming ↦ by simp [hr.2.2] at hstreaming⟩
    · exact .inl hr₀
  · rw [drop_setRequest_send hinv.transfer, mem_append] at h
    refine h.imp_right fun h ↦ ?_
    split at h
    next hc =>
      obtain ⟨rfl, rfl⟩ := Message.command.inj (mem_singleton.1 h)
      refine ⟨⟨r, update_self .., hr.1.trans hc.symm, hr.2.1⟩, hinv.unrequested id' hid,
        fun c'' hin ↦ ?_⟩
      exact hinv.not_inProgress_of_unrequested hid c'' (hsame.inProgress.1 hin)
    · cases h
  · rw [drop_setRequest_send hinv.transfer, filterMap_append]
    split
    · refine (hinv.once c').append (nodup_singleton id) ?_
      intro id' hmem hmem'
      obtain rfl := mem_singleton.1 hmem'
      obtain ⟨msg, hmsg, hann⟩ := mem_filterMap.1 hmem
      cases msg with
      | command id'' path'' =>
        obtain rfl := some.inj hann
        obtain ⟨r₀, hr₀, -⟩ := (hinv.announced c' id'' path'' hmsg).request
        rw [hid] at hr₀
        cases hr₀
      | frame => cases hann
    · simpa using hinv.once c'
  · have hframes : frames (((s.setRequest id r).send c (.command id path)).conns c').sent id' =
        frames (s.conns c').sent id' := by
      rw [send_sent, frames_append]
      split <;> exact append_nil _
    rw [hframes]
    exact hinv.unanswered id' hid' c'

/-! ### Careful runs -/

/-- **Every careful step preserves the invariant.** -/
theorem UploadInv.step (hcare : Careful s l) (h : step s l = some t) : UploadInv files t := by
  have htr := hinv.transfer.step h
  cases l with
  | connect | disconnect =>
    cases h
    exact hinv.setCurrent htr
  | request =>
    obtain ⟨c, hid, -, rfl⟩ := request_eq_some h
    exact hinv.request hid ⟨rfl, rfl, rfl⟩ hcare htr
  | ready =>
    obtain ⟨r, hr, hans, hph, rfl⟩ := ready_eq_some h
    exact hinv.setRequest hr rfl rfl (by simp [hph]) (fun _ ↦ hans) htr
  | giveUp =>
    obtain ⟨r, hr, hph, rfl⟩ := giveUp_eq_some h
    exact hinv.setRequest hr rfl rfl hph nofun htr
  | bodyChunk =>
    obtain ⟨r, c, hr, -, hph, -, rfl⟩ := bodyChunk_eq_some h
    exact hinv.setRequest_send hr rfl rfl hph htr
  | bodyEOF =>
    obtain ⟨r, hr, hph, ⟨c, -, rfl⟩ | rfl⟩ := bodyEOF_eq_some h
    · exact hinv.setRequest_send hr rfl rfl hph htr
    · exact hinv.setRequest hr rfl rfl (by simp [hph]) nofun htr
  | read => exact hinv.read hcare h
  | write => exact hinv.write h
  | work => exact hinv.work hcare h
  | closeAll c =>
    simp only [step, closeAll] at h
    split at h
    next hcond =>
      cases h
      have hemp : (s.conns c).uploads = [] := hcare
      refine hinv.setConn rfl rfl hemp.symm rfl fun ids stage hcl ↦ ?_
      obtain ⟨rfl, -⟩ := Prod.mk.inj (some.inj hcl)
      exact perm_nil.1 (hemp ▸ hcond.2)
    · cases h
  | closeNext c =>
    simp only [step, closeNext] at h
    split at h
    next id rest stage hcl => cases (hinv.session c).closers _ _ hcl
    · cases h
  | closeNow c =>
    simp only [step, closeNow] at h
    split at h
    · cases h
      exact hinv.setConn rfl rfl rfl rfl (hinv.session c).closers
    · cases h
  | restart =>
    cases h
    exact hinv.restart

omit hinv

/-- Nothing is in progress at the start. -/
theorem uploadInv_init (filesWrite : Bool) (files : Path → Option (List UInt8)) :
    UploadInv files (init filesWrite files) where
  transfer := transferInv_init filesWrite files
  targets := nofun
  writing c id h := by
    obtain h | h | ⟨_, _, h, _⟩ := h <;> cases h
  alone c id w c' id' w' h := by
    obtain h | h | ⟨_, _, h, _⟩ := h <;> cases h
  session _ := ⟨nodup_nil, fun _ h ↦ absurd h not_mem_nil, trivial, nofun⟩
  announced := nofun
  once _ := nodup_nil
  unanswered _ _ _ := rfl
  streaming := nofun
  unrequested _ _ := rfl
  writeFailed := rfl
  intact path _ := .inl (FileSystem.content_ofFiles files path)

/-- **Uploads are atomic in careful runs**, whatever files there were at the start. -/
theorem uploadsAtomic_of_careful (filesWrite : Bool) (files : Path → Option (List UInt8))
    (ls : List Label) (hrun : exec step (init filesWrite files) ls = some s)
    (hcare : Along step (fun s l _ ↦ Careful s l) (init filesWrite files) ls) :
    UploadsAtomic files s := by
  have hinv : UploadInv files s := invariant_of_along (I := UploadInv files)
    (fun _ l _ hi h hc ↦ hi.step (l := l) hc h) (uploadInv_init filesWrite files) hrun hcare
  exact fun id r path hr hpath ↦ hinv.intact path (hinv.targets id r path hr hpath)

/-- Two uploads at the same time, to different files. -/
theorem uploadsAtomic_of_careful_two : ∃ s, exec step (init true fun _ ↦ some [1])
        [.connect, .request 7 ['/', 'a'], .read 0 true, .work 0 true, .ready 7, .bodyChunk 7 [2, 3],
          .request 8 ['/', 'b'], .read 0 true, .work 0 true, .write 0 2, .read 0 true, .work 0 true,
          .ready 8, .bodyEOF 7, .bodyChunk 8 [4], .read 0 true, .work 0 true, .work 0 true,
          .work 0 true] = some s ∧
      s.fs.content ['/', 'a'] = some [2, 3] ∧ s.fs.content ['/', 'b'] = some [1] ∧
      UploadsAtomic (fun _ ↦ some [1]) s := by
  refine exists_of_exec
    (fun s ↦ s.fs.content ['/', 'a'] = some [2, 3] ∧ s.fs.content ['/', 'b'] = some [1])
      (by decide +kernel)
    fun s hrun hcont ↦ ⟨hcont.1, hcont.2, uploadsAtomic_of_careful _ _ _ hrun ?_⟩
  refine .cons rfl trivial ?_
  refine .cons rfl ?_ ?_
  · rintro target ⟨⟩
    decide
  refine .cons rfl ?_ ?_
  · rintro _ _ _ - - _ _ _ - hw
    cases hw
  refine .cons rfl nofun ?_
  iterate 2 refine .cons rfl trivial ?_
  refine .cons rfl ?_ ?_
  · rintro target ⟨⟩
    decide
  refine .cons rfl nofun ?_
  refine .cons rfl nofun ?_
  refine .cons rfl trivial ?_
  refine .cons rfl ?_ ?_
  · rintro _ _ _ ⟨⟩ ⟨⟩ c id w - hw
    by_cases hid : id = 7
    · subst hid
      cases hw
      decide
    · -- no other upload has a writer yet
      have hnone (w₁ w₂ : Option AtomicWriteCloser) :
          update (update (fun _ ↦ none) 7 w₁) 7 w₂ id = none := by
        rw [update_of_ne hid, update_of_ne hid]
      cases (hnone _ _).symm.trans hw
  refine .cons rfl nofun ?_
  iterate 3 refine .cons rfl trivial ?_
  iterate 4 refine .cons rfl nofun ?_
  exact trivial

/-- The control connection ends in the middle of an upload: `closeAll` closes the writer, and half
of the body replaces the target. -/
theorem not_uploadsAtomic_disconnect : ∃ s, exec step (init true fun _ ↦ some [1])
        [.connect, .request 7 ['/', 'a'], .read 0 true, .work 0 true, .ready 7, .bodyChunk 7 [2, 3],
          .read 0 true, .work 0 true, .write 0 2, .closeAll 0 [7], .closeNext 0 true,
          .closeNext 0 true] = some s ∧ ¬ UploadsAtomic (fun _ ↦ some [1]) s := by
  refine ⟨_, rfl, fun h ↦ ?_⟩
  obtain hfiles | ⟨_, ⟨id, r, hr, -, hph, -⟩, -⟩ := h 7 _ ['/', 'a'] rfl rfl
  · cases hfiles
  · by_cases hid : id = 7
    · subst hid
      cases hr
      cases hph
    · -- no other upload was requested
      have hnone (r₁ r₂ r₃ : Option Request) : update (update
          (update (fun _ ↦ none) 7 r₁) 7 r₂) 7 r₃ id = none := by
        rw [update_of_ne hid, update_of_ne hid, update_of_ne hid]
      cases (hnone _ _ _).symm.trans hr

end WartungsRemote.Agent
