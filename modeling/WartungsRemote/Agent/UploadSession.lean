import WartungsRemote.Agent.UploadInvariant

/-!
# The agent's side of an upload

The steps of a session keep the invariant of careful uploads. A busy read loop changes its own
upload only (`LoopStep`). What is renamed to a target is complete (`UploadInv.completed`) because a
read loop inside `Close` has taken the empty frame, and `TransferInv` says that nothing is missing
before it.
-/

namespace WartungsRemote.Agent

open Posix Function List Option State FileSystem ReadLoop
open Relay (Payload)

variable {files : Path → Option (List UInt8)} {s t : State}

/-! ### Steps of a session -/

theorem unwritten_of_upload {conn : Conn} {id : UUID} (h : conn.readLoop.upload = some id) :
    conn.unwritten id = conn.readLoop.unwritten :=
  if_pos h

/-- A read loop busy with an upload goes on with it or is done: the writer may change, and the map
may lose or gain the upload. -/
structure LoopStep (s t : State) (c : ℕ) (conn : Conn) (id : UUID) (w' : AtomicWriteCloser) :
    Prop where
  server : SameServer s t
  conns : t.conns = update s.conns c conn
  writer : t.writer = update s.writer id (some w')
  before : (s.conns c).readLoop.upload = some id
  after : ∀ id' ≠ id, conn.readLoop.upload ≠ some id'
  received : conn.received = (s.conns c).received
  uploads : ∀ id' ≠ id, id' ∈ conn.uploads → id' ∈ (s.conns c).uploads
  nodup : conn.uploads.Nodup
  closed : id ∈ conn.uploads → w'.closed = false
  closeAll : conn.closeAll = (s.conns c).closeAll
  loop : LoopInv t.writer conn
  writeFailed : t.writeFailed = s.writeFailed

variable {c c' : ℕ} {conn : Conn} {id id' : UUID} {w w' : AtomicWriteCloser} {payload : Payload}
  {stage : CloseStage} {next : Option CloseStage} {s' : State} {msg : Message} {ok : Bool}
      {path target : Path}

theorem LoopStep.conns_self (h : LoopStep s t c conn id w') : t.conns c = conn := by
  rw [h.conns, update_self]

theorem LoopStep.inProgress (h : LoopStep s t c conn id w') : InProgress s c id :=
  .inr (.inl h.before)

theorem writer_eq_update (h : s.writer id = some w) : s.writer = update s.writer id (some w) := by
  rw [← h, update_eq_self]

theorem unwritten_closeRest {conn : Conn} (hloop : conn.readLoop = .closing id stage)
    (next : Option CloseStage) :
    Conn.unwritten { conn with readLoop := .closeRest id next } id = conn.unwritten id := by
  cases next <;> simp [Conn.unwritten, closeRest, upload, unwritten, hloop]

theorem received_take (hmsg : conn.sent[conn.taken]? = some msg) (id : UUID) :
    conn.take.received id = conn.received id ++ frames [msg] id := by
  simp only [Conn.received, Conn.take]
  rw [take_add_one, hmsg, toList_some, frames_append]

theorem mem_drop_of_taken (hmsg : conn.sent[conn.taken]? = some msg) :
    conn.sent.drop conn.taken = msg :: conn.sent.drop (conn.taken + 1) := by
  obtain ⟨hlt, heq⟩ := List.getElem?_eq_some_iff.1 hmsg
  rw [drop_eq_getElem_cons hlt, heq]

theorem inProgress_of_take (h : InProgress (s.setConn c (s.conns c).take) c' id) :
    InProgress s c' id := by
  by_cases hc : c' = c
  · subst hc
    simp only [InProgress, setConn, update_self] at h
    exact h
  · simpa only [InProgress, setConn, update_of_ne hc] using h

/-- `WriteFile` has opened the temporary file of a target for an upload. -/
structure OpenStep (s t : State) (c : ℕ) (id : UUID) (target : Path) : Prop where
  server : SameServer s t
  conn : t.conns c = { s.conns c with readLoop := .adding id }
  conns : ∀ c' ≠ c, t.conns c' = s.conns c'
  writers : ∀ id' ≠ id, t.writer id' = s.writer id'
  writer : t.writer id = some
    { f := s.fs.opened (tmpPathOf target), closed := false, tmpPath := tmpPathOf target,
      finalPath := target }
  fs : t.fs = s.fs.truncate (tmpPathOf target)

theorem openStep_writeFile (s : State) (c : ℕ) (id : UUID) (target : Path) :
    OpenStep s ((s.writeFile id target).setConn c { s.conns c with readLoop := .adding id }) c id
      target where
  server := by
    refine SameServer.trans ?_ (sameServer_setConn rfl rfl)
    exact { SameServer.refl s with }
  conn := update_self ..
  conns _ hc := update_of_ne hc ..
  writers _ hid := update_of_ne hid ..
  writer := update_self ..
  fs := rfl

section

variable (h : OpenStep s t c id target)
include h

theorem OpenStep.received (c' : ℕ) (id' : UUID) :
    (t.conns c').received id' = (s.conns c').received id' := by
  by_cases hc : c' = c
  · subst hc
    rw [h.conn]
    rfl
  · rw [h.conns c' hc]

theorem OpenStep.inProgress (hnew : ∀ c, ¬ InProgress s c id)
    (hin : InProgress t c' id') : c' = c ∧ id' = id ∨ InProgress s c' id' ∧ id' ≠ id := by
  have hold : InProgress s c' id' → id' ≠ id := fun hin' heq ↦ hnew c' (heq ▸ hin')
  by_cases hc : c' = c
  · subst hc
    rw [InProgress, h.conn] at hin
    obtain hmem | hloop | hcl := hin
    · exact .inr ⟨.inl hmem, hold (.inl hmem)⟩
    · exact .inl ⟨rfl, (some.inj hloop).symm⟩
    · exact .inr ⟨.inr (.inr hcl), hold (.inr (.inr hcl))⟩
  · have hin' := (inProgress_congr (h.conns c' hc)).1 hin
    exact .inr ⟨hin', hold hin'⟩

theorem OpenStep.writing_of_ne (hidle : (s.conns c).readLoop = .idle)
    (hne : id' ≠ id) (hw : Writing s c' id' w) (hfin : w.finalPath ≠ target) :
    Writing t c' id' w := by
  obtain ⟨bytes, hwr, heq⟩ := hw.file
  refine ⟨h.server.requests ▸ hw.request, (h.writers id' hne).trans hw.writer, hw.tmpPath, bytes,
    ?_, ?_⟩
  · rw [h.fs]
    refine hwr.truncate_of_ne ?_
    rw [hw.tmpPath]
    exact fun heq ↦ hfin (tmpPathOf_inj heq)
  · rw [h.received, ← heq]
    refine congrArg (bytes ++ ·) ?_
    by_cases hc : c' = c
    · subst hc
      rw [h.conn]
      simp [Conn.unwritten, upload, hidle, hne.symm]
    · rw [h.conns c' hc]

end

variable (hinv : UploadInv files s)
include hinv

theorem LoopStep.sessionInv (h : LoopStep s t c conn id w') : SessionInv t.writer conn where
  nodup := h.nodup
  open_ id' hmem v hv := by
    rw [h.writer, update_apply] at hv
    split at hv
    next heq =>
      cases hv
      exact h.closed (heq ▸ hmem)
    next hne => exact (hinv.session c).open_ id' (h.uploads id' hne hmem) v hv
  loop := h.loop
  closers := by
    rw [h.closeAll]
    exact (hinv.session c).closers

/-- **A step of a busy read loop keeps the invariant** if the file of its upload keeps up with what
was taken, other files stay, and a target changes to a completed upload only. -/
theorem UploadInv.of_loopStep (hw : Writing s c id w) (h : LoopStep s t c conn id w')
    (hfin : w'.finalPath = w.finalPath) (htmp : w'.tmpPath = w.tmpPath)
    (hwr : ∀ p f bytes, IsTemp p → p ≠ w.tmpPath → s.fs.Wrote p f bytes → t.fs.Wrote p f bytes)
    (hfile : conn.Uses id → ∃ bytes, t.fs.Wrote w.tmpPath w'.f bytes ∧
      bytes ++ conn.unwritten id = ((s.conns c).received id).flatten)
    (hans : ∀ id', t.answered id' = s.answered id' ∨ id' = id ∧ t.answered id' = some true)
    (hfiles : ∀ path, ¬ IsTemp path → t.fs.content path = s.fs.content path ∨
      ∃ bytes, Completed s path bytes ∧ t.fs.content path = some bytes) : UploadInv files t := by
  have hown : OwnStep s t c id w := by
    refine ⟨fun c' hc ↦ ?_, fun id' hid ↦ ?_, ?_, hwr, fun hin ↦ ?_⟩
    · rw [h.conns, update_of_ne hc]
    · rw [h.writer, update_of_ne hid]
    · rw [h.conns_self]
      refine ⟨fun id' hid heq ↦ ?_, h.after, h.uploads, h.closeAll, fun _ _ ↦ by rw [h.received]⟩
      exact hid (some.inj (heq.symm.trans h.before))
    · obtain ⟨bytes, hbytes, heq⟩ := hfile (h.conns_self ▸ hin)
      refine ⟨w', ⟨?_, ?_, ?_, bytes, ?_, ?_⟩, hfin⟩
      · rw [h.server.requests, hfin]
        exact hw.request
      · rw [h.writer, update_self]
      · rw [htmp, hfin, hw.tmpPath]
      · rw [htmp]
        exact hbytes
      · rw [h.conns_self, h.received, heq]
  refine hinv.of_ownStep h.server h.inProgress hw hown (fun id' ↦ ?_) h.writeFailed hfiles
    (h.conns_self ▸ h.sessionInv hinv)
  obtain heq | ⟨rfl, heq⟩ := hans id'
  · exact .inl heq
  · exact .inr ⟨⟨c, h.inProgress⟩, heq⟩

/-- A `write(2)` appends to the file of the upload what was taken for it. -/
theorem UploadInv.write {k : ℕ} (h : s.write c k = some t) : UploadInv files t := by
  have hserv := sameServer_write h
  simp only [State.write] at h
  split at h
  case h_2 => cases h
  case h_1 id rest hloop =>
  split at h
  case h_2 => cases h
  case h_1 w hwtr =>
  split at h
  case isFalse => cases h
  case isTrue hk =>
  have hbusy := congrArg upload hloop
  obtain ⟨w', hw⟩ := hinv.writing c id (.inr (.inl hbusy))
  obtain rfl := some.inj (hw.writer.symm.trans hwtr)
  obtain ⟨bytes, hwr, heq⟩ := hw.file
  rw [unwritten_of_upload hbusy, hloop] at heq
  have hwr' : (s.fs.write w'.f (rest.take k)).Wrote w'.tmpPath (w'.f.advance k) (bytes ++
      rest.take k) := by
    have happend : (s.fs.write w'.f (rest.take k)).Wrote w'.tmpPath
      (w'.f.advance (rest.take k).length) (bytes ++ rest.take k) := hwr.write
    rwa [length_take_of_le hk.2] at happend
  have hstep : LoopStep s t c { s.conns c with readLoop := .writeRest id (rest.drop k) } id
      { w' with f := w'.f.advance k } := by
    cases h
    refine ⟨hserv, rfl, rfl, hbusy, fun id' hid ↦ ?_, rfl, fun _ _ hmem ↦ hmem,
      (hinv.session c).nodup, fun hmem ↦ (hinv.session c).open_ id hmem w' hwtr, rfl, ?_, rfl⟩
    · unfold writeRest
      split
      · simp [upload]
      · simpa [upload] using hid.symm
    · by_cases hrest : rest.drop k = [] <;> simp [LoopInv, writeRest, hrest]
  have hunw : Conn.unwritten { s.conns c with readLoop := .writeRest id (rest.drop k) } id =
      rest.drop k := by
    unfold Conn.unwritten writeRest
    split <;> simp_all [upload, unwritten]
  cases h
  refine hinv.of_loopStep hw hstep rfl rfl (fun p f b _ hp hf ↦ hf.write_of_ne hwr.dir hp)
    (fun _ ↦ ⟨bytes ++ rest.take k, hwr', ?_⟩) (fun _ ↦ .inl rfl)
    fun path hpath ↦ .inl (content_write_of_ne hwr.dir fun heq ↦ hpath (heq ▸ hw.isTemp))
  rw [hunw, append_assoc, take_append_drop]
  exact heq

/-- The loop changes its place, and no file changes. -/
theorem UploadInv.of_loopChange (hw : Writing s c id w)
    (h : LoopStep s t c conn id w') (hfile : w'.f = w.f) (hfin : w'.finalPath = w.finalPath)
    (htmp : w'.tmpPath = w.tmpPath) (hfs : t.fs = s.fs)
    (hunw : conn.unwritten id = (s.conns c).unwritten id)
    (hans : ∀ id', t.answered id' = s.answered id' ∨ id' = id ∧ t.answered id' = some true) :
    UploadInv files t := by
  obtain ⟨bytes, hwr, heq⟩ := hw.file
  refine hinv.of_loopStep hw h hfin htmp ?_ (fun _ ↦ ⟨bytes, ?_, ?_⟩) hans fun path _ ↦ ?_
  · rw [hfs]
    exact fun _ _ _ _ _ hf ↦ hf
  · rw [hfs, hfile]
    exact hwr
  · rw [hunw, heq]
  · rw [hfs]
    exact .inl rfl

theorem UploadInv.addUpload (hloop : (s.conns c).readLoop = .adding id) :
    UploadInv files ((s.setConn c { s.conns c with
      uploads := id :: (s.conns c).uploads, readLoop := .idle }).answer id true) := by
  have hbusy := congrArg upload hloop
  have hses := hinv.session c
  have hnew := hses.loop
  simp only [LoopInv, hloop] at hnew
  obtain ⟨w, hw⟩ := hinv.writing c id (.inr (.inl hbusy))
  refine hinv.of_loopChange hw ⟨?_, rfl, writer_eq_update hw.writer, hbusy, fun _ _ ↦
    by simp [upload], rfl, fun id' hid hmem ↦ ?_, nodup_cons.2 ⟨hnew.1, hses.nodup⟩,
    fun _ ↦ hnew.2 w hw.writer, rfl, trivial, rfl⟩ rfl rfl rfl rfl ?_ fun id' ↦ ?_
  · refine SameServer.trans ?_ (sameServer_answer ..)
    exact sameServer_setConn rfl rfl
  · exact (mem_cons.1 hmem).resolve_left hid
  · simp [Conn.unwritten, upload, unwritten, hloop]
  · by_cases hid : id' = id
    · exact .inr ⟨hid, hid ▸ update_self ..⟩
    · exact .inl (update_of_ne hid ..)

theorem UploadInv.removeUpload (hloop : (s.conns c).readLoop = .got id []) :
    UploadInv files (s.removeUpload c id) := by
  have hbusy := congrArg upload hloop
  have hses := hinv.session c
  have hgot := hses.loop
  simp only [LoopInv, hloop] at hgot
  obtain ⟨w, hw⟩ := hinv.writing c id (.inr (.inl hbusy))
  refine hinv.of_loopChange hw ⟨sameServer_setConn rfl rfl, rfl, writer_eq_update hw.writer, hbusy,
    fun id' hid ↦ by simpa [upload] using hid.symm, rfl,
    fun _ _ hmem ↦ mem_of_mem_erase hmem, hses.nodup.erase id,
    fun hmem ↦ absurd hmem hses.nodup.not_mem_erase, rfl,
    ⟨hses.nodup.not_mem_erase, hgot.2 trivial⟩, rfl⟩ rfl rfl rfl rfl ?_ fun _ ↦ .inl rfl
  simp [Conn.unwritten, upload, unwritten, hloop]

theorem UploadInv.beginWrite (hloop : (s.conns c).readLoop = .got id payload) :
    UploadInv files (s.setConn c { s.conns c with readLoop := .writing id payload }) := by
  have hbusy := congrArg upload hloop
  have hses := hinv.session c
  obtain ⟨w, hw⟩ := hinv.writing c id (.inr (.inl hbusy))
  refine hinv.of_loopChange hw ⟨sameServer_setConn rfl rfl, rfl, writer_eq_update hw.writer, hbusy,
    fun id' hid ↦ by simpa [upload] using hid.symm, rfl, fun _ _ hmem ↦ hmem,
    hses.nodup, fun hmem ↦ hses.open_ id hmem w hw.writer, rfl, trivial, rfl⟩
    rfl rfl rfl rfl ?_ fun _ ↦ .inl rfl
  simp [Conn.unwritten, upload, unwritten, hloop]

/-- **An upload that is being closed is complete.** -/
theorem UploadInv.completed (hw : Writing s c id w)
    (heof : [] ∈ (s.conns c).received id) :
    Completed s w.finalPath ((s.conns c).received id).flatten := by
  obtain ⟨r, hr, rfl, hpath⟩ := hw.request
  obtain ⟨hph, hbody⟩ := hinv.transfer.received_flatten hr heof
  exact ⟨id, r, hr, hpath, hph, hbody.symm, heof, hinv.writeFailed ▸ not_mem_nil⟩

/-- The upload whose writer the read loop closes has left the table, and was received to its end. -/
theorem UploadInv.closing (hloop : (s.conns c).readLoop = .closing id stage) :
    id ∉ (s.conns c).uploads ∧ [] ∈ (s.conns c).received id := by
  have hclos := (hinv.session c).loop
  simpa only [LoopInv, hloop] using hclos

/-- After the last call of `w.Close` the upload is over. -/
theorem UploadInv.not_uses_closed (hloop : (s.conns c).readLoop = .closing id stage) :
    ¬ Conn.Uses { s.conns c with readLoop := .closeRest id none } id := by
  rintro (hmem | hmem | ⟨ids, stage, hcl, hmem⟩)
  · exact (hinv.closing hloop).1 hmem
  · cases hmem
  · rw [(hinv.session c).closers ids stage hcl] at hmem
    cases hmem

theorem UploadInv.loopStep_close (hloop : (s.conns c).readLoop = .closing id stage)
    (h : s.close id stage ok = some (s', next)) (hwtr : s'.writer = update s.writer id (some w'))
    (hfail : s'.writeFailed = s.writeFailed) :
    LoopStep s (s'.setConn c { s.conns c with readLoop := .closeRest id next }) c
      { s.conns c with readLoop := .closeRest id next } id w' := by
  have hbusy := congrArg upload hloop
  have hclos := hinv.closing hloop
  obtain ⟨hconns, hsame⟩ := sameServer_close h
  refine ⟨hsame.trans (sameServer_setConn (by rw [hconns]) (by rw [hconns])), ?_, hwtr, hbusy,
    ?_, rfl, fun _ _ hmem ↦ hmem, (hinv.session c).nodup, fun hmem ↦ absurd hmem hclos.1, rfl, ?_,
    hfail⟩
  · rw [← hconns]
    rfl
  · cases next with
    | none => simp [closeRest, upload]
    | some => simp [closeRest, upload, eq_comm]
  · cases next with
    | none => trivial
    | some => exact hclos

/-- A call of `Close`: only its rename changes a target. -/
theorem UploadInv.close (hloop : (s.conns c).readLoop = .closing id stage)
    (h : s.close id stage ok = some (s', next)) :
    UploadInv files (s'.setConn c { s.conns c with readLoop := .closeRest id next }) := by
  have hbusy := congrArg upload hloop
  obtain ⟨w, hw⟩ := hinv.writing c id (.inr (.inl hbusy))
  obtain ⟨_, hwr, heq⟩ := hw.file
  have hsame := writer_eq_update hw.writer
  have hunw := unwritten_closeRest hloop next
  have hstep {w' : AtomicWriteCloser} (hwtr : s'.writer = update s.writer id (some w')) :=
    hinv.loopStep_close hloop h hwtr
  unfold State.close at h
  rw [hw.writer] at h
  cases stage with
  | file =>
    dsimp only at h
    split at h <;> cases h
    · exact hinv.of_loopChange hw (hstep hsame rfl) rfl rfl rfl rfl hunw fun _ ↦ .inl rfl
    · exact hinv.of_loopChange hw (hstep rfl rfl) rfl rfl rfl rfl hunw fun _ ↦ .inl rfl
  | rename =>
    dsimp only at h
    split at h
    · split at h <;> cases h
      have htemp : ∀ p, IsTemp p → p ≠ w.finalPath := fun p hp heq ↦
        hinv.finalPath_not_isTemp hw (heq ▸ hp)
      refine hinv.of_loopStep hw (hstep hsame rfl) rfl rfl
        (fun p f b hp hne hf ↦ hf.rename_of_ne hne (htemp p hp))
        (fun huses ↦ absurd huses (hinv.not_uses_closed hloop)) (fun _ ↦ .inl rfl) fun path hpath ↦
          ?_
      by_cases hfin : path = w.finalPath
      · subst hfin
        refine .inr ⟨_, hinv.completed hw (hinv.closing hloop).2, ?_⟩
        show (s.fs.rename w.tmpPath w.finalPath).content w.finalPath = _
        rw [content_rename_self, hwr.content, ← heq, unwritten_of_upload hbusy, hloop]
        simp [unwritten]
      · exact .inl (content_rename_of_ne (fun heq ↦ hpath (heq ▸ hw.isTemp)) hfin)
    · cases h
      exact hinv.of_loopChange hw (hstep hsame rfl) rfl rfl rfl rfl hunw fun _ ↦ .inl rfl
  | remove =>
    dsimp only at h
    split at h <;> cases h
    · exact hinv.of_loopStep hw (hstep hsame rfl) rfl rfl
        (fun p f b hp hne hf ↦ hf.remove_of_ne hne)
        (fun huses ↦ absurd huses (hinv.not_uses_closed hloop)) (fun _ ↦ .inl rfl) fun path hpath ↦
          .inl (content_remove_of_ne fun heq ↦ hpath (heq ▸ hw.isTemp))
    · exact hinv.of_loopChange hw (hstep hsame rfl) rfl rfl rfl rfl hunw fun _ ↦ .inl rfl

/-- The read loop goes on with the frame in its hands. -/
theorem UploadInv.work
    (hcare : ∀ id rest, (s.conns c).readLoop ≠ .writing id rest) (h : s.work c ok = some t) :
    UploadInv files t := by
  have hloopInv := (hinv.session c).loop
  simp only [State.work] at h
  split at h
  · cases h
  next id hloop =>
    cases h
    exact hinv.addUpload hloop
  next id hloop =>
    cases h
    exact hinv.removeUpload hloop
  next id payload _ hloop =>
    simp only [LoopInv, hloop] at hloopInv
    split at h
    next w hwtr =>
      rw [if_neg (by simp [(hinv.session c).open_ id hloopInv.1 w hwtr])] at h
      cases h
      exact hinv.beginWrite hloop
    · cases h
  next id rest hloop => exact absurd hloop (hcare id rest)
  next id hloop =>
    simp only [LoopInv, hloop] at hloopInv
  next id stage hloop =>
    split at h
    next s' next hcl =>
      cases h
      exact hinv.close hloop hcl
    · cases h

/-! ### Taking a message -/

/-- The loop takes a message that is for no upload in progress. -/
theorem UploadInv.take (hidle : (s.conns c).readLoop = .idle)
    (hmsg : (s.conns c).sent[(s.conns c).taken]? = some msg)
    (hoth : ∀ id, InProgress s c id → frames [msg] id = []) :
    UploadInv files (s.setConn c (s.conns c).take) := by
  have hserv : SameServer s (s.setConn c (s.conns c).take) :=
    sameServer_take (List.getElem?_eq_some_iff.1 hmsg).1
  have hconns : ∀ c' ≠ c, (s.setConn c (s.conns c).take).conns c' = s.conns c' := fun c' hc ↦
    update_of_ne hc _ _
  have hconn : (s.setConn c (s.conns c).take).conns c = (s.conns c).take := update_self ..
  have hrecv : ∀ c' id, InProgress s c' id →
      ((s.setConn c (s.conns c).take).conns c').received id = (s.conns c').received id := by
    intro c' id hin
    by_cases hc : c' = c
    · subst hc
      rw [hconn, received_take hmsg, hoth id hin, append_nil]
    · rw [hconns c' hc]
  have hunw : ∀ c' id,
      ((s.setConn c (s.conns c).take).conns c').unwritten id = (s.conns c').unwritten id := by
    intro c' id
    by_cases hc : c' = c
    · subst hc
      rw [hconn]
      rfl
    · rw [hconns c' hc]
  refine hinv.of_continues ⟨hserv, fun _ _ ↦ inProgress_of_take, fun c' id w hin hw ↦ ?_,
    fun _ ↦ .inl rfl, rfl, fun _ _ ↦ .inl rfl⟩ fun c' ↦ ?_
  · refine ⟨w, { hw with file := ?_ }, rfl⟩
    rw [hunw, hrecv c' id (inProgress_of_take hin)]
    exact hw.file
  · by_cases hc : c' = c
    · subst hc
      obtain ⟨hnd, hopen, -, hclrs⟩ := hinv.session c'
      rw [hconn]
      refine ⟨hnd, hopen, ?_, hclrs⟩
      simp [LoopInv, Conn.take, hidle]
    · rw [hconns c' hc]
      exact hinv.session c'

theorem UploadInv.getUpload (hidle : (s.conns c).readLoop = .idle)
    (hmsg : (s.conns c).sent[(s.conns c).taken]? = some (.frame id payload))
    (hmem : id ∈ (s.conns c).uploads) :
    UploadInv files (s.setConn c { (s.conns c).take with readLoop := .got id payload }) := by
  have hserv : SameServer s
      (s.setConn c { (s.conns c).take with readLoop := .got id payload }) := by
    have hsame := (sameServer_take (List.getElem?_eq_some_iff.1 hmsg).1).trans
      (sameServer_frame (s.setConn c (s.conns c).take) c id payload)
    simp only [frame, setConn, update_self, update_idem] at hsame
    rwa [if_pos (show id ∈ (s.conns c).take.uploads from hmem)] at hsame
  have hconn : (s.setConn c { (s.conns c).take with readLoop := .got id payload }).conns c =
      { (s.conns c).take with readLoop := .got id payload } := update_self ..
  have hrecv : ∀ id', Conn.received { (s.conns c).take with readLoop := .got id payload } id' =
      (s.conns c).received id' ++ frames [.frame id payload] id' := received_take hmsg
  obtain ⟨w, hw⟩ := hinv.writing c id (.inl hmem)
  obtain ⟨bytes, hwr, heq⟩ := hw.file
  have hemp : (s.conns c).unwritten id = [] := by simp [Conn.unwritten, hidle, upload]
  rw [hemp, append_nil] at heq
  refine hinv.of_ownStep hserv (.inl hmem) hw ⟨fun c' hc ↦ update_of_ne hc _ _,
    fun _ _ ↦ rfl, ?_, fun _ _ _ _ _ hf ↦ hf, fun _ ↦ ⟨w, ⟨hw.request, hw.writer, hw.tmpPath, bytes,
      hwr, ?_⟩, rfl⟩⟩ (fun _ ↦ .inl rfl) rfl (fun _ _ ↦ .inl rfl) ?_
  · rw [hconn]
    refine ⟨fun _ _ ↦ by simp [hidle, upload], fun id' hid ↦ ?_, fun _ _ h ↦ h, rfl,
      fun id' hid ↦ ?_⟩
    · simpa [upload] using hid.symm
    · rw [hrecv, frames_frame_of_ne hid.symm, append_nil]
  · rw [hconn, hrecv, frames_frame, flatten_append, heq, flatten_singleton]
    simp [Conn.unwritten, upload, unwritten]
  · obtain ⟨hnd, hopen, -, hclrs⟩ := hinv.session c
    rw [hconn]
    refine ⟨hnd, hopen, ⟨hmem, ?_⟩, hclrs⟩
    rintro rfl
    rw [hrecv, frames_frame]
    exact mem_append_right _ (mem_singleton_self _)

/-- The upload is announced by no command that has still to be taken. -/
def NotPending (s : State) (id : UUID) : Prop :=
  ∀ c path, .command id path ∉ (s.conns c).sent.drop (s.conns c).taken

theorem UploadInv.notPending_take
    (hmsg : (s.conns c).sent[(s.conns c).taken]? = some (.command id path)) :
    Announced s c id path ∧ NotPending (s.setConn c (s.conns c).take) id := by
  have hdrop := mem_drop_of_taken hmsg
  have hhere : Announced s c id path := hinv.announced c id path (hdrop ▸ mem_cons_self)
  refine ⟨hhere, fun c' path' hmem ↦ ?_⟩
  by_cases hc : c' = c
  · subst hc
    have honce := hinv.once c'
    rw [hdrop, filterMap_cons_some (f := Message.announces) rfl, nodup_cons] at honce
    simp only [setConn, update_self] at hmem
    exact honce.1 (mem_filterMap.2 ⟨_, hmem, rfl⟩)
  · simp only [setConn, update_of_ne hc] at hmem
    obtain ⟨_, hr', hconn', -⟩ := (hinv.announced c' id path' hmem).request
    obtain ⟨r, hr, hconn, -⟩ := hhere.request
    cases hr.symm.trans hr'
    exact hc (hconn'.symm.trans hconn)

theorem UploadInv.refuse (hhere : Announced s c id path)
    (hpend : NotPending s id) : UploadInv files (s.answer id false) where
  transfer := hinv.transfer.of_sameServer (sameServer_answer ..)
  targets := hinv.targets
  writing c id' hin := by
    obtain ⟨w, hw⟩ := hinv.writing c id' hin
    exact ⟨w, { hw with }⟩
  alone := hinv.alone
  session := hinv.session
  announced c id' path hmem := by
    obtain ⟨hreq, hans', hidle⟩ := hinv.announced c id' path hmem
    have hne : id' ≠ id := fun heq ↦ hpend c path (heq ▸ hmem)
    exact ⟨hreq, (update_of_ne hne ..).trans hans', hidle⟩
  once := hinv.once
  unanswered id' hid c := by
    by_cases hne : id' = id
    · subst hne
      exact hinv.unanswered id' (by simp [hhere.answered]) c
    · refine hinv.unanswered id' (fun heq ↦ hid ?_) c
      exact (update_of_ne hne ..).trans heq
  streaming id' r hr hph := by
    have hready := hinv.streaming id' r hr hph
    have hne : id' ≠ id := fun heq ↦ by simp [heq, hhere.answered] at hready
    exact (update_of_ne hne ..).trans hready
  unrequested id' hid := by
    obtain ⟨r, hr, -⟩ := hhere.request
    have hne : id' ≠ id := by
      rintro rfl
      exact some_ne_none r (hr.symm.trans hid)
    exact (update_of_ne hne ..).trans (hinv.unrequested id' hid)
  writeFailed := hinv.writeFailed
  intact := hinv.intact

theorem OpenStep.writing_self (h : OpenStep s t c id target)
    (hhere : Announced s c id path) (htarget : cleanPath path = .ok target) :
    ∃ w, Writing t c id w := by
  obtain ⟨r, hr, hconn, hpath⟩ := hhere.request
  have hnone : (s.conns c).received id = [] := by
    have hpre := received_prefix_frames (s.conns c) id
    rwa [hinv.unanswered id (by simp [hhere.answered]) c, prefix_nil] at hpre
  refine ⟨_, ⟨r, h.server.requests ▸ hr, hconn, hpath ▸ htarget⟩, h.writer, rfl, [], ?_, ?_⟩
  · rw [h.fs]
    exact wrote_openTrunc ..
  · rw [h.received, hnone, h.conn]
    simp [Conn.unwritten, upload, unwritten]

theorem OpenStep.sessionInv (h : OpenStep s t c id target)
    (hnew : ∀ c, ¬ InProgress s c id) (c' : ℕ) : SessionInv t.writer (t.conns c') := by
  have hses : SessionInv t.writer (s.conns c') :=
    (hinv.session c').congr fun id' huse ↦ h.writers id' fun heq ↦ hnew c' (heq ▸ huse)
  by_cases hc : c' = c
  · subst hc
    rw [h.conn]
    refine ⟨hses.nodup, hses.open_, ⟨fun hmem ↦ hnew c' (.inl hmem), fun w hw ↦ ?_⟩, hses.closers⟩
    cases h.writer.symm.trans hw
    rfl
  · rw [h.conns c' hc]
    exact hses

/-- `WriteFile`, for a target that no upload in progress has. -/
theorem UploadInv.openFile (h : OpenStep s t c id target)
    (hans : t.answered = s.answered) (hfail : t.writeFailed = s.writeFailed)
    (hidle : (s.conns c).readLoop = .idle) (hhere : Announced s c id path) (hpend : NotPending s id)
    (htarget : cleanPath path = .ok target)
    (halone : ∀ c' id' w, InProgress s c' id' → s.writer id' = some w → w.finalPath ≠ target) :
    UploadInv files t where
  transfer := hinv.transfer.of_sameServer h.server
  targets := h.server.requests ▸ hinv.targets
  writing c' id' hin := by
    obtain ⟨rfl, rfl⟩ | ⟨hin', hne⟩ := h.inProgress hhere.idle hin
    · exact h.writing_self hinv hhere htarget
    · obtain ⟨w, hw⟩ := hinv.writing c' id' hin'
      exact ⟨w, h.writing_of_ne hidle hne hw (halone c' id' w hin' hw.writer)⟩
  alone c₁ id₁ w₁ c₂ id₂ w₂ hin₁ hin₂ hw₁ hw₂ hpath := by
    obtain ⟨rfl, rfl⟩ | ⟨hin₁', hne₁⟩ := h.inProgress hhere.idle hin₁ <;>
      obtain ⟨rfl, rfl⟩ | ⟨hin₂', hne₂⟩ := h.inProgress hhere.idle hin₂
    · rfl
    · cases h.writer.symm.trans hw₁
      exact absurd hpath.symm (halone c₂ id₂ w₂ hin₂' (h.writers id₂ hne₂ ▸ hw₂))
    · cases h.writer.symm.trans hw₂
      exact absurd hpath (halone c₁ id₁ w₁ hin₁' (h.writers id₁ hne₁ ▸ hw₁))
    · exact hinv.alone c₁ id₁ w₁ c₂ id₂ w₂ hin₁' hin₂' (h.writers id₁ hne₁ ▸ hw₁)
        (h.writers id₂ hne₂ ▸ hw₂) hpath
  session := h.sessionInv hinv hhere.idle
  announced c' id' path' hmem := by
    have hmem' := (h.server.drop_sublist c').subset hmem
    obtain ⟨hreq, hans', hidle'⟩ := hinv.announced c' id' path' hmem'
    refine ⟨h.server.requests ▸ hreq, hans ▸ hans', fun c'' hin ↦ ?_⟩
    obtain ⟨-, rfl⟩ | ⟨hin', -⟩ := h.inProgress hhere.idle hin
    · exact hpend c' path' hmem'
    · exact hidle' c'' hin'
  once c' := (hinv.once c').sublist ((h.server.drop_sublist c').filterMap _)
  unanswered id' hid c' := by
    rw [h.server.sent]
    exact hinv.unanswered id' (hans ▸ hid) c'
  streaming id' r hr hph := by
    rw [hans]
    exact hinv.streaming id' r (h.server.requests ▸ hr) hph
  unrequested id' hid := by
    rw [hans]
    exact hinv.unrequested id' (h.server.requests ▸ hid)
  writeFailed := hfail.trans hinv.writeFailed
  intact p hp := by
    have hcont : t.fs.content p = s.fs.content p := by
      rw [h.fs]
      exact content_truncate_of_ne fun heq ↦ hp (heq ▸ isTemp_tmpPathOf target)
    obtain hfiles | ⟨bytes, hc, hbytes⟩ := hinv.intact p hp
    · exact .inl (hcont.trans hfiles)
    · exact .inr ⟨bytes, hc.of_sameServer h.server hfail, hcont.trans hbytes⟩

/-- The read loop takes the next message, whatever it is. -/
theorem UploadInv.read (hcare : Careful s (.read c ok)) (h : s.read c ok = some t) :
    UploadInv files t := by
  simp only [State.read] at h
  split at h
  case isFalse => cases h
  case isTrue hidle =>
  split at h
  next id path hmsg =>
    cases h
    have htaken := hinv.take hidle.2 hmsg fun _ _ ↦ rfl
    obtain ⟨hhere, hpend⟩ := hinv.notPending_take hmsg
    have hhere' : Announced (s.setConn c (s.conns c).take) c id path :=
      { hhere with idle := fun c' hin ↦ hhere.idle c' (inProgress_of_take hin) }
    have hrefuse := htaken.refuse hhere' hpend
    unfold command
    split
    · split
      next target htarget =>
        split
        · refine htaken.openFile (openStep_writeFile ..) rfl rfl ?_ hhere' hpend htarget
            fun c' id' w hin hw ↦ ?_
          · simpa [setConn, Conn.take] using hidle.2
          · exact hcare id path target hmsg htarget c' id' w (inProgress_of_take hin) hw
        · exact hrefuse
      · exact hrefuse
    · exact hrefuse
  next id payload hmsg =>
    cases h
    have hmem : ((s.setConn c (s.conns c).take).conns c).uploads = (s.conns c).uploads := by
      simp [setConn, Conn.take]
    unfold frame
    rw [hmem]
    split
    next hin =>
      have hgot := hinv.getUpload hidle.2 hmsg hin
      simpa [setConn] using hgot
    next hin =>
      refine hinv.take hidle.2 hmsg fun id' hin' ↦ frames_frame_of_ne (fun heq ↦ ?_) payload
      subst heq
      obtain hin' | hin' := hinv.inProgress_iff.1 hin'
      · exact hin hin'
      · rw [hidle.2] at hin'
        cases hin'
  · cases h

/-! ### The end of a session -/

/-- A session goes on or not: what is in progress was so before, and is as it was. -/
structure Conn.Ends (writer : UUID → Option AtomicWriteCloser) (conn conn' : Conn) : Prop where
  sent : conn'.sent = conn.sent
  taken : conn'.taken = conn.taken
  session : SessionInv writer conn'
  uses : ∀ id, conn'.Uses id → conn.Uses id ∧ conn'.unwritten id = conn.unwritten id

theorem UploadInv.of_sessions {conns : ℕ → Conn} (h : ∀ c, (s.conns c).Ends s.writer (conns c)) :
    UploadInv files { s with conns := conns } := by
  refine hinv.of_continues ⟨⟨rfl, rfl, rfl, fun c ↦ (h c).sent, fun c ↦
    Nat.le_of_eq (h c).taken.symm, fun hle c ↦ (h c).taken ▸ hle c⟩, fun c id hin ↦
      ((h c).uses id hin).1, fun c id w hin hw ↦ ?_,
    fun _ ↦ .inl rfl, rfl, fun _ _ ↦ .inl rfl⟩ fun c ↦ (h c).session
  refine ⟨w, { hw with file := ?_ }, rfl⟩
  obtain ⟨bytes, hwr, heq⟩ := hw.file
  refine ⟨bytes, hwr, ?_⟩
  show bytes ++ (conns c).unwritten id = ((conns c).received id).flatten
  rw [((h c).uses id hin).2, heq]
  simp only [Conn.received, (h c).sent, (h c).taken]

theorem UploadInv.setConn (hsent : conn.sent = (s.conns c).sent)
    (htaken : conn.taken = (s.conns c).taken) (hups : conn.uploads = (s.conns c).uploads)
    (hloop : conn.readLoop = (s.conns c).readLoop)
    (hclrs : ∀ ids stage, conn.closeAll = some (ids, stage) → ids = []) :
    UploadInv files (s.setConn c conn) := by
  have hses : SessionInv s.writer conn := by
    obtain ⟨hnd, hopen, hloopInv, -⟩ := hinv.session c
    refine ⟨hups ▸ hnd, hups ▸ hopen, ?_, hclrs⟩
    simpa only [LoopInv, Conn.received, hsent, htaken, hups, hloop] using hloopInv
  have huses : ∀ id, conn.Uses id → (s.conns c).Uses id := by
    rintro id (hmem | hread | ⟨ids, stage, hcl, hmem⟩)
    · exact .inl (hups ▸ hmem)
    · exact .inr (.inl (hloop ▸ hread))
    · rw [hclrs ids stage hcl] at hmem
      cases hmem
  refine hinv.of_sessions ((forall_update_iff s.conns fun c conn ↦ (s.conns c).Ends s.writer conn).2
    ⟨?_, ?_⟩)
  · exact ⟨hsent, htaken, hses, fun id hin ↦ ⟨huses id hin, by simp only [Conn.unwritten, hloop]⟩⟩
  · exact fun c' _ ↦ ⟨rfl, rfl, hinv.session c', fun _ hin ↦ ⟨hin, rfl⟩⟩

/-- A restart leaves the files, and nothing in progress. -/
theorem UploadInv.restart : UploadInv files { s with conns := fun c ↦ (s.conns c).kill } := by
  have hclrs : ∀ c ids stage, (s.conns c).kill.closeAll = some (ids, stage) → ids = [] := by
    rintro c ids stage ⟨⟩
    rfl
  refine hinv.of_sessions fun c ↦
    ⟨rfl, rfl, ⟨nodup_nil, fun _ h ↦ absurd h not_mem_nil, trivial, hclrs c⟩, ?_⟩
  rintro id (hmem | hread | ⟨ids, stage, hcl, hmem⟩)
  · cases hmem
  · cases hread
  · rw [hclrs c ids stage hcl] at hmem
    cases hmem

end WartungsRemote.Agent
