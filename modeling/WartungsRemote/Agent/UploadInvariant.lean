import WartungsRemote.Agent.Transfer

/-!
# The invariant of careful uploads

`WriteFile` promises that a target changes in one step, from what it held to the whole of an upload
(`UploadsAtomic`). The rename is atomic; what is renamed need not be whole. `Close` renames after a
write error and at the end of the connection just as at the end of the file, and two uploads to one
target write into one temporary file.

In the runs that meet `Careful` an upload is alone with its temporary file, so the file holds
exactly what the read loop has taken from the connection (`Writing`), and only an upload whose last
frame was taken is closed. `Continues` is what everybody else is owed by a step, and `OwnStep` is a
step of one session about one of its uploads, which owes nothing more.
-/

namespace WartungsRemote.Agent

open Posix Option
open Relay (Payload)
open Transition

/-- The complete body of an upload to `path` received to its end, all writes succeeding. -/
def Completed (s : State) (path : Path) (bytes : List UInt8) : Prop :=
  ∃ id r, s.requests id = some r ∧ cleanPath r.path = .ok path ∧ r.phase = .finished ∧
    r.body = bytes ∧ [] ∈ (s.conns r.conn).received id ∧ id ∉ s.writeFailed

/-- What a path may hold: what it held at the start, or a completed upload. -/
def Intact (files : Path → Option (List UInt8)) (s : State) (path : Path) : Prop :=
  s.fs.content path = files path ∨ ∃ bytes, Completed s path bytes ∧ s.fs.content path = some bytes

/-- **Atomicity of uploads**: the target of an upload holds its previous content or the body of a
completed upload. -/
def UploadsAtomic (files : Path → Option (List UInt8)) (s : State) : Prop :=
  ∀ id r path, s.requests id = some r → cleanPath r.path = .ok path → Intact files s path

/-- The session still uses the writer of the upload. -/
def Conn.Uses (conn : Conn) (id : UUID) : Prop :=
  id ∈ conn.uploads ∨ conn.readLoop.upload = some id ∨
    ∃ ids stage, conn.closeAll = some (ids, stage) ∧ id ∈ ids

/-- The upload is in progress on this connection. -/
def InProgress (s : State) (c : ℕ) (id : UUID) : Prop :=
  (s.conns c).Uses id

/-- The condition on a step: no target is named like a temporary file; no upload begins while
another one to its target is in progress; no write fails; a session ends only when its last upload
is over. -/
def Careful (s : State) : Label → Prop
  | .request _ path => ∀ target, cleanPath path = .ok target → ¬ IsTemp target
  | .read c _ => ∀ id path target, (s.conns c).sent[(s.conns c).taken]? = some (.command id path) →
      cleanPath path = .ok target →
      ∀ c' id' w, InProgress s c' id' → s.writer id' = some w → w.finalPath ≠ target
  | .work c _ => ∀ id rest, (s.conns c).readLoop ≠ .writing id rest
  | .closeAll c _ => (s.conns c).uploads = []
  | _ => True

/-! ### The invariant -/

/-- The bytes of an upload taken and not in the file. -/
def Conn.unwritten (conn : Conn) (id : UUID) : Payload :=
  if conn.readLoop.upload = some id then conn.readLoop.unwritten else []

/-- The upload is alone with its temporary file, which holds what was taken. -/
structure Writing (s : State) (c : ℕ) (id : UUID) (w : AtomicWriteCloser) : Prop where
  request : ∃ r, s.requests id = some r ∧ r.conn = c ∧ cleanPath r.path = .ok w.finalPath
  writer : s.writer id = some w
  tmpPath : w.tmpPath = tmpPathOf w.finalPath
  file : ∃ bytes, s.fs.Wrote w.tmpPath w.f bytes ∧
    bytes ++ (s.conns c).unwritten id = ((s.conns c).received id).flatten

/-- Where a read loop can be. -/
def LoopInv (writer : UUID → Option AtomicWriteCloser) (conn : Conn) : Prop :=
  match conn.readLoop with
  | .idle => True
  | .adding id => id ∉ conn.uploads ∧ ∀ w, writer id = some w → w.closed = false
  | .got id payload => id ∈ conn.uploads ∧ (payload = [] → [] ∈ conn.received id)
  | .writing _ _ => True
  | .failed _ => False
  | .closing id _ => id ∉ conn.uploads ∧ [] ∈ conn.received id

/-- The session of one connection. -/
structure SessionInv (writer : UUID → Option AtomicWriteCloser) (conn : Conn) : Prop where
  nodup : conn.uploads.Nodup
  open_ : ∀ id ∈ conn.uploads, ∀ w, writer id = some w → w.closed = false
  loop : LoopInv writer conn
  closers : ∀ ids stage, conn.closeAll = some (ids, stage) → ids = []

/-- A command that has not been taken is the beginning of its upload. -/
structure Announced (s : State) (c : ℕ) (id : UUID) (path : Path) : Prop where
  request : ∃ r, s.requests id = some r ∧ r.conn = c ∧ r.path = path
  answered : s.answered id = none
  idle : ∀ c, ¬ InProgress s c id

/-- The upload a command announces. -/
def Message.announces : Message → Option UUID
  | .command id _ => some id
  | .frame _ _ => none

/-- **The invariant of careful runs.** -/
structure UploadInv (files : Path → Option (List UInt8)) (s : State) : Prop where
  transfer : TransferInv s
  targets : ∀ id r path, s.requests id = some r → cleanPath r.path = .ok path → ¬ IsTemp path
  writing : ∀ c id, InProgress s c id → ∃ w, Writing s c id w
  alone : ∀ c id w c' id' w', InProgress s c id → InProgress s c' id' → s.writer id = some w →
    s.writer id' = some w' → w.finalPath = w'.finalPath → id = id'
  session : ∀ c, SessionInv s.writer (s.conns c)
  announced : ∀ c id path, .command id path ∈ (s.conns c).sent.drop (s.conns c).taken →
    Announced s c id path
  once : ∀ c, (((s.conns c).sent.drop (s.conns c).taken).filterMap Message.announces).Nodup
  unanswered : ∀ id, s.answered id ≠ some true → ∀ c, frames (s.conns c).sent id = []
  streaming : ∀ id r, s.requests id = some r → r.phase = .streaming → s.answered id = some true
  unrequested : ∀ id, s.requests id = none → s.answered id = none
  writeFailed : s.writeFailed = []
  intact : ∀ path, ¬ IsTemp path → Intact files s path

variable {files : Path → Option (List UInt8)} {s t : State} {l : Label}

variable {c : ℕ} {w : AtomicWriteCloser}

section

variable (hinv : UploadInv files s)
include hinv

theorem UploadInv.inProgress_iff {id : UUID} :
    InProgress s c id ↔ id ∈ (s.conns c).uploads ∨ (s.conns c).readLoop.upload = some id := by
  refine ⟨?_, ?_⟩
  · rintro (h | h | ⟨ids, stage, hcl, hmem⟩)
    · exact .inl h
    · exact .inr h
    · rw [(hinv.session c).closers ids stage hcl] at hmem
      cases hmem
  · rintro (h | h)
    · exact .inl h
    · exact .inr (.inl h)

theorem UploadInv.not_inProgress_of_unrequested {id : UUID} (hid : s.requests id = none) (c : ℕ) :
    ¬ InProgress s c id := by
  intro hin
  obtain ⟨w, hw⟩ := hinv.writing c id hin
  obtain ⟨r, hr, -⟩ := hw.request
  rw [hid] at hr
  cases hr

/-- An upload is in progress on its own connection only. -/
theorem UploadInv.conn_unique {c' : ℕ} {id : UUID} (h : InProgress s c id)
    (h' : InProgress s c' id) : c = c' := by
  obtain ⟨w, hw⟩ := hinv.writing c id h
  obtain ⟨_, hw'⟩ := hinv.writing c' id h'
  obtain ⟨r, hr, rfl, -⟩ := hw.request
  obtain ⟨_, hr', rfl, -⟩ := hw'.request
  exact congrArg Request.conn (some.inj (hr.symm.trans hr'))

theorem UploadInv.tmpPath_ne {c' : ℕ} {id id' : UUID} {w' : AtomicWriteCloser}
    (h : InProgress s c id) (h' : InProgress s c' id') (hw : Writing s c id w)
    (hw' : Writing s c' id' w') (hne : id ≠ id') : w.tmpPath ≠ w'.tmpPath := by
  intro heq
  rw [hw.tmpPath, hw'.tmpPath] at heq
  exact hne (hinv.alone c id w c' id' w' h h' hw.writer hw'.writer (tmpPathOf_inj heq))

theorem UploadInv.finalPath_not_isTemp {id : UUID} (hw : Writing s c id w) :
    ¬ IsTemp w.finalPath := by
  obtain ⟨r, hr, -, hpath⟩ := hw.request
  exact hinv.targets id r _ hr hpath

end

theorem Writing.isTemp {id : UUID} (hw : Writing s c id w) : IsTemp w.tmpPath :=
  hw.tmpPath ▸ isTemp_tmpPathOf _

/-! ### Steps that open no file -/

theorem SameServer.received_grows (h : SameServer s t) (c : ℕ) (id : UUID) :
    (s.conns c).received id <+: (t.conns c).received id := by
  unfold Conn.received
  rw [h.sent c]
  exact (List.take_prefix_take_left (h.taken_mono c)).filterMap _

theorem Completed.of_sameServer (h : SameServer s t) (hfail : t.writeFailed = s.writeFailed)
    {path : Path} {bytes : List UInt8} (hc : Completed s path bytes) : Completed t path bytes := by
  obtain ⟨id, r, hr, hpath, hph, hbody, heof, hok⟩ := hc
  exact ⟨id, r, h.requests ▸ hr, hpath, hph, hbody, (h.received_grows r.conn id).subset heof,
    hfail ▸ hok⟩

/-- A step of the agent after which every upload in progress was so before and still writes what it
takes, and a target changes to a completed upload only. -/
structure Continues (s t : State) : Prop where
  server : SameServer s t
  progress : ∀ c id, InProgress t c id → InProgress s c id
  writing : ∀ c id w, InProgress t c id → Writing s c id w →
    ∃ w', Writing t c id w' ∧ w'.finalPath = w.finalPath
  answered : ∀ id, t.answered id = s.answered id ∨ (∃ c, InProgress s c id) ∧
    t.answered id = some true
  writeFailed : t.writeFailed = s.writeFailed
  files : ∀ path, ¬ IsTemp path → t.fs.content path = s.fs.content path ∨
    ∃ bytes, Completed s path bytes ∧ t.fs.content path = some bytes

theorem SameServer.drop_sublist (h : SameServer s t) (c : ℕ) :
    ((t.conns c).sent.drop (t.conns c).taken).Sublist
    ((s.conns c).sent.drop (s.conns c).taken) := by
  rw [h.sent c]
  exact List.drop_sublist_drop_left _ (h.taken_mono c)

theorem Announced.of_continues (h : Continues s t) {id : UUID} {path : Path}
    (ha : Announced s c id path) : Announced t c id path where
  request := h.server.requests ▸ ha.request
  answered := by
    obtain heq | ⟨⟨c', hin⟩, -⟩ := h.answered id
    · rw [heq, ha.answered]
    · exact absurd hin (ha.idle c')
  idle c' hin := ha.idle c' (h.progress c' id hin)

/-- When the agent just goes on, only the sessions need a look. -/
theorem UploadInv.of_continues (hinv : UploadInv files s) (h : Continues s t)
    (hses : ∀ c, SessionInv t.writer (t.conns c)) : UploadInv files t where
  transfer := hinv.transfer.of_sameServer h.server
  targets := h.server.requests ▸ hinv.targets
  writing c id hin := by
    obtain ⟨w, hw⟩ := hinv.writing c id (h.progress c id hin)
    obtain ⟨w', hw', -⟩ := h.writing c id w hin hw
    exact ⟨w', hw'⟩
  alone c id w c' id' w' hin hin' hw hw' hpath := by
    obtain ⟨w₀, hw₀⟩ := hinv.writing c id (h.progress c id hin)
    obtain ⟨_, hw₁, hpath₁⟩ := h.writing c id w₀ hin hw₀
    obtain ⟨w₀', hw₀'⟩ := hinv.writing c' id' (h.progress c' id' hin')
    obtain ⟨_, hw₁', hpath₁'⟩ := h.writing c' id' w₀' hin' hw₀'
    cases hw.symm.trans hw₁.writer
    cases hw'.symm.trans hw₁'.writer
    exact hinv.alone c id w₀ c' id' w₀' (h.progress c id hin) (h.progress c' id' hin') hw₀.writer
      hw₀'.writer (hpath₁.symm.trans (hpath.trans hpath₁'))
  session := hses
  announced c id path hmem :=
    (hinv.announced c id path ((h.server.drop_sublist c).subset hmem)).of_continues h
  once c := (hinv.once c).sublist ((h.server.drop_sublist c).filterMap _)
  unanswered id hid c := by
    rw [h.server.sent c]
    obtain heq | ⟨-, heq⟩ := h.answered id
    · exact hinv.unanswered id (heq ▸ hid) c
    · exact absurd heq hid
  streaming id r hr hph := by
    obtain heq | ⟨-, heq⟩ := h.answered id
    · exact heq.trans (hinv.streaming id r (h.server.requests ▸ hr) hph)
    · exact heq
  unrequested id hid := by
    rw [h.server.requests] at hid
    obtain heq | ⟨⟨c, hin⟩, -⟩ := h.answered id
    · exact heq.trans (hinv.unrequested id hid)
    · exact absurd hin (hinv.not_inProgress_of_unrequested hid c)
  writeFailed := h.writeFailed.trans hinv.writeFailed
  intact path hpath := by
    obtain heq | ⟨bytes, hc, heq⟩ := h.files path hpath
    · obtain hfiles | ⟨bytes, hc, hbytes⟩ := hinv.intact path hpath
      · exact .inl (heq.trans hfiles)
      · exact .inr ⟨bytes, hc.of_sameServer h.server h.writeFailed, heq.trans hbytes⟩
    · exact .inr ⟨bytes, hc.of_sameServer h.server h.writeFailed, heq⟩

/-- A change of a session that is about one upload. -/
structure OwnChange (conn conn' : Conn) (id : UUID) : Prop where
  before : ∀ id' ≠ id, conn.readLoop.upload ≠ some id'
  after : ∀ id' ≠ id, conn'.readLoop.upload ≠ some id'
  uploads : ∀ id' ≠ id, id' ∈ conn'.uploads → id' ∈ conn.uploads
  closeAll : conn'.closeAll = conn.closeAll
  received : ∀ id' ≠ id, conn'.received id' = conn.received id'

theorem OwnChange.uses {conn conn' : Conn} {id id' : UUID} (h : OwnChange conn conn' id)
    (hid : id' ≠ id) (huses : conn'.Uses id') : conn.Uses id' := by
  obtain hmem | hloop | hcl := huses
  · exact .inl (h.uploads id' hid hmem)
  · exact absurd hloop (h.after id' hid)
  · exact .inr (.inr (h.closeAll ▸ hcl))

theorem OwnChange.unwritten {conn conn' : Conn} {id id' : UUID} (h : OwnChange conn conn' id)
    (hid : id' ≠ id) : conn'.unwritten id' = conn.unwritten id' :=
  (if_neg (h.after id' hid)).trans (if_neg (h.before id' hid)).symm

/-- A step of one connection's session about one of its uploads. -/
structure OwnStep (s t : State) (c : ℕ) (id : UUID) (w : AtomicWriteCloser) : Prop where
  conns : ∀ c' ≠ c, t.conns c' = s.conns c'
  writers : ∀ id' ≠ id, t.writer id' = s.writer id'
  change : OwnChange (s.conns c) (t.conns c) id
  wrote : ∀ p f bytes, IsTemp p → p ≠ w.tmpPath → s.fs.Wrote p f bytes → t.fs.Wrote p f bytes
  own : InProgress t c id → ∃ w', Writing t c id w' ∧ w'.finalPath = w.finalPath

theorem inProgress_congr (h : t.conns c = s.conns c) {id : UUID} :
    InProgress t c id ↔ InProgress s c id := by
  unfold InProgress
  rw [h]

theorem SessionInv.congr {writer writer' : UUID → Option AtomicWriteCloser} {conn : Conn}
    (h : SessionInv writer conn) (hwtr : ∀ id, conn.Uses id → writer' id = writer id) :
    SessionInv writer' conn where
  nodup := h.nodup
  open_ id hid w hw := h.open_ id hid w (hwtr id (.inl hid) ▸ hw)
  closers := h.closers
  loop := by
    have hloop := h.loop
    unfold LoopInv at hloop ⊢
    cases hread : conn.readLoop with
    | adding id =>
      rw [hread] at hloop
      have huses : conn.Uses id := .inr (.inl (by rw [hread]; rfl))
      exact ⟨hloop.1, fun w hw ↦ hloop.2 w (hwtr id huses ▸ hw)⟩
    | idle | got | writing | failed | closing =>
      rw [hread] at hloop
      exact hloop

section

variable (hinv : UploadInv files s) (hserv : SameServer s t) {id : UUID} (hin : InProgress s c id)
  (hw : Writing s c id w) (hown : OwnStep s t c id w)
      (hans : ∀ id', t.answered id' = s.answered id' ∨
    (∃ c, InProgress s c id') ∧ t.answered id' = some true) (hfail : t.writeFailed = s.writeFailed)
  (hfiles : ∀ path, ¬ IsTemp path → t.fs.content path = s.fs.content path ∨
    ∃ bytes, Completed s path bytes ∧ t.fs.content path = some bytes)
include hinv hserv hin hw hown hans hfail hfiles

theorem continues_of_ownStep : Continues s t where
  server := hserv
  answered := hans
  writeFailed := hfail
  files := hfiles
  progress c' id' hin' := by
    by_cases hc : c' = c
    · subst hc
      by_cases hid : id' = id
      · exact hid ▸ hin
      · exact hown.change.uses hid hin'
    · exact (inProgress_congr (hown.conns c' hc)).1 hin'
  writing c' id' w' hin' hw' := by
    -- the upload itself, or one that is left alone
    by_cases hid : id' = id
    · subst hid
      have hcc : c' = c := by
        by_contra hc
        exact hc (hinv.conn_unique ((inProgress_congr (hown.conns c' hc)).1 hin') hin)
      subst hcc
      cases hw.writer.symm.trans hw'.writer
      exact hown.own hin'
    · have hin₀ : InProgress s c' id' := by
        by_cases hc : c' = c
        · subst hc
          exact hown.change.uses hid hin'
        · exact (inProgress_congr (hown.conns c' hc)).1 hin'
      have hbytes : (t.conns c').unwritten id' = (s.conns c').unwritten id' ∧
          (t.conns c').received id' = (s.conns c').received id' := by
        by_cases hc : c' = c
        · subst hc
          exact ⟨hown.change.unwritten hid, hown.change.received id' hid⟩
        · rw [hown.conns c' hc]
          exact ⟨rfl, rfl⟩
      obtain ⟨bytes, hwr, heq⟩ := hw'.file
      refine ⟨w', ⟨hserv.requests ▸ hw'.request, (hown.writers id' hid).trans hw'.writer,
        hw'.tmpPath, bytes, ?_, ?_⟩, rfl⟩
      · exact hown.wrote _ _ _ hw'.isTemp (hinv.tmpPath_ne hin₀ hin hw' hw hid) hwr
      · rw [hbytes.1, hbytes.2, heq]

/-- A step about an upload in progress keeps the invariant if it does so for session and upload. -/
theorem UploadInv.of_ownStep (hses : SessionInv t.writer (t.conns c)) : UploadInv files t := by
  refine hinv.of_continues (continues_of_ownStep hinv hserv hin hw hown hans hfail hfiles) fun c' ↦
    ?_
  by_cases hc : c' = c
  · exact hc ▸ hses
  · rw [hown.conns c' hc]
    refine (hinv.session c').congr fun id' huses ↦ hown.writers id' fun heq ↦ ?_
    exact hc (hinv.conn_unique (heq ▸ huses) hin)

end

end WartungsRemote.Agent
