import WartungsRemote.Enrollment.Transactions

/-!
# The ledger of the tokens

The committed tables against the history of commits (`Ledger`). A commit keeps it as long as the
tokens that it is about are outstanding (`Ledger.consume`, `Ledger.revoke`).
-/

namespace WartungsRemote.Enrollment

open List

/-! ### The history of a token -/

/-- What happened to a token. -/
def eventsOf (history : List Event) (id : UUID) : List Event :=
  history.filter fun e ↦ e.tokenID = id

/-- A token and its history agree. -/
structure TokenLedger (history : List Event) (tok : Token) : Prop where
  single : tok.isReusable = false →
    (eventsOf history tok.id).length ≤ 1 ∧ (tok.Outstanding → eventsOf history tok.id = [])
  counted : tok.isReusable = true → tok.consumedAt = none ∧
    tok.useCount = history.count (.consumed tok.id)
  unrevoked : tok.Outstanding → .revoked tok.id ∉ history

section TokenLedger

variable {history new : List Event} {tok : Token}

theorem eventsOf_append (id : UUID) :
    eventsOf (history ++ new) id = eventsOf history id ++ eventsOf new id :=
  filter_append ..

theorem count_le_eventsOf (history : List Event) (id : UUID) :
    history.count (.consumed id) ≤ (eventsOf history id).length := by
  rw [eventsOf, ← countP_eq_length_filter, count]
  refine countP_mono_left fun e _ he ↦ ?_
  rw [beq_iff_eq] at he
  simp [he, Event.tokenID]

theorem TokenLedger.of_new (hhist : ∀ e ∈ history, e.tokenID ≠ tok.id)
    (hcons : tok.consumedAt = none) (hcnt : tok.useCount = 0) : TokenLedger history tok where
  single _ := by
    have hnil : eventsOf history tok.id = [] := by simpa [eventsOf] using hhist
    simp [hnil]
  counted _ := by
    refine ⟨hcons, hcnt.trans (count_eq_zero.2 fun hmem ↦ ?_).symm⟩
    exact hhist _ hmem rfl
  unrevoked _ hmem := hhist _ hmem rfl

theorem TokenLedger.append (h : TokenLedger history tok) (hnew : ∀ e ∈ new, e.tokenID ≠ tok.id) :
    TokenLedger (history ++ new) tok := by
  have hnil : eventsOf new tok.id = [] := by simpa [eventsOf] using hnew
  refine ⟨fun hsingle ↦ ?_, fun hreus ↦ ?_, fun hout hmem ↦ ?_⟩
  · rw [eventsOf_append, hnil, append_nil]
    exact h.single hsingle
  · have hzero : new.count (.consumed tok.id) = 0 :=
      count_eq_zero.2 fun hmem ↦ hnew _ hmem rfl
    rw [count_append, hzero, Nat.add_zero]
    exact h.counted hreus
  · rcases mem_append.1 hmem with hold | hlater
    · exact h.unrevoked hout hold
    · exact hnew _ hlater rfl

theorem TokenLedger.consume (h : TokenLedger history tok) (hout : tok.Outstanding) (start : ℕ)
    (deviceID : UUID) : TokenLedger (history ++ [.consumed tok.id])
    (tok.consume start deviceID) := by
  by_cases hreus : tok.isReusable = true
  · rw [Token.consume, if_pos hreus]
    refine ⟨fun hsingle ↦ ?_, fun _ ↦ ⟨hout.1, ?_⟩, fun _ hmem ↦ ?_⟩
    · exact absurd hreus (Bool.not_eq_true _ ▸ hsingle)
    · simp [(h.counted hreus).2]
    · exact h.unrevoked hout (by simpa using hmem)
  · rw [Token.consume, if_neg hreus]
    refine ⟨fun _ ↦ ⟨?_, fun hout' ↦ by cases hout'.1⟩, fun h' ↦ absurd h' hreus,
      fun hout' ↦ by cases hout'.1⟩
    show (eventsOf (history ++ [.consumed tok.id]) tok.id).length ≤ 1
    rw [eventsOf_append, (h.single (Bool.not_eq_true _ ▸ hreus)).2 hout, nil_append]
    exact length_filter_le _ [_]

theorem TokenLedger.revoke (h : TokenLedger history tok) (hout : tok.Outstanding) (start : ℕ)
    {done : List UUID} (hdone : done.Nodup) :
    TokenLedger (history ++ done.map .revoked) (tok.revoke start) := by
  have hcnt : (done.map Event.revoked).count (.consumed tok.id) = 0 :=
    count_eq_zero.2 (by simp)
  have hevs : (eventsOf (done.map .revoked) tok.id).length ≤ 1 := by
    have hlen : (eventsOf (done.map .revoked) tok.id).length = done.count tok.id := by
      rw [eventsOf, ← countP_eq_length_filter, countP_map, count]
      refine countP_congr fun id _ ↦ ?_
      show decide (id = tok.id) = true ↔ (id == tok.id) = true
      rw [decide_eq_true_iff, beq_iff_eq]
    rw [hlen]
    exact nodup_iff_count_le_one.1 hdone tok.id
  refine ⟨fun hsingle ↦ ⟨?_, fun hout' ↦ by cases hout'.2⟩, fun hreus ↦ ?_,
    fun hout' ↦ by cases hout'.2⟩
  · show (eventsOf (history ++ done.map .revoked) tok.id).length ≤ 1
    rw [eventsOf_append, (h.single hsingle).2 hout, nil_append]
    exact hevs
  · show tok.consumedAt = none ∧
      tok.useCount = (history ++ done.map Event.revoked).count (Event.consumed tok.id)
    rw [count_append, hcnt, Nat.add_zero]
    exact h.counted hreus

end TokenLedger

/-! ### The tables and the history -/

/-- The tables, the history and the generated ids agree. -/
structure Ledger (db : Tables) (history : List Event) (issued : List UUID) : Prop where
  tokenIDs : (db.tokens.map Token.id).Nodup
  tokens : ∀ tok ∈ db.tokens, tok.id ∈ issued ∧ TokenLedger history tok
  devices : ∀ d ∈ db.devices, d.id ∈ issued ∧
    db.credentials.filter (fun c ↦ c.deviceID = d.id) = [newCredential d.request d.id]
  credentials : ∀ c ∈ db.credentials, ∃ d ∈ db.devices, d.id = c.deviceID
  enrolled : ∀ id,
    (db.devices.filter fun d ↦ d.enrolledWith = id).length = history.count (.consumed id)
  known : ∀ e ∈ history, e.tokenID ∈ issued
  ordered : history.Pairwise fun e e' ↦ ∀ id, e = .revoked id → e' ≠ .consumed id

section Ledger

variable {db : Tables} {history : List Event} {issued : List UUID} {id : UUID}

theorem ledger_empty : Ledger .empty [] [] where
  tokenIDs := nodup_nil
  tokens := by simp [Tables.empty]
  devices := by simp [Tables.empty]
  credentials := by simp [Tables.empty]
  enrolled := by simp [Tables.empty]
  known := by simp
  ordered := Pairwise.nil

theorem Ledger.token_inj (h : Ledger db history issued) {tok tok' : Token} (htok : tok ∈ db.tokens)
    (htok' : tok' ∈ db.tokens) (hid : tok.id = tok'.id) : tok = tok' :=
  inj_on_of_nodup_map h.tokenIDs htok htok' hid

theorem Ledger.issue (h : Ledger db history issued) (id : UUID) :
    Ledger db history (id :: issued) where
  tokenIDs := h.tokenIDs
  tokens tok htok := ⟨mem_cons_of_mem _ (h.tokens tok htok).1, (h.tokens tok htok).2⟩
  devices d hd := ⟨mem_cons_of_mem _ (h.devices d hd).1, (h.devices d hd).2⟩
  credentials := h.credentials
  enrolled := h.enrolled
  known e he := mem_cons_of_mem _ (h.known e he)
  ordered := h.ordered

theorem Ledger.create (h : Ledger db history issued) (hid : id ∉ issued) (p : CreateParams)
    (tokenHash : List UInt8) (clock now : ℕ) :
    Ledger { db with tokens := db.tokens ++ [p.row id tokenHash clock now] } history
    (id :: issued) where
  tokenIDs := by
    rw [map_append, nodup_append]
    refine ⟨h.tokenIDs, nodup_singleton _, fun a ha b hb hab ↦ ?_⟩
    obtain ⟨tok, htok, rfl⟩ := mem_map.1 ha
    obtain rfl : b = id := by simpa [CreateParams.row] using hb
    exact hid (hab ▸ (h.tokens tok htok).1)
  tokens tok htok := by
    obtain hold | rfl := mem_snoc.1 htok
    · exact (h.issue id).tokens tok hold
    · refine ⟨mem_cons_self, .of_new (fun e he heq ↦ hid ?_) rfl rfl⟩
      exact (show id = e.tokenID from heq.symm) ▸ h.known e he
  devices := (h.issue id).devices
  credentials := h.credentials
  enrolled := h.enrolled
  known := (h.issue id).known
  ordered := h.ordered

theorem map_id_of_map {f : Token → Token} (hf : ∀ tok, (f tok).id = tok.id) (tokens : List Token) :
    (tokens.map f).map Token.id = tokens.map Token.id := by
  rw [map_map]
  exact map_congr_left fun tok _ ↦ hf tok

theorem Token.id_consume (now : ℕ) (deviceID : UUID) (tok : Token) :
    (tok.consume now deviceID).id = tok.id := by
  unfold Token.consume
  split <;> rfl

theorem Ledger.consume (h : Ledger db history issued) {tok : Token} (htok : tok ∈ db.tokens)
    (hout : tok.Outstanding) {dev : Device} (hiss : dev.id ∈ issued)
    (hnew : ∀ d ∈ db.devices, d.id ≠ dev.id) (hwith : dev.enrolledWith = tok.id) (start : ℕ) :
    Ledger
      { tokens := updateToken db.tokens tok.id (Token.consume start dev.id)
        devices := db.devices ++ [dev]
        credentials := db.credentials ++ [newCredential dev.request dev.id] }
      (history ++ [.consumed tok.id]) issued where
  tokenIDs := by
    have hid : ∀ tok' :
        Token, (if tok'.id = tok.id then tok'.consume start dev.id else tok').id = tok'.id := by
      intro tok'
      split
      · exact tok'.id_consume start dev.id
      · rfl
    exact (map_id_of_map hid db.tokens).symm ▸ h.tokenIDs
  tokens tok' htok' := by
    obtain ⟨tok₀, htok₀, rfl⟩ := mem_map.1 htok'
    obtain ⟨hknown, hled⟩ := h.tokens tok₀ htok₀
    by_cases hid : tok₀.id = tok.id
    · obtain rfl := h.token_inj htok₀ htok hid
      rw [if_pos rfl, Token.id_consume]
      exact ⟨hknown, hled.consume hout start dev.id⟩
    · rw [if_neg hid]
      refine ⟨hknown, hled.append fun e he ↦ ?_⟩
      obtain rfl := mem_singleton.1 he
      exact Ne.symm hid
  devices d hd := by
    obtain hold | rfl := mem_snoc.1 hd
    · refine ⟨(h.devices d hold).1, ?_⟩
      have hoth : dev.id ≠ d.id := (hnew d hold).symm
      rw [filter_append, (h.devices d hold).2]
      simp [newCredential, hoth]
    · have hnone : db.credentials.filter (fun c ↦ c.deviceID = d.id) = [] := by
        refine filter_eq_nil_iff.2 fun c hc hdev ↦ ?_
        obtain ⟨d', hd', hid⟩ := h.credentials c hc
        exact hnew d' hd' (hid.trans (by simpa using hdev))
      refine ⟨hiss, ?_⟩
      rw [filter_append, hnone]
      simp [newCredential]
  credentials c hc := by
    obtain hold | rfl := mem_snoc.1 hc
    · obtain ⟨d, hd, hid⟩ := h.credentials c hold
      exact ⟨d, mem_append_left _ hd, hid⟩
    · exact ⟨dev, mem_append_right _ (mem_singleton_self dev), rfl⟩
  enrolled id := by
    rw [filter_append, length_append, h.enrolled, count_append]
    by_cases hid : tok.id = id
    · simp [hwith, hid]
    · simp [hwith, hid]
  known e he := by
    obtain hold | rfl := mem_snoc.1 he
    · exact h.known e hold
    · exact (h.tokens tok htok).1
  ordered := by
    refine pairwise_append.2 ⟨h.ordered, pairwise_singleton _ _, ?_⟩
    rintro e he e' he' id rfl heq
    obtain rfl := mem_singleton.1 he'
    obtain rfl : tok.id = id := by simpa using heq
    -- the token is outstanding, so it was not revoked before
    exact (h.tokens tok htok).2.unrevoked hout he

theorem Ledger.revoke (h : Ledger db history issued) {done : List UUID} (hdone : done.Nodup)
    (hout : ∀ id ∈ done, ∃ tok ∈ db.tokens, tok.id = id ∧ tok.Outstanding) (start : ℕ) : Ledger
      { db with tokens := db.tokens.map fun tok ↦ if tok.id ∈ done then tok.revoke start else tok }
      (history ++ done.map .revoked) issued where
  tokenIDs := by
    have hid : ∀ tok : Token, (if tok.id ∈ done then tok.revoke start else tok).id = tok.id := by
      intro tok
      split <;> rfl
    exact (map_id_of_map hid db.tokens).symm ▸ h.tokenIDs
  tokens tok' htok' := by
    obtain ⟨tok, htok, rfl⟩ := mem_map.1 htok'
    obtain ⟨hknown, hled⟩ := h.tokens tok htok
    by_cases hid : tok.id ∈ done
    · obtain ⟨_, htok₁, heq, hout₁⟩ := hout tok.id hid
      obtain rfl := h.token_inj htok₁ htok heq
      rw [if_pos hid]
      exact ⟨hknown, hled.revoke hout₁ start hdone⟩
    · rw [if_neg hid]
      refine ⟨hknown, hled.append fun e he heq ↦ ?_⟩
      obtain ⟨id, hmem, rfl⟩ := mem_map.1 he
      exact hid (heq ▸ hmem)
  devices := h.devices
  credentials := h.credentials
  enrolled id := by
    have hzero : (done.map Event.revoked).count (.consumed id) = 0 :=
      count_eq_zero.2 (by simp)
    rw [count_append, hzero, Nat.add_zero]
    exact h.enrolled id
  known e he := by
    rcases mem_append.1 he with hold | hnew
    · exact h.known e hold
    · obtain ⟨id, hmem, rfl⟩ := mem_map.1 hnew
      obtain ⟨tok, htok, rfl, -⟩ := hout id hmem
      exact (h.tokens tok htok).1
  ordered := by
    refine pairwise_append.2 ⟨h.ordered, pairwise_of_forall_mem_list ?_, ?_⟩
    · rintro e - e' he' id - rfl
      simp at he'
    · rintro e - e' he' id - rfl
      simp at he'

end Ledger

end WartungsRemote.Enrollment
