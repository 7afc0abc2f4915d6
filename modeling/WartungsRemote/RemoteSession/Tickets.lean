import WartungsRemote.RemoteSession.Tunnel

/-!
# Tickets of tunnels are used once

In every interleaving of redemptions, `Close`, `InvalidateAllOutstanding` and restarts a row of
`tunnel_sessions` is redeemed at most once, by a ticket of that row, and not after it was closed or
invalidated (`tunnel_tickets`).

Nothing has happened to a row that still has its ticket (`Ledger`), so a redemption is the **first**
commit on its row. That the row still has the ticket when the redemption commits follows from the
lock (`TxInv`): the steps of the other transactions leave a locked row as it is (`Frame`). The clock
goes on between the check of a ticket and the commit: a ticket checked in time may be redeemed when
it has expired (`not_singleUse_late`).
-/

namespace WartungsRemote.RemoteSession.Tunnel

open Transition Function List Tunnel.State

/-! ### Single use -/

/-- The commit redeems the row. -/
def Event.Redeems (id : UUID) : Event → Prop
  | redeemed r => r.session.id = id
  | _ => False

instance (id : UUID) (e : Event) : Decidable (e.Redeems id) := by
  cases e <;> unfold Event.Redeems <;> infer_instance

/-- **Tickets are used once**: a row is redeemed at most once, not after it was closed or an
invalidation has found it, and not when it has expired, by the given clock. -/
structure SingleUse (clock : Redemption → ℕ) (history : List Event) : Prop where
  once : ∀ id, history.countP (fun e ↦ e.Redeems id) ≤ 1
  ended : history.Pairwise fun e e' ↦ ∀ id, e = .closed id ∨ e = .invalidated id → ¬ e'.Redeems id
  unexpired : ∀ r, .redeemed r ∈ history → clock r ≤ r.session.expiresAt

/-- The two rows differ at most in the columns written later. -/
def Row.Same (row row' : Row) : Prop :=
  row'.helperTicketHash = row.helperTicketHash ∧
    { row'.toTunnelSession with state := .active } =
      ({ row.toTunnelSession with state := .active } : TunnelSession)

/-- A session was returned for a ticket of its row. -/
structure Genuine (cfg : Config) (rows : List Row) (r : Redemption) : Prop where
  checked : r.checkedAt ≤ r.session.expiresAt
  committed : r.checkedAt ≤ r.committedAt
  row : ∃ row ∈ rows, hashTicket cfg.sha256 r.ticket = some row.helperTicketHash ∧
    r.session = { row.toTunnelSession with state := .active }

/-- The rows, the generated ids and the history agree. -/
structure Ledger (cfg : Config) (rows : List Row) (issued : List UUID) (history : List Event) :
    Prop where
  ids : ∀ row ∈ rows, row.id ∈ issued
  known : ∀ e ∈ history, e.rowID ∈ issued
  /-- Nothing has happened to a row that still has its ticket. -/
  fresh : ∀ row ∈ rows, row.state = .ticketIssued → ∀ e ∈ history, e.rowID ≠ row.id
  /-- Nothing has happened to a row before it is redeemed. -/
  first : history.Pairwise fun e e' ↦ ∀ r, e' = .redeemed r → e.rowID ≠ r.session.id
  genuine : ∀ r, .redeemed r ∈ history → Genuine cfg rows r

section Ledger

variable {cfg : Config} {rows : List Row} {issued : List UUID} {history : List Event}

theorem Event.rowID_of_redeems {e : Event} {id : UUID} (h : e.Redeems id) : e.rowID = id := by
  cases e with
  | redeemed => exact h
  | closed | invalidated => exact h.elim

theorem Ledger.singleUse (h : Ledger cfg rows issued history) :
    SingleUse Redemption.checkedAt history where
  once id := by
    rw [countP_eq_length_filter]
    have hfst := h.first.filter fun e ↦ decide (e.Redeems id)
    have hmem : ∀ e ∈ history.filter fun e ↦ decide (e.Redeems id), e.Redeems id :=
      fun e he ↦ of_decide_eq_true (mem_filter.1 he).2
    -- Of two redemptions of a row, the first would have happened before the second.
    cases hlist : history.filter fun e ↦ decide (e.Redeems id) with
    | nil => exact Nat.zero_le 1
    | cons e rest =>
      rw [hlist] at hfst hmem
      cases rest with
      | nil => exact Nat.le_refl 1
      | cons e' =>
        have he := hmem e mem_cons_self
        have he' := hmem e' (mem_cons_of_mem _ mem_cons_self)
        have hne := rel_of_pairwise_cons hfst mem_cons_self
        cases e' with
        | redeemed r => exact absurd ((Event.rowID_of_redeems he).trans (Eq.symm he')) (hne r rfl)
        | closed | invalidated => exact he'.elim
  ended := by
    refine h.first.imp fun {e e'} hfst id hend hredeems ↦ ?_
    have hid : e.rowID = id := by
      obtain rfl | rfl := hend
      · rfl
      · rfl
    cases e' with
    | redeemed r => exact hfst r rfl (hid.trans (Eq.symm hredeems))
    | closed | invalidated => exact hredeems
  unexpired r hr := (h.genuine r hr).checked

theorem ledger_nil : Ledger cfg [] [] [] where
  ids := nofun
  known := nofun
  fresh := nofun
  first := .nil
  genuine := nofun

theorem Genuine.mono {rows' : List Row} {r : Redemption} (h : Genuine cfg rows r)
    (hrows : ∀ row ∈ rows, ∃ row' ∈ rows', row.Same row') : Genuine cfg rows' r := by
  refine { h with row := ?_ }
  obtain ⟨row, hrow, hhash, hses⟩ := h.row
  obtain ⟨row', hrow', hhash', hses'⟩ := hrows row hrow
  exact ⟨row', hrow', hhash'.symm ▸ hhash, hses.trans hses'.symm⟩

theorem Ledger.insert (h : Ledger cfg rows issued history) {row : Row} (hid : row.id ∉ issued) :
    Ledger cfg (rows ++ [row]) (row.id :: issued) history where
  ids row' hrow' := by
    obtain hold | hnew := mem_snoc.1 hrow'
    · exact mem_cons_of_mem _ (h.ids row' hold)
    · rw [hnew]
      exact mem_cons_self
  known e he := mem_cons_of_mem _ (h.known e he)
  fresh row' hrow' hst e he heq := by
    obtain hold | hnew := mem_snoc.1 hrow'
    · exact h.fresh row' hold hst e he heq
    · rw [hnew] at heq
      exact hid (heq ▸ h.known e he)
  first := h.first
  genuine r hr := (h.genuine r hr).mono fun row' hrow' ↦ ⟨row', mem_append_left _ hrow', rfl, rfl⟩

/-- Rows are written and have no ticket any more; what is new in the history is about such rows. -/
theorem Ledger.write (h : Ledger cfg rows issued history) {rows' : List Row} {new : List Event}
    (hids : ∀ row' ∈ rows', ∃ row ∈ rows, row.id = row'.id ∧
      (row'.state = .ticketIssued → row' = row))
    (hrows : ∀ row ∈ rows, ∃ row' ∈ rows', row.Same row') (hknown : ∀ e ∈ new, e.rowID ∈ issued)
    (hspent : ∀ e ∈ new, ∀ row' ∈ rows', row'.state = .ticketIssued → e.rowID ≠ row'.id)
    (hfst : (history ++ new).Pairwise fun e e' ↦ ∀ r, e' = .redeemed r → e.rowID ≠ r.session.id)
    (hgenuine : ∀ r, .redeemed r ∈ new → Genuine cfg rows' r) :
    Ledger cfg rows' issued (history ++ new) where
  ids row' hrow' := by
    obtain ⟨row, hrow, hid, -⟩ := hids row' hrow'
    exact hid ▸ h.ids row hrow
  known e he := (mem_append.1 he).elim (h.known e) (hknown e)
  fresh row' hrow' hst e he := by
    obtain hold | hnew := mem_append.1 he
    · obtain ⟨row, hrow, -, heq⟩ := hids row' hrow'
      obtain rfl := heq hst
      exact h.fresh _ hrow hst e hold
    · exact hspent e hnew row' hrow' hst
  first := hfst
  genuine r hr := by
    obtain hold | hnew := mem_append.1 hr
    · exact (h.genuine r hold).mono hrows
    · exact hgenuine r hnew

end Ledger

/-! ### What a transaction can rely on -/

/-- The transaction has locked the row, and has a ticket of it. -/
structure State.Holds (cfg : Config) (s : State) (tid : TxID) (ticket : Text) (row : Row) :
    Prop where
  mem : row ∈ s.rows
  locked : s.locks row.id = some tid
  hash : hashTicket cfg.sha256 ticket = some row.helperTicketHash

/-- The row has no ticket any more. -/
def State.Spent (s : State) (id : UUID) : Prop :=
  ∀ row ∈ s.rows, row.id = id → row.state ≠ .ticketIssued

/-- The transaction has locked the row, and has found that it can be redeemed. -/
structure State.Redeemable (cfg : Config) (s : State) (tid : TxID) (ticket : Text) (row : Row)
    (clock : ℕ) : Prop extends s.Holds cfg tid ticket row where
  state : row.state = .ticketIssued
  unexpired : clock ≤ row.expiresAt
  clock : clock ≤ s.now

/-- The statement has locked the rows it has written; those an invalidation has found and passed
have no ticket any more. -/
structure State.Writing (s : State) (tid : TxID) (w : Write) (found todo done : List UUID) :
    Prop where
  state : w.state ≠ .ticketIssued
  locked : ∀ id ∈ done, s.locks id = some tid
  issued : ∀ id, id ∈ found ∨ id ∈ done → id ∈ s.issued
  passed : w = .invalidate → ∀ id ∈ found, id ∈ todo ∨ id ∈ done ∨ s.Spent id

/-- What a transaction can rely on. -/
def TxInv (cfg : Config) (s : State) (tid : TxID) : Tx → Prop
  | .begun _ ticket hash => hashTicket cfg.sha256 ticket = some hash
  | .loaded _ ticket row => s.Holds cfg tid ticket row
  | .checked _ ticket row clock => s.Redeemable cfg tid ticket row clock
  | .updated _ ticket row clock => s.Redeemable cfg tid ticket row clock
  | .writing _ w found todo done => s.Writing tid w found todo done

/-- What a step leaves to a transaction. -/
structure Frame (s t : State) (tid : TxID) : Prop where
  now : s.now ≤ t.now
  locks : ∀ id, s.locks id = some tid → t.locks id = some tid
  rows : ∀ row ∈ s.rows, s.locks row.id = some tid → row ∈ t.rows
  issued : s.issued ⊆ t.issued
  spent : ∀ id ∈ s.issued, s.Spent id → t.Spent id

section Frame

variable {cfg : Config} {s t : State} {tid : TxID} {ticket : Text} {row : Row} {tx : Tx}

theorem State.Holds.frame (h : s.Holds cfg tid ticket row) (hfrm : Frame s t tid) :
    t.Holds cfg tid ticket row where
  mem := hfrm.rows row h.mem h.locked
  locked := hfrm.locks row.id h.locked
  hash := h.hash

theorem State.Redeemable.frame {clock : ℕ} (h : s.Redeemable cfg tid ticket row clock)
    (hfrm : Frame s t tid) : t.Redeemable cfg tid ticket row clock where
  toHolds := h.toHolds.frame hfrm
  state := h.state
  unexpired := h.unexpired
  clock := h.clock.trans hfrm.now

theorem State.Writing.frame {w : Write} {found todo done : List UUID}
    (h : s.Writing tid w found todo done) (hfrm : Frame s t tid) :
    t.Writing tid w found todo done where
  state := h.state
  locked id hid := hfrm.locks id (h.locked id hid)
  issued id hid := hfrm.issued (h.issued id hid)
  passed hw id hid :=
    (h.passed hw id hid).imp_right fun hpassed ↦
      hpassed.imp_right (hfrm.spent id (h.issued id (.inl hid)))

theorem TxInv.frame (h : TxInv cfg s tid tx) (hfrm : Frame s t tid) : TxInv cfg t tid tx := by
  cases tx with
  | begun => exact h
  | loaded => exact Holds.frame h hfrm
  | checked | updated => exact Redeemable.frame h hfrm
  | writing => exact Writing.frame h hfrm

theorem frame_of_locks (hnow : s.now ≤ t.now) (hrows : t.rows = s.rows) (hiss : t.issued = s.issued)
    (hlocks : ∀ id, s.locks id = some tid → t.locks id = some tid) : Frame s t tid where
  now := hnow
  locks := hlocks
  rows _ hrow _ := hrows ▸ hrow
  issued := hiss ▸ Subset.refl _
  spent _ _ hspent row hrow := hspent row (hrows ▸ hrow)

theorem locks_update {id₀ : UUID} {own : TxID} (hfree : s.locks id₀ = none) (id : UUID)
    (hlock : s.locks id = some tid) : update s.locks id₀ (some own) id = some tid := by
  rw [update_of_ne, hlock]
  rintro rfl
  cases hfree.symm.trans hlock

end Frame

/-! ### Rows are written -/

/-- The function takes a row its ticket, and leaves the columns that identify it. -/
structure Takes (f : Row → Row) : Prop where
  same : ∀ row : Row, row.Same (f row)
  state : ∀ row : Row, (f row).state ≠ .ticketIssued

theorem takes_redeem (now : ℕ) : Takes (Row.redeem now) where
  same _ := ⟨rfl, rfl⟩
  state := nofun

theorem takes_set {w : Write} (hw : w.state ≠ .ticketIssued) (now : ℕ) : Takes (w.set now) where
  same _ := ⟨rfl, rfl⟩
  state _ := hw

theorem Row.Same.id {row row' : Row} (h : row.Same row') : row'.id = row.id := by
  have hid := congrArg TunnelSession.id h.2
  exact hid

section UpdateRows

variable {s : State} {ids : List UUID} {f : Row → Row} {row row' : Row}

theorem mem_updateRows_of_not_mem (hrow : row ∈ s.rows) (hid : row.id ∉ ids) :
    row ∈ s.updateRows ids f :=
  mem_map.2 ⟨row, hrow, if_neg hid⟩

theorem exists_same_mem_updateRows (hf : Takes f) (hrow : row ∈ s.rows) :
    ∃ row' ∈ s.updateRows ids f, row.Same row' := by
  by_cases hid : row.id ∈ ids
  · exact ⟨f row, mem_map.2 ⟨row, hrow, if_pos hid⟩, hf.same row⟩
  · exact ⟨row, mem_updateRows_of_not_mem hrow hid, rfl, rfl⟩

theorem of_mem_updateRows (hf : Takes f) (hrow : row' ∈ s.updateRows ids f) :
    ∃ row ∈ s.rows, row.id = row'.id ∧ (row'.state = .ticketIssued → row' = row ∧
      row.id ∉ ids) := by
  obtain ⟨row, hmem, rfl⟩ := mem_map.1 hrow
  split_ifs with hid
  · exact ⟨row, hmem, (hf.same row).id.symm, fun hst ↦ absurd hst (hf.state row)⟩
  · exact ⟨row, hmem, rfl, fun _ ↦ ⟨rfl, hid⟩⟩

end UpdateRows

/-! ### The invariant -/

/-- The table agrees with the history, and every transaction has what it relies on. -/
structure TicketInv (cfg : Config) (s : State) : Prop where
  ledger : Ledger cfg s.rows s.issued s.history
  txs : ∀ tid tx, s.txs tid = some tx → TxInv cfg s tid tx

section Invariant

variable {cfg : Config} {s t : State} {tid : TxID}

theorem ticketInv_init : TicketInv cfg .init where
  ledger := ledger_nil
  txs := nofun

section

variable (h : TicketInv cfg s)
include h

theorem TicketInv.of_frame (hled : Ledger cfg t.rows t.issued t.history)
    (htxs : ∀ tid tx, t.txs tid = some tx → (s.txs tid = some tx ∧ Frame s t tid) ∨
      TxInv cfg t tid tx) :
    TicketInv cfg t := by
  refine ⟨hled, fun tid tx htx ↦ ?_⟩
  obtain ⟨hold, hfrm⟩ | hnew := htxs tid tx htx
  · exact (h.txs tid tx hold).frame hfrm
  · exact hnew

theorem TicketInv.advance {tx : Tx} (locks : UUID → Option TxID)
    (hlocks : ∀ other id, s.locks id = some other → locks id = some other)
    (hown : TxInv cfg { s.setTx tid tx with locks } tid tx) :
    TicketInv cfg { s.setTx tid tx with locks } := by
  refine h.of_frame h.ledger fun other tx' htx' ↦ ?_
  simp only [setTx, update_apply] at htx'
  split_ifs at htx' with hoth
  · cases htx'
    exact .inr (hoth ▸ hown)
  · exact .inl ⟨htx', frame_of_locks (Nat.le_refl _) rfl rfl (hlocks other)⟩

theorem TicketInv.finish (ends : TxID → Bool) : TicketInv cfg (s.finish ends) := by
  refine h.of_frame h.ledger fun tid tx htx ↦ ?_
  simp only [State.finish, ite_eq_iff, reduceCtorEq, and_false, false_or] at htx
  refine .inl ⟨htx.2, frame_of_locks (Nat.le_refl _) rfl rfl fun id hlock ↦ ?_⟩
  simp only [State.finish, hlock, Option.filter_some, Bool.not_eq_true _ ▸ htx.1, Bool.not_false,
    if_true]

/-- **A transaction commits**: it has locked the rows it writes, and takes their tickets. -/
theorem TicketInv.commit {ids : List UUID} {f : Row → Row} {new : List Event} (hf : Takes f)
    (hlocked : ∀ id ∈ ids, s.locks id = some tid) (hknown : ∀ e ∈ new, e.rowID ∈ s.issued)
    (hspent : ∀ e ∈ new, ∀ row ∈ s.rows, row.id ∉ ids → row.state = .ticketIssued →
      e.rowID ≠ row.id)
    (hfst : (s.history ++ new).Pairwise fun e e' ↦ ∀ r, e' = .redeemed r → e.rowID ≠ r.session.id)
    (hgenuine : ∀ r, .redeemed r ∈ new → Genuine cfg (s.updateRows ids f) r) :
    TicketInv cfg { s.finish (· == tid) with
      rows := s.updateRows ids f, history := s.history ++ new } := by
  refine h.of_frame ?_ fun other tx htx ↦ ?_
  · refine h.ledger.write (fun row' hrow' ↦ ?_) (fun row hrow ↦ exists_same_mem_updateRows hf hrow)
      hknown (fun e he row' hrow' hst ↦ ?_) hfst hgenuine
    · obtain ⟨row, hrow, hid, hold⟩ := of_mem_updateRows hf hrow'
      exact ⟨row, hrow, hid, fun hst ↦ (hold hst).1⟩
    · obtain ⟨row, hrow, -, hold⟩ := of_mem_updateRows hf hrow'
      obtain ⟨rfl, hid⟩ := hold hst
      exact hspent e he _ hrow hid hst
  · simp only [State.finish, ite_eq_iff, reduceCtorEq, and_false, false_or, beq_iff_eq] at htx
    obtain ⟨hne, htx⟩ := htx
    refine .inl ⟨htx, ⟨Nat.le_refl _, fun id hlock ↦ ?_, fun row hrow hlock ↦ ?_, Subset.refl _,
      fun id _ hs row' hrow' hid ↦ ?_⟩⟩
    · simp [State.finish, hlock, hne]
    · -- A row that another transaction has locked is not written.
      refine mem_updateRows_of_not_mem hrow fun hmem ↦ hne ?_
      exact Option.some.inj (hlock.symm.trans (hlocked row.id hmem))
    · obtain ⟨row, hrow, -, hold⟩ := of_mem_updateRows hf hrow'
      intro hst
      obtain ⟨rfl, -⟩ := hold hst
      exact hs _ hrow hid hst

/-- **A redemption commits**: it has locked the row, and takes its ticket. -/
theorem TicketInv.commit_updated {start clock : ℕ} {ticket : Text} {row : Row}
    (htx : s.txs tid = some (.updated start ticket row clock)) :
    TicketInv cfg { s.finish (· == tid) with
      rows := s.updateRows [row.id] (Row.redeem start)
      history := s.history ++ [.redeemed (s.redemption ticket row clock)] } := by
  have hown : s.Redeemable cfg tid ticket row clock := h.txs tid _ htx
  refine h.commit (takes_redeem start) ?_ ?_ ?_ ?_ ?_
  · exact forall_mem_singleton.2 hown.locked
  · exact forall_mem_singleton.2 (h.ledger.ids row hown.mem)
  · exact forall_mem_singleton.2 fun row' _ hid _ heq ↦ hid (mem_singleton.2 heq.symm)
  · refine pairwise_append.2 ⟨h.ledger.first, pairwise_singleton _ _, fun e he e' he' r hr ↦ ?_⟩
    rw [mem_singleton.1 he'] at hr
    obtain rfl := Event.redeemed.inj hr
    exact h.ledger.fresh row hown.mem hown.state e he
  · intro r hr
    obtain rfl := Event.redeemed.inj (mem_singleton.1 hr)
    obtain ⟨row', hrow', hhash, hses⟩ :=
      exists_same_mem_updateRows (takes_redeem start) hown.mem
    exact ⟨hown.unexpired, hown.clock, row', hrow', hhash ▸ hown.hash, hses.symm⟩

/-- A close or an invalidation commits what it has written. -/
theorem TicketInv.commit_writing {start : ℕ} {w : Write} {found done : List UUID}
    (htx : s.txs tid = some (.writing start w found [] done)) :
    TicketInv cfg { s.finish (· == tid) with
      rows := s.updateRows done (w.set start)
      history := s.history ++ written w found done } := by
  have hown : s.Writing tid w found [] done := h.txs tid _ htx
  -- Every event is about a row that the statement has written, or that had no ticket any more.
  have hevs : ∀ e ∈ written w found done, (∀ r, e ≠ .redeemed r) ∧
      (e.rowID ∈ found ∨ e.rowID ∈ done) ∧ (e.rowID ∈ done ∨ s.Spent e.rowID) := by
    cases w with
    | close =>
      intro e he
      obtain ⟨id', hid', rfl⟩ := mem_map.1 he
      exact ⟨nofun, .inr hid', .inl hid'⟩
    | invalidate =>
      intro e he
      obtain ⟨id', hid', rfl⟩ := mem_map.1 he
      refine ⟨nofun, .inl hid', ?_⟩
      obtain htodo | hpassed := hown.passed rfl id' hid'
      · cases htodo
      · exact hpassed
  refine h.commit (takes_set hown.state start) hown.locked ?_ ?_ ?_ ?_
  · exact fun e he ↦ hown.issued _ (hevs e he).2.1
  · intro e he row hrow hid hst heq
    obtain hdone | hspent := (hevs e he).2.2
    · exact hid (heq ▸ hdone)
    · exact hspent row hrow heq.symm hst
  · refine pairwise_append.2 ⟨h.ledger.first, pairwise_of_forall_mem_list ?_, ?_⟩ <;>
      exact fun e _ e' he' r hr ↦ absurd hr ((hevs e' he').1 r)
  · exact fun r hr ↦ absurd rfl ((hevs _ hr).1 r)

/-- A statement comes to a row: it writes it, or leaves it if it matches no more. -/
theorem TicketInv.writeRow {id : UUID} (hstep : s.writeRow tid id = some t) : TicketInv cfg t := by
  obtain ⟨_, w, found, todo, done, htx, ⟨hfree, hfnd, rfl⟩ | ⟨hfnd, rfl⟩⟩ := writeRow_eq_some hstep
  · have hown : s.Writing tid w found todo done := h.txs tid _ htx
    refine h.advance _ (fun other id' ↦ locks_update hfree id') ⟨hown.state, ?_, ?_, ?_⟩
    · intro id' hid'
      obtain rfl | hdone := mem_cons.1 hid'
      · exact update_self ..
      · exact locks_update hfree id' (hown.locked id' hdone)
    · rintro id' (hid' | hid')
      · exact hown.issued id' (.inl hid')
      · obtain rfl | hdone := mem_cons.1 hid'
        · obtain ⟨row, hrow, rfl⟩ := mem_map.1 hfnd
          exact h.ledger.ids row (mem_filter.1 hrow).1
        · exact hown.issued id' (.inr hdone)
    · intro hw id' hid'
      obtain rfl | hne := eq_or_ne id' id
      · exact .inr (.inl mem_cons_self)
      · exact (hown.passed hw id' hid').imp (mem_erase_of_ne hne).2 (.imp_left (mem_cons_of_mem _))
  · have hown : s.Writing tid w found todo done := h.txs tid _ htx
    refine h.advance s.locks (fun _ _ hlock ↦ hlock) { hown with passed := ?_ }
    intro hw id' hid'
    obtain rfl | hne := eq_or_ne id' id
    · refine .inr (.inr fun row hrow hid hst ↦ hfnd (mem_map.2 ⟨row, ?_, hid⟩))
      exact mem_filter.2 ⟨hrow, by rw [hw]; exact decide_eq_true hst⟩
    · exact (hown.passed hw id' hid').imp_left (mem_erase_of_ne hne).2

theorem TicketInv.create {row : Row} (hid : row.id ∉ s.issued) :
    TicketInv cfg { s with rows := s.rows ++ [row], issued := row.id :: s.issued } := by
  refine h.of_frame (h.ledger.insert hid) fun tid tx htx ↦ .inl ⟨htx, Nat.le_refl _, fun _ hlock ↦
    hlock, fun _ hrow _ ↦ mem_append_left _ hrow, subset_cons_self _ _, ?_⟩
  intro id hiss hspent row' hrow' heq
  obtain hold | hnew := mem_snoc.1 hrow'
  · exact hspent row' hold heq
  · rw [hnew] at heq
    exact absurd (heq ▸ hiss) hid

/-- **Every statement keeps the invariant.** -/
theorem TicketInv.step {l : Label} (hstep : step cfg s l = some t) : TicketInv cfg t := by
  cases l with
  | tick =>
    simp only [Tunnel.step] at hstep
    split_ifs at hstep with hnow
    cases hstep
    exact h.of_frame h.ledger fun _ _ htx ↦ .inl ⟨htx, frame_of_locks hnow rfl rfl fun _ hlock ↦
      hlock⟩
  | create =>
    obtain ⟨hid, rfl⟩ := create_eq_some hstep
    exact h.create hid
  | begin =>
    obtain ⟨hash, hhash, rfl⟩ := begin_eq_some hstep
    exact h.advance s.locks (fun _ _ hlock ↦ hlock) hhash
  | load tid =>
    obtain ⟨start, ticket, row, htx, hrow, hfree, rfl⟩ := load_eq_some hstep
    exact h.advance _ (fun other id ↦ locks_update hfree id) ⟨hrow, update_self .., h.txs tid _ htx⟩
  | check tid =>
    obtain ⟨start, ticket, row, htx, hst, hclock, rfl⟩ := check_eq_some hstep
    have hown : s.Holds cfg tid ticket row := h.txs tid _ htx
    exact h.advance s.locks (fun _ _ hlock ↦ hlock) ⟨{ hown with }, hst, hclock, Nat.le_refl _⟩
  | update tid =>
    obtain ⟨start, ticket, row, clock, htx, rfl⟩ := update_eq_some hstep
    have hown : s.Redeemable cfg tid ticket row clock := h.txs tid _ htx
    exact h.advance s.locks (fun _ _ hlock ↦ hlock) ⟨{ hown with }, hown.state, hown.unexpired,
      hown.clock⟩
  | write =>
    obtain ⟨hst, rfl⟩ := write_eq_some hstep
    refine h.advance s.locks (fun _ _ hlock ↦ hlock) ⟨hst, nofun, fun id hid ↦ ?_, fun _ _ hid ↦
      .inl hid⟩
    obtain hfnd | hnil := hid
    · obtain ⟨row, hrow, rfl⟩ := mem_map.1 hfnd
      exact h.ledger.ids row (mem_filter.1 hrow).1
    · cases hnil
  | writeRow => exact h.writeRow hstep
  | commit =>
    obtain ⟨start, ticket, row, clock, htx, rfl⟩ | ⟨start, w, _, _, htx, rfl⟩ :=
      commit_eq_some hstep
    · exact h.commit_updated htx
    · exact h.commit_writing htx
  | rollback =>
    simp only [Tunnel.step] at hstep
    split_ifs at hstep
    cases hstep
    exact h.finish _
  | restart =>
    simp only [Tunnel.step, restart] at hstep
    split_ifs at hstep
    cases hstep
    exact h.finish _

end

theorem ticketInv_of_exec {ls : List Label} (hrun : exec (step cfg) .init ls = some s) :
    TicketInv cfg s :=
  invariant_of_exec (fun _ _ _ h hstep ↦ h.step hstep) ticketInv_init hrun

end Invariant

/-! ### Tickets -/

/-- **Tickets are used once**, in every run, by the clock they are checked by; and a session is
returned only for a ticket of its row. -/
theorem tunnel_tickets {cfg : Config} {ls : List Label} {s : State}
    (hrun : exec (step cfg) .init ls = some s) :
    SingleUse Redemption.checkedAt s.history ∧ ∀ r, .redeemed r ∈ s.history →
      Genuine cfg s.rows r :=
  ⟨(ticketInv_of_exec hrun).ledger.singleUse, (ticketInv_of_exec hrun).ledger.genuine⟩

namespace Sample

/-- Tickets are not hashed. -/
def config : Config where
  sha256 := id

/-- Another spelling of the ticket `plaintext [1]`, which ends in `Q`: the last bits of the `R` are
not looked at. -/
def spelling : Text :=
  ticketPrefix ++ ['A', 'R']

/-- What is returned for the ticket of the row 1. -/
def redemption (ticket : Text) (committedAt : ℕ) : Redemption where
  ticket := ticket
  session :=
    { id := 1, remoteSessionID := 2, deviceID := 3, userID := 4, targetType := .sshLocal,
      state := .active, expiresAt := 60 }
  checkedAt := 60
  committedAt := committedAt

/-- The ticket is redeemed twice while an invalidation waits for the row. The server is restarted
when the first redemption has sent its commit; the second finds the row active. -/
def raced : List Label :=
  [.create 1 2 3 4 .sshLocal [1] 60, .tick 60, .begin 0 spelling, .begin 1 (plaintext [1]), .load 0,
    .write 2 .invalidate, .check 0, .update 0, .restart [0, 2], .commit 0, .begin 1 (plaintext [1]),
      .load 1,
    .rollback 1, .writeRow 2 1, .commit 2, .write 3 (.close 1 .closed), .writeRow 3 1, .commit 3]

/-- The clock goes on between the check and the commit. -/
def late : List Label :=
  [.create 1 2 3 4 .sshLocal [1] 60, .tick 60, .begin 0 spelling, .load 0, .check 0, .tick 61,
    .update 0, .commit 0]

end Sample

open Sample

/-- The ticket that two redeem is redeemed once. -/
theorem tunnel_tickets_raced : ∃ s, exec (step config) .init raced = some s ∧
      s.history = [.redeemed (redemption spelling 60), .invalidated 1, .closed 1] ∧
      SingleUse Redemption.checkedAt s.history := by
  refine exists_of_exec (fun s ↦ s.history = [.redeemed (redemption spelling 60), .invalidated 1,
      .closed 1]) (by decide +kernel) fun s hrun hhist ↦ ?_
  exact ⟨hhist, (tunnel_tickets hrun).1⟩

/-- **A ticket may be redeemed when it has expired**: it is checked at its last moment, and redeemed
one later. -/
theorem not_singleUse_late : ∃ s, exec (step config) .init late = some s ∧
      ¬ SingleUse Redemption.committedAt s.history := by
  refine exists_of_exec (fun s ↦ s.history = [.redeemed (redemption spelling 61)])
    (by decide +kernel) fun s hrun hhist h ↦ ?_
  have hle := h.unexpired (redemption spelling 61) (hhist ▸ mem_cons_self)
  exact absurd hle (by decide)

end WartungsRemote.RemoteSession.Tunnel
