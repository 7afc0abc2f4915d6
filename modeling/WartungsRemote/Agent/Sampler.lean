import Mathlib.Algebra.Group.Prod
import WartungsRemote.Agent.Netmetrics

/-!
# Where the samples come from

Every minute `RunSampler` reads the counters of the system, takes what the control channel has
counted since, and inserts a sample. It **keeps the last reading that succeeded**, so a reading that
fails loses nothing, and a counter that has gone back is a difference of zero. `AddSent` and
`AddRecv` may come between any two atomic operations; taking a count and setting it to zero is one
of them.
-/

namespace WartungsRemote.Agent.Netmetrics

open List Transition

/-- The bytes sent and the bytes received. -/
abbrev Counters : Type := UInt64 × UInt64

/-- The two counts as numbers. -/
def Counters.toNat (c : Counters) : ℕ × ℕ := (c.1.toNat, c.2.toNat)

/-- How far `RunSampler` is with a sample. -/
inductive Phase
  | waiting
  /-- The counters are read. -/
  | read (now : ℕ) (delta : Counters)
  | sentTaken (now : ℕ) (delta : Counters) (controlSent : UInt64)
  | taken (now : ℕ) (delta control : Counters)
  deriving DecidableEq

structure Sampler where
  /-- `lastSent` and `lastRecv`, if they are `ok`. -/
  last : Option Counters
  lastAt : ℕ
  phase : Phase
  /-- The `ControlBytesCounter`. -/
  control : Counters
  /-- The samples inserted, the last one first. -/
  samples : List Sample
  /-- The readings, the last one first. -/
  readings : List (Option Counters)
  /-- All that was added to the `ControlBytesCounter`. -/
  added : ℕ × ℕ

namespace Sampler

inductive Label
  /-- A tick, and what `readTotals` gives. -/
  | read (now : ℕ) (reading : Option Counters)
  | swapSent
  | swapRecv
  | insert
  | addSent (n : ℤ)
  | addRecv (n : ℤ)

def delta (last reading : Option Counters) : Counters :=
  match last, reading with
  | some p, some q => if q.1 ≥ p.1 ∧ q.2 ≥ p.2 then (q.1 - p.1, q.2 - p.2) else (0, 0)
  | _, _ => (0, 0)

def sample (now lastAt : ℕ) (delta control : Counters) : Sample where
  id := 0
  occurredAt := now
  intervalSeconds := (now - lastAt) / 1000000000
  bytesSentTotal := delta.1
  bytesRecvTotal := delta.2
  bytesSentControl := control.1
  bytesRecvControl := control.2

def step (s : Sampler) : Label → Option Sampler
  | .read now reading =>
    match s.phase with
    | .waiting => some
      { s with
        phase := .read now (delta s.last reading)
        last := reading.or s.last
        readings := reading :: s.readings }
    | _ => none
  | .swapSent =>
    match s.phase with
    | .read now delta =>
      some { s with phase := .sentTaken now delta s.control.1, control := (0, s.control.2) }
    | _ => none
  | .swapRecv =>
    match s.phase with
    | .sentTaken now delta controlSent =>
      some { s with
        phase := .taken now delta (controlSent, s.control.2)
        control := (s.control.1, 0) }
    | _ => none
  | .insert =>
    match s.phase with
    | .taken now delta control => some
      { s with
        phase := .waiting
        lastAt := now
        samples := sample now s.lastAt delta control :: s.samples }
    | _ => none
  | .addSent n => some
    { s with
      control := (if n > 0 then s.control.1 + .ofNat n.toNat else s.control.1, s.control.2)
      added := (s.added.1 + n.toNat, s.added.2) }
  | .addRecv n => some
    { s with
      control := (s.control.1, if n > 0 then s.control.2 + .ofNat n.toNat else s.control.2)
      added := (s.added.1, s.added.2 + n.toNat) }

/-- `RunSampler` has made its first reading. -/
def init (first : Option Counters) (now : ℕ) : Sampler where
  last := first
  lastAt := now
  phase := .waiting
  control := (0, 0)
  samples := []
  readings := [first]
  added := (0, 0)

/-! ### The traffic -/

/-- What was sent and received between two readings. -/
def gain (p q : Counters) : ℕ × ℕ :=
  if p.1 ≤ q.1 ∧ p.2 ≤ q.2 then (q.1.toNat - p.1.toNat, q.2.toNat - p.2.toNat) else 0

/-- The sum over consecutive readings, the last one first. -/
def traffic : List Counters → ℕ × ℕ
  | q :: p :: readings => gain p q + traffic (p :: readings)
  | _ => 0

theorem toNat_delta (p q : Counters) : (delta (some p) (some q)).toNat = gain p q := by
  simp only [delta, gain]
  split_ifs with h
  · rw [Counters.toNat, UInt64.toNat_sub_of_le _ _ h.1, UInt64.toNat_sub_of_le _ _ h.2]
  · rfl

theorem delta_traffic (reading : Option Counters) (readings : List (Option Counters)) :
    (delta readings.reduceOption.head? reading).toNat + traffic readings.reduceOption =
      traffic (reading :: readings).reduceOption := by
  cases reading with
  | none => cases readings.reduceOption.head? <;> exact zero_add _
  | some q =>
    change _ = traffic (q :: readings.reduceOption)
    cases readings.reduceOption with
    | nil => rfl
    | cons p => rw [head?_cons, toNat_delta]; rfl

/-- The traffic in a sample. -/
def total (x : Sample) : ℕ × ℕ := (x.bytesSentTotal.toNat, x.bytesRecvTotal.toNat)

/-- Nothing, or a difference of two consecutive readings. -/
def Gained (readings : List (Option Counters)) (x : ℕ × ℕ) : Prop :=
  x = 0 ∨ ∃ p q : Counters, [q, p] <:+: readings.reduceOption ∧ p.1 ≤ q.1 ∧ p.2 ≤ q.2 ∧
    x = (q.1.toNat - p.1.toNat, q.2.toNat - p.2.toNat)

def pendingTraffic : Phase → ℕ × ℕ
  | .waiting => 0
  | .read _ delta | .sentTaken _ delta _ | .taken _ delta _ => delta.toNat

def pendingControl : Phase → ℕ × ℕ
  | .waiting | .read _ _ => 0
  | .sentTaken _ _ controlSent => (controlSent.toNat, 0)
  | .taken _ _ control => control.toNat

/-- The books: what the readings show is in samples, or about to be. -/
structure Accounted (s : Sampler) : Prop where
  last : s.last = s.readings.reduceOption.head?
  traffic : (s.samples.map total).sum + pendingTraffic s.phase = traffic s.readings.reduceOption
  gained : ∀ x ∈ pendingTraffic s.phase :: s.samples.map total, Gained s.readings x
  sent : ((s.samples.map (·.bytesSentControl.toNat)).sum + (pendingControl s.phase).1 +
    s.control.1.toNat) % 2 ^ 64 = s.added.1 % 2 ^ 64
  recv : ((s.samples.map (·.bytesRecvControl.toNat)).sum + (pendingControl s.phase).2 +
    s.control.2.toNat) % 2 ^ 64 = s.added.2 % 2 ^ 64

variable {s t : Sampler} {l : Label}

theorem Gained.cons {readings : List (Option Counters)} {x : ℕ × ℕ} (h : Gained readings x)
    (reading : Option Counters) : Gained (reading :: readings) x := by
  obtain h | ⟨p, q, hinfix, h⟩ := h
  · exact .inl h
  · refine .inr ⟨p, q, hinfix.trans ?_, h⟩
    cases reading with
    | none => exact infix_rfl
    | some => exact (suffix_cons _ _).isInfix

theorem gained_delta (reading : Option Counters) (readings : List (Option Counters)) :
    Gained (reading :: readings) (delta readings.reduceOption.head? reading).toNat := by
  unfold Gained
  cases reading with
  | none => cases readings.reduceOption.head? <;> exact .inl rfl
  | some q =>
    change _ ∨ ∃ p' q', [q', p'] <:+: q :: readings.reduceOption ∧ _
    cases readings.reduceOption with
    | nil => exact .inl rfl
    | cons p rest =>
      rw [head?_cons, toNat_delta, gain]
      split_ifs with h
      · exact .inr ⟨p, q, (prefix_append [q, p] rest).isInfix, h.1, h.2, rfl⟩
      · exact .inl rfl

/-- Every step keeps the books. -/
theorem Accounted.step (hs : s.Accounted) (h : s.step l = some t) : t.Accounted := by
  obtain ⟨last, lastAt, phase, control, samples, readings, added⟩ := s
  obtain ⟨hlast, htraf, hgained, hsent, hrecv⟩ := hs
  cases l with
  | addSent n =>
    cases h
    refine ⟨hlast, htraf, hgained, ?_, hrecv⟩
    dsimp only at *
    split_ifs with hn
    · rw [UInt64.toNat_add, UInt64.toNat_ofNat']
      omega
    · omega
  | addRecv n =>
    cases h
    refine ⟨hlast, htraf, hgained, hsent, ?_⟩
    dsimp only at *
    split_ifs with hn
    · rw [UInt64.toNat_add, UInt64.toNat_ofNat']
      omega
    · omega
  | read now reading =>
    cases phase <;> cases h
    obtain rfl : last = readings.reduceOption.head? := hlast
    refine ⟨?_, ?_, ?_, hsent, hrecv⟩
    · cases reading <;> rfl
    · rw [← delta_traffic, ← htraf]
      exact add_comm _ _
    · rintro x (_ | ⟨_, hx⟩)
      · exact gained_delta reading readings
      · exact (hgained x (mem_cons_of_mem _ hx)).cons reading
  | swapSent =>
    cases phase <;> cases h
    exact ⟨hlast, htraf, hgained, hsent, hrecv⟩
  | swapRecv =>
    cases phase <;> cases h
    exact ⟨hlast, htraf, hgained, hsent, hrecv⟩
  | insert =>
    cases phase <;> cases h
    simp only [pendingControl, Counters.toNat] at hsent hrecv
    refine ⟨hlast, ?_, fun x hx ↦ ?_, ?_, ?_⟩
    · rw [← htraf, map_cons, sum_cons]
      exact (add_zero _).trans (add_comm _ (sum _))
    · obtain rfl | hx := mem_cons.1 hx
      · exact .inl rfl
      · exact hgained x hx
    all_goals
      simp only [map_cons, sum_cons, sample, pendingControl, Prod.fst_zero, Prod.snd_zero]
      omega

/-- **Nothing is lost and nothing counted twice**, of the traffic the readings show and of the bytes
of the control channel. -/
theorem accounted {first : Option Counters} {now : ℕ} {ls : List Label}
    (hrun : exec step (init first now) ls = some t) (hwait : t.phase = .waiting) :
    (t.samples.map total).sum = traffic t.readings.reduceOption ∧
    (∀ x ∈ t.samples, Gained t.readings (total x)) ∧
    ((t.samples.map (·.bytesSentControl.toNat)).sum + t.control.1.toNat) % 2 ^ 64 =
      t.added.1 % 2 ^ 64 ∧
    ((t.samples.map (·.bytesRecvControl.toNat)).sum + t.control.2.toNat) % 2 ^ 64 =
      t.added.2 % 2 ^ 64 := by
  have hinit : (init first now).Accounted :=
    ⟨by cases first <;> rfl, by cases first <;> rfl, fun x hx ↦ .inl (mem_singleton.1 hx), rfl, rfl⟩
  have ht := invariant_of_exec (fun _ _ _ ↦ Accounted.step) hinit hrun
  obtain ⟨-, htraf, hgained, hsent, hrecv⟩ := ht
  rw [hwait] at *
  exact ⟨htraf, fun x hx ↦ hgained _ (mem_cons_of_mem _ (mem_map_of_mem hx)), hsent, hrecv⟩

/-- A reading fails, and the channel counts between the operations. -/
theorem accounted_failing : ∃ t, exec step (init (some (5, 7)) 0)
      [.addSent 3, .read 1 none, .swapSent, .addSent 4, .swapRecv, .insert, .read 2 (some (9, 7)),
        .swapSent, .swapRecv, .insert] = some t ∧
      (t.samples.map total).sum = traffic t.readings.reduceOption :=
  exists_of_exec (·.phase = .waiting) (by decide +kernel) fun _ hrun hwait ↦
    (accounted hrun hwait).1

end Sampler

end WartungsRemote.Agent.Netmetrics
