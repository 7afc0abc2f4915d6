import WartungsRemote.Auth.Tables
import WartungsRemote.Transition.History

/-!
# Locks of one account

Ten failed checks of the password lock an account for a quarter of an hour, but
`RegisterFailedLogin` leaves the counter at ten. When the lock has expired **one more failure**
locks the account again, unless a login has reset the counter before (`tenFailures_iff`).
-/

namespace WartungsRemote.Auth

open Function Transition List

/-! ### Failed logins -/

/-- What `Login` finds of the password. If it is right, failures are reset where no second factor is
needed. -/
inductive Checked
  | wrong
  | right (reset : Bool)
  deriving DecidableEq

structure Attempt where
  time : ℕ
  checked : Checked

/-- An active account, and when `Login` was last called for it. -/
structure Account where
  user : User
  clock : ℕ

/-- An account without failures. -/
def Account.new (user : User) : Account :=
  ⟨{ user with failedLoginCount := 0, lockedUntil := none }, 0⟩

/-- `Login`, as far as it changes the row of the user. -/
def Account.login (s : Account) (a : Attempt) : Option Account :=
  if a.time < s.clock then none
  else some
    { clock := a.time
      user :=
        if s.user.Locked a.time then s.user
        else match a.checked with
          | .wrong => s.user.registerFailedLogin a.time
          | .right true => s.user.resetFailedLogins a.time
          | .right false => s.user }

/-- The password is checked and wrong. -/
def Account.Fails (s : Account) (a : Attempt) : Prop :=
  ¬ s.user.Locked a.time ∧ a.checked = .wrong
  deriving Decidable

/-- The failed checks since the last lock, none of which can have been while it lasted. -/
def recordFailure (failures : ℕ) (s : Account) (a : Attempt) (t : Account) : ℕ :=
  if s.Fails a then if t.user.Locked a.time then 0 else failures + 1 else failures

/-- What the counter has to do with the failures since the last lock or login. -/
structure Counted (w : Account × ℕ) : Prop where
  unlocked : w.1.user.lockedUntil = none → w.1.user.failedLoginCount ≤ w.2
  locked : w.1.user.lockedUntil ≠ none → 10 ≤ w.1.user.failedLoginCount ∧ w.2 = 0

variable {s t : Account} {a : Attempt} {w w' : Account × ℕ}

theorem locked_registerFailedLogin_iff {u : User} {now : ℕ} (h : ¬ u.Locked now) :
    (u.registerFailedLogin now).Locked now ↔ 10 ≤ u.failedLoginCount + 1 := by
  unfold User.registerFailedLogin
  split_ifs with hten
  · simp [User.Locked, hten, minute]
  · exact iff_of_false h hten

theorem login_eq_some (h : s.login a = some t) :
    s.Fails a ∧ t.user = s.user.registerFailedLogin a.time ∨
      ¬ s.Fails a ∧ (t.user = s.user ∨ t.user = s.user.resetFailedLogins a.time) := by
  unfold Account.login at h
  split_ifs at h with hpast hlock
  · cases h
    exact .inr ⟨fun hfails ↦ hfails.1 hlock, .inl rfl⟩
  · cases h
    unfold Account.Fails
    cases a.checked with
    | wrong => simp [hlock]
    | right reset => cases reset <;> simp

theorem Counted.step (hw : Counted w) (h : withHistory Account.login recordFailure w a = some w') :
    Counted w' := by
  obtain ⟨t, hlogin, rfl⟩ := withHistory_eq_some_iff.1 h
  obtain ⟨hunlocked, hlock⟩ := hw
  obtain ⟨hfails, ht⟩ | ⟨hfails, ht | ht⟩ := login_eq_some hlogin
  · have hlocks := locked_registerFailedLogin_iff hfails.1
    rw [← ht] at hlocks
    rw [User.registerFailedLogin] at ht
    constructor <;> simp only [recordFailure, if_pos hfails, ht] <;> grind
  · constructor <;> simpa only [recordFailure, if_neg hfails, ht]
  · constructor <;> simp [ht, User.resetFailedLogins]

/-- **Ten failures for every lock**, throughout any attempts, exactly if no check fails between the
end of a lock and the login that resets the counter. -/
theorem tenFailures_iff (user : User) (attempts : List Attempt) :
    Along (withHistory Account.login recordFailure)
      (fun w a w' ↦ ¬ w.1.user.Locked a.time → w'.1.user.Locked a.time → 10 ≤ w.2 + 1)
      (.new user, 0) attempts ↔
    Along Account.login (fun s a _ ↦ s.Fails a → s.user.lockedUntil = none) (.new user)
      attempts := by
  rw [← along_withHistory recordFailure 0]
  refine along_congr_of_invariant (fun _ _ _ ↦ Counted.step) (fun w a w' hw h ↦ ?_)
    ⟨fun _ ↦ le_rfl, fun h ↦ absurd rfl h⟩
  obtain ⟨t, hlogin, rfl⟩ := withHistory_eq_some_iff.1 h
  obtain ⟨hunlocked, hlock⟩ := hw
  obtain ⟨hfails, ht⟩ | ⟨hfails, ht | ht⟩ := login_eq_some hlogin
  · have hopen := hfails.1
    simp only [ht, locked_registerFailedLogin_iff hopen]
    grind
  · simp only [ht]
    grind
  · simp [ht, hfails, User.resetFailedLogins, User.Locked]

namespace Sample

def user : User where
  id := 1
  username := []
  passwordHash := []
  status := .active
  mfaRequired := false
  failedLoginCount := 0
  lockedUntil := none
  lastLoginAt := none

end Sample

/-- The eleventh failure, when the lock has expired. -/
theorem not_tenFailures_expired : ¬ Along (withHistory Account.login recordFailure)
    (fun w a w' ↦ ¬ w.1.user.Locked a.time → w'.1.user.Locked a.time → 10 ≤ w.2 + 1)
    (.new Sample.user, 0) (replicate 10 ⟨0, .wrong⟩ ++ [⟨15 * minute, .wrong⟩]) := by
  decide +kernel

end WartungsRemote.Auth
