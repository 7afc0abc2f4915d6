import Mathlib.Algebra.Group.Nat.Defs
import WartungsRemote.AgentRelease.Sync

/-!
# The address of a client

`netutil.ClientIP` is what the audit log, the rate limits and the table of devices know of where a
request comes from. A peer that is no trusted proxy is its own client, whatever it sends. A trusted
proxy appends the address of its client to the header `X-Forwarded-For`, but `ClientIP` takes **the
first entry**, which is the client's own (`unspoofed_iff`). Nothing says that this is an address
(`storable_iff`).

Addresses are read as `net.SplitHostPort` and `netip.ParseAddr` read them.
-/

namespace WartungsRemote.Netutil

open AgentRelease (isSpace trimSpace)

/-! ### Addresses -/

/-- `netip.Addr`: the bits of an IPv4 or IPv6 address, and the zone of the latter. -/
structure Addr where
  is4 : Bool
  value : ℕ
  zone : Text

def bitLen (is4 : Bool) : ℕ :=
  if is4 then 32 else 128

/-- Four numbers below 256 without superfluous zeros. -/
def parseIPv4 (t : Text) : Option ℕ :=
  let fields := t.splitOn '.'
  if fields.length = 4 ∧ fields.all fun f ↦ f ≠ [] && f.all Char.isDigit && Nat.ofDigitChars 10 f
      0 < 256 && (f.head? ≠ some '0' || f.length = 1) then
    some (fields.foldl (fun v f ↦ v * 256 + Nat.ofDigitChars 10 f 0) 0)
  else none

/-- The words of an IPv6 address and where zeros are left out, with so many words still allowed. -/
def parseWords : ℕ → List ℕ → Option ℕ → Text → Option (List ℕ × Option ℕ)
  | 0, words, gap, t => if t = [] then some (words, gap) else none
  | n + 1, words, gap, t =>
    let digits := t.takeWhile fun c ↦ (Hex.value c).isSome
    let read := words ++ [digits.foldl (fun w c ↦ w * 16 + (Hex.value c).getD 0) 0]
    if digits = [] ∨ 4 < digits.length then none
    else
      match t.drop digits.length with
      | [] => some (read, gap)
      | '.' :: _ =>
        if gap = none ∧ n ≠ 1 ∨ n = 0 then none
        else (parseIPv4 t).map fun v ↦ (words ++ [v / 65536, v % 65536], gap)
      | [':', ':'] => if gap = none then some (read, some read.length) else none
      | ':' :: ':' :: rest => if gap = none then parseWords n read (some read.length) rest else none
      | ':' :: c :: rest => parseWords n read gap (c :: rest)
      | _ => none

def parseIPv6 (t : Text) : Option (List ℕ) := do
  let (words, gap) ← match t with
    | [':', ':'] => some ([], some 0)
    | ':' :: ':' :: rest => parseWords 8 [] (some 0) rest
    | _ => parseWords 8 [] none t
  match gap with
  | some i =>
    if words.length < 8 then some (words.take i ++ List.replicate (8 - words.length) 0 ++
      words.drop i) else none
  | none => if words.length = 8 then some words else none

/-- `netip.ParseAddr`. -/
def parseAddr (t : Text) : Option Addr :=
  match t.find? fun c ↦ c ∈ ['.', ':', '%'] with
  | some '.' => (parseIPv4 t).map fun v ↦ ⟨true, v, []⟩
  | some ':' =>
    let zone := (t.dropWhile (· ≠ '%')).tail
    if '%' ∈ t ∧ zone = [] then none
    else (parseIPv6 (t.takeWhile (· ≠ '%'))).map fun ws ↦
      ⟨false, ws.foldl (fun v w ↦ v * 65536 + w) 0, zone⟩
  | _ => none

/-- `net.SplitHostPort`. -/
def splitHostPort (t : Text) : Option (Text × Text) :=
  let port := (t.reverse.takeWhile (· ≠ ':')).reverse
  match t with
  | '[' :: rest =>
    let host := rest.takeWhile (· ≠ ']')
    if rest = host ++ ']' :: ':' :: port ∧ '[' ∉ rest ∧ ']' ∉ port then some (host, port) else none
  | _ =>
    let host := t.take (t.length - port.length - 1)
    if ':' ∈ t ∧ ':' ∉ host ∧ '[' ∉ t ∧ ']' ∉ t then some (host, port) else none

/-! ### The client -/

/-- `netip.Prefix`. -/
structure Prefix where
  is4 : Bool
  value : ℕ
  bits : ℕ
  bits_le : bits ≤ bitLen is4

def Prefix.contains (p : Prefix) (a : Addr) : Bool :=
  a.zone = [] && a.is4 = p.is4 && a.value / 2 ^ (bitLen p.is4 - p.bits) =
    p.value / 2 ^ (bitLen p.is4 - p.bits)

/-- `TrustedProxies.contains`. -/
def contains (trusted : List Prefix) (host : Text) : Bool :=
  (parseAddr host).any fun a ↦ trusted.any (·.contains a)

def hostOf (remoteAddr : Text) : Text :=
  ((splitHostPort remoteAddr).map Prod.fst).getD remoteAddr

/-- The first entry of the header. -/
def firstEntry (header : Text) : Text :=
  trimSpace (header.takeWhile (· ≠ ','))

/-- `ClientIP`, with the value of `X-Forwarded-For`, which is empty if there is none. -/
def clientIP (trusted : List Prefix) (remoteAddr header : Text) : Text :=
  if contains trusted (hostOf remoteAddr) ∧ header ≠ [] ∧ firstEntry header ≠ [] then
    firstEntry header
  else hostOf remoteAddr

theorem clientIP_eq (trusted : List Prefix) (remoteAddr header : Text) :
    clientIP trusted remoteAddr header = if contains trusted (hostOf remoteAddr) ∧
      firstEntry header ≠ [] then firstEntry header else hostOf remoteAddr := by
  cases header with
  | nil => simp [clientIP, firstEntry, trimSpace]
  | cons => simp [clientIP]

/-! ### Spoofing -/

/-- The header that reaches the server. A trusted proxy appends the address of its client. -/
def forwarded (trusted : List Prefix) (remoteAddr client : Text) (sent : Option Text) : Text :=
  if contains trusted (hostOf remoteAddr) then sent.elim client (· ++ ',' :: ' ' :: client)
  else sent.getD []

/-- What a client makes the server believe through a trusted proxy. -/
def claimed (remoteAddr client : Text) (sent : Option Text) : Text :=
  if firstEntry (sent.getD client) = [] then hostOf remoteAddr else firstEntry (sent.getD client)

theorem firstEntry_append (sent rest : Text) :
    firstEntry (sent ++ ',' :: rest) = firstEntry sent := by
  have h : (sent ++ ',' :: rest).takeWhile (· ≠ ',') = sent.takeWhile (· ≠ ',') := by
    induction sent with
    | nil => rfl
    | cons c sent ih => simp only [List.cons_append, List.takeWhile_cons, ih]
  rw [firstEntry, h, firstEntry]

theorem clientIP_forwarded (trusted : List Prefix) (remoteAddr client : Text) (sent : Option Text) :
    clientIP trusted remoteAddr (forwarded trusted remoteAddr client sent) =
      if contains trusted (hostOf remoteAddr) then claimed remoteAddr client sent
      else hostOf remoteAddr := by
  have h : firstEntry (sent.elim client (· ++ ',' :: ' ' :: client)) =
      firstEntry (sent.getD client) := by
    cases sent with
    | none => rfl
    | some sent => exact firstEntry_append ..
  rw [clientIP_eq, forwarded, claimed]
  split <;> simp_all

/-- The client of a trusted proxy is known by the address the proxy has appended, whatever it sends,
**iff what it sends begins with that address**. -/
theorem unspoofed_iff (trusted : List Prefix) (remoteAddr client : Text)
    (sent sent' : Option Text) :
    (clientIP trusted remoteAddr (forwarded trusted remoteAddr client sent) =
        clientIP trusted remoteAddr (forwarded trusted remoteAddr client sent') ∧
      (contains trusted (hostOf remoteAddr) →
        clientIP trusted remoteAddr (forwarded trusted remoteAddr client sent) = client)) ↔
    (contains trusted (hostOf remoteAddr) →
      claimed remoteAddr client sent = client ∧ claimed remoteAddr client sent' = client) := by
  rw [clientIP_forwarded, clientIP_forwarded]
  by_cases h : contains trusted (hostOf remoteAddr)
  · simp only [h, if_true, true_imp_iff]
    exact ⟨fun hs ↦ ⟨hs.2, hs.1 ▸ hs.2⟩, fun hs ↦ ⟨hs.1.trans hs.2.symm, hs.1⟩⟩
  · simp [h]

/-- The network 10.0.0.0/8. -/
def proxies : Prefix :=
  ⟨true, 10 * 2 ^ 24, 8, by decide⟩

theorem spoofed : clientIP [proxies] "10.0.0.5:443".toList
      (forwarded [proxies] "10.0.0.5:443".toList "203.0.113.7".toList (some "8.8.8.8".toList)) =
        "8.8.8.8".toList ∧
    clientIP [proxies] "10.0.0.5:443".toList
      (forwarded [proxies] "10.0.0.5:443".toList "203.0.113.7".toList none) =
        "203.0.113.7".toList := by
  decide +kernel

/-! ### Storing the address -/

/-- The text of an address without a zone, as a column of type `inet` takes it. -/
def storable (t : Text) : Bool :=
  (parseAddr t).any (·.zone = [])

/-- What `ClientIP` returns can be stored **iff the first entry of a header from a trusted proxy
can**. -/
theorem storable_iff (trusted : List Prefix) {remoteAddr host port : Text} (header : Text)
    (hsplit : splitHostPort remoteAddr = some (host, port)) (hhost : storable host) :
    storable (clientIP trusted remoteAddr header) ↔
      (contains trusted host → firstEntry header ≠ [] → storable (firstEntry header)) := by
  have hof : hostOf remoteAddr = host := by rw [hostOf, hsplit]; rfl
  rw [clientIP_eq, hof]
  split_ifs with h
  · exact ⟨fun hs _ _ ↦ hs, fun hs ↦ hs h.1 h.2⟩
  · exact ⟨fun _ ht hne ↦ absurd ⟨ht, hne⟩ h, fun _ ↦ hhost⟩

theorem storable_iff_of_trusted :
    storable (clientIP [proxies] "10.0.0.5:443".toList "::1, 10.9.9.9".toList) ↔
    (contains [proxies] "10.0.0.5".toList → firstEntry "::1, 10.9.9.9".toList ≠ [] →
      storable (firstEntry "::1, 10.9.9.9".toList)) :=
  storable_iff [proxies] _ (show splitHostPort _ = some (_, "443".toList) by decide +kernel)
    (by decide +kernel)

theorem not_storable :
    storable (clientIP [proxies] "10.0.0.5:443".toList "unknown".toList) = false := by
  decide +kernel

end WartungsRemote.Netutil
