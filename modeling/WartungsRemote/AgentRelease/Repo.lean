import WartungsRemote.AgentUpdate.Verify
import WartungsRemote.Device.Registry
import WartungsRemote.Sql.Select

/-!
# The release manifest

`agentrelease.Repo` and its table `agent_versions`. `Create` takes a release only with a signature
of the offline key over its hash, `Latest` is what a device would be updated to, and
`IsVersionBlocked` is what the handshake of a device asks. `Latest` passes over **the row** that is
blocked; `IsVersionBlocked` refuses **the version** if it is blocked in any channel. Within one
channel it is the same, as there is one row per version, operating system, architecture and channel
(`eq_of_key_eq`).

A row keeps the hash and the signature as bytes, and a `Release` as texts. Postgres takes no text
that contains the character 0.
-/

namespace WartungsRemote.AgentRelease

open AgentUpdate

/-- A row of `agent_versions`. -/
structure Row where
  id : UUID
  version : Text
  osFamily : Text
  architecture : Text
  channel : Text
  artifactURL : Text
  artifactSHA256 : List UInt8
  signature : List UInt8
  publishedAt : ℕ
  minimumSupported : Bool
  blocked : Bool
  deriving DecidableEq

/-- `UNIQUE(version, os_family, architecture, channel)`. -/
def Row.key (r : Row) : Text × Text × Text × Text :=
  (r.version, r.osFamily, r.architecture, r.channel)

/-- The table, with its two constraints. -/
structure Table where
  rows : List Row
  ids_nodup : (rows.map Row.id).Nodup
  keys_nodup : (rows.map Row.key).Nodup

def Table.empty : Table where
  rows := []
  ids_nodup := List.nodup_nil
  keys_nodup := List.nodup_nil

structure Release where
  id : UUID
  version : Text
  osFamily : Text
  architecture : Text
  channel : Text
  artifactURL : Text
  artifactSHA256Hex : Text
  signatureBase64 : Text
  publishedAt : ℕ
  minimumSupported : Bool
  blocked : Bool
  deriving DecidableEq

def scanRelease (r : Row) : Release where
  id := r.id
  version := r.version
  osFamily := r.osFamily
  architecture := r.architecture
  channel := r.channel
  artifactURL := r.artifactURL
  artifactSHA256Hex := Hex.encodeToString r.artifactSHA256
  signatureBase64 := Base64.Std.encodeToString r.signature
  publishedAt := r.publishedAt
  minimumSupported := r.minimumSupported
  blocked := r.blocked

/-! ### Writing -/

/-- `INSERT`, which fails if the row violates a constraint. -/
def Table.insert (t : Table) (r : Row) : Option Table :=
  if h : r.id ∉ t.rows.map Row.id ∧ r.key ∉ t.rows.map Row.key then
    some
      { rows := t.rows ++ [r]
        ids_nodup := by simpa using List.Nodup.concat h.1 t.ids_nodup
        keys_nodup := by simpa using List.Nodup.concat h.2 t.keys_nodup }
  else none

/-- Why `Create` returns an error. -/
inductive CreateError
  /-- "agentrelease: invalid artifact_sha256". -/
  | invalidSHA256
  /-- "agentrelease: invalid signature encoding". -/
  | invalidSignatureEncoding
  /-- "agentrelease: signature verification failed". -/
  | verificationFailed (err : VerifyError)
  /-- "agentrelease: create", the error of the database. -/
  | create
  deriving DecidableEq

/-- The row that `Create` inserts. -/
def Release.row (rl : Release) (sum sig : List UInt8) (id : UUID) (publishedAt : ℕ) : Row where
  id
  version := rl.version
  osFamily := rl.osFamily
  architecture := rl.architecture
  channel := rl.channel
  artifactURL := rl.artifactURL
  artifactSHA256 := sum
  signature := sig
  publishedAt
  minimumSupported := rl.minimumSupported
  blocked := false

/-- The texts that `Create` passes to the database. -/
def Release.params (rl : Release) : List Text :=
  [rl.version, rl.osFamily, rl.architecture, rl.channel, rl.artifactURL]

/-- The first part of `Create`: the hash and the signature of a signed release. -/
def Release.check (crypto : Crypto) (trustedPubKey : List UInt8) (rl : Release) :
    Except CreateError (List UInt8 × List UInt8) :=
  match Hex.decodeString rl.artifactSHA256Hex, Base64.Std.decodeString rl.signatureBase64 with
  | none, _ => .error .invalidSHA256
  | some sum, decoded =>
    if sum.length ≠ 32 then .error .invalidSHA256
    else
      match decoded with
      | none => .error .invalidSignatureEncoding
      | some sig =>
        match verifyHashAndSignature crypto trustedPubKey sum sig with
        | .error err => .error (.verificationFailed err)
        | .ok () => .ok (sum, sig)

/-- The second part of `Create`. The database returns an id and the time, or fails. -/
def Table.insertRelease (t : Table) (rl : Release) (sum sig : List UInt8) (db : Option (UUID × ℕ)) :
    Except CreateError (Table × Release) :=
  match db with
  | none => .error .create
  | some (id, publishedAt) =>
    match t.insert (rl.row sum sig id publishedAt) with
    | none => .error .create
    | some t' =>
      if ∃ p ∈ rl.params, '\x00' ∈ p then .error .create else .ok (t', { rl with id, publishedAt })

def Table.create (crypto : Crypto) (trustedPubKey : List UInt8) (t : Table) (rl : Release)
    (db : Option (UUID × ℕ)) : Except CreateError (Table × Release) :=
  match rl.check crypto trustedPubKey with
  | .error err => .error err
  | .ok (sum, sig) => t.insertRelease rl sum sig db

/-- `Repo.SetBlocked`; undefined if there is no such row. -/
def Table.setBlocked (t : Table) (id : UUID) (blocked : Bool) : Option Table :=
  let set : Row → Row := fun r ↦ if r.id = id then { r with blocked } else r
  have hid : Row.id ∘ set = Row.id := by
    funext r
    simp only [Function.comp_apply, set]
    split_ifs <;> rfl
  have hkey : Row.key ∘ set = Row.key := by
    funext r
    simp only [Function.comp_apply, set]
    split_ifs <;> rfl
  if id ∈ t.rows.map Row.id then
    some
      { rows := t.rows.map set
        ids_nodup := by rw [List.map_map, hid]; exact t.ids_nodup
        keys_nodup := by rw [List.map_map, hkey]; exact t.keys_nodup }
  else none

/-! ### Reading -/

/-- The rows that `Latest` looks at. -/
def Row.offered (osFamily architecture channel : Text) (r : Row) : Bool :=
  r.osFamily = osFamily && r.architecture = architecture && r.channel = channel && !r.blocked

/-- `ORDER BY published_at DESC`. -/
def Row.newerFirst (r r' : Row) : Bool :=
  r'.publishedAt ≤ r.publishedAt

/-- The row that `Latest` reads. -/
def Table.latestRow (t : Table) (osFamily architecture channel : Text) : Option Row :=
  (Sql.select (Row.offered osFamily architecture channel) Row.newerFirst 0 1 t.rows).head?

inductive LatestError
  | notFound
  /-- "agentrelease: scan", the error of the database. -/
  | scan
  deriving DecidableEq

/-- `Repo.Latest`, on a database that answers. -/
def Table.latest (t : Table) (osFamily architecture channel : Text) : Except LatestError Release :=
  if ∃ p ∈ [osFamily, architecture, channel], '\x00' ∈ p then .error .scan
  else
    match t.latestRow osFamily architecture channel with
    | none => .error .notFound
    | some r => .ok (scanRelease r)

/-- `Repo.IsVersionBlocked`: `COALESCE(bool_or(blocked), false)`. -/
def Table.isVersionBlocked (t : Table) (osFamily architecture version : Text) : Bool :=
  t.rows.any fun r ↦
    r.osFamily = osFamily && r.architecture = architecture && r.version = version && r.blocked

/-! ### What the table says -/

section Reading

variable {t t' : Table} {osFamily architecture channel version : Text} {r r' : Row}

theorem Table.eq_of_key_eq (hr : r ∈ t.rows) (hr' : r' ∈ t.rows) (h : r.key = r'.key) : r = r' :=
  List.inj_on_of_nodup_map t.keys_nodup hr hr' h

theorem offered_iff : r.offered osFamily architecture channel = true ↔
    r.osFamily = osFamily ∧ r.architecture = architecture ∧ r.channel = channel ∧
      r.blocked = false := by
  simp [Row.offered, and_assoc]

theorem isVersionBlocked_iff : t.isVersionBlocked osFamily architecture version = true ↔
    ∃ r ∈ t.rows, r.osFamily = osFamily ∧ r.architecture = architecture ∧ r.version = version ∧
      r.blocked = true := by
  simp [Table.isVersionBlocked, and_assoc]

theorem mem_of_latestRow (h : t.latestRow osFamily architecture channel = some r) :
    r ∈ t.rows ∧ r.offered osFamily architecture channel = true :=
  Sql.mem_of_mem_select (List.mem_of_mem_head? h)

instance : Std.Total fun r r' : Row ↦ r.newerFirst r' = true where
  total r r' := by
    simp only [Row.newerFirst, decide_eq_true_eq]
    exact Nat.le_total _ _

instance : IsTrans Row fun r r' : Row ↦ r.newerFirst r' = true where
  trans r r' r'' h h' := by
    simp only [Row.newerFirst, decide_eq_true_eq] at *
    exact Nat.le_trans h' h

theorem publishedAt_le_of_latestRow (h : t.latestRow osFamily architecture channel = some r)
    (hr' : r' ∈ t.rows) (hoff : r'.offered osFamily architecture channel = true) :
    r'.publishedAt ≤ r.publishedAt := by
  by_cases heq : r' = r
  · rw [heq]
  · exact of_decide_eq_true (Sql.le_of_head?_select h hr' hoff heq)

theorem exists_latestRow (hr : r ∈ t.rows) (hoff : r.offered osFamily architecture channel = true) :
    ∃ r', t.latestRow osFamily architecture channel = some r' :=
  Sql.exists_head?_select hr hoff

theorem latestRow_of_latest {rl : Release} (h : t.latest osFamily architecture channel = .ok rl) :
    ∃ r, t.latestRow osFamily architecture channel = some r ∧ rl = scanRelease r := by
  unfold Table.latest at h
  split_ifs at h
  split at h
  · cases h
  next r hr => exact ⟨r, hr, (Except.ok.inj h).symm⟩

end Reading

/-! ### What a write does -/

section Writing

variable {crypto : Crypto} {trustedPubKey : List UInt8} {t t' : Table} {rl rl' : Release}
  {db : Option (UUID × ℕ)}

theorem rows_of_insert {r : Row} (h : t.insert r = some t') : t'.rows = t.rows ++ [r] := by
  unfold Table.insert at h
  split_ifs at h
  cases h
  rfl

/-- The database takes the release: it answers, and no constraint is violated. -/
def Release.Insertable (rl : Release) (t : Table) (db : Option (UUID × ℕ)) : Prop :=
  ∃ id publishedAt, db = some (id, publishedAt) ∧ id ∉ t.rows.map Row.id ∧
    (rl.version, rl.osFamily, rl.architecture, rl.channel) ∉ t.rows.map Row.key ∧
    ∀ p ∈ rl.params, '\x00' ∉ p

theorem insertRelease_eq_ok {sum sig : List UInt8}
    (h : t.insertRelease rl sum sig db = .ok (t', rl')) :
    ∃ id publishedAt, db = some (id, publishedAt) ∧
      t.insert (rl.row sum sig id publishedAt) = some t' ∧ ∀ p ∈ rl.params, '\x00' ∉ p := by
  unfold Table.insertRelease at h
  split at h
  · cases h
  next id publishedAt =>
    split at h
    · cases h
    next hins =>
      split_ifs at h with hpar
      obtain ⟨rfl, -⟩ := Prod.mk.inj (Except.ok.inj h)
      exact ⟨id, publishedAt, rfl, hins, fun p hp hnul ↦ hpar ⟨p, hp, hnul⟩⟩

theorem row_of_create (h : t.create crypto trustedPubKey rl db = .ok (t', rl')) :
    ∃ sum sig id publishedAt, db = some (id, publishedAt) ∧
      rl.check crypto trustedPubKey = .ok (sum, sig) ∧ (∀ p ∈ rl.params, '\x00' ∉ p) ∧
      t'.rows = t.rows ++ [rl.row sum sig id publishedAt] := by
  unfold Table.create at h
  split at h
  · cases h
  next sum sig hchk =>
    obtain ⟨id, publishedAt, hdb, hins, hpar⟩ := insertRelease_eq_ok h
    exact ⟨sum, sig, id, publishedAt, hdb, hchk, hpar, rows_of_insert hins⟩

end Writing

end WartungsRemote.AgentRelease
