import WartungsRemote.AgentRelease.Repo

/-!
# Importing releases from GitHub

`GitHubSyncer.SyncOnce`: every asset of an `agent-*` release that is named like a binary and not in
the manifest becomes a row, with the hash and the signature that stand in two other assets next to
it. What goes wrong with one asset is reported and does not keep the others from being imported.

GitHub lists releases **newest first, and they are inserted in that order**. The time of a row is
the time of its insertion, so of the releases that one sync imports, `Latest` returns the oldest
(`latest_eq_first_iff`).

What comes from outside in the course of a sync is in `Outside`: the list of releases, the answers
to the requests for the sidecar assets, and those of the database to the inserts, by their number.
-/

namespace WartungsRemote.AgentRelease

open List
open AgentUpdate (Crypto)

/-! ### Strings -/

/-- `strings.TrimPrefix`. -/
def trimStart (p t : Text) : Text :=
  if p.isPrefixOf t then t.drop p.length else t

def isSpace (c : Char) : Bool :=
  c.toNat ∈ [9, 10, 11, 12, 13, 32, 133, 160, 5760, 8232, 8233, 8239, 8287, 12288] ∨
    8192 ≤ c.toNat ∧ c.toNat ≤ 8202

def trimSpace (t : Text) : Text :=
  ((t.dropWhile isSpace).reverse.dropWhile isSpace).reverse

/-! ### GitHub's releases -/

structure GhAsset where
  name : Text
  browserDownloadURL : Text
  deriving DecidableEq

structure GhRelease where
  tagName : Text
  prerelease : Bool
  assets : List GhAsset
  deriving DecidableEq

def agentTag : Text :=
  ['a', 'g', 'e', 'n', 't', '-']

/-- The version of a release whose tag starts with `agent-`. -/
def GhRelease.version? (gr : GhRelease) : Option Text :=
  if agentTag.isPrefixOf gr.tagName then some (trimStart ['v'] (trimStart agentTag gr.tagName))
  else none

def GhRelease.channel (gr : GhRelease) : Text :=
  if gr.prerelease then ['b', 'e', 't', 'a'] else ['s', 't', 'a', 'b', 'l', 'e']

/-- `assetsByName`: of several assets with one name, the last. -/
def GhRelease.assetsByName (gr : GhRelease) (name : Text) : Option GhAsset :=
  gr.assets.reverse.find? fun a ↦ a.name = name

/-- `[a-z0-9]`. -/
def isNameChar (c : Char) : Bool :=
  'a' ≤ c ∧ c ≤ 'z' ∨ '0' ≤ c ∧ c ≤ '9'

def agentName : Text :=
  ['w', 'r', '-', 'a', 'g', 'e', 'n', 't', '-']

/-- The submatches of `assetNamePattern`, `^wr-agent-([a-z0-9]+)-([a-z0-9]+)(\.exe)?$`. -/
def matchAssetName (name : Text) : Option (Text × Text) :=
  if agentName.isPrefixOf name then
    let (osFamily, rest) := (name.drop agentName.length).span isNameChar
    match rest with
    | '-' :: rest =>
      let (arch, rest) := rest.span isNameChar
      if osFamily ≠ [] ∧ arch ≠ [] ∧ (rest = [] ∨ rest = ['.', 'e', 'x', 'e']) then
        some (osFamily, arch)
      else none
    | _ => none
  else none

/-! ### One sync -/

inductive FetchError
  | request
  | status (code : ℕ)
  | read
  deriving DecidableEq

/-- What comes from outside in a sync. A response is its status and its body, of which the first
4096 bytes are read. -/
structure Outside where
  releases : Except FetchError (List GhRelease)
  listed : Bool
  response : ℕ → Text → Option (ℕ × Option Text)
  insert : ℕ → Option (UUID × ℕ)

/-- An entry of `SyncResult.Errors`. -/
inductive SyncError
  /-- "%s (%s): missing .sha256 sidecar asset". -/
  | missingSHA256 (name tagName : Text)
  /-- "%s (%s): missing .sig sidecar asset". -/
  | missingSig (name tagName : Text)
  /-- "%s: fetch .sha256: %v". -/
  | fetchSHA256 (name : Text) (err : FetchError)
  /-- "%s: fetch .sig: %v". -/
  | fetchSig (name : Text) (err : FetchError)
  /-- "%s: %v". -/
  | create (name : Text) (err : CreateError)
  deriving DecidableEq

/-- The manifest, the map `seen`, the result, and how many requests and inserts there were. -/
structure Sync where
  table : Table
  seen : List Text
  imported : ℕ
  skipped : ℕ
  errors : List SyncError
  requests : ℕ
  inserts : ℕ

structure GitHubSyncer where
  crypto : Crypto
  trustedPubKey : List UInt8

def seenKey (version osFamily arch : Text) : Text :=
  version ++ '|' :: osFamily ++ '|' :: arch

section SyncOnce

variable (syncer : GitHubSyncer) (out : Outside)

/-- `fetchText`, the `k`-th request of the sync. -/
def fetchText (k : ℕ) (url : Text) : Except FetchError Text :=
  match out.response k url with
  | none => .error .request
  | some (status, body) =>
    if status ≠ 200 then .error (.status status)
    else
      match body with
      | none => .error .read
      | some body => .ok (trimSpace body)

/-- The texts of the two sidecar assets, and how many requests there were after that. -/
def fetchSidecars (gr : GhRelease) (a : GhAsset) (k : ℕ) : Except SyncError (Text × Text) × ℕ :=
  match gr.assetsByName (a.name ++ ['.', 's', 'h', 'a', '2', '5', '6']),
    gr.assetsByName (a.name ++ ['.', 's', 'i', 'g']) with
  | none, _ => (.error (.missingSHA256 a.name gr.tagName), k)
  | some _, none => (.error (.missingSig a.name gr.tagName), k)
  | some sumAsset, some sigAsset =>
    match fetchText out k sumAsset.browserDownloadURL with
    | .error err => (.error (.fetchSHA256 a.name err), k + 1)
    | .ok sumHex =>
      match fetchText out (k + 1) sigAsset.browserDownloadURL with
      | .error err => (.error (.fetchSig a.name err), k + 2)
      | .ok sigB64 => (.ok (sumHex, sigB64), k + 2)

/-- The release that an asset is imported as. -/
def assetRelease (gr : GhRelease) (version osFamily arch : Text) (a : GhAsset)
    (sumHex sigB64 : Text) : Release where
  id := 0
  version
  osFamily
  architecture := arch
  channel := gr.channel
  artifactURL := a.browserDownloadURL
  artifactSHA256Hex := sumHex
  signatureBase64 := sigB64
  publishedAt := 0
  minimumSupported := false
  blocked := false

/-- The body of the inner loop. -/
def importAsset (gr : GhRelease) (version : Text) (st : Sync) (a : GhAsset) : Sync :=
  match matchAssetName a.name with
  | none => st
  | some (osFamily, arch) =>
    if st.seen.contains (seenKey version osFamily arch) then { st with skipped := st.skipped + 1 }
    else
      let (fetched, requests) := fetchSidecars out gr a st.requests
      match fetched with
      | .error err => { st with errors := st.errors ++ [err], requests }
      | .ok (sumHex, sigB64) =>
        match st.table.create syncer.crypto syncer.trustedPubKey
            (assetRelease gr version osFamily arch a sumHex sigB64) (out.insert st.inserts) with
        | .error err =>
          { st with
            errors := st.errors ++ [.create a.name err]
            requests
            inserts := st.inserts + 1 }
        | .ok (table, _) =>
          { st with
            table
            seen := seenKey version osFamily arch :: st.seen
            imported := st.imported + 1
            requests
            inserts := st.inserts + 1 }

/-- The body of the outer loop. -/
def importRelease (st : Sync) (gr : GhRelease) : Sync :=
  match gr.version? with
  | none => st
  | some version => gr.assets.foldl (importAsset syncer out gr version) st

/-- The sync before its first asset. -/
def Sync.start (table : Table) : Sync where
  table
  seen := table.rows.map fun r ↦ seenKey r.version r.osFamily r.architecture
  imported := 0
  skipped := 0
  errors := []
  requests := 0
  inserts := 0

inductive SyncFailure
  | releases (err : FetchError)
  /-- "agentrelease: list existing releases". -/
  | list
  deriving DecidableEq

def syncOnce (table : Table) : Except SyncFailure Sync :=
  match out.releases with
  | .error err => .error (.releases err)
  | .ok releases =>
    if out.listed then .ok (releases.foldl (importRelease syncer out) (.start table))
    else .error .list

end SyncOnce

/-! ### What a sync imports -/

/-- A row imported from one of the releases, by an insert with a number from `i` to `j`. -/
structure Imported (out : Outside) (releases : List GhRelease) (i j : ℕ) (r : Row) : Prop where
  source : ∃ gr ∈ releases, gr.version? = some r.version ∧ gr.channel = r.channel
  insert : ∃ k id, i ≤ k ∧ k < j ∧ out.insert k = some (id, r.publishedAt)
  unblocked : r.blocked = false
  params : ∀ p ∈ [r.osFamily, r.architecture, r.channel], '\x00' ∉ p

/-- Some rows are imported from the releases, behind those that are there. -/
def Imports (out : Outside) (releases : List GhRelease) (st st' : Sync) : Prop :=
  st.inserts ≤ st'.inserts ∧
    ∃ new, st'.table.rows = st.table.rows ++ new ∧
      ∀ r ∈ new, Imported out releases st.inserts st'.inserts r

section Imports

variable {syncer : GitHubSyncer} {out : Outside} {releases releases' : List GhRelease}
  {st st' st'' : Sync}

theorem Imported.mono {i i' j j' : ℕ} {r : Row} (h : Imported out releases i j r)
    (hrels : ∀ gr ∈ releases, gr ∈ releases') (hi : i' ≤ i) (hj : j ≤ j') :
    Imported out releases' i' j' r := by
  obtain ⟨gr, hgr, hsource⟩ := h.source
  obtain ⟨k, id, hik, hkj, hins⟩ := h.insert
  exact ⟨⟨gr, hrels gr hgr, hsource⟩, ⟨k, id, hi.trans hik, hkj.trans_le hj, hins⟩, h.unblocked,
    h.params⟩

theorem imports_refl : Imports out releases st st :=
  ⟨Nat.le_refl _, [], (append_nil _).symm, by simp⟩

theorem Imports.trans (h : Imports out releases st st') (h' : Imports out releases' st' st'') :
    Imports out (releases ++ releases') st st'' := by
  obtain ⟨hle, new, hrows, hnew⟩ := h
  obtain ⟨hle', new', hrows', hnew'⟩ := h'
  refine ⟨hle.trans hle', new ++ new', by rw [hrows', hrows, append_assoc], fun r hr ↦ ?_⟩
  rcases mem_append.1 hr with hr | hr
  · exact (hnew r hr).mono (fun gr hgr ↦ mem_append_left _ hgr) (Nat.le_refl _) hle'
  · exact (hnew' r hr).mono (fun gr hgr ↦ mem_append_right _ hgr) hle (Nat.le_refl _)

theorem Imports.mono (h : Imports out releases st st') (hrels : ∀ gr ∈ releases, gr ∈ releases') :
    Imports out releases' st st' := by
  obtain ⟨hle, new, hrows, hnew⟩ := h
  exact ⟨hle, new, hrows, fun r hr ↦ (hnew r hr).mono hrels (Nat.le_refl _) (Nat.le_refl _)⟩

theorem imports_importAsset {gr : GhRelease} {version : Text} (hvers : gr.version? = some version)
    (a : GhAsset) : Imports out [gr] st (importAsset syncer out gr version st a) := by
  unfold importAsset
  split
  · exact imports_refl
  split_ifs
  · exact imports_refl
  split
  split
  · exact imports_refl
  split
  · exact ⟨Nat.le_succ _, [], (append_nil _).symm, by simp⟩
  next hcre =>
    obtain ⟨_, _, id, _, hdb, -, hpar, hrows⟩ := row_of_create hcre
    refine ⟨Nat.le_succ _, _, hrows, fun r hr ↦ ?_⟩
    obtain rfl := mem_singleton.1 hr
    refine ⟨⟨gr, mem_singleton_self gr, hvers, rfl⟩, ⟨_, id, Nat.le_refl _, Nat.lt_succ_self _,
      hdb⟩, rfl, fun p hp ↦ hpar p ?_⟩
    simp only [Release.params, mem_cons] at hp ⊢
    tauto

theorem imports_importRelease (gr : GhRelease) :
    Imports out [gr] st (importRelease syncer out st gr) := by
  unfold importRelease
  split
  · exact imports_refl
  next version hvers =>
    -- the inner loop
    generalize gr.assets = assets
    induction assets generalizing st with
    | nil => exact imports_refl
    | cons a _ ih =>
      exact ((imports_importAsset hvers a).trans ih).mono (by simp)

theorem imports_foldl (releases : List GhRelease) :
    Imports out releases st (releases.foldl (importRelease syncer out) st) := by
  induction releases generalizing st with
  | nil => exact imports_refl
  | cons gr _ ih => exact (imports_importRelease gr).trans ih

end Imports

/-! ### Which release is the latest -/

/-- The release was imported for this operating system, architecture and channel. -/
def GhRelease.Contributed (table : Table) (osFamily architecture channel : Text) (gr : GhRelease) :
    Prop :=
  gr.channel = channel ∧ ∃ r ∈ table.rows, gr.version? = some r.version ∧ r.osFamily = osFamily ∧
    r.architecture = architecture ∧ r.channel = channel
  deriving Decidable

/-- The releases imported, in the order of the list. -/
def contributed (table : Table) (osFamily architecture channel : Text) (releases : List GhRelease) :
    List GhRelease :=
  releases.filter fun gr ↦ gr.Contributed table osFamily architecture channel

/-- The manifest has none of the versions. -/
def Fresh (table : Table) (releases : List GhRelease) : Prop :=
  ∀ gr ∈ releases, ∀ r ∈ table.rows, gr.version? ≠ some r.version
  deriving Decidable

/-- Every insert gets a later time than the ones before it and the rows that are there. -/
structure Outside.Increasing (out : Outside) (table : Table) : Prop where
  inserts : ∀ i j p q, i < j → out.insert i = some p → out.insert j = some q → p.2 < q.2
  rows : ∀ r ∈ table.rows, ∀ k p, out.insert k = some p → r.publishedAt < p.2

section Latest

variable {syncer : GitHubSyncer} {out : Outside} {table : Table} {result : Sync}
  {releases before after : List GhRelease} {osFamily architecture channel : Text}
      {first : GhRelease}
  {rest : List GhRelease} {r r' : Row}

theorem foldl_of_syncOnce (h : syncOnce syncer out table = .ok result)
    (hrels : out.releases = .ok releases) :
    result = releases.foldl (importRelease syncer out) (.start table) := by
  simp only [syncOnce, hrels] at h
  split_ifs at h
  exact (Except.ok.inj h).symm

theorem version_ne_of_append (hnd : ((before ++ after).filterMap GhRelease.version?).Nodup)
    {gr gr' : GhRelease} (hgr : gr ∈ before) (hgr' : gr' ∈ after) {v : Text}
    (hv : gr.version? = some v) : gr'.version? ≠ some v := by
  intro hv'
  rw [filterMap_append] at hnd
  exact (nodup_append.1 hnd).2.2 v (mem_filterMap.2 ⟨gr, hgr, hv⟩) v (mem_filterMap.2 ⟨gr', hgr',
    hv'⟩) rfl

/-- **What is listed later is published later.** -/
theorem publishedAt_lt_of_listed (hres : result =
      (before ++ after).foldl (importRelease syncer out) (.start table))
    (hnd : ((before ++ after).filterMap GhRelease.version?).Nodup)
    (hfresh : Fresh table (before ++ after)) (hstamps : out.Increasing table) {gr gr' : GhRelease}
    (hgr : gr ∈ before) (hgr' : gr' ∈ after) (hr : r ∈ result.table.rows)
    (hr' : r' ∈ result.table.rows) (hvers : gr.version? = some r.version)
    (hvers' : gr'.version? = some r'.version) : r.publishedAt < r'.publishedAt := by
  rw [foldl_append] at hres
  obtain ⟨-, new, hrows, hnew⟩ : Imports out before (.start table)
    (before.foldl (importRelease syncer out) (.start table)) := imports_foldl before
  obtain ⟨-, new', hrows', hnew'⟩ : Imports out after
    (before.foldl (importRelease syncer out) (.start table)) result := hres ▸ imports_foldl after
  rw [hrows', hrows, append_assoc] at hr hr'
  -- the first of the two rows does not come from the second part of the list
  have hrow : r ∈ new := by
    rcases mem_append.1 hr with hold | hr
    · exact absurd hvers (hfresh gr (mem_append_left _ hgr) r hold)
    rcases mem_append.1 hr with hr | hlater
    · exact hr
    · obtain ⟨gr₁, hgr₁, hversion₁, -⟩ := (hnew' r hlater).source
      exact absurd hversion₁ (version_ne_of_append hnd hgr hgr₁ hvers)
  -- and the second one does not come from the first part
  have hrow' : r' ∈ new' := by
    rcases mem_append.1 hr' with hold | hr'
    · exact absurd hvers' (hfresh gr' (mem_append_right _ hgr') r' hold)
    rcases mem_append.1 hr' with hearl | hr'
    · obtain ⟨gr₁, hgr₁, hversion₁, -⟩ := (hnew r' hearl).source
      exact absurd hvers' (version_ne_of_append hnd hgr₁ hgr' hversion₁)
    · exact hr'
  obtain ⟨k, _, -, hk, hins⟩ := (hnew r hrow).insert
  obtain ⟨k', _, hk', -, hins'⟩ := (hnew' r' hrow').insert
  exact hstamps.inserts k k' _ _ (hk.trans_le hk') hins hins'

/-- A row with the version of a release was imported. -/
theorem imported_of_version
    (hres : result = releases.foldl (importRelease syncer out) (.start table))
    (hfresh : Fresh table releases) {gr : GhRelease} (hgr : gr ∈ releases)
    (hr : r ∈ result.table.rows) (hvers : gr.version? = some r.version) :
    Imported out releases 0 result.inserts r := by
  obtain ⟨-, _, hrows, hnew⟩ : Imports out releases (.start table) result :=
    hres ▸ imports_foldl releases
  rcases mem_append.1 (hrows ▸ hr) with hold | hrow
  · exact absurd hvers (hfresh gr hgr r hold)
  · exact hnew r hrow

/-- **If one release was imported, it is the latest.** -/
theorem latest_of_contributed_eq
    (hres : result = releases.foldl (importRelease syncer out) (.start table))
    (hfresh : Fresh table releases) (hstamps : out.Increasing table)
    (hone : contributed result.table osFamily architecture channel releases = [first]) :
    ∃ rl, result.table.latest osFamily architecture channel = .ok rl ∧
      first.version? = some rl.version := by
  obtain ⟨-, new, hrows, hnew⟩ : Imports out releases (.start table) result :=
    hres ▸ imports_foldl releases
  have hfst : first ∈ contributed result.table osFamily architecture channel releases :=
    hone ▸ mem_singleton_self first
  simp only [contributed, mem_filter, decide_eq_true_eq] at hfst
  obtain ⟨hlisted, -, r, hr, hvers, rfl, rfl, rfl⟩ := hfst
  have himp := imported_of_version hres hfresh hlisted hr hvers
  have hoff : r.offered r.osFamily r.architecture r.channel = true :=
    offered_iff.2 ⟨rfl, rfl, rfl, himp.unblocked⟩
  obtain ⟨r', hlat⟩ := exists_latestRow hr hoff
  obtain ⟨hr', hoffered⟩ := mem_of_latestRow hlat
  have hle := publishedAt_le_of_latestRow hlat hr hoff
  -- the latest row was imported, so the only release that was is its source
  have hrow' : r' ∈ new := by
    rcases mem_append.1 (hrows ▸ hr') with hold | hrow'
    · obtain ⟨k, _, -, -, hins⟩ := himp.insert
      exact absurd (hstamps.rows r' hold k _ hins) (Nat.not_lt_of_le hle)
    · exact hrow'
  obtain ⟨gr, hgr, hvers', hchan⟩ := (hnew r' hrow').source
  obtain ⟨hos, harch, hchan', -⟩ := offered_iff.1 hoffered
  have hsource : gr ∈ contributed result.table r.osFamily r.architecture r.channel releases := by
    simp only [contributed, mem_filter, decide_eq_true_eq]
    exact ⟨hgr, hchan.trans hchan', r', hr', hvers', hos, harch, hchan'⟩
  rw [hone, mem_singleton] at hsource
  refine ⟨scanRelease r', ?_, hsource ▸ hvers'⟩
  simp only [Table.latest, hlat]
  exact if_neg fun ⟨p, hp, hnul⟩ ↦ himp.params p hp hnul

/-- **The newest release is the latest only if it is the only one**: after a sync of releases that
were not in the manifest, with different versions, `Latest` returns the first one imported exactly
if there is no other. -/
theorem latest_eq_first_iff (h : syncOnce syncer out table = .ok result)
    (hrels : out.releases = .ok releases) (hnd : (releases.filterMap GhRelease.version?).Nodup)
    (hnew : Fresh table releases) (hstamps : out.Increasing table)
    (hcontr : contributed result.table osFamily architecture channel releases = first :: rest) :
    (∃ rl, result.table.latest osFamily architecture channel = .ok rl ∧
      first.version? = some rl.version) ↔ rest = [] := by
  have hres := foldl_of_syncOnce h hrels
  constructor
  · rintro ⟨rl, hlat, hvers⟩
    obtain ⟨r, hrow, rfl⟩ := latestRow_of_latest hlat
    cases rest with
    | nil => rfl
    | cons second =>
      exfalso
      -- the second release was imported after the row that is the latest
      obtain ⟨l₁, _, rfl, -, -, hrest⟩ := filter_eq_cons_iff.1 hcontr
      obtain ⟨l₃, l₄, rfl, -, hsnd, -⟩ := filter_eq_cons_iff.1 hrest
      obtain ⟨-, r', hr', hvers', hos, harch, hchan⟩ := of_decide_eq_true hsnd
      have hsplit : l₁ ++ first :: (l₃ ++ second :: l₄) = (l₁ ++ first :: l₃) ++ second ::
        l₄ := by simp
      rw [hsplit] at hres hnd hnew
      have hlt : r.publishedAt < r'.publishedAt :=
        publishedAt_lt_of_listed hres hnd hnew hstamps (by simp) mem_cons_self
          (mem_of_latestRow hrow).1 hr' hvers hvers'
      have himp := imported_of_version hres hnew (by simp) hr' hvers'
      have hle := publishedAt_le_of_latestRow hrow hr'
        (offered_iff.2 ⟨hos, harch, hchan, himp.unblocked⟩)
      exact Nat.not_lt_of_le hle hlt
  · rintro rfl
    exact latest_of_contributed_eq hres hnew hstamps hcontr

end Latest

namespace Sample

/-- A signature is the key followed by what is signed. -/
def syncer : GitHubSyncer where
  crypto :=
    { sha256 := fun data ↦ (data ++ replicate 32 0).take 32
      verify := fun key message sig ↦ sig = key ++ message
      sha256_length := by simp }
  trustedPubKey := replicate 32 0

/-- A release for Linux, with the two assets that belong to its binary. -/
def release (tagName : Text) (prerelease : Bool) : GhRelease where
  tagName
  prerelease
  assets :=
    let name : Text := agentName ++ ['l', 'i', 'n', 'u', 'x', '-', 'a', 'm', 'd', '6', '4']
    [⟨name, ['b', 'i', 'n']⟩, ⟨name ++ ['.', 's', 'h', 'a', '2', '5', '6'], ['s', 'u', 'm']⟩,
      ⟨name ++ ['.', 's', 'i', 'g'], ['s', 'i', 'g']⟩]

/-- All requests succeed, and a row is inserted every second. -/
def outside (releases : List GhRelease) : Outside where
  releases := .ok releases
  listed := true
  response _ url := some (200, some (
    if url = ['s', 'u', 'm'] then replicate 64 '0' ++ ['\n']
    else replicate 86 'A' ++ ['=', '=', '\n']))
  insert k := some (BitVec.ofNat 128 k, k)

def version₁ : GhRelease := release (agentTag ++ ['v', '1', '.', '9']) false

def version₂ : GhRelease := release (agentTag ++ ['v', '2', '.', '0']) false

def preview₃ : GhRelease := release (agentTag ++ ['v', '3', '.', '0']) true

def linux : Text := ['l', 'i', 'n', 'u', 'x']

def amd64 : Text := ['a', 'm', 'd', '6', '4']

def stable : Text := ['s', 't', 'a', 'b', 'l', 'e']

theorem increasing_outside (releases : List GhRelease) : (outside releases).Increasing .empty where
  inserts := by
    rintro i j p q hij hp hq
    cases hp
    cases hq
    exact hij
  rows := by simp [Table.empty]

end Sample

open Sample

/-- The theorem applies to a sync that finds one stable release next to a preview. -/
theorem latest_eq_first_iff_single :
    ∃ result, syncOnce syncer (outside [preview₃, version₂]) .empty = .ok result ∧
      contributed result.table linux amd64 stable [preview₃, version₂] = [version₂] ∧
      ∃ rl, result.table.latest linux amd64 stable = .ok rl ∧
        version₂.version? = some rl.version := by
  refine ⟨_, rfl, ?_, ?_⟩
  · decide +kernel
  · exact (latest_eq_first_iff rfl rfl (by decide +kernel) (by decide +kernel)
      (increasing_outside _) (by decide +kernel)).2 rfl

/-- **An older release is the latest** after a sync that imports two of them without an error. -/
theorem not_latest_eq_first_two :
    ∃ result, syncOnce syncer (outside [version₂, version₁]) .empty = .ok result ∧
      result.errors = [] ∧
      contributed result.table linux amd64 stable [version₂, version₁] = [version₂, version₁] ∧
      (result.table.latest linux amd64 stable).toOption.map Release.version = version₁.version? ∧
      version₁.version? ≠ version₂.version? := by
  refine ⟨_, rfl, ?_, ?_, ?_, ?_⟩ <;> decide +kernel

end WartungsRemote.AgentRelease
