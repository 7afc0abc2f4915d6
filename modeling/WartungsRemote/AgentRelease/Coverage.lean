import WartungsRemote.AgentRelease.Sync

/-!
# What a sync covers

After a sync whose requests and inserts succeed, every asset of an `agent-*` release that is named
like a binary and whose sidecars verify should have a row with its version, operating system,
architecture and channel, and a second sync of the same list should import nothing.

The second one imports nothing. But an asset counts as imported once its version, operating system
and architecture have been **seen in any channel**, so the sync covers its list exactly if it is
unambiguous (`covers_iff`).
-/

namespace WartungsRemote.AgentRelease

open List

/-- The entry of the map `seen` for a row with this `Row.key`. -/
def seenAs (k : Text × Text × Text × Text) : Text :=
  seenKey k.1 k.2.1 k.2.2.1

/-- GitHub answers every request: with the list, and with one text for each URL. -/
structure Outside.Serves (out : Outside) (releases : List GhRelease) (body : Text → Text) :
    Prop where
  releases : out.releases = .ok releases
  response : ∀ k url, out.response k url = some (200, some (body url))

section Coverage

variable (syncer : GitHubSyncer) (body : Text → Text) (releases : List GhRelease)

/-- The texts of the two sidecar assets. -/
def sidecars (gr : GhRelease) (a : GhAsset) : Option (Text × Text) := do
  let sumAsset ← gr.assetsByName (a.name ++ ['.', 's', 'h', 'a', '2', '5', '6'])
  let sigAsset ← gr.assetsByName (a.name ++ ['.', 's', 'i', 'g'])
  some (trimSpace (body sumAsset.browserDownloadURL), trimSpace (body sigAsset.browserDownloadURL))

/-- An asset named like a binary whose sidecars verify. -/
inductive Offers (gr : GhRelease) (version : Text) (a : GhAsset) : Text × Text × Text × Text → Prop
  | intro {osFamily arch sumHex sigB64 : Text} : matchAssetName a.name = some (osFamily, arch) →
      sidecars body gr a = some (sumHex, sigB64) →
      ((assetRelease gr version osFamily arch a sumHex sigB64).check syncer.crypto
        syncer.trustedPubKey).isOk = true →
      Offers gr version a (version, osFamily, arch, gr.channel)

def Offered (k : Text × Text × Text × Text) : Prop :=
  ∃ gr ∈ releases, ∃ version, gr.version? = some version ∧ ∃ a ∈ gr.assets,
    Offers syncer body gr version a k

/-- Every asset offered has its row, and another sync imports nothing. -/
structure Covers (table : Table) : Prop where
  complete : ∀ k, Offered syncer body releases k → k ∈ table.rows.map Row.key
  idempotent : ∀ (out : Outside) result, out.Serves releases body →
    syncOnce syncer out table = .ok result → result.imported = 0

/-- What is offered has its row if anything like it has been seen; otherwise nothing like it is
offered. -/
def Unambiguous (table : Table) : Prop :=
  ∀ k, Offered syncer body releases k →
    ((∃ r ∈ table.rows, seenAs r.key = seenAs k) → k ∈ table.rows.map Row.key) ∧
    ((∀ r ∈ table.rows, seenAs r.key ≠ seenAs k) →
      ∀ k', Offered syncer body releases k' → seenAs k' = seenAs k → k' = k)

end Coverage

/-! ### One asset -/

section Asset

variable {syncer : GitHubSyncer} {out : Outside} {releases : List GhRelease} {body : Text → Text}
  {gr : GhRelease} {version : Text} {a : GhAsset} {st : Sync}

theorem fetchSidecars_eq_ok_iff (hserv : out.Serves releases body) {k : ℕ} {p : Text × Text} :
    (fetchSidecars out gr a k).1 = .ok p ↔ sidecars body gr a = some p := by
  unfold fetchSidecars sidecars
  cases gr.assetsByName (a.name ++ ['.', 's', 'h', 'a', '2', '5', '6']) with
  | none => simp
  | some =>
    cases gr.assetsByName (a.name ++ ['.', 's', 'i', 'g']) <;> simp [fetchText, hserv.response]

theorem err_of_create {t : Table} {rl : Release} {db : Option (UUID × ℕ)} {err : CreateError}
    (hchk : (rl.check syncer.crypto syncer.trustedPubKey).isOk = true)
    (h : t.create syncer.crypto syncer.trustedPubKey rl db = .error err) : err = .create := by
  unfold Table.create Table.insertRelease at h
  split at h
  next hfail =>
    rw [hfail] at hchk
    cases hchk
  · split at h
    · exact (Except.error.inj h).symm
    split at h
    · exact (Except.error.inj h).symm
    split_ifs at h
    exact (Except.error.inj h).symm

/-- What an asset does: the table stays, or gets a row of what is offered and was not seen before.
What is offered is seen afterwards, unless the database refuses it. -/
structure Handled (syncer : GitHubSyncer) (body : Text → Text) (gr : GhRelease) (version : Text)
    (a : GhAsset) (st st' : Sync) : Prop where
  errors : st.errors ⊆ st'.errors
  seen : st.seen ⊆ st'.seen
  offered : ∀ k, Offers syncer body gr version a k → seenAs k ∈ st'.seen ∨
    .create a.name .create ∈ st'.errors
  table : st'.table = st.table ∧ st'.seen = st.seen ∧ st'.imported = st.imported ∨
    ∃ r, Offers syncer body gr version a r.key ∧ seenAs r.key ∉ st.seen ∧
      st'.table.rows = st.table.rows ++ [r] ∧ st'.seen = seenAs r.key :: st.seen

theorem handled_importAsset (hserv : out.Serves releases body) (st : Sync) :
    Handled syncer body gr version a st (importAsset syncer out gr version st a) := by
  unfold importAsset
  split
  next hname =>
    refine ⟨Subset.refl _, Subset.refl _, fun k ⟨hmatch, _, _⟩ ↦ ?_, .inl ⟨rfl, rfl, rfl⟩⟩
    cases hname.symm.trans hmatch
  next osFamily arch hname =>
    split_ifs with hseen
    · refine ⟨Subset.refl _, Subset.refl _, fun k ⟨hmatch, _, _⟩ ↦ .inl ?_, .inl ⟨rfl, rfl, rfl⟩⟩
      cases hname.symm.trans hmatch
      exact contains_iff_mem.1 hseen
    have hfetch : ∀ p, (fetchSidecars out gr a st.requests).1 = .ok p ↔
        sidecars body gr a = some p :=
      fun p ↦ fetchSidecars_eq_ok_iff hserv
    generalize fetchSidecars out gr a st.requests = p at hfetch ⊢
    obtain ⟨_ | _, _⟩ := p
    · refine ⟨subset_append_left _ _, Subset.refl _, fun k ⟨_, hside, _⟩ ↦ ?_, .inl ⟨rfl, rfl, rfl⟩⟩
      cases (hfetch _).2 hside
    dsimp only
    split
    next err hcre =>
      refine ⟨subset_append_left _ _, Subset.refl _, fun k ⟨hmatch, hside, hchk⟩ ↦ .inr ?_,
        .inl ⟨rfl, rfl, rfl⟩⟩
      cases hname.symm.trans hmatch
      cases (hfetch _).2 hside
      simp [err_of_create hchk hcre]
    next hcre =>
      obtain ⟨_, _, _, _, -, hchk, -, hrows⟩ := row_of_create hcre
      refine ⟨Subset.refl _, subset_cons_self _ _, fun k ⟨hmatch, _, _⟩ ↦ .inl ?_,
        .inr ⟨_, .intro hname ((hfetch _).1 rfl) (by rw [hchk]; rfl), ?_, hrows, rfl⟩⟩
      · cases hname.symm.trans hmatch
        exact mem_cons_self
      · exact mt contains_iff_mem.2 hseen

end Asset

/-! ### All assets -/

/-- An asset with its release and its version. -/
abbrev Job : Type := GhRelease × Text × GhAsset

/-- The assets of all agent releases, in the order in which they are looked at. -/
def jobs (releases : List GhRelease) : List Job :=
  releases.flatMap fun gr ↦ gr.version?.elim [] fun version ↦ gr.assets.map fun a ↦ (gr, version, a)

def importJob (syncer : GitHubSyncer) (out : Outside) (st : Sync) (j : Job) : Sync :=
  importAsset syncer out j.1 j.2.1 st j.2.2

def Job.Offers (syncer : GitHubSyncer) (body : Text → Text) (j : Job)
    (k : Text × Text × Text × Text) : Prop :=
  AgentRelease.Offers syncer body j.1 j.2.1 j.2.2 k

/-- After some assets of a sync: what has been seen has a row, the new rows are offered and look
like no other, and what is offered has been seen, unless the database has refused it. -/
structure Synced (syncer : GitHubSyncer) (body : Text → Text) (table : Table) (done : List Job)
    (st : Sync) : Prop where
  seen : ∀ x, x ∈ st.seen ↔ ∃ r ∈ st.table.rows, seenAs r.key = x
  kept : table.rows ⊆ st.table.rows
  new : ∀ r ∈ st.table.rows, r ∈ table.rows ∨ (∃ j ∈ done, j.Offers syncer body r.key) ∧
    ∀ r' ∈ st.table.rows, seenAs r'.key = seenAs r.key → r' = r
  offered : ∀ j ∈ done, ∀ k, j.Offers syncer body k →
    seenAs k ∈ st.seen ∨ ∃ name, .create name .create ∈ st.errors

section Jobs

variable {syncer : GitHubSyncer} {out : Outside} {table : Table} {result st st' : Sync}
  {releases : List GhRelease} {body : Text → Text} {done : List Job} {j : Job}

theorem offered_iff_exists_job {k : Text × Text × Text × Text} :
    Offered syncer body releases k ↔ ∃ j ∈ jobs releases, j.Offers syncer body k := by
  simp only [jobs, mem_flatMap]
  constructor
  · rintro ⟨gr, hgr, version, hvers, a, ha, hoff⟩
    exact ⟨(gr, version, a), ⟨gr, hgr, by simpa [hvers] using ha⟩, hoff⟩
  · rintro ⟨j, ⟨gr, hgr, hj⟩, hoff⟩
    cases hvers : gr.version? with
    | none => simp [hvers] at hj
    | some version =>
      obtain ⟨a, ha, rfl⟩ := mem_map.1 (by simpa [hvers] using hj)
      exact ⟨gr, hgr, version, hvers, a, ha, hoff⟩

theorem foldl_jobs (h : syncOnce syncer out table = .ok result)
    (hrels : out.releases = .ok releases) :
    result = (jobs releases).foldl (importJob syncer out) (.start table) := by
  rw [foldl_of_syncOnce h hrels, jobs, foldl_flatMap]
  congr
  funext st gr
  unfold importRelease
  cases gr.version? with
  | none => rfl
  | some =>
    simp only [Option.elim_some, foldl_map]
    rfl

theorem Synced.step (h : Synced syncer body table done st)
    (hhand : Handled syncer body j.1 j.2.1 j.2.2 st st') :
    Synced syncer body table (done ++ [j]) st' := by
  have hoffered : ∀ j' ∈ done ++ [j], ∀ k, j'.Offers syncer body k →
      seenAs k ∈ st'.seen ∨ ∃ name, .create name .create ∈ st'.errors := by
    intro j' hj' k hk
    rcases mem_append.1 hj' with hj' | hj'
    · exact (h.offered j' hj' k hk).imp (hhand.seen ·) fun ⟨name, hname⟩ ↦
        ⟨name, hhand.errors hname⟩
    · obtain rfl := mem_singleton.1 hj'
      exact (hhand.offered k hk).imp_right fun href ↦ ⟨_, href⟩
  obtain ⟨htable, hseen, -⟩ | ⟨r, hoff, hfresh, hrows, hseen⟩ := hhand.table
  · refine ⟨fun x ↦ ?_, htable ▸ h.kept, fun r hr ↦ ?_, hoffered⟩
    · rw [hseen, htable]
      exact h.seen x
    · rw [htable] at hr ⊢
      exact (h.new r hr).imp_right (And.imp_left fun ⟨j', hj', ho⟩ ↦
        ⟨j', mem_append_left _ hj', ho⟩)
  · have hnew : ∀ r' ∈ st.table.rows, seenAs r'.key ≠ seenAs r.key :=
      fun r' hr' heq ↦ hfresh ((h.seen _).2 ⟨r', hr', heq⟩)
    refine ⟨fun x ↦ ?_, hrows ▸ subset_append_of_subset_left _ h.kept, fun r' hr' ↦ ?_, hoffered⟩
    · rw [hseen, hrows, mem_cons, h.seen]
      simp [eq_comm, or_comm]
    · simp only [hrows, mem_append, mem_singleton] at hr' ⊢
      obtain hr' | rfl := hr'
      · refine (h.new r' hr').imp_right fun ⟨⟨j', hj', ho⟩, halone⟩ ↦
          ⟨⟨j', .inl hj', ho⟩, fun x hx heq ↦ ?_⟩
        obtain hx | rfl := hx
        · exact halone x hx heq
        · exact absurd heq.symm (hnew r' hr')
      · exact .inr ⟨⟨j, .inr rfl, hoff⟩, fun x hx heq ↦ hx.resolve_left fun hx ↦ hnew x hx heq⟩

theorem synced_foldl (hserv : out.Serves releases body) (done : List Job) :
    Synced syncer body table done (done.foldl (importJob syncer out) (.start table)) := by
  induction done using reverseRecOn with
  | nil => exact ⟨by simp [Sync.start, seenAs, Row.key], Subset.refl _, fun r ↦ .inl, by simp⟩
  | append_singleton done j ih =>
    rw [foldl_concat]
    exact ih.step (handled_importAsset hserv _)

/-- A sync imports nothing if everything that is offered has been seen. -/
theorem imported_eq_zero (hserv : out.Serves releases body)
    (h : syncOnce syncer out table = .ok result)
    (hseen : ∀ k, Offered syncer body releases k → ∃ r ∈ table.rows, seenAs r.key = seenAs k) :
    result.imported = 0 := by
  have hstart : (Sync.start table).imported = 0 ∧ ∀ k, Offered syncer body releases k →
      seenAs k ∈ (Sync.start table).seen := ⟨rfl, fun k hk ↦ mem_map.2 (hseen k hk)⟩
  rw [foldl_jobs h hserv.releases]
  refine (foldlRecOn (motive := fun st : Sync ↦ st.imported = 0 ∧
    ∀ k, Offered syncer body releases k → seenAs k ∈ st.seen) _ _ hstart fun st hst j hj ↦ ?_).1
  have hhand : Handled syncer body j.1 j.2.1 j.2.2 st (importJob syncer out st j) :=
    handled_importAsset hserv st
  refine ⟨?_, fun k hk ↦ hhand.seen (hst.2 k hk)⟩
  obtain ⟨-, -, himp⟩ | ⟨r, hoff, hnew, -⟩ := hhand.table
  · exact himp.trans hst.1
  · exact absurd (hst.2 _ (offered_iff_exists_job.2 ⟨j, hj, hoff⟩)) hnew

end Jobs

/-- **A sync covers its list exactly if the list is unambiguous**, if GitHub answers every request
and the database refuses no row. -/
theorem covers_iff {syncer : GitHubSyncer} {out : Outside} {table : Table} {result : Sync}
    {releases : List GhRelease} {body : Text → Text} (hserv : out.Serves releases body)
    (h : syncOnce syncer out table = .ok result)
    (hinserts : ∀ name, .create name .create ∉ result.errors) :
    Covers syncer body releases result.table ↔ Unambiguous syncer body releases table := by
  have hsynced : Synced syncer body table (jobs releases) result :=
    foldl_jobs h hserv.releases ▸ synced_foldl hserv _
  have hseen : ∀ k, Offered syncer body releases k →
      ∃ r ∈ result.table.rows, seenAs r.key = seenAs k := by
    intro k hk
    obtain ⟨j, hj, hoff⟩ := offered_iff_exists_job.1 hk
    have hmem := (hsynced.offered j hj k hoff).resolve_right fun ⟨name, hname⟩ ↦ hinserts name hname
    exact (hsynced.seen _).1 hmem
  constructor
  · intro hcov k hk
    obtain ⟨r, hr, rfl⟩ := mem_map.1 (hcov.complete k hk)
    constructor
    · rintro ⟨r₀, hr₀, heq⟩
      obtain hold | ⟨-, halone⟩ := hsynced.new r hr
      · exact mem_map_of_mem hold
      · exact mem_map.2 ⟨r₀, hr₀, congrArg Row.key (halone r₀ (hsynced.kept hr₀) heq)⟩
    · intro hnone k' hk' heq
      obtain ⟨r', hr', rfl⟩ := mem_map.1 (hcov.complete k' hk')
      obtain hold | ⟨-, halone⟩ := hsynced.new r hr
      · exact absurd rfl (hnone r hold)
      · rw [halone r' hr' heq]
  · intro hunam
    refine ⟨fun k hk ↦ ?_, fun out' result' hserv' h' ↦ imported_eq_zero hserv' h' hseen⟩
    by_cases hsome : ∃ r₀ ∈ table.rows, seenAs r₀.key = seenAs k
    · obtain ⟨r, hr, rfl⟩ := mem_map.1 ((hunam k hk).1 hsome)
      exact mem_map_of_mem (hsynced.kept hr)
    · push Not at hsome
      obtain ⟨r, hr, heq⟩ := hseen k hk
      obtain hold | ⟨⟨j, hj, hoff⟩, -⟩ := hsynced.new r hr
      · exact absurd heq (hsome r hold)
      · rw [← (hunam k hk).2 hsome r.key (offered_iff_exists_job.2 ⟨j, hj, hoff⟩) heq]
        exact mem_map_of_mem hr

namespace Sample

def sidecar (url : Text) : Text :=
  if url = ['s', 'u', 'm'] then replicate 64 '0' ++ ['\n'] else replicate 86 'A' ++ ['=', '=', '\n']

/-- A later sync, which inserts rows after the first one. -/
def later (releases : List GhRelease) : Outside :=
  { outside releases with insert := fun k ↦ some (BitVec.ofNat 128 (k + 1), k + 1) }

theorem serves_later (releases : List GhRelease) : (later releases).Serves releases sidecar :=
  ⟨rfl, fun _ _ ↦ rfl⟩

theorem key_of_offers {gr : GhRelease} {tag version : Text} {prerelease : Bool}
    {a : GhAsset} {k : Text × Text × Text × Text} (hgr : gr = release tag prerelease)
    (ha : a ∈ gr.assets) (h : Offers syncer sidecar gr version a k) :
    k = (version, linux, amd64, gr.channel) := by
  subst hgr
  obtain ⟨hname, -, -⟩ := h
  simp only [release, mem_cons, not_mem_nil, or_false] at ha
  obtain rfl | rfl | rfl := ha
  · rw [show matchAssetName _ = some (linux, amd64) by decide +kernel] at hname
    cases hname
    rfl
  · exact absurd hname (by rw [show matchAssetName _ = none by decide +kernel]; nofun)
  · exact absurd hname (by rw [show matchAssetName _ = none by decide +kernel]; nofun)

theorem offered_two {k : Text × Text × Text × Text}
    (h : Offered syncer sidecar [version₂, preview₃] k) :
    k = (['2', '.', '0'], linux, amd64, version₂.channel) ∨
      k = (['3', '.', '0'], linux, amd64, preview₃.channel) := by
  obtain ⟨gr, hgr, version, hvers, a, ha, hoff⟩ := h
  obtain rfl | hgr := mem_cons.1 hgr
  · cases (show version₂.version? = some ['2', '.', '0'] by decide +kernel).symm.trans hvers
    exact .inl (key_of_offers rfl ha hoff)
  · obtain rfl := mem_singleton.1 hgr
    cases (show preview₃.version? = some ['3', '.', '0'] by decide +kernel).symm.trans hvers
    exact .inr (key_of_offers rfl ha hoff)
/-- The preview, as a stable release. -/
def promoted₃ : GhRelease := { preview₃ with prerelease := false }

end Sample

open Sample

/-- A preview has been imported. The next sync imports the release before it and skips it. -/
theorem covers_iff_release : ∃ first second,
    syncOnce syncer (outside [preview₃]) .empty = .ok first ∧
    syncOnce syncer (later [version₂, preview₃]) first.table = .ok second ∧
      second.imported = 1 ∧ Covers syncer sidecar [version₂, preview₃] second.table := by
  refine ⟨_, _, rfl, rfl, by decide +kernel, (covers_iff (serves_later _) rfl fun name ↦ ?_).2 ?_⟩
  · rw [show Sync.errors _ = [] by decide +kernel]
    exact not_mem_nil
  · intro k hk
    obtain rfl | rfl := offered_two hk
    · refine ⟨fun h ↦ absurd h (by decide +kernel), fun _ k' hk' ↦ ?_⟩
      obtain rfl | rfl := offered_two hk' <;> decide +kernel
    · exact ⟨fun _ ↦ by decide +kernel, fun h ↦ absurd h (by decide +kernel)⟩

/-- An imported preview becomes a stable release. The next sync skips it without an error. -/
theorem not_covers_promoted : ∃ first second,
    syncOnce syncer (outside [preview₃]) .empty = .ok first ∧
      syncOnce syncer (outside [promoted₃]) first.table = .ok second ∧
      second.errors = [] ∧ ¬ Covers syncer sidecar [promoted₃] second.table := by
  refine ⟨_, _, rfl, rfl, by decide +kernel, fun hcov ↦ ?_⟩
  have hoff : Offered syncer sidecar [promoted₃] (['3', '.', '0'], linux, amd64, stable) :=
    ⟨_, mem_singleton_self _, _, rfl, _, mem_cons_self, .intro rfl rfl (by decide +kernel)⟩
  exact absurd (hcov.complete _ hoff) (by decide +kernel)

end WartungsRemote.AgentRelease
