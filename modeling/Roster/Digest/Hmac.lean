import Roster.Digest.Sha512

/-!
# Keyed digests

HMAC over a digest: the key, brought to the length of a block, is mixed with two constants; the
inner digest takes the message, the outer one takes the inner digest.
-/

namespace Roster.Hmac

/-- A key brought to the length of a block: a longer one is replaced by its digest. -/
def blockKey (hash : Bytes → Bytes) (blockSize : Nat) (key : Bytes) : Bytes :=
  let short := if blockSize < key.length then hash key else key
  short ++ List.replicate (blockSize - short.length) 0

def compute (hash : Bytes → Bytes) (blockSize : Nat) (key message : Bytes) : Bytes :=
  let padded := blockKey hash blockSize key
  let inner := hash (padded.map (· ^^^ 0x36) ++ message)
  hash (padded.map (· ^^^ 0x5c) ++ inner)

end Roster.Hmac

namespace Roster

inductive MacVariant where
  | hs256
  | hs384
  | hs512
  deriving DecidableEq

def MacVariant.compute : MacVariant → (key message : Bytes) → Bytes
  | .hs256 => Hmac.compute Sha256.hash 64
  | .hs384 => Hmac.compute Sha512.hash384 128
  | .hs512 => Hmac.compute Sha512.hash512 128

end Roster
