import Roster.Digest.Hmac

/-!
# Stretching passwords

PBKDF2 with HMAC-SHA-256 and an output of one digest. The states after the two key blocks are
computed once, so each round costs two compressions.
-/

namespace Roster.Pbkdf2

open Sha256

/-- The states of the inner and the outer digest after the key. -/
structure Keyed where
  inner : State
  outer : State

def keyed (password : Bytes) : Keyed :=
  let key := Hmac.blockKey Sha256.hash 64 password
  { inner := absorb initial (wordsOf (key.map (· ^^^ 0x36)))
    outer := absorb initial (wordsOf (key.map (· ^^^ 0x5c))) }

/-- The last block of a message that consists of the key block and one digest. -/
def digestBlock (state : State) : Array UInt32 :=
  #[state.a, state.b, state.c, state.d, state.e, state.f, state.g, state.h,
    0x80000000, 0, 0, 0, 0, 0, 0, 768]

def again (keys : Keyed) (state : State) : State :=
  compress keys.outer (digestBlock (compress keys.inner (digestBlock state)))

def first (keys : Keyed) (message : Bytes) : State :=
  let inner := absorb keys.inner (wordsOf (padded (64 + message.length) message))
  compress keys.outer (digestBlock inner)

def xor (x y : State) : State :=
  ⟨x.a ^^^ y.a, x.b ^^^ y.b, x.c ^^^ y.c, x.d ^^^ y.d,
    x.e ^^^ y.e, x.f ^^^ y.f, x.g ^^^ y.g, x.h ^^^ y.h⟩

/-- The remaining rounds; `sum` is the exclusive or of the digests so far. -/
def iterate (keys : Keyed) : (remaining : Nat) → (last sum : State) → State
  | 0, _, sum => sum
  | remaining + 1, last, sum =>
    let next := again keys last
    iterate keys remaining next (xor sum next)

/-- The stretched password, for a positive count of rounds. -/
def stretch (password salt : Bytes) (rounds : Nat) : Bytes :=
  let keys := keyed password
  let start := first keys (salt ++ [0, 0, 0, 1])
  (iterate keys (rounds - 1) start start).bytes

end Roster.Pbkdf2
