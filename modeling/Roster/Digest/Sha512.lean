import Roster.Digest.Sha256

/-!
# SHA-384 and SHA-512

The two digests share their compression function, on blocks of sixteen 64-bit words with eighty
rounds. They differ in the initial state, and the shorter one keeps six of the eight words.
-/

namespace Roster.Sha512

structure State where
  a : UInt64
  b : UInt64
  c : UInt64
  d : UInt64
  e : UInt64
  f : UInt64
  g : UInt64
  h : UInt64

def State.words (state : State) : List UInt64 :=
  [state.a, state.b, state.c, state.d, state.e, state.f, state.g, state.h]

def roundConstants : Array UInt64 :=
  #[
    0x428a2f98d728ae22, 0x7137449123ef65cd, 0xb5c0fbcfec4d3b2f, 0xe9b5dba58189dbbc,
    0x3956c25bf348b538, 0x59f111f1b605d019, 0x923f82a4af194f9b, 0xab1c5ed5da6d8118,
    0xd807aa98a3030242, 0x12835b0145706fbe, 0x243185be4ee4b28c, 0x550c7dc3d5ffb4e2,
    0x72be5d74f27b896f, 0x80deb1fe3b1696b1, 0x9bdc06a725c71235, 0xc19bf174cf692694,
    0xe49b69c19ef14ad2, 0xefbe4786384f25e3, 0x0fc19dc68b8cd5b5, 0x240ca1cc77ac9c65,
    0x2de92c6f592b0275, 0x4a7484aa6ea6e483, 0x5cb0a9dcbd41fbd4, 0x76f988da831153b5,
    0x983e5152ee66dfab, 0xa831c66d2db43210, 0xb00327c898fb213f, 0xbf597fc7beef0ee4,
    0xc6e00bf33da88fc2, 0xd5a79147930aa725, 0x06ca6351e003826f, 0x142929670a0e6e70,
    0x27b70a8546d22ffc, 0x2e1b21385c26c926, 0x4d2c6dfc5ac42aed, 0x53380d139d95b3df,
    0x650a73548baf63de, 0x766a0abb3c77b2a8, 0x81c2c92e47edaee6, 0x92722c851482353b,
    0xa2bfe8a14cf10364, 0xa81a664bbc423001, 0xc24b8b70d0f89791, 0xc76c51a30654be30,
    0xd192e819d6ef5218, 0xd69906245565a910, 0xf40e35855771202a, 0x106aa07032bbd1b8,
    0x19a4c116b8d2d0c8, 0x1e376c085141ab53, 0x2748774cdf8eeb99, 0x34b0bcb5e19b48a8,
    0x391c0cb3c5c95a63, 0x4ed8aa4ae3418acb, 0x5b9cca4f7763e373, 0x682e6ff3d6b2b8a3,
    0x748f82ee5defb2fc, 0x78a5636f43172f60, 0x84c87814a1f0ab72, 0x8cc702081a6439ec,
    0x90befffa23631e28, 0xa4506cebde82bde9, 0xbef9a3f7b2c67915, 0xc67178f2e372532b,
    0xca273eceea26619c, 0xd186b8c721c0c207, 0xeada7dd6cde0eb1e, 0xf57d4f7fee6ed178,
    0x06f067aa72176fba, 0x0a637dc5a2c898a6, 0x113f9804bef90dae, 0x1b710b35131c471b,
    0x28db77f523047d84, 0x32caab7b40c72493, 0x3c9ebe0a15c9bebc, 0x431d67c49c100d4c,
    0x4cc5d4becb3e42b6, 0x597f299cfc657e2a, 0x5fcb6fab3ad6faec, 0x6c44198c4a475817]

def initial512 : State :=
  ⟨0x6a09e667f3bcc908, 0xbb67ae8584caa73b, 0x3c6ef372fe94f82b, 0xa54ff53a5f1d36f1,
    0x510e527fade682d1, 0x9b05688c2b3e6c1f, 0x1f83d9abfb41bd6b, 0x5be0cd19137e2179⟩

def initial384 : State :=
  ⟨0xcbbb9d5dc1059ed8, 0x629a292a367cd507, 0x9159015a3070dd17, 0x152fecd8f70e5939,
    0x67332667ffc00b31, 0x8eb44a8768581511, 0xdb0c2e0d64f98fa7, 0x47b5481dbefa4fa4⟩

def rotateRight (word amount : UInt64) : UInt64 :=
  (word >>> amount) ||| (word <<< (64 - amount))

def nextWord (schedule : Array UInt64) : UInt64 :=
  let count := schedule.size
  let early := schedule.getD (count - 15) 0
  let late := schedule.getD (count - 2) 0
  let sigma0 := rotateRight early 1 ^^^ rotateRight early 8 ^^^ (early >>> 7)
  let sigma1 := rotateRight late 19 ^^^ rotateRight late 61 ^^^ (late >>> 6)
  schedule.getD (count - 16) 0 + sigma0 + schedule.getD (count - 7) 0 + sigma1

def extend : (count : Nat) → (schedule : Array UInt64) → Array UInt64
  | 0, schedule => schedule
  | count + 1, schedule => extend count (schedule.push (nextWord schedule))

def rounds (schedule : Array UInt64) : (remaining : Nat) → (a b c d e f g h : UInt64) → State
  | 0, a, b, c, d, e, f, g, h => ⟨a, b, c, d, e, f, g, h⟩
  | remaining + 1, a, b, c, d, e, f, g, h =>
    let index := 79 - remaining
    let sum1 := rotateRight e 14 ^^^ rotateRight e 18 ^^^ rotateRight e 41
    let choice := (e &&& f) ^^^ ((~~~e) &&& g)
    let first := h + sum1 + choice + roundConstants.getD index 0 + schedule.getD index 0
    let sum0 := rotateRight a 28 ^^^ rotateRight a 34 ^^^ rotateRight a 39
    let majority := (a &&& b) ^^^ (a &&& c) ^^^ (b &&& c)
    rounds schedule remaining (first + (sum0 + majority)) a b c (d + first) e f g

def compress (state : State) (block : Array UInt64) : State :=
  let mixed := rounds (extend 64 block) 80 state.a state.b state.c state.d state.e state.f state.g
    state.h
  ⟨state.a + mixed.a, state.b + mixed.b, state.c + mixed.c, state.d + mixed.d,
    state.e + mixed.e, state.f + mixed.f, state.g + mixed.g, state.h + mixed.h⟩

def padded (message : Bytes) : Bytes :=
  let length := message.length
  let zeros := (239 - length % 128) % 128
  message ++ 0x80 :: (List.replicate zeros 0 ++ Sha256.bigEndian 16 (length * 8))

def wordsOf : Bytes → List UInt64
  | a :: b :: c :: d :: e :: f :: g :: h :: rest =>
    ((a.toUInt64 <<< 56) ||| (b.toUInt64 <<< 48) ||| (c.toUInt64 <<< 40) |||
      (d.toUInt64 <<< 32) ||| (e.toUInt64 <<< 24) ||| (f.toUInt64 <<< 16) |||
      (g.toUInt64 <<< 8) ||| h.toUInt64) :: wordsOf rest
  | _ => []

def absorb (state : State) (words : List UInt64) : State :=
  if words.isEmpty then state
  else absorb (compress state (words.take 16).toArray) (words.drop 16)
termination_by words.length
decreasing_by
  cases words with
  | nil => simp at *
  | cons word rest => simp only [List.length_drop, List.length_cons]; omega

def bytesOfWord (word : UInt64) : Bytes :=
  Sha256.bytesOfWord (word >>> 32).toUInt32 ++ Sha256.bytesOfWord word.toUInt32

def finish (state : State) (message : Bytes) : Bytes :=
  (absorb state (wordsOf (padded message))).words.flatMap bytesOfWord

def hash512 (message : Bytes) : Bytes :=
  finish initial512 message

def hash384 (message : Bytes) : Bytes :=
  (finish initial384 message).take 48

end Roster.Sha512
