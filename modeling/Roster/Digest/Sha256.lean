import Roster.Text.Utf8

/-!
# SHA-256

The digest works on blocks of sixteen 32-bit words. Its state has eight words; compressing a block
into it takes sixty-four rounds.
-/

namespace Roster.Sha256

structure State where
  a : UInt32
  b : UInt32
  c : UInt32
  d : UInt32
  e : UInt32
  f : UInt32
  g : UInt32
  h : UInt32

def State.words (state : State) : List UInt32 :=
  [state.a, state.b, state.c, state.d, state.e, state.f, state.g, state.h]

def roundConstants : Array UInt32 :=
  #[
    0x428a2f98, 0x71374491, 0xb5c0fbcf, 0xe9b5dba5, 0x3956c25b, 0x59f111f1, 0x923f82a4,
    0xab1c5ed5, 0xd807aa98, 0x12835b01, 0x243185be, 0x550c7dc3, 0x72be5d74, 0x80deb1fe,
    0x9bdc06a7, 0xc19bf174, 0xe49b69c1, 0xefbe4786, 0x0fc19dc6, 0x240ca1cc, 0x2de92c6f,
    0x4a7484aa, 0x5cb0a9dc, 0x76f988da, 0x983e5152, 0xa831c66d, 0xb00327c8, 0xbf597fc7,
    0xc6e00bf3, 0xd5a79147, 0x06ca6351, 0x14292967, 0x27b70a85, 0x2e1b2138, 0x4d2c6dfc,
    0x53380d13, 0x650a7354, 0x766a0abb, 0x81c2c92e, 0x92722c85, 0xa2bfe8a1, 0xa81a664b,
    0xc24b8b70, 0xc76c51a3, 0xd192e819, 0xd6990624, 0xf40e3585, 0x106aa070, 0x19a4c116,
    0x1e376c08, 0x2748774c, 0x34b0bcb5, 0x391c0cb3, 0x4ed8aa4a, 0x5b9cca4f, 0x682e6ff3,
    0x748f82ee, 0x78a5636f, 0x84c87814, 0x8cc70208, 0x90befffa, 0xa4506ceb, 0xbef9a3f7,
    0xc67178f2]

def initial : State :=
  ⟨0x6a09e667, 0xbb67ae85, 0x3c6ef372, 0xa54ff53a, 0x510e527f,
    0x9b05688c, 0x1f83d9ab, 0x5be0cd19⟩

def rotateRight (word amount : UInt32) : UInt32 :=
  (word >>> amount) ||| (word <<< (32 - amount))

def nextWord (schedule : Array UInt32) : UInt32 :=
  let count := schedule.size
  let early := schedule.getD (count - 15) 0
  let late := schedule.getD (count - 2) 0
  let sigma0 := rotateRight early 7 ^^^ rotateRight early 18 ^^^ (early >>> 3)
  let sigma1 := rotateRight late 17 ^^^ rotateRight late 19 ^^^ (late >>> 10)
  schedule.getD (count - 16) 0 + sigma0 + schedule.getD (count - 7) 0 + sigma1

def extend : (count : Nat) → (schedule : Array UInt32) → Array UInt32
  | 0, schedule => schedule
  | count + 1, schedule => extend count (schedule.push (nextWord schedule))

def rounds (schedule : Array UInt32) : (remaining : Nat) → (a b c d e f g h : UInt32) → State
  | 0, a, b, c, d, e, f, g, h => ⟨a, b, c, d, e, f, g, h⟩
  | remaining + 1, a, b, c, d, e, f, g, h =>
    let index := 63 - remaining
    let sum1 := rotateRight e 6 ^^^ rotateRight e 11 ^^^ rotateRight e 25
    let choice := (e &&& f) ^^^ ((~~~e) &&& g)
    let first := h + sum1 + choice + roundConstants.getD index 0 + schedule.getD index 0
    let sum0 := rotateRight a 2 ^^^ rotateRight a 13 ^^^ rotateRight a 22
    let majority := (a &&& b) ^^^ (a &&& c) ^^^ (b &&& c)
    rounds schedule remaining (first + (sum0 + majority)) a b c (d + first) e f g

def compress (state : State) (block : Array UInt32) : State :=
  let mixed := rounds (extend 48 block) 64 state.a state.b state.c state.d state.e state.f state.g
    state.h
  ⟨state.a + mixed.a, state.b + mixed.b, state.c + mixed.c, state.d + mixed.d,
    state.e + mixed.e, state.f + mixed.f, state.g + mixed.g, state.h + mixed.h⟩

/-- The bytes of a number, most significant first. -/
def bigEndian : (width : Nat) → (number : Nat) → Bytes
  | 0, _ => []
  | width + 1, number => bigEndian width (number / 256) ++ [UInt8.ofNat (number % 256)]

/-- A message of `length` bytes in all, filled up to whole blocks with its length in bits. -/
def padded (length : Nat) (bytes : Bytes) : Bytes :=
  let zeros := (119 - length % 64) % 64
  bytes ++ 0x80 :: (List.replicate zeros 0 ++ bigEndian 8 (length * 8))

def wordsOf : Bytes → List UInt32
  | a :: b :: c :: d :: rest =>
    ((a.toUInt32 <<< 24) ||| (b.toUInt32 <<< 16) ||| (c.toUInt32 <<< 8) ||| d.toUInt32) ::
      wordsOf rest
  | _ => []

def absorb (state : State) (words : List UInt32) : State :=
  if words.isEmpty then state
  else absorb (compress state (words.take 16).toArray) (words.drop 16)
termination_by words.length
decreasing_by
  cases words with
  | nil => simp at *
  | cons word rest => simp only [List.length_drop, List.length_cons]; omega

def bytesOfWord (word : UInt32) : Bytes :=
  [(word >>> 24).toUInt8, (word >>> 16).toUInt8, (word >>> 8).toUInt8, word.toUInt8]

def State.bytes (state : State) : Bytes :=
  state.words.flatMap bytesOfWord

def hash (message : Bytes) : Bytes :=
  (absorb initial (wordsOf (padded message.length message))).bytes

end Roster.Sha256
