import Roster.Digest.Pbkdf2

/-!
# Cryptographic primitives

Signing and hashing rest on two primitives, which are passed around as a value: everything built
on them holds for any choice.
-/

namespace Roster

structure Crypto where
  mac : MacVariant → (key message : Bytes) → Bytes
  stretch : (password salt : Bytes) → (rounds : Nat) → Bytes

def Crypto.standard : Crypto where
  mac := MacVariant.compute
  stretch := Pbkdf2.stretch

end Roster
