import Chassis.Data.Chaining
import Mathlib.Data.Fintype.Pi
import Mathlib.Logic.Equiv.Basic

namespace Chassis
open Data

abbrev Block : Type := Fin 16 → UInt8

instance : DecidableEq Block := inferInstanceAs (DecidableEq (Fin 16 → UInt8))

def Block.xor (first second : Block) : Block := fun index => first index ^^^ second index

def Block.ofBytes (bytes : List UInt8) : Block := fun index => bytes.getD index 0

inductive Digest where
  | md5
  | sha1
  | sha256
  deriving DecidableEq, Repr

def Digest.length : Digest → Nat
  | .md5 => 16
  | .sha1 => 20
  | .sha256 => 32

/-- Both ends of a session call the same cryptographic library. A key of sixteen bytes permutes the
blocks. -/
structure Crypto where
  hmac : Digest → List UInt8 → List UInt8 → List UInt8
  hmac_length : ∀ digest key message, (hmac digest key message).length = digest.length
  aes : List UInt8 → Equiv.Perm Block

/-- Without padding the cipher turns whole blocks over, and keeps an incomplete last one back. -/
def Crypto.encrypt (crypto : Crypto) (key : List UInt8) (iv : Block) (input : List UInt8) :
    List UInt8 :=
  joined (chain Block.xor (crypto.aes (key.take 16)) iv (blocks 16 (input.length / 16) input))

def Crypto.decrypt (crypto : Crypto) (key : List UInt8) (iv : Block) (input : List UInt8) :
    List UInt8 :=
  joined (unchain Block.xor (crypto.aes (key.take 16)) iv (blocks 16 (input.length / 16) input))

/-- A library of which some codes and some blocks are on record. -/
def Crypto.recorded (codes : List ((List UInt8 × List UInt8) × List UInt8))
    (turned : List (List UInt8 × Block × Block)) : Crypto where
  hmac digest key message :=
    let code := (codes.lookup (key, message)).getD []
    code.take digest.length ++ List.replicate (digest.length - code.length) 0
  hmac_length digest key message := by
    simp only [List.length_append, List.length_take, List.length_replicate]
    omega
  aes key := (turned.filter fun entry => entry.1 = key).foldr
    (fun entry others => (Equiv.swap entry.2.1 entry.2.2).trans others) (Equiv.refl Block)

end Chassis
