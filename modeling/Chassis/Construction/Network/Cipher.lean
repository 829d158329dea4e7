import Chassis.Construction.Crypto
import Chassis.Data.LittleEndian
import Chassis.Data.Padding

namespace Chassis.Netipmid
open Data

/-- A function throws an exception with its text, or does what the language leaves undefined. -/
inductive Failure where
  | runtimeError (text : String)
  | undefined
  deriving DecidableEq, Repr

abbrev Result : Type → Type := Except Failure

def raise {Value : Type} (text : String) : Result Value := .error (.runtimeError text)

def const1 : List UInt8 := List.replicate 20 0x01
def const2 : List UInt8 := List.replicate 20 0x02

/-- The digest fills the front of an array as long as the session integrity key. -/
def generateKn (crypto : Crypto) (sik constN : List UInt8) : Result (List UInt8) :=
  let digest := crypto.hmac .sha256 sik constN
  if sik.length < digest.length then .error .undefined
  else .ok (digest ++ List.replicate (sik.length - digest.length) 0)

def sha256128AuthcodeLength : Nat := 16

/-- The integrity algorithm of a session keeps the key of its codes. -/
structure IntegrityAlgo where
  k1 : List UInt8
  deriving DecidableEq, Repr

def IntegrityAlgo.generateHMAC (crypto : Crypto) (algo : IntegrityAlgo) (input : List UInt8) :
    List UInt8 :=
  (crypto.hmac .sha256 algo.k1 input).take sha256128AuthcodeLength

structure CryptAlgo where
  k2 : List UInt8
  deriving DecidableEq, Repr

def aescbc128ConfHeader : Nat := 16
def aescbc128BlockSize : Nat := 16
def confPadBytes : List UInt8 := [1, 2, 3, 4, 5, 6, 7, 8, 9, 10, 11, 12, 13, 14, 15]

/-- The last byte of the plain data is the length of the pad before it. -/
def stripConfPad (plainPayload : List UInt8) : Result (List UInt8) :=
  match plainPayload.getLast? with
  | none => .error .undefined
  | some confPadLength =>
      let padLength := min (plainPayload.length - 1) confPadLength.toNat
      let plainPayloadLen := plainPayload.length - padLength - 1
      -- the comparison reads as many expected bytes as the pad has
      if confPadBytes.length < padLength then .error .undefined
      else if (plainPayload.drop plainPayloadLen).take padLength ≠ confPadBytes.take padLength then
        raise "Confidentiality pad bytes check failed"
      else .ok (plainPayload.take plainPayloadLen)

def CryptAlgo.decryptPayload (crypto : Crypto) (algo : CryptAlgo) (packet : List UInt8)
    (sessHeaderLen payloadLen : Nat) : Result (List UInt8) :=
  if packet.length < sessHeaderLen + payloadLen ∨ payloadLen < aescbc128ConfHeader then
    raise "Invalid data length"
  else
    let cipher := (packet.drop sessHeaderLen).take payloadLen
    stripConfPad (crypto.decrypt algo.k2 (Block.ofBytes cipher) (cipher.drop aescbc128ConfHeader))

/-- The initialization vector comes from the random number generator. -/
def CryptAlgo.encryptPayload (crypto : Crypto) (algo : CryptAlgo) (iv : Block)
    (payload : List UInt8) : List UInt8 :=
  let paddingLen := aescbc128BlockSize - (payload.length + 1) % 16
  List.ofFn iv ++ crypto.encrypt algo.k2 iv (padded payload paddingLen)

end Chassis.Netipmid
