import Chassis.Construction.Crypto
import Chassis.Data.LittleEndian
import Chassis.Data.Padding

namespace Chassis.Lanplus
open Data

/-- A failed assertion ends the program, and some behaviour is left undefined. -/
inductive Failure where
  | aborted
  | undefined
  deriving DecidableEq, Repr

abbrev Result : Type → Type := Except Failure

def ipmiAuthRakpNone : UInt8 := 0x00
def ipmiAuthRakpHmacSha1 : UInt8 := 0x01
def ipmiAuthRakpHmacMd5 : UInt8 := 0x02
def ipmiAuthRakpHmacSha256 : UInt8 := 0x03
def ipmiIntegrityNone : UInt8 := 0x00
def ipmiIntegrityHmacSha196 : UInt8 := 0x01
def ipmiIntegrityHmacMd5128 : UInt8 := 0x02
def ipmiIntegrityMd5128 : UInt8 := 0x03
def ipmiIntegrityHmacSha256128 : UInt8 := 0x04
def ipmiCryptNone : UInt8 := 0x00
def ipmiCryptAesCbc128 : UInt8 := 0x01
def ipmiCryptXrc4128 : UInt8 := 0x02
def ipmiCryptXrc440 : UInt8 := 0x03

def ipmiCryptAesCbc128BlockSize : Nat := 16

/-- The numbers of the authentication and of the integrity algorithms are looked up in one table. -/
def digestOf (mac : UInt8) : Result Digest :=
  if mac = ipmiAuthRakpHmacSha1 then .ok .sha1
  else if mac = ipmiAuthRakpHmacMd5 then .ok .md5
  else if mac = ipmiAuthRakpHmacSha256 ∨ mac = ipmiIntegrityHmacSha256128 then .ok .sha256
  else .error .aborted

def lanplusHMAC (crypto : Crypto) (mac : UInt8) (key data : List UInt8) : Result (List UInt8) := do
  let digest ← digestOf mac
  return crypto.hmac digest key data

/-- The code of a packet is the front of a digest. -/
def authcodeLength (integrityAlg : UInt8) : Result Nat :=
  if integrityAlg = ipmiIntegrityHmacSha196 then .ok 12
  else if integrityAlg = ipmiIntegrityHmacMd5128 then .ok 16
  else if integrityAlg = ipmiIntegrityHmacSha256128 then .ok 16
  else .error .aborted

/-- The initialization vector is random. Lengths of 2^16 or more end the program. -/
def lanplusEncryptPayload (crypto : Crypto) (cryptAlg : UInt8) (key : List UInt8) (iv : Block)
    (input : List UInt8) : Result (List UInt8) :=
  if cryptAlg = ipmiCryptNone then .ok input
  else if cryptAlg ≠ ipmiCryptAesCbc128 ∨ input.length > 0xFFFF then .error .aborted
  else
    let mod := (input.length + 1) % ipmiCryptAesCbc128BlockSize
    let padLength := if mod = 0 then 0 else ipmiCryptAesCbc128BlockSize - mod
    .ok (List.ofFn iv ++ crypto.encrypt key iv (padded input padLength))

/-- The size of the payload is a number of sixteen bits and does not count the pad. -/
def stripPad (decrypted : List UInt8) : Result (List UInt8 × Nat) :=
  match decrypted.getLast? with
  | none => .error .aborted
  | some confPadLength =>
      let payloadSize := (decrypted.length + 2 ^ 16 - confPadLength.toNat - 1) % 2 ^ 16
      -- a pad that is longer than the data is looked for elsewhere
      if decrypted.length < payloadSize + confPadLength.toNat then .error .undefined
      else if (decrypted.drop payloadSize).take confPadLength.toNat ≠
          countedPad confPadLength.toNat then .error .aborted
      else .ok (decrypted, payloadSize)

/-- The data are handed on with the pad, and with their size. -/
def lanplusDecryptPayload (crypto : Crypto) (cryptAlg : UInt8) (key input : List UInt8) :
    Result (List UInt8 × Nat) :=
  if cryptAlg = ipmiCryptNone then .ok (input, input.length % 2 ^ 16)
  else if cryptAlg ≠ ipmiCryptAesCbc128 then .error .aborted
  else if input.length < ipmiCryptAesCbc128BlockSize then .error .aborted
  else
    let cipher := input.drop ipmiCryptAesCbc128BlockSize
    if cipher.length % ipmiCryptAesCbc128BlockSize ≠ 0 then .error .aborted
    else stripPad (crypto.decrypt key (Block.ofBytes input) cipher)

end Chassis.Lanplus
