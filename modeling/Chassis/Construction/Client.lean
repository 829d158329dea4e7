import Chassis.Construction.Manager.Passthrough

namespace Chassis.Ipmitool
open Effect Vita4611

def lcrShmcI2cAddress : UInt8 := 0x20
def lcrShmcIpmiAddress : UInt8 := lcrShmcI2cAddress <<< 1
def ipmiNetfnPicmg : UInt8 := 0x2C
def ipmiNetfnLcrPassthrough : UInt8 := 0x3A
def ipmiLcrCmdPassthrough : UInt8 := 0x1
def vitaFruControlCmd : UInt8 := 0x04
def groupExtVita : UInt8 := 0x03

/-- The value of a digit in the given base. -/
def digitValue (base : Nat) (char : Char) : Option Nat :=
  let value :=
    if '0' ≤ char ∧ char ≤ '9' then some (char.toNat - '0'.toNat)
    else if 'a' ≤ char ∧ char ≤ 'z' then some (char.toNat - 'a'.toNat + 10)
    else if 'A' ≤ char ∧ char ≤ 'Z' then some (char.toNat - 'A'.toNat + 10)
    else none
  value.filter fun digit => digit < base

/-- The longest run of digits is read, and the rest of the text is left. -/
def readDigits (base : Nat) : List Char → Nat → Nat × List Char
  | [], value => (value, [])
  | char :: rest, value =>
      match digitValue base char with
      | some digit => readDigits base rest (value * base + digit)
      | none => (value, char :: rest)

/-- Base zero reads a hexadecimal, octal or decimal number by its beginning. -/
def numberBase : List Char → Nat × List Char
  | '0' :: mark :: digit :: rest =>
      if (mark = 'x' ∨ mark = 'X') ∧ (digitValue 16 digit).isSome then (16, digit :: rest)
      else (8, '0' :: mark :: digit :: rest)
  | '0' :: rest => (8, '0' :: rest)
  | text => (10, text)

def isSpace (char : Char) : Bool :=
  char == ' ' || ('\t' ≤ char && char ≤ '\r')

/-- The whole text must be one number of 64 bits. A text without digits is left unread, so only the
empty one is accepted, as zero. -/
def str2ulong (text : List Char) : Option Nat :=
  let trimmed := text.dropWhile isSpace
  let negative := trimmed.head? == some '-'
  let unsigned := if negative || trimmed.head? == some '+' then trimmed.tail else trimmed
  let (base, digits) := numberBase unsigned
  if (digits.head?.bind (digitValue base)).isNone then if text = [] then some 0 else none
  else
    let (value, rest) := readDigits base digits 0
    if rest ≠ [] ∨ value ≥ 2 ^ 64 then none
    else some (if negative then (2 ^ 64 - value) % 2 ^ 64 else value)

def str2uchar (text : List Char) : Option UInt8 :=
  (str2ulong text).bind fun value => if value > 255 then none else some (UInt8.ofNat value)

def isFruId (text : List Char) : Option UInt8 := str2uchar text

/-- The interface keeps the target address that the user gave. -/
structure IpmiIntf where
  targetAddrValid : Bool
  targetAddr : UInt8
  deriving DecidableEq, Repr

structure IpmiRq where
  netfn : UInt8
  cmd : UInt8
  data : List UInt8
  deriving DecidableEq, Repr

def IpmiIntf.address (intf : IpmiIntf) : UInt8 :=
  if intf.targetAddrValid then intf.targetAddr <<< 1 else lcrShmcIpmiAddress

/-- The message carries the FRU Control command. -/
def activationRequest (intf : IpmiIntf) (fruId command : UInt8) : IpmiRq where
  netfn := ipmiNetfnLcrPassthrough
  cmd := ipmiLcrCmdPassthrough
  data := [intf.address, ipmiNetfnPicmg, 0, vitaFruControlCmd, fruId, command]

/-- A response must succeed and start with the group of VITA. -/
def responseStatus (rsp : RspType) : Int :=
  if rsp.cc ≠ 0 then -1
  else
    match rsp.data.getD [] with
    | [] => -1
    | group :: _ => if group ≠ groupExtVita then -1 else 0

/-- The passthrough command hands the data of the request to the chassis manager. -/
def sendrecv (request : IpmiRq) : Program interface ChassisManager RspType :=
  executePassthroughCmd request.data

def ipmiVitaSetFruActivation (intf : IpmiIntf) (argument : List Char) (command : UInt8) :
    Program interface ChassisManager Int := do
  match isFruId argument with
  | none => pure (-1)
  | some fruId =>
      let rsp ← sendrecv (activationRequest intf fruId command)
      pure (responseStatus rsp)

end Chassis.Ipmitool
