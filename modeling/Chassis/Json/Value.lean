import Mathlib.Data.List.Basic

namespace Chassis.Json

/-- A JSON value over a type of numbers. Texts and keys are sequences of bytes. -/
inductive Value (Number : Type) where
  | null
  | boolean (value : Bool)
  | number (value : Number)
  | string (text : List UInt8)
  | array (elements : List (Value Number))
  | object (members : List (List UInt8 × Value Number))
  deriving Inhabited

/-- The bytes of a text in ASCII. -/
def ascii (text : String) : List UInt8 := text.toList.map fun character =>
  UInt8.ofNat character.toNat

namespace Value

variable {Number : Type}

/-- Only an object has members. -/
def member (key : List UInt8) : Value Number → Option (Value Number)
  | .object members => members.lookup key
  | _ => none

/-- Only a number converts to a number. -/
def toNumber : Value Number → Option Number
  | .number value => some value
  | _ => none

end Value

end Chassis.Json
