import Chassis.Data.Lines
import Chassis.Json.Parse

namespace Chassis.Json
open Data

variable {Number : Type}

def hexDigit (digit : Nat) : UInt8 :=
  if digit < 10 then .ofNat (0x30 + digit) else .ofNat (0x57 + digit)

/-- Quotation marks, backslashes and control characters are escaped. -/
def escapeByte (byte : UInt8) : List UInt8 :=
  if byte = 0x22 ∨ byte = 0x5C then [0x5C, byte]
  else if byte = 0x08 then ascii "\\b"
  else if byte = 0x09 then ascii "\\t"
  else if byte = 0x0A then ascii "\\n"
  else if byte = 0x0C then ascii "\\f"
  else if byte = 0x0D then ascii "\\r"
  else if byte < 0x20 then
    ascii "\\u00" ++ [hexDigit (byte.toNat / 16), hexDigit (byte.toNat % 16)]
  else [byte]

def quote (text : List UInt8) : List UInt8 := 0x22 :: text.flatMap escapeByte ++ [0x22]

def spaces (count : Nat) : List UInt8 := List.replicate count 0x20

mutual

/-- The text of a value whose inner lines are indented by a step more than the line it starts on. -/
def dump (print : Number → List UInt8) (step indent : Nat) : Value Number → List UInt8
  | .null => ascii "null"
  | .boolean true => ascii "true"
  | .boolean false => ascii "false"
  | .number value => print value
  | .string text => quote text
  | .array [] => ascii "[]"
  | .array (element :: rest) =>
      0x5B :: newline :: dumpElements print step (indent + step) (element :: rest) ++
        newline :: spaces indent ++ [0x5D]
  | .object [] => ascii "\x7b\x7d"
  | .object (member :: rest) =>
      0x7B :: newline :: dumpMembers print step (indent + step) (member :: rest) ++
        newline :: spaces indent ++ [0x7D]

/-- The lines of the elements with a comma between them. -/
def dumpElements (print : Number → List UInt8) (step indent : Nat) :
    List (Value Number) → List UInt8
  | [] => []
  | [element] => spaces indent ++ dump print step indent element
  | element :: rest =>
      spaces indent ++ dump print step indent element ++ 0x2C :: newline ::
        dumpElements print step indent rest

def dumpMembers (print : Number → List UInt8) (step indent : Nat) :
    List (List UInt8 × Value Number) → List UInt8
  | [] => []
  | [(key, value)] => spaces indent ++ quote key ++ ascii ": " ++ dump print step indent value
  | (key, value) :: rest =>
      spaces indent ++ quote key ++ ascii ": " ++ dump print step indent value ++
        0x2C :: newline :: dumpMembers print step indent rest

end

/-- A library prints and reads numbers. A printed number is a null or reads back, and a numeral
without an exponent and of at most three hundred bytes is in range. -/
structure Numbers where
  Number : Type
  print : Number → List UInt8
  read : List UInt8 → Option Number
  printed : ∀ number, print number = ascii "null" ∨
    numeral (print number) = true ∧ read (print number) = some number
  inRange : ∀ text, numeral text = true → text.length ≤ 300 →
    (∀ byte ∈ text, Part.isExponent byte = false) → (read text).isSome

end Chassis.Json
