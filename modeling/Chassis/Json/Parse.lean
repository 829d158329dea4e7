import Chassis.Json.Value
import Mathlib.Data.List.Basic

namespace Chassis.Json

/-- The parts of a numeral in the order of its bytes. -/
inductive Part where
  | minus
  | zero
  | integer
  | point
  | fraction
  | exponent
  | sign
  | power
  deriving DecidableEq

namespace Part

def isDigit (byte : UInt8) : Bool := 0x30 ≤ byte && byte ≤ 0x39

def isExponent (byte : UInt8) : Bool := byte == 0x65 || byte == 0x45

/-- A number starts with a sign or a digit. -/
def start (byte : UInt8) : Option Part :=
  if byte = 0x2D then some .minus
  else if byte = 0x30 then some .zero
  else if isDigit byte then some .integer
  else none

/-- No digit follows a leading zero, and at least one follows each of the other parts. -/
def next : Part → UInt8 → Option Part
  | .minus, byte =>
      if byte = 0x30 then some .zero else if isDigit byte then some .integer else none
  | .zero, byte =>
      if byte = 0x2E then some .point else if isExponent byte then some .exponent else none
  | .integer, byte =>
      if isDigit byte then some .integer
      else if byte = 0x2E then some .point
      else if isExponent byte then some .exponent
      else none
  | .point, byte => if isDigit byte then some .fraction else none
  | .fraction, byte =>
      if isDigit byte then some .fraction else if isExponent byte then some .exponent else none
  | .exponent, byte =>
      if byte = 0x2B ∨ byte = 0x2D then some .sign
      else if isDigit byte then some .power
      else none
  | .sign, byte => if isDigit byte then some .power else none
  | .power, byte => if isDigit byte then some .power else none

/-- A numeral may end behind its digits. -/
def complete : Part → Bool
  | .zero | .integer | .fraction | .power => true
  | .minus | .point | .exponent | .sign => false

end Part

/-- The part of a numeral that the last byte of a text belongs to. -/
def scan : List UInt8 → Option Part
  | [] => none
  | byte :: rest => rest.foldl (fun part byte => part.bind fun part => part.next byte)
      (Part.start byte)

/-- The grammar of numbers admits the text. -/
def numeral (text : List UInt8) : Bool := (scan text).any Part.complete

variable {Number : Type}

/-- A member under a new key goes to its place in the order of the keys, and a member under a
present key replaces the old one. -/
def insertMember (key : List UInt8) (value : Value Number) :
    List (List UInt8 × Value Number) → List (List UInt8 × Value Number)
  | [] => [(key, value)]
  | (other, present) :: rest =>
      if key = other then (key, value) :: rest
      else if key < other then (key, value) :: (other, present) :: rest
      else (other, present) :: insertMember key value rest

/-- An unfinished array or object with what has been read of it. -/
inductive Container (Number : Type) where
  | array (elements : List (Value Number))
  | object (members : List (List UInt8 × Value Number))

def Container.value : Container Number → Value Number
  | .array elements => .array elements
  | .object members => .object members

/-- What waits for the value being read: an array for an element, or an object for a member. -/
inductive Frame (Number : Type) where
  | element (elements : List (Value Number))
  | member (members : List (List UInt8 × Value Number)) (key : List UInt8)

/-- A string is a value, or the key of a member. -/
inductive Role (Number : Type) where
  | value
  | key (members : List (List UInt8 × Value Number))

/-- What the next byte of a string may be: any byte, the rest of an escape, the digits of a code
unit behind an optional high surrogate, or a byte in the first of the ranges that complete a
character. -/
inductive Escape where
  | plain
  | backslash
  | unit (high : Option Nat) (digits : List Nat)
  | surrogate (high : Nat)
  | low (high : Nat)
  | ranges (first : UInt8 × UInt8) (rest : List (UInt8 × UInt8))

/-- What the parser expects next. -/
inductive Mode (Number : Type) where
  | value
  | firstElement
  | key (members : List (List UInt8 × Value Number)) (first : Bool)
  | string (role : Role Number) (text : List UInt8) (escape : Escape)
  | colon (members : List (List UInt8 × Value Number)) (key : List UInt8)
  | number (part : Part) (text : List UInt8)
  | literal (expected : List UInt8) (value : Value Number)
  | separator (container : Container Number)

/-- The parser is inside a value, behind it, or has met an error. -/
inductive Config (Number : Type) where
  | reading (stack : List (Frame Number)) (mode : Mode Number)
  | done (value : Value Number)
  | failed

def isSpace (byte : UInt8) : Bool :=
  byte == 0x20 || byte == 0x09 || byte == 0x0A || byte == 0x0D

namespace Config

/-- A complete value goes to the frame that waits for it. -/
def complete (value : Value Number) : List (Frame Number) → Config Number
  | [] => .done value
  | .element elements :: stack => .reading stack (.separator (.array (elements ++ [value])))
  | .member members key :: stack =>
      .reading stack (.separator (.object (insertMember key value members)))

/-- The first byte of a value tells its kind. -/
def beginValue (stack : List (Frame Number)) (byte : UInt8) : Config Number :=
  if isSpace byte then .reading stack .value
  else if byte = 0x7B then .reading stack (.key [] true)
  else if byte = 0x5B then .reading stack .firstElement
  else if byte = 0x22 then .reading stack (.string .value [] .plain)
  else if byte = 0x6E then .reading stack (.literal (ascii "ull") .null)
  else if byte = 0x74 then .reading stack (.literal (ascii "rue") (.boolean true))
  else if byte = 0x66 then .reading stack (.literal (ascii "alse") (.boolean false))
  else match Part.start byte with
    | some part => .reading stack (.number part [byte])
    | none => .failed

/-- A comma or the closing bracket of the container follows a value. -/
def separate (stack : List (Frame Number)) (container : Container Number) (byte : UInt8) :
    Config Number :=
  if isSpace byte then .reading stack (.separator container)
  else match container with
    | .array elements =>
        if byte = 0x2C then .reading (.element elements :: stack) .value
        else if byte = 0x5D then complete (.array elements) stack
        else .failed
    | .object members =>
        if byte = 0x2C then .reading stack (.key members false)
        else if byte = 0x7D then complete (.object members) stack
        else .failed

/-- The byte behind a number is read with the number complete. -/
def follow (config : Config Number) (byte : UInt8) : Config Number :=
  match config with
  | .reading stack (.separator container) => separate stack container byte
  | config => config

def endString (stack : List (Frame Number)) (role : Role Number) (text : List UInt8) :
    Config Number :=
  match role with
  | .value => complete (.string text) stack
  | .key members => .reading stack (.colon members text)

/-- The ranges that the bytes behind the first byte of a character lie in. -/
def continuation (byte : UInt8) : Option ((UInt8 × UInt8) × List (UInt8 × UInt8)) :=
  let any : UInt8 × UInt8 := (0x80, 0xBF)
  if 0xC2 ≤ byte ∧ byte ≤ 0xDF then some (any, [])
  else if byte = 0xE0 then some ((0xA0, 0xBF), [any])
  else if byte = 0xED then some ((0x80, 0x9F), [any])
  else if 0xE1 ≤ byte ∧ byte ≤ 0xEF then some (any, [any])
  else if byte = 0xF0 then some ((0x90, 0xBF), [any, any])
  else if 0xF1 ≤ byte ∧ byte ≤ 0xF3 then some (any, [any, any])
  else if byte = 0xF4 then some ((0x80, 0x8F), [any, any])
  else none

def hexValue (byte : UInt8) : Option Nat :=
  if 0x30 ≤ byte ∧ byte ≤ 0x39 then some (byte.toNat - 0x30)
  else if 0x41 ≤ byte ∧ byte ≤ 0x46 then some (byte.toNat - 0x37)
  else if 0x61 ≤ byte ∧ byte ≤ 0x66 then some (byte.toNat - 0x57)
  else none

/-- The byte that a short escape stands for. -/
def shortEscape (byte : UInt8) : Option UInt8 :=
  if byte = 0x22 ∨ byte = 0x5C ∨ byte = 0x2F then some byte
  else if byte = 0x62 then some 0x08
  else if byte = 0x66 then some 0x0C
  else if byte = 0x6E then some 0x0A
  else if byte = 0x72 then some 0x0D
  else if byte = 0x74 then some 0x09
  else none

/-- The bytes of a character in UTF-8. -/
def utf8 (code : Nat) : List UInt8 :=
  if code < 0x80 then [.ofNat code]
  else if code < 0x800 then [.ofNat (0xC0 + code / 0x40), .ofNat (0x80 + code % 0x40)]
  else if code < 0x10000 then
    [.ofNat (0xE0 + code / 0x1000), .ofNat (0x80 + code / 0x40 % 0x40),
      .ofNat (0x80 + code % 0x40)]
  else
    [.ofNat (0xF0 + code / 0x40000), .ofNat (0x80 + code / 0x1000 % 0x40),
      .ofNat (0x80 + code / 0x40 % 0x40), .ofNat (0x80 + code % 0x40)]

/-- Four digits make a code unit. A high surrogate must be followed by a low one, and no other unit
may be a low one. -/
def endUnit (stack : List (Frame Number)) (role : Role Number) (text : List UInt8)
    (high : Option Nat) (code : Nat) : Config Number :=
  match high with
  | none =>
      if 0xD800 ≤ code ∧ code ≤ 0xDBFF then .reading stack (.string role text (.surrogate code))
      else if 0xDC00 ≤ code ∧ code ≤ 0xDFFF then .failed
      else .reading stack (.string role (text ++ utf8 code) .plain)
  | some high =>
      if 0xDC00 ≤ code ∧ code ≤ 0xDFFF then
        let joined := 0x10000 + (high - 0xD800) * 0x400 + (code - 0xDC00)
        .reading stack (.string role (text ++ utf8 joined) .plain)
      else .failed

def stepString (stack : List (Frame Number)) (role : Role Number) (text : List UInt8)
    (escape : Escape) (byte : UInt8) : Config Number :=
  match escape with
  | .plain =>
      if byte = 0x22 then endString stack role text
      else if byte = 0x5C then .reading stack (.string role text .backslash)
      else if byte < 0x20 then .failed
      else if byte < 0x80 then .reading stack (.string role (text ++ [byte]) .plain)
      else match continuation byte with
        | some (first, rest) =>
            .reading stack (.string role (text ++ [byte]) (.ranges first rest))
        | none => .failed
  | .backslash =>
      if byte = 0x75 then .reading stack (.string role text (.unit none []))
      else match shortEscape byte with
        | some byte => .reading stack (.string role (text ++ [byte]) .plain)
        | none => .failed
  | .unit high digits =>
      match hexValue byte with
      | none => .failed
      | some digit =>
          if digits.length < 3 then
            .reading stack (.string role text (.unit high (digits ++ [digit])))
          else
            let code := (digits ++ [digit]).foldl (fun code digit => code * 16 + digit) 0
            endUnit stack role text high code
  | .surrogate high =>
      if byte = 0x5C then .reading stack (.string role text (.low high)) else .failed
  | .low high =>
      if byte = 0x75 then .reading stack (.string role text (.unit (some high) [])) else .failed
  | .ranges (least, greatest) rest =>
      if least ≤ byte ∧ byte ≤ greatest then
        match rest with
        | [] => .reading stack (.string role (text ++ [byte]) .plain)
        | next :: rest => .reading stack (.string role (text ++ [byte]) (.ranges next rest))
      else .failed

/-- The parser takes one byte. The reader of numbers fails where a numeral is out of range. -/
def step (read : List UInt8 → Option Number) (config : Config Number) (byte : UInt8) :
    Config Number :=
  match config with
  | .done value => .done value
  | .failed => .failed
  | .reading stack mode =>
      match mode with
      | .value => beginValue stack byte
      | .firstElement =>
          if isSpace byte then .reading stack .firstElement
          else if byte = 0x5D then complete (.array []) stack
          else beginValue (.element [] :: stack) byte
      | .key members first =>
          if isSpace byte then .reading stack (.key members first)
          else if byte = 0x22 then .reading stack (.string (.key members) [] .plain)
          else if byte = 0x7D ∧ first = true then complete (.object members) stack
          else .failed
      | .string role text escape => stepString stack role text escape byte
      | .colon members key =>
          if isSpace byte then .reading stack (.colon members key)
          else if byte = 0x3A then .reading (.member members key :: stack) .value
          else .failed
      | .number part text =>
          match part.next byte with
          | some part => .reading stack (.number part (text ++ [byte]))
          | none =>
              if part.complete then
                match read text with
                | some number => follow (complete (.number number) stack) byte
                | none => .failed
              else .failed
      | .literal expected value =>
          match expected with
          | [] => .failed
          | [last] => if byte = last then complete value stack else .failed
          | letter :: rest =>
              if byte = letter then .reading stack (.literal rest value) else .failed
      | .separator container => separate stack container byte

/-- A number at the top may end with the text. -/
def result (read : List UInt8 → Option Number) : Config Number → Option (Value Number)
  | .done value => some value
  | .reading [] (.number part text) => if part.complete then (read text).map .number else none
  | _ => none

/-- The parser takes the bytes of a text in order. -/
def feed (read : List UInt8 → Option Number) (config : Config Number) (text : List UInt8) :
    Config Number :=
  text.foldl (step read) config

end Config

/-- The parser reads one value and leaves what lies behind it alone. -/
def parse (read : List UInt8 → Option Number) (text : List UInt8) : Option (Value Number) :=
  (Config.feed read (.reading [] .value) text).result read

end Chassis.Json
