import Chassis.Construction.Boot.Manager
import Chassis.Json.Print

namespace Chassis.Store
open Effect Json Data

/-- The file that the firmware ships. -/
def shipped : List UInt8 :=
  unlines ([
    "\x7b",
    "    \"TempLimits\": \x7b", "        \"min\": -20.0,", "        \"max\": 80.0", "    \x7d,",
    "    \"12V_Rail\": \x7b", "        \"min\": 11.4,", "        \"max\": 12.6", "    \x7d,",
    "    \"12nauxV_Rail\": \x7b", "        \"min\": 11.4,", "        \"max\": 12.6", "    \x7d,",
    "    \"12pauxV_Rail\": \x7b", "        \"min\": 11.4,", "        \"max\": 12.6", "    \x7d,",
    "    \"3_3V_Rail\": \x7b", "        \"min\": 3.135,", "        \"max\": 3.465", "    \x7d,",
    "    \"3_3auxV_Rail\": \x7b", "        \"min\": 3.135,", "        \"max\": 3.465", "    \x7d,",
    "    \"5V_Rail\": \x7b", "        \"min\": 4.75,", "        \"max\": 5.25",
    "    \x7d"].map ascii) ++ ascii "\x7d"

/-- Letters, digits and underscores make the elements of a path of the bus. -/
def isNameByte (byte : UInt8) : Bool :=
  (0x30 ≤ byte && byte ≤ 0x39) || (0x41 ≤ byte && byte ≤ 0x5A) || (0x61 ≤ byte && byte ≤ 0x7A) ||
    byte == 0x5F

instance (element : List UInt8) : Decidable (∀ byte ∈ element, isNameByte byte = true) :=
  List.decidableBAll _ element

/-- A path of the bus is a list of names. -/
structure ObjectPath where
  elements : List (List UInt8)
  names : ∀ element ∈ elements, ∀ byte ∈ element, isNameByte byte = true

/-- The name behind the last slash of a path. -/
def ObjectPath.name (path : ObjectPath) : List UInt8 := path.elements.getLastD []

section Interface

variable (numbers : Numbers)

/-- The calls of the tool to the bus. -/
inductive Op where
  | getSubTreePaths (stub : String)
  | setProperty (path : ObjectPath) (property : String) (value : numbers.Number)

abbrev Op.Answer : Op numbers → Type
  | .getSubTreePaths _ => Option (List ObjectPath)
  | .setProperty _ _ _ => Bool

inductive Exception where
  | parseError
  | typeError
  | dbusError
  deriving DecidableEq, Repr

abbrev interface : Interface := ⟨Op numbers, Op.Answer numbers, Exception, Empty⟩

end Interface

variable {numbers : Numbers}

/-- The arguments of the command that sets a threshold. -/
structure Setting (numbers : Numbers) where
  type : List UInt8
  itemname : List UInt8
  highorlow : List UInt8
  value : numbers.Number

def toLower (byte : UInt8) : UInt8 := if 0x41 ≤ byte ∧ byte ≤ 0x5A then byte + 0x20 else byte

/-- The property of the bus and the key of the file that a bound is kept under. -/
def boundOf (highorlow : List UInt8) : Option (String × String) :=
  if highorlow = ascii "high" then some ("CriticalHigh", "max")
  else if highorlow = ascii "low" then some ("CriticalLow", "min")
  else none

/-- A subscript inserts a missing object, and throws on a value that is neither null nor an
object. -/
def assign {Number : Type} (key : List UInt8) (value : Value Number) :
    Value Number → Option (Value Number)
  | .null => some (.object [(key, value)])
  | .object members => some (.object (insertMember key value members))
  | _ => none

/-- Two subscripts and an assignment. A missing entry starts as null. -/
def assignLimit {Number : Type} (outer inner : List UInt8) (value : Number) (j : Value Number) :
    Option (Value Number) :=
  match assign inner (.number value) ((j.member outer).getD .null) with
  | some entry => assign outer entry j
  | none => none

/-- Every path of the stub that ends in the name of the item has its property set, and the limit is
recorded each time. -/
def setItems (setting : Setting numbers)
    (record : String → Value numbers.Number → Option (Value numbers.Number)) :
    Value numbers.Number → List ObjectPath →
      Program (interface numbers) (List UInt8) (Value numbers.Number)
  | j, [] => pure j
  | j, path :: rest =>
      if path.name = setting.itemname then
        match boundOf (setting.highorlow.map toLower) with
        | none => setItems setting record j rest
        | some (property, bound) => do
            let succeeded : Bool ← Program.ask (I := interface numbers)
              (.setProperty path property setting.value)
            if succeeded then
              match record bound j with
              | some j => setItems setting record j rest
              | none => .throw .typeError
            else .throw .dbusError
      else setItems setting record j rest

def setStub (setting : Setting numbers) (stub : String)
    (record : String → Value numbers.Number → Option (Value numbers.Number))
    (j : Value numbers.Number) :
    Program (interface numbers) (List UInt8) (Value numbers.Number) := do
  let paths : Option (List ObjectPath) ← Program.ask (I := interface numbers)
    (.getSubTreePaths stub)
  match paths with
  | some paths => setItems setting record j paths
  | none => .throw .dbusError

def tachStub : String := "/xyz/openbmc_project/sensors/fan_tach"

/-- The limits of a fan are not kept in the file, and all temperatures share one entry. -/
def updateLimits (setting : Setting numbers) (j : Value numbers.Number) :
    Program (interface numbers) (List UInt8) (Value numbers.Number) :=
  let type := setting.type.map toLower
  if type = ascii "fan" ∨ type = ascii "fans" then
    setStub setting tachStub (fun _ j => some j) j
  else if type = ascii "voltage" then
    setStub setting Boot.voltageStub
      (fun bound j => assignLimit setting.itemname (ascii bound) setting.value j) j
  else if type = ascii "temperature" then
    setStub setting Boot.temperatureStub
      (fun bound j => assignLimit (ascii "TempLimits") (ascii bound) setting.value j) j
  else pure j

/-- The file is read first and written last. -/
def setThreshold (setting : Setting numbers) : Program (interface numbers) (List UInt8) Unit := do
  let file ← Program.read
  match parse numbers.read file with
  | none => .throw .parseError
  | some j => do
      let j ← updateLimits setting j
      Program.modify fun _ => dump numbers.print 4 0 j

/-- The file after one command, which leaves it alone when it throws. -/
def afterSetting (file : List UInt8) (call : Setting numbers × Environment (interface numbers)) :
    List UInt8 :=
  ((setThreshold call.1).run call.2 file 0).state

/-- The file after commands from the file that the firmware ships. -/
def thresholdsFile (calls : List (Setting numbers × Environment (interface numbers))) :
    List UInt8 :=
  calls.foldl afterSetting shipped

end Chassis.Store
