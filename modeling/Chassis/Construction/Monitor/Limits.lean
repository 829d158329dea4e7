import Chassis.Data.Double
import Chassis.Json.Value

namespace Chassis.Monitor
open Data Json

/-- Two subscripts and a conversion read a limit. An entry that a subscript has to insert is null,
and the conversion of a null throws like any other value that is not a number. -/
def limitOf (limitJson : Value ℚ) (name bound : String) : Option ℚ :=
  ((limitJson.member (ascii name)).bind (Value.member (ascii bound))).bind Value.toNumber

def isSpace (byte : UInt8) : Bool := byte == 0x20 || (0x09 ≤ byte && byte ≤ 0x0D)

def isDigit (byte : UInt8) : Bool := 0x30 ≤ byte && byte ≤ 0x39

/-- The conversion of the standard library takes a sign and the digits in front and ignores the
rest. It throws without a digit and outside the range of `int`. -/
def stoi (text : List UInt8) : Option Int :=
  let text := text.dropWhile isSpace
  let negative : Bool := text.head? == some 0x2D
  let unsigned := if negative ∨ text.head? = some 0x2B then text.tail else text
  let digits := unsigned.takeWhile isDigit
  let magnitude : Int := digits.foldl (fun value digit => value * 10 + (digit.toNat - 0x30)) 0
  let value := if negative then -magnitude else magnitude
  if digits = [] then none
  else if -2147483648 ≤ value ∧ value ≤ 2147483647 then some value
  else none

/-- Each rail has a name, the file of its raw reading, and its target voltage, a double. -/
structure Rail where
  name : String
  path : String
  vTarget : ℚ
  deriving DecidableEq

/-- Both programs list the same rails. -/
def rails : List Rail :=
  [⟨"12V_Rail", "/sys/bus/iio/devices/iio:device0/in_voltage9_raw", 12⟩,
    ⟨"3_3V_Rail", "/sys/bus/iio/devices/iio:device0/in_voltage10_raw", roundDouble (33 / 10)⟩,
    ⟨"5V_Rail", "/sys/bus/iio/devices/iio:device0/in_voltage11_raw", 5⟩,
    ⟨"3_3auxV_Rail", "/sys/bus/iio/devices/iio:device0/in_voltage12_raw", roundDouble (33 / 10)⟩,
    ⟨"12pauxV_Rail", "/sys/bus/iio/devices/iio:device0/in_voltage13_raw", 12⟩,
    ⟨"12nauxV_Rail", "/sys/bus/iio/devices/iio:device0/in_voltage14_raw", 12⟩]

/-- The coefficient that both programs calculate from the target voltage. -/
def scaleOf (vTarget : ℚ) : ℚ := roundDouble (vTarget / 2047)

/-- The product that both programs calculate from a raw reading. -/
def scaled (scaleCoeff : ℚ) (rawReading : Int) : ℚ := roundDouble (scaleCoeff * rawReading)

def Rail.scaleCoeff (rail : Rail) : ℚ := scaleOf rail.vTarget

/-- The voltage that both programs see for a raw reading of the rail. -/
def Rail.voltage (rail : Rail) (rawReading : Int) : ℚ := scaled rail.scaleCoeff rawReading

/-- A higher raw reading of a rail is not a lower voltage. -/
theorem voltage_mono {rail : Rail} (member : rail ∈ rails) {first second : Int}
    (le : first ≤ second) : rail.voltage first ≤ rail.voltage second := by
  have positive : ∀ rail ∈ rails, 0 ≤ rail.scaleCoeff := by decide +kernel
  exact roundDouble_mono
    (mul_le_mul_of_nonneg_left (Int.cast_le.mpr le) (positive rail member))

end Chassis.Monitor
