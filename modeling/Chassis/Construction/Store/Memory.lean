import Chassis.Construction.Flash
import Chassis.Data.Lines

namespace Chassis.Store
open Data Flash

/-- The contents of the device after the thresholds have been saved. -/
def runSaveVars (eraseSize : Nat) (thresholds mtd3 : List UInt8) : List UInt8 :=
  flashcp eraseSize thresholds mtd3

/-- The loop stops before the limit of lines, at a long line, and at a line that starts with a
closing brace. -/
def copyLines (limit : Int) : Int → List (List UInt8) → List UInt8
  | _, [] => []
  | lineCount, lineo :: rest =>
      if lineCount < limit then
        if lineo.length < 32 ∧ lineo.head? ≠ some 0x7D then
          lineo ++ newline :: copyLines limit (lineCount + 1) rest
        else []
      else []

/-- The counter starts with what the stack holds. Nothing is said when it leaves the range of
`int`. -/
def runReadVars (linesToRead : Int32) (thresholds mtd3 : List UInt8) : Option (List UInt8) :=
  let counted : Int := linesToRead.toInt + (lines thresholds).length
  if counted ≤ 2147483647 ∧ -2147483648 ≤ counted - 2 then
    some (copyLines (counted - 2) 0 (lines mtd3) ++ [0x7D, newline])
  else none

end Chassis.Store
