import Chassis.Data.Lines

namespace Chassis.Boot
open Data

/-- The loop of the boot copies lines until one is too long to come from a log. -/
def copyLines : List (List UInt8) → List UInt8
  | [] => []
  | lineo :: rest =>
      if lineo.length < 1024 then lineo ++ newline :: copyLines rest
      else []

/-- The content of the log file after the boot has read the flash. -/
def initSystemLogs (mtd4 : List UInt8) : List UInt8 := copyLines (lines mtd4)

def maxSize : Nat := 1024 * 1024

/-- The loop reads up to the first newline with which enough bytes are skipped. -/
def skipLines (toSkip : Nat) : (skipped : Nat) → List UInt8 → Option (List UInt8)
  | _, [] => none
  | skipped, ch :: rest =>
      if ch = newline ∧ skipped + 1 ≥ toSkip then some rest
      else skipLines toSkip (skipped + 1) rest

/-- A log in which the loop finds no place to stop stays as it is. -/
def trimLog (content : List UInt8) : List UInt8 :=
  if content.length ≤ maxSize then content
  else (skipLines (content.length - maxSize) 0 content).getD content

/-- The bytes that one call adds to the log. -/
def logEntry (timeSinceBoot log : List UInt8) : List UInt8 :=
  "[".toUTF8.toList ++ timeSinceBoot ++ "] LCR: ".toUTF8.toList ++ log ++ [newline]

def writeLogToFile (content timeSinceBoot log : List UInt8) : List UInt8 :=
  trimLog (content ++ logEntry timeSinceBoot log)

end Chassis.Boot
