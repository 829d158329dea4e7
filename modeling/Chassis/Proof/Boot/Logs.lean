import Chassis.Construction.Boot.Logs
import Chassis.Construction.Flash

namespace Chassis.Boot
open Data Flash

/-- A log is a text of short complete lines that fits its size limit. -/
structure SystemLog where
  rows : List (List UInt8)
  complete : ∀ row ∈ rows, newline ∉ row
  short : ∀ row ∈ rows, row.length < 1024
  size : (unlines rows).length ≤ 1024 * 1024

/-- The bytes of the log file. -/
def SystemLog.bytes (log : SystemLog) : List UInt8 := unlines log.rows

/-- Nothing follows the log, or a line too long for a log does. -/
def Terminated (rest : List UInt8) : Prop :=
  rest = [] ∨ 1024 ≤ rest.length ∧ newline ∉ rest.take 1024

theorem copyLines_append {rows : List (List UInt8)} (short : ∀ row ∈ rows, row.length < 1024)
    (rest : List (List UInt8)) : copyLines (rows ++ rest) = unlines rows ++ copyLines rest := by
  induction rows with
  | nil => rfl
  | cons row rows ih =>
      rw [List.cons_append, copyLines, if_pos (short row List.mem_cons_self),
        ih fun other member => short other (List.mem_cons_of_mem _ member), unlines_cons,
        List.append_assoc, List.cons_append]

/-- Nothing is copied from exactly the texts that end a log. -/
theorem copyLines_eq_nil (rest : List UInt8) : copyLines (lines rest) = [] ↔ Terminated rest := by
  cases split : lines rest with
  | nil => exact iff_of_true rfl (Or.inl (lines_eq_nil.mp split))
  | cons line others =>
      have present : rest ≠ [] := by
        intro empty
        rw [lines_eq_nil.mpr empty] at split
        cases split
      rw [copyLines, Terminated, or_iff_right present]
      have long : 1024 ≤ line.length ↔ 1024 ≤ rest.length ∧ newline ∉ rest.take 1024 := by
        rw [lines_head split, le_length_takeWhile]
        apply and_congr_right
        intro _
        constructor
        · intro all member
          simpa using all newline member
        · intro absent element member
          have different : element ≠ newline := fun same => absent (same ▸ member)
          simpa using different
      rw [← long]
      split_ifs with short
      · exact iff_of_false (by simp) (Nat.not_le_of_lt short)
      · exact iff_of_true rfl (Nat.le_of_not_lt short)

/-- The boot restores the written log for exactly the flash contents that end it. -/
theorem initSystemLogs_restores_iff (eraseSize : Nat) (log : SystemLog) (mtd4 : List UInt8) :
    initSystemLogs (flashcp eraseSize log.bytes mtd4) = log.bytes ↔
      Terminated (behind eraseSize log.bytes mtd4) := by
  rw [← copyLines_eq_nil, flashcp, initSystemLogs, SystemLog.bytes,
    lines_unlines_append log.complete, copyLines_append log.short]
  simp

/-- A log that fills one erase block of 64 KiB. -/
def fullLog : SystemLog where
  rows := List.replicate 64 (List.replicate 1023 0x61)
  complete := by
    intro row member listed
    rw [(List.mem_replicate.mp member).2] at listed
    exact absurd (List.mem_replicate.mp listed).2 (by decide)
  short := by
    intro row member
    rw [(List.mem_replicate.mp member).2, List.length_replicate]
    decide
  size := by
    rw [length_unlines_replicate, List.length_replicate]
    decide

/-- A device of 32 MiB on which an earlier log has gone on behind the first block. -/
def usedDevice : List UInt8 :=
  List.replicate 65536 0x61 ++ ([0x6F, 0x6C, 0x64] ++ newline :: List.replicate 33488892 0xFF)

/-- A file that fills its block has no padding behind it. -/
theorem behind_full {eraseSize : Nat} {content front : List UInt8}
    (full : content.length = eraseSize) (block : front.length = eraseSize) (rest : List UInt8) :
    behind eraseSize content (front ++ rest) = rest := by
  have none : padding eraseSize content = [] := by
    rw [padding, full, Nat.mod_self, Nat.sub_zero, Nat.mod_self, List.replicate_zero]
  rw [behind, none, List.nil_append, List.length_nil, Nat.add_zero, full]
  exact List.drop_left' block

theorem initSystemLogs_fails : ¬ ∀ (eraseSize : Nat) (log : SystemLog) (mtd4 : List UInt8),
    initSystemLogs (flashcp eraseSize log.bytes mtd4) = log.bytes := by
  intro always
  have restored := always 65536 fullLog usedDevice
  have full : fullLog.bytes.length = 65536 := by
    rw [SystemLog.bytes, fullLog, length_unlines_replicate, List.length_replicate]
  rw [flashcp, usedDevice, behind_full full List.length_replicate, initSystemLogs, SystemLog.bytes,
    lines_unlines_append fullLog.complete, copyLines_append fullLog.short, List.append_right_eq_self,
    lines_append_of_notMem (by decide), copyLines, if_pos (by decide)] at restored
  cases restored

end Chassis.Boot
