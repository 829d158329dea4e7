import Chassis.Construction.Store.Memory
import Chassis.Proof.Store.Sheet

namespace Chassis.Store
open Effect Json Data Flash

section Rows

variable {Number : Type} {read : List UInt8 → Option Number}

/-- A row stays in one line, and the loop of the reader does not stop at its first byte. -/
def Proper (row : List UInt8) : Prop := newline ∉ row ∧ row.head? ≠ some 0x7D

/-- A byte that ends every numeral is in none. -/
theorem numeral_notMem {text : List UInt8} (grammatical : numeral text = true) {byte : UInt8}
    (ends : ∀ part : Part, part.next byte = none) (foreign : Part.start byte = none) :
    byte ∉ text := by
  have unfinished (rest : List UInt8) (part : Option Part) (member : byte ∈ rest) :
      rest.foldl (fun part byte => part.bind fun part => part.next byte) part = none := by
    induction rest generalizing part with
    | nil => cases member
    | cons first rest ih =>
        rw [List.foldl_cons]
        rcases List.mem_cons.mp member with rfl | member
        · cases part with
          | none => exact Config.foldl_next_none rest
          | some part =>
              rw [Option.bind_some, ends]
              exact Config.foldl_next_none rest
        · exact ih _ member
  intro member
  obtain ⟨last, scanned, _⟩ := (Option.any_eq_true _ _).mp grammatical
  cases text with
  | nil => cases member
  | cons first rest =>
      rw [scan] at scanned
      rcases List.mem_cons.mp member with rfl | member
      · rw [foreign, Config.foldl_next_none] at scanned
        cases scanned
      · rw [unfinished rest _ member] at scanned
        cases scanned

theorem leaf_oneLine {text : List UInt8} {value : Value Number}
    (leaf : Config.Leaf read text value) : newline ∉ text := by
  cases leaf with
  | null => decide
  | number grammatical _ =>
      apply numeral_notMem grammatical
      · intro part
        cases part <;> rfl
      · rfl

theorem quote_oneLine {text : List UInt8} (ordinary : Plain text) : newline ∉ quote text := by
  rw [quote_plain ordinary]
  intro member
  simp only [List.cons_append, List.mem_cons, List.mem_append, List.not_mem_nil, or_false] at member
  rcases member with impossible | member | impossible
  · cases impossible
  · have allowed := ordinary newline member
    cases allowed
  · cases impossible

/-- A row that starts with spaces is proper when it has no newline. -/
theorem spaces_proper {row : List UInt8} (oneLine : newline ∉ row) (count : Nat) :
    Proper (spaces (count + 1) ++ row) := by
  refine ⟨?_, ?_⟩
  · intro member
    rcases List.mem_append.mp member with member | member
    · cases (List.mem_replicate.mp member).2
    · exact oneLine member
  · rw [spaces, List.replicate_succ]
    intro first
    cases first

theorem comma_oneLine (last : Bool) : newline ∉ comma last := by
  cases last with
  | true => exact nofun
  | false => decide

theorem entryRows_proper (entries : List (Entry read)) : ∀ row ∈ entryRows entries, Proper row := by
  induction entries with
  | nil => exact nofun
  | cons entry rest ih =>
      rw [entryRows, List.forall_mem_cons]
      refine ⟨spaces_proper ?_ 7, ih⟩
      simp only [List.mem_append, not_or]
      exact ⟨⟨quote_oneLine entry.plain, by decide⟩, leaf_oneLine entry.leaf, comma_oneLine _⟩

theorem rail_proper (rail : Rail read) (last : Bool) : ∀ row ∈ rail.rows last, Proper row := by
  rw [Rail.rows, List.forall_mem_cons]
  constructor
  · apply spaces_proper _ 3
    simp only [List.mem_append, not_or]
    exact ⟨⟨quote_oneLine rail.plain, by decide⟩, by decide⟩
  · intro row member
    rcases List.mem_append.mp member with member | member
    · exact entryRows_proper rail.entries row member
    · cases List.mem_singleton.mp member
      apply spaces_proper _ 3
      rw [List.mem_cons, not_or]
      exact ⟨by decide, comma_oneLine last⟩

theorem bodyRows_proper (rails : List (Rail read)) : ∀ row ∈ bodyRows rails, Proper row := by
  induction rails with
  | nil => exact nofun
  | cons rail rest ih =>
      rw [bodyRows]
      intro row member
      rcases List.mem_append.mp member with member | member
      · exact rail_proper rail _ row member
      · exact ih row member

theorem Document.rows_proper (document : Document read) : ∀ row ∈ document.rows, Proper row := by
  rw [Document.rows, List.forall_mem_cons]
  exact ⟨⟨by decide, by decide⟩, bodyRows_proper document.rails⟩

end Rows

/-- A line with its first byte. -/
theorem lines_cons {byte : UInt8} (inside : byte ≠ newline) (rest : List UInt8) :
    ∃ line others, lines (byte :: rest) = (byte :: line) :: others := by
  rw [lines, if_neg inside]
  cases lines rest with
  | nil => exact ⟨[], [], rfl⟩
  | cons line others => exact ⟨line, others, rfl⟩

/-- The loop copies a number of rows, and it copies all of them exactly when the limit leaves room
and all of them are short. -/
theorem copyLines_rows {rows : List (List UInt8)} (proper : ∀ row ∈ rows, Proper row)
    (line : List UInt8) (others : List (List UInt8)) (limit lineCount : Int) :
    ∃ count ≤ rows.length,
      copyLines limit lineCount (rows ++ (0x7D :: line) :: others) = unlines (rows.take count) ∧
        (count = rows.length ↔ (rows = [] ∨ lineCount + rows.length ≤ limit) ∧
          ∀ row ∈ rows, row.length < 32) := by
  induction rows generalizing lineCount with
  | nil =>
      refine ⟨0, Nat.le_refl 0, ?_, by simp⟩
      rw [List.nil_append, copyLines]
      simp
  | cons row rest ih =>
      rw [List.forall_mem_cons] at proper
      rw [List.cons_append, copyLines, List.forall_mem_cons, List.length_cons]
      by_cases room : lineCount < limit
      · by_cases short : row.length < 32
        · obtain ⟨count, within, copied, all⟩ := ih proper.2 (lineCount + 1)
          refine ⟨count + 1, Nat.succ_le_succ within, ?_, ?_⟩
          · rw [if_pos room, if_pos ⟨short, proper.1.2⟩, copied, List.take_succ_cons, unlines_cons]
          · have fits : rest = [] ∨ lineCount + 1 + rest.length ≤ limit ↔
                lineCount + (rest.length + 1 : Nat) ≤ limit := by
              constructor
              · rintro (rfl | fits)
                · exact room
                · omega
              · intro fits
                right
                omega
            rw [Nat.succ_inj, all, fits, or_iff_right (List.cons_ne_nil row rest)]
            exact and_congr_right fun _ => (and_iff_right short).symm
        · refine ⟨0, Nat.zero_le _, ?_, ?_⟩
          · rw [if_pos room, if_neg fun kept => short kept.1]
            rfl
          · exact iff_of_false (Nat.succ_ne_zero _).symm fun kept => short kept.2.1
      · refine ⟨0, Nat.zero_le _, ?_, ?_⟩
        · rw [if_neg room]
          rfl
        · apply iff_of_false (Nat.succ_ne_zero _).symm
          rintro ⟨fits, _⟩
          rcases fits with impossible | fits
          · cases impossible
          · push_cast at fits
            omega

/-- The limits survive: the file that is read back from the flash parses to the same value. -/
def Restores (numbers : Numbers) (linesToRead : Int32) (eraseSize : Nat)
    (thresholds mtd3 : List UInt8) : Prop :=
  ∃ value, parse numbers.read thresholds = some value ∧
    ∃ restored, runReadVars linesToRead thresholds (runSaveVars eraseSize thresholds mtd3) =
      some restored ∧ parse numbers.read restored = some value

/-- The counter starts positive and does not overflow, and every line but the last one is short. -/
def Restorable (linesToRead : Int32) (thresholds : List UInt8) : Prop :=
  1 ≤ linesToRead.toInt ∧ linesToRead.toInt + (lines thresholds).length ≤ 2147483647 ∧
    ∀ line ∈ (lines thresholds).dropLast, line.length < 32

/-- The text of a document survives exactly when the counter and the lines allow it. -/
theorem document_restores_iff {numbers : Numbers} (document : Document numbers.read)
    (linesToRead : Int32) (eraseSize : Nat) (mtd3 : List UInt8) :
    Restores numbers linesToRead eraseSize document.text mtd3 ↔
      Restorable linesToRead document.text := by
  have proper := document.rows_proper
  have oneLine : ∀ row ∈ document.rows, newline ∉ row := fun row member => (proper row member).1
  have counted : lines document.text = document.rows ++ [[0x7D]] :=
    lines_unlines_append oneLine [0x7D]
  have parsed : parse numbers.read document.text = some document.value := document.parse_rows []
  have atLeast := linesToRead.le_toInt
  have present : 1 ≤ document.rows.length := Nat.succ_le_succ (Nat.zero_le _)
  obtain ⟨line, others, split⟩ := lines_cons (by decide : (0x7D : UInt8) ≠ newline)
    (behind eraseSize document.text mtd3)
  have saved : runSaveVars eraseSize document.text mtd3 =
      unlines document.rows ++ 0x7D :: behind eraseSize document.text mtd3 :=
    List.append_assoc _ [0x7D] _
  have device : lines (runSaveVars eraseSize document.text mtd3) =
      document.rows ++ (0x7D :: line) :: others := by
    rw [saved, lines_unlines_append oneLine, split]
  obtain ⟨count, within, copied, all⟩ := copyLines_rows proper line others
    (linesToRead.toInt + (lines document.text).length - 2) 0
  rw [Restorable, counted, List.dropLast_concat]
  rw [counted, List.length_append, List.length_singleton] at copied all
  have read : runReadVars linesToRead document.text (runSaveVars eraseSize document.text mtd3) =
      if linesToRead.toInt + (document.rows.length + 1 : Nat) ≤ 2147483647 ∧
          -2147483648 ≤ linesToRead.toInt + (document.rows.length + 1 : Nat) - 2 then
        some (unlines (document.rows.take count) ++ closing)
      else none := by
    rw [runReadVars, device, counted, List.length_append, List.length_singleton, ← copied]
    rfl
  rw [Restores, read, List.length_append, List.length_singleton]
  constructor
  · rintro ⟨value, same, restored, written, back⟩
    cases parsed.symm.trans same
    split_ifs at written with range
    cases written
    have whole : count = document.rows.length := by
      rcases Nat.lt_or_eq_of_le within with part | whole
      · exact absurd back (document.parse_rows_take part)
      · exact whole
    obtain ⟨room, short⟩ := all.mp whole
    refine ⟨?_, range.1, short⟩
    rcases room with empty | room
    · rw [empty] at present
      cases present
    · omega
  · rintro ⟨positive, fits, short⟩
    have whole : count = document.rows.length := by
      apply all.mpr
      refine ⟨Or.inr ?_, short⟩
      omega
    refine ⟨document.value, parsed, _, if_pos ⟨fits, ?_⟩, ?_⟩
    · rw [whole, List.take_length]
      exact document.parse_rows [newline]
    · omega

/-- The limits that commands have left survive exactly when the counter and the lines allow it. -/
theorem thresholds_restored_iff (numbers : Numbers)
    (calls : List (Setting numbers × Environment (interface numbers))) (linesToRead : Int32)
    (eraseSize : Nat) (mtd3 : List UInt8) :
    Restores numbers linesToRead eraseSize (thresholdsFile calls) mtd3 ↔
      Restorable linesToRead (thresholdsFile calls) := by
  obtain ⟨document, same⟩ := thresholdsFile_stored calls
  rw [same]
  exact document_restores_iff document linesToRead eraseSize mtd3

/-- A number is known by its numeral. -/
def literals : Numbers where
  Number := { text : List UInt8 // numeral text = true }
  print := Subtype.val
  read text := if grammatical : numeral text = true then some ⟨text, grammatical⟩ else none
  printed number := Or.inr ⟨number.2, dif_pos number.2⟩
  inRange text grammatical _ _ := by rw [dif_pos grammatical]; rfl

/-- The upper limit of the twelve volts becomes a little higher. -/
def raised : Setting literals :=
  ⟨ascii "voltage", ascii "12V_Rail", ascii "high", ⟨ascii "12.7", by decide⟩⟩

/-- The bus lists the rail and accepts the limit. -/
def listing : Environment (interface literals) := fun _ op =>
  match op with
  | .getSubTreePaths _ => some [⟨[ascii "xyz", ascii "12V_Rail"], by decide⟩]
  | .setProperty _ _ _ => true

theorem thresholds_restored_fails : ¬ ∀ (numbers : Numbers)
    (calls : List (Setting numbers × Environment (interface numbers))) (linesToRead : Int32)
    (eraseSize : Nat) (mtd3 : List UInt8),
    Restores numbers linesToRead eraseSize (thresholdsFile calls) mtd3 := by
  intro always
  have restored := always literals [(raised, listing)] 0 65536 []
  obtain ⟨document, same⟩ := thresholdsFile_stored [(raised, listing)]
  rw [same] at restored
  have positive := ((document_restores_iff document 0 65536 []).mp restored).1
  exact absurd positive (by decide)

end Chassis.Store
