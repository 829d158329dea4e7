import Chassis.Construction.Boot.Logs

namespace Chassis.Boot
open Data

section Skip

variable {toSkip skipped : Nat} {content rest : List UInt8}

/-- The loop stops behind a newline with which enough bytes are skipped, and not behind an earlier
one. -/
theorem skipLines_some (found : skipLines toSkip skipped content = some rest) :
    (∃ front, content = front ++ newline :: rest ∧ toSkip ≤ skipped + front.length + 1) ∧
      ∀ front other, content = front ++ newline :: other →
        toSkip ≤ skipped + front.length + 1 → other.length ≤ rest.length := by
  induction content generalizing skipped with
  | nil => cases found
  | cons ch content ih =>
      rw [skipLines] at found
      split_ifs at found with stops
      · cases found
        refine ⟨⟨[], by rw [stops.1, List.nil_append], stops.2⟩, ?_⟩
        intro front other split _
        have lengths := congrArg List.length split
        simp only [List.length_cons, List.length_append] at lengths
        omega
      · obtain ⟨⟨front, split, enough⟩, least⟩ := ih found
        refine ⟨⟨ch :: front, by rw [split, List.cons_append], ?_⟩, ?_⟩
        · rw [List.length_cons]
          omega
        · intro before other split' enough'
          cases before with
          | nil =>
              cases split'
              exact absurd ⟨rfl, enough'⟩ stops
          | cons first before =>
              cases split'
              rw [List.length_cons] at enough'
              exact least before other rfl (by omega)

/-- The loop misses no newline with which enough bytes are skipped. -/
theorem skipLines_none (missed : skipLines toSkip skipped content = none)
    (front other : List UInt8) (split : content = front ++ newline :: other) :
    skipped + front.length + 1 < toSkip := by
  induction front generalizing skipped content with
  | nil =>
      subst split
      rw [List.nil_append, skipLines] at missed
      split_ifs at missed with stops
      exact Nat.lt_of_not_le fun enough => stops ⟨rfl, enough⟩
  | cons ch front ih =>
      subst split
      rw [List.cons_append, skipLines] at missed
      split_ifs at missed
      have later := ih missed rfl
      rw [List.length_cons]
      omega

end Skip

/-- The longest suffix that starts with a line and fits the limit. -/
structure Trimmed (limit : Nat) (content kept : List UInt8) : Prop where
  start : LineSuffix content kept
  fits : kept.length ≤ limit
  longest : ∀ other, LineSuffix content other → other.length ≤ limit → other.length ≤ kept.length

theorem trimLog_small {content : List UInt8} (small : content.length ≤ maxSize) :
    trimLog content = content :=
  if_pos small

/-- A log of complete lines is trimmed to the longest suffix of lines that fits. -/
theorem trimLog_trimmed {content : List UInt8} (complete : Complete content) :
    Trimmed maxSize content (trimLog content) := by
  by_cases small : content.length ≤ maxSize
  case pos =>
    rw [trimLog_small small]
    refine ⟨Or.inr ⟨[], rfl, Or.inl rfl⟩, small, ?_⟩
    rintro other (rfl | ⟨front, rfl, -⟩) -
    · exact Nat.zero_le _
    · rw [List.length_append]
      omega
  case neg =>
    rw [trimLog, if_neg small]
    cases found : skipLines (content.length - maxSize) 0 content with
    | none =>
        -- The last newline of the log would do.
        rcases complete with empty | ⟨front, ended⟩
        · rw [empty] at small
          exact absurd (Nat.zero_le _) small
        · have missed := skipLines_none found front [] ended
          have length := congrArg List.length ended
          rw [List.length_append, List.length_singleton] at length
          omega
    | some rest =>
        obtain ⟨⟨front, split, enough⟩, least⟩ := skipLines_some found
        have length := congrArg List.length split
        rw [List.length_append, List.length_cons] at length
        have start : content = (front ++ [newline]) ++ rest := by
          rw [split, List.append_assoc, List.singleton_append]
        refine ⟨Or.inr ⟨_, start, Or.inr ⟨front, rfl⟩⟩, ?_, ?_⟩
        · rw [Option.getD_some]
          omega
        · rintro other (rfl | ⟨before, split', rfl | ⟨line, rfl⟩⟩) fits
          · exact Nat.zero_le _
          · rw [split', List.nil_append] at small
            exact absurd fits small
          · rw [List.append_assoc, List.singleton_append] at split'
            have length' := congrArg List.length split'
            rw [List.length_append, List.length_cons] at length'
            exact least line other split' (by omega)

section Write

variable {content : List UInt8} (timeSinceBoot log : List UInt8)

/-- The entry ends the log with a newline. -/
theorem append_logEntry_complete : Complete (content ++ logEntry timeSinceBoot log) :=
  Or.inr ⟨content ++ ("[".toUTF8.toList ++ timeSinceBoot ++ "] LCR: ".toUTF8.toList ++ log),
    (List.append_assoc ..).symm⟩

/-- What ends the log from the start of a line on and fits the limit is kept. -/
theorem writeLogToFile_keeps {line : List UInt8}
    (start : LineSuffix (content ++ logEntry timeSinceBoot log) line)
    (fits : line.length ≤ maxSize) : line <:+ writeLogToFile content timeSinceBoot log := by
  have complete : Complete (content ++ logEntry timeSinceBoot log) :=
    append_logEntry_complete timeSinceBoot log
  have trimmed := trimLog_trimmed complete
  exact start.suffix trimmed.start (trimmed.longest line start fits)

theorem writeLogToFile_complete : Complete (writeLogToFile content timeSinceBoot log) := by
  have complete : Complete (content ++ logEntry timeSinceBoot log) :=
    append_logEntry_complete timeSinceBoot log
  exact (trimLog_trimmed complete).start.complete complete

end Write

/-- The log after a history of entries with their times. -/
def writeLogs (content : List UInt8) (entries : List (List UInt8 × List UInt8)) : List UInt8 :=
  entries.foldl (fun content entry => writeLogToFile content entry.1 entry.2) content

theorem writeLogs_complete {content : List UInt8} (complete : Complete content)
    (entries : List (List UInt8 × List UInt8)) : Complete (writeLogs content entries) := by
  induction entries generalizing content with
  | nil => exact complete
  | cons entry rest ih => exact ih (writeLogToFile_complete entry.1 entry.2)

/-- Trimming leaves the longest suffix of lines that fits, a small log stays as it is, and the last
entry of every history is kept unless it exceeds the limit on its own. -/
theorem log_trimmed :
    (∀ content, Complete content → Trimmed maxSize content (trimLog content)) ∧
      (∀ content : List UInt8, content.length ≤ maxSize → trimLog content = content) ∧
      (∀ content entries timeSinceBoot log, Complete content →
        (logEntry timeSinceBoot log).length ≤ maxSize →
          logEntry timeSinceBoot log <:+
            writeLogs content (entries ++ [(timeSinceBoot, log)])) ∧
      ∀ content timeSinceBoot log line, LineSuffix (content ++ logEntry timeSinceBoot log) line →
        line.length ≤ maxSize → line <:+ writeLogToFile content timeSinceBoot log := by
  refine ⟨fun _ => trimLog_trimmed, fun _ => trimLog_small, ?_,
    fun _ time log _ => writeLogToFile_keeps time log⟩
  intro content entries timeSinceBoot log complete fits
  have before : Complete (writeLogs content entries) := writeLogs_complete complete entries
  rw [writeLogs, List.foldl_append]
  exact writeLogToFile_keeps timeSinceBoot log (Or.inr ⟨_, rfl, before⟩) fits

theorem log_trimmed_first : logEntry "12".toUTF8.toList "Heartbeat".toUTF8.toList <:+
    writeLogs [] [("12".toUTF8.toList, "Heartbeat".toUTF8.toList)] :=
  log_trimmed.2.2.1 [] [] _ _ (Or.inl rfl) (by decide +kernel)

end Chassis.Boot
