import Switchboard.Calendar.Timestamp
import Switchboard.Proofs.Calendar.Days

/-! Instants as text and back. Numbers are written with as many digits as the reader takes, so each part
ends where the next one begins, and the places that are left out are the ones that the reader supplies. -/
namespace Switchboard

/-- In a year of four digits, and in no leap second. -/
structure Instant.IsPlain (t : Instant) : Prop where
  year_nonneg : 0 ≤ t.date.year
  year_le : t.date.year ≤ 9999
  nanos : t.nanos < nanosPerSecond

namespace Timestamp

open Switchboard.Text (isBlank trimStart)

section Numbers

variable {width n : Nat} {c : Char} {rest : List Char}

theorem isDigit_of_mem_padded (member : c ∈ padded width n) : c.isDigit = true := by
  obtain zero | digit := List.mem_append.1 member
  · rw [List.eq_of_mem_replicate zero]
    rfl
  · exact Nat.isDigit_of_mem_toDigits (by decide) (by decide) digit

theorem length_padded (few : n < Nat.pow 10 width) (some_ : 0 < width) :
    (padded width n).length = width := by
  have digits : (Nat.toDigits 10 n).length ≤ width := (Nat.length_toDigits_le_iff (by decide) some_).2 few
  simp only [padded, List.length_append, List.length_replicate]
  omega

theorem digitsValue_padded : Decimal.digitsValue (padded width n) = n := by
  have zeros (k : Nat) (digits : List Char) :
      Decimal.digitsValue (List.replicate k '0' ++ digits) = Decimal.digitsValue digits := by
    induction k with
    | zero => rfl
    | succ k ih => exact ih
  exact (zeros ..).trans (Nat.ofDigitChars_toDigits (by decide) (by decide))

theorem exists_padded (width n : Nat) : ∃ c cs, padded width n = c :: cs ∧ c.isDigit = true := by
  obtain ⟨c, cs, same⟩ := List.exists_cons_of_ne_nil
    (List.append_ne_nil_of_right_ne_nil (List.replicate (width - (Nat.toDigits 10 n).length) '0')
      (Nat.toDigits_ne_nil (n := n) (b := 10)))
  exact ⟨c, cs, same, isDigit_of_mem_padded (same ▸ List.mem_cons_self)⟩

theorem isBlank_of_isDigit (digit : c.isDigit = true) : isBlank c = false := by
  simp only [Char.isDigit, Bool.and_eq_true, decide_eq_true_eq] at digit
  have low : 48 ≤ c.toNat := digit.1
  have high : c.toNat ≤ 57 := digit.2
  simp only [isBlank, Bool.or_eq_false_iff, Bool.and_eq_false_iff, decide_eq_false_iff_not, beq_eq_false_iff_ne]
  omega

theorem trimStart_padded : trimStart (padded width n ++ rest) = padded width n ++ rest := by
  obtain ⟨c, cs, same, digit⟩ := exists_padded width n
  rw [same, List.cons_append, trimStart, List.dropWhile_cons_of_neg (by simp [isBlank_of_isDigit digit])]

theorem readNumber_padded (few : n < Nat.pow 10 width) (some_ : 0 < width) :
    readNumber width (padded width n ++ rest) = some (n, rest) := by
  have digits : ((padded width n ++ rest).take width).takeWhile Char.isDigit = padded width n := by
    rw [List.take_left' (length_padded few some_), ← List.append_nil (padded width n),
      List.takeWhile_append_of_pos fun c => isDigit_of_mem_padded]
    rfl
  obtain ⟨c, cs, same, -⟩ := exists_padded width n
  unfold readNumber
  rw [trimStart_padded]
  dsimp only
  rw [digits, List.drop_left, digitsValue_padded, if_neg (by simp [same])]

theorem readNumber_two (few : n < 100) : readNumber 2 (padded 2 n ++ rest) = some (n, rest) :=
  readNumber_padded few (by decide)

theorem readYear_padded (few : n < 10000) :
    readYear (padded 4 n ++ rest) = some ((n : Int), rest) := by
  obtain ⟨c, cs, same, digit⟩ := exists_padded 4 n
  have number : readNumber 4 (padded 4 n ++ rest) = some (n, rest) := readNumber_padded few (by decide)
  unfold readYear
  rw [trimStart_padded]
  split
  · rename_i rest' minus
    rw [same] at minus
    cases minus
    contradiction
  · rename_i rest' plus
    rw [same] at plus
    cases plus
    contradiction
  · rw [number]
    rfl

theorem readFraction_padded (few : n < Nat.pow 10 width) (some_ : 0 < width) (most : width ≤ 9) :
    readFraction ('.' :: padded width n ++ 'Z' :: rest) =
      some (n * Nat.pow 10 (9 - width), 'Z' :: rest) := by
  have digits : (padded width n ++ 'Z' :: rest).takeWhile Char.isDigit = padded width n := by
    rw [List.takeWhile_append_of_pos fun c => isDigit_of_mem_padded, List.takeWhile_cons_of_neg (by decide),
      List.append_nil]
  have behind : (padded width n ++ 'Z' :: rest).dropWhile Char.isDigit = 'Z' :: rest := by
    rw [List.dropWhile_append_of_pos fun c => isDigit_of_mem_padded, List.dropWhile_cons_of_neg (by decide)]
  have length := length_padded few some_
  obtain ⟨c, cs, same, -⟩ := exists_padded width n
  unfold readFraction
  simp only [List.cons_append]
  rw [digits, behind, if_neg (by simp [same]), List.take_of_length_le (by omega), length,
    digitsValue_padded]

end Numbers

theorem writeFraction_places {nanos : Nat} (few : nanos < Instant.nanosPerSecond) :
    (writeFraction nanos = [] ∧ nanos = 0) ∨
      ∃ places ∈ [3, 6, 9], ∃ n < Nat.pow 10 places, writeFraction nanos = '.' :: padded places n ∧
        n * Nat.pow 10 (9 - places) = nanos := by
  unfold Instant.nanosPerSecond at few
  unfold writeFraction
  simp only [beq_iff_eq]
  split
  · rename_i none_
    exact .inl ⟨rfl, none_⟩
  · refine .inr ?_
    split
    · exact ⟨3, by decide, nanos / 1000000, by simp; omega, rfl, by simp; omega⟩
    · split
      · exact ⟨6, by decide, nanos / 1000, by simp; omega, rfl, by simp; omega⟩
      · exact ⟨9, by decide, nanos, by simpa using few, rfl, by simp⟩

theorem readFraction_writeFraction {nanos : Nat} {rest : List Char}
    (few : nanos < Instant.nanosPerSecond) :
    readFraction (writeFraction nanos ++ 'Z' :: rest) = some (nanos, 'Z' :: rest) := by
  obtain ⟨none_, rfl⟩ | ⟨places, known, n, small, written, same⟩ := writeFraction_places few
  · rw [none_]
    rfl
  · have bounds : 0 < places ∧ places ≤ 9 := by
      simp only [List.mem_cons, List.not_mem_nil, or_false] at known
      omega
    rw [written, readFraction_padded small bounds.1 bounds.2, same]

variable {t : Instant} {rest : List Char}

theorem readYear_writeYear {year : Int} (nonneg : 0 ≤ year) (four : year ≤ 9999) :
    readYear (writeYear year ++ rest) = some (year, rest) := by
  rw [writeYear, if_pos ⟨nonneg, four⟩, readYear_padded (by omega), Int.natAbs_of_nonneg nonneg]

theorem readDate_write (plain : t.IsPlain) :
    readDate (writeYear t.date.year ++ '-' :: (padded 2 t.date.month ++
      '-' :: (padded 2 t.date.day ++ rest))) = some (t.date, rest) := by
  have valid : t.date.isValid = true := Date.isValid_ofDays t.days
  obtain ⟨⟨-, month⟩, -, day⟩ := Date.isValid_iff.1 valid
  have day : t.date.day < 100 := by
    have := Date.daysInMonth_le t.date.year t.date.month
    omega
  have separator (rest : List Char) : readSeparator '-' ('-' :: rest) = some rest := rfl
  unfold readDate
  simp only [readYear_writeYear plain.year_nonneg plain.year_le, Option.bind_eq_bind, Option.bind_some,
    separator, readNumber_two (Nat.lt_of_le_of_lt month (by decide)),
    readNumber_two day, valid, if_true]

theorem readTime_write {hour minute second nanos : Nat} (hour_lt : hour < 24) (minute_lt : minute < 60)
    (second_lt : second < 60) (nanos_lt : nanos < Instant.nanosPerSecond) :
    readTime (padded 2 hour ++ ':' :: (padded 2 minute ++ ':' :: (padded 2 second ++
      (writeFraction nanos ++ 'Z' :: rest)))) =
        some (3600 * hour + 60 * minute + second, nanos, 'Z' :: rest) := by
  have separator (rest : List Char) : readSeparator ':' (':' :: rest) = some rest := rfl
  have noLeap : second / 60 = 0 := Nat.div_eq_of_lt second_lt
  unfold readTime
  simp [separator, readNumber_two (Nat.lt_trans hour_lt (by decide)),
    readNumber_two (Nat.lt_trans minute_lt (by decide)),
    readNumber_two (Nat.lt_trans second_lt (by decide)),
    readFraction_writeFraction nanos_lt, noLeap, hour_lt, minute_lt, Nat.le_of_lt second_lt]

/-- What is written of an instant is read back as this instant. -/
theorem read_write (plain : t.IsPlain) : read (write t) = some t := by
  have noLeap : t.nanos / Instant.nanosPerSecond = 0 := Nat.div_eq_of_lt plain.nanos
  have few : t.nanos % Instant.nanosPerSecond = t.nanos := Nat.mod_eq_of_lt plain.nanos
  have ofDay : t.secondOfDay < 86400 := t.secondOfDay_lt
  have hour : t.hour < 24 := by unfold Instant.hour; omega
  have minute : t.minute < 60 := by unfold Instant.minute; omega
  have second : t.second < 60 := by unfold Instant.second; omega
  have time : 3600 * t.hour + 60 * t.minute + t.second = t.secondOfDay := by
    unfold Instant.hour Instant.minute Instant.second
    omega
  have range : inRange t.date = true := by
    have := plain.year_nonneg
    have := plain.year_le
    simp only [inRange, Bool.and_eq_true, decide_eq_true_eq]
    omega
  have days : t.date.toDays = t.days := Date.toDays_ofDays t.days
  have whole : t.days * Instant.secondsPerDay + t.secondOfDay = t.seconds := by
    unfold Instant.days Instant.secondOfDay Instant.secondsPerDay
    omega
  have offset : readOffset ['Z'] = some (0, []) := rfl
  unfold read write
  rw [String.toList_ofList]
  simp only [writeChars, noLeap, few, List.append_assoc, List.cons_append, List.nil_append, Nat.add_zero]
  unfold readChars
  simp only [readDate_write plain, Option.bind_eq_bind, Option.bind_some]
  simp only [readTime_write hour minute second plain.nanos, Option.bind_some, offset, time, days, whole]
  simp [range, Text.trimStart]

end Timestamp
end Switchboard
