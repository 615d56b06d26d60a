import Mathlib.Data.List.TakeWhile
import Switchboard.Proofs.Script.Scanning

/-! Tokens as they are written. A token is scanned alone as itself, whatever escapes its text is written with,
and a blank ends it; so tokens with blanks between them are scanned one by one. -/
namespace Switchboard.Script

/-- Digits, with a point after the first of them at most once. -/
def IsNumeral (chars : List Char) : Prop :=
  ∃ first rest, chars = first :: rest ∧ first.isDigit ∧ (∀ c ∈ rest, c.isDigit ∨ c = '.') ∧ rest.count '.' ≤ 1

def IsName (chars : List Char) : Prop :=
  ∃ first rest, chars = first :: rest ∧ (Text.isAlphabetic first ∨ first = '_') ∧
    ∀ c ∈ rest, Text.isAlphanumeric c ∨ c = '_'

def escaped (quote c : Char) : List Char :=
  if c = '\n' then ['\\', 'n']
  else if c = '\t' then ['\\', 't']
  else if c = '\\' ∨ c = quote then ['\\', c]
  else [c]

def literal (quote : Char) (value : String) : List Char :=
  quote :: (value.toList.flatMap (escaped quote) ++ [quote])

def marks : List (Token × Char) :=
  [(.dot, '.'), (.comma, ','), (.assign, '='), (.plus, '+'), (.minus, '-'), (.star, '*'), (.slash, '/'),
    (.percent, '%'), (.opening, '('), (.closing, ')'), (.semicolon, ';')]

/-- The token may be written so. -/
inductive IsWritten : Token → List Char → Prop
  | name {word : String} (proper : IsName word.toList) : IsWritten (.name word) word.toList
  | number {chars : List Char} {value : Binary64} (numeral : IsNumeral chars)
      (read : Decimal.readChars chars = some value) : IsWritten (.number value) chars
  | text {quote : Char} (value : String) (quotes : quote = '"' ∨ quote = '\'') :
      IsWritten (.text value) (literal quote value)
  | mark {token : Token} {c : Char} (known : (token, c) ∈ marks) : IsWritten token [c]

/-- The tokens are written in this line, with a blank at least after each one but the last. -/
inductive IsLine : List Token → List Char → Prop
  | blank {gap : List Char} (blank : ∀ c ∈ gap, isSpace c) : IsLine [] gap
  | token {gap chars rest : List Char} {token : Token} {tokens : List Token} (blank : ∀ c ∈ gap, isSpace c)
      (written : IsWritten token chars) (apart : ∀ c ∈ rest.head?, isSpace c) (further : IsLine tokens rest) :
      IsLine (token :: tokens) (gap ++ chars ++ rest)

section Characters

variable {c : Char}

theorem isAlphanumeric_of_isAlphabetic (letter : Text.isAlphabetic c) : Text.isAlphanumeric c := by
  unfold Text.isAlphabetic at letter
  unfold Text.isAlphanumeric
  split at letter
  · simp [Char.isAlphanum, *]
  · simp [*]

theorem isDigit_eq_false_of_isAlphabetic (letter : Text.isAlphabetic c) : c.isDigit = false := by
  by_contra digit
  have high : c.toNat ≤ 57 := (Char.isDigit_iff_toNat.1 (by simpa using digit)).2
  rw [Text.isAlphabetic_of_isAlpha (by omega)] at letter
  -- Letters of either case come after the digits.
  obtain upper | lower := (Bool.or_eq_true_iff).1 letter
  · have beyond : 65 ≤ c.toNat := (of_decide_eq_true upper).1
    omega
  · have beyond : 97 ≤ c.toNat := of_decide_eq_true (Bool.and_eq_true_iff.1 lower).1
    omega

theorem plain_of_not_separates (joins : ¬ Separates c) : isSpace c = false ∧ isQuote c = false :=
  ⟨by simpa using mt separates_of_isSpace joins, by simpa using mt separates_of_isQuote joins⟩

theorem isNameChar_iff : isNameChar c ↔ Text.isAlphanumeric c ∨ c = '_' := by simp [isNameChar]

theorem isNumberChar_iff : isNumberChar c ↔ c.isDigit ∨ c = '.' := by simp [isNumberChar]

theorem begin_name (letter : Text.isAlphabetic c ∨ c = '_') (tokens : List Token) :
    Scanning.begin tokens c = .ok ⟨tokens, .name [c]⟩ := by
  have joins : isNameChar c := isNameChar_iff.2 (letter.imp_left isAlphanumeric_of_isAlphabetic)
  have starts : isNameStart c := by simpa [isNameStart] using letter
  have digit : c.isDigit = false := by
    obtain letter | rfl := letter
    · exact isDigit_eq_false_of_isAlphabetic letter
    · rfl
  have plain : isSpace c = false ∧ isQuote c = false :=
    plain_of_not_separates fun apart => by simp [apart.1] at joins
  simp [Scanning.begin, plain, digit, starts]

theorem begin_number (digit : c.isDigit) (tokens : List Token) :
    Scanning.begin tokens c = .ok ⟨tokens, .number [c]⟩ := by
  have joins : isNumberChar c := isNumberChar_iff.2 (.inl digit)
  have plain : isSpace c = false ∧ isQuote c = false :=
    plain_of_not_separates fun apart => by simp [apart.2] at joins
  simp [Scanning.begin, plain, digit]

theorem begin_text (quotes : c = '"' ∨ c = '\'') (tokens : List Token) :
    Scanning.begin tokens c = .ok ⟨tokens, .text c []⟩ := by
  obtain rfl | rfl := quotes <;> rfl

theorem begin_mark {token : Token} (known : (token, c) ∈ marks) (tokens : List Token) :
    Scanning.begin tokens c = .ok ⟨token :: tokens, .between⟩ := by
  simp only [marks, List.mem_cons, Prod.mk.injEq, List.not_mem_nil, or_false] at known
  obtain ⟨rfl, rfl⟩ | ⟨rfl, rfl⟩ | ⟨rfl, rfl⟩ | ⟨rfl, rfl⟩ | ⟨rfl, rfl⟩ | ⟨rfl, rfl⟩ | ⟨rfl, rfl⟩ | ⟨rfl, rfl⟩ |
    ⟨rfl, rfl⟩ | ⟨rfl, rfl⟩ | ⟨rfl, rfl⟩ := known <;> rfl

end Characters

namespace Scanning

variable {tokens : List Token} {quote : Char} {chars reversed : List Char} {mode : List Char → Mode}

theorem readAll_spelled {spell : Char → List Char}
    (takes : ∀ c ∈ chars, ∀ reversed, readAll ⟨tokens, mode reversed⟩ (spell c) = .ok ⟨tokens, mode (c :: reversed)⟩) :
    readAll ⟨tokens, mode reversed⟩ (chars.flatMap spell) = .ok ⟨tokens, mode (chars.reverse ++ reversed)⟩ := by
  induction chars generalizing reversed with
  | nil => rfl
  | cons c chars ih =>
    obtain ⟨first, rest⟩ := List.forall_mem_cons.1 takes
    rw [List.flatMap_cons, readAll_append, first, Except.ok_bind, ih rest]
    simp

theorem readAll_taken
    (takes : ∀ c ∈ chars, ∀ reversed, read ⟨tokens, mode reversed⟩ c = .ok ⟨tokens, mode (c :: reversed)⟩) :
    readAll ⟨tokens, mode reversed⟩ chars = .ok ⟨tokens, mode (chars.reverse ++ reversed)⟩ := by
  have spelled : readAll ⟨tokens, mode reversed⟩ (chars.flatMap ([·])) = _ :=
    readAll_spelled fun c member reversed => by
      rw [readAll_cons, takes c member reversed]
      rfl
  rwa [List.flatMap_singleton'] at spelled

theorem readAll_name (letters : ∀ c ∈ chars, isNameChar c) : readAll ⟨tokens, .name reversed⟩ chars =
    .ok ⟨tokens, .name (chars.reverse ++ reversed)⟩ :=
  readAll_taken fun c member _ => if_pos (letters c member)

theorem readAll_number (digits : ∀ c ∈ chars, isNumberChar c) : readAll ⟨tokens, .number reversed⟩ chars =
    .ok ⟨tokens, .number (chars.reverse ++ reversed)⟩ :=
  readAll_taken fun c member _ => if_pos (digits c member)

theorem readAll_escaped (quotes : quote = '"' ∨ quote = '\'') (c : Char) (reversed : List Char) :
    readAll ⟨tokens, .text quote reversed⟩ (escaped quote c) = .ok ⟨tokens, .text quote (c :: reversed)⟩ := by
  have backslash : ('\\' == quote) = false := by obtain rfl | rfl := quotes <;> rfl
  -- What follows a backslash is taken as it stands, unless it writes a line feed or a tab.
  have escape (d : Char) : readAll ⟨tokens, .text quote reversed⟩ ['\\', d] =
      .ok ⟨tokens, .text quote (unescape d :: reversed)⟩ := by
    simp only [readAll, List.foldlM_cons, List.foldlM_nil, read, backslash, Bool.false_eq_true, if_false]
    rfl
  unfold escaped
  split
  · rename_i feed
    subst feed
    exact escape 'n'
  · split
    · rename_i tab
      subst tab
      exact escape 't'
    · split
      · rename_i special
        rw [escape, unescape]
        · rintro rfl
          obtain rfl | rfl := quotes <;> simp at special
        · rintro rfl
          obtain rfl | rfl := quotes <;> simp at special
      · rename_i plain
        rw [not_or] at plain
        have closes : (c == quote) = false := by simpa using plain.2
        have escapes : (c == '\\') = false := by simpa using plain.1
        simp only [readAll, List.foldlM_cons, List.foldlM_nil, read, closes, escapes, Bool.false_eq_true, if_false]
        rfl

end Scanning

/-! Numerals. -/

theorem IsNumeral.parts {chars : List Char} (numeral : IsNumeral chars) :
    (chars.takeWhile Char.isDigit).isEmpty = false ∧ (chars.dropWhile Char.isDigit = [] ∨
      ∃ fraction, chars.dropWhile Char.isDigit = '.' :: fraction ∧ ∀ c ∈ fraction, c.isDigit) := by
  obtain ⟨first, rest, rfl, digit, all, once⟩ := numeral
  rw [List.takeWhile_cons_of_pos digit, List.dropWhile_cons_of_pos digit]
  refine ⟨rfl, ?_⟩
  cases back : rest.dropWhile Char.isDigit with
  | nil => exact .inl rfl
  | cons c fraction =>
    have whole : rest = rest.takeWhile Char.isDigit ++ c :: fraction := by
      rw [← back, List.takeWhile_append_dropWhile]
    have other : c.isDigit = false := by
      have stops := List.head?_dropWhile_not Char.isDigit rest
      rwa [back] at stops
    rw [whole] at all once
    have point : c = '.' := by
      obtain digit | point := all c (by simp)
      · simp [digit] at other
      · exact point
    subst point
    rw [List.count_append, List.count_cons_self] at once
    have last : '.' ∉ fraction := List.count_eq_zero.1 (by omega)
    refine .inr ⟨fraction, rfl, fun d member => ?_⟩
    obtain digit | rfl := all d (by simp [member])
    · exact digit
    · exact absurd member last

theorem readMagnitude_of_isNumeral {chars : List Char} (numeral : IsNumeral chars) (negative : Bool) :
    ∃ value, Decimal.readMagnitude negative chars = some value := by
  obtain ⟨some_, whole | ⟨fraction, point, digits⟩⟩ := numeral.parts
  · simp [Decimal.readMagnitude, some_, whole, Decimal.readExponent]
  · have all : fraction.dropWhile Char.isDigit = [] := List.dropWhile_eq_nil_iff.2 digits
    simp [Decimal.readMagnitude, some_, point, all, Decimal.readExponent]

theorem readChars_of_isNumeral {chars : List Char} (numeral : IsNumeral chars) :
    ∃ value, Decimal.readChars chars = some value := by
  have unsigned : Decimal.readChars chars = Decimal.readMagnitude false chars := by
    obtain ⟨first, rest, rfl, digit, -⟩ := numeral
    unfold Decimal.readChars
    split
    · rename_i same
      exact absurd ((List.cons.inj same).1 ▸ digit) (by decide)
    · rename_i same
      exact absurd ((List.cons.inj same).1 ▸ digit) (by decide)
    · rfl
  rw [unsigned]
  exact readMagnitude_of_isNumeral numeral false

section Lines

variable {token : Token} {tokens : List Token} {gap chars line rest : List Char} {c : Char}

theorem scan_of_isWritten (written : IsWritten token chars) : scan chars = .ok [token] := by
  rw [scan, scanFrom_eq]
  cases written with
  | @name word proper =>
    obtain ⟨first, rest, spelled, letter, letters⟩ := proper
    have run : Scanning.start.readAll word.toList = .ok ⟨[], .name (rest.reverse ++ [first])⟩ := by
      rw [spelled, Scanning.readAll_cons, Scanning.start, Scanning.read, begin_name letter, Except.ok_bind]
      exact Scanning.readAll_name fun c member => isNameChar_iff.2 (letters c member)
    rw [run, Except.ok_bind, Scanning.finish]
    simp [Scanning.nameToken, ← spelled]
  | @number chars value numeral read =>
    obtain ⟨first, rest, spelled, digit, digits, -⟩ := numeral
    have run : Scanning.start.readAll chars = .ok ⟨[], .number (rest.reverse ++ [first])⟩ := by
      rw [spelled, Scanning.readAll_cons, Scanning.start, Scanning.read, begin_number digit, Except.ok_bind]
      exact Scanning.readAll_number fun c member => isNumberChar_iff.2 (digits c member)
    rw [run, Except.ok_bind, Scanning.finish]
    simp [Scanning.numberToken, ← spelled, read]
  | @text quote value quotes =>
    have run : Scanning.start.readAll (literal quote value) = .ok ⟨[.text value], .between⟩ := by
      rw [literal, Scanning.readAll_cons, Scanning.start, Scanning.read, begin_text quotes, Except.ok_bind,
        Scanning.readAll_append, Scanning.readAll_spelled fun c _ => Scanning.readAll_escaped quotes c]
      simp [Scanning.readAll, Scanning.read]
    rw [run]
    rfl
  | @mark token c known =>
    rw [Scanning.readAll_cons, Scanning.start, Scanning.read, begin_mark known]
    rfl

theorem scan_cons_of_isSpace (space : isSpace c) : scan (c :: rest) = scan rest := by
  rw [← List.nil_append (c :: rest), scan_append_gap rfl space]
  cases scan rest <;> rfl

theorem scan_gap (blank : ∀ c ∈ gap, isSpace c) : scan (gap ++ rest) = scan rest := by
  induction gap with
  | nil => rfl
  | cons c gap ih =>
    obtain ⟨space, blank⟩ := List.forall_mem_cons.1 blank
    rw [List.cons_append, scan_cons_of_isSpace space, ih blank]

theorem IsLine.scan (line : IsLine tokens chars) : Script.scan chars = .ok tokens := by
  induction line with
  | @blank gap blank =>
    rw [← List.append_nil gap, scan_gap blank]
    rfl
  | @token gap chars rest token tokens blank written apart further ih =>
    have first := scan_of_isWritten written
    rw [List.append_assoc, scan_gap blank]
    cases rest with
    | nil =>
      cases ih
      rwa [List.append_nil]
    | cons c rest =>
      have space := apart c rfl
      rw [scan_cons_of_isSpace space] at ih
      rw [scan_append_gap first space, ih]
      rfl

end Lines

/-- A line of written tokens is scanned as these tokens, and every numeral is a number there. -/
theorem scan_reads_line :
    (∀ tokens line, IsLine tokens line → scan line = .ok tokens) ∧
      ∀ chars, IsNumeral chars → ∃ value, IsWritten (.number value) chars := by
  refine ⟨fun tokens line written => written.scan, fun chars numeral => ?_⟩
  obtain ⟨value, read⟩ := readChars_of_isNumeral numeral
  exact ⟨value, .number numeral read⟩

def sampleTokens : List Token :=
  [.name "_é1", .assign, .text "it's \\ \n", .plus, .number (.ofNat 7)]

def sampleLine : String := " _é1 = 'it\\'s \\\\ \\n' +\t\t7. "

theorem sampleLine_scanned :
    (IsLine sampleTokens sampleLine.toList ∧ scan sampleLine.toList = .ok sampleTokens) ∧
      IsNumeral ['7', '.'] ∧ ∃ value, IsWritten (.number value) ['7', '.'] := by
  have name : IsName "_é1".toList := ⟨'_', ['é', '1'], rfl, .inr rfl, by simp; decide⟩
  have numeral : IsNumeral "7.".toList := ⟨'7', ['.'], rfl, rfl, by simp, by decide⟩
  have seven : Decimal.readChars "7.".toList = some (.ofNat 7) := by decide +kernel
  have written : IsLine sampleTokens ([' '] ++ "_é1".toList ++ ([' '] ++ ['='] ++
      ([' '] ++ literal '\'' "it's \\ \n" ++ ([' '] ++ ['+'] ++ (['\t', '\t'] ++ "7.".toList ++ [' ']))))) :=
    .token (by simp [isSpace]) (.name name) (by simp [isSpace]) <|
      .token (by simp [isSpace]) (.mark (by simp [marks])) (by simp [isSpace]) <|
      .token (by simp [isSpace]) (.text _ (.inr rfl)) (by simp [isSpace]) <|
      .token (by simp [isSpace]) (.mark (by simp [marks])) (by simp [isSpace]) <|
      .token (by simp [isSpace]) (.number numeral seven) (by simp [isSpace]) <| .blank (by simp [isSpace])
  have line : IsLine sampleTokens sampleLine.toList := written
  exact ⟨⟨line, scan_reads_line.1 _ _ line⟩, numeral, scan_reads_line.2 _ numeral⟩

end Switchboard.Script
