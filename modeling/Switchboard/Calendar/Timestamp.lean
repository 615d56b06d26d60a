import Switchboard.Calendar.Instant
import Switchboard.Number.Decimal
import Switchboard.Text.Blank

/-! Instants as text. They are written in universal time with the shortest of no, three, six or
nine places that is exact. The reader also takes other offsets, blanks between the parts, a sign
before the year and any number of places. -/
namespace Switchboard.Timestamp

open Switchboard.Text (isBlank trimStart)

def padded (width n : Nat) : List Char :=
  let digits := Nat.toDigits 10 n
  List.replicate (width - digits.length) '0' ++ digits

def writeYear (year : Int) : List Char :=
  if 0 ≤ year ∧ year ≤ 9999 then padded 4 year.natAbs
  else (if year < 0 then '-' else '+') :: padded 4 year.natAbs

def writeFraction (nanos : Nat) : List Char :=
  if nanos == 0 then []
  else if nanos % 1000000 == 0 then '.' :: padded 3 (nanos / 1000000)
  else if nanos % 1000 == 0 then '.' :: padded 6 (nanos / 1000)
  else '.' :: padded 9 nanos

def writeChars (t : Instant) : List Char :=
  let date := t.date
  let leap := t.nanos / Instant.nanosPerSecond
  writeYear date.year ++ ['-'] ++ padded 2 date.month ++ ['-'] ++ padded 2 date.day ++ ['T']
    ++ padded 2 t.hour ++ [':'] ++ padded 2 t.minute ++ [':'] ++ padded 2 (t.second + leap)
    ++ writeFraction (t.nanos % Instant.nanosPerSecond) ++ ['Z']

def write (t : Instant) : String := String.ofList (writeChars t)

def readNumber (width : Nat) (text : List Char) : Option (Nat × List Char) :=
  let text := trimStart text
  let digits := (text.take width).takeWhile Char.isDigit
  if digits.isEmpty then none else some (Decimal.digitsValue digits, text.drop digits.length)

def readLongNumber (text : List Char) : Option (Nat × List Char) :=
  let digits := text.takeWhile Char.isDigit
  if digits.isEmpty then none
  else some (Decimal.digitsValue digits, text.dropWhile Char.isDigit)

/-- A year without sign has at most four digits. -/
def readYear (text : List Char) : Option (Int × List Char) :=
  match trimStart text with
  | '-' :: rest => (readLongNumber rest).map fun (n, rest) => (-(n : Int), rest)
  | '+' :: rest => (readLongNumber rest).map fun (n, rest) => ((n : Int), rest)
  | text => (readNumber 4 text).map fun (n, rest) => ((n : Int), rest)

def readSeparator (separator : Char) (text : List Char) : Option (List Char) :=
  match trimStart text with
  | c :: rest => if c == separator then some rest else none
  | [] => none

/-- Places beyond the ninth are dropped. -/
def readFraction : List Char → Option (Nat × List Char)
  | '.' :: text =>
    let digits := text.takeWhile Char.isDigit
    if digits.isEmpty then none
    else
      let places := digits.take 9
      some (Decimal.digitsValue places * Nat.pow 10 (9 - places.length), text.dropWhile Char.isDigit)
  | text => some (0, text)

def isMinute (tens units : Char) : Bool :=
  '0' ≤ tens && tens ≤ '5' && units.isDigit

def offsetMinutes : List Char → Option (Nat × List Char)
  | h :: i :: rest =>
    if h.isDigit && i.isDigit then
      match rest.dropWhile fun c => c == ':' || isBlank c with
      | m :: n :: rest =>
        if isMinute m n then
          some (60 * Decimal.digitsValue [h, i] + Decimal.digitsValue [m, n], rest)
        else none
      | _ => none
    else none
  | _ => none

/-- Minutes by which local time is ahead of universal time. -/
def readOffset (text : List Char) : Option (Int × List Char) :=
  match trimStart text with
  | 'Z' :: rest | 'z' :: rest => some (0, rest)
  | '+' :: rest => (offsetMinutes rest).map fun (n, rest) => ((n : Int), rest)
  | '-' :: rest | '\u2212' :: rest => (offsetMinutes rest).map fun (n, rest) => (-(n : Int), rest)
  | u :: t :: c :: rest =>
    if [u, t, c].map Char.toLower == ['u', 't', 'c'] then some (0, rest) else none
  | _ => none

def readDate (text : List Char) : Option (Date × List Char) := do
  let (year, text) ← readYear text
  let text ← readSeparator '-' text
  let (month, text) ← readNumber 2 text
  let text ← readSeparator '-' text
  let (day, text) ← readNumber 2 text
  let date : Date := ⟨year, month, day⟩
  if date.isValid then some (date, text) else none

/-- Second of the day and nanoseconds; a sixtieth second is a leap second. -/
def readTime (text : List Char) : Option (Nat × Nat × List Char) := do
  let (hour, text) ← readNumber 2 text
  let text ← readSeparator ':' text
  let (minute, text) ← readNumber 2 text
  let text ← readSeparator ':' text
  let (second, text) ← readNumber 2 text
  let (nanos, text) ← readFraction text
  if hour < 24 && minute < 60 && second ≤ 60 then
    let leap := second / 60
    some (3600 * hour + 60 * minute + (second - leap),
      nanos + leap * Instant.nanosPerSecond, text)
  else none

def inRange (date : Date) : Bool := -262143 ≤ date.year && date.year ≤ 262142

def readChars (text : List Char) : Option Instant := do
  let (date, text) ← readDate text
  let text ← match text with
    | 'T' :: rest | 't' :: rest | ' ' :: rest => some rest
    | _ => none
  let (seconds, nanos, text) ← readTime text
  let (offset, text) ← readOffset text
  let t : Instant := ⟨date.toDays * Instant.secondsPerDay + seconds - 60 * offset, nanos⟩
  if (trimStart text).isEmpty && offset.natAbs < 1440 && inRange date && inRange t.date then some t
  else none

def read (s : String) : Option Instant := readChars s.toList

end Switchboard.Timestamp
