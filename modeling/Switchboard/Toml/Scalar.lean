import Switchboard.Calendar.Date
import Switchboard.Json.Value
import Switchboard.Number.Decimal

/-! Bare values of a settings file: numbers, truth values and times. A bare value is a run of
characters between separators, so it is cut out first and judged as a whole. -/
namespace Switchboard.Toml

/-- Digits with single underscores between them, which are dropped. -/
def plainDigits (isDigit : Char → Bool) : List Char → Option (List Char)
  | [] => none
  | [c] => if isDigit c then some [c] else none
  | c :: '_' :: rest => if isDigit c then (plainDigits isDigit rest).map (c :: ·) else none
  | c :: rest => if isDigit c then (plainDigits isDigit rest).map (c :: ·) else none

def wholeDigits (text : List Char) : Option (List Char) :=
  match plainDigits Char.isDigit text with
  | some digits => if digits.head? == some '0' && 1 < text.length then none else some digits
  | none => none

def splitSign : List Char → Bool × List Char
  | '-' :: rest => (true, rest)
  | '+' :: rest => (false, rest)
  | text => (false, text)

def digitValue (c : Char) : Nat :=
  if c.isDigit then c.toNat - '0'.toNat else c.toLower.toNat - 'a'.toNat + 10

def inRange (n : Int) : Bool := -Int.pow 2 63 ≤ n && n < Int.pow 2 63

def inBase (base : Nat) (text : List Char) : Option Int := do
  let isDigit c := c.isAlphanum && digitValue c < base
  let digits ← plainDigits isDigit text
  let value : Int := digits.foldl (fun n c => base * n + digitValue c) 0
  if inRange value then some value else none

def integer? : List Char → Option Int
  | '0' :: 'x' :: rest => inBase 16 rest
  | '0' :: 'o' :: rest => inBase 8 rest
  | '0' :: 'b' :: rest => inBase 2 rest
  | text => do
    let (negative, rest) := splitSign text
    let value : Int := Decimal.digitsValue (← wholeDigits rest)
    let value := if negative then -value else value
    if inRange value then some value else none

def isExponentMark (c : Char) : Bool := c == 'e' || c == 'E'

/-- The digits after a point, with the point, and the exponent with its mark, underscores dropped. -/
def floatTail (text : List Char) : Option (List Char) :=
  let (mantissa, exponent) := (text.takeWhile (! isExponentMark ·), text.dropWhile (! isExponentMark ·))
  do
    let fraction ← match mantissa with
      | [] => some []
      | '.' :: digits => (plainDigits Char.isDigit digits).map ('.' :: ·)
      | _ => none
    let power ← match exponent with
      | [] => some []
      | mark :: rest =>
        let signed := rest.takeWhile fun c => c == '+' || c == '-'
        if 1 < signed.length then none
        else (plainDigits Char.isDigit (rest.drop signed.length)).map fun digits =>
          mark :: signed ++ digits
    if mantissa.isEmpty && exponent.isEmpty then none else some (fraction ++ power)

/-- A number with a point or an exponent. It may not be greater than every double. -/
def float? (text : List Char) : Option Binary64 := do
  let (negative, magnitude) := splitSign text
  match magnitude with
  | ['i', 'n', 'f'] => some (.infinite negative)
  | ['n', 'a', 'n'] => some .notANumber
  | _ =>
    let isWhole c := c != '.' && ! isExponentMark c
    let whole ← wholeDigits (magnitude.takeWhile isWhole)
    let value ← Decimal.readMagnitude negative
      (whole ++ (← floatTail (magnitude.dropWhile isWhole)))
    if value == .infinite false then none else some value

def digits? (count : Nat) (text : List Char) : Option (Nat × List Char) :=
  let digits := text.take count
  if digits.length == count && digits.all Char.isDigit then
    some (Decimal.digitsValue digits, text.drop count)
  else none

def mark? (mark : Char) : List Char → Option (List Char)
  | c :: rest => if c == mark then some rest else none
  | [] => none

def date? (text : List Char) : Option (List Char) := do
  let (year, text) ← digits? 4 text
  let (month, text) ← digits? 2 (← mark? '-' text)
  let (day, text) ← digits? 2 (← mark? '-' text)
  if (Date.mk year month day).isValid then some text else none

def clock? (text : List Char) : Option (List Char) := do
  let (hour, text) ← digits? 2 text
  let (minute, text) ← digits? 2 (← mark? ':' text)
  if hour < 24 && minute < 60 then some text else none

def time? (text : List Char) : Option (List Char) := do
  let (second, text) ← digits? 2 (← mark? ':' (← clock? text))
  if 60 < second then none
  else match text with
    | '.' :: text =>
      let digits := text.takeWhile Char.isDigit
      if digits.isEmpty then none else some (text.drop digits.length)
    | text => some text

def offset? : List Char → Option (List Char)
  | 'Z' :: rest | 'z' :: rest => some rest
  | '+' :: rest | '-' :: rest => clock? rest
  | [] => some []
  | _ => none

def isDate (text : List Char) : Bool := date? text == some []

def isTime (text : List Char) : Bool := time? text == some []

def isOffsetTime (text : List Char) : Bool := (time? text).bind offset? == some []

def isDateTime (text : List Char) : Bool :=
  match date? text with
  | some ('T' :: rest) | some ('t' :: rest) => isOffsetTime rest
  | _ => false

/-- A date or a time is a record of its own, of which no setting knows any part. -/
def moment : Json := .object []

def scalar? (text : List Char) : Option Json :=
  if text == "true".toList then some (.bool true)
  else if text == "false".toList then some (.bool false)
  else if isDate text || isTime text || isDateTime text then some moment
  else match integer? text with
    | some n => some (.integer n)
    | none => (float? text).map .double

def isScalarChar (c : Char) : Bool :=
  c.isAlphanum || c == '+' || c == '-' || c == '.' || c == '_' || c == ':'

/-- A bare value from the front of a text. A blank may join a date and a time. -/
def scalar (text : List Char) : Option (Json × List Char) :=
  let word := text.takeWhile isScalarChar
  let rest := text.drop word.length
  let time := (rest.drop 1).takeWhile isScalarChar
  if isDate word && rest.head? == some ' ' && !time.isEmpty then
    if isOffsetTime time then some (moment, rest.drop (1 + time.length)) else none
  else (scalar? word).map (·, rest)

end Switchboard.Toml
