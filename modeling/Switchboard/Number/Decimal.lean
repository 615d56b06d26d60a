import Switchboard.Number.Binary64

/-! Reading a double from decimal text: an optional sign, digits with at most one point, and an
optional exponent, or one of the three names. The value is the double nearest to the decimal. -/
namespace Switchboard.Decimal

def digitValue (c : Char) : Nat := c.toNat - '0'.toNat

def digitsValue (digits : List Char) : Nat :=
  digits.foldl (fun value c => 10 * value + digitValue c) 0

/-- Exponents beyond every double need not be read to their end. -/
def exponentValue (digits : List Char) : Nat :=
  digits.foldl (fun value c => if value < 65536 then 10 * value + digitValue c else value) 0

/-- The double nearest to the digits times a power of ten. Decimals beyond the range on either
side are settled by their magnitude, so no larger power is ever computed. -/
def scaled (negative : Bool) (digits : List Char) (exponent : Int) : Binary64 :=
  let digits := digits.dropWhile (· == '0')
  let magnitude := digits.length + exponent
  if digits.isEmpty || magnitude < -330 then .finite negative 0
  else if 310 < magnitude then .infinite negative
  else match exponent with
    | .ofNat up => .nearest negative (digitsValue digits * Nat.pow 10 up * Binary64.one) 1
    | .negSucc down => .nearest negative (digitsValue digits * Binary64.one) (Nat.pow 10 (down + 1))

def readExponent (value : List Char → Nat) : List Char → Option Int
  | [] => some 0
  | e :: rest =>
    if e != 'e' && e != 'E' then none
    else
      let (negative, digits) := match rest with
        | '-' :: digits => (true, digits)
        | '+' :: digits => (false, digits)
        | digits => (false, digits)
      if digits.isEmpty || !digits.all Char.isDigit then none
      else some (if negative then -(value digits : Int) else value digits)

def readMagnitude (negative : Bool) (text : List Char) : Option Binary64 :=
  let whole := text.takeWhile Char.isDigit
  let (fraction, rest) := match text.dropWhile Char.isDigit with
    | '.' :: rest => (rest.takeWhile Char.isDigit, rest.dropWhile Char.isDigit)
    | rest => ([], rest)
  if whole.isEmpty && fraction.isEmpty then
    match String.ofList (text.map Char.toLower) with
    | "nan" => some .notANumber
    | "inf" | "infinity" => some (.infinite negative)
    | _ => none
  else (readExponent exponentValue rest).map fun exponent =>
    scaled negative (whole ++ fraction) (exponent - fraction.length)

def readChars : List Char → Option Binary64
  | '-' :: rest => readMagnitude true rest
  | '+' :: rest => readMagnitude false rest
  | text => readMagnitude false text

def read (s : String) : Option Binary64 := readChars s.toList

def readFinite (s : String) : Option Binary64 := (read s).filter Binary64.isFinite

end Switchboard.Decimal
