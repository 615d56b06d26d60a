import Switchboard.Number.Decimal
import Switchboard.Json.Value

/-! Numbers of a document. Whole numbers that fit a signed or an unsigned 64-bit word stay whole.
Any other number is a double, made from the digits that fit an unsigned word by one
multiplication or division with a power of ten, rounding after each operation. -/
namespace Switchboard.Json

/-- The digits read so far: those that fit, and the power of ten by which they are scaled. -/
structure Significand where
  value : Nat
  exponent : Int
  full : Bool

def Significand.fits (s : Significand) (digit : Char) : Bool :=
  !s.full && 10 * s.value + Decimal.digitValue digit < Nat.pow 2 64

/-- A whole digit that no longer fits still moves the point. -/
def Significand.whole (s : Significand) (digit : Char) : Significand :=
  if s.fits digit then { s with value := 10 * s.value + Decimal.digitValue digit }
  else { s with exponent := s.exponent + 1, full := true }

/-- A digit after the point that no longer fits is dropped. -/
def Significand.fraction (s : Significand) (digit : Char) : Significand :=
  if s.fits digit then
    { s with value := 10 * s.value + Decimal.digitValue digit, exponent := s.exponent - 1 }
  else { s with full := true }

def powerOfTen (n : Nat) : Binary64 := Decimal.scaled false ['1'] n

/-- Powers beyond `10 ^ 308` are divided out in steps; three steps bring every word to zero. -/
def shrink (x : Binary64) (down : Nat) : Binary64 :=
  let steps := (down - 1) / 308
  (Nat.repeat (·.div (powerOfTen 308)) (min steps 3) x).div (powerOfTen (down - 308 * steps))

def Significand.double (s : Significand) (negative : Bool) (exponent : Int) : Option Binary64 :=
  let x := Binary64.ofNat s.value
  let scaled := match s.exponent + exponent with
    | .ofNat up =>
      if up ≤ 308 then x.mul (powerOfTen up)
      else if s.value == 0 then x
      else .infinite false
    | .negSucc down => shrink x (down + 1)
  if scaled.isFinite then some (if negative then scaled.neg else scaled) else none

def readWhole (negative : Bool) (value : Nat) : Json :=
  if negative then
    if value == 0 || Nat.pow 2 63 < value then .double (Binary64.ofNat value).neg
    else .integer (-(value : Int))
  else .integer value

/-- The exponent part, if there is one, must hold a digit. -/
def readExponent : List Char → Option (Option Int)
  | [] => some none
  | rest => (Decimal.readExponent Decimal.digitsValue rest).map some

def startsBadly : List Char → Bool
  | [] => true
  | '0' :: _ :: _ => true
  | _ => false

/-- A number by the grammar of documents: no leading zero, no bare point, no leading plus. -/
def readMagnitude (negative : Bool) (text : List Char) : Option Json := do
  let digits := text.takeWhile Char.isDigit
  if startsBadly digits then none else
  let significand := digits.foldl Significand.whole ⟨0, 0, false⟩
  match text.dropWhile Char.isDigit with
  | '.' :: rest =>
    let places := rest.takeWhile Char.isDigit
    if places.isEmpty then none else
    let exponent ← readExponent (rest.dropWhile Char.isDigit)
    let significand := places.foldl Significand.fraction { significand with full := false }
    return (significand.double negative (exponent.getD 0)).elim .unreadable .double
  | rest =>
    let exponent ← readExponent rest
    if exponent.isNone && !significand.full then return readWhole negative significand.value
    else return (significand.double negative (exponent.getD 0)).elim .unreadable .double

def readNumber : List Char → Option Json
  | '-' :: rest => readMagnitude true rest
  | text => readMagnitude false text

end Switchboard.Json
