import Switchboard.Number.Shortest

/-! How doubles are written. One record says where positional notation ends, whether a whole number
keeps its point, how an exponent is signed and which way a tie between digits goes. -/
namespace Switchboard

structure NumberStyle where
  /-- Positional while the number of digits before the point lies in this range, if there is one. -/
  positional : Option (Int × Int)
  /-- Whole numbers written positionally end in `.0`. -/
  keepsPoint : Bool
  /-- Exponents that are not negative carry a sign. -/
  signsExponent : Bool
  tie : Shortest.Tie

namespace NumberStyle

/-- Numbers in a conversation: never an exponent. -/
def plain : NumberStyle := ⟨none, false, false, .up⟩

def shown : NumberStyle := ⟨some (-3, 16), true, false, .up⟩

def compact : NumberStyle := ⟨some (-4, 16), true, true, .toEven⟩

def positionalText (style : NumberStyle) (digits : List Char) (point : Int) : List Char :=
  if point ≤ 0 then ['0', '.'] ++ List.replicate (-point).toNat '0' ++ digits
  else
    let point := point.toNat
    if digits.length ≤ point then
      digits ++ List.replicate (point - digits.length) '0'
        ++ (if style.keepsPoint then ['.', '0'] else [])
    else digits.take point ++ ['.'] ++ digits.drop point

def exponentText (style : NumberStyle) (digits : List Char) (point : Int) : List Char :=
  let exponent := point - 1
  let sign := if exponent < 0 then ['-'] else if style.signsExponent then ['+'] else []
  digits.take 1 ++ (if digits.length ≤ 1 then [] else ['.'] ++ digits.drop 1)
    ++ ['e'] ++ sign ++ Nat.toDigits 10 exponent.natAbs

def magnitudeText (style : NumberStyle) (units : Nat) : List Char :=
  if units == 0 then (if style.keepsPoint then ['0', '.', '0'] else ['0'])
  else
    let shortest := Shortest.ofUnits style.tie units
    match style.positional with
    | none => style.positionalText shortest.digits shortest.point
    | some (low, high) =>
      if low ≤ shortest.point && shortest.point ≤ high then
        style.positionalText shortest.digits shortest.point
      else style.exponentText shortest.digits shortest.point

def write (style : NumberStyle) : Binary64 → String
  | .notANumber => "NaN"
  | .infinite negative => if negative then "-inf" else "inf"
  | .finite negative units =>
    String.ofList ((if negative then ['-'] else []) ++ style.magnitudeText units)

end NumberStyle
end Switchboard
