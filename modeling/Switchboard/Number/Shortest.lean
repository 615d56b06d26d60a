import Switchboard.Number.Binary64

/-! The shortest decimal that reads back as a given double: the fewest digits of which some decimal
lies in the interval of numbers rounding to it, and of these the nearest to it. Arithmetic is exact
on natural numbers. -/
namespace Switchboard.Shortest

inductive Tie
  | toEven
  | up
deriving DecidableEq

/-- The digits after a point, times a power of ten: `0.digits × 10 ^ point`. -/
structure Digits where
  digits : List Char
  point : Int
deriving DecidableEq

/-- Four times the units of the decimal `count × 10 ^ power`, as a quotient. -/
def quarters (count : Nat) (power : Int) : Nat × Nat :=
  match power with
  | .ofNat up => (4 * count * Nat.pow 10 up * Binary64.one, 1)
  | .negSucc down => (4 * count * Binary64.one, Nat.pow 10 (down + 1))

def gap (units : Nat) : Nat := Nat.pow 2 (Nat.log2 units - 52)

/-- The interval that rounds to `units`, in quarter units. Its ends belong to it when the last bit
of `units` is even; below a power of two the gap is half as wide. -/
def readsBack (units count : Nat) (power : Int) : Bool :=
  let gap := gap units
  let below := if units == gap * Nat.pow 2 52 && gap != 1 then gap else 2 * gap
  let (num, den) := quarters count power
  let low := (4 * units - below) * den
  let high := (4 * units + 2 * gap) * den
  if units / gap % 2 == 0 then low ≤ num && num ≤ high else low < num && num < high

def neighbour (units : Nat) (power : Int) : Nat :=
  match power with
  | .ofNat up => units / (Nat.pow 10 up * Binary64.one)
  | .negSucc down => units * Nat.pow 10 (down + 1) / Binary64.one

def nearer (tie : Tie) (units count : Nat) (power : Int) : Nat :=
  let (num, den) := quarters (2 * count + 1) power
  let middle := 8 * units * den
  if middle < num then count
  else if num < middle then count + 1
  else match tie with
    | .up => count + 1
    | .toEven => count + count % 2

def onGrid (tie : Tie) (units : Nat) (power : Int) : Option Nat :=
  let count := neighbour units power
  match readsBack units count power, readsBack units (count + 1) power with
  | true, true => some (nearer tie units count power)
  | true, false => some count
  | false, true => some (count + 1)
  | false, false => none

/-- The places after the point that hold the first digit of every double. -/
def places : Nat := 340

/-- The number of digits before the point, or minus the zeros after it. -/
def magnitude (units : Nat) : Int :=
  (Nat.toDigits 10 (units * Nat.pow 10 places / Binary64.one)).length - places

/-- Tries grids from coarse to fine; seventeen digits always suffice. -/
def search (tie : Tie) (units : Nat) (magnitude : Int) : List Nat → Option (Nat × Int)
  | [] => none
  | length :: finer =>
    match onGrid tie units (magnitude - length) with
    | some count => some (count, magnitude - length)
    | none => search tie units magnitude finer

def ofFound : Option (Nat × Int) → Digits
  | some (count, power) =>
    let digits := Nat.toDigits 10 count
    let trimmed := (digits.reverse.dropWhile (· == '0')).reverse
    ⟨trimmed, digits.length + power⟩
  | none => ⟨[], 0⟩

def ofUnits (tie : Tie) (units : Nat) : Digits :=
  ofFound (search tie units (magnitude units) (List.range' 1 17))

end Switchboard.Shortest
