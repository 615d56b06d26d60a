/-! Double-precision numbers. Every finite double is a whole number of units of 2⁻¹⁰⁷⁴, so a finite
value is a sign and a natural number, sums and remainders are exact integer arithmetic, and only
`nearest` ever rounds. Comparison of finite values is comparison of integers. -/
namespace Switchboard

inductive Binary64
  | notANumber
  | infinite (negative : Bool)
  | finite (negative : Bool) (units : Nat)
deriving DecidableEq, Inhabited

namespace Binary64

def one : Nat := Nat.pow 2 1074

def limit : Nat := Nat.pow 2 2098

theorem one_pos : 0 < one := by
  unfold one
  generalize 1074 = n
  exact Nat.two_pow_pos n

/-- The quotient rounded to a whole number, a half to the even neighbour. -/
def roundEven (num den : Nat) : Nat :=
  let whole := num / den
  let left := 2 * (num % den)
  if left < den then whole
  else if den < left then whole + 1
  else whole + whole % 2

/-- The double nearest to `num / den` units: 53 significant bits, a half to the even neighbour. -/
def nearest (negative : Bool) (num den : Nat) : Binary64 :=
  let spare := Nat.pow 2 (Nat.log2 (num / den) - 52)
  let units := roundEven num (den * spare) * spare
  if units < limit then finite negative units else infinite negative

def ofNat (n : Nat) : Binary64 := nearest false (n * one) 1

def signed (negative : Bool) (units : Nat) : Int := if negative then -(units : Int) else units

def units? : Binary64 → Option Int
  | finite negative units => some (signed negative units)
  | _ => none

def isFinite (x : Binary64) : Bool := x.units?.isSome

def isZero : Binary64 → Bool
  | finite _ units => units == 0
  | _ => false

def isWhole : Binary64 → Bool
  | finite _ units => units % one == 0
  | _ => false

def neg : Binary64 → Binary64
  | notANumber => notANumber
  | infinite negative => infinite !negative
  | finite negative units => finite (!negative) units

/-- A sum of zero is negative only when both terms are. -/
def add : Binary64 → Binary64 → Binary64
  | notANumber, _ | _, notANumber => notANumber
  | infinite a, infinite b => if a == b then infinite a else notANumber
  | infinite a, finite .. => infinite a
  | finite .., infinite b => infinite b
  | finite a m, finite b n =>
    let sum := signed a m + signed b n
    if sum == 0 then finite (a && b) 0 else nearest (sum < 0) sum.natAbs 1

def sub (x y : Binary64) : Binary64 := x.add y.neg

def mul : Binary64 → Binary64 → Binary64
  | notANumber, _ | _, notANumber => notANumber
  | infinite a, infinite b => infinite (a != b)
  | infinite a, finite b n | finite b n, infinite a =>
    if n == 0 then notANumber else infinite (a != b)
  | finite a m, finite b n => nearest (a != b) (m * n) one

def div : Binary64 → Binary64 → Binary64
  | notANumber, _ | _, notANumber => notANumber
  | infinite _, infinite _ => notANumber
  | infinite a, finite b _ => infinite (a != b)
  | finite a _, infinite b => finite (a != b) 0
  | finite a m, finite b n =>
    if n == 0 then (if m == 0 then notANumber else infinite (a != b))
    else nearest (a != b) (m * one) n

/-- The remainder of division toward zero, with the sign of the dividend. -/
def rem : Binary64 → Binary64 → Binary64
  | notANumber, _ | _, notANumber => notANumber
  | infinite _, _ => notANumber
  | finite a m, infinite _ => finite a m
  | finite a m, finite _ n => if n == 0 then notANumber else finite a (m % n)

/-- The nearest whole number, a half away from zero. -/
def round : Binary64 → Binary64
  | finite negative units => finite negative ((2 * units + one) / (2 * one) * one)
  | x => x

end Binary64
end Switchboard
