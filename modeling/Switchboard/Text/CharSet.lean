/-! Sets of characters as the sorted code points at which membership flips, so that a Unicode
property is one list of numbers and membership is a parity. -/
namespace Switchboard.Text

/-- The characters at or after an odd number of `flips`. -/
structure CharSet where
  flips : List Nat

def CharSet.inside (code : Nat) : List Nat → Bool
  | [] => false
  | flip :: rest => if code < flip then false else !inside code rest

def CharSet.contains (set : CharSet) (c : Char) : Bool :=
  CharSet.inside c.toNat set.flips

end Switchboard.Text
