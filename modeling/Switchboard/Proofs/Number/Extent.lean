import Mathlib.Data.String.Basic
import Mathlib.Tactic.Ring
import Switchboard.Script.Evaluation

/-! How long a number is when it is written. No arithmetic leads out of the range of doubles, and within it
neither end of a decimal runs away: a double has few digits before the point, and a grid whose steps are
less than a quarter of the least gap always holds a decimal that reads back. -/
namespace Switchboard

-- Nothing is to be gained from the digits of these numbers.
attribute [local irreducible] Binary64.one Binary64.limit

namespace Binary64

/-- No larger than the end of the finite range, which rounding to a whole number may reach. -/
inductive InRange : Binary64 → Prop
  | notANumber : InRange notANumber
  | infinite (negative : Bool) : InRange (infinite negative)
  | finite {negative : Bool} {units : Nat} : units ≤ limit → InRange (finite negative units)

theorem exists_limit_eq : ∃ whole, limit = whole * one := ⟨Nat.pow 2 1024, by decide +kernel⟩

theorem nearest_inRange (negative : Bool) (num den : Nat) : (nearest negative num den).InRange := by
  unfold nearest
  dsimp only
  split
  · rename_i within
    exact .finite (Nat.le_of_lt within)
  · exact .infinite _

theorem ofNat_inRange (n : Nat) : (ofNat n).InRange := nearest_inRange ..

theorem zero_inRange (negative : Bool) : (finite negative 0).InRange := .finite (Nat.zero_le limit)

section Arithmetic

variable {x y : Binary64}

theorem neg_inRange (range : x.InRange) : x.neg.InRange := by
  cases range with
  | notANumber => exact .notANumber
  | infinite => exact .infinite _
  | finite within => exact .finite within

theorem add_inRange : (x.add y).InRange := by
  cases x <;> cases y <;> unfold add
  case finite.finite =>
    dsimp only
    split
    · exact zero_inRange _
    · exact nearest_inRange ..
  case infinite.infinite =>
    dsimp only
    split
    · exact .infinite _
    · exact .notANumber
  all_goals first | exact .notANumber | exact .infinite _

theorem mul_inRange : (x.mul y).InRange := by
  cases x <;> cases y <;> unfold mul
  case finite.finite => exact nearest_inRange ..
  case infinite.finite | finite.infinite =>
    dsimp only
    split
    · exact .notANumber
    · exact .infinite _
  all_goals first | exact .notANumber | exact .infinite _

theorem div_inRange : (x.div y).InRange := by
  cases x <;> cases y <;> unfold div
  case finite.finite =>
    dsimp only
    split
    · split
      · exact .notANumber
      · exact .infinite _
    · exact nearest_inRange ..
  case finite.infinite => exact zero_inRange _
  all_goals first | exact .notANumber | exact .infinite _

theorem rem_inRange (range : x.InRange) : (x.rem y).InRange := by
  cases range <;> cases y <;> unfold rem
  case finite.finite m within _ n =>
    dsimp only
    split
    · exact .notANumber
    · exact .finite (Nat.le_trans (Nat.mod_le m n) within)
  case finite.infinite within _ => exact .finite within
  all_goals exact .notANumber

theorem round_inRange (range : x.InRange) : x.round.InRange := by
  cases range with
  | notANumber => exact .notANumber
  | infinite => exact .infinite _
  | @finite negative units within =>
    obtain ⟨top, ends⟩ := exists_limit_eq
    rw [ends] at within
    -- The range ends at a whole number, so nothing within is rounded beyond it.
    have whole : (2 * units + one) / (2 * one) ≤ top := by
      have positive := one_pos
      generalize one = unit at within positive ⊢
      refine Nat.le_of_lt_succ ((Nat.div_lt_iff_lt_mul (by omega)).2 ?_)
      calc 2 * units + unit ≤ 2 * (top * unit) + unit := by omega
        _ < 2 * (top * unit) + 2 * unit := by omega
        _ = (top + 1) * (2 * unit) := by ring
    refine .finite ?_
    rw [ends]
    exact Nat.mul_le_mul_right one whole

end Arithmetic
end Binary64

namespace Decimal

theorem scaled_inRange (negative : Bool) (digits : List Char) (exponent : Int) :
    (scaled negative digits exponent).InRange := by
  unfold scaled
  dsimp only
  split
  · exact Binary64.zero_inRange _
  · split
    · exact .infinite _
    · split <;> exact Binary64.nearest_inRange ..

theorem inRange_of_readChars {text : List Char} {x : Binary64} (read : readChars text = some x) :
    x.InRange := by
  have magnitude {negative : Bool} {text : List Char}
      (read : readMagnitude negative text = some x) : x.InRange := by
    unfold readMagnitude at read
    dsimp only at read
    split at read <;> split at read
    case h_1.isFalse | h_2.isFalse =>
      obtain ⟨exponent, -, rfl⟩ := Option.map_eq_some_iff.1 read
      exact scaled_inRange ..
    all_goals
      split at read <;> cases read <;> first | exact .notANumber | exact .infinite _
  unfold readChars at read
  split at read <;> exact magnitude read

end Decimal

theorem Nat.length_digits_le_iff {n k : Nat} (some_ : 0 < k) :
    (Nat.toDigits 10 n).length ≤ k ↔ n < Nat.pow 10 k :=
  Nat.length_toDigits_le_iff (by decide) some_

namespace Shortest

attribute [local irreducible] places

variable {tie : Tie} {units count length : Nat} {power : Int} {lengths : List Nat}

theorem places_eq : places = 340 := by
  decide +kernel

theorem length_scaled_le_iff {k : Nat} (some_ : 0 < k) :
    (Nat.toDigits 10 (units * Nat.pow 10 places / Binary64.one)).length ≤ k ↔
      units * Nat.pow 10 places < Nat.pow 10 k * Binary64.one :=
  (Nat.length_digits_le_iff some_).trans (Nat.div_lt_iff_lt_mul Binary64.one_pos)

theorem exists_magnitude (units : Nat) : ∃ digits : Nat, magnitude units = digits - places ∧
    units * Nat.pow 10 places < Nat.pow 10 digits * Binary64.one := by
  exact ⟨_, magnitude.eq_1 units, (length_scaled_le_iff Nat.length_toDigits_pos).1 (Nat.le_refl _)⟩

theorem magnitude_ge (some_ : 0 < units) : -323 ≤ magnitude units := by
  have least : Nat.pow 10 16 * Binary64.one ≤ Nat.pow 10 places := by decide +kernel
  have digits : 17 ≤ (Nat.toDigits 10 (units * Nat.pow 10 places / Binary64.one)).length := by
    by_contra few
    have small := (length_scaled_le_iff (k := 16) (by decide)).1 (Nat.le_of_lt_succ (Nat.lt_of_not_le few))
    have large : Nat.pow 10 places ≤ units * Nat.pow 10 places := Nat.le_mul_of_pos_left _ some_
    exact absurd small (Nat.not_lt.2 (Nat.le_trans least large))
  have scale := places_eq
  rw [magnitude]
  omega

theorem magnitude_le (range : units ≤ Binary64.limit) : magnitude units ≤ 309 := by
  have most : Binary64.limit * Nat.pow 10 places < Nat.pow 10 649 * Binary64.one := by decide +kernel
  have small := Nat.lt_of_le_of_lt (Nat.mul_le_mul_right (Nat.pow 10 places) range) most
  have digits := (length_scaled_le_iff (by decide)).2 small
  have scale := places_eq
  rw [magnitude]
  omega

theorem neighbour_lt {digits places : Nat}
    (bound : units * Nat.pow 10 places < Nat.pow 10 digits * Binary64.one)
    (grid : power = (digits : Int) - places - length) : neighbour units power < Nat.pow 10 length := by
  cases power with
  | ofNat up =>
    have total : digits = length + up + places := by
      have := Int.ofNat_eq_natCast up
      omega
    have steps : 0 < Nat.pow 10 up * Binary64.one :=
      Nat.mul_pos (Nat.pow_pos (by decide)) Binary64.one_pos
    refine (Nat.div_lt_iff_lt_mul steps).2 (Nat.lt_of_mul_lt_mul_right (a := Nat.pow 10 places) ?_)
    calc units * Nat.pow 10 places < Nat.pow 10 (length + up + places) * Binary64.one := total ▸ bound
      _ = Nat.pow 10 length * (Nat.pow 10 up * Binary64.one) * Nat.pow 10 places := by
        simp only [Nat.pow_eq, Nat.pow_add]
        ring
  | negSucc down =>
    have total : digits + (down + 1) = length + places := by omega
    refine (Nat.div_lt_iff_lt_mul Binary64.one_pos).2
      (Nat.lt_of_mul_lt_mul_right (a := Nat.pow 10 places) ?_)
    calc units * Nat.pow 10 (down + 1) * Nat.pow 10 places
        = units * Nat.pow 10 places * Nat.pow 10 (down + 1) := Nat.mul_right_comm ..
      _ < Nat.pow 10 digits * Binary64.one * Nat.pow 10 (down + 1) :=
        Nat.mul_lt_mul_of_pos_right bound (Nat.pow_pos (by decide))
      _ = Nat.pow 10 (digits + (down + 1)) * Binary64.one := by
        simp only [Nat.pow_eq, Nat.pow_add]
        ring
      _ = Nat.pow 10 length * Binary64.one * Nat.pow 10 places := by
        rw [total]
        simp only [Nat.pow_eq, Nat.pow_add]
        ring

theorem onGrid_le (found : onGrid tie units power = some count) :
    count ≤ neighbour units power + 1 := by
  unfold onGrid at found
  dsimp only at found
  split at found <;> cases found
  · unfold nearer
    dsimp only
    split
    · omega
    · split
      · omega
      · cases tie <;> dsimp only <;> omega
  · omega
  · omega

theorem search_eq_some {size found : Int} (searched : search tie units size lengths = some (count, found)) :
    ∃ (before : List Nat) (length : Nat) (after : List Nat), lengths = before ++ length :: after ∧
      found = size - length ∧ onGrid tie units found = some count ∧ ∀ shorter ∈ before, onGrid tie units (size - shorter) = none := by
  induction lengths with
  | nil => contradiction
  | cons first finer ih =>
    rw [search] at searched
    split at searched
    · rename_i there
      cases searched
      exact ⟨[], first, finer, rfl, rfl, there, by simp⟩
    · rename_i none_
      obtain ⟨before, length, after, rfl, same, there, none_before⟩ := ih searched
      exact ⟨first :: before, length, after, rfl, same, there, by simpa using ⟨none_, none_before⟩⟩

/-- Where four steps are less than a unit, the decimal below a number is nearer to it than half a gap. -/
theorem below_within {steps one gap width : Nat} (some_ : 0 < units) (positive : 0 < one)
    (fine : 4 * one < steps) (some_gap : 0 < gap) (some_width : 0 < width) :
    (4 * units - width) * steps < 4 * (units * steps / one) * one ∧
      4 * (units * steps / one) * one < (4 * units + 2 * gap) * steps := by
  have below : units * steps / one * one ≤ units * steps := Nat.div_mul_le_self ..
  have above : units * steps < units * steps / one * one + one := by
    rw [← Nat.succ_mul]
    exact (Nat.div_lt_iff_lt_mul positive).1 (Nat.lt_succ_self _)
  have wider : (4 * units - width) * steps ≤ (4 * units - 1) * steps :=
    Nat.mul_le_mul_right steps (by omega)
  rw [Nat.sub_mul (4 * units) 1, Nat.mul_assoc, Nat.one_mul] at wider
  have covers : steps ≤ units * steps := Nat.le_mul_of_pos_left steps some_
  have some_room : 0 < 2 * gap * steps := Nat.mul_pos (by omega) (by omega)
  rw [Nat.mul_assoc 4, Nat.add_mul, Nat.mul_assoc 4]
  omega

theorem readsBack_neighbour {down : Nat} (some_ : 0 < units)
    (fine : 4 * Binary64.one < Nat.pow 10 (down + 1)) :
    readsBack units (neighbour units (.negSucc down)) (.negSucc down) = true := by
  have some_gap : 0 < gap units := Nat.pow_pos (by decide)
  have some_width : 0 < if (units == gap units * Nat.pow 2 52 && gap units != 1) = true then gap units
      else 2 * gap units := by
    split <;> omega
  obtain ⟨above, beneath⟩ := below_within some_ Binary64.one_pos fine some_gap some_width
  unfold readsBack
  dsimp only
  split
  · exact Bool.and_eq_true_iff.2
      ⟨decide_eq_true (Nat.le_of_lt above), decide_eq_true (Nat.le_of_lt beneath)⟩
  · exact Bool.and_eq_true_iff.2 ⟨decide_eq_true above, decide_eq_true beneath⟩

theorem onGrid_finest (some_ : 0 < units) : onGrid tie units (.negSucc 323) ≠ none := by
  have fine : 4 * Binary64.one < Nat.pow 10 (323 + 1) := by decide +kernel
  have reads := readsBack_neighbour some_ fine
  unfold onGrid
  dsimp only
  rw [reads]
  cases readsBack units (neighbour units (.negSucc 323) + 1) (.negSucc 323) <;> simp

theorem search_ge {size : Int} (some_ : 0 < units) (large : -323 ≤ size)
    (searched : search tie units size (List.range' 1 17) = some (count, power)) : -324 ≤ power := by
  by_contra deep
  obtain ⟨before, length, after, lengths, same, -, coarser⟩ := search_eq_some searched
  let finest : Nat := (size + 324).toNat
  have shorter : finest < length := by omega
  have tried : length ∈ List.range' 1 17 := lengths ▸ List.mem_append_right _ List.mem_cons_self
  have within : finest ∈ List.range' 1 17 := by
    rw [List.mem_range'_1] at tried ⊢
    omega
  have ascending : (List.range' 1 17).Pairwise (· < ·) := List.pairwise_lt_range'
  rw [lengths] at within ascending
  have earlier : finest ∈ before := by
    rcases List.mem_append.1 within with earlier | later
    · exact earlier
    · rcases List.mem_cons.1 later with same | later
      · omega
      · have := (List.pairwise_cons.1 (List.pairwise_append.1 ascending).2.1).1 _ later
        omega
  -- On this grid, which was tried earlier, there is a decimal already.
  have grid : size - finest = .negSucc 323 := by omega
  exact onGrid_finest some_ (grid ▸ coarser _ earlier)

theorem search_bounds (some_ : 0 < units) (range : units ≤ Binary64.limit)
    (searched : search tie units (magnitude units) (List.range' 1 17) = some (count, power)) :
    -324 ≤ power ∧ (Nat.toDigits 10 count).length ≤ 18 ∧
      (Nat.toDigits 10 count).length + power ≤ 310 := by
  have large := magnitude_ge some_
  have small := magnitude_le range
  obtain ⟨digits, size, bound⟩ := exists_magnitude units
  generalize magnitude units = magnitude at *
  obtain ⟨before, length, after, lengths, same, found, -⟩ := search_eq_some searched
  have tried : length ∈ List.range' 1 17 := lengths ▸ List.mem_append_right _ List.mem_cons_self
  rw [List.mem_range'_1] at tried
  have few : (Nat.toDigits 10 count).length ≤ length + 1 := by
    refine (Nat.length_digits_le_iff (k := length + 1) (Nat.succ_pos length)).2 ?_
    have near := onGrid_le found
    have fits : neighbour units power < Nat.pow 10 length := neighbour_lt bound (by omega)
    have : Nat.pow 10 (length + 1) = Nat.pow 10 length * 10 := Nat.pow_succ ..
    omega
  exact ⟨search_ge some_ large searched, by omega, by omega⟩

theorem ofFound_digits (found : Option (Nat × Int)) :
    ∀ c ∈ (ofFound found).digits, c.isDigit := by
  intro c member
  cases found with
  | none => contradiction
  | some found =>
    have whole := (List.dropWhile_suffix _).subset (List.mem_reverse.1 member)
    exact Nat.isDigit_of_mem_toDigits (by decide) (by decide) (List.mem_reverse.1 whole)

theorem length_ofFound_le (count : Nat) (power : Int) :
    (ofFound (some (count, power))).digits.length ≤ (Nat.toDigits 10 count).length := by
  have shorter := ((Nat.toDigits 10 count).reverse.dropWhile_suffix (· == '0')).length_le
  simpa [ofFound] using shorter

/-- How far the digits of a double go: how many there are, and how many places stand on either side of
the point. -/
theorem ofUnits_bounds (tie : Tie) (some_ : 0 < units) (range : units ≤ Binary64.limit) :
    (ofUnits tie units).digits.length ≤ 18 ∧ (ofUnits tie units).point ≤ 310 ∧
      (ofUnits tie units).digits.length - (ofUnits tie units).point ≤ 324 := by
  rw [ofUnits]
  cases searched : search tie units (magnitude units) (List.range' 1 17) with
  | none => decide
  | some found =>
    obtain ⟨count, power⟩ := found
    obtain ⟨fine, few, short⟩ := search_bounds some_ range searched
    have shorter := length_ofFound_le count power
    have point : (ofFound (some (count, power))).point = (Nat.toDigits 10 count).length + power := rfl
    omega

end Shortest

/-! Written numbers are of digits, points and signs, so that they have as many bytes as characters. -/

namespace Text

def Narrow (text : List Char) : Prop := ∀ c ∈ text, c.utf8Size = 1

theorem utf8Size_of_isDigit {c : Char} (digit : c.isDigit) : c.utf8Size = 1 := by
  simp only [Char.isDigit, ge_iff_le, Bool.and_eq_true, decide_eq_true_eq, Char.utf8Size] at digit ⊢
  grind

theorem Narrow.utf8ByteSize {text : List Char} (narrow : Narrow text) :
    (String.ofList text).utf8ByteSize = text.length := by
  rw [String.utf8ByteSize_ofList]
  induction text with
  | nil => rfl
  | cons c rest ih =>
    obtain ⟨first, later⟩ := List.forall_mem_cons.1 narrow
    rw [String.utf8Len_cons, ih later, first, List.length_cons]

theorem Narrow.append {front back : List Char} (first : Narrow front) (second : Narrow back) :
    Narrow (front ++ back) :=
  List.forall_mem_append.2 ⟨first, second⟩

end Text

section Written

open Text

variable {digits : List Char} {point : Int} {units : Nat}

theorem NumberStyle.positionalText_narrow (narrow : Narrow digits) :
    Narrow (plain.positionalText digits point) := by
  have padded (count : Nat) : Narrow (List.replicate count '0') :=
    fun c member => List.eq_of_mem_replicate member ▸ rfl
  have pointed : Narrow ['.'] := List.forall_mem_singleton.2 rfl
  have begun : Narrow ['0', '.'] := List.forall_mem_cons.2 ⟨rfl, pointed⟩
  unfold positionalText
  split
  · exact (begun.append (padded _)).append narrow
  · dsimp only
    split
    · exact (narrow.append (padded _)).append (List.forall_mem_nil _)
    · have front : Narrow (digits.take point.toNat) := fun c member =>
        narrow c (List.mem_of_mem_take member)
      have back : Narrow (digits.drop point.toNat) := fun c member =>
        narrow c (List.mem_of_mem_drop member)
      exact (front.append pointed).append back

theorem NumberStyle.length_positionalText_le (few : digits.length ≤ 18) (whole : point ≤ 310)
    (fine : digits.length - point ≤ 324) : (plain.positionalText digits point).length ≤ 326 := by
  have plain_ : plain.keepsPoint = false := rfl
  unfold positionalText
  dsimp only
  split
  · simp only [List.length_append, List.length_cons, List.length_nil, List.length_replicate]
    omega
  · split
    · simp only [plain_, Bool.false_eq_true, if_false, List.length_append, List.length_replicate,
        List.length_nil]
      omega
    · simp only [List.length_append, List.length_take, List.length_drop, List.length_cons,
        List.length_nil]
      omega

theorem NumberStyle.magnitudeText_bounds (range : units ≤ Binary64.limit) :
    Narrow (plain.magnitudeText units) ∧ (plain.magnitudeText units).length ≤ 326 := by
  unfold magnitudeText
  split
  · exact ⟨List.forall_mem_singleton.2 rfl, by decide⟩
  · rename_i some_
    have positive : 0 < units := Nat.pos_of_ne_zero (by simpa using some_)
    obtain ⟨few, whole, fine⟩ := Shortest.ofUnits_bounds plain.tie positive range
    have narrow : Narrow (Shortest.ofUnits plain.tie units).digits := by
      rw [Shortest.ofUnits]
      exact fun c member => utf8Size_of_isDigit (Shortest.ofFound_digits _ c member)
    exact ⟨positionalText_narrow narrow, length_positionalText_le few whole fine⟩

theorem NumberStyle.utf8ByteSize_write_le {n : Binary64} (range : n.InRange) :
    (plain.write n).utf8ByteSize ≤ 327 := by
  cases range with
  | notANumber => decide
  | infinite negative => cases negative <;> decide
  | @finite negative units within =>
    obtain ⟨narrow, short⟩ := magnitudeText_bounds within
    have signed : Narrow (if negative then ['-'] else []) := by
      cases negative
      · exact List.forall_mem_nil _
      · exact List.forall_mem_singleton.2 rfl
    have sign : (if negative then ['-'] else []).length ≤ 1 := by
      cases negative <;> decide
    rw [write, (signed.append narrow).utf8ByteSize, List.length_append]
    omega

end Written

namespace Script

def longestNumber : Nat := 327

theorem utf8ByteSize_plain_le {whole : Nat} (plain : whole < plainLimit) :
    (toString whole).utf8ByteSize ≤ 15 := by
  have narrow : Text.Narrow (Nat.toDigits 10 whole) := fun c member =>
    Text.utf8Size_of_isDigit (Nat.isDigit_of_mem_toDigits (by decide) (by decide) member)
  change (String.ofList (Nat.toDigits 10 whole)).utf8ByteSize ≤ 15
  rw [narrow.utf8ByteSize]
  exact (Nat.length_digits_le_iff (by decide)).2 plain

theorem utf8ByteSize_numberText_le {n : Binary64} (range : n.InRange) :
    (numberText n).utf8ByteSize ≤ longestNumber := by
  unfold numberText
  split
  · rename_i negative units
    split
    · rename_i plain
      obtain ⟨-, small⟩ := Bool.and_eq_true_iff.1 plain
      have whole : units / Binary64.one < plainLimit :=
        (Nat.div_lt_iff_lt_mul Binary64.one_pos).2 (of_decide_eq_true small)
      have short := utf8ByteSize_plain_le whole
      have sign : (if (negative && units / Binary64.one != 0) = true then "-" else "").utf8ByteSize ≤ 1 := by
        split <;> decide
      dsimp only
      rw [String.utf8ByteSize_append]
      exact Nat.le_trans (Nat.add_le_add sign short) (by decide)
    · exact NumberStyle.utf8ByteSize_write_le range
  · exact NumberStyle.utf8ByteSize_write_le range

end Script
end Switchboard
