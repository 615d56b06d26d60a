import Switchboard.Flow.Condition

/-! How values compare. A value is read as the finite number that it writes, or else as the text that it is, and
two values are equal when they read alike. A number is never read as a text, so the two ways of comparing
do not meet, and what is above or below something is as ordered as the numbers are. -/
namespace Switchboard.Comparison

/-- What a value is compared as. -/
inductive Reading
  | number (units : Int)
  | text (value : String)

def reading (value : String) : Reading :=
  match number? value with
  | some units => .number units
  | none => .text value

inductive Reading.Below : Reading → Reading → Prop
  | number : m < n → Below (.number m) (.number n)

section Reading

variable {a b : String} {m n : Int}

theorem reading_eq_number_iff : reading a = .number m ↔ number? a = some m := by
  unfold reading
  cases number? a <;> simp

theorem reading_of_text (text : number? a = none) : reading a = .text a := by
  rw [reading, text]

theorem reading_eq_text (same : reading a = .text b) : a = b := by
  unfold reading at same
  split at same
  · contradiction
  · exact Reading.text.inj same

namespace Reading.Below

variable {x y z : Reading}

theorem irrefl : ¬ x.Below x
  | .number below => Int.lt_irrefl _ below

theorem trans : x.Below y → y.Below z → x.Below z
  | .number first, .number second => .number (Int.lt_trans first second)

end Reading.Below

end Reading

section Holds

variable {a b : String}

theorem holds_of_numbers {m n : Int} (left : number? a = some m) (right : number? b = some n)
    (comparison : Comparison) : comparison.holds a b = comparison.holdsBetween m n := by
  unfold holds
  rw [left, right]

theorem holds_equal_iff : equal.holds a b ↔ reading a = reading b := by
  cases left : number? a with
  | some m =>
    rw [reading_eq_number_iff.2 left]
    cases right : number? b with
    | some n => simp [holds_of_numbers left right, holdsBetween, reading_eq_number_iff.2 right]
    | none =>
      rw [reading_of_text right]
      simp only [holds, left, right, beq_iff_eq, reduceCtorEq, iff_false]
      rintro rfl
      simp [left] at right
  | none =>
    rw [reading_of_text left]
    simp only [holds, left, beq_iff_eq]
    constructor
    · rintro rfl
      exact (reading_of_text left).symm
    · exact fun same => (reading_eq_text same.symm).symm

theorem holds_different : different.holds a b = !equal.holds a b := by
  unfold holds
  split <;> rfl

theorem holds_less_iff : less.holds a b ↔ (reading a).Below (reading b) := by
  constructor
  · intro below
    unfold holds at below
    split at below
    · rename_i m n left right
      rw [reading_eq_number_iff.2 left, reading_eq_number_iff.2 right]
      exact .number (of_decide_eq_true below)
    · contradiction
  · intro below
    generalize first : reading a = x at below
    generalize second : reading b = y at below
    cases below with
    | number below =>
      rw [holds_of_numbers (reading_eq_number_iff.1 first) (reading_eq_number_iff.1 second)]
      exact decide_eq_true below

theorem holds_greater : greater.holds a b = less.holds b a := by
  unfold holds
  cases number? a <;> cases number? b <;> rfl

theorem holds_less_congr {c d : String} (left : equal.holds a c) (right : equal.holds b d) :
    less.holds a b = less.holds c d := by
  rw [Bool.eq_iff_iff, holds_less_iff, holds_less_iff, holds_equal_iff.1 left, holds_equal_iff.1 right]

theorem countP_holdsBetween (m n : Int) : [equal, greater, less].countP (·.holdsBetween m n) = 1 := by
  rcases Int.lt_trichotomy m n with below | same | above
  · simp [holdsBetween, below, Int.ne_of_lt below, Int.lt_asymm below]
  · simp [holdsBetween, same]
  · simp [holdsBetween, above, (Int.ne_of_lt above).symm, Int.lt_asymm above]

theorem countP_holds_of_numbers (left : (number? a).isSome) (right : (number? b).isSome) :
    [equal, greater, less].countP (·.holds a b) = 1 := by
  obtain ⟨m, left⟩ := Option.isSome_iff_exists.1 left
  obtain ⟨n, right⟩ := Option.isSome_iff_exists.1 right
  simp only [holds_of_numbers left right, countP_holdsBetween]

theorem countP_holds_le (a b : String) : [equal, greater, less].countP (·.holds a b) ≤ 1 := by
  by_cases numbers : (number? a).isSome ∧ (number? b).isSome
  · exact Nat.le_of_eq (countP_holds_of_numbers numbers.1 numbers.2)
  · have unordered : greater.holds a b = false ∧ less.holds a b = false := by
      unfold holds
      cases left : number? a <;> cases right : number? b <;> simp_all
    cases same : equal.holds a b <;> simp [same, unordered]

end Holds

/-- To be equal is to read alike, and to be less is to read as a lesser number. So equality is an equivalence
although it compares some values as numbers and others as texts, and the order goes along with it. -/
theorem comparisons_agree :
    (∀ a b, (equal.holds a b ↔ reading a = reading b) ∧ (less.holds a b ↔ (reading a).Below (reading b))) ∧
    Equivalence (fun a b : String => equal.holds a b = true) ∧
    (∀ a b, different.holds a b = !equal.holds a b) ∧
    (∀ a, ¬ greater.holds a a) ∧
    (∀ a b c, greater.holds a b → greater.holds b c → greater.holds a c) ∧
    (∀ a b, greater.holds a b = less.holds b a) ∧
    (∀ a b, [equal, greater, less].countP (·.holds a b) ≤ 1) ∧
    (∀ a b, (number? a).isSome → (number? b).isSome → [equal, greater, less].countP (·.holds a b) = 1) ∧
    ∀ a b c d, equal.holds a c → equal.holds b d →
      greater.holds a b = greater.holds c d ∧ less.holds a b = less.holds c d := by
  refine ⟨fun _ _ => ⟨holds_equal_iff, holds_less_iff⟩, ?_, fun _ _ => holds_different, ?_, ?_,
    fun _ _ => holds_greater, countP_holds_le, fun _ _ => countP_holds_of_numbers, ?_⟩
  · simp only [holds_equal_iff]
    exact ⟨fun _ => rfl, Eq.symm, Eq.trans⟩
  · intro a above
    rw [holds_greater, holds_less_iff] at above
    exact above.irrefl
  · intro a b c first second
    rw [holds_greater, holds_less_iff] at first second ⊢
    exact second.trans first
  · intro a b c d left right
    rw [holds_greater, holds_greater]
    exact ⟨holds_less_congr right left, holds_less_congr left right⟩

/-- Seven is above six however the two are written, and no number is equal to a word. -/
theorem padded_numbers_agree :
    (equal.holds " 7 " "7.0" ∧ equal.holds "6" "0.6e1" ∧ greater.holds " 7 " "6") ∧
      greater.holds "7.0" "0.6e1" ∧ [equal, greater, less].countP (·.holds "7.0" "0.6e1") = 1 ∧
      [equal, greater, less].countP (·.holds "inf" "7.0") ≤ 1 ∧
      different.holds "inf" "7.0" = !equal.holds "inf" "7.0" := by
  obtain ⟨-, -, negates, -, -, -, atMost, exactly, congr⟩ := comparisons_agree
  have above : greater.holds " 7 " "6" := by decide +kernel
  have left : equal.holds " 7 " "7.0" := by decide +kernel
  have right : equal.holds "6" "0.6e1" := by decide +kernel
  exact ⟨⟨left, right, above⟩, (congr _ _ _ _ left right).1 ▸ above,
    exactly _ _ (by decide +kernel) (by decide +kernel), atMost _ _, negates _ _⟩

end Switchboard.Comparison
