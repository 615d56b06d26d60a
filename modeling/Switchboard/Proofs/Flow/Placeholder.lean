import Mathlib.Data.List.Basic
import Mathlib.Data.List.TakeWhile
import Switchboard.Flow.Interpolation

/-! Where the placeholders of a text are. A brace is no character of a name, so placeholders neither overlap nor
contain one another, and a text falls into pieces at them in only one way. Filling it in is joining its
pieces, with values where the placeholders were. The pieces are those of the text alone, so that a value can
neither be a placeholder nor become a part of one. -/
namespace Switchboard.Interpolation

def IsName (name : List Char) : Prop := name ≠ [] ∧ ∀ c ∈ name, Text.isWordChar c

def braced (name : List Char) : List Char := '\x7b' :: (name ++ ['\x7d'])

/-- In the text a placeholder of this name follows on `before`. -/
def Follows (text before name : List Char) : Prop := IsName name ∧ before ++ braced name <+: text

/-- What stands before the first placeholder, and of each placeholder the name and what stands behind it. -/
structure Cut where
  head : List Char
  tail : List (List Char × List Char)

namespace Cut

def names (cut : Cut) : List (List Char) := cut.tail.map Prod.fst

def join (value : List Char → List Char) (cut : Cut) : List Char :=
  cut.head ++ cut.tail.flatMap fun piece => value piece.1 ++ piece.2

/-- The pieces are those of the text, which has no placeholders but these. -/
structure Of (cut : Cut) (text : List Char) : Prop where
  joined : cut.join braced = text
  named : ∀ name ∈ cut.names, IsName name
  all : ∀ before name, Follows text before name → ∃ front behind back,
    cut.tail = front ++ (name, behind) :: back ∧ before = Cut.join braced ⟨cut.head, front⟩

variable {cut other : Cut} {head name behind text before : List Char} {tail : List (List Char × List Char)}
  {value : List Char → List Char}

@[simp] theorem join_nil : join value ⟨head, []⟩ = head := List.append_nil head

@[simp] theorem join_cons :
    join value ⟨head, (name, behind) :: tail⟩ = head ++ value name ++ join value ⟨behind, tail⟩ := by
  simp [join]

theorem join_congr {values : List Char → List Char} (same : ∀ name ∈ cut.names, value name = values name) :
    cut.join value = cut.join values := by
  unfold join
  rw [List.flatMap_congr fun piece member => by rw [same piece.1 (List.mem_map_of_mem member)]]

namespace Of

theorem follows (of : Of ⟨head, (name, behind) :: tail⟩ text) : Follows text head name :=
  ⟨of.named name (.head _), _, by simpa using of.joined⟩

theorem head_prefix (of : cut.Of text) (follows : Follows text before name) : cut.head <+: before := by
  obtain ⟨front, -, -, -, rfl⟩ := of.all before name follows
  exact List.prefix_append ..

theorem rest (of : Of ⟨head, (name, behind) :: tail⟩ text) :
    ∃ rest, head ++ braced name ++ rest = text ∧ Of ⟨behind, tail⟩ rest := by
  refine ⟨join braced ⟨behind, tail⟩, by simpa using of.joined, rfl,
    fun later member => of.named later (.tail _ member), ?_⟩
  intro before later follows
  have within : Follows text (head ++ braced name ++ before) later := by
    refine ⟨follows.1, ?_⟩
    rw [← of.joined, join_cons, List.append_assoc]
    exact (List.prefix_append_right_inj _).2 follows.2
  obtain ⟨front, last, back, pieces, stands⟩ := of.all _ _ within
  cases front with
  | nil => simp [braced] at stands
  | cons piece front =>
    cases pieces
    exact ⟨front, last, back, rfl, by simpa using stands⟩

/-- A text has one cut: the first placeholder of any is the first of every other. -/
theorem unique (of : cut.Of text) (again : other.Of text) : cut = other := by
  obtain ⟨head, tail⟩ := cut
  obtain ⟨start, others⟩ := other
  induction tail generalizing head start others text with
  | nil =>
    cases others with
    | nil => simpa using of.joined.trans again.joined.symm
    | cons piece others =>
      obtain ⟨front, _, _, nothing, -⟩ := of.all _ _ again.follows
      simp at nothing
  | cons piece tail ih =>
    obtain ⟨name, behind⟩ := piece
    obtain ⟨front, next, back, rfl, stands⟩ := again.all _ _ of.follows
    have none_ : front = [] := by
      cases front with
      | nil => rfl
      | cons first front =>
        obtain ⟨_, _⟩ := first
        have shorter : head.length ≤ start.length := (of.head_prefix again.follows).length_le
        have longer := congrArg List.length stands
        simp only [join_cons, List.length_append, braced, List.length_cons] at longer
        omega
    subst none_
    rw [join_nil] at stands
    subst stands
    obtain ⟨rest, joined, of⟩ := of.rest
    obtain ⟨_, joined', again⟩ := again.rest
    cases List.append_cancel_left (joined.trans joined'.symm)
    cases ih _ of _ _ again
    rfl

end Of

end Cut

section Names

variable {name text before rest : List Char} {c : Char}

theorem IsName.open_notMem (isName : IsName name) : '\x7b' ∉ name := fun member => by
  simpa [Text.isWordChar_open] using isName.2 _ member

theorem name?_eq_some_iff : name? text = some name ↔ IsName name ∧ name ++ ['\x7d'] <+: text := by
  constructor
  · intro found
    unfold name? at found
    have whole := List.takeWhile_append_dropWhile (p := Text.isWordChar) (l := text)
    have word : ∀ c ∈ text.takeWhile Text.isWordChar, Text.isWordChar c := fun c => List.mem_takeWhile_imp
    generalize text.takeWhile Text.isWordChar = front at *
    generalize text.dropWhile Text.isWordChar = back at whole
    subst whole
    dsimp only at found
    rw [List.drop_left] at found
    split at found
    · rename_i closed
      cases found
      simp only [Bool.and_eq_true, Bool.not_eq_true', List.isEmpty_eq_false_iff, beq_iff_eq] at closed
      obtain ⟨some_, closed⟩ := closed
      obtain ⟨rest, rfl⟩ := List.head?_eq_some_iff.1 closed
      exact ⟨⟨some_, word⟩, rest, by simp⟩
    · contradiction
  · intro stands
    obtain ⟨⟨some_, word⟩, rest, rfl⟩ := stands
    have reads : (name ++ '\x7d' :: rest).takeWhile Text.isWordChar = name := by
      rw [List.takeWhile_append_of_pos word, List.takeWhile_cons_of_neg (by simp [Text.isWordChar_close]),
        List.append_nil]
    simp [name?, reads, some_]

theorem follows_nil_iff :
    Follows (c :: rest) [] name ↔ c = '\x7b' ∧ name? rest = some name := by
  rw [name?_eq_some_iff, Follows, braced, List.nil_append, List.cons_prefix_cons]
  grind

theorem follows_of_follows_braced {first : List Char} (isName : IsName first)
    (follows : Follows (braced first ++ rest) before name) :
    before = [] ∧ name = first ∨ ∃ later, before = braced first ++ later ∧ Follows rest later name := by
  cases before with
  | nil =>
    have opens : Follows (braced first ++ rest) [] first := ⟨isName, List.prefix_append ..⟩
    have same := (follows_nil_iff.1 follows).2.symm.trans (follows_nil_iff.1 opens).2
    exact .inl ⟨rfl, Option.some.inj same⟩
  | cons c before =>
    obtain ⟨isName', back, joined⟩ := follows
    have whole : c :: (before ++ (braced name ++ back)) = '\x7b' :: (first ++ ['\x7d'] ++ rest) := by
      rwa [List.append_assoc] at joined
    obtain ⟨rfl, split⟩ := List.cons.inj whole
    rcases List.append_eq_append_iff.1 split with ⟨inner, within, behind⟩ | ⟨later, rfl, rfl⟩
    · cases inner with
      | nil =>
        rw [List.append_nil] at within
        exact .inr ⟨[], by simp [braced, within], isName', back, behind⟩
      | cons brace inner =>
        -- the second brace would be a character of the first name
        cases (List.cons.inj behind).1
        have member : '\x7b' ∈ first ++ ['\x7d'] := by simp [within]
        simp [isName.open_notMem] at member
    · exact .inr ⟨later, by simp [braced], isName', back, by simp⟩

end Names

section Filling

variable {bag : Variables} {name text rest : List Char} {c : Char} {cut : Cut}

theorem fill_skip (bag : Variables) (front rest : List Char) :
    fill bag front.length (front ++ rest) = fill bag 0 rest := by
  induction front with
  | nil => rfl
  | cons c front ih => rw [List.length_cons, List.cons_append, fill, ih]

theorem fill_braced (isName : IsName name) :
    fill bag 0 (braced name ++ rest) = replacement bag name ++ fill bag 0 rest := by
  have read : name? (name ++ ['\x7d'] ++ rest) = some name :=
    name?_eq_some_iff.2 ⟨isName, List.prefix_append ..⟩
  have skip := fill_skip bag (name ++ ['\x7d']) rest
  rw [List.length_append, List.length_singleton] at skip
  rw [braced, List.cons_append, fill, if_pos (beq_self_eq_true _), read]
  dsimp only
  rw [skip]

theorem fill_plain (plain : ∀ name, ¬ Follows (c :: rest) [] name) :
    fill bag 0 (c :: rest) = c :: fill bag 0 rest := by
  have unread : (if c == '\x7b' then name? rest else none) = none := by
    rw [Option.eq_none_iff_forall_ne_some]
    intro name read
    split at read
    · rename_i opens
      exact plain name (follows_nil_iff.2 ⟨by simpa using opens, read⟩)
    · contradiction
  rw [fill, unread]

namespace Cut

theorem Of.nil : Of ⟨[], []⟩ [] :=
  ⟨rfl, nofun, fun before name follows => by simp [Follows, Interpolation.braced] at follows⟩

theorem Of.braced (isName : IsName name) (of : cut.Of text) :
    Of ⟨[], (name, cut.head) :: cut.tail⟩ (braced name ++ text) where
  joined := by rw [join_cons, List.nil_append, of.joined]
  named := List.forall_mem_cons.2 ⟨isName, of.named⟩
  all := by
    intro before other follows
    obtain ⟨rfl, rfl⟩ | ⟨later, rfl, inside⟩ := follows_of_follows_braced isName follows
    · exact ⟨[], cut.head, cut.tail, rfl, rfl⟩
    · obtain ⟨front, behind, back, pieces, rfl⟩ := of.all later other inside
      exact ⟨(name, cut.head) :: front, behind, back, by rw [pieces, List.cons_append], by simp⟩

theorem Of.plain (plain : ∀ name, ¬ Follows (c :: text) [] name) (of : cut.Of text) :
    Of ⟨c :: cut.head, cut.tail⟩ (c :: text) where
  joined := congrArg (c :: ·) of.joined
  named := of.named
  all := by
    intro before name follows
    cases before with
    | nil => exact absurd follows (plain name)
    | cons d before =>
      obtain ⟨rfl, within⟩ := List.cons_prefix_cons.1 follows.2
      obtain ⟨front, behind, back, pieces, rfl⟩ := of.all before name ⟨follows.1, within⟩
      exact ⟨front, behind, back, pieces, rfl⟩

end Cut

theorem exists_cut (text : List Char) :
    ∃ cut : Cut, cut.Of text ∧ ∀ bag, fill bag 0 text = cut.join (replacement bag) := by
  induction size : text.length using Nat.strongRecOn generalizing text with
  | ind n ih =>
    subst size
    cases text with
    | nil => exact ⟨_, .nil, fun _ => rfl⟩
    | cons c rest =>
      by_cases opens : ∃ name, Follows (c :: rest) [] name
      · obtain ⟨name, isName, behind, joined⟩ := opens
        rw [List.nil_append] at joined
        have shorter : behind.length < (c :: rest).length := by
          rw [← joined, List.length_append]
          simp [braced]
        obtain ⟨cut, of, fills⟩ := ih _ shorter behind rfl
        refine ⟨_, joined ▸ of.braced isName, fun bag => ?_⟩
        rw [← joined, fill_braced isName, fills, Cut.join_cons, List.nil_append]
      · have plain := not_exists.1 opens
        obtain ⟨cut, of, fills⟩ := ih _ (Nat.lt_succ_self _) rest rfl
        refine ⟨_, of.plain plain, fun bag => ?_⟩
        rw [fill_plain plain, fills]
        rfl

end Filling

theorem replacement_eq (bag : Variables) (name : List Char) : replacement bag name =
    ((bag.get? (String.ofList name)).map String.toList).getD (braced name) := by
  unfold replacement
  cases bag.get? (String.ofList name) <;> rfl

end Interpolation

/-- A text falls into pieces at its placeholders in one way, whatever the variables are. It is filled in by joining
these with the values that the names have, as they are; so only the names that occur count. -/
theorem Variables.interpolate_joins (text : String) :
    (∃! cut : Interpolation.Cut, cut.Of text.toList) ∧
    ∀ cut : Interpolation.Cut, cut.Of text.toList →
      (∀ bag : Variables, bag.interpolate text = String.ofList (cut.join fun name =>
        ((bag.get? (String.ofList name)).map String.toList).getD (Interpolation.braced name))) ∧
      (∀ bag other : Variables,
        (∀ name ∈ cut.names, bag.get? (String.ofList name) = other.get? (String.ofList name)) →
          bag.interpolate text = other.interpolate text) ∧
      (∀ bag : Variables, (∀ name ∈ cut.names, bag.get? (String.ofList name) = none) →
        bag.interpolate text = text) := by
  obtain ⟨cut, of, fills⟩ := Interpolation.exists_cut text.toList
  refine ⟨⟨cut, of, fun _ again => again.unique of⟩, fun again of' => ?_⟩
  cases of'.unique of
  have joins (bag : Variables) : bag.interpolate text = String.ofList (cut.join fun name =>
      ((bag.get? (String.ofList name)).map String.toList).getD (Interpolation.braced name)) := by
    rw [interpolate, fills, funext (Interpolation.replacement_eq bag)]
  refine ⟨joins, fun bag other same => ?_, fun bag none_ => ?_⟩
  · rw [joins, joins, Interpolation.Cut.join_congr fun name member => by rw [same name member]]
  · have unchanged : (cut.join fun name => ((bag.get? (String.ofList name)).map String.toList).getD
        (Interpolation.braced name)) = cut.join Interpolation.braced :=
      Interpolation.Cut.join_congr fun name member => by rw [none_ name member]; rfl
    rw [joins, unchanged, of.joined, String.ofList_toList]

/-- Between two more braces, a value comes to look like a placeholder and yet is none. -/
theorem value_between_braces :
    Interpolation.Cut.Of ⟨['\x7b'], [(['a'], ['\x7d'])]⟩ "\x7b\x7ba\x7d\x7d".toList ∧
      Variables.interpolate (.ofList [("a", "b"), ("b", "c")]) "\x7b\x7ba\x7d\x7d" = "\x7bb\x7d" ∧
      Variables.interpolate (.ofList [("b", "c")]) "\x7b\x7ba\x7d\x7d" = "\x7b\x7ba\x7d\x7d" := by
  have closing : Interpolation.Cut.Of ⟨['\x7d'], []⟩ ['\x7d'] :=
    .plain (fun name follows => by simp [Interpolation.follows_nil_iff, Interpolation.name?] at follows) .nil
  have named : Interpolation.IsName ['a'] := ⟨nofun, List.forall_mem_singleton.2 rfl⟩
  have of : Interpolation.Cut.Of ⟨['\x7b'], [(['a'], ['\x7d'])]⟩ "\x7b\x7ba\x7d\x7d".toList := by
    refine .plain (fun name follows => ?_) (closing.braced named)
    have none_ : Interpolation.name? (Interpolation.braced ['a'] ++ ['\x7d']) = none := rfl
    simp [Interpolation.follows_nil_iff, none_] at follows
  obtain ⟨joins, -, unchanged⟩ := (Variables.interpolate_joins _).2 _ of
  refine ⟨of, joins _, unchanged _ ?_⟩
  simp [Interpolation.Cut.names, Dict.ofList, Dict.setAll, Dict.get?_set]

end Switchboard
