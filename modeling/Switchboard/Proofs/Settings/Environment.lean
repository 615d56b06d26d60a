import Mathlib.Data.List.TakeWhile
import Switchboard.Proofs.Flow.Placeholder
import Switchboard.Settings.Environment

/-! Which names of the environment a text of settings means. The scan takes an opening mark together with the next
closing brace, so that a mark which nothing closes takes the brace of the next one, and what stands there is
not a name that is set. Everything else is as it should be: a name counts wherever no open mark stands before
it, a text falls into pieces at these names in one way, and these are joined with the values between them. -/
namespace Switchboard.Environment

open Interpolation (Cut)

/-- In the text, the name of a variable that is set follows on `before`. -/
def Refers (environment : String → Option String) (text before name : List Char) : Prop :=
  (environment (String.ofList name)).isSome ∧ before ++ mark name <+: text

/-- An opening mark stands here that no brace has closed. -/
def Opened (before : List Char) : Prop :=
  ∃ front behind, before = front ++ '$' :: '\x7b' :: behind ∧ '\x7d' ∉ behind

/-- The name stands where no earlier mark is open. -/
def RefersClearly (environment : String → Option String) (text before name : List Char) : Prop :=
  Refers environment text before name ∧ ¬ Opened before

/-- No variable has a name that a brace would close before its end. -/
def NamesClose (environment : String → Option String) : Prop :=
  ∀ name, (environment (String.ofList name)).isSome → '\x7d' ∉ name

/-- The text is cut at these places, each given by what stands before it and the name, and at no others. -/
structure Divides (places : List Char → List Char → Prop) (text : List Char) (cut : Cut) : Prop where
  joined : cut.join mark = text
  exactly : ∀ before name, places before name ↔ ∃ front behind back,
    cut.tail = front ++ (name, behind) :: back ∧ before = Cut.join mark ⟨cut.head, front⟩

def value (environment : String → Option String) (name : List Char) : List Char :=
  ((environment (String.ofList name)).map String.toList).getD (mark name)

variable {environment : String → Option String} {text rest front before later name other : List Char} {c : Char}
  {places inner : List Char → List Char → Prop} {cut division : Cut}

section Pieces

theorem mark_eq : mark name = '$' :: '\x7b' :: (name ++ ['\x7d']) := rfl

theorem length_mark : (mark name).length = name.length + 3 := by simp [mark]

theorem Divides.nil (nowhere : ∀ before name, ¬ places before name) : Divides places text ⟨text, []⟩ where
  joined := Cut.join_nil
  exactly before name := by simp [nowhere]

theorem Divides.behind (divides : Divides inner rest cut)
    (shifted : ∀ before name, places before name ↔ ∃ later, before = front ++ later ∧ inner later name) :
    Divides places (front ++ rest) ⟨front ++ cut.head, cut.tail⟩ where
  joined := by rw [← divides.joined, Cut.join, List.append_assoc]; rfl
  exactly before name := by
    rw [shifted]
    constructor
    · rintro ⟨later, rfl, place⟩
      obtain ⟨pieces, behind, back, tail, rfl⟩ := (divides.exactly later name).1 place
      exact ⟨pieces, behind, back, tail, by simp [Cut.join]⟩
    · rintro ⟨pieces, behind, back, tail, rfl⟩
      exact ⟨Cut.join mark ⟨cut.head, pieces⟩, by simp [Cut.join],
        (divides.exactly _ name).2 ⟨pieces, behind, back, tail, rfl⟩⟩

theorem Divides.behind_mark (divides : Divides inner rest cut)
    (shifted : ∀ before other, places before other ↔
      before = [] ∧ other = name ∨ ∃ later, before = mark name ++ later ∧ inner later other) :
    Divides places (mark name ++ rest) ⟨[], (name, cut.head) :: cut.tail⟩ where
  joined := by rw [Cut.join_cons, List.nil_append, divides.joined]
  exactly before other := by
    rw [shifted]
    constructor
    · rintro (⟨rfl, rfl⟩ | ⟨later, rfl, place⟩)
      · exact ⟨[], cut.head, cut.tail, rfl, rfl⟩
      · obtain ⟨pieces, behind, back, tail, rfl⟩ := (divides.exactly later other).1 place
        exact ⟨(name, cut.head) :: pieces, behind, back, congrArg (_ :: ·) tail, by simp⟩
    · rintro ⟨pieces, behind, back, tail, rfl⟩
      cases pieces with
      | nil =>
        cases tail
        exact .inl ⟨rfl, rfl⟩
      | cons piece pieces =>
        obtain ⟨rfl, further⟩ := List.cons.inj tail
        refine .inr ⟨Cut.join mark ⟨cut.head, pieces⟩, by simp, ?_⟩
        exact (divides.exactly _ other).2 ⟨pieces, behind, back, further, rfl⟩

theorem Divides.behind_first {head behind : List Char} {tail : List (List Char × List Char)}
    (divides : Divides places text ⟨head, (name, behind) :: tail⟩) :
    Divides (fun later other => places (head ++ mark name ++ later) other)
      (Cut.join mark ⟨behind, tail⟩) ⟨behind, tail⟩ where
  joined := rfl
  exactly later other := by
    rw [divides.exactly]
    constructor
    · rintro ⟨pieces, last, back, all, stands⟩
      cases pieces with
      | nil => simp [mark] at stands
      | cons piece pieces =>
        obtain ⟨rfl, further⟩ := List.cons.inj all
        exact ⟨pieces, last, back, further, by simpa using stands⟩
    · rintro ⟨pieces, last, back, all, rfl⟩
      exact ⟨(name, behind) :: pieces, last, back, congrArg (_ :: ·) all, by simp⟩

theorem Divides.place_first {head behind : List Char} {tail : List (List Char × List Char)}
    (divides : Divides places text ⟨head, (name, behind) :: tail⟩) : places head name :=
  (divides.exactly head name).2 ⟨[], behind, tail, rfl, by simp⟩

theorem Divides.head_prefix (divides : Divides places text cut) (place : places before name) :
    cut.head <+: before := by
  obtain ⟨pieces, -, -, -, rfl⟩ := (divides.exactly before name).1 place
  exact List.prefix_append ..

/-- A text is divided at given places in one way: the first place of one division is the first of the other. -/
theorem Divides.unique (divides : Divides places text cut) (again : Divides places text division) :
    cut = division := by
  obtain ⟨head, tail⟩ := cut
  obtain ⟨start, others⟩ := division
  induction tail generalizing head start others text places with
  | nil =>
    cases others with
    | nil => simpa using divides.joined.trans again.joined.symm
    | cons piece others =>
      obtain ⟨pieces, _, _, nothing, -⟩ := (divides.exactly _ _).1 again.place_first
      simp at nothing
  | cons piece tail ih =>
    obtain ⟨name, behind⟩ := piece
    obtain ⟨pieces, next, back, rfl, stands⟩ := (again.exactly _ _).1 divides.place_first
    have first : pieces = [] := by
      cases pieces with
      | nil => rfl
      | cons piece pieces =>
        obtain ⟨_, _⟩ := piece
        have shorter := (divides.head_prefix again.place_first).length_le
        have longer := congrArg List.length stands
        simp only [Cut.join_cons, List.length_append, length_mark] at shorter longer
        omega
    subst first
    rw [Cut.join_nil] at stands
    subst stands
    have joined := divides.joined.trans again.joined.symm
    rw [List.nil_append, Cut.join_cons, Cut.join_cons] at joined
    have further := again.behind_first
    rw [← List.append_cancel_left joined] at further
    cases ih _ divides.behind_first _ _ further
    rfl

end Pieces

section Marks

theorem name?_eq_some_iff : name? text = some name ↔ '\x7d' ∉ name ∧ name ++ ['\x7d'] <+: text := by
  constructor
  · intro found
    unfold name? at found
    have whole := List.takeWhile_append_dropWhile (p := (· != '\x7d')) (l := text)
    have ends := List.head?_dropWhile_not (· != '\x7d') text
    have closes : '\x7d' ∉ text.takeWhile (· != '\x7d') := fun member => by
      simpa using List.mem_takeWhile_imp member
    generalize text.takeWhile (· != '\x7d') = front at *
    generalize text.dropWhile (· != '\x7d') = back at *
    subst whole
    cases back with
    | nil => simp at found
    | cons c back =>
      obtain rfl : c = '\x7d' := by simpa using ends
      rw [if_pos (by simp), Option.some.injEq] at found
      subst found
      exact ⟨closes, back, by simp⟩
  · intro stands
    obtain ⟨closes, rest, rfl⟩ := stands
    have inside : ∀ c ∈ name, (c != '\x7d') = true := by
      intro c member
      rw [bne_iff_ne]
      rintro rfl
      exact closes member
    have reads : (name ++ '\x7d' :: rest).takeWhile (· != '\x7d') = name := by
      rw [List.takeWhile_append_of_pos inside, List.takeWhile_cons_of_neg (by simp), List.append_nil]
    simp [name?, reads]

theorem expandFrom_skip (front rest : List Char) :
    expandFrom environment front.length (front ++ rest) = expandFrom environment 0 rest := by
  induction front with
  | nil => rfl
  | cons c front ih => rw [List.length_cons, List.cons_append, expandFrom, ih]

theorem expandFrom_mark (closes : '\x7d' ∉ name) :
    expandFrom environment 0 (mark name ++ rest) = value environment name ++ expandFrom environment 0 rest := by
  have read : name? (name ++ ['\x7d'] ++ rest) = some name :=
    name?_eq_some_iff.2 ⟨closes, List.prefix_append ..⟩
  have skip : expandFrom environment _ _ = _ := expandFrom_skip ('\x7b' :: (name ++ ['\x7d'])) rest
  rw [List.length_cons, List.length_append, List.length_singleton] at skip
  rw [mark_eq, List.cons_append, expandFrom, List.cons_append, List.head?_cons, List.drop_one, List.tail_cons, read,
    if_pos (by simp)]
  dsimp only
  rw [← skip]
  rfl

theorem expandFrom_cons (plain : ∀ name, '\x7d' ∉ name → ¬ mark name <+: c :: rest) :
    expandFrom environment 0 (c :: rest) = c :: expandFrom environment 0 rest := by
  have unread : (if c == '$' && rest.head? == some '\x7b' then name? (rest.drop 1) else none) = none := by
    rw [Option.eq_none_iff_forall_ne_some]
    intro name read
    split at read
    · rename_i opens
      rw [Bool.and_eq_true, beq_iff_eq, beq_iff_eq] at opens
      obtain ⟨rfl, brace⟩ := opens
      obtain ⟨behind, rfl⟩ := List.head?_eq_some_iff.1 brace
      obtain ⟨closes, stands⟩ := name?_eq_some_iff.1 read
      exact plain name closes (by simpa [mark_eq] using stands)
    · contradiction
  rw [expandFrom, unread]

end Marks

section Places

theorem opened_append_iff : Opened (front ++ '\x7d' :: later) ↔ Opened later := by
  constructor
  · rintro ⟨head, behind, joined, closes⟩
    obtain ⟨inner, rfl, split⟩ | ⟨inner, rfl, split⟩ := List.append_eq_append_iff.1 joined
    · cases inner with
      | nil => simp at split
      | cons c inner =>
        obtain ⟨-, rfl⟩ := List.cons.inj split
        exact ⟨inner, behind, rfl, closes⟩
    · -- the closing brace would stand behind the opening mark
      cases inner with
      | nil => simp at split
      | cons c inner =>
        cases inner with
        | nil => simp at split
        | cons d inner =>
          obtain ⟨-, split⟩ := List.cons.inj split
          obtain ⟨-, rfl⟩ := List.cons.inj split
          simp at closes
  · rintro ⟨head, behind, rfl, closes⟩
    exact ⟨front ++ '\x7d' :: head, behind, by simp, closes⟩

theorem Opened.cons (opened : Opened later) : Opened (c :: later) := by
  obtain ⟨head, behind, rfl, closes⟩ := opened
  exact ⟨c :: head, behind, rfl, closes⟩

theorem opened_mark_iff : Opened (mark name ++ later) ↔ Opened later := by
  have split : mark name ++ later = '$' :: '\x7b' :: name ++ '\x7d' :: later := by simp [mark]
  rw [split, opened_append_iff]

theorem refers_append_iff :
    Refers environment (front ++ rest) (front ++ later) name ↔ Refers environment rest later name := by
  unfold Refers
  rw [List.append_assoc, List.prefix_append_right_inj]

theorem not_refersClearly_nil : ¬ RefersClearly environment [] before name := by
  rintro ⟨⟨-, stands⟩, -⟩
  simp [mark] at stands

theorem eq_of_mark (closes : '\x7d' ∉ name) (closes' : '\x7d' ∉ other)
    (stands : mark other <+: mark name ++ rest) : other = name := by
  have one : name? (name ++ ['\x7d'] ++ rest) = some name := name?_eq_some_iff.2 ⟨closes, List.prefix_append ..⟩
  have two : name? (name ++ ['\x7d'] ++ rest) = some other :=
    name?_eq_some_iff.2 ⟨closes', by simpa [mark_eq] using stands⟩
  exact Option.some.inj (two.symm.trans one)

/-- Inside a mark nothing stands clearly, since the mark is open there. -/
theorem stands_behind_mark (closes : '\x7d' ∉ name) (closes' : '\x7d' ∉ other) (clear : ¬ Opened before)
    (stands : before ++ mark other <+: mark name ++ rest) :
    before = [] ∧ other = name ∨ ∃ later, before = mark name ++ later := by
  obtain ⟨back, joined⟩ := stands
  rw [List.append_assoc] at joined
  obtain ⟨inner, within, behind⟩ | ⟨later, split, -⟩ := List.append_eq_append_iff.1 joined
  · cases before with
    | nil => exact .inl ⟨rfl, eq_of_mark closes closes' ⟨back, joined⟩⟩
    | cons c before =>
      obtain ⟨rfl, ends⟩ := List.cons.inj within
      cases inner with
      | nil => exact .inr ⟨[], by rw [List.append_nil, within, List.append_nil]⟩
      | cons d inner =>
        obtain ⟨rfl, -⟩ := List.cons.inj behind
        cases before with
        | nil => exact absurd (List.cons.inj ends).1 (by decide)
        | cons e before =>
          obtain ⟨rfl, tail⟩ := List.cons.inj ends
          refine absurd ⟨[], before, rfl, fun member => ?_⟩ clear
          -- the only brace of a mark is its last character
          have front : before ++ '$' :: inner = name ++ ['\x7d'] := tail.symm
          obtain ⟨_, rfl, -⟩ | ⟨further, -, last⟩ := List.append_eq_append_iff.1 front
          · exact closes (List.mem_append_left _ member)
          · cases further <;> simp at last
  · exact .inr ⟨later, split⟩

theorem refersClearly_mark_iff (close : NamesClose environment) (closes : '\x7d' ∉ name) :
    RefersClearly environment (mark name ++ rest) before other ↔
      (before = [] ∧ other = name ∧ (environment (String.ofList name)).isSome) ∨
      ∃ later, before = mark name ++ later ∧ RefersClearly environment rest later other := by
  constructor
  · rintro ⟨⟨set, stands⟩, clear⟩
    obtain ⟨rfl, rfl⟩ | ⟨later, rfl⟩ := stands_behind_mark closes (close other set) clear stands
    · exact .inl ⟨rfl, rfl, set⟩
    · rw [opened_mark_iff] at clear
      exact .inr ⟨later, rfl, refers_append_iff.1 ⟨set, stands⟩, clear⟩
  · rintro (⟨rfl, rfl, set⟩ | ⟨later, rfl, refers, clear⟩)
    · exact ⟨⟨set, List.prefix_append ..⟩, by simp [Opened]⟩
    · exact ⟨refers_append_iff.2 refers, opened_mark_iff.not.2 clear⟩

theorem refersClearly_cons_iff (close : NamesClose environment)
    (plain : ∀ name, '\x7d' ∉ name → ¬ mark name <+: c :: rest) :
    RefersClearly environment (c :: rest) before other ↔
      ∃ later, before = [c] ++ later ∧ RefersClearly environment rest later other := by
  constructor
  · rintro ⟨⟨set, stands⟩, clear⟩
    cases before with
    | nil => exact absurd stands (plain other (close other set))
    | cons d before =>
      obtain ⟨rfl, within⟩ := List.cons_prefix_cons.1 stands
      exact ⟨before, rfl, ⟨set, within⟩, fun opened => clear opened.cons⟩
  · rintro ⟨later, rfl, refers, clear⟩
    refine ⟨refers_append_iff.2 refers, ?_⟩
    rintro ⟨head, behind, opens, closes⟩
    cases head with
    | cons d head =>
      obtain ⟨-, rfl⟩ := List.cons.inj opens
      exact clear ⟨head, behind, rfl, closes⟩
    | nil =>
      -- the open mark takes the brace of this name, and so it is a mark at the front
      obtain ⟨rfl, rfl⟩ := List.cons.inj opens
      obtain ⟨set, back, joined⟩ := refers
      refine plain (behind ++ '$' :: '\x7b' :: other) ?_ ⟨back, ?_⟩
      · simp [closes, close other set]
      · rw [← joined]
        simp [mark]

end Places

section Expanding

theorem exists_division (close : NamesClose environment) (text : List Char) :
    ∃ cut, Divides (RefersClearly environment text) text cut ∧
      expandFrom environment 0 text = cut.join (value environment) := by
  induction size : text.length using Nat.strongRecOn generalizing text with
  | ind n ih =>
    subst size
    cases text with
    | nil => exact ⟨_, .nil fun _ _ => not_refersClearly_nil, rfl⟩
    | cons c rest =>
      by_cases opens : ∃ name, '\x7d' ∉ name ∧ mark name <+: c :: rest
      · obtain ⟨name, closes, behind, joined⟩ := opens
        have shorter : behind.length < (c :: rest).length := by
          rw [← joined, List.length_append, length_mark]
          omega
        obtain ⟨cut, divides, expands⟩ := ih _ shorter behind rfl
        rw [← joined, expandFrom_mark closes, expands]
        cases set : environment (String.ofList name) with
        | some found =>
          refine ⟨_, divides.behind_mark fun before other => ?_, ?_⟩
          · rw [refersClearly_mark_iff close closes, set]
            simp
          · rw [Cut.join_cons, List.nil_append]
        | none =>
          refine ⟨_, divides.behind fun before other => ?_, ?_⟩
          · rw [refersClearly_mark_iff close closes, set]
            simp
          · simp [value, set, Cut.join]
      · have plain : ∀ name, '\x7d' ∉ name → ¬ mark name <+: c :: rest := fun name closes stands =>
          opens ⟨name, closes, stands⟩
        obtain ⟨cut, divides, expands⟩ := ih _ (Nat.lt_succ_self _) rest rfl
        refine ⟨_, divides.behind fun before other => refersClearly_cons_iff close plain, ?_⟩
        rw [expandFrom_cons plain, expands]
        rfl

/-- A text falls into pieces in one way at the names that are set and stand where no mark is open, and these are
joined with the values of the names between them. Where no open mark stands before a name that is set, this is
a replacement of all of them. -/
theorem expand_joins_clear_names (close : NamesClose environment) (text : String) :
    ∃ cut, Divides (RefersClearly environment text.toList) text.toList cut ∧
      (∀ division, Divides (RefersClearly environment text.toList) text.toList division → division = cut) ∧
      expand environment text = String.ofList (cut.join (value environment)) ∧
      ((∀ before name, Refers environment text.toList before name → ¬ Opened before) →
        Divides (Refers environment text.toList) text.toList cut) := by
  obtain ⟨cut, divides, expands⟩ := exists_division close text.toList
  refine ⟨cut, divides, fun division again => again.unique divides, congrArg String.ofList expands, fun clear => ?_⟩
  refine ⟨divides.joined, fun before name => ?_⟩
  rw [← divides.exactly]
  exact ⟨fun refers => ⟨refers, clear before name refers⟩, And.left⟩

def twoSet (name : String) : Option String :=
  if name == "A" then some "$\x7bB\x7d" else if name == "B" then some "x" else none

theorem set_of_twoSet (set : (twoSet (String.ofList name)).isSome) : name = ['A'] ∨ name = ['B'] := by
  unfold twoSet at set
  split at set
  · rename_i found
    exact .inl (String.ofList_injective (eq_of_beq found))
  · split at set
    · rename_i found
      exact .inr (String.ofList_injective (eq_of_beq found))
    · contradiction

theorem twoSet_closes : NamesClose twoSet := by
  intro name set
  obtain rfl | rfl := set_of_twoSet set <;> decide

theorem Refers.at_place (refers : Refers environment text before name) :
    ∃ place < text.length, before = text.take place ∧ mark name <+: text.drop place := by
  obtain ⟨-, rest, rfl⟩ := refers
  exact ⟨before.length, by simp [mark], by simp, by simp⟩

/-- A value is not expanded, and a name that is not set stays. -/
theorem expand_twoSet :
    NamesClose twoSet ∧ ∃ cut, Divides (Refers twoSet "$\x7bA\x7d-$\x7bC\x7d-$\x7bB\x7d".toList)
        "$\x7bA\x7d-$\x7bC\x7d-$\x7bB\x7d".toList cut ∧
      expand twoSet "$\x7bA\x7d-$\x7bC\x7d-$\x7bB\x7d" = String.ofList (cut.join (value twoSet)) ∧
      String.ofList (cut.join (value twoSet)) = "$\x7bB\x7d-$\x7bC\x7d-x" := by
  obtain ⟨cut, -, -, expands, all⟩ :=
    expand_joins_clear_names twoSet_closes "$\x7bA\x7d-$\x7bC\x7d-$\x7bB\x7d"
  refine ⟨twoSet_closes, cut, all fun before name refers => ?_, expands, expands ▸ by decide⟩
  have places : before = [] ∨ before = "$\x7bA\x7d-$\x7bC".toList ++ '\x7d' :: ['-'] := by
    obtain ⟨place, within, rfl, stands⟩ := refers.at_place
    have name_set := refers.1
    clear refers
    obtain rfl | rfl := set_of_twoSet name_set <;> clear name_set <;> revert place <;> decide
  obtain rfl | rfl := places
  · simp [Opened]
  · rw [opened_append_iff]
    rintro ⟨head, behind, joined, -⟩
    have size := congrArg List.length joined
    simp only [List.length_append, List.length_cons, List.length_nil] at size
    omega

/-- The open mark takes the brace of the name behind it, which is set. -/
theorem name_behind_open_mark : ∃ cut,
    NamesClose twoSet ∧ Divides (Refers twoSet "$\x7bOPEN $\x7bA\x7d".toList) "$\x7bOPEN $\x7bA\x7d".toList cut ∧
      expand twoSet "$\x7bOPEN $\x7bA\x7d" ≠ String.ofList (cut.join (value twoSet)) := by
  refine ⟨⟨"$\x7bOPEN ".toList, [(['A'], [])]⟩, twoSet_closes, ⟨by decide, fun before name => ⟨fun refers => ?_, ?_⟩⟩,
    by decide⟩
  · obtain ⟨place, within, rfl, stands⟩ := refers.at_place
    have name_set := refers.1
    clear refers
    obtain rfl | rfl := set_of_twoSet name_set
    · obtain rfl : place = 7 := by
        clear name_set
        revert place
        decide
      exact ⟨[], [], [], rfl, rfl⟩
    · exfalso
      clear name_set
      revert place
      decide
  · rintro ⟨front, behind, back, tail, rfl⟩
    cases front with
    | nil =>
      cases tail
      exact ⟨by decide, by decide⟩
    | cons piece front => simp at tail

end Expanding

end Switchboard.Environment
