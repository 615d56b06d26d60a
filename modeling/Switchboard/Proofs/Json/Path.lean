import Switchboard.Json.Path
import Switchboard.Proofs.Json.Members

/-! Paths and the places to which they lead. Keys and indices joined by dots are cut at the same dots again, and
what a part means is decided by the value that it is met at; so every place is found under its own
name, and a path is followed part by part. -/
namespace Switchboard.Json

/-- A step from a value to one that it holds. A key with a dot in it could not be told from two keys, and an index
is a word. -/
inductive Step
  | key (name : String) (plain : '.' ∉ name.toList)
  | index (count : UInt64)

def Step.written : Step → String
  | key name _ => name
  | index count => Nat.repr count.toNat

def dotted (steps : List Step) : String := ".".intercalate (steps.map Step.written)

/-- The steps lead from the document to the value. Of several members of one name the last is meant. -/
inductive Leads : Json → List Step → Json → Prop
  | here {value : Json} : Leads value [] value
  | member {front back : List (String × Json)} {name : String} {plain : '.' ∉ name.toList} {child value : Json}
      {steps : List Step} (last : name ∉ back.map Prod.fst) (further : Leads child steps value) :
      Leads (.object (front ++ (name, child) :: back)) (.key name plain :: steps) value
  | item {items : List Json} {count : UInt64} {child value : Json} {steps : List Step}
      (there : items[count.toNat]? = some child) (further : Leads child steps value) :
      Leads (.array items) (.index count :: steps) value

section Parts

variable {value child found : Json} {steps : List Step} {members front back : List (String × Json)}
  {name path rest : String} {n : Nat}

theorem splitDots_eq (text : List Char) : splitDots text = text.splitOn '.' := by
  induction text with
  | nil => rfl
  | cons c text ih =>
    rw [List.splitOn_cons_eq_if_modifyHead]
    by_cases dot : c = '.'
    · subst dot
      rw [splitDots, ih]
      rfl
    · rw [if_neg (by simpa using dot), splitDots, ih]
      · cases parts : text.splitOn '.' with
        | nil => exact absurd parts (List.splitOn_ne_nil '.' text)
        | cons part parts => rfl
      · exact dot

theorem splitDots_append (text more : List Char) :
    splitDots (text ++ '.' :: more) = splitDots text ++ splitDots more := by
  simp only [splitDots_eq]
  exact List.splitOn_append_cons_self text more

theorem Step.dot_not_mem (step : Step) : '.' ∉ step.written.toList := by
  cases step with
  | key name plain => exact plain
  | index count =>
    intro dot
    rw [written, Nat.toList_repr] at dot
    have digit := Nat.isDigit_of_mem_toDigits (by decide) (by decide) dot
    contradiction

theorem splitDots_dotted (some_ : steps ≠ []) :
    splitDots (dotted steps).toList = steps.map (·.written.toList) := by
  rw [splitDots_eq, dotted, String.toList_intercalate, List.map_map]
  refine List.splitOn_intercalate '.' (fun part member => ?_) (by simpa using some_)
  obtain ⟨step, -, rfl⟩ := List.mem_map.1 member
  exact step.dot_not_mem

theorem index?_repr (fits : n < Nat.pow 2 64) : index? (Nat.repr n).toList = some n := by
  rw [Nat.toList_repr]
  have digits : ∀ c ∈ Nat.toDigits 10 n, c.isDigit := fun c member =>
    Nat.isDigit_of_mem_toDigits (by decide) (by decide) member
  have read : (Nat.toDigits 10 n).foldl (fun n c => 10 * n + (c.toNat - '0'.toNat)) 0 = n :=
    Nat.ofDigitChars_toDigits (by decide) (by decide)
  have some_ : (Nat.toDigits 10 n).isEmpty = false := by simp [Nat.toDigits_ne_nil]
  have all : (Nat.toDigits 10 n).all Char.isDigit = true := List.all_eq_true.2 digits
  unfold index?
  split
  · rename_i rest plus
    -- Digits begin with no plus sign.
    have sign := digits '+' (plus ▸ List.mem_cons_self)
    contradiction
  · simp only [some_, all, read, fits, Bool.not_true, Bool.or_false, Bool.false_eq_true, if_true, if_false]

theorem member?_of_last (last : name ∉ back.map Prod.fst) :
    member? name (front ++ (name, child) :: back) = some child := by
  induction front with
  | nil => rw [List.nil_append, member?_cons, member?_eq_none_iff.2 last, if_pos rfl, Option.none_or]
  | cons m front ih => rw [List.cons_append, member?_cons, ih, Option.some_or]

theorem descend_append (value : Json) (parts more : List (List Char)) :
    descend value (parts ++ more) = (descend value parts).bind (descend · more) := by
  induction parts generalizing value with
  | nil => rfl
  | cons part parts ih =>
    rw [List.cons_append, descend, descend]
    cases value.child? part with
    | none => rfl
    | some child => exact ih child

theorem Leads.descend (leads : Leads value steps found) :
    descend value (steps.map (·.written.toList)) = some found := by
  induction leads with
  | here => rfl
  | @member front back name plain child found steps last further ih =>
    have there : member? name (front ++ (name, child) :: back) = some child := member?_of_last last
    rw [List.map_cons, Json.descend, child?, Step.written, String.ofList_toList, there]
    exact ih
  | @item items count child found steps there further ih =>
    have index : index? (Step.index count).written.toList = some count.toNat :=
      index?_repr count.toNat_lt
    rw [List.map_cons, Json.descend, child?, index, Option.bind_some, there]
    exact ih

theorem lookup_eq (some_ : path ≠ "") : lookup value path = Json.descend value (splitDots path.toList) :=
  if_neg (by simpa using some_)

end Parts

/-- Whatever a document holds is found under the keys and indices that lead there, and a path after another leads
from where the first one ends. -/
theorem lookup_follows :
    (∀ document steps value, dotted steps ≠ "" → Leads document steps value →
      lookup document (dotted steps) = some value) ∧
    ∀ document path rest, path ≠ "" → rest ≠ "" →
      lookup document (path ++ "." ++ rest) = (lookup document path).bind (lookup · rest) := by
  constructor
  · intro document steps value some_ leads
    have begun : steps ≠ [] := by
      rintro rfl
      exact some_ rfl
    rw [lookup_eq some_, splitDots_dotted begun, leads.descend]
  · intro document path rest some_ more
    have joined : path ++ "." ++ rest ≠ "" := by simp [some_]
    have parts : (path ++ "." ++ rest).toList = path.toList ++ '.' :: rest.toList := by simp
    rw [lookup_eq joined, parts, splitDots_append, descend_append, lookup_eq some_]
    exact congrArg _ (funext fun found => (lookup_eq more).symm)

def levels : Json := .object [("a", .array [.null, .object [("1", .bool false), ("1", .bool true)]])]

def deepest : List Step := [.key "a" (by decide), .index 1, .key "1" (by decide)]

/-- One part is read in two ways on one path. -/
theorem deepest_found :
    (dotted deepest = "a.1.1" ∧ Leads levels deepest (.bool true) ∧ lookup levels "a.1.1" = some (.bool true)) ∧
      lookup levels ("a.1" ++ "." ++ "1") = (lookup levels "a.1").bind (lookup · "1") := by
  have written : dotted deepest = "a.1.1" := rfl
  have leads : Leads levels deepest (.bool true) :=
    @Leads.member [] [] _ _ _ _ _ (by simp) <| .item rfl <|
      @Leads.member [("1", .bool false)] [] _ _ _ _ _ (by simp) .here
  refine ⟨⟨written, leads, ?_⟩, lookup_follows.2 levels "a.1" "1" (by decide) (by decide)⟩
  exact written ▸ lookup_follows.1 levels deepest (.bool true) (by rw [written]; decide) leads

end Switchboard.Json
