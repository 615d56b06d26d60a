import Mathlib.Data.List.Forall2
import Switchboard.Json.Record

/-! Records that are written freely. A field may stand under any of its names and anywhere in its object, among
members that belong to no field; what a record says does not depend on this, nor does it change when the
document is taken as a whole. -/
namespace Switchboard.Json

/-! Taking a document as a whole. -/

section Whole

variable {items js : List Json} {members ms : List (String × Json)} {p : String → Bool}

def WholeMember (m n : String × Json) : Prop := n.1 = m.1 ∧ whole m.2 = some n.2

theorem wholeMembers_eq_some_iff :
    wholeMembers members = some ms ↔ List.Forall₂ WholeMember members ms := by
  induction members generalizing ms with
  | nil => simp [wholeMembers, eq_comm]
  | cons m rest ih =>
    simp only [wholeMembers, Option.bind_eq_bind, Option.bind_eq_some_iff, ih, Option.pure_def,
      Option.some.injEq, List.forall₂_cons_left_iff]
    constructor
    · rintro ⟨w, first, ws, further, rfl⟩
      exact ⟨(m.1, w), ws, ⟨rfl, first⟩, further, rfl⟩
    · rintro ⟨⟨name, w⟩, ws, ⟨rfl, first⟩, further, rfl⟩
      exact ⟨w, first, ws, further, rfl⟩

theorem exists_wholeMembers (readable : ∀ m ∈ members, m.2.whole.isSome) :
    ∃ ms, List.Forall₂ WholeMember members ms := by
  induction members with
  | nil => exact ⟨[], .nil⟩
  | cons m rest ih =>
    obtain ⟨w, first⟩ := Option.isSome_iff_exists.1 (readable m List.mem_cons_self)
    obtain ⟨ws, further⟩ := ih fun n member => readable n (List.mem_cons_of_mem m member)
    exact ⟨(m.1, w) :: ws, .cons ⟨rfl, first⟩ further⟩

theorem dropRepeated_sublist : (dropRepeated members).Sublist members := by
  induction members with
  | nil => exact .slnil
  | cons m rest ih =>
    rw [dropRepeated]
    split
    · exact ih.cons m
    · exact ih.cons_cons m

theorem filter_dropRepeated {p : String × Json → Bool} (names : ∀ m n, m.1 = n.1 → p m = p n) :
    (dropRepeated members).filter p = dropRepeated (members.filter p) := by
  induction members with
  | nil => rfl
  | cons m rest ih =>
    by_cases holds : p m
    · have again : (rest.filter p).any (·.1 == m.1) = rest.any (·.1 == m.1) := by
        rw [Bool.eq_iff_iff, List.any_eq_true, List.any_eq_true]
        constructor
        · rintro ⟨n, member, same⟩
          exact ⟨n, List.mem_of_mem_filter member, same⟩
        · rintro ⟨n, member, same⟩
          exact ⟨n, List.mem_filter.2 ⟨member, by rw [names n m (by simpa using same), holds]⟩, same⟩
      rw [List.filter_cons_of_pos holds, dropRepeated, dropRepeated, again]
      split
      · exact ih
      · rw [List.filter_cons_of_pos holds, ih]
    · rw [List.filter_cons_of_neg holds, dropRepeated]
      split
      · exact ih
      · rw [List.filter_cons_of_neg holds, ih]

theorem dropRepeated_self (distinct : (ms.map Prod.fst).Nodup) : dropRepeated ms = ms := by
  induction ms with
  | nil => rfl
  | cons m rest ih =>
    rw [List.map_cons, List.nodup_cons] at distinct
    have once : ¬ rest.any (·.1 == m.1) := by
      intro again
      obtain ⟨n, member, same⟩ := List.any_eq_true.1 again
      exact distinct.1 (List.mem_map.2 ⟨n, member, by simpa using same⟩)
    rw [dropRepeated, if_neg once, ih distinct.2]

theorem nodup_dropRepeated : ((dropRepeated members).map Prod.fst).Nodup := by
  induction members with
  | nil => exact .nil
  | cons m rest ih =>
    rw [dropRepeated]
    split
    · exact ih
    · rename_i once
      refine List.nodup_cons.2 ⟨fun again => once ?_, ih⟩
      obtain ⟨n, member, same⟩ := List.mem_map.1 again
      exact List.any_eq_true.2 ⟨n, dropRepeated_sublist.subset member, by simpa using same⟩

end Whole

mutual
theorem whole_whole : ∀ (j w : Json), whole j = some w → whole w = some w
  | .array items, w, h => by
    obtain ⟨js, all, rfl⟩ := Option.map_eq_some_iff.1 h
    rw [whole, wholeItems_whole items js all]
    rfl
  | .object members, w, h => by
    obtain ⟨ms, all, rfl⟩ := Option.map_eq_some_iff.1 h
    have fixed := List.forall₂_same.1
      (wholeMembers_eq_some_iff.1 (wholeMembers_whole members ms all))
    have kept : wholeMembers (dropRepeated ms) = some (dropRepeated ms) :=
      wholeMembers_eq_some_iff.2 (List.forall₂_same.2 fun m member =>
        fixed m (dropRepeated_sublist.subset member))
    rw [whole, kept, Option.map_some, dropRepeated_self nodup_dropRepeated]
  | .null, w, h | .bool _, w, h | .integer _, w, h | .double _, w, h | .string _, w, h => by
    cases h
    rfl
  | .unreadable, w, h => by cases h

theorem wholeItems_whole : ∀ (items js : List Json), wholeItems items = some js →
    wholeItems js = some js
  | [], js, h => by
    cases h
    rfl
  | item :: rest, js, h => by
    obtain ⟨w, first, h⟩ := Option.bind_eq_some_iff.1 h
    obtain ⟨ws, further, h⟩ := Option.bind_eq_some_iff.1 h
    cases h
    simp [wholeItems, whole_whole item w first, wholeItems_whole rest ws further]

theorem wholeMembers_whole : ∀ (members ms : List (String × Json)),
    wholeMembers members = some ms → wholeMembers ms = some ms
  | [], ms, h => by
    cases h
    rfl
  | (name, value) :: rest, ms, h => by
    obtain ⟨w, first, h⟩ := Option.bind_eq_some_iff.1 h
    obtain ⟨ws, further, h⟩ := Option.bind_eq_some_iff.1 h
    cases h
    simp [wholeMembers, whole_whole value w first, wholeMembers_whole rest ws further]
end

/-! Looking for one name. -/

section Single

variable {name : String} {members : List (String × Json)} {j : Json}

theorem member?_cons (m : String × Json) : member? name (m :: members) =
    (member? name members).or (if m.1 = name then some m.2 else none) := by
  unfold member?
  rw [List.reverse_cons, List.lookup_append, @List.lookup_eq_findSome? _ _ _ [m], List.findSome?_singleton]
  simp only [beq_iff_eq, @eq_comm _ name]

theorem member?_eq_none_iff : member? name members = none ↔ name ∉ members.map Prod.fst := by
  induction members with
  | nil => simp [member?]
  | cons m rest ih =>
    rw [member?_cons, Option.or_eq_none_iff, ih, List.map_cons, List.mem_cons, not_or, and_comm, @eq_comm _ name]
    simp

theorem pick_single (distinct : (members.map Prod.fst).Nodup) : pick members [name] = some (member? name members) := by
  induction members with
  | nil => rfl
  | cons m rest ih =>
    obtain ⟨absent, distinct⟩ := List.nodup_cons.1 distinct
    unfold pick at *
    rw [member?_cons]
    by_cases same : m.1 = name
    · subst same
      have others : rest.filter ([m.1].contains ·.1) = [] := by
        refine List.filter_eq_nil_iff.2 fun n member => ?_
        rw [List.contains_iff_mem, List.mem_singleton]
        exact fun again => absent (List.mem_map.2 ⟨n, member, again⟩)
      rw [List.filter_cons_of_pos (by simp), others, member?_eq_none_iff.2 absent, if_pos rfl, Option.none_or]
    · rw [List.filter_cons_of_neg (by simpa using same), ih distinct, if_neg same, Option.or_none]

theorem nodup_of_whole (whole : whole j = some (.object members)) : (members.map Prod.fst).Nodup := by
  cases j with
  | object ms =>
    obtain ⟨ns, -, same⟩ := Option.map_eq_some_iff.1 whole
    cases same
    exact nodup_dropRepeated
  | array items =>
    obtain ⟨js, -, same⟩ := Option.map_eq_some_iff.1 whole
    contradiction
  | _ => simp [Json.whole] at whole

end Single

/-! Fields. -/

/-- What may be written for a field. -/
structure Field where
  names : List String
  spells : Json → Prop
  /-- Nothing at all. -/
  omittable : Prop

namespace Field

def Given (field : Field) (members : List (String × Json)) : Prop :=
  (∃ name value, members.filter (field.names.contains ·.1) = [(name, value)] ∧ field.spells value) ∨
    (members.filter (field.names.contains ·.1) = [] ∧ field.omittable)

def Fills (field : Field) : Option Json → Prop
  | some value => field.spells value
  | none => field.omittable

end Field

/-- What is written stays as good when it is taken as a whole. -/
def Stable (spells : Json → Prop) : Prop := ∀ j, spells j → ∃ w, j.whole = some w ∧ spells w

/-- The members write the fields. All others have names of their own, none of them reserved, and may be
anything that can be read. -/
structure Writes (fields : List Field) (reserved : List String) (members : List (String × Json)) :
    Prop where
  given : ∀ field ∈ fields, field.Given members
  others : ∀ m ∈ members, (∃ field ∈ fields, m.1 ∈ field.names) ∨ m.1 ∉ reserved ∧ m.2.whole.isSome

def Spells (fields : List Field) (reserved : List String) (j : Json) : Prop :=
  ∃ members, j = .object members ∧ Writes fields reserved members

section Writing

variable {fields : List Field} {field : Field} {reserved : List String}
  {members ms : List (String × Json)}

theorem Field.Given.readable (given : field.Given members) (stable : Stable field.spells)
    {m : String × Json} (member : m ∈ members) (named : m.1 ∈ field.names) : m.2.whole.isSome := by
  have kept : m ∈ members.filter (field.names.contains ·.1) :=
    List.mem_filter.2 ⟨member, by simpa using named⟩
  obtain ⟨name, value, all, spells⟩ | ⟨none, -⟩ := given
  · rw [all] at kept
    cases List.mem_singleton.1 kept
    obtain ⟨w, whole, -⟩ := stable value spells
    exact Option.isSome_iff_exists.2 ⟨w, whole⟩
  · rw [none] at kept
    contradiction

theorem Field.Given.whole (given : field.Given members) (stable : Stable field.spells)
    (all : List.Forall₂ WholeMember members ms) : field.Given (dropRepeated ms) := by
  have names : ∀ m n : String × Json, m.1 = n.1 →
      field.names.contains m.1 = field.names.contains n.1 := fun m n same => by rw [same]
  have kept : List.Forall₂ WholeMember (members.filter (field.names.contains ·.1))
      (ms.filter (field.names.contains ·.1)) :=
    List.rel_filter (fun m n same => iff_of_eq (congrArg (· = true) (names m n same.1.symm))) all
  unfold Given
  rw [filter_dropRepeated names]
  obtain ⟨name, value, one, spells⟩ | ⟨none, omittable⟩ := given
  · rw [one] at kept
    obtain ⟨⟨name', w⟩, rest, ⟨rfl, whole⟩, nothing, same⟩ := List.forall₂_cons_left_iff.1 kept
    cases nothing
    obtain ⟨w', whole', spells'⟩ := stable value spells
    cases whole.symm.trans whole'
    exact .inl ⟨_, w, by rw [same]; rfl, spells'⟩
  · rw [none] at kept
    rw [List.forall₂_nil_left_iff.1 kept]
    exact .inr ⟨rfl, omittable⟩

theorem Writes.whole (writes : Writes fields reserved members)
    (stable : ∀ field ∈ fields, Stable field.spells) :
    ∃ ms, wholeMembers members = some ms ∧ Writes fields reserved (dropRepeated ms) := by
  have readable : ∀ m ∈ members, m.2.whole.isSome := by
    intro m member
    obtain ⟨field, known, named⟩ | ⟨-, readable⟩ := writes.others m member
    · exact (writes.given field known).readable (stable field known) member named
    · exact readable
  obtain ⟨ms, all⟩ := exists_wholeMembers readable
  refine ⟨ms, wholeMembers_eq_some_iff.2 all, ?_, ?_⟩
  · intro field known
    exact (writes.given field known).whole (stable field known) all
  · have others : List.Forall₂ (fun m n => ((∃ field ∈ fields, n.1 ∈ field.names) ∨
        n.1 ∉ reserved ∧ n.2.whole.isSome) ∧ WholeMember m n) members ms := by
      refine ((List.forall₂_and_left _ _).2 ⟨writes.others, all⟩).imp fun m n both => ?_
      obtain ⟨other, same, whole⟩ := both
      rw [same, whole_whole m.2 n.2 whole]
      exact ⟨other.imp_right fun h => ⟨h.1, rfl⟩, same, whole⟩
    intro n member
    exact ((List.forall₂_and_left _ _).1 others.flip).1 n (dropRepeated_sublist.subset member)

theorem stable_spells (stable : ∀ field ∈ fields, Stable field.spells) :
    Stable (Spells fields reserved) := by
  rintro _ ⟨members, rfl, writes⟩
  obtain ⟨ms, all, again⟩ := writes.whole stable
  refine ⟨.object (dropRepeated ms), ?_, _, rfl, again⟩
  rw [Json.whole, all]
  rfl

theorem Writes.slots (given : ∀ field ∈ fields, field.Given members) :
    ∃ values, slots (fields.map Field.names) (.object members) = some values ∧
      List.Forall₂ Field.Fills fields values := by
  unfold Json.slots
  induction fields with
  | nil => exact ⟨[], rfl, .nil⟩
  | cons field rest ih =>
    obtain ⟨values, all, fills⟩ := ih fun other member => given other (List.mem_cons_of_mem _ member)
    have first : ∃ slot, pick members field.names = some slot ∧ field.Fills slot := by
      unfold pick
      obtain ⟨name, value, one, spells⟩ | ⟨none, omittable⟩ := given field List.mem_cons_self
      · rw [one]
        exact ⟨some value, rfl, spells⟩
      · rw [none]
        exact ⟨Option.none, rfl, omittable⟩
    obtain ⟨slot, picked, fill⟩ := first
    refine ⟨slot :: values, ?_, .cons fill fills⟩
    simp only [List.map_cons, List.mapM_cons, picked, all]
    rfl

end Writing

/-! The fields that most records have. -/

section Fields

variable {names : List String} {value default : String} {option : Option String} {slot : Option Json}

def SpellsList (spells : α → Json → Prop) (values : List α) (j : Json) : Prop :=
  ∃ items, j = .array items ∧ List.Forall₂ spells values items

namespace Field

def text (names : List String) (value : String) : Field := ⟨names, (· = .string value), False⟩

def textOr (names : List String) (default value : String) : Field :=
  ⟨names, (· = .string value), value = default⟩

/-- Nothing may be written as null as well. -/
def optional (names : List String) (option : Option String) : Field :=
  ⟨names, (· = ofOption .string option), option = none⟩

def list (names : List String) (spells : α → Json → Prop) (values : List α) : Field :=
  ⟨names, SpellsList spells values, values = []⟩

end Field

theorem spells_single {field : Field} {reserved : List String} {name : String} {j : Json}
    (named : name ∈ field.names) (spelled : field.spells j) :
    Spells [field] reserved (.object [(name, j)]) := by
  refine ⟨_, rfl, ?_, by simp [named]⟩
  rintro _ ⟨⟩
  · exact .inl ⟨name, j, by simp [named], spelled⟩
  · contradiction

theorem spellsList_map {spells : α → Json → Prop} {write : α → Json}
    (spelled : ∀ a, spells a (write a)) (values : List α) :
    SpellsList spells values (.array (values.map write)) :=
  ⟨_, rfl, List.forall₂_map_right_iff.2 (List.forall₂_same.2 fun a _ => spelled a)⟩

theorem stable_string : Stable (· = .string value) := by
  rintro _ rfl
  exact ⟨.string value, rfl, rfl⟩

theorem stable_option : Stable (· = ofOption .string option) := by
  rintro _ rfl
  cases option <;> exact ⟨_, rfl, rfl⟩

theorem stable_list {spells : α → Json → Prop} {values : List α}
    (stable : ∀ a ∈ values, Stable (spells a)) : Stable (SpellsList spells values) := by
  rintro _ ⟨items, rfl, all⟩
  have wholes : ∃ js, wholeItems items = some js ∧ List.Forall₂ spells values js := by
    induction all with
    | nil => exact ⟨[], rfl, .nil⟩
    | cons spelled _ ih =>
      obtain ⟨js, further, rest⟩ := ih fun a member => stable a (List.mem_cons_of_mem _ member)
      obtain ⟨w, first, again⟩ := stable _ List.mem_cons_self _ spelled
      exact ⟨w :: js, by simp [wholeItems, first, further], .cons again rest⟩
  obtain ⟨js, all, again⟩ := wholes
  exact ⟨.array js, by rw [whole, all]; rfl, js, rfl, again⟩

theorem required_of_text {read : Json → Option β} {b : β} (reads : read (.string value) = some b)
    (fills : (Field.text names value).Fills slot) : required read slot = some b := by
  cases slot with
  | none => contradiction
  | some j =>
    cases fills
    exact reads

theorem required_text (fills : (Field.text names value).Fills slot) :
    required readString slot = some value := required_of_text rfl fills

theorem withDefault_text (fills : (Field.textOr names default value).Fills slot) :
    withDefault default readString slot = some value := by
  cases slot <;> cases fills <;> rfl

theorem withDefault_optional (fills : (Field.optional names option).Fills slot) :
    withDefault none (readOption readString) slot = some option := by
  cases slot with
  | none =>
    cases fills
    rfl
  | some j =>
    cases fills
    exact readOption_string option

theorem withDefault_list {spells : α → Json → Prop} {values : List α} {read : Json → Option β}
    {R : α → β → Prop} (reads : ∀ a ∈ values, ∀ j, spells a j → ∃ b, read j = some b ∧ R a b)
    (fills : (Field.list names spells values).Fills slot) :
    ∃ bs, withDefault [] (readList read) slot = some bs ∧ List.Forall₂ R values bs := by
  cases slot with
  | none =>
    cases fills
    exact ⟨[], rfl, .nil⟩
  | some j =>
    obtain ⟨items, rfl, all⟩ := fills
    change ∃ bs, items.mapM read = some bs ∧ _
    induction all with
    | nil => exact ⟨[], rfl, .nil⟩
    | cons spelled _ ih =>
      obtain ⟨bs, further, rest⟩ := ih fun a member => reads a (List.mem_cons_of_mem _ member)
      obtain ⟨b, first, same⟩ := reads _ List.mem_cons_self _ spelled
      exact ⟨b :: bs, by simp [first, further], .cons same rest⟩

theorem withDefault_list_eq {spells : α → Json → Prop} {values : List α} {read : Json → Option α}
    (reads : ∀ a ∈ values, ∀ j, spells a j → read j = some a)
    (fills : (Field.list names spells values).Fills slot) :
    withDefault [] (readList read) slot = some values := by
  obtain ⟨bs, read, same⟩ := withDefault_list (R := Eq)
    (fun a member j spelled => ⟨a, reads a member j spelled, rfl⟩) fills
  rw [List.forall₂_eq_eq_eq] at same
  rw [read, same]

end Fields

end Switchboard.Json
