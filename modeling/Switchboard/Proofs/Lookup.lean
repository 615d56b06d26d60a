import Mathlib.Data.List.Basic

/-! Looking through a list for the first entry that serves. Entries that do not serve can come in or go out, and where
all that serves comes to the same, the order of the entries does not matter either. -/
namespace Switchboard

variable {α β : Type} {l m : List α} {f : α → Option β} {p : α → Bool}

theorem findSome?_of_idle {front idle rest : List α} (none_ : ∀ a ∈ idle, f a = none) :
    (front ++ idle ++ rest).findSome? f = (front ++ rest).findSome? f := by
  rw [List.append_assoc, List.findSome?_append, List.findSome?_append, List.findSome?_append,
    List.findSome?_eq_none_iff.2 none_, Option.none_or]

theorem findSome?_eq_some_iff_of_unique {x : β}
    (unique : ∀ a ∈ l, ∀ b ∈ l, ∀ x y, f a = some x → f b = some y → x = y) :
    l.findSome? f = some x ↔ ∃ a ∈ l, f a = some x := by
  constructor
  · exact List.exists_of_findSome?_eq_some
  · intro h
    obtain ⟨a, known, gives⟩ := h
    have some_ : (l.findSome? f).isSome := List.findSome?_isSome_iff.2 ⟨a, known, by simp [gives]⟩
    obtain ⟨y, found⟩ := Option.isSome_iff_exists.1 some_
    obtain ⟨b, known', gives'⟩ := List.exists_of_findSome?_eq_some found
    rw [found, unique b known' a known y x gives' gives]

theorem findSome?_eq_of_unique (same : ∀ a, a ∈ l ↔ a ∈ m)
    (unique : ∀ a ∈ m, ∀ b ∈ m, ∀ x y, f a = some x → f b = some y → x = y) :
    l.findSome? f = m.findSome? f := by
  have unique' : ∀ a ∈ l, ∀ b ∈ l, ∀ x y, f a = some x → f b = some y → x = y := by
    intro a ofA b ofB
    exact unique a ((same a).1 ofA) b ((same b).1 ofB)
  ext x
  rw [findSome?_eq_some_iff_of_unique unique, findSome?_eq_some_iff_of_unique unique']
  simp only [same]

theorem find?_eq_of_unique (same : ∀ a, a ∈ l ↔ a ∈ m)
    (unique : ∀ a ∈ m, ∀ b ∈ m, p a = true → p b = true → a = b) : l.find? p = m.find? p := by
  rw [List.find?_eq_findSome?_guard, List.find?_eq_findSome?_guard]
  apply findSome?_eq_of_unique same
  intro a ofA b ofB x y givesA givesB
  obtain ⟨rfl, holdsA⟩ := Option.guard_eq_some_iff.1 givesA
  obtain ⟨rfl, holdsB⟩ := Option.guard_eq_some_iff.1 givesB
  exact unique a ofA b ofB holdsA holdsB

end Switchboard
