import Mathlib.Data.List.Basic
import Switchboard.Dict

/-! What is in a dictionary to which entries have been added. Entries are looked up from the front and set from
the back on, so of those with one key the last stands. -/
namespace Switchboard.Dict

variable {α β : Type} {d p : Dict α} {key other : String} {value : α} {entries : List (String × α)}

theorem mem_keys_set : other ∈ (d.set key value).keys ↔ other = key ∨ other ∈ d.keys := by
  rw [keys_set]
  split
  · rename_i known
    refine ⟨.inr, fun either => either.elim (fun same => ?_) id⟩
    rwa [same]
  · rw [List.mem_append, List.mem_singleton, or_comm]

theorem find_append {front back : List (String × α)} :
    find key (front ++ back) = (find key front).or (find key back) := by
  induction front with
  | nil => rfl
  | cons entry front ih =>
    rw [List.cons_append, find, find]
    split
    · rfl
    · exact ih

theorem find_filterMap {f : β → Option (String × α)} {xs : List β} : find key (xs.filterMap f) =
    xs.findSome? fun x => (f x).bind fun entry => if entry.1 = key then some entry.2 else none := by
  induction xs with
  | nil => rfl
  | cons x xs ih =>
    cases made : f x with
    | none => rw [List.filterMap_cons_none made, List.findSome?_cons, made, Option.bind_none, ih]
    | some entry =>
      rw [List.filterMap_cons_some made, List.findSome?_cons, made, Option.bind_some, find, ih]
      split <;> rfl

theorem find_labelled {name : α → String} {xs : List α} :
    find key (xs.map fun x => (name x, x)) = xs.find? (name · == key) := by
  induction xs with
  | nil => rfl
  | cons x xs ih =>
    rw [List.map_cons, find, ih]
    by_cases same : name x = key
    · rw [if_pos same, List.find?_cons_of_pos (by simpa using same)]
    · rw [if_neg same, List.find?_cons_of_neg (by simpa using same)]

theorem find_eq_none_iff : find key entries = none ↔ key ∉ entries.map Prod.fst := by
  induction entries with
  | nil => simp [find]
  | cons entry rest ih =>
    rw [find, List.map_cons, List.mem_cons]
    split <;> simp_all [eq_comm]

theorem find_reverse (distinct : (entries.map Prod.fst).Nodup) : find key entries.reverse = find key entries := by
  induction entries with
  | nil => rfl
  | cons entry rest ih =>
    obtain ⟨absent, distinct⟩ := List.nodup_cons.1 distinct
    have last : find key [entry] = if entry.1 = key then some entry.2 else none := rfl
    rw [List.reverse_cons, find_append, ih distinct, last, find]
    split
    · rename_i same
      subst same
      rw [find_eq_none_iff.2 absent, Option.none_or]
    · rw [Option.or_none]

theorem get?_setAll : (d.setAll entries).get? key = (find key entries.reverse).or (d.get? key) := by
  unfold setAll
  induction entries generalizing d with
  | nil => rfl
  | cons entry rest ih =>
    rw [List.foldl_cons, ih, get?_set, List.reverse_cons, find_append, Option.or_assoc, find, find]
    simp only [eq_comm]
    split <;> rfl

theorem get?_merge : (d.merge p).get? key = (p.get? key).or (d.get? key) := by
  rw [merge, get?_setAll, find_reverse p.distinct]
  rfl

theorem merge_of_isEmpty (none_ : p.entries.isEmpty) : d.merge p = d := by
  rw [merge, List.isEmpty_iff.1 none_]
  rfl

theorem get?_ofList : (ofList entries).get? key = find key entries.reverse := by
  rw [ofList, get?_setAll, get?_empty, Option.or_none]

theorem isEmpty_entries_iff : d.entries.isEmpty ↔ ∀ key, d.get? key = none := by
  rw [List.isEmpty_iff]
  constructor
  · intro none_ key
    rw [get?, none_, find]
  · intro none_
    cases entries : d.entries with
    | nil => rfl
    | cons entry rest =>
      have first := none_ entry.1
      rw [get?, entries, find, if_pos rfl] at first
      contradiction

theorem find_eq_some_iff (distinct : (entries.map Prod.fst).Nodup) :
    find key entries = some value ↔ (key, value) ∈ entries := by
  induction entries with
  | nil => simp [find]
  | cons entry rest ih =>
    obtain ⟨absent, distinct⟩ := List.nodup_cons.1 distinct
    rw [find, List.mem_cons]
    split
    · rename_i same
      subst same
      have elsewhere : (entry.1, value) ∉ rest := fun known => absent (List.mem_map.2 ⟨_, known, rfl⟩)
      rw [Option.some.injEq, or_iff_left elsewhere, Prod.ext_iff, eq_self, true_and, eq_comm]
    · rename_i different
      rw [ih distinct, or_iff_right fun same => different (congrArg Prod.fst same).symm]

theorem get?_eq_some_iff : d.get? key = some value ↔ (key, value) ∈ d.entries := find_eq_some_iff d.distinct

theorem get?_filter {p : String → α → Bool} : (d.filter p).get? key = (d.get? key).filter (p key) := by
  ext value
  rw [get?_eq_some_iff, Option.filter_eq_some_iff, get?_eq_some_iff]
  exact List.mem_filter

end Switchboard.Dict
