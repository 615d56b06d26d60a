/-! Dictionaries with text keys. Entries keep the order in which their keys first came, and no key
stands twice, so a dictionary has one entry list and two dictionaries built alike are equal. -/
namespace Switchboard

def Dict.find (key : String) : List (String × α) → Option α
  | [] => none
  | entry :: rest => if entry.1 = key then some entry.2 else Dict.find key rest

/-- Replaces the entry of `key` where it stands, or adds one at the end. -/
def Dict.put (key : String) (value : α) : List (String × α) → List (String × α)
  | [] => [(key, value)]
  | entry :: rest =>
    if entry.1 = key then (key, value) :: rest else entry :: Dict.put key value rest

theorem Dict.keys_put (key : String) (value : α) (entries : List (String × α)) :
    (Dict.put key value entries).map Prod.fst =
      if key ∈ entries.map Prod.fst then entries.map Prod.fst
      else entries.map Prod.fst ++ [key] := by
  induction entries with
  | nil => simp [Dict.put]
  | cons entry rest ih =>
    by_cases h : entry.1 = key
    · simp [Dict.put, h]
    · have h' : ¬ key = entry.1 := fun e => h e.symm
      simp only [Dict.put, h, if_false, List.map_cons, ih, List.mem_cons, h', false_or]
      split <;> rfl

theorem Dict.nodup_put (key : String) (value : α) {entries : List (String × α)}
    (distinct : (entries.map Prod.fst).Nodup) :
    ((Dict.put key value entries).map Prod.fst).Nodup := by
  rw [Dict.keys_put]
  split
  · exact distinct
  · next absent =>
    rw [List.nodup_append]
    exact ⟨distinct, by simp, fun a ha b hb => by simp at hb; rintro rfl; exact absent (hb ▸ ha)⟩

structure Dict (α : Type) where
  entries : List (String × α)
  distinct : (entries.map Prod.fst).Nodup
deriving DecidableEq

namespace Dict

def empty : Dict α := ⟨[], by simp⟩

instance : EmptyCollection (Dict α) := ⟨empty⟩
instance : Inhabited (Dict α) := ⟨empty⟩

def keys (d : Dict α) : List String := d.entries.map Prod.fst

def size (d : Dict α) : Nat := d.entries.length

def get? (d : Dict α) (key : String) : Option α := find key d.entries

def set (d : Dict α) (key : String) (value : α) : Dict α :=
  ⟨put key value d.entries, nodup_put key value d.distinct⟩

def filter (p : String → α → Bool) (d : Dict α) : Dict α :=
  ⟨d.entries.filter fun entry => p entry.1 entry.2,
    d.distinct.sublist (List.filter_sublist.map _)⟩

/-- Sets the entries one after another, so that the last one of a key stands. -/
def setAll (d : Dict α) (entries : List (String × α)) : Dict α :=
  entries.foldl (fun d entry => d.set entry.1 entry.2) d

def merge (d patch : Dict α) : Dict α := d.setAll patch.entries

def ofList (entries : List (String × α)) : Dict α := empty.setAll entries

def sameEntries [BEq α] (a b : Dict α) : Bool :=
  a.size == b.size && a.entries.all fun entry => b.get? entry.1 == some entry.2

theorem find_put (key other : String) (value : α) (entries : List (String × α)) :
    find other (put key value entries) = if other = key then some value else find other entries := by
  induction entries with
  | nil => simp [put, find, eq_comm]
  | cons entry rest ih =>
    by_cases hk : entry.1 = key
    · subst hk
      by_cases h : other = entry.1
      · simp [put, find, h]
      · have : ¬ entry.1 = other := fun e => h e.symm
        simp [put, find, h, this]
    · by_cases h : other = key
      · subst h
        simp [put, find, hk, ih]
      · simp [put, find, hk, ih, h]

theorem get?_set (d : Dict α) (key other : String) (value : α) :
    (d.set key value).get? other = if other = key then some value else d.get? other :=
  find_put ..

@[simp] theorem get?_set_self (d : Dict α) (key : String) (value : α) :
    (d.set key value).get? key = some value := by
  simp [get?_set]

theorem keys_set (d : Dict α) (key : String) (value : α) :
    (d.set key value).keys = if key ∈ d.keys then d.keys else d.keys ++ [key] :=
  keys_put ..

@[simp] theorem get?_empty (key : String) : (empty : Dict α).get? key = none := rfl

theorem ext {a b : Dict α} (h : a.entries = b.entries) : a = b := by
  cases a; cases b; simp_all

end Dict
end Switchboard
