import Switchboard.Json.Record

/-! Dictionaries as documents. No key stands twice, so a dictionary is read back entry by entry, in whatever
order its entries are written. -/
namespace Switchboard

namespace Dict

variable {α : Type} {entries : List (String × α)}

theorem put_of_new {key : String} {value : α} (new : key ∉ entries.map Prod.fst) :
    put key value entries = entries ++ [(key, value)] := by
  induction entries with
  | nil => rfl
  | cons entry rest ih =>
    rw [List.map_cons, List.mem_cons, not_or] at new
    rw [put, if_neg fun same => new.1 same.symm, ih new.2, List.cons_append]

theorem setAll_entries (d : Dict α) (distinct : ((d.entries ++ entries).map Prod.fst).Nodup) :
    (d.setAll entries).entries = d.entries ++ entries := by
  induction entries generalizing d with
  | nil => simp [setAll]
  | cons entry rest ih =>
    have new : entry.1 ∉ d.entries.map Prod.fst := by
      intro old
      rw [List.map_append, List.map_cons, List.nodup_append] at distinct
      exact distinct.2.2 _ old _ List.mem_cons_self rfl
    have added : (d.set entry.1 entry.2).entries = d.entries ++ [entry] := put_of_new new
    have rest_ := ih (d.set entry.1 entry.2) (by rw [added]; simpa using distinct)
    rw [added, List.append_assoc] at rest_
    exact rest_

theorem ofList_entries (d : Dict α) : ofList d.entries = d :=
  ext (setAll_entries empty d.distinct)

end Dict

namespace Json

theorem readDict_ofDict {α : Type} {read : Json → Option α} {write : α → Json}
    (agree : ∀ a, read (write a) = some a) (dict : Dict α) :
    readDict read (ofDict write dict) = some dict := by
  have entries (list : List (String × α)) : (list.map fun entry => (entry.1, write entry.2)).mapM
      (fun m => (read m.2).map fun value => (m.1, value)) = some list := by
    induction list with
    | nil => rfl
    | cons entry rest ih => simp [agree, ih]
  unfold readDict ofDict
  dsimp only
  rw [entries, Option.map_some, Dict.ofList_entries]

end Json
end Switchboard
