import Switchboard.Flow.Draft
import Switchboard.Proofs.Json.Members

/-! What is read of a record that an editor stores. The published copy counts, but the whole record is read
before it is chosen: a draft that is no draft yet keeps the published copy from being read. -/
namespace Switchboard
namespace FlowRecord

open Json (withDefault readString readOption member?)

variable {members : List (String × Json)}

theorem ofJson_eq (distinct : (members.map Prod.fst).Nodup) : ofJson (.object members) = (do
    let id ← withDefault "" readString (member? "id" members)
    let name ← withDefault "" readString (member? "name" members)
    let draft ← withDefault none (readOption Draft.ofJson) (member? "draft" members)
    let published ← withDefault none (readOption Draft.ofJson) (member? "published" members)
    return ⟨id, name, draft, published⟩) := by
  unfold ofJson Json.slots
  simp [Json.pick_single distinct]

end FlowRecord

namespace Draft

open Json (withDefault readString readOption member?)

variable {members : List (String × Json)} {text : String} {id name : Option String} {copy : Draft} {published draft : Json}

/-- A draft beside the published copy is not there, or null, or it is a draft. -/
def IsReadable (beside : Option Json) : Prop :=
  ∀ draft, beside = some draft → draft ≠ .null → (Draft.ofJson draft).isSome

theorem readOption_eq (there : draft ≠ .null) : readOption Draft.ofJson draft = (Draft.ofJson draft).map some := by
  cases draft with
  | null => contradiction
  | _ => rfl

theorem isReadable_iff {beside : Option Json} :
    IsReadable beside ↔ (withDefault none (readOption Draft.ofJson) beside).isSome := by
  constructor
  · intro readable
    cases beside with
    | none => rfl
    | some draft =>
      by_cases empty : draft = .null
      · subst empty
        rfl
      · simpa only [withDefault, readOption_eq empty, Option.isSome_map] using readable draft rfl empty
  · rintro readable draft rfl there
    simpa only [withDefault, readOption_eq there, Option.isSome_map] using readable

theorem isRecord_of_member? (stands : member? "published" members = some published) :
    isRecord (.object members) = true := by
  have known : "published" ∈ members.map Prod.fst := by
    by_contra absent
    rw [Json.member?_eq_none_iff.2 absent] at stands
    contradiction
  obtain ⟨m, member, same⟩ := List.mem_map.1 known
  refine List.any_eq_true.2 ⟨m, member, ?_⟩
  rw [same]
  rfl

theorem read_of_record (parses : Json.ofWholeText text = some (.object members))
    (stands : member? "published" members = some published) : Draft.read text =
      ((FlowRecord.ofJson (.object members)).map FlowRecord.flow).getD (.error .document) := by
  unfold Draft.read
  rw [parses]
  dsimp only
  rw [ofValue, if_pos (isRecord_of_member? stands)]
  cases FlowRecord.ofJson (.object members) <;> rfl

theorem withDefault_map_string (text : Option String) :
    withDefault "" readString (text.map .string) = some (text.getD "") := by
  cases text <;> rfl

/-- The published copy of a record is read, under the record's names where it has none, exactly if the draft
beside it can be read. -/
theorem published_copy_is_read (parses : Json.ofWholeText text = some (.object members))
    (named : member? "id" members = id.map .string) (titled : member? "name" members = name.map .string)
    (stands : member? "published" members = some published) (reads : Draft.ofJson published = some copy) :
    (IsReadable (member? "draft" members) → Draft.read text = .ok { copy with
      id := if copy.id = "" then id.getD "" else copy.id
      name := if copy.name = "" then name.getD "" else copy.name }) ∧
    (¬ IsReadable (member? "draft" members) → Draft.read text = .error .document) := by
  have there : published ≠ .null := by
    rintro rfl
    contradiction
  have public_ : withDefault none (readOption Draft.ofJson) (member? "published" members) = some (some copy) := by
    rw [stands, withDefault, readOption_eq there, reads, Option.map_some]
  obtain ⟨j, -, whole⟩ := Option.bind_eq_some_iff.1 parses
  rw [read_of_record parses stands, FlowRecord.ofJson_eq (Json.nodup_of_whole whole), named, titled, public_,
    withDefault_map_string, withDefault_map_string, isReadable_iff]
  constructor
  · intro readable
    obtain ⟨draft, beside⟩ := Option.isSome_iff_exists.1 readable
    simp [beside, FlowRecord.flow]
  · intro unreadable
    simp [Option.not_isSome_iff_eq_none.1 unreadable]

/-! A record with a published flow and something beside it. -/

def publishedMembers : List (String × Json) :=
  [("nodes", .array [.object [("id", .string "s"), ("kind", .string "start")]]), ("edges", .array [])]

def publishedCopy : Draft := ⟨"", "", [⟨"s", "start", .null⟩], []⟩

def recordMembers (draft : Json) : List (String × Json) :=
  [("id", .string "f"), ("draft", draft), ("published", .object publishedMembers)]

def recordText (draft : String) : String :=
  "\x7b\"id\":\"f\",\"draft\":" ++ draft ++
  ",\"published\":\x7b\"nodes\":[\x7b\"id\":\"s\",\"kind\":\"start\"\x7d],\"edges\":[]\x7d\x7d"

theorem publishedMembers_reads : Draft.ofJson (.object publishedMembers) = some publishedCopy := by rfl

theorem recordText_parses {beside : String} {draft : Json} (whole : draft.whole = some draft)
    (parses : Json.ofText (recordText beside) = some (.object (recordMembers draft))) :
    Json.ofWholeText (recordText beside) = some (.object (recordMembers draft)) := by
  unfold Json.ofWholeText
  rw [parses]
  simp [Json.whole, Json.wholeMembers, Json.wholeItems, Json.dropRepeated, recordMembers, publishedMembers, whole]

set_option maxRecDepth 2000 in
theorem emptyDraft_parses :
    Json.ofWholeText (recordText "\x7b\x7d") = some (.object (recordMembers (.object []))) :=
  recordText_parses (by simp [Json.whole, Json.wholeMembers, Json.dropRepeated]) (by rfl)

/-- A draft that has just been begun does not matter. -/
theorem empty_draft_beside :
    Json.ofWholeText (recordText "\x7b\x7d") = some (.object (recordMembers (.object []))) ∧
    Draft.read (recordText "\x7b\x7d") = .ok ⟨"f", "", [⟨"s", "start", .null⟩], []⟩ := by
  have named : member? "id" (recordMembers (.object [])) = (some "f").map .string := by rfl
  have titled : member? "name" (recordMembers (.object [])) = none.map .string := by rfl
  have readable : IsReadable (member? "draft" (recordMembers (.object []))) := by
    rintro draft ⟨⟩ -
    rfl
  exact ⟨emptyDraft_parses,
    (published_copy_is_read emptyDraft_parses named titled rfl publishedMembers_reads).1 readable⟩

def halfEdited : Json := .object [("nodes", .array [.object [("id", .string "m")]])]

set_option maxRecDepth 2000 in
theorem halfEdited_parses : Json.ofWholeText (recordText "\x7b\"nodes\":[\x7b\"id\":\"m\"\x7d]\x7d") =
    some (.object (recordMembers halfEdited)) :=
  recordText_parses (by simp [halfEdited, Json.whole, Json.wholeMembers, Json.wholeItems, Json.dropRepeated]) (by rfl)

/-- A draft that is being edited keeps the published copy from being read. -/
theorem half_edited_draft_beside :
    Json.ofWholeText (recordText "\x7b\"nodes\":[\x7b\"id\":\"m\"\x7d]\x7d") =
      some (.object (recordMembers halfEdited)) ∧
    member? "id" (recordMembers halfEdited) = some (.string "f") ∧
    member? "name" (recordMembers halfEdited) = none ∧
    member? "published" (recordMembers halfEdited) = some (.object publishedMembers) ∧
    Draft.ofJson (.object publishedMembers) = some publishedCopy ∧
    Draft.read (recordText "\x7b\"nodes\":[\x7b\"id\":\"m\"\x7d]\x7d") = .error .document := by
  refine ⟨halfEdited_parses, rfl, rfl, rfl, publishedMembers_reads, ?_⟩
  have unreadable : FlowRecord.ofJson (.object (recordMembers halfEdited)) = none := by rfl
  rw [read_of_record halfEdited_parses rfl, unreadable]
  rfl

end Draft
end Switchboard
