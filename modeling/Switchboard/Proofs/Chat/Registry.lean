import Switchboard.Chat.Registry
import Switchboard.Proofs.Lookup
import Switchboard.Proofs.Chat.Succession

/-! A registry and a store of which the same is asked. The table may list its sessions in another order
each time and nobody can tell, for what is searched in it is there once at most: a session by its
identifier, and a customer's session that is not closed. -/
namespace Switchboard

namespace Store

variable {store : Store} {s : Session}

theorem find?_add (unused : ∀ u ∈ store.sessions, u.id ≠ s.id) (id : SessionId) :
    (store.add s).find? id = if s.id = id then some s else store.find? id := by
  unfold Store.find? Store.add
  rw [List.find?_append]
  split
  · rename_i same
    have none : store.sessions.find? (·.id == id) = none := by simpa [← same] using unused
    rw [none]
    simp [same]
  · rename_i other
    simp [other]

theorem find?_record {v : Visit} (known : store.find? v.session.id = some s) (id : SessionId) :
    (store.record v).find? id = if v.session.id = id then some v.session else store.find? id := by
  have names : (fun u : Session => (if u.id = v.session.id then v.session else u).id == id) =
      (·.id == id) := by
    funext u
    split
    · rename_i same
      rw [same]
    · rfl
  unfold Store.find? Store.record Store.put
  rw [List.find?_map]
  change (store.sessions.find? fun u => (if u.id = v.session.id then v.session else u).id == id).map _ = _
  rw [names]
  change (store.find? id).map _ = if _ then _ else store.find? id
  split
  · rename_i same
    have there : s.id = v.session.id := (Store.find?_eq_some known).2
    rw [← same, known]
    simp [there]
  · rename_i other
    cases found : store.find? id with
    | none => rfl
    | some u =>
      have name : u.id = id := (Store.find?_eq_some found).2
      have elsewhere : ¬ u.id = v.session.id := fun same => other (same.symm.trans name)
      simp [elsewhere]

end Store

namespace Registry

def perform (listing : List Session) : Store.Request → Op Unit
  | .create fresh customer now => fun r => .ok () (r.create listing fresh customer now).2
  | .operate id op => visit id op.act

/-- What the same requests have made of a registry and of a store. -/
inductive Kept : Registry → Store → Prop
  | empty : Kept .empty .empty
  | request {r : Registry} {store : Store} (listing : List Session) (request : Store.Request) :
      Kept r store → listing.Perm r.tabled → request.IsFresh store →
      Kept (stateAfter (perform listing request) r) (stateAfter request.perform store)

structure Mirrors (r : Registry) (store : Store) : Prop where
  order : r.order = store.sessions.map Session.id
  found : ∀ id : SessionId, r.byId[id]? = store.find? id
  journal : r.journal = store.journal

variable {r : Registry} {store : Store} {s t : Session} {listing : List Session} {id : SessionId}
variable {customer : String}

namespace Mirrors

theorem mem_tabled (mirrors : r.Mirrors store) (distinct : store.Distinct) :
    s ∈ r.tabled ↔ s ∈ store.sessions := by
  constructor
  · intro member
    obtain ⟨⟨id, _⟩, entry, rfl⟩ := List.mem_map.1 member
    have found := Std.HashMap.mem_toList_iff_getElem?_eq_some.1 entry
    rw [mirrors.found] at found
    exact (Store.find?_eq_some found).1
  · intro known
    refine List.mem_map.2 ⟨(s.id, s), ?_, rfl⟩
    rw [Std.HashMap.mem_toList_iff_getElem?_eq_some, mirrors.found]
    exact distinct.find? known

theorem mem_byId_iff (mirrors : r.Mirrors store) : id ∈ r.byId ↔ id ∈ r.order := by
  rw [Std.HashMap.mem_iff_isSome_getElem?, mirrors.found, mirrors.order]
  simp [Store.find?]

theorem list_eq (mirrors : r.Mirrors store) (distinct : store.Distinct) :
    r.list = store.sessions := by
  unfold list
  rw [mirrors.order, List.filterMap_map]
  have each : ∀ s ∈ store.sessions, ((r.byId[·]?) ∘ Session.id) s = some s := by
    intro s known
    change r.byId[s.id]? = some s
    rw [mirrors.found]
    exact distinct.find? known
  rw [List.filterMap_congr each, List.filterMap_some]

theorem find?_listing (mirrors : r.Mirrors store) (distinct : store.Distinct)
    (successive : store.Successive) (listed : listing.Perm r.tabled) (customer : String) :
    (listing.find? fun s => s.customer == customer && !s.isClosed) = store.current? customer := by
  apply find?_eq_of_unique
  · intro s
    rw [listed.mem_iff, mirrors.mem_tabled distinct]
  · intro s hs t ht its its'
    simp [Session.isClosed] at its its'
    exact successive.eq_of_unclosed (Store.mem_of.2 ⟨hs, its.1⟩) (Store.mem_of.2 ⟨ht, its'.1⟩)
      its.2 its'.2

theorem create_of_current {fresh : SessionId} {now : Instant} (mirrors : r.Mirrors store)
    (distinct : store.Distinct) (successive : store.Successive) (listed : listing.Perm r.tabled)
    (current : store.current? customer = some s) :
    r.create listing fresh customer now = ((s, false), r) := by
  unfold create
  rw [mirrors.find?_listing distinct successive listed, current]

theorem create_of_no_current {fresh : SessionId} {now : Instant} (mirrors : r.Mirrors store)
    (distinct : store.Distinct) (successive : store.Successive) (listed : listing.Perm r.tabled)
    (vacant : store.current? customer = none) :
    r.create listing fresh customer now =
      ((.new fresh customer now, true), r.add (.new fresh customer now)) := by
  unfold create
  rw [mirrors.find?_listing distinct successive listed, vacant]

theorem empty : Mirrors .empty .empty where
  order := rfl
  found _ := Std.HashMap.getElem?_empty
  journal := rfl

theorem add (mirrors : r.Mirrors store) (unused : ∀ u ∈ store.sessions, u.id ≠ s.id) :
    (r.add s).Mirrors (store.add s) where
  order := by simp [Registry.add, Store.add, mirrors.order]
  found id := by
    rw [Store.find?_add unused, ← mirrors.found]
    simp [Registry.add, Std.HashMap.getElem?_insert]
  journal := by simp [Registry.add, Store.add, mirrors.journal]

theorem record {v : Visit} (mirrors : r.Mirrors store) (found : store.find? id = some s)
    (same : v.session.id = id) : (r.record id v).Mirrors (store.record v) where
  order := by
    change r.order = (Store.put store.sessions v.session).map Session.id
    rw [Store.ids_put, mirrors.order]
  found other := by
    subst same
    rw [Store.find?_record found, ← mirrors.found]
    simp [Registry.record, Std.HashMap.getElem?_insert]
  journal := by
    change r.journal ++ v.journal = store.journal ++ v.journal
    rw [mirrors.journal]

theorem operate (mirrors : r.Mirrors store) (op : Session.Operation) :
    (stateAfter (visit id op.act) r).Mirrors (stateAfter (Store.visit id op.act) store) := by
  unfold stateAfter visit Store.visit
  rw [mirrors.found]
  cases found : store.find? id with
  | none => exact mirrors
  | some s =>
    have name : s.id = id := (Store.find?_eq_some found).2
    dsimp only
    rw [op.act_eq]
    cases allowed : op.refusal (Visit.start s).session with
    | none => exact mirrors.record found ((Session.Operation.advances allowed).id.trans name)
    | some refusal => exact mirrors.record found name

theorem perform (mirrors : r.Mirrors store) (distinct : store.Distinct)
    (successive : store.Successive) (listed : listing.Perm r.tabled) (request : Store.Request)
    (fresh : request.IsFresh store) :
    (stateAfter (Registry.perform listing request) r).Mirrors
      (stateAfter request.perform store) := by
  cases request with
  | create id customer now =>
    change (r.create listing id customer now).2.Mirrors (store.create id customer now).2
    cases current : store.current? customer with
    | some s =>
      rw [mirrors.create_of_current distinct successive listed current,
        Store.create_of_current current]
      exact mirrors
    | none =>
      rw [mirrors.create_of_no_current distinct successive listed current,
        Store.create_of_no_current current]
      exact mirrors.add fresh
  | operate id op => exact mirrors.operate op

end Mirrors

namespace Kept

theorem reached (kept : Kept r store) : store.Reached := by
  induction kept with
  | empty => exact .empty
  | request listing request _ _ fresh reached => exact .request request reached fresh

theorem mirrors (kept : Kept r store) : r.Mirrors store := by
  induction kept with
  | empty => exact .empty
  | request listing request earlier listed fresh mirrors =>
    have reached := earlier.reached
    exact mirrors.perform reached.distinct reached.successive listed request fresh

theorem exists_of_reached (reached : store.Reached) : ∃ r, Kept r store := by
  induction reached with
  | empty => exact ⟨.empty, .empty⟩
  | request request _ fresh ih =>
    obtain ⟨r, kept⟩ := ih
    exact ⟨_, kept.request r.tabled request (.refl _) fresh⟩

end Kept

end Registry
end Switchboard
