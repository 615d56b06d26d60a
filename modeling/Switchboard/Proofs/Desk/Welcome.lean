import Switchboard.Proofs.Chat.Registry
import Switchboard.Proofs.Desk.History

/-! Customers who come back. Whoever has an open session is given this one, and nothing happens to it;
a new one begins only when every earlier one is over. -/
namespace Switchboard

namespace Desk

variable {here : Surroundings} {d : Desk} {s : Session} {fresh : SessionId} {customer : String}

theorem register_of_current (current : d.store.current? customer = some s) :
    register here fresh customer d = .ok (s, false) d := by
  unfold register
  rw [Store.create_of_current current]

theorem register_of_new (new : d.store.current? customer = none) :
    let s := Session.new fresh customer (here.services.now 0)
    register here fresh customer d = .ok (s, true) { d with store := d.store.add s } := by
  intro s
  unfold register
  rw [Store.create_of_no_current new]

theorem start_of_current (current : d.store.current? customer = some s) :
    start here fresh customer d = .ok s d :=
  bind_of_ok (register_of_current current)

end Desk

namespace Registry

/-- The customer is given this session, however the table lists it, and all stays as it was. At a desk
with these sessions, whatever else has been told there, no flow begins again and nothing is said. -/
structure Gives (r : Registry) (store : Store) (customer : String) (s : Session) : Prop where
  listed : ∀ listing : List Session, listing.Perm r.tabled → ∀ fresh now,
    r.create listing fresh customer now = ((s, false), r)
  stored : ∀ fresh now, store.create fresh customer now = ((s, false), store)
  started : ∀ (d : Desk) (here : Surroundings) (fresh : SessionId),
    d.store.sessions = store.sessions → Desk.start here fresh customer d = .ok s d

/-- The customer is given a new session, however the table lists the others. -/
structure Opens (r : Registry) (store : Store) (customer : String) : Prop where
  listed : ∀ listing : List Session, listing.Perm r.tabled → ∀ fresh now,
    r.create listing fresh customer now =
      ((.new fresh customer now, true), r.add (.new fresh customer now))
  stored : ∀ fresh now, store.create fresh customer now =
    ((.new fresh customer now, true), store.add (.new fresh customer now))

variable {r : Registry} {store : Store} {customer : String} {s : Session}

theorem Kept.gives (kept : Kept r store) (current : store.current? customer = some s) :
    r.Gives store customer s where
  listed _ listed _ _ :=
    kept.mirrors.create_of_current kept.reached.distinct kept.reached.successive listed current
  stored _ _ := Store.create_of_current current
  started d here fresh same := by
    have there : d.store.current? customer = some s := by
      unfold Store.current?
      rw [same]
      exact current
    exact Desk.start_of_current there

theorem Kept.opens (kept : Kept r store) (vacant : store.current? customer = none) :
    r.Opens store customer where
  listed _ listed _ _ :=
    kept.mirrors.create_of_no_current kept.reached.distinct kept.reached.successive listed vacant
  stored _ _ := Store.create_of_no_current vacant

/-- The order of creation and the table name the same sessions, each once. Of a customer's sessions all
but the youngest are closed. The youngest is what the customer is given unless it is closed too, and a
new one is begun only then. -/
theorem Kept.only_youngest_open (kept : Kept r store) :
    (r.order.Nodup ∧ (∀ id, id ∈ r.order ↔ id ∈ r.byId) ∧
        r.order = r.journal.filterMap Event.created?) ∧
      (r.list = store.sessions ∧ r.journal = store.journal) ∧
      ∀ customer,
        (∀ s ∈ (store.of customer).dropLast, s.status = .closed) ∧
        (∀ s ∈ store.of customer, s.status ≠ .closed → r.Gives store customer s) ∧
        ((∀ s ∈ store.of customer, s.status = .closed) → r.Opens store customer) ∧
        store.history customer <+: store.of customer := by
  have mirrors := kept.mirrors
  have reached := kept.reached
  refine ⟨⟨?_, ?_, ?_⟩, ⟨mirrors.list_eq reached.distinct, mirrors.journal⟩, ?_⟩
  · rw [mirrors.order]
    exact reached.distinct
  · intro id
    exact mirrors.mem_byId_iff.symm
  · rw [mirrors.order, mirrors.journal]
    exact reached.chronological
  · intro customer
    have successive := reached.successive
    refine ⟨successive.closed_of_dropLast customer, ?_, ?_, successive.history_prefix customer⟩
    · intro s member unclosed
      exact kept.gives (successive.current?_eq_some_iff.2 ⟨member, unclosed⟩)
    · intro ended
      apply kept.opens
      rw [Store.current?_eq_none_iff]
      intro s known its
      exact ended s (Store.mem_of.2 ⟨known, its⟩)

theorem returned_given_second : ∃ r, Kept r .returned ∧
    ∃ s ∈ Store.returned.of "ana", s.id = ⟨"chat_2"⟩ ∧ s.status ≠ .closed ∧
      r.Gives .returned "ana" s ∧ Store.returned.history "ana" <+: Store.returned.of "ana" := by
  obtain ⟨r, kept⟩ := Kept.exists_of_reached Store.returned_reached
  obtain ⟨-, -, customers⟩ := kept.only_youngest_open
  obtain ⟨-, gives, -, oldest⟩ := customers "ana"
  have second : ∃ s ∈ Store.returned.of "ana", s.id = ⟨"chat_2"⟩ ∧ s.status ≠ .closed := by decide
  obtain ⟨s, member, name, unclosed⟩ := second
  exact ⟨r, kept, s, member, name, unclosed, gives s member unclosed, oldest⟩

end Registry
end Switchboard
