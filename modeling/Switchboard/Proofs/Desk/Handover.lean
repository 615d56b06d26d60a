import Switchboard.Proofs.Desk.Upkeep

/-! Handing a session over is for good. What a desk does later, and what it does at the end of the very
run that hands the session over, leaves the session to its customer and to operators. -/
namespace Switchboard

section Account

variable {s t : Session} {told : List Event}

theorem Event.sender_of_not_isOfFlow {e : Event} {message : Message}
    (told : e.message? = some message) (quiet : e.isOfFlow = false) : message.sender ≠ .bot := by
  cases e with
  | messageAppended id appended =>
    cases told
    simpa [isOfFlow] using quiet
  | _ => contradiction

theorem Account.log_of_gone (account : Account s told t) (gone : s.status ≠ .bot) :
    ∃ more, t.messages = s.messages ++ more ∧ ∀ message ∈ more, message.sender ≠ .bot := by
  refine ⟨_, account.log, ?_⟩
  intro message member
  obtain ⟨e, he, appended⟩ := List.mem_filterMap.1 member
  exact Event.sender_of_not_isOfFlow appended (account.silent gone e he)

end Account

namespace Desk

variable {g : Graph} {d e : Desk} {s : Session} {id : SessionId}

theorem Keeps.account (keeps : Keeps g d e) (order : d.InOrder g)
    (found : d.store.find? id = some s) :
    ∃ t, e.store.find? id = some t ∧ ∃ told, Account s told t := by
  obtain ⟨known, rfl⟩ := Store.find?_eq_some found
  obtain ⟨t, there, told, account⟩ := keeps.becomes.account order.distinct known
  refine ⟨t, ?_, told, account⟩
  rw [← account.id]
  exact keeps.order.distinct.find? there

theorem Keeps.of_gone (keeps : Keeps g d e) (order : d.InOrder g)
    (found : d.store.find? id = some s) (gone : s.status ≠ .bot) :
    ∃ t, e.store.find? id = some t ∧ t.status ≠ .bot ∧ t.bag = s.bag ∧ t.pending = none ∧
      (∃ more, t.messages = s.messages ++ more ∧ ∀ message ∈ more, message.sender ≠ .bot) ∧
      (s.status = .closed → t = s) := by
  obtain ⟨t, there, told, account⟩ := keeps.account order found
  have idle : s.pending = none :=
    (order.settled s (Store.find?_eq_some found).1).idle_of_gone gone
  exact ⟨t, there, account.kept gone, account.bag gone, account.idle gone idle,
    account.log_of_gone gone, account.ended⟩

/-- Once a session has left the flow, only its customer, operators and the desk itself add to it, and
nobody once it is closed. The journal shows that no run goes on in a session which it hands over. -/
theorem Reached.handed_over (reached : Reached g d) (later : Later g d e)
    (found : d.store.find? id = some s) (gone : s.status ≠ .bot) :
    (∃ t, e.store.find? id = some t ∧ t.status ≠ .bot ∧ t.bag = s.bag ∧ t.pending = none ∧
        (∃ more, t.messages = s.messages ++ more ∧ ∀ message ∈ more, message.sender ≠ .bot) ∧
        (s.status = .closed → t = s)) ∧
      Event.Orderly e.store.journal := by
  have order := reached.inOrder
  have keeps := later.keeps order
  exact ⟨keeps.of_gone order found gone, (keeps.becomes.faithful reached.faithful).orderly⟩

theorem transferred_for_good : ∃ s, transferred.store.find? ⟨"chat_1"⟩ = some s ∧
    ∃ t, (transferred.fire .silent holdTimer).store.find? ⟨"chat_1"⟩ = some t ∧
      t.status ≠ .bot ∧ t.bag = s.bag := by
  have fired : Later .patient transferred (transferred.fire .silent holdTimer) :=
    .single (.fire .silent holdTimer rfl (by decide))
  have there : (transferred.store.find? ⟨"chat_1"⟩).isSome := by decide
  obtain ⟨s, found⟩ := Option.isSome_iff_exists.1 there
  have left : ∀ s ∈ transferred.store.sessions, s.status ≠ .bot := by decide
  have gone : s.status ≠ .bot := left s (Store.find?_eq_some found).1
  obtain ⟨⟨t, later, status, bag, -⟩, -⟩ := transferred_reached.handed_over fired found gone
  exact ⟨s, found, t, later, status, bag⟩

end Desk
end Switchboard
