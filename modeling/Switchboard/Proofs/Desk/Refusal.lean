import Switchboard.Desk.Office
import Switchboard.Proofs.Desk.Upkeep

/-! Failures. The flow does not fail at all, whatever the services answer, so a request fails only when
it is refused at once, and then it has done nothing. -/
namespace Switchboard

variable {here : Surroundings} {d : Desk} {o : Office} {g : Graph}

namespace Desk

/-- What can fail at a desk, and what is left when it does. -/
structure FailsCleanly (here : Surroundings) (d : Desk) : Prop where
  start : ∀ fresh customer, (∀ s ∈ d.store.sessions, s.id ≠ fresh) →
    ∃ s e, start here fresh customer d = .ok s e
  reply : ∀ id said failure e, reply here id said d = .error failure e →
    e = d ∧ ∀ s, d.store.find? id = some s → s.status = .closed
  pickup : ∀ id operator failure e, pickup here id operator d = .error failure e → e = d
  operatorReply : ∀ id operator text failure e,
    operatorReply here id operator text d = .error failure e → e = d
  transfer : ∀ id queue operator failure e,
    transfer here id queue operator d = .error failure e → e = d
  close : ∀ id operator failure e, close here id operator d = .error failure e → e = d
  delay : ∀ timer ∈ d.timers, ∃ e, continueAfter here timer.continuation (d.drop timer) = .ok () e

theorem closed_of_reply_error {id : SessionId} {said : Reply} {failure : Failure} {s : Session}
    {e : Desk} (order : d.InOrder here.graph) (failed : reply here id said d = .error failure e)
    (found : d.store.find? id = some s) : s.status = .closed := by
  by_contra open_
  obtain ⟨known, rfl⟩ := Store.find?_eq_some found
  have taken : Succeeds (reply here s.id said) d _ := reply_succeeds order known open_
  obtain ⟨_, _, done, -⟩ := taken
  rw [failed] at done
  contradiction

theorem InOrder.failsCleanly (order : d.InOrder here.graph) : d.FailsCleanly here where
  start := by
    intro fresh customer unused
    have served : Succeeds (Desk.start here fresh customer) d _ := start_succeeds order unused
    obtain ⟨s, e, done, -⟩ := served
    exact ⟨s, e, done⟩
  reply := by
    intro id said failure e failed
    refine ⟨(reply_attempts order).of_error failed, ?_⟩
    intro s found
    exact closed_of_reply_error order failed found
  pickup := by
    intro id operator failure e failed
    exact (pickup_attempts order).of_error failed
  operatorReply := by
    intro id operator text failure e failed
    exact (operatorReply_attempts order).of_error failed
  transfer := by
    intro id queue operator failure e failed
    exact (transfer_attempts order).of_error failed
  close := by
    intro id operator failure e failed
    exact (close_attempts order).of_error failed
  delay := by
    intro timer set
    obtain ⟨_, e, done, -⟩ := continueAfter_succeeds order set
    exact ⟨e, done⟩

end Desk

namespace Office

/-- The same of an office, which besides takes notice that an operator is there. -/
structure FailsCleanly (o : Office) : Prop where
  start : ∀ fresh customer, (∀ s ∈ o.desk.store.sessions, s.id ≠ fresh) →
    ∃ s o', start fresh customer o = .ok s o'
  reply : ∀ id said failure o', reply id said o = .error failure o' →
    o' = o ∧ ∀ s, o.desk.store.find? id = some s → s.status = .closed
  pickup : ∀ id operator failure o', pickup id operator o = .error failure o' →
    o' = o.heartbeat operator.id
  operatorReply : ∀ id operator text failure o', operatorReply id operator text o = .error failure o' →
    o' = o.heartbeat operator.id
  transfer : ∀ id queue operator failure o', transfer id queue operator o = .error failure o' → o' = o
  close : ∀ id operator failure o', close id operator o = .error failure o' → o' = o

section Act

variable {α : Type} {work : Surroundings → Desk.Op α} {a : α} {failure : Failure} {e : Desk}
variable {o' : Office}

theorem act_of_ok (done : work o.surroundings o.desk = .ok a e) :
    act work o = .ok a { o with desk := e } := by
  unfold act
  rw [done]

theorem act_error (clean : ∀ failure e, work o.surroundings o.desk = .error failure e → e = o.desk)
    (failed : act work o = .error failure o') :
    o' = o ∧ work o.surroundings o.desk = .error failure o.desk := by
  unfold act at failed
  cases run : work o.surroundings o.desk with
  | ok a e =>
    rw [run] at failed
    contradiction
  | error other e =>
    have same : e = o.desk := clean other e run
    subst same
    rw [run] at failed
    cases failed
    exact ⟨rfl, rfl⟩

end Act

theorem failsCleanly (clean : ∀ here : Surroundings, here.graph = o.graph → o.desk.FailsCleanly here) :
    o.FailsCleanly where
  start := by
    intro fresh customer unused
    obtain ⟨s, e, done⟩ := (clean o.surroundings rfl).start fresh customer unused
    exact ⟨s, { o with desk := e }, act_of_ok done⟩
  reply := by
    intro id said failure o' failed
    have cleanly := (clean o.surroundings rfl).reply id said
    obtain ⟨same, refused⟩ := act_error (fun failure e h => (cleanly failure e h).1) failed
    exact ⟨same, (cleanly failure o.desk refused).2⟩
  pickup := by
    intro id operator failure o' failed
    have cleanly := (clean (o.heartbeat operator.id).surroundings rfl).pickup id operator
    change act (fun here => Desk.pickup here id operator) (o.heartbeat operator.id) = _ at failed
    exact (act_error cleanly failed).1
  operatorReply := by
    intro id operator text failure o' failed
    have cleanly := (clean (o.heartbeat operator.id).surroundings rfl).operatorReply id operator text
    change act (fun here => Desk.operatorReply here id operator text) (o.heartbeat operator.id) = _
      at failed
    exact (act_error cleanly failed).1
  transfer := by
    intro id queue operator failure o' failed
    exact (act_error ((clean o.surroundings rfl).transfer id queue operator) failed).1
  close := by
    intro id operator failure o' failed
    exact (act_error ((clean o.surroundings rfl).close id operator) failed).1

end Office

/-- In every state that a desk can reach, a new customer is always served, only an unknown or closed
session refuses a reply, no delay goes wrong, and whatever fails has done nothing. -/
theorem Desk.Reached.fails_without_trace (reached : Reached g d) :
    (∀ here : Surroundings, here.graph = g → d.FailsCleanly here) ∧
      ∀ o : Office, o.graph = g → o.desk = d → o.FailsCleanly := by
  have clean : ∀ here : Surroundings, here.graph = g → d.FailsCleanly here := by
    intro here graph
    subst graph
    exact reached.inOrder.failsCleanly
  refine ⟨clean, ?_⟩
  intro o graph desk
  subst graph desk
  exact Office.failsCleanly clean

theorem Desk.onHold_never_fails :
    (∃ s e, start .silent ⟨"chat_2"⟩ "bia" onHold = .ok s e) ∧
      ∃ e, continueAfter .silent holdTimer.continuation (onHold.drop holdTimer) = .ok () e := by
  obtain ⟨clean, -⟩ := onHold_reached.fails_without_trace
  have here : onHold.FailsCleanly .silent := clean .silent rfl
  constructor
  · exact here.start ⟨"chat_2"⟩ "bia" (by decide)
  · exact here.delay holdTimer (by decide)

end Switchboard
