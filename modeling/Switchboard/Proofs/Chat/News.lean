import Switchboard.Proofs.Chat.Account
import Switchboard.Proofs.Chat.Operation

/-! What is told of an operation. It is the difference between the session before and the session
after, no more and no less: the messages that came, and then the status if it is another one. -/
namespace Switchboard

def Status.movesTo : Status → Status → Bool
  | .bot, .waiting | .waiting, .opened | .opened, .waiting => true
  | .bot, .closed | .waiting, .closed | .opened, .closed => true
  | _, _ => false

theorem Status.ne_of_movesTo {a b : Status} (moves : a.movesTo b = true) : a ≠ b := by
  intro same
  subst same
  cases a <;> contradiction

theorem Status.movesTo_closed {a : Status} (unclosed : a ≠ .closed) : a.movesTo .closed = true := by
  cases a <;> first | rfl | contradiction

namespace Event

def created? : Event → Option SessionId
  | .sessionCreated session _ => some session
  | _ => none

def statusChange? : Event → Option (Status × Status)
  | .statusChanged _ before after => some (before, after)
  | _ => none

/-- The changes lead from one status to the other, step by step. -/
def Course (start : Status) : List (Status × Status) → Status → Prop
  | [], finish => start = finish
  | (before, after) :: rest, finish =>
    before = start ∧ before.movesTo after = true ∧ Course after rest finish

theorem Course.append {a b c : Status} {changes more : List (Status × Status)}
    (first : Course a changes b) (second : Course b more c) : Course a (changes ++ more) c := by
  induction changes generalizing a with
  | nil =>
    have same : a = b := first
    subst same
    exact second
  | cons change rest ih =>
    obtain ⟨begins, moves, goesOn⟩ := first
    exact ⟨begins, moves, ih goesOn⟩

theorem Course.ne {a b : Status} {changes : List (Status × Status)} (course : Course a changes b) :
    ∀ change ∈ changes, change.1 ≠ change.2 := by
  induction changes generalizing a with
  | nil => simp
  | cons change rest ih =>
    obtain ⟨-, moves, goesOn⟩ := course
    intro other member
    rcases List.mem_cons.1 member with same | later
    · rw [same]
      exact Status.ne_of_movesTo moves
    · exact ih goesOn other later

end Event

namespace Session

variable {s t : Session}

def news (s t : Session) : List Event :=
  (t.messages.drop s.messages.length).map (.messageAppended s.id) ++ Visit.toldStatus s t

theorem news_of_log {more : List Message} (log : t.messages = s.messages ++ more) :
    s.news t = more.map (.messageAppended s.id) ++ Visit.toldStatus s t := by
  simp [news, log]

theorem toldStatus_eq_news (log : t.messages = s.messages) : Visit.toldStatus s t = s.news t := by
  have nothing : t.messages = s.messages ++ [] := by simpa using log
  simp [news_of_log nothing]

theorem nil_eq_news (log : t.messages = s.messages) (status : t.status = s.status) :
    [] = s.news t := by
  rw [← toldStatus_eq_news log]
  exact (if_pos status.symm).symm

theorem told_eq_news {message : Message} (log : t.messages = s.messages ++ [message]) :
    Visit.toldMessage s message ++ Visit.toldStatus s t = s.news t :=
  (news_of_log log).symm

theorem toldMessage_eq_news {message : Message} (log : t.messages = s.messages ++ [message])
    (status : t.status = s.status) : Visit.toldMessage s message = s.news t := by
  have same : Visit.toldStatus s t = [] := if_pos status.symm
  rw [← told_eq_news log, same, List.append_nil]

namespace Operation

def act : Operation → Visit.Act Unit
  | append post now => do let _ ← Visit.append post now
  | appendFromOperator operator text now => do
    let _ ← Visit.appendFromOperator operator text now
  | mergeVariables patch now => do let _ ← Visit.mergeVariables patch now
  | setPending node => Visit.setPending node
  | transfer queue operator now => Visit.transfer queue operator now
  | pickup operator announcement now => do let _ ← Visit.pickup operator announcement now
  | close closer farewell now => do let _ ← Visit.close closer farewell now

theorem change_eq_news {changes : Change α} {told : Session → Session → α → List Event}
    {guard : Option NotAllowed} {a : α} {v : Visit}
    (h : changes v.session = guarded guard a v.session t)
    (complete : told v.session t a = v.session.news t) :
    Visit.change changes told v = guarded guard a v ⟨t, v.journal ++ v.session.news t⟩ := by
  rw [Visit.change_eq h, complete]

theorem act_eq (op : Operation) (v : Visit) :
    op.act v = guarded (op.refusal v.session) () v
      ⟨op.outcome v.session, v.journal ++ v.session.news (op.outcome v.session)⟩ := by
  cases op with
  | append post now =>
    exact guarded_discard (change_eq_news append_eq (toldMessage_eq_news rfl rfl))
  | appendFromOperator operator text now =>
    exact guarded_discard (change_eq_news appendFromOperator_eq (toldMessage_eq_news rfl rfl))
  | mergeVariables patch now =>
    exact guarded_discard (change_eq_news mergeVariables_eq (nil_eq_news rfl rfl))
  | setPending node =>
    unfold act Visit.setPending
    exact change_eq_news setPending_eq (nil_eq_news rfl rfl)
  | transfer queue operator now =>
    unfold act Visit.transfer
    exact change_eq_news transfer_eq (toldStatus_eq_news rfl)
  | pickup operator announcement now =>
    exact guarded_discard (change_eq_news pickup_eq (told_eq_news rfl))
  | close closer farewell now =>
    exact guarded_discard (change_eq_news close_eq (told_eq_news rfl))

end Operation

structure Advances (s t : Session) : Prop where
  unclosed : s.status ≠ .closed
  id : t.id = s.id
  customer : t.customer = s.customer
  log : ∃ more, t.messages = s.messages ++ more
  status : t.status = s.status ∨ s.status.movesTo t.status = true

theorem Operation.advances {op : Operation} (allowed : op.refusal s = none) :
    s.Advances (op.outcome s) := by
  have unclosed : s.status ≠ .closed := by
    intro closed
    rw [refusal_of_closed op closed] at allowed
    contradiction
  have log : ∃ more, (op.outcome s).messages = s.messages ++ more := by
    obtain ⟨more, log, -⟩ := messages_outcome op s
    exact ⟨more, log⟩
  cases op with
  | append | appendFromOperator | mergeVariables | setPending =>
    exact ⟨unclosed, rfl, rfl, log, .inl rfl⟩
  | transfer queue operator now =>
    refine ⟨unclosed, rfl, rfl, log, ?_⟩
    change Status.waiting = s.status ∨ s.status.movesTo .waiting = true
    cases status : s.status <;> simp_all [Status.movesTo]
  | pickup operator announcement now =>
    have waiting : s.status = .waiting := status_of_pickupRefusal allowed
    refine ⟨unclosed, rfl, rfl, log, .inr ?_⟩
    rw [waiting]
    rfl
  | close closer farewell now =>
    exact ⟨unclosed, rfl, rfl, log, .inr (Status.movesTo_closed unclosed)⟩

theorem mem_news {e : Event} (member : e ∈ s.news t) :
    (∃ message, e = .messageAppended s.id message) ∨ e = .statusChanged s.id s.status t.status := by
  rcases List.mem_append.1 member with said | moved
  · obtain ⟨message, -, rfl⟩ := List.mem_map.1 said
    exact .inl ⟨message, rfl⟩
  · unfold Visit.toldStatus at moved
    split at moved
    · contradiction
    · exact .inr (List.mem_singleton.1 moved)

theorem session_of_news {e : Event} (member : e ∈ s.news t) : e.session = s.id := by
  rcases mem_news member with ⟨message, rfl⟩ | rfl <;> rfl

theorem created_of_news {e : Event} (member : e ∈ s.news t) : e.created? = none := by
  rcases mem_news member with ⟨message, rfl⟩ | rfl <;> rfl

namespace Advances

theorem messages (advances : s.Advances t) :
    t.messages = s.messages ++ (s.news t).filterMap Event.message? := by
  obtain ⟨more, log⟩ := advances.log
  have said : more.filterMap (fun message => (Event.messageAppended s.id message).message?) = more :=
    List.filterMap_some
  have quiet : (Visit.toldStatus s t).filterMap Event.message? = [] := by
    unfold Visit.toldStatus
    split <;> rfl
  rw [news_of_log log, List.filterMap_append, List.filterMap_map, quiet, List.append_nil, log]
  exact congrArg (s.messages ++ ·) said.symm

theorem course (advances : s.Advances t) :
    Event.Course s.status ((s.news t).filterMap Event.statusChange?) t.status := by
  obtain ⟨more, log⟩ := advances.log
  have said : (more.map (Event.messageAppended s.id)).filterMap Event.statusChange? = [] := by
    simp [List.filterMap_map, Event.statusChange?, Function.comp_def]
  rw [news_of_log log, List.filterMap_append, said, List.nil_append]
  by_cases same : s.status = t.status
  · have quiet : Visit.toldStatus s t = [] := if_pos same
    rw [quiet]
    exact same
  · have told : Visit.toldStatus s t = [.statusChanged s.id s.status t.status] := if_neg same
    rw [told]
    rcases advances.status with stays | moves
    · exact absurd stays.symm same
    · exact ⟨rfl, moves, rfl⟩

end Advances

end Session
end Switchboard
