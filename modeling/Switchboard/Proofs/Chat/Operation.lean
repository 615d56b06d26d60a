import Switchboard.Proofs.Chat.Change

/-! Everything that can be asked of a session, as one kind of thing: a guard that may refuse it, and
what it leaves where the guard lets it pass. Nothing is supposed of the session. One that was read from
a document and contradicts itself is served and refused like any other. -/
namespace Switchboard.Session

inductive Operation
  | append (post : Post) (now : Instant)
  | appendFromOperator (operator text : String) (now : Instant)
  | mergeVariables (patch : Variables) (now : Instant)
  | setPending (node : Option String)
  | transfer (queue operator : Option String) (now : Instant)
  | pickup (operator : Operator) (announcement : String) (now : Instant)
  | close (closer : Closer) (farewell : String) (now : Instant)

namespace Operation

def perform : Operation → Change Unit
  | append post now => do let _ ← Session.append post now
  | appendFromOperator operator text now => do
    let _ ← Session.appendFromOperator operator text now
  | mergeVariables patch now => do let _ ← Session.mergeVariables patch now
  | setPending node => Session.setPending node
  | transfer queue operator now => Session.transfer queue operator now
  | pickup operator announcement now => do let _ ← Session.pickup operator announcement now
  | close closer farewell now => do let _ ← Session.close closer farewell now

def refusal (s : Session) : Operation → Option NotAllowed
  | append post _ => s.appendRefusal post.sender
  | appendFromOperator operator _ _ => s.operatorRefusal operator
  | mergeVariables .. | setPending _ | transfer .. => s.closedRefusal
  | pickup operator _ _ => s.pickupRefusal operator.id
  | close closer _ _ => s.closeRefusal closer

def outcome (s : Session) : Operation → Session
  | append post now => s.say (post.stamp now)
  | appendFromOperator _ text now => s.say ((Post.agent text).stamp now)
  | mergeVariables patch now => { s with bag := s.bag.merge patch, updatedAt := now }
  | setPending node => { s with pending := node }
  | transfer queue operator now => s.enqueue queue operator now
  | pickup operator announcement now =>
    (s.assign operator).say ((Post.system announcement).stamp now)
  | close _ farewell now => (s.say ((Post.system farewell).stamp now)).finish

variable {s t : Session} {op : Operation}

theorem perform_eq (op : Operation) (s : Session) :
    op.perform s = guarded (op.refusal s) () s (op.outcome s) := by
  cases op with
  | append post now => exact guarded_discard append_eq
  | appendFromOperator operator text now => exact guarded_discard appendFromOperator_eq
  | mergeVariables patch now => exact guarded_discard mergeVariables_eq
  | setPending node => exact setPending_eq
  | transfer queue operator now => exact transfer_eq
  | pickup operator announcement now => exact guarded_discard pickup_eq
  | close closer farewell now => exact guarded_discard close_eq

theorem perform_eq_ok_iff : op.perform s = .ok () t ↔ op.refusal s = none ∧ t = op.outcome s := by
  rw [perform_eq, guarded_eq_ok_iff]
  simp

theorem perform_eq_error_iff {e : NotAllowed} :
    op.perform s = .error e t ↔ op.refusal s = some e ∧ t = s := by
  rw [perform_eq, guarded_eq_error_iff]

theorem messages_outcome (op : Operation) (s : Session) :
    ∃ more, (op.outcome s).messages = s.messages ++ more ∧ more.length ≤ 1 := by
  cases op with
  | append post now => exact ⟨[post.stamp now], rfl, Nat.le_refl 1⟩
  | appendFromOperator operator text now =>
    exact ⟨[(Post.agent text).stamp now], rfl, Nat.le_refl 1⟩
  | pickup operator announcement now =>
    exact ⟨[(Post.system announcement).stamp now], rfl, Nat.le_refl 1⟩
  | close closer farewell now => exact ⟨[(Post.system farewell).stamp now], rfl, Nat.le_refl 1⟩
  | mergeVariables | setPending | transfer => exact ⟨[], by simp [outcome, enqueue], Nat.zero_le 1⟩

theorem refusal_of_closed (op : Operation) (closed : s.status = .closed) :
    op.refusal s = some .closed := by
  have ended : s.isClosed = true := isClosed_iff.2 closed
  cases op with
  | append => simp [refusal, appendRefusal, ended]
  | appendFromOperator => simp [refusal, operatorRefusal, appendRefusal, ended, closed]
  | mergeVariables | setPending | transfer => simp [refusal, closedRefusal, ended]
  | pickup => simp [refusal, pickupRefusal, ended]
  | close => simp [refusal, closeRefusal, ended]

/-- Whatever is asked of whatever session: what is refused has changed nothing, a closed session
refuses everything, and what succeeds adds at most one message and leaves the earlier ones alone. -/
theorem all_or_nothing (op : Operation) (s : Session) :
    (∀ e t, op.perform s = .error e t → t = s) ∧
      (s.status = .closed → op.perform s = .error .closed s) ∧
      ∀ t, op.perform s = .ok () t →
        ∃ more, t.messages = s.messages ++ more ∧ more.length ≤ 1 := by
  refine ⟨?_, ?_, ?_⟩
  · intro e t failed
    exact (perform_eq_error_iff.1 failed).2
  · intro closed
    exact perform_eq_error_iff.2 ⟨refusal_of_closed op closed, rfl⟩
  · intro t done
    have left : t = op.outcome s := (perform_eq_ok_iff.1 done).2
    rw [left]
    exact messages_outcome op s

end Operation
end Switchboard.Session
