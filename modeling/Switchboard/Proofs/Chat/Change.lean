import Switchboard.Chat.Session
import Switchboard.Proofs.Success

/-! Every change of a session asks its guard first and cannot fail afterwards. So each is known by one
equation: the refusals of its guard, the session it leaves, and what it returns. A refused change
leaves the session alone, which need not be said of each change again. -/
namespace Switchboard.Session

variable {s : Session} {now : Instant}

@[simp] theorem isClosed_iff : s.isClosed = true ↔ s.status = .closed := by
  simp [isClosed]

def closedRefusal (s : Session) : Option NotAllowed :=
  if s.isClosed then some .closed else none

theorem closedRefusal_eq_none_iff : s.closedRefusal = none ↔ s.status ≠ .closed := by
  simp [closedRefusal]

theorem appendRefusal_eq_none_iff {sender : Sender} :
    s.appendRefusal sender = none ↔
      s.status ≠ .closed ∧ (sender = .agent → s.status = .opened) := by
  unfold appendRefusal isClosed
  cases s.status <;> cases sender <;> decide

def say (s : Session) (message : Message) : Session :=
  { s with messages := s.messages ++ [message], updatedAt := message.timestamp }

theorem append_eq {post : Post} :
    append post now s =
      guarded (s.appendRefusal post.sender) (post.stamp now) s (s.say (post.stamp now)) := by
  unfold append
  cases s.appendRefusal post.sender <;> rfl

def operatorRefusal (s : Session) (operator : String) : Option NotAllowed :=
  if s.status == .opened && s.operator != some operator then some (.notOwner operator)
  else s.appendRefusal .agent

theorem operatorRefusal_eq_none_iff {operator : String} :
    s.operatorRefusal operator = none ↔ s.status = .opened ∧ s.operator = some operator := by
  unfold operatorRefusal
  split
  · rename_i foreign
    simp_all
  · rename_i owned
    rw [appendRefusal_eq_none_iff]
    constructor
    · intro h
      obtain ⟨-, opened⟩ := h
      exact ⟨opened rfl, by simpa [opened rfl] using owned⟩
    · intro h
      obtain ⟨opened, -⟩ := h
      simp [opened]

theorem appendFromOperator_eq {operator text : String} :
    appendFromOperator operator text now s =
      guarded (s.operatorRefusal operator) ((Post.agent text).stamp now) s
        (s.say ((Post.agent text).stamp now)) := by
  unfold appendFromOperator operatorRefusal
  split
  · rfl
  · exact append_eq

theorem mergeVariables_eq {patch : Variables} :
    mergeVariables patch now s =
      guarded s.closedRefusal (s.bag.merge patch) s
        { s with bag := s.bag.merge patch, updatedAt := now } := by
  unfold mergeVariables closedRefusal
  split <;> rfl

theorem setPending_eq {node : Option String} :
    setPending node s = guarded s.closedRefusal () s { s with pending := node } := by
  unfold setPending closedRefusal
  split <;> rfl

def enqueue (s : Session) (queue operator : Option String) (now : Instant) : Session :=
  { s with
    queue := queue.or s.queue, operator := none, operatorName := none, reservedFor := operator
    pending := none, status := .waiting, updatedAt := now }

theorem transfer_eq {queue operator : Option String} :
    transfer queue operator now s =
      guarded s.closedRefusal () s (s.enqueue queue operator now) := by
  unfold transfer closedRefusal
  split <;> rfl

def assign (s : Session) (operator : Operator) : Session :=
  { s with
    operator := some operator.id, operatorName := some operator.name, reservedFor := none
    status := .opened }

theorem pickupRefusal_eq_none_iff {operator : String} :
    s.pickupRefusal operator = none ↔
      s.status = .waiting ∧ s.operator = none ∧
        ∀ reserved, s.reservedFor = some reserved → reserved = operator := by
  unfold pickupRefusal isClosed
  cases assigned : s.operator with
  | some current => cases s.status <;> simp
  | none => cases reserved : s.reservedFor <;> cases s.status <;> simp

theorem status_of_pickupRefusal {operator : String} (h : s.pickupRefusal operator = none) :
    s.status = .waiting :=
  (pickupRefusal_eq_none_iff.1 h).1

theorem pickup_eq {operator : Operator} {announcement : String} :
    pickup operator announcement now s =
      guarded (s.pickupRefusal operator.id) ((Post.system announcement).stamp now) s
        ((s.assign operator).say ((Post.system announcement).stamp now)) := by
  unfold pickup
  cases s.pickupRefusal operator.id with
  | some refusal => rfl
  | none =>
    have taken : (s.assign operator).appendRefusal (Post.system announcement).sender = none := by
      rw [appendRefusal_eq_none_iff]
      exact ⟨by simp [assign], by simp [Post.system]⟩
    change append (.system announcement) now (s.assign operator) = _
    rw [append_eq, taken]
    rfl

def finish (s : Session) : Session := { s with status := .closed, pending := none }

theorem status_of_closeRefusal {closer : Closer} (h : s.closeRefusal closer = none) :
    s.status ≠ .closed := by
  intro closed
  simp [closeRefusal, closed] at h

theorem closeRefusal_flow_eq_none_iff : s.closeRefusal .flow = none ↔ s.status = .bot := by
  cases h : s.status <;> simp [closeRefusal, isClosed, h]

theorem isHandedOver_iff : s.isHandedOver = true ↔ s.status = .waiting ∨ s.status = .opened := by
  simp [isHandedOver]

theorem closeRefusal_supervisor_eq_none_iff {id : String} :
    s.closeRefusal (.supervisor id) = none ↔ s.isHandedOver = true := by
  cases h : s.status <;> simp [closeRefusal, isClosed, isHandedOver, h]

theorem closeRefusal_operator_eq_none_iff {id : String} :
    s.closeRefusal (.operator id) = none ↔ s.isHandedOver = true ∧ s.operator = some id := by
  cases h : s.status <;> simp [closeRefusal, isClosed, isHandedOver, h]

theorem close_eq {closer : Closer} {farewell : String} :
    close closer farewell now s =
      guarded (s.closeRefusal closer) ((Post.system farewell).stamp now) s
        (s.say ((Post.system farewell).stamp now)).finish := by
  unfold close
  cases guard : s.closeRefusal closer with
  | some refusal => rfl
  | none =>
    have taken : s.appendRefusal (Post.system farewell).sender = none := by
      rw [appendRefusal_eq_none_iff]
      exact ⟨status_of_closeRefusal guard, by simp [Post.system]⟩
    simp only [append_eq, taken]
    rfl

end Switchboard.Session
