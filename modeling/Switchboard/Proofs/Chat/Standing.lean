import Switchboard.Proofs.Chat.Operation

/-! What a session keeps of its past. Whatever has been done to it, only the last time that it was
transferred, picked up or closed decides how it stands and what it allows next, and no field remembers
anything older by accident. -/
namespace Switchboard.Session

/-- What brings a session from one hand into another. -/
inductive Turn
  | transfer (queue reserved : Option String)
  | pickup (operator : Operator)
  | close (closer : Closer)

namespace Operation

def turn? : Operation → Option Turn
  | transfer queue operator _ => some (.transfer queue operator)
  | pickup operator _ _ => some (.pickup operator)
  | close closer _ _ => some (.close closer)
  | append .. | appendFromOperator .. | mergeVariables .. | setPending _ => none

def queue? : Operation → Option String
  | transfer queue _ _ => queue
  | _ => none

def AllowedAfter (last : Option Turn) : Operation → Prop
  | append post _ =>
    (¬ ∃ closer, last = some (.close closer)) ∧
      (post.sender = .agent → ∃ operator, last = some (.pickup operator))
  | appendFromOperator id _ _ => ∃ operator, last = some (.pickup operator) ∧ operator.id = id
  | mergeVariables .. | setPending _ | transfer .. => ¬ ∃ closer, last = some (.close closer)
  | pickup operator _ _ =>
    ∃ queue reserved, last = some (.transfer queue reserved) ∧
      (reserved = none ∨ reserved = some operator.id)
  | close (.operator id) _ _ => ∃ operator, last = some (.pickup operator) ∧ operator.id = id
  | close (.supervisor _) _ _ =>
    (∃ queue reserved, last = some (.transfer queue reserved)) ∨
      ∃ operator, last = some (.pickup operator)
  | close .flow _ _ => last = none

end Operation

/-- How a session stands after its last turn. -/
def StandsAfter (s : Session) : Option Turn → Prop
  | none => s.status = .bot ∧ s.operator = none ∧ s.operatorName = none
  | some (.transfer _ reserved) =>
    s.status = .waiting ∧ s.reservedFor = reserved ∧ s.operator = none ∧ s.operatorName = none
  | some (.pickup operator) =>
    s.status = .opened ∧ s.operator = some operator.id ∧ s.operatorName = some operator.name ∧
      s.reservedFor = none
  | some (.close _) => s.status = .closed

namespace StandsAfter

variable {s t : Session} {last : Option Turn}

theorem bot_iff (stands : s.StandsAfter last) : s.status = .bot ↔ last = none := by
  rcases last with _ | turn
  · simpa using stands.1
  · cases turn <;> simp_all [StandsAfter]

theorem waiting_iff (stands : s.StandsAfter last) :
    s.status = .waiting ↔ ∃ queue reserved, last = some (.transfer queue reserved) := by
  rcases last with _ | turn
  · simp_all [StandsAfter]
  · cases turn <;> simp_all [StandsAfter]

theorem opened_iff (stands : s.StandsAfter last) :
    s.status = .opened ↔ ∃ operator, last = some (.pickup operator) := by
  rcases last with _ | turn
  · simp_all [StandsAfter]
  · cases turn <;> simp_all [StandsAfter]

theorem closed_iff (stands : s.StandsAfter last) :
    s.status = .closed ↔ ∃ closer, last = some (.close closer) := by
  rcases last with _ | turn
  · simp_all [StandsAfter]
  · cases turn <;> simp_all [StandsAfter]

theorem served_iff {id : String} (stands : s.StandsAfter last) :
    s.status = .opened ∧ s.operator = some id ↔
      ∃ operator, last = some (.pickup operator) ∧ operator.id = id := by
  rcases last with _ | turn
  · simp_all [StandsAfter]
  · cases turn <;> simp_all [StandsAfter]

theorem isHandedOver_iff {id : String} (stands : s.StandsAfter last) :
    s.isHandedOver = true ∧ s.operator = some id ↔ s.status = .opened ∧ s.operator = some id := by
  rw [Session.isHandedOver_iff]
  rcases last with _ | turn
  · simp_all [StandsAfter]
  · cases turn <;> simp_all [StandsAfter]

theorem offered_iff {id : String} (stands : s.StandsAfter last) :
    (s.status = .waiting ∧ s.operator = none ∧
        ∀ reserved, s.reservedFor = some reserved → reserved = id) ↔
      ∃ queue reserved, last = some (.transfer queue reserved) ∧
        (reserved = none ∨ reserved = some id) := by
  rcases last with _ | turn
  · simp_all [StandsAfter]
  · cases turn with
    | transfer queue reserved =>
      obtain ⟨waiting, reservedFor, nobody, -⟩ := stands
      constructor
      · intro offered
        refine ⟨queue, reserved, rfl, ?_⟩
        cases reserved with
        | none => exact .inl rfl
        | some one => exact .inr (congrArg some (offered.2.2 one reservedFor))
      · intro offered
        obtain ⟨_, _, same, free⟩ := offered
        cases same
        refine ⟨waiting, nobody, ?_⟩
        intro one named
        rw [reservedFor] at named
        rcases free with rfl | rfl
        · contradiction
        · exact (Option.some.inj named).symm
    | pickup | close => simp_all [StandsAfter]

theorem of_same (stands : s.StandsAfter last) (status : t.status = s.status)
    (operator : t.operator = s.operator) (name : t.operatorName = s.operatorName)
    (reserved : t.reservedFor = s.reservedFor) : t.StandsAfter last := by
  rcases last with _ | turn
  · simp_all [StandsAfter]
  · cases turn <;> simp_all [StandsAfter]

theorem allowed_iff (stands : s.StandsAfter last) (op : Operation) :
    op.refusal s = none ↔ op.AllowedAfter last := by
  have unclosed : s.closedRefusal = none ↔ ¬ ∃ closer, last = some (.close closer) := by
    rw [closedRefusal_eq_none_iff, ← stands.closed_iff]
  cases op with
  | append post now =>
    refine appendRefusal_eq_none_iff.trans ?_
    rw [stands.opened_iff, ne_eq, stands.closed_iff]
    rfl
  | appendFromOperator id text now => exact operatorRefusal_eq_none_iff.trans stands.served_iff
  | mergeVariables | setPending | transfer => exact unclosed
  | pickup operator announcement now => exact pickupRefusal_eq_none_iff.trans stands.offered_iff
  | close closer farewell now =>
    cases closer with
    | operator id =>
      refine closeRefusal_operator_eq_none_iff.trans ?_
      exact stands.isHandedOver_iff.trans stands.served_iff
    | supervisor id =>
      have handed : s.closeRefusal (.supervisor id) = none ↔ s.isHandedOver = true :=
        closeRefusal_supervisor_eq_none_iff
      refine handed.trans ?_
      rw [Session.isHandedOver_iff, stands.waiting_iff, stands.opened_iff]
      rfl
    | flow => exact closeRefusal_flow_eq_none_iff.trans stands.bot_iff

theorem outcome {op : Operation} (stands : s.StandsAfter last) :
    (op.outcome s).StandsAfter (op.turn?.or last) := by
  cases op with
  | append | appendFromOperator | mergeVariables | setPending =>
    exact stands.of_same rfl rfl rfl rfl
  | transfer queue operator now => exact ⟨rfl, rfl, rfl, rfl⟩
  | pickup operator announcement now => exact ⟨rfl, rfl, rfl, rfl⟩
  | close closer farewell now => rfl

end StandsAfter

/-- A session with all that has been done to it. What was refused is not done. -/
structure History where
  session : Session
  done : List Operation

namespace History

def start (s : Session) : History := ⟨s, []⟩

def attempt (h : History) (op : Operation) : History :=
  match op.perform h.session with
  | .ok _ t => ⟨t, h.done ++ [op]⟩
  | .error _ t => ⟨t, h.done⟩

def last? (h : History) (read : Operation → Option α) : Option α :=
  (h.done.filterMap read).getLast?

variable {h : History} {op : Operation}

theorem attempt_of_refused {e : NotAllowed} (refused : op.refusal h.session = some e) :
    h.attempt op = h := by
  rw [attempt, Operation.perform_eq, refused]
  rfl

theorem attempt_of_allowed (allowed : op.refusal h.session = none) :
    h.attempt op = ⟨op.outcome h.session, h.done ++ [op]⟩ := by
  rw [attempt, Operation.perform_eq, allowed]
  rfl

theorem last?_done (s : Session) (read : Operation → Option α) :
    last? ⟨s, h.done ++ [op]⟩ read = (read op).or (h.last? read) := by
  cases found : read op <;> simp [last?, found]

structure Decided (h : History) : Prop where
  stands : h.session.StandsAfter (h.last? Operation.turn?)
  queue : h.session.queue = h.last? Operation.queue?

theorem Decided.start (id : SessionId) (customer : String) (born : Instant) :
    (start (.new id customer born)).Decided where
  stands := ⟨rfl, rfl, rfl⟩
  queue := rfl

theorem queue_outcome (op : Operation) (s : Session) :
    (op.outcome s).queue = op.queue?.or s.queue := by
  cases op <;> rfl

theorem Decided.attempt (decided : h.Decided) (op : Operation) : (h.attempt op).Decided := by
  cases guard : op.refusal h.session with
  | some refusal =>
    rw [attempt_of_refused guard]
    exact decided
  | none =>
    rw [attempt_of_allowed guard]
    constructor
    · rw [last?_done]
      exact decided.stands.outcome
    · rw [last?_done, ← decided.queue]
      exact queue_outcome op h.session

theorem Decided.attempts (decided : h.Decided) (ops : List Operation) :
    (ops.foldl History.attempt h).Decided := by
  induction ops generalizing h with
  | nil => exact decided
  | cons op rest ih => exact ih (decided.attempt op)

/-- However often it is tried to do what with a new session: its last turn decides how it stands, the
last queue that was named is its queue, and its last turn decides what succeeds next. -/
theorem last_turn_decides (id : SessionId) (customer : String) (born : Instant)
    (ops : List Operation) :
    let h := ops.foldl attempt (start (.new id customer born))
    h.session.StandsAfter (h.last? Operation.turn?) ∧
      h.session.queue = h.last? Operation.queue? ∧
      ∀ op : Operation, (∃ t, op.perform h.session = .ok () t) ↔
        op.AllowedAfter (h.last? Operation.turn?) := by
  intro h
  have decided : h.Decided := (Decided.start id customer born).attempts ops
  refine ⟨decided.stands, decided.queue, ?_⟩
  intro op
  rw [← decided.stands.allowed_iff]
  constructor
  · intro done
    obtain ⟨t, done⟩ := done
    exact (Operation.perform_eq_ok_iff.1 done).1
  · intro allowed
    exact ⟨op.outcome h.session, Operation.perform_eq_ok_iff.2 ⟨allowed, rfl⟩⟩

end History
end Switchboard.Session
