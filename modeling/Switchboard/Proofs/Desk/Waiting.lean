import Switchboard.Proofs.Desk.Upkeep

/-! Waiting. A session waits only while the flow has it, and while it waits for time to pass the desk
owes it one continuation and no other. A continuation of a session that has left the flow comes to
nothing. -/
namespace Switchboard

theorem Kind.suspends_of_awaitsReply {kind : Kind} (awaits : kind.awaitsReply) : kind.suspends := by
  cases kind with
  | input | template => rfl
  | _ => contradiction

section Settled

variable {g : Graph} {s : Session} {running : Bool} {owed : List Continuation}

theorem Session.Settled.suspends {name : String} (settled : s.Settled g running owed)
    (waits : s.pending = some name) :
    s.status = .bot ∧ ∃ node, g.node? name = some node ∧ node.kind.suspends := by
  cases settled with
  | idle _ none | gone _ none =>
    rw [none] at waits
    contradiction
  | awaits bot waits' known awaits =>
    cases waits.symm.trans waits'
    exact ⟨bot, _, known, Kind.suspends_of_awaitsReply awaits⟩
  | delays bot waits' known | halts bot waits' known =>
    cases waits.symm.trans waits'
    exact ⟨bot, _, known, rfl⟩

/-- A running desk owes something to a session of the flow exactly while it waits at a delay. -/
theorem Session.Settled.owed_iff (settled : s.Settled g true owed) (bot : s.status = .bot) :
    (∃ c, c ∈ owed) ↔
      ∃ node seconds, s.pending = some node ∧ g.node? node = some ⟨node, .delay seconds⟩ := by
  constructor
  · intro h
    obtain ⟨c, member⟩ := h
    obtain ⟨seconds, waits, known, -⟩ := settled.delay_of_mem bot member
    exact ⟨c.node, seconds, waits, known⟩
  · intro h
    obtain ⟨node, seconds, waits, known⟩ := h
    cases settled with
    | idle _ none =>
      rw [none] at waits
      contradiction
    | awaits _ waits' known' awaits =>
      cases waits.symm.trans waits'
      cases known.symm.trans known'
      contradiction
    | delays => exact ⟨_, List.mem_singleton.2 rfl⟩
    | gone gone => exact absurd bot gone

end Settled

namespace Desk

variable {g : Graph} {d : Desk} {s : Session} {timer : Timer}

/-- Only a session of the flow waits, and only at a node at which the flow suspends. -/
theorem Reached.pending_suspends (reached : Reached g d) (known : s ∈ d.store.sessions) :
    (∀ name, s.pending = some name →
        s.status = .bot ∧ ∃ node, g.node? name = some node ∧ node.kind.suspends) ∧
      (s.status ≠ .bot → s.pending = none) := by
  have settled := reached.inOrder.settled s known
  constructor
  · intro name waits
    exact settled.suspends waits
  · intro gone
    exact settled.idle_of_gone gone

theorem onHold_suspends : ∃ s ∈ onHold.store.sessions, s.pending = some "hold" ∧
    s.status = .bot ∧ ∃ node, Graph.patient.node? "hold" = some node ∧ node.kind.suspends := by
  have waits : ∃ s ∈ onHold.store.sessions, s.pending = some "hold" := by decide
  obtain ⟨s, known, waits⟩ := waits
  exact ⟨s, known, waits, (onHold_reached.pending_suspends known).1 "hold" waits⟩

theorem InOrder.timers_nodup (order : d.InOrder g) :
    (d.timers.map fun timer => timer.continuation.session).Nodup := by
  rw [List.nodup_iff_count_le_one]
  intro id
  have count : (d.timers.map fun timer => timer.continuation.session).count id =
      (owed d.timers id).length := by
    rw [List.count, List.countP_map, List.countP_eq_length_filter, owed, List.length_map]
    rfl
  rw [count]
  by_cases known : ∃ s ∈ d.store.sessions, s.id = id
  · obtain ⟨s, known, rfl⟩ := known
    exact (order.settled s known).few
  · rw [owed_fresh order (by simpa using known)]
    simp

/-- The flow of a session goes on once, from where its delay leads, and the desk keeps what this run
leaves behind. -/
def GoesOn (here : Surroundings) (timer : Timer) (s : Session) (d e : Desk) : Prop :=
  ∃ outcome r, Walk.runFrom here timer.continuation.next (.start s s.bag) = .ok outcome r ∧
    r.path.head? = some timer.continuation.next ∧
      e = keepTime s.id outcome { d.drop timer with store := d.store.record r.visit }

theorem InOrder.fire_of_bot {here : Surroundings} (order : d.InOrder here.graph)
    (set : timer ∈ d.timers) (known : s ∈ d.store.sessions)
    (its : timer.continuation.session = s.id) (bot : s.status = .bot) :
    GoesOn here timer s d (d.fire here timer) := by
  obtain ⟨_, e, done, outcome, r, run, begins, -, -, left⟩ :=
    continueAfter_of_bot order set known its bot
  rw [fire_of_ok done]
  exact ⟨outcome, r, run, begins, left⟩

/-- While a desk runs, the continuations that it owes are those of the delays at which sessions wait,
one each, and at most one left over of every session that has left the flow meanwhile. -/
theorem Reached.continuations (reached : Reached g d) (running : d.running = true) :
    (d.timers.map fun timer => timer.continuation.session).Nodup ∧
      (∀ s ∈ d.store.sessions, s.status = .bot →
        ((∃ timer ∈ d.timers, timer.continuation.session = s.id) ↔
          ∃ node seconds, s.pending = some node ∧ g.node? node = some ⟨node, .delay seconds⟩) ∧
        ∀ timer ∈ d.timers, timer.continuation.session = s.id →
          s.pending = some timer.continuation.node ∧
            g.next timer.continuation.node = some timer.continuation.next) ∧
      ∀ here : Surroundings, here.graph = g → ∀ timer ∈ d.timers, ∃ s ∈ d.store.sessions,
        s.id = timer.continuation.session ∧
          (s.status = .bot → GoesOn here timer s d (d.fire here timer)) ∧
          (s.status ≠ .bot → d.fire here timer = d.drop timer) := by
  have order := reached.inOrder
  refine ⟨order.timers_nodup, ?_, ?_⟩
  · intro s known bot
    have settled := order.settled s known
    rw [running] at settled
    constructor
    · rw [← exists_mem_owed, settled.owed_iff bot]
    · intro timer set its
      obtain ⟨seconds, waits, -, leads⟩ := settled.delay_of_mem bot (owed_of_timer set its)
      exact ⟨waits, leads⟩
  · intro here graph timer set
    subst graph
    obtain ⟨s, known, name⟩ := order.known timer set
    refine ⟨s, known, name, ?_, ?_⟩
    · intro bot
      exact order.fire_of_bot set known name.symm bot
    · intro gone
      exact fire_of_ok (continueAfter_of_gone order.distinct known name.symm gone)

theorem holdTimer_fires :
    (∃ s ∈ onHold.store.sessions, GoesOn .silent holdTimer s onHold (onHold.fire .silent holdTimer)) ∧
      transferred.fire .silent holdTimer = transferred.drop holdTimer := by
  constructor
  · obtain ⟨-, -, fires⟩ := onHold_reached.continuations rfl
    obtain ⟨s, known, -, bot, -⟩ := fires .silent rfl holdTimer (by decide)
    have still : ∀ s ∈ onHold.store.sessions, s.status = .bot := by decide
    exact ⟨s, known, bot (still s known)⟩
  · obtain ⟨-, -, fires⟩ := transferred_reached.continuations rfl
    obtain ⟨s, known, -, -, gone⟩ := fires .silent rfl holdTimer (by decide)
    have left : ∀ s ∈ transferred.store.sessions, s.status ≠ .bot := by decide
    exact gone (left s known)

end Desk
end Switchboard
