import Switchboard.Proofs.Chat.Work
import Switchboard.Proofs.Flow.Trail

/-! How a run ends. Only two handlers give the session out of the flow's hands, and both halt, so the
status at the end tells which handlers were met; and what a run tells of its session are messages and
another status, and in the end one event that says where the flow stands. -/
namespace Switchboard

def Event.isVerdict : Event → Bool
  | .flowPaused .. | .flowStalled .. | .flowFinished .. => true
  | .sessionCreated .. | .messageAppended .. | .statusChanged .. => false

def Outcome.verdict (id : SessionId) : Outcome → Option Event
  | .paused node | .delayed node _ _ => some (.flowPaused id node)
  | .stalled node => some (.flowStalled id node)
  | .queued _ | .terminated => some (.flowFinished id)
  | .continuedTo _ => none

/-- What a flow does. It never speaks as the customer. -/
def Session.Operation.IsByFlow : Session.Operation → Prop
  | .append post _ => post.sender ≠ .user
  | .mergeVariables .. | .setPending _ | .close .flow .. => True
  | .transfer queue operator _ => queue.isSome ∧ operator = none
  | _ => False

structure Session.IsQueued (s : Session) (queue : String) : Prop where
  status : s.status = .waiting
  queue : s.queue = some queue
  operator : s.operator = none
  operatorName : s.operatorName = none
  reservedFor : s.reservedFor = none

namespace Walk

def announceTransfer (here : Surroundings) (queue : String) : Walk Unit :=
  say here (Text.replace Wording.queueMarker queue here.wording.queueTransfer)

/-- Whether somebody serves the queue, when the directory is asked after the announcement. -/
def isServed (here : Surroundings) (queue : String) (r : Run) : Bool :=
  (here.services.hasOperator (stateAfter (announceTransfer here queue) r).asked queue).getD false

end Walk

namespace Handling

def Queues (here : Surroundings) (h : Handling) (queue : String) : Prop :=
  h.node.kind = .queue queue ∧ Walk.isServed here queue h.before = true

def Closes (h : Handling) : Prop := ∃ text, h.node.kind = .closing text

end Handling

/-- The session stands as the handlers have left it. -/
structure Session.EndsAs (here : Surroundings) (trail : List Handling) (s : Session) : Prop where
  waiting : s.status = .waiting ↔ ∃ h ∈ trail, ∃ queue, h.Queues here queue
  queued : ∀ h ∈ trail, ∀ queue, h.Queues here queue → s.IsQueued queue
  closed : s.status = .closed ↔ ∃ h ∈ trail, h.Closes
  bot : (¬ ∃ h ∈ trail, ∃ queue, h.Queues here queue) → (¬ ∃ h ∈ trail, h.Closes) → s.status = .bot

namespace Run

def Worked (kind : Session.Operation → Prop) (r t : Run) : Prop := r.visit.Worked kind t.visit

variable {kind : Session.Operation → Prop}

instance : Std.Refl (Worked kind) := ⟨fun r => .refl r.visit⟩

instance : Trans (Worked kind) (Worked kind) (Worked kind) := ⟨Visit.Worked.trans⟩

end Run

namespace Walk

variable {here : Surroundings} {r s t u : Run} {node : String} {found : Node} {budget : Nat}
  {h : Handling} {outcome : Outcome} {queue : String} {kind : Session.Operation → Prop}

theorem act_worked {α : Type} {work : Visit.Act α} (respects : Respects (Visit.Worked kind) work) :
    Respects (Run.Worked kind) (act work) := fun r => act_ends_iff.2 (respects r.visit)

theorem append_worked (post : Post) (now : Instant) (allowed : kind (.append post now)) :
    Respects (Run.Worked kind) (act (Visit.append post now)) :=
  act_worked (Visit.respects_worked (.append post now) allowed fun _ => rfl)

theorem keptByAll_worked (here : Surroundings) :
    KeptByAll here (Run.Worked Session.Operation.IsByFlow) where
  asks r _ := Visit.Worked.refl r.visit
  requests r _ := Visit.Worked.refl r.visit
  moves r _ := Visit.Worked.refl r.visit
  posts post now own := append_worked post now own
  patches changes := by
    refine .bind (fun r => ask_ends_iff.2 (Visit.Worked.refl r.visit)) fun now => ?_
    have merges : Respects (Visit.Worked Session.Operation.IsByFlow)
        (Visit.mergeVariables changes now) :=
      Visit.respects_worked (.mergeVariables changes now) trivial fun _ => rfl
    exact (act_worked merges).bind fun _ => .modify fun r => Visit.Worked.refl r.visit
  transfers queue now := act_worked (Visit.respects_act (.transfer (some queue) none now) ⟨rfl, rfl⟩)
  closes farewell now :=
    act_worked (Visit.respects_worked (.close .flow farewell now) trivial fun _ => rfl)

/-! Handlers. -/

theorem isServed_of_ok (said : announceTransfer here queue r = .ok () t) :
    isServed here queue r = (here.services.hasOperator t.asked queue).getD false := by
  rw [isServed, stateAfter_of_ok said]

theorem enterQueue_served (bot : r.visit.session.status = .bot)
    (served : isServed here queue r = true) :
    Succeeds (enterQueue here queue) r fun step t =>
      step = .halt (.queued queue) ∧ t.visit.session.IsQueued queue := by
  obtain ⟨_, t, said, continues⟩ : Succeeds (announceTransfer here queue) r _ := say_continues bot
  rw [isServed_of_ok said] at served
  refine Succeeds.bind_iff.2 ((Succeeds.ok_iff said).2 ?_)
  rw [Succeeds.bind_iff, ask_iff, if_pos served]
  simp only [Succeeds.bind_iff, ask_iff, act_iff, Succeeds.pure_iff]
  refine (Visit.transfer_succeeds (by simp [continues.bot])).mono fun _ v done => ⟨trivial, ?_⟩
  rw [done.1]
  exact ⟨rfl, rfl, rfl, rfl, rfl⟩

theorem enterQueue_unserved (unserved : isServed here queue r = false) :
    Ends (enterQueue here queue) r (fun _ t => r.Same t) r.Same := by
  have talks : Talks (announceTransfer here queue) := say_talks _
  refine Ends.bind_iff.2 ⟨fun _ t said => ?_, (talks r).error⟩
  rw [isServed_of_ok said] at unserved
  have same : r.Same t := (talks r).ok _ t said
  rw [Ends.bind_iff, ask_ends_iff, if_neg (by simp [unserved])]
  refine Ends.bind_iff.2 ((say_talks _ _).mono (fun _ u more => Ends.pure_iff.2 ?_) fun u more => ?_)
  · exact same.trans ⟨more.path, more.status⟩
  · exact same.trans ⟨more.path, more.status⟩

theorem closing_closes {text : Option String} (bot : r.visit.session.status = .bot) :
    Succeeds (perform here node (.closing text)) r fun step t =>
      step = .halt .terminated ∧ t.visit.session.status = .closed := by
  refine (sayFarewell_continues bot).seq fun _ t told => ?_
  simp only [Succeeds.bind_iff, ask_iff, act_iff, Succeeds.pure_iff]
  have allowed := Session.closeRefusal_flow_eq_none_iff.2 told.bot
  refine (Visit.close_succeeds allowed).mono fun _ v done => ⟨trivial, ?_⟩
  rw [done.1]
  rfl

theorem perform_same (unqueued : ¬ ∃ queue, h.Queues here queue) (unclosed : ¬ h.Closes) :
    Ends (perform here h.node.id h.node.kind) h.before (fun _ t => h.before.Same t)
      h.before.Same := by
  cases kind : h.node.kind with
  | queue queue =>
    refine enterQueue_unserved (Bool.eq_false_iff.2 fun served => ?_)
    exact unqueued ⟨queue, kind, served⟩
  | closing text => exact absurd ⟨text, kind⟩ unclosed
  | _ =>
    exact (keptByTalk_same here).holds.perform _ _ (fun _ same => by cases same)
      (fun _ same => by cases same) _

/-! The end of a run is put on record. -/

theorem setPending_worked (pending : Option String) :
    Respects (Visit.Worked Session.Operation.IsByFlow) (Visit.setPending pending) :=
  Visit.respects_act (.setPending pending) trivial

theorem clearPending_worked : Respects (Run.Worked Session.Operation.IsByFlow) clearPending :=
  clearPending_kept (act_worked (setPending_worked none))

theorem conclude_tells (concluded : conclude outcome s = .ok () t) (final : outcome.IsFinal) :
    ∃ v event, s.visit.Worked Session.Operation.IsByFlow v ∧ t.visit = v.publish event ∧
      outcome.verdict v.session.id = some event := by
  have told {work : Walk Unit} {event : SessionId → Event}
      (worked : Respects (Run.Worked Session.Operation.IsByFlow) work)
      (done : (do work; publish event) s = .ok () t) :
      ∃ v, s.visit.Worked Session.Operation.IsByFlow v ∧ t.visit = v.publish (event v.session.id) := by
    obtain ⟨_, u, first, published⟩ := bind_eq_ok_iff.1 done
    cases published
    exact ⟨u.visit, (worked s).ok _ u first, rfl⟩
  cases outcome with
  | continuedTo node => contradiction
  | paused node | delayed node next seconds =>
    obtain ⟨v, worked, left⟩ := told (act_worked (setPending_worked _)) concluded
    exact ⟨v, _, worked, left, rfl⟩
  | stalled node =>
    obtain ⟨v, worked, left⟩ := told clearPending_worked concluded
    exact ⟨v, _, worked, left, rfl⟩
  | queued queue | terminated =>
    obtain ⟨v, worked, left⟩ := told clearPending_worked concluded
    exact ⟨v, _, worked, left, rfl⟩

end Walk

theorem Session.EndsAs.of_recorded {here : Surroundings} {trail : List Handling} {s t : Session}
    (ends : s.EndsAs here trail) (same : t = { s with pending := t.pending }) :
    t.EndsAs here trail := by
  have status : t.status = s.status := by rw [same]
  refine ⟨status ▸ ends.waiting, fun h member queue queues => ?_, status ▸ ends.closed,
    status ▸ ends.bot⟩
  obtain ⟨waiting, name, operator, operatorName, reservedFor⟩ := ends.queued h member queue queues
  rw [same]
  exact ⟨waiting, name, operator, operatorName, reservedFor⟩

namespace Impulse

variable {here : Surroundings} {impulse : Impulse} {r s t : Run} {outcome : Outcome}

/-- The handlers that were met decide whose hands the session is in. -/
theorem round_endsAs (fits : impulse.Fits here.graph) (bot : r.visit.session.status = .bot)
    (round : (impulse.setOff here >>= Walk.goOn here here.engine.most) r = .ok outcome t) :
    t.visit.session.EndsAs here (impulse.trail here r) := by
  have queues : ∀ h ∈ impulse.trail here r, ∀ queue, h.Queues here queue →
      t.visit.session.IsQueued queue := by
    intro h member queue queues
    obtain ⟨step, u, run, rfl, queued⟩ :=
      Walk.enterQueue_served (bot_of_mem_trail bot member) queues.2
    have halts : Walk.perform here h.node.id h.node.kind h.before =
        .ok (.halt (.queued queue)) u := by
      rw [queues.1]
      exact run
    rw [round_of_halt fits member halts] at round
    cases round
    exact queued
  have closes : ∀ h ∈ impulse.trail here r, h.Closes → t.visit.session.status = .closed := by
    intro h member closes
    obtain ⟨text, kind⟩ := closes
    obtain ⟨step, u, run, rfl, closed⟩ : Succeeds (Walk.perform here h.node.id (.closing text)) _ _ :=
      Walk.closing_closes (bot_of_mem_trail bot member)
    have halts : Walk.perform here h.node.id h.node.kind h.before =
        .ok (.halt .terminated) u := by
      rw [kind]
      exact run
    rw [round_of_halt fits member halts] at round
    cases round
    exact closed
  have otherwise : (¬ ∃ h ∈ impulse.trail here r, ∃ queue, h.Queues here queue) →
      (¬ ∃ h ∈ impulse.trail here r, h.Closes) → t.visit.session.status = .bot := by
    intro unqueued unclosed
    obtain still | ⟨h, member, halts⟩ := round_ends fits bot round
    · exact still
    · have same := (Walk.perform_same (fun queues => unqueued ⟨h, member, queues⟩)
        fun closes => unclosed ⟨h, member, closes⟩).ok _ t halts
      exact same.status.trans (bot_of_mem_trail bot member)
  refine ⟨⟨fun waiting => ?_, fun h => ?_⟩, queues, ⟨fun closed => ?_, fun h => ?_⟩, otherwise⟩
  · by_contra unqueued
    have unclosed : ¬ ∃ h ∈ impulse.trail here r, h.Closes := by
      intro ⟨h, member, closed⟩
      simp [closes h member closed] at waiting
    simp [otherwise unqueued unclosed] at waiting
  · obtain ⟨h, member, queue, served⟩ := h
    exact (queues h member queue served).status
  · by_contra unclosed
    have unqueued : ¬ ∃ h ∈ impulse.trail here r, ∃ queue, h.Queues here queue := by
      intro ⟨h, member, queue, served⟩
      simp [(queues h member queue served).status] at closed
    simp [otherwise unqueued unclosed] at closed
  · obtain ⟨h, member, closed⟩ := h
    exact closes h member closed

theorem endsAs_of_program (fits : impulse.Fits here.graph) (bot : r.visit.session.status = .bot)
    (run : impulse.program here r = .ok outcome t) :
    t.visit.session.EndsAs here (impulse.trail here r) := by
  obtain ⟨o, s, round, -, -, record⟩ := round_of_program fits run
  exact (round_endsAs fits bot round).of_recorded record.session

theorem program_tells (fits : impulse.Fits here.graph)
    (run : impulse.program here r = .ok outcome t) :
    ∃ v event, r.visit.Worked Session.Operation.IsByFlow v ∧ t.visit = v.publish event ∧
      outcome.verdict v.session.id = some event := by
  obtain ⟨o, s, round, rfl, concluded, -⟩ := round_of_program fits run
  have worked : r.Worked Session.Operation.IsByFlow s :=
    (round_kept (Walk.keptByAll_worked here) impulse _ r).ok o s round
  obtain ⟨v, event, more, left, verdict⟩ := Walk.conclude_tells concluded o.settled_final
  exact ⟨v, event, worked.trans more, left, verdict⟩

end Impulse
end Switchboard
