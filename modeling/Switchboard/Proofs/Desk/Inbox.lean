import Switchboard.Desk.Workspace
import Switchboard.Proofs.Chat.Standing
import Switchboard.Proofs.Desk.Service

/-! What operators are shown and what they may do. Three places decide whose a waiting session is: the
directory that a queue asks, the inbox that offers the session, and the session that lets itself be
picked up. They agree, so nothing is offered in vain and nothing waits unseen. -/
namespace Switchboard

section Offers

variable {s : Session} {operator : Operator}

theorem Session.isServedBy_iff :
    s.isServedBy operator = true ↔ s.status = .opened ∧ s.operator = some operator.id := by
  simp [isServedBy]

theorem Session.isOfferedTo_iff : s.isOfferedTo operator = true ↔
    s.status = .waiting ∧ s.operator = none ∧
      (s.reservedFor = some operator.id ∨
        s.reservedFor = none ∧ (operator.role.isSupervisor = true ∨
          ∃ queue, s.queue = some queue ∧ operator.serves queue = true)) := by
  unfold isOfferedTo
  cases s.reservedFor <;> simp [and_assoc, Option.any_eq_true]

theorem Session.pickupRefusal_of_offered (offered : s.isOfferedTo operator = true) :
    s.pickupRefusal operator.id = none := by
  obtain ⟨waiting, free, whose⟩ := isOfferedTo_iff.1 offered
  refine pickupRefusal_eq_none_iff.2 ⟨waiting, free, fun reserved its => ?_⟩
  obtain mine | ⟨nobodys, -⟩ := whose
  · exact Option.some.inj (its.symm.trans mine)
  · rw [nobodys] at its
    contradiction

theorem Session.closeRefusal_of_served (served : s.isServedBy operator = true) :
    s.closeRefusal (Desk.closer operator) = none := by
  obtain ⟨opened, mine⟩ := isServedBy_iff.1 served
  have handed : s.isHandedOver = true := isHandedOver_iff.2 (.inr opened)
  unfold Desk.closer
  split
  · exact closeRefusal_supervisor_eq_none_iff.2 handed
  · exact closeRefusal_operator_eq_none_iff.2 ⟨handed, mine⟩

theorem Session.IsQueued.isOfferedTo {queue : String} (queued : s.IsQueued queue)
    (serves : operator.serves queue = true) : s.isOfferedTo operator = true :=
  isOfferedTo_iff.2 ⟨queued.status, queued.operator,
    .inr ⟨queued.reservedFor, .inr ⟨queue, queued.queue, serves⟩⟩⟩

theorem Session.StandsAfter.operator_of_waiting {last : Option Session.Turn}
    (stands : s.StandsAfter last) (waiting : s.status = .waiting) : s.operator = none := by
  obtain ⟨queue, reserved, rfl⟩ := stands.waiting_iff.1 waiting
  exact stands.2.2.1

end Offers

namespace Desk

variable {here : Surroundings} {g : Graph} {d e : Desk} {s : Session} {operator : Operator}
  {id : SessionId}

/-! What is offered can be done. -/

theorem visit_succeeds {α : Type} {act : Visit.Act α} {post : α → Session → Prop}
    (distinct : d.store.Distinct) (known : s ∈ d.store.sessions)
    (done : Succeeds act (.start s) fun a v => v.session.id = s.id ∧ post a v.session) :
    Succeeds (visit s.id act) d fun a e =>
      ∃ t, e.store.find? s.id = some t ∧ post a t := by
  obtain ⟨a, v, run, same, holds⟩ := done
  have found := distinct.find? known
  refine (Succeeds.ok_iff (visit_of_ok found run)).2 ⟨v.session, ?_, holds⟩
  have this : d.store.find? v.session.id = some s := same ▸ found
  exact (Store.find?_record this s.id).trans (if_pos same)

theorem visit_find_succeeds {α : Type} {act : Visit.Act α} {post : Session → Prop}
    (distinct : d.store.Distinct) (known : s ∈ d.store.sessions)
    (done : Succeeds act (.start s) fun _ v => v.session.id = s.id ∧ post v.session) :
    Succeeds (do let _ ← visit s.id act; find s.id) d fun t e =>
      e.store.find? s.id = some t ∧ post t := by
  refine (visit_succeeds distinct known done).seq fun _ e visited => ?_
  obtain ⟨t, found, holds⟩ := visited
  have looked : find s.id e = .ok t e := by rw [find, found]
  exact (Succeeds.ok_iff looked).2 ⟨found, holds⟩

theorem pickup_succeeds (distinct : d.store.Distinct) (known : s ∈ d.store.sessions)
    (allowed : s.pickupRefusal operator.id = none) :
    Succeeds (pickup here s.id operator) d fun t e => e.store.find? s.id = some t ∧
      t.status = .opened ∧ t.operator = some operator.id := by
  refine visit_find_succeeds distinct known ?_
  exact .of_guarded (Visit.change_eq Session.pickup_eq) allowed ⟨rfl, rfl, rfl⟩

theorem operatorReply_succeeds {text : String} (distinct : d.store.Distinct)
    (known : s ∈ d.store.sessions) (allowed : s.operatorRefusal operator.id = none) :
    Succeeds (operatorReply here s.id operator text) d fun message e =>
      ∃ t, e.store.find? s.id = some t ∧ t.messages = s.messages ++ [message] := by
  refine visit_succeeds distinct known ?_
  exact .of_guarded (Visit.change_eq Session.appendFromOperator_eq) allowed ⟨rfl, rfl⟩

theorem close_succeeds (distinct : d.store.Distinct) (known : s ∈ d.store.sessions)
    (allowed : s.closeRefusal (closer operator) = none) :
    Succeeds (close here s.id operator) d fun t e => e.store.find? s.id = some t ∧
      t.status = .closed := by
  refine visit_find_succeeds distinct known ?_
  exact .of_guarded (Visit.change_eq Session.close_eq) allowed ⟨rfl, rfl⟩

def Ordered (d : Desk) (sessions : List Session) : Prop :=
  (sessions.map Session.id).Sublist (d.store.journal.filterMap Event.created?) ∧
    (sessions.map Session.id).Nodup

/-- All that stands in the inbox can be done, in whatever surroundings, and what the operator may have
stands in it. -/
structure ShowsRightly (d : Desk) (operator : Operator) : Prop where
  claimable : ∀ s ∈ (d.store.inbox operator).waiting, ∀ here,
    Succeeds (pickup here s.id operator) d fun t e => e.store.find? s.id = some t ∧
      t.status = .opened ∧ t.operator = some operator.id
  answerable : ∀ s ∈ (d.store.inbox operator).active, ∀ here text,
    Succeeds (operatorReply here s.id operator text) d fun message e =>
      ∃ t, e.store.find? s.id = some t ∧ t.messages = s.messages ++ [message]
  closable : ∀ s ∈ (d.store.inbox operator).active, ∀ here,
    Succeeds (close here s.id operator) d fun t e => e.store.find? s.id = some t ∧
      t.status = .closed
  waiting_ordered : d.Ordered (d.store.inbox operator).waiting
  active_ordered : d.Ordered (d.store.inbox operator).active
  reserved : ∀ s ∈ d.store.sessions, s.status = .waiting → s.reservedFor = some operator.id →
    s ∈ (d.store.inbox operator).waiting
  unreserved : ∀ s ∈ d.store.sessions, s.status = .waiting → s.reservedFor = none →
    (operator.role.isSupervisor = true ∨ ∃ queue, s.queue = some queue ∧ operator.serves queue = true) →
      s ∈ (d.store.inbox operator).waiting

theorem Reached.chronological (reached : Reached g d) : d.store.Chronological := by
  let quiet (_ w : Visit) : Prop := ∀ e ∈ w.journal, e.created? = none
  have silent {kind : Session.Operation → Prop} {s : Session} {v : Visit}
      (worked : (Visit.start s).Worked kind v) : ∀ e ∈ v.journal, e.created? = none :=
    worked.told (fun _ => rfl) fun _ _ => rfl
  have develops : Store.Develops quiet Desk.empty.store d.store := by
    refine reached.develops .empty (fun s v worked => silent worked) ?_
    intro here d l outcome t _ ready ends
    obtain ⟨v, event, worked, left, verdict⟩ := ready.tells ends
    have told : event.created? = none := by
      cases outcome <;> cases verdict <;> rfl
    rw [left]
    intro e member
    obtain earlier | last := List.mem_append.1 member
    · exact silent worked e earlier
    · exact List.mem_singleton.1 last ▸ told
  exact develops.chronological (fun _ _ quiet => quiet) rfl

theorem Reached.ordered (reached : Reached g d) {sessions : List Session}
    (shown : sessions.Sublist d.store.sessions) : d.Ordered sessions := by
  have listed : (sessions.map Session.id).Sublist (d.store.sessions.map Session.id) := shown.map _
  exact ⟨reached.chronological ▸ listed, List.Nodup.sublist listed reached.inOrder.distinct⟩

theorem Reached.stands (reached : Reached g d) : ∀ s ∈ d.store.sessions, ∃ last, s.StandsAfter last := by
  refine reached.holds (fun _ _ _ => ⟨none, rfl, rfl, rfl⟩) fun op s h => ?_
  obtain ⟨last, stands⟩ := h
  exact ⟨_, stands.outcome⟩

theorem Reached.showsRightly (reached : Reached g d) (operator : Operator) :
    d.ShowsRightly operator := by
  have distinct := reached.inOrder.distinct
  have alone : ∀ s ∈ d.store.sessions, s.status = .waiting → s.operator = none := by
    intro s known waiting
    obtain ⟨last, stands⟩ := reached.stands s known
    exact stands.operator_of_waiting waiting
  constructor
  case claimable =>
    intro s member here
    obtain ⟨known, offered⟩ := List.mem_filter.1 member
    exact pickup_succeeds distinct known (Session.pickupRefusal_of_offered offered)
  case answerable =>
    intro s member here text
    obtain ⟨known, served⟩ := List.mem_filter.1 member
    exact operatorReply_succeeds distinct known
      (Session.operatorRefusal_eq_none_iff.2 (Session.isServedBy_iff.1 served))
  case closable =>
    intro s member here
    obtain ⟨known, served⟩ := List.mem_filter.1 member
    exact close_succeeds distinct known (Session.closeRefusal_of_served served)
  case waiting_ordered => exact reached.ordered List.filter_sublist
  case active_ordered => exact reached.ordered List.filter_sublist
  case reserved =>
    intro s known waiting mine
    exact List.mem_filter.2 ⟨known, Session.isOfferedTo_iff.2
      ⟨waiting, alone s known waiting, .inl mine⟩⟩
  case unreserved =>
    intro s known waiting nobodys serves
    exact List.mem_filter.2 ⟨known, Session.isOfferedTo_iff.2
      ⟨waiting, alone s known waiting, .inr ⟨nobodys, serves⟩⟩⟩

/-! A session that a queue has taken stays in sight. -/

end Desk

def Request.Moves (id : SessionId) : Request → Prop
  | .transfer other .. | .pickup other _ | .close other _ => other = id
  | _ => False

def Happening.Moves (id : SessionId) (here : Surroundings) (d : Desk) : Happening → Prop
  | .request made => made.Moves id ∧ ∃ e, made.perform here d = .ok () e
  | _ => False

/-- Whether a queue is served is looked up in a directory of these operators, whoever is online. -/
def Surroundings.AsksRoster (here : Surroundings) (roster : List Operator) : Prop :=
  ∀ n, ∃ (directory : Directory) (now : Nat), directory.operators = roster ∧
    here.services.hasOperator n = Office.eligible directory now

theorem Surroundings.AsksRoster.agent {here : Surroundings} {roster : List Operator} {queue : String}
    {r : Run} (asks : here.AsksRoster roster) (served : Walk.isServed here queue r = true) :
    ∃ agent ∈ roster, agent.role = .agent ∧ agent.serves queue = true := by
  unfold Walk.isServed at served
  generalize (stateAfter (Walk.announceTransfer here queue) r).asked = n at served
  obtain ⟨directory, now, rfl, looks⟩ := asks n
  rw [looks, Office.eligible, Option.getD_some, Directory.isEligible, List.any_eq_true] at served
  obtain ⟨agent, member, fits⟩ := served
  simp only [Bool.and_eq_true, beq_iff_eq] at fits
  exact ⟨agent, member, fits.1.1, fits.1.2⟩

section Waiting

variable {here : Surroundings} {g : Graph} {d e : Desk} {s : Session} {id : SessionId} {queue : String}
  {happening : Happening}

theorem Happening.idle_or_speech (order : d.InOrder here.graph) (fits : happening.Fits d)
    (unmoved : ¬ happening.Moves id here d) : happening.perform here d = d ∨
      (happening.session? = some id → happening.Allows = Session.Operation.IsSpeech) := by
  cases happening with
  | request made =>
    obtain ⟨failure, refused⟩ | ⟨_, e, done, -⟩ := Desk.Request.perform_attempts order fits
    · exact .inl (Desk.after_of_error refused)
    · refine .inr fun named => ?_
      cases made with
      | start fresh customer => contradiction
      | reply => rfl
      | operatorReply => rfl
      | pickup other _ | transfer other _ _ | close other _ =>
        exact absurd ⟨Option.some.inj named, e, done⟩ unmoved
  | fire timer => exact .inr fun named => by contradiction
  | pass elapsed => exact .inr fun named => by contradiction
  | shutdown => exact .inr fun named => by contradiction

theorem Session.Operation.IsSpeech.isQueued {op : Session.Operation} (speech : op.IsSpeech)
    (queued : s.IsQueued queue) : (op.outcome s).IsQueued queue := by
  obtain ⟨status, name, operator, operatorName, reservedFor⟩ := queued
  cases op <;> first | contradiction | exact ⟨status, name, operator, operatorName, reservedFor⟩

theorem Desk.During.keeps_queued
    (during : Desk.During g (fun here d happening => ¬ happening.Moves id here d) d e)
    (order : d.InOrder g) (found : d.store.find? id = some s) (queued : s.IsQueued queue) :
    ∃ t, e.store.find? id = some t ∧ t.IsQueued queue := by
  refine during.keepsOne order found queued fun here d happening s order fits unmoved found queued => ?_
  obtain idle | speech := happening.idle_or_speech order fits unmoved
  · rw [idle]
    exact ⟨s, found, queued⟩
  · refine happening.keepsOne order fits found queued (fun op s named allowed queued => ?_) ?_
    · rw [speech named] at allowed
      exact allowed.isQueued queued
    · -- the flow has left the session
      intro l _ _ _ ready _ _ queued
      exact absurd (ready.bot.symm.trans queued.status) (by simp)

end Waiting

namespace Desk

variable {g : Graph} {d : Desk}

/-- Every inbox shows what its operator may have and lets them have it. And what a run has queued stands
in the inbox of an agent, one and the same, until somebody transfers it, picks it up or closes it. -/
theorem Reached.inboxes (reached : Reached g d) :
    (∀ operator, d.ShowsRightly operator) ∧
      ∀ (here : Surroundings) (happening : Happening) (l : Launch) (roster : List Operator),
        here.graph = g → here.AsksRoster roster → happening.Fits d →
        happening.launch? here d = some l → ∀ h ∈ l.impulse.trail here l.begins, ∀ queue,
          h.Queues here queue → ∃ agent ∈ roster, agent.role = .agent ∧
            ∀ e, During g (fun here d later => ¬ later.Moves l.session.id here d)
                (happening.perform here d) e →
              ∃ s ∈ (e.store.inbox agent).waiting, s.id = l.session.id := by
  refine ⟨reached.showsRightly, ?_⟩
  intro here happening l roster graph asks fits launch h met queue queues
  subst graph
  have order := reached.inOrder
  have ready := Happening.launch_ready order fits launch
  obtain ⟨outcome, t, makes⟩ := Happening.makes order fits launch
  have queued := (Impulse.endsAs_of_program ready.fits ready.still makes.run).queued h met queue queues
  obtain ⟨agent, member, role, serves⟩ := asks.agent queues.2
  refine ⟨agent, member, role, fun e during => ?_⟩
  obtain ⟨s, found, queued⟩ := during.keeps_queued (order.perform fits) makes.found queued
  obtain ⟨known, name⟩ := Store.find?_eq_some found
  exact ⟨s, List.mem_filter.2 ⟨known, queued.isOfferedTo serves⟩, name⟩

/-- Rui is shown who waits at the counter, and still is when closing the session has been refused. -/
theorem atCounter_in_sight : atCounter.ShowsRightly .rui ∧
    ∃ agent ∈ [Operator.rui], agent.role = .agent ∧
      ∃ s ∈ (((Happening.request (.close ⟨"chat_1"⟩ .rui)).perform .reception atCounter).store.inbox
        agent).waiting, s.id = ⟨"chat_1"⟩ := by
  have graph : Surroundings.reception.graph = .reception := rfl
  have asks : Surroundings.reception.AsksRoster [.rui] :=
    fun _ => ⟨⟨[.rui], .new 0, false⟩, 0, rfl, rfl⟩
  have fits : (answering "Ana").Fits atReception := trivial
  have meets : ((answering "Ana").launch? .reception atReception).map (fun l =>
      (l.session.id, (l.impulse.trail .reception l.begins).getLast?.map fun h =>
        (h.node.kind, Walk.isServed .reception "SAC" h.before))) =
      some (⟨"chat_1"⟩, some (.queue "SAC", true)) := by decide +kernel
  have refused : resultOf (Request.perform .reception (.close ⟨"chat_1"⟩ .rui)) atCounter =
      .error (.notAllowed (.notOwner "rui")) := by decide +kernel
  obtain ⟨l, launch, met⟩ := Option.map_eq_some_iff.1 meets
  obtain ⟨its, last⟩ := Prod.mk.inj met
  obtain ⟨h, last, handler⟩ := Option.map_eq_some_iff.1 last
  obtain ⟨kind, served⟩ := Prod.mk.inj handler
  obtain ⟨shows, -⟩ := atCounter_reached.inboxes
  obtain ⟨-, stays⟩ := atReception_reached.inboxes
  obtain ⟨agent, member, role, stays⟩ := stays .reception (answering "Ana") l [.rui] graph asks fits
    launch h (List.mem_of_getLast? last) "SAC" ⟨kind, served⟩
  let closing : Happening := .request (.close ⟨"chat_1"⟩ .rui)
  have unmoved : ¬ closing.Moves l.session.id .reception atCounter := by
    intro moves
    obtain ⟨-, e, done⟩ := moves
    rw [resultOf, done] at refused
    contradiction
  have fits : closing.Fits atCounter := trivial
  obtain ⟨s, shown, name⟩ := stays (closing.perform .reception atCounter)
    (.single ⟨.reception, closing, graph, fits, unmoved, rfl⟩)
  exact ⟨shows .rui, agent, member, role, s, shown, name.trans its⟩

end Desk
end Switchboard
