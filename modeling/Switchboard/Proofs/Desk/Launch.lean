import Switchboard.Proofs.Desk.Upkeep
import Switchboard.Proofs.Desk.Welcome
import Switchboard.Proofs.Flow.Ending

/-! Which of the things that happen at a desk set a flow going, and how. It is known before the run is
made: for which session it is, what sets it going and what it begins with. Whatever else happens works
on one session at most, and only as people do. -/
namespace Switchboard

/-- A flow that is about to be set going. -/
structure Launch where
  /-- The desk by then. -/
  desk : Desk
  /-- The session as the desk has it. -/
  session : Session
  impulse : Impulse
  begins : Run

/-- What happens at a desk at one time. -/
inductive Happening
  | request (made : Request)
  | fire (timer : Timer)
  | pass (elapsed : Nat)
  | shutdown

namespace Session.Operation

def IsSaidByCustomer : Session.Operation → Prop
  | append post _ => post.sender = .user
  | _ => False

def IsOfFlow (op : Session.Operation) : Prop := op.IsSaidByCustomer ∨ op.IsByFlow

end Session.Operation

namespace Walk

def log (here : Surroundings) (awaited : Option Node) (reply : Reply) : Walk Unit := do
  post here (.user (← loggedText here awaited reply))

end Walk

namespace Happening

def perform (here : Surroundings) : Happening → Desk → Desk
  | request made, d => Desk.after (made.perform here) d
  | fire timer, d => d.fire here timer
  | pass elapsed, d => { d with elapsed }
  | shutdown, d => d.shutdown

/-- New sessions have identifiers of their own, and timers fire that are set. -/
def Fits (d : Desk) : Happening → Prop
  | request made => made.IsFresh d
  | fire timer => timer ∈ d.timers
  | pass _ | shutdown => True

/-- The run that is made, if there is one: the flow of a new session, of one that waits for the reply, or
of one that waits for the delay. -/
def launch? (here : Surroundings) (d : Desk) : Happening → Option Launch
  | request (.start fresh customer) =>
    if (d.store.current? customer).isSome then none
    else
      let s := Session.new fresh customer (here.services.now 0)
      some ⟨{ d with store := d.store.add s }, s, .enter here.graph.start, .startAfter 1 s s.bag⟩
  | request (.reply id said) => do
    let s ← d.store.find? id
    let node ← Walk.awaited here.graph s
    return ⟨d, s, .answer node said, stateAfter (Walk.log here (some node) said) (.start s s.bag)⟩
  | fire timer => do
    let s ← d.store.find? timer.continuation.session
    if s.status = .bot ∧ s.pending = some timer.continuation.node then
      return ⟨d.drop timer, s, .enter timer.continuation.next, .start s s.bag⟩
    else none
  | _ => none

end Happening

namespace Impulse

variable {here : Surroundings} {impulse : Impulse} {r : Run}

theorem program_rests (fits : impulse.Fits here.graph) (bot : r.visit.session.status = .bot) :
    Succeeds (impulse.program here) r fun outcome t =>
      r.Follows t ∧ outcome.Rests here.graph t.visit.session := by
  cases impulse with
  | enter node =>
    refine (Walk.runFrom_rests fits bot).mono fun outcome t rested => ?_
    exact ⟨rested.1, rested.2.2⟩
  | answer node reply => exact Walk.resumeFrom_rests fits.1 fits.2 bot

end Impulse

namespace Launch

/-- What is so when the flow is set going. -/
structure Ready (here : Surroundings) (d : Desk) (l : Launch) : Prop where
  known : l.session ∈ l.desk.store.sessions
  distinct : l.desk.store.Distinct
  store : l.desk.store = d.store ∨ ∃ fresh customer now,
    (∀ s ∈ d.store.sessions, s.id ≠ fresh) ∧ l.desk.store = d.store.add (.new fresh customer now)
  bot : l.session.status = .bot
  logged : (Visit.start l.session).Worked Session.Operation.IsSaidByCustomer l.begins.visit
  still : l.begins.visit.session.status = .bot
  bag : l.begins.bag = l.session.bag
  path : l.begins.path = []
  fits : l.impulse.Fits here.graph
  comes : l.impulse.ComesTo here.graph l.session

def leaves (l : Launch) (outcome : Outcome) (t : Run) : Desk :=
  Desk.keepTime l.session.id outcome { l.desk with store := l.desk.store.record t.visit }

structure Ends (here : Surroundings) (l : Launch) (outcome : Outcome) (t : Run) : Prop where
  run : l.impulse.program here l.begins = .ok outcome t
  follows : l.begins.Follows t
  rests : outcome.Rests here.graph t.visit.session

end Launch

namespace Walk

variable {here : Surroundings} {r : Run} {reply : Reply} {node : Node}

theorem receive_of_awaited (awaits : awaited here.graph r.visit.session = some node) :
    receive here reply r =
      (do log here (some node) reply; return some (← resumeFrom here node.id reply)) r := by
  have got : (get : Walk Run) r = .ok r r := rfl
  unfold receive log
  rw [bind_of_ok got, awaits]
  simp only [bind_assoc]

theorem receive_of_unawaited (unawaited : awaited here.graph r.visit.session = none) :
    receive here reply r = (do log here none reply; return none) r := by
  have got : (get : Walk Run) r = .ok r r := rfl
  unfold receive log
  rw [bind_of_ok got, unawaited]
  simp only [bind_assoc]

/-- The reply is logged, and then it sets the flow going. -/
theorem receive_of_program {t u : Run} {outcome : Outcome}
    (awaits : awaited here.graph r.visit.session = some node)
    (logged : log here (some node) reply r = .ok () t)
    (run : (Impulse.answer node reply).program here t = .ok outcome u) :
    receive here reply r = .ok (some outcome) u := by
  rw [receive_of_awaited awaits, bind_of_ok logged]
  exact bind_of_ok run

theorem loggedText_asks {awaited : Option Node} :
    Succeeds (loggedText here awaited reply) r fun _ t => ∃ asked, t = { r with asked } := by
  unfold loggedText
  split
  · exact Succeeds.pure_iff.2 ⟨_, rfl⟩
  · split
    · exact Succeeds.pure_iff.2 ⟨_, rfl⟩
    · exact Succeeds.bind_iff.2 (ask_iff.2 (Succeeds.pure_iff.2 ⟨_, rfl⟩))
    · exact Succeeds.pure_iff.2 ⟨_, rfl⟩

theorem log_succeeds (awaited : Option Node) (open_ : r.visit.session.status ≠ .closed) :
    Succeeds (log here awaited reply) r fun _ t =>
      r.visit.Worked Session.Operation.IsSaidByCustomer t.visit ∧ t.bag = r.bag ∧ t.path = r.path ∧
        t.visit.session.status = r.visit.session.status := by
  unfold log post
  refine loggedText_asks.seq fun text t asks => ?_
  obtain ⟨asked, rfl⟩ := asks
  simp only [Succeeds.bind_iff, ask_iff, act_iff, Succeeds.pure_iff]
  have said : Succeeds (Visit.append (.user text) (here.services.now asked)) r.visit _ :=
    Visit.append_succeeds open_ (by simp [Post.user]) (by simp [Post.user])
  obtain ⟨message, v, run, -, session, -⟩ := said
  refine (Succeeds.ok_iff run).2 ⟨?_, trivial, trivial, by rw [session]; rfl⟩
  have worked : Respects (Visit.Worked Session.Operation.IsSaidByCustomer)
      (Visit.append (.user text) (here.services.now asked)) :=
    Visit.respects_worked (.append (.user text) _) rfl fun _ => rfl
  exact (worked r.visit).ok message v run

end Walk

namespace Desk

variable {α β : Type} {op : Op α} {d e : Desk} {s : Session} {id : SessionId} {bag : Variables}

theorem after_of_ok {a : α} (run : op d = .ok a e) : after op d = e := by
  rw [after, run]

theorem after_of_error {failure : Failure} (run : op d = .error failure e) : after op d = e := by
  rw [after, run]

theorem after_eq_stateAfter : after op d = stateAfter op d := by
  unfold after stateAfter
  cases op d <;> rfl

theorem after_bind {next : α → Op β} (still : ∀ a e, after (next a) e = e) :
    after (op >>= next) d = after op d := by
  cases run : op d with
  | ok a e =>
    rw [after_of_ok run, ← still a e]
    unfold after
    rw [bind_of_ok run]
  | error failure e => rw [after_of_error run, after_of_error (bind_of_error run)]

theorem after_hush : after (do let _ ← op : Op Unit) d = after op d := after_bind fun _ _ => rfl

theorem after_find : after (find id) d = d := by
  unfold after find
  cases d.store.find? id <;> rfl

theorem walk_of_ok {work : Walk α} {asked : Nat} {a : α} {r : Run} (found : d.store.find? id = some s)
    (run : work (.startAfter asked s bag) = .ok a r) :
    walk asked id bag work d = .ok a { d with store := d.store.record r.visit } := by
  unfold walk
  simp only [found, run]

variable {here : Surroundings} {node : String} {outcome : Outcome} {r : Run}

theorem start_of_new {fresh : SessionId} {customer : String}
    (new : d.store.current? customer = none) :
    let s := Session.new fresh customer (here.services.now 0)
    start here fresh customer d =
      (do greet here s; find s.id) { d with store := d.store.add s } :=
  bind_of_ok (register_of_new new)

section Reply

variable {said : Reply} (found : d.store.find? id = some s) (open_ : s.status ≠ .closed)

include found open_

theorem reply_of_answer (run : Walk.receive here said (.start s s.bag) = .ok (some outcome) r) :
    reply here id said d = find id (keepTime id outcome { d with store := d.store.record r.visit }) := by
  have known : find id d = .ok s d := by rw [find, found]
  unfold reply
  rw [bind_of_ok known, if_neg (by rwa [Session.isClosed_iff])]
  exact bind_of_ok (walk_of_ok found run)

theorem reply_of_said (run : Walk.receive here said (.start s s.bag) = .ok none r) :
    reply here id said d = find id { d with store := d.store.record r.visit } := by
  have known : find id d = .ok s d := by rw [find, found]
  unfold reply
  rw [bind_of_ok known, if_neg (by rwa [Session.isClosed_iff])]
  exact bind_of_ok (walk_of_ok found run)

end Reply

theorem after_eq_of_eq {other : Op α} (same : op d = other e) : after op d = after other e := by
  unfold after
  rw [same]

theorem runFrom_of_ok {asked : Nat} (found : d.store.find? id = some s)
    (run : Walk.runFrom here node (.startAfter asked s bag) = .ok outcome r) :
    runFrom here asked id bag node d =
      .ok ⟨⟩ (keepTime id outcome { d with store := d.store.record r.visit }) :=
  bind_of_ok (walk_of_ok found run)

end Desk

theorem Launch.Ready.ends {here : Surroundings} {d : Desk} {l : Launch}
    (ready : l.Ready here d) : ∃ outcome t, l.Ends here outcome t := by
  obtain ⟨outcome, t, run, follows, rests⟩ := Impulse.program_rests ready.fits ready.still
  exact ⟨outcome, t, run, follows, rests⟩

namespace Launch

variable {here : Surroundings} {d : Desk} {l : Launch} {outcome : Outcome} {t : Run}

theorem Ready.tells (ready : l.Ready here d) (ends : l.Ends here outcome t) :
    ∃ v event, (Visit.start l.session).Worked Session.Operation.IsOfFlow v ∧
      t.visit = v.publish event ∧ outcome.verdict l.session.id = some event := by
  obtain ⟨v, event, worked, left, verdict⟩ := Impulse.program_tells ready.fits ends.run
  have whole : (Visit.start l.session).Worked Session.Operation.IsOfFlow v :=
    (ready.logged.mono fun _ => .inl).trans (worked.mono fun _ => .inr)
  have id : v.session.id = l.session.id := whole.id
  exact ⟨v, event, whole, left, id ▸ verdict⟩

theorem Ready.id (ready : l.Ready here d) (ends : l.Ends here outcome t) :
    t.visit.session.id = l.session.id := by
  obtain ⟨v, event, worked, left, -⟩ := ready.tells ends
  rw [left]
  exact worked.id

theorem Ready.find?_leaves (ready : l.Ready here d) (ends : l.Ends here outcome t) :
    (l.leaves outcome t).store.find? l.session.id = some t.visit.session := by
  have this : l.desk.store.find? t.visit.session.id = some l.session := by
    rw [ready.id ends]
    exact ready.distinct.find? ready.known
  unfold leaves
  rw [Desk.keepTime_store]
  exact (Store.find?_record this _).trans (if_pos (ready.id ends))

end Launch

namespace Happening

variable {here : Surroundings} {d : Desk} {happening : Happening} {l : Launch}

theorem launch_ready (order : d.InOrder here.graph) (fits : happening.Fits d)
    (launch : happening.launch? here d = some l) : l.Ready here d := by
  cases happening with
  | request made =>
    cases made with
    | start fresh customer =>
      simp only [launch?] at launch
      split at launch
      · contradiction
      · cases launch
        exact {
          known := List.mem_append_right _ (List.mem_singleton.2 rfl)
          distinct := (Store.Grows.create fresh customer (here.services.now 0) fits).distinct
            order.distinct
          store := .inr ⟨fresh, customer, _, fits, rfl⟩
          bot := rfl
          logged := .refl _
          still := rfl
          bag := rfl
          path := rfl
          fits := here.graph.hasNode_start
          comes := .inl rfl }
    | reply id said =>
      simp only [launch?, Option.bind_eq_bind, Option.bind_eq_some_iff] at launch
      obtain ⟨s, found, node, awaits, same⟩ := launch
      cases same
      obtain ⟨bot, waits, member, asks⟩ := Walk.awaited_eq_some awaits
      have logs : Succeeds (Walk.log here (some node) said) (.start s s.bag) _ :=
        Walk.log_succeeds (some node) (by simp [Run.start, Visit.start, bot])
      obtain ⟨_, r, run, worked, bag, path, status⟩ := logs
      rw [stateAfter_of_ok run]
      exact {
        known := (Store.find?_eq_some found).1
        distinct := order.distinct
        store := .inl rfl
        bot := bot
        logged := worked
        still := status.trans bot
        bag := bag
        path := path
        fits := ⟨member, asks⟩
        comes := waits }
    | _ => contradiction
  | fire timer =>
    simp only [launch?, Option.bind_eq_bind, Option.bind_eq_some_iff] at launch
    obtain ⟨s, found, waits⟩ := launch
    split at waits
    · rename_i still
      cases waits
      obtain ⟨known, name⟩ := Store.find?_eq_some found
      obtain ⟨seconds, -, -, leads⟩ := (order.settled s known).delay_of_mem still.1
        (Desk.owed_of_timer fits name.symm)
      exact {
        known := known
        distinct := order.distinct
        store := .inl rfl
        bot := still.1
        logged := .refl _
        still := still.1
        bag := rfl
        path := rfl
        fits := here.graph.hasNode_next leads
        comes := .inr ⟨_, Graph.leads_of_next leads⟩ }
    · contradiction
  | _ => contradiction

theorem perform_of_launch (order : d.InOrder here.graph) (fits : happening.Fits d)
    (launch : happening.launch? here d = some l) {outcome : Outcome} {t : Run}
    (run : l.impulse.program here l.begins = .ok outcome t) :
    happening.perform here d = l.leaves outcome t := by
  have ready := launch_ready order fits launch
  have found := ready.distinct.find? ready.known
  cases happening with
  | request made =>
    cases made with
    | start fresh customer =>
      simp only [launch?] at launch
      split at launch
      · contradiction
      · rename_i absent
        cases launch
        have started : Desk.start here fresh customer d = _ :=
          Desk.start_of_new (Option.not_isSome_iff_eq_none.1 absent)
        refine Desk.after_hush.trans ?_
        rw [Desk.after_eq_of_eq started, Desk.after_bind fun _ _ => Desk.after_find]
        exact Desk.after_of_ok (Desk.runFrom_of_ok found run)
    | reply id said =>
      simp only [launch?, Option.bind_eq_bind, Option.bind_eq_some_iff] at launch
      obtain ⟨s, there, node, awaits, same⟩ := launch
      cases same
      obtain ⟨bot, waits, member, asks⟩ := Walk.awaited_eq_some awaits
      have open_ : s.status ≠ .closed := by simp [bot]
      have logs : Succeeds (Walk.log here (some node) said) (.start s s.bag) _ :=
        Walk.log_succeeds (some node) open_
      obtain ⟨_, r, logged, -⟩ := logs
      rw [stateAfter_of_ok logged] at run
      have received : Walk.receive here said (.start s s.bag) = .ok (some outcome) t :=
        Walk.receive_of_program awaits logged run
      refine Desk.after_hush.trans ?_
      rw [Desk.after_eq_of_eq (Desk.reply_of_answer there open_ received), Desk.after_find]
      rw [← (Store.find?_eq_some there).2]
      rfl
    | _ => contradiction
  | fire timer =>
    simp only [launch?, Option.bind_eq_bind, Option.bind_eq_some_iff] at launch
    obtain ⟨s, there, waits⟩ := launch
    split at waits
    · rename_i still
      cases waits
      refine Desk.fire_of_ok ?_
      unfold Desk.continueAfter
      simp only [show (d.drop timer).store = d.store from rfl, there, if_pos still]
      have name : s.id = timer.continuation.session := (Store.find?_eq_some there).2
      rw [name] at found
      refine (Desk.runFrom_of_ok found run).trans ?_
      rw [← name]
      rfl
    · contradiction
  | _ => contradiction

end Happening

/-- The run that is made: how it goes and comes to its end, and that the desk is left as it leaves it. -/
structure Launch.Makes (here : Surroundings) (d : Desk) (happening : Happening) (l : Launch)
    (outcome : Outcome) (t : Run) : Prop extends l.Ends here outcome t where
  path : t.path = (l.impulse.trail here l.begins).map (·.node.id)
  leaves : happening.perform here d = l.leaves outcome t
  found : (happening.perform here d).store.find? l.session.id = some t.visit.session

theorem Happening.makes {here : Surroundings} {d : Desk} {happening : Happening} {l : Launch}
    (order : d.InOrder here.graph) (fits : happening.Fits d)
    (launch : happening.launch? here d = some l) :
    ∃ outcome t, l.Makes here d happening outcome t := by
  have ready := launch_ready order fits launch
  obtain ⟨outcome, t, ends⟩ := ready.ends
  have left := perform_of_launch order fits launch ends.run
  have path := Impulse.path_of_program ready.fits ends.run
  rw [ready.path, List.nil_append] at path
  exact ⟨outcome, t, ends, path, left, left ▸ ready.find?_leaves ends⟩

end Switchboard
