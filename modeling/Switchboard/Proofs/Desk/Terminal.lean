import Switchboard.Desk.Simulation
import Switchboard.Proofs.Desk.Charge

/-! A conversation at a terminal. The terminal has a copy of its own of who serves the session, and brings it
up to date by what it is answered alone. The copy is right all the same, since nothing but the commands of the
terminal itself changes who serves the session. Therefore whoever is in charge there is obeyed until the
session is closed. -/
namespace Switchboard.Simulation

/-- A line is typed, a timer fires that is set, or time passes and the world around the desk becomes another one. -/
inductive Moves : Simulation → Simulation → Prop
  | line {s t : Simulation} (text : String) : (s.step text).next = some t → Moves s t
  | fire {s : Simulation} (timer : Timer) : timer ∈ s.office.desk.timers →
      Moves s { s with office := s.office.fire timer }
  | pass {s : Simulation} (o : Office) : o.graph = s.office.graph →
      o.desk = { s.office.desk with elapsed := o.desk.elapsed } → Moves s { s with office := o }

/-- What a conversation can come to that began with nobody else on the line. -/
def Reached (s : Simulation) : Prop :=
  ∃ office fresh customer first, office.desk = .empty ∧ (begin office fresh customer).next = some first ∧
    Relation.ReflTransGen Moves first s

/-- The terminal and the desk agree on who serves the session. -/
structure Agrees (s : Simulation) : Prop where
  reached : Desk.Reached s.office.graph s.office.desk
  served : s.office.desk.FindsLeft s.session (·.operator = s.operator.map Operator.id)

variable {α β : Type} {act : Office.Op α} {charge : Option Operator} {s t : Simulation} {e : Errand}
  {operator : Operator} {line : String}

/-! What a line does. -/

section Performing

variable {a : α} {o : Office} {failure : Failure}

theorem perform_of_ok (run : act s.office = .ok a o) :
    perform act charge s = ⟨newsText s.office o, some ⟨o, s.session, charge⟩⟩ := by
  rw [perform, run]

theorem perform_of_closed (run : act s.office = .error (.notAllowed .closed) o) :
    perform act charge s = ⟨"Conversation is closed.\n", none⟩ := by
  rw [perform, run]

theorem perform_of_error (run : act s.office = .error failure o) (open_ : failure ≠ .notAllowed .closed) :
    perform act charge s =
      ⟨"Error: " ++ failure.message ++ "\n" ++ newsText s.office o, some { s with office := o }⟩ := by
  rw [perform, run]
  split
  · contradiction
  · rename_i same
    cases same
    contradiction
  · rename_i same
    cases same
    rfl

theorem perform_returning {f : α → β} : perform (do return f (← act)) charge s = perform act charge s := by
  cases run : act s.office with
  | ok a o =>
    have whole : (do return f (← act) : Office.Op β) s.office = .ok (f a) o := bind_of_ok run
    exact (perform_of_ok whole).trans (perform_of_ok run).symm
  | error failure o =>
    by_cases closed : failure = .notAllowed .closed
    · subst closed
      exact (perform_of_closed (bind_of_error run)).trans (perform_of_closed run).symm
    · exact (perform_of_error (bind_of_error run) closed).trans (perform_of_error run closed).symm

theorem next_of_error (run : act s.office = .error failure o) (next : (perform act charge s).next = some t) :
    t = { s with office := o } := by
  by_cases closed : failure = .notAllowed .closed
  · subst closed
    rw [perform_of_closed run] at next
    contradiction
  · rw [perform_of_error run closed] at next
    exact (Option.some.inj next).symm

end Performing

/-- A line tells something at most, or it sends the office on an errand. -/
theorem step_cases (line : String) (s : Simulation) :
    (∀ t, (s.step line).next = some t → t = s) ∨
      ∃ (e : Errand) (charge : Option Operator), e.session = s.session ∧ e.Fits s.office.desk ∧
        charge.map Operator.id = e.serving (s.operator.map Operator.id) ∧
        s.step line = perform e.perform charge s := by
  have tells {text : String} : ∀ t, (tell text s).next = some t → t = s := fun t next =>
    (Option.some.inj next).symm
  have ends {text : String} : ∀ t, (Shown.mk text none).next = some t → t = s := fun t next => by
    contradiction
  unfold step
  dsimp only
  split
  · exact .inl tells
  · unfold run
    split
    · exact .inl ends
    · exact .inl ends
    · exact .inl ends
    · exact .inl tells
    · refine .inl ?_
      unfold status
      split
      · exact tells
      · exact ends
    · exact .inr ⟨.request (.reply s.session _) rfl, s.operator, rfl, trivial, rfl, perform_returning.symm⟩
    · unfold pickup
      split
      · exact .inl tells
      · exact .inr ⟨.request (.pickup s.session _) rfl, some _, rfl, trivial, rfl, perform_returning.symm⟩
    · unfold say asOperator
      split
      · exact .inl tells
      · exact .inr ⟨.request (.operatorReply s.session _ _) rfl, s.operator, rfl, trivial, rfl,
          perform_returning.symm⟩
    · unfold transfer asOperator
      split
      · exact .inl tells
      · exact .inr ⟨.request (.transfer s.session _ none) rfl, none, rfl, trivial, rfl, perform_returning.symm⟩
    · unfold close asOperator
      split
      · exact .inl tells
      · exact .inr ⟨.request (.close s.session _) rfl, s.operator, rfl, trivial, rfl, perform_returning.symm⟩
    · exact .inr ⟨.request (.reply s.session _) rfl, s.operator, rfl, trivial, rfl, perform_returning.symm⟩

/-! The copy. -/

theorem Agrees.free {session : Session} (agrees : s.Agrees)
    (found : s.office.desk.store.find? s.session = some session) (bot : session.status = .bot) :
    session.operator = none := by
  obtain ⟨last, stands⟩ := agrees.reached.stands session (Store.find?_eq_some found).1
  rw [stands.bot_iff.1 bot] at stands
  exact stands.2.1

theorem Agrees.perform (agrees : s.Agrees) (its : e.session = s.session) (fits : e.Fits s.office.desk)
    (copies : charge.map Operator.id = e.serving (s.operator.map Operator.id))
    (next : (perform e.perform charge s).next = some t) : t.Agrees := by
  obtain ⟨session, found, served⟩ := agrees.served
  have name : session.id = s.session := (Store.find?_eq_some found).2
  obtain ⟨later, graph⟩ := e.later fits
  have reached : Desk.Reached (e.after s.office).graph (e.after s.office).desk :=
    graph ▸ agrees.reached.trans later
  have treats : e.Treats s.office session :=
    e.treats agrees.reached.inOrder fits (its ▸ found) (agrees.free found)
  cases treats with
  | refused refusal left refuses run same =>
    obtain rfl := next_of_error run next
    have after : e.after s.office = left := by rw [Errand.after, stateAfter, run]
    rw [after] at reached
    exact ⟨reached, session, (congrArg (·.store.find? s.session) same).trans found, served⟩
  | done answer left u allowed run there goes =>
    rw [perform_of_ok run] at next
    obtain rfl := Option.some.inj next
    have after : e.after s.office = left := by rw [Errand.after, stateAfter, run]
    rw [after] at reached
    exact ⟨reached, u, name ▸ there, goes.trans (by rw [served, copies])⟩

theorem Agrees.moves (agrees : s.Agrees) (moves : Moves s t) : t.Agrees := by
  cases moves with
  | line text next =>
    obtain same | ⟨e, charge, its, fits, copies, whole⟩ := step_cases text s
    · rw [same t next]
      exact agrees
    · rw [whole] at next
      exact agrees.perform its fits copies next
  | fire timer set =>
    obtain ⟨later, graph⟩ := (Errand.fire timer).later (o := s.office) set
    obtain ⟨session, found, served⟩ := agrees.served
    obtain ⟨u, there, same⟩ := Office.fire_keeps_operator agrees.reached.inOrder set found (agrees.free found)
    exact ⟨agrees.reached.trans later, u, there, same.trans served⟩
  | pass o graph desk =>
    obtain ⟨session, found, served⟩ := agrees.served
    have passed : Desk.Step s.office.graph s.office.desk o.desk := desk ▸ .pass o.desk.elapsed
    refine ⟨graph ▸ agrees.reached.tail passed, session, ?_, served⟩
    change o.desk.store.find? s.session = some session
    rw [desk]
    exact found

theorem Agrees.begin {office : Office} {fresh : SessionId} {customer : String} (vacant : office.desk = .empty)
    (next : (Simulation.begin office fresh customer).next = some s) : s.Agrees := by
  unfold Simulation.begin at next
  split at next
  · rename_i session office' run
    obtain rfl := Option.some.inj next
    obtain ⟨e, started, rfl⟩ := Office.act_eq_ok_iff.1 run
    rw [vacant] at started
    obtain ⟨found, free, reached⟩ := Desk.started_on_empty started
    exact ⟨reached, session, found, free⟩
  · contradiction

theorem Reached.agrees (reached : s.Reached) : s.Agrees := by
  obtain ⟨office, fresh, customer, first, vacant, begins, moves⟩ := reached
  induction moves with
  | refl => exact .begin vacant begins
  | tail _ move ih => exact ih.moves move

/-! Whoever is in charge. -/

def asked? (session : SessionId) (operator : Operator) (line : String) : Option Errand :=
  match splitCommand (Text.trim line) with
  | ("/say", text) => some (.request (.operatorReply session operator text) rfl)
  | ("/transfer", queue) => some (.request (.transfer session (some queue) none) rfl)
  | ("/close", _) => some (.request (.close session operator) rfl)
  | _ => none

def chargeAfter (operator : Operator) : Errand → Option Operator
  | .request (.transfer ..) _ => none
  | _ => some operator

theorem step_of_command {command argument : String} (split : splitCommand (Text.trim line) = (command, argument))
    (said : command ≠ "") : s.step line = run command argument (Text.trim line) s := by
  have input : Text.trim line ≠ "" := by
    intro blank
    rw [blank] at split
    exact said (congrArg Prod.fst split).symm
  unfold step
  dsimp only
  rw [if_neg (by simpa using input), split]

theorem step_of_asked (named : s.operator = some operator) (asks : asked? s.session operator line = some e) :
    s.step line = perform e.perform (chargeAfter operator e) s := by
  unfold asked? at asks
  split at asks
  · rename_i text split
    cases asks
    rw [step_of_command split (by decide)]
    change say text s = _
    rw [say, asOperator, named]
    exact perform_returning.symm
  · rename_i queue split
    cases asks
    rw [step_of_command split (by decide)]
    change transfer queue s = _
    rw [transfer, asOperator, named]
    exact perform_returning.symm
  · rename_i split
    cases asks
    rw [step_of_command split (by decide)]
    change close s = _
    rw [close, asOperator, named]
    exact perform_returning.symm
  · contradiction

theorem refusal_of_asked {session : Session} (asks : asked? s.session operator line = some e)
    (served : session.operator = some operator.id) (handed : session.status = .opened ∨ session.status = .closed) :
    e.session = s.session ∧ e.Fits s.office.desk ∧ e.refusal session = session.closedRefusal := by
  have closed (shut : session.status = .closed) : session.closedRefusal = some .closed := by
    simp [Session.closedRefusal, shut]
  have open_ (opened : session.status = .opened) : session.closedRefusal = none :=
    Session.closedRefusal_eq_none_iff.2 (by simp [opened])
  unfold asked? at asks
  split at asks
  · cases asks
    refine ⟨rfl, trivial, ?_⟩
    obtain opened | shut := handed
    · exact (Session.operatorRefusal_eq_none_iff.2 ⟨opened, served⟩).trans (open_ opened).symm
    · rw [closed shut]
      simp [Errand.refusal, Session.operatorRefusal, Session.appendRefusal, shut]
  · cases asks
    exact ⟨rfl, trivial, rfl⟩
  · cases asks
    refine ⟨rfl, trivial, ?_⟩
    obtain opened | shut := handed
    · exact (Session.closeRefusal_of_served (Session.isServedBy_iff.2 ⟨opened, served⟩)).trans (open_ opened).symm
    · rw [closed shut]
      simp [Errand.refusal, Session.closeRefusal, shut]
  · contradiction

/-- What the operator in charge asks for is done, or the session is closed and the conversation ends; nothing
else can go wrong. -/
structure Obeys (s : Simulation) (session : Session) (operator : Operator) (line : String) (e : Errand) : Prop where
  done : session.status ≠ .closed → ∃ answer o, e.perform s.office = .ok answer o ∧
    s.step line = ⟨newsText s.office o, some ⟨o, s.session, chargeAfter operator e⟩⟩
  ended : session.status = .closed → ∃ o, e.perform s.office = .error (.notAllowed .closed) o ∧
    s.step line = ⟨"Conversation is closed.\n", none⟩
  only : ∀ failure o, e.perform s.office = .error failure o →
    failure = .notAllowed .closed ∧ (s.step line).next = none

theorem Agrees.obeys {session : Session} (agrees : s.Agrees)
    (found : s.office.desk.store.find? s.session = some session) (served : session.operator = some operator.id)
    (named : s.operator = some operator) (asks : asked? s.session operator line = some e) :
    s.Obeys session operator line e := by
  -- whoever serves a session has it open, or had it open when it was closed
  have handed : session.status = .opened ∨ session.status = .closed := by
    obtain ⟨last, stands⟩ := agrees.reached.stands session (Store.find?_eq_some found).1
    cases status : session.status with
    | opened => exact .inl rfl
    | closed => exact .inr rfl
    | bot => simp [agrees.free found status] at served
    | waiting => simp [stands.operator_of_waiting status] at served
  obtain ⟨its, fits, guard⟩ := refusal_of_asked asks served handed
  have treats : e.Treats s.office session :=
    e.treats agrees.reached.inOrder fits (its ▸ found) (agrees.free found)
  have whole := step_of_asked named asks
  cases treats with
  | refused refusal left refuses run same =>
    have closed : session.status = .closed ∧ refusal = .closed := by
      rw [guard, Session.closedRefusal] at refuses
      simp_all
    obtain ⟨shut, rfl⟩ := closed
    have ends : s.step line = ⟨"Conversation is closed.\n", none⟩ := whole.trans (perform_of_closed run)
    refine ⟨fun open_ => absurd shut open_, fun _ => ⟨left, run, ends⟩, fun failure o failed => ?_⟩
    cases run.symm.trans failed
    exact ⟨rfl, congrArg Shown.next ends⟩
  | done answer left u allowed run there goes =>
    have open_ : session.status ≠ .closed := Session.closedRefusal_eq_none_iff.1 (guard ▸ allowed)
    refine ⟨fun _ => ⟨answer, left, run, whole.trans (perform_of_ok run)⟩, fun shut => absurd shut open_, ?_⟩
    intro failure o failed
    cases run.symm.trans failed

/-- Whatever is typed and whatever timers fire, the terminal and the desk agree on who serves the session, and
this operator is obeyed until the session is closed. -/
theorem Reached.obeys_operator (reached : s.Reached) :
    ∃ session, s.office.desk.store.find? s.session = some session ∧
      s.operator.map Operator.id = session.operator ∧
      ∀ operator, s.operator = some operator → ∀ line e, asked? s.session operator line = some e →
        s.Obeys session operator line e := by
  have agrees := reached.agrees
  obtain ⟨session, found, served⟩ := agrees.served
  refine ⟨session, found, served.symm, fun operator named line e asks => ?_⟩
  exact agrees.obeys found (served.trans (by rw [named]; rfl)) named asks

def atCounter : Option Simulation :=
  (begin (.opening .reception {} .empty [.rui] ⟨0, 0⟩) ⟨"chat_1"⟩ "ana").next.bind fun asked =>
    (asked.step "Ana").next.bind fun waiting => (waiting.step " /pickup rui").next

theorem reached_of_atCounter (here : atCounter = some s) : s.Reached := by
  obtain ⟨asked, begins, more⟩ := Option.bind_eq_some_iff.1 here
  obtain ⟨waiting, named, picks⟩ := Option.bind_eq_some_iff.1 more
  exact ⟨_, _, _, asked, rfl, begins, .tail (.single (.line "Ana" named)) (.line " /pickup rui" picks)⟩

theorem atCounter_obeys_rui : ∃ (s : Simulation) (session : Session), s.Reached ∧ s.operator = some .rui ∧
    session.operator = some "rui" ∧ s.Obeys session .rui "/close" (.request (.close s.session .rui) rfl) := by
  have served : atCounter.map (·.operator) = some (some .rui) := by decide +kernel
  obtain ⟨s, here, named⟩ := Option.map_eq_some_iff.1 served
  have reached := reached_of_atCounter here
  obtain ⟨session, -, agrees, obeys⟩ := reached.obeys_operator
  refine ⟨s, session, reached, named, ?_, obeys .rui named "/close" _ rfl⟩
  rw [← agrees, named]
  rfl

end Switchboard.Simulation
