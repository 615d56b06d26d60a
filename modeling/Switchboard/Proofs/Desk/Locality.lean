import Switchboard.Proofs.Chat.Registry
import Switchboard.Proofs.Desk.Upkeep
import Switchboard.Proofs.Flow.Confined

/-! Work on one session is local. What a request does to its session, tells and sets for later depends on
this session alone and on whether the desk still runs, so it can be known before the rest of the desk
is: it is a deed, which is then done at a desk. -/
namespace Switchboard

def Visit.join (v w : Visit) : Visit := ⟨w.session, v.journal ++ w.journal⟩

theorem Store.record_join {store : Store} {v w : Visit} (same : w.session.id = v.session.id) :
    (store.record v).record w = store.record (v.join w) := by
  unfold Store.record Store.put Visit.join
  rw [List.map_map, List.append_assoc, same]
  refine congrArg (Store.mk · _) (List.map_congr_left fun s _ => ?_)
  dsimp only [Function.comp]
  split <;> simp [*]

/-- What a desk shows of one session. -/
structure View where
  session : Option Session
  running : Bool

def Desk.view (d : Desk) (id : SessionId) : View := ⟨d.store.find? id, d.running⟩

/-- All that comes of an operation. -/
structure Deed (α : Type) where
  answer : Except Failure α
  /-- What is done to a session and told of it. -/
  visit : Option Visit
  /-- The continuations that are due after so many milliseconds. -/
  delays : List (Continuation × Nat)

namespace Deed

variable {α β : Type} {deed : Deed α} {d e : Desk} {id other : SessionId} {view : View}

def desk (deed : Deed α) (d : Desk) : Desk :=
  { d with
    store := deed.visit.elim d.store d.store.record
    timers := d.timers ++ deed.delays.map fun delay => ⟨delay.1, d.elapsed + delay.2⟩ }

def on (deed : Deed α) (d : Desk) : EStateM.Result Failure Desk α :=
  match deed.answer with
  | .ok a => .ok a (deed.desk d)
  | .error failure => .error failure (deed.desk d)

theorem stateAfter_on {op : Desk.Op α} (run : op d = deed.on e) : stateAfter op d = deed.desk e := by
  unfold stateAfter
  rw [run, on]
  cases deed.answer <;> rfl

theorem resultOf_on {op : Desk.Op α} (run : op d = deed.on e) : resultOf op d = deed.answer := by
  unfold resultOf
  rw [run, on]
  cases deed.answer <;> rfl

/-- The deed concerns this session alone, which is there if anything is done to it. -/
structure Of (deed : Deed α) (id : SessionId) (view : View) : Prop where
  visit : ∀ v ∈ deed.visit, view.session.isSome ∧ v.session.id = id ∧
    ∀ event ∈ v.journal, event.session = id
  delays : ∀ delay ∈ deed.delays, delay.1.session = id

def look (deed : Deed α) (view : View) : View :=
  ⟨deed.visit.elim view.session fun v => some v.session, view.running⟩

theorem Of.view_desk (of : deed.Of id (d.view id)) : (deed.desk d).view id = deed.look (d.view id) := by
  unfold Desk.view look desk
  cases visits : deed.visit with
  | none => rfl
  | some v =>
    obtain ⟨there, same, -⟩ := of.visit v visits
    obtain ⟨s, found⟩ := Option.isSome_iff_exists.1 there
    subst same
    simp [Store.find?_record found]

theorem Of.view_other (of : deed.Of id (d.view id)) (apart : id ≠ other) :
    (deed.desk d).view other = d.view other := by
  unfold Desk.view desk
  cases visits : deed.visit with
  | none => rfl
  | some v =>
    obtain ⟨there, same, -⟩ := of.visit v visits
    obtain ⟨s, found⟩ := Option.isSome_iff_exists.1 there
    subst same
    simp [Store.find?_record found, apart]

def only (answer : Except Failure α) : Deed α := ⟨answer, none, []⟩

theorem only_of (answer : Except Failure α) : (only answer).Of id view := ⟨by simp [only], by simp [only]⟩

theorem only_desk (answer : Except Failure α) : (only answer).desk d = d := by
  simp [only, desk]

theorem only_ok (a : α) : (only (.ok a)).on d = .ok a d :=
  congrArg (EStateM.Result.ok a) (only_desk _)

theorem only_error (failure : Failure) :
    (only (.error failure : Except Failure α)).on d = .error failure d :=
  congrArg (EStateM.Result.error failure) (only_desk _)

def andThen (first : Deed α) (second : Deed β) : Deed β where
  answer := second.answer
  visit := second.visit.elim first.visit fun w => some (first.visit.elim w fun v => v.join w)
  delays := first.delays ++ second.delays

variable {first : Deed α} {second : Deed β}

theorem Of.andThen (of : first.Of id view) (of' : second.Of id (first.look view)) :
    (first.andThen second).Of id view where
  visit := by
    intro u visits
    unfold Deed.andThen at visits
    cases late : second.visit with
    | none =>
      rw [late] at visits
      exact of.visit u visits
    | some w =>
      obtain ⟨there, same, about⟩ := of'.visit w late
      rw [late] at visits
      cases early : first.visit with
      | none =>
        rw [early] at visits
        cases visits
        rw [look, early] at there
        exact ⟨there, same, about⟩
      | some v =>
        obtain ⟨there, -, about'⟩ := of.visit v early
        rw [early] at visits
        cases visits
        refine ⟨there, same, fun event member => ?_⟩
        exact (List.mem_append.1 member).elim (about' event) (about event)
  delays := by
    intro delay member
    obtain early | late := List.mem_append.1 member
    · exact of.delays delay early
    · exact of'.delays delay late

theorem desk_andThen (of : first.Of id view) (of' : second.Of id (first.look view)) :
    (first.andThen second).desk d = second.desk (first.desk d) := by
  have store : (first.andThen second).visit.elim d.store d.store.record =
      second.visit.elim (first.visit.elim d.store d.store.record)
        (first.visit.elim d.store d.store.record).record := by
    unfold andThen
    cases late : second.visit with
    | none => rfl
    | some w =>
      cases early : first.visit with
      | none => rfl
      | some v =>
        have same : w.session.id = v.session.id :=
          (of'.visit w late).2.1.trans (of.visit v early).2.1.symm
        exact (Store.record_join same).symm
  unfold desk
  rw [store]
  simp [andThen]

end Deed

namespace Desk

/-- Whatever the operation does at some desk, it does at all desks that show the same of this session. -/
def Local (id : SessionId) (op : Op α) : Prop :=
  ∀ d : Desk, ∃ deed : Deed α, deed.Of id (d.view id) ∧
    ∀ e : Desk, e.view id = d.view id → op e = deed.on e

variable {α β : Type} {d : Desk} {id : SessionId}

theorem view_eq_iff {d e : Desk} : e.view id = d.view id ↔
    e.store.find? id = d.store.find? id ∧ e.running = d.running := by
  simp [view]

def asked (id : SessionId) (running : Bool) : Outcome → List (Continuation × Nat)
  | .delayed node next seconds => if running then [(⟨id, node, next⟩, 1000 * seconds)] else []
  | _ => []

theorem session_of_asked {running : Bool} {outcome : Outcome} {delay : Continuation × Nat}
    (member : delay ∈ asked id running outcome) : delay.1.session = id := by
  unfold asked at member
  split at member
  · split at member
    · cases List.mem_singleton.1 member
      rfl
    · contradiction
  · contradiction

theorem keepTime_eq {outcome : Outcome} : keepTime id outcome d =
    (Deed.mk (.ok ⟨⟩ : Except Failure PUnit) none (asked id d.running outcome)).desk d := by
  unfold keepTime asked Deed.desk
  cases outcome with
  | delayed node next seconds =>
    dsimp only
    split
    · rfl
    · simp
  | _ => simp

namespace Local

theorem of_only {op : Op α} (h : ∀ d : Desk, ∃ answer, ∀ e : Desk, e.view id = d.view id →
    op e = (Deed.only answer).on e) : Local id op := by
  intro d
  obtain ⟨answer, runs⟩ := h d
  exact ⟨.only answer, Deed.only_of answer, runs⟩

theorem pure (a : α) : Local id (Pure.pure a) := of_only fun _ =>
  ⟨.ok a, fun _ _ => (Deed.only_ok a).symm⟩

theorem throw (failure : Failure) : Local id (MonadExcept.throw failure : Op α) := of_only fun _ =>
  ⟨.error failure, fun _ _ => (Deed.only_error failure).symm⟩

theorem bind {op : Op α} {next : α → Op β} (first : Local id op) (second : ∀ a, Local id (next a)) :
    Local id (op >>= next) := by
  intro d
  obtain ⟨deed, of, runs⟩ := first d
  cases answers : deed.answer with
  | error failure =>
    refine ⟨⟨.error failure, deed.visit, deed.delays⟩, ⟨of.visit, of.delays⟩, fun e same => ?_⟩
    have run := runs e same
    rw [Deed.on, answers] at run
    exact bind_of_error run
  | ok a =>
    obtain ⟨deed', of', runs'⟩ := second a (deed.desk d)
    rw [of.view_desk] at of' runs'
    refine ⟨deed.andThen deed', of.andThen of', fun e same => ?_⟩
    have run := runs e same
    rw [Deed.on, answers] at run
    have later : (deed.desk e).view id = deed.look (d.view id) := by
      rw [← same] at of ⊢
      exact of.view_desk
    rw [bind_of_ok run, runs' _ later, Deed.on, Deed.on, Deed.desk_andThen of of']
    rfl

theorem hush {op : Op α} (a : β) (h : Local id op) :
    Local id fun d => .ok a (stateAfter op d) := by
  intro d
  obtain ⟨deed, of, runs⟩ := h d
  refine ⟨⟨.ok a, deed.visit, deed.delays⟩, ⟨of.visit, of.delays⟩, fun e same => ?_⟩
  exact congrArg (EStateM.Result.ok a) (Deed.stateAfter_on (runs e same))

theorem find (id : SessionId) : Local id (find id) := of_only fun d => by
  cases found : d.store.find? id with
  | none =>
    refine ⟨.error (.sessionNotFound id.text), fun e same => ?_⟩
    rw [Deed.only_error, Desk.find, (view_eq_iff.1 same).1, found]
  | some s =>
    refine ⟨.ok s, fun e same => ?_⟩
    rw [Deed.only_ok, Desk.find, (view_eq_iff.1 same).1, found]

theorem of_visit {s : Session} {v : Visit} (found : d.store.find? id = some s)
    (stays : (Visit.start s).Stays v) (answer : Except Failure α) :
    (Deed.mk answer (some v) []).Of id (d.view id) where
  visit := by
    rintro _ ⟨⟩
    obtain ⟨same, told, journal, about⟩ := stays
    have name : s.id = id := (Store.find?_eq_some found).2
    refine ⟨by simp [view, found], same.trans name, fun event member => ?_⟩
    rw [journal] at member
    exact (about event (by simpa [Visit.start] using member)).trans name
  delays := by simp

theorem visit {act : Visit.Act α} (stays : Respects Visit.Stays act) : Local id (Desk.visit id act) := by
  intro d
  cases found : d.store.find? id with
  | none =>
    refine ⟨.only (.error (.sessionNotFound id.text)), Deed.only_of _, fun e same => ?_⟩
    rw [Deed.only_error, Desk.visit, Store.visit, (view_eq_iff.1 same).1, found]
  | some s =>
    cases run : act (.start s) with
    | ok a v =>
      refine ⟨⟨.ok a, some v, []⟩, of_visit found ((stays _).ok a v run) _, fun e same => ?_⟩
      simp [Desk.visit, Store.visit, (view_eq_iff.1 same).1, found, run, Deed.on, Deed.desk]
    | error refusal v =>
      refine ⟨⟨.error (.notAllowed refusal), some v, []⟩,
        of_visit found ((stays _).error refusal v run) _, fun e same => ?_⟩
      simp [Desk.visit, Store.visit, (view_eq_iff.1 same).1, found, run, Deed.on, Deed.desk]

theorem walk {asked : Nat} {bag : Variables} {work : Walk α} (confined : work.Confined) :
    Local id (Desk.walk asked id bag work) := by
  intro d
  cases found : d.store.find? id with
  | none =>
    refine ⟨.only (.error (.sessionNotFound id.text)), Deed.only_of _, fun e same => ?_⟩
    rw [Deed.only_error, Desk.walk, (view_eq_iff.1 same).1, found]
  | some s =>
    cases run : work (.startAfter asked s bag) with
    | ok a r =>
      refine ⟨⟨.ok a, some r.visit, []⟩, of_visit found ((confined _).ok a r run) _, fun e same => ?_⟩
      simp [Desk.walk, (view_eq_iff.1 same).1, found, run, Deed.on, Deed.desk]
    | error failure r =>
      refine ⟨⟨.error failure, some r.visit, []⟩,
        of_visit found ((confined _).error failure r run) _, fun e same => ?_⟩
      simp [Desk.walk, (view_eq_iff.1 same).1, found, run, Deed.on, Deed.desk]

theorem keepTime (outcome : Outcome) :
    Local id (MonadState.modifyGet fun d => (PUnit.unit, Desk.keepTime id outcome d) : Op PUnit) := by
  intro d
  refine ⟨⟨.ok ⟨⟩, none, asked id d.running outcome⟩, ⟨by simp, fun _ => session_of_asked⟩, ?_⟩
  intro e same
  rw [← (view_eq_iff.1 same).2]
  exact congrArg (EStateM.Result.ok _) keepTime_eq

variable {here : Surroundings}

theorem runFrom (asked : Nat) (bag : Variables) (node : String) :
    Local id (Desk.runFrom here asked id bag node) :=
  (walk (Walk.runFrom_confined node)).bind fun outcome => keepTime outcome

theorem settle (outcome : Option Outcome) : Local id (do
    match outcome with
    | some outcome => modify (Desk.keepTime id outcome)
    | none => Pure.pure ()
    Desk.find id) := by
  cases outcome with
  | some outcome => exact (keepTime outcome).bind fun _ => find id
  | none => exact find id

theorem reply (said : Reply) : Local id (Desk.reply here id said) := by
  refine (find id).bind fun s => ?_
  have walked : Local id (Desk.walk 0 id s.bag (Walk.receive here said)) :=
    walk (Walk.receive_confined said)
  have received := walked.bind settle
  split
  · exact (throw _).bind fun _ => received
  · exact received

theorem continueAfter (c : Continuation) : Local c.session (Desk.continueAfter here c) := by
  intro d
  cases found : d.store.find? c.session with
  | none =>
    refine ⟨.only (.ok ()), Deed.only_of _, fun e same => ?_⟩
    simp only [Desk.continueAfter, (view_eq_iff.1 same).1, found]
    exact (Deed.only_ok ()).symm
  | some s =>
    by_cases waits : s.status = .bot ∧ s.pending = some c.node
    · have moved : Local c.session (Desk.runFrom here 0 c.session s.bag c.next) := runFrom 0 s.bag c.next
      obtain ⟨deed, of, runs⟩ := moved d
      refine ⟨deed, of, fun e same => ?_⟩
      simp only [Desk.continueAfter, (view_eq_iff.1 same).1, found, if_pos waits]
      exact runs e same
    · refine ⟨.only (.ok ()), Deed.only_of _, fun e same => ?_⟩
      simp only [Desk.continueAfter, (view_eq_iff.1 same).1, found, if_neg waits]
      exact (Deed.only_ok ()).symm

theorem pickup (operator : Operator) : Local id (Desk.pickup here id operator) :=
  (visit (Visit.pickup_stays operator _)).bind fun _ => find id

theorem operatorReply (operator : Operator) (text : String) :
    Local id (Desk.operatorReply here id operator text) :=
  visit (Visit.appendFromOperator_stays operator.id text)

theorem transfer (queue operator : Option String) :
    Local id (Desk.transfer here id queue operator) := by
  have stays : Respects Visit.Stays (transferAct here queue operator) := by
    refine (Visit.transfer_stays queue operator).bind fun _ => Respects.get.bind fun v => ?_
    split
    · exact (Visit.append_stays _).bind fun _ => .pure _
    · exact .pure _
  exact (visit stays).bind fun _ => find id

theorem close (operator : Operator) : Local id (Desk.close here id operator) :=
  (visit (Visit.close_stays _ _)).bind fun _ => find id

end Local
end Desk
end Switchboard
