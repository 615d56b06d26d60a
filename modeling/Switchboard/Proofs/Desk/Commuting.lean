import Mathlib.Data.List.Forall2
import Switchboard.Desk.Office
import Switchboard.Proofs.Desk.Locality

/-! Sessions side by side. Where the directory does not ask who is online, work on one session neither
reads nor changes anything of another, so that work on two sessions may be done in either order. -/
namespace Switchboard

/-- Work on one session: a request that names it, or a timer of it. -/
inductive Errand
  | request (made : Request) (names : made.session?.isSome)
  | fire (timer : Timer)

inductive Answer
  | session (session : Session)
  | message (message : Message)
  | nothing

def Request.serve : Request → Office.Op Answer
  | start fresh customer => do return .session (← Office.start fresh customer)
  | reply id said => do return .session (← Office.reply id said)
  | pickup id operator => do return .session (← Office.pickup id operator)
  | operatorReply id operator text => do return .message (← Office.operatorReply id operator text)
  | transfer id queue operator => do return .session (← Office.transfer id queue operator)
  | close id operator => do return .session (← Office.close id operator)

namespace Errand

def session : Errand → SessionId
  | request made names => made.session?.get names
  | fire timer => timer.continuation.session

def perform : Errand → Office.Op Answer
  | request made _ => made.serve
  | fire timer => do
    modify (Office.fire timer)
    return .nothing

def after (e : Errand) (o : Office) : Office := stateAfter e.perform o

/-- The time on the clock of the desk before which the errand is not run. -/
def due : Errand → Nat
  | fire timer => timer.due
  | _ => 0

end Errand

namespace Office

/-- Who is online, and what time it is, is of no account to who serves a queue. -/
def IgnoresPresence (o : Office) : Prop := ∀ p q s t queue,
  o.lookup { o.directory with presence := p } s queue =
    o.lookup { o.directory with presence := q } t queue

theorem ignoresPresence_of_eligible {o : Office} (lookup : o.lookup = eligible)
    (offline : o.directory.requireOnline = false) : o.IgnoresPresence := by
  intro p q s t queue
  simp [lookup, eligible, Directory.isEligible, offline]

/-- The errand touches no session but its own. -/
def Confines (o : Office) (e : Errand) : Prop :=
  List.Forall₂ (fun s t => t.id = s.id ∧ (s.id ≠ e.session → t = s)) o.desk.store.sessions
    (e.after o).desk.store.sessions

/-- Two errands may be run in either order. -/
structure Commutes (o : Office) (e f : Errand) : Prop where
  first : resultOf e.perform (f.after o) = resultOf e.perform o
  second : resultOf f.perform (e.after o) = resultOf f.perform o
  sessions : (f.after (e.after o)).desk.store.sessions = (e.after (f.after o)).desk.store.sessions
  continuations : ((f.after (e.after o)).desk.timers.map Timer.continuation).Perm
    ((e.after (f.after o)).desk.timers.map Timer.continuation)
  /-- Delays end at the same time, unless one errand makes time pass for the other. -/
  timers : e.due ≤ o.desk.elapsed → f.due ≤ o.desk.elapsed →
    (f.after (e.after o)).desk.timers.Perm (e.after (f.after o)).desk.timers
  events : ∃ told more, (∀ event ∈ told, event.session = e.session) ∧
    (∀ event ∈ more, event.session = f.session) ∧
    (f.after (e.after o)).desk.store.journal = o.desk.store.journal ++ (told ++ more) ∧
    (e.after (f.after o)).desk.store.journal = o.desk.store.journal ++ (more ++ told)

end Office

section Work

variable {here : Surroundings}

def Request.answer (here : Surroundings) : Request → Desk.Op Answer
  | start fresh customer => do return .session (← Desk.start here fresh customer)
  | reply id said => do return .session (← Desk.reply here id said)
  | pickup id operator => do return .session (← Desk.pickup here id operator)
  | operatorReply id operator text => do return .message (← Desk.operatorReply here id operator text)
  | transfer id queue operator => do return .session (← Desk.transfer here id queue operator)
  | close id operator => do return .session (← Desk.close here id operator)

theorem Request.answer_local (made : Request) (names : made.session?.isSome) :
    Desk.Local (made.session?.get names) (made.answer here) := by
  cases made with
  | start => exact absurd names Bool.false_ne_true
  | reply id said => exact (Desk.Local.reply said).bind fun _ => .pure _
  | pickup id operator => exact (Desk.Local.pickup operator).bind fun _ => .pure _
  | operatorReply id operator text =>
    exact (Desk.Local.operatorReply operator text).bind fun _ => .pure _
  | transfer id queue operator => exact (Desk.Local.transfer queue operator).bind fun _ => .pure _
  | close id operator => exact (Desk.Local.close operator).bind fun _ => .pure _

namespace Errand

def work (here : Surroundings) : Errand → Desk.Op Answer
  | request made _ => made.answer here
  | fire timer => fun d => .ok .nothing (stateAfter (Desk.continueAfter here timer.continuation) d)

theorem work_local (e : Errand) : Desk.Local e.session (e.work here) := by
  cases e with
  | request made names => exact made.answer_local names
  | fire timer => exact (Desk.Local.continueAfter timer.continuation).hush Answer.nothing

def spent : Errand → Option Timer
  | fire timer => some timer
  | _ => none

def ready (e : Errand) (d : Desk) : Desk :=
  { d with
    timers := e.spent.elim d.timers d.timers.erase
    elapsed := max d.elapsed e.due }

def done (e : Errand) (deed : Deed Answer) (d : Desk) : Desk := deed.desk (e.ready d)

end Errand

end Work

namespace Office

variable {o : Office} {p q : Presence} {d : Desk} {α β : Type}

def moved (o : Office) (p : Presence) (d : Desk) : Office :=
  { o with directory := { o.directory with presence := p }, desk := d }

theorem moved_desk : (o.moved p d).desk = d := rfl

theorem moved_surroundings (ignores : o.IgnoresPresence) :
    (o.moved p d).surroundings = o.surroundings := by
  have lookups : (o.moved p d).services.hasOperator = o.services.hasOperator := by
    funext n queue
    exact ignores p o.directory.presence d.elapsed o.desk.elapsed queue
  have services : (o.moved p d).services = o.services :=
    congrArg (fun hasOperator => { o.services with hasOperator }) lookups
  exact congrArg (Surroundings.mk o.graph o.settings.wording o.settings.engine) services

theorem moved_act_ok {work : Surroundings → Desk.Op α} {a : α} {e : Desk} (ignores : o.IgnoresPresence)
    (run : work o.surroundings d = .ok a e) : act work (o.moved p d) = .ok a (o.moved p e) := by
  have run : work (o.moved p d).surroundings (o.moved p d).desk = .ok a e := by
    rw [moved_surroundings ignores]
    exact run
  rw [act, run]
  rfl

theorem moved_act_error {work : Surroundings → Desk.Op α} {failure : Failure} {e : Desk}
    (ignores : o.IgnoresPresence) (run : work o.surroundings d = .error failure e) :
    act work (o.moved p d) = .error failure (o.moved p e) := by
  have run : work (o.moved p d).surroundings (o.moved p d).desk = .error failure e := by
    rw [moved_surroundings ignores]
    exact run
  rw [act, run]
  rfl

theorem act_moved (work : Surroundings → Desk.Op α) (f : α → β) (ignores : o.IgnoresPresence) :
    let op : Desk.Op β := do return f (← work o.surroundings)
    let whole : Op β := do return f (← act work)
    resultOf whole (o.moved p d) = resultOf op d ∧
      stateAfter whole (o.moved p d) = o.moved p (stateAfter op d) := by
  intro op whole
  cases run : work o.surroundings d with
  | ok a e =>
    have inner : op d = .ok (f a) e := bind_of_ok run
    have outer : whole (o.moved p d) = .ok (f a) (o.moved p e) := bind_of_ok (moved_act_ok ignores run)
    simp [resultOf, stateAfter, inner, outer]
  | error failure e =>
    have inner : op d = .error failure e := bind_of_error run
    have outer : whole (o.moved p d) = .error failure (o.moved p e) :=
      bind_of_error (moved_act_error ignores run)
    simp [resultOf, stateAfter, inner, outer]

end Office

theorem Desk.fire_eq {here : Surroundings} {timer : Timer} {d : Desk} : d.fire here timer =
    stateAfter (continueAfter here timer.continuation) { d with timers := d.timers.erase timer } := by
  unfold fire stateAfter
  cases continueAfter here timer.continuation { d with timers := d.timers.erase timer } <;> rfl

section Moved

variable {o : Office} {p : Presence} {d : Desk}

theorem Request.serve_moved (ignores : o.IgnoresPresence) (made : Request) :
    resultOf made.serve (o.moved p d) = resultOf (made.answer o.surroundings) d ∧
      ∃ q, stateAfter made.serve (o.moved p d) = o.moved q (stateAfter (made.answer o.surroundings) d) := by
  cases made with
  | start fresh customer =>
    obtain ⟨result, after⟩ := Office.act_moved
      (fun here => Desk.start here fresh customer) Answer.session ignores
    exact ⟨result, p, after⟩
  | reply id said =>
    obtain ⟨result, after⟩ := Office.act_moved
      (fun here => Desk.reply here id said) Answer.session ignores
    exact ⟨result, p, after⟩
  | pickup id operator =>
    -- the heartbeat comes first and is of no account
    obtain ⟨result, after⟩ := Office.act_moved (p := p.heartbeat operator.id d.elapsed)
      (fun here => Desk.pickup here id operator) Answer.session ignores
    exact ⟨result, _, after⟩
  | operatorReply id operator text =>
    obtain ⟨result, after⟩ := Office.act_moved (p := p.heartbeat operator.id d.elapsed)
      (fun here => Desk.operatorReply here id operator text) Answer.message ignores
    exact ⟨result, _, after⟩
  | transfer id queue operator =>
    obtain ⟨result, after⟩ := Office.act_moved
      (fun here => Desk.transfer here id queue operator) Answer.session ignores
    exact ⟨result, p, after⟩
  | close id operator =>
    obtain ⟨result, after⟩ := Office.act_moved
      (fun here => Desk.close here id operator) Answer.session ignores
    exact ⟨result, p, after⟩

namespace Errand

theorem ready_request {made : Request} {names : made.session?.isSome} : (request made names).ready d = d := by
  simp [ready, spent, due]

theorem perform_moved (ignores : o.IgnoresPresence) (e : Errand) :
    resultOf e.perform (o.moved p d) = resultOf (e.work o.surroundings) (e.ready d) ∧
      ∃ q, e.after (o.moved p d) = o.moved q (stateAfter (e.work o.surroundings) (e.ready d)) := by
  cases e with
  | request made names =>
    rw [ready_request]
    exact made.serve_moved ignores
  | fire timer =>
    refine ⟨rfl, p, ?_⟩
    let late : Desk := { d with elapsed := max d.elapsed timer.due }
    change o.moved p (late.fire (o.moved p late).surroundings timer) = _
    rw [Office.moved_surroundings ignores, Desk.fire_eq]
    rfl

/-- The errand comes to this deed, whatever is done for other sessions before it. -/
structure Does (e : Errand) (o : Office) (deed : Deed Answer) : Prop where
  of : deed.Of e.session (o.desk.view e.session)
  result : ∀ p (d : Desk), d.view e.session = o.desk.view e.session →
    resultOf e.perform (o.moved p d) = deed.answer
  after : ∀ p (d : Desk), d.view e.session = o.desk.view e.session →
    ∃ q, e.after (o.moved p d) = o.moved q (e.done deed d)

theorem exists_does (ignores : o.IgnoresPresence) (e : Errand) : ∃ deed, e.Does o deed := by
  have work : Desk.Local e.session (e.work o.surroundings) := e.work_local
  obtain ⟨deed, of, runs⟩ := work o.desk
  refine ⟨deed, of, fun p d same => ?_, fun p d same => ?_⟩
  · have run := runs (e.ready d) same
    rw [(perform_moved ignores e).1, Deed.resultOf_on run]
  · have run := runs (e.ready d) same
    obtain ⟨-, q, after⟩ := perform_moved (p := p) (d := d) ignores e
    exact ⟨q, by rw [after, Deed.stateAfter_on run, done]⟩

variable {e f : Errand} {deed deed' : Deed Answer}

theorem Does.first (does : e.Does o deed) : resultOf e.perform o = deed.answer ∧
    ∃ q, e.after o = o.moved q (e.done deed o.desk) :=
  ⟨does.result o.directory.presence o.desk rfl, does.after o.directory.presence o.desk rfl⟩

theorem Does.second (does : e.Does o deed) (does' : f.Does o deed') (apart : e.session ≠ f.session) :
    resultOf f.perform (e.after o) = deed'.answer ∧
      ∃ q, f.after (e.after o) = o.moved q (f.done deed' (e.done deed o.desk)) := by
  obtain ⟨q, after⟩ := does.first.2
  have same : (e.done deed o.desk).view f.session = o.desk.view f.session :=
    Deed.Of.view_other (d := e.ready o.desk) does.of apart
  rw [after]
  exact ⟨does'.result q _ same, does'.after q _ same⟩

end Errand

end Moved

/-! Deeds at one desk. -/

namespace Deed

variable {α β : Type} {deed : Deed α} {first : Deed α} {second : Deed β} {d : Desk}
variable {id other : SessionId} {view here there : View}

def told (deed : Deed α) : List Event := deed.visit.elim [] Visit.journal

theorem journal_desk : (deed.desk d).store.journal = d.store.journal ++ deed.told := by
  unfold desk told
  cases deed.visit <;> simp [Store.record]

theorem Of.told (of : deed.Of id view) : ∀ event ∈ deed.told, event.session = id := by
  unfold Deed.told
  cases visits : deed.visit with
  | none => simp
  | some v => exact (of.visit v visits).2.2

def write (deed : Deed α) (sessions : List Session) : List Session :=
  deed.visit.elim sessions fun v => Store.put sessions v.session

theorem sessions_desk : (deed.desk d).store.sessions = deed.write d.store.sessions := by
  unfold desk write
  cases deed.visit <;> rfl

theorem put_comm {s t : Session} (apart : s.id ≠ t.id) (sessions : List Session) :
    Store.put (Store.put sessions s) t = Store.put (Store.put sessions t) s := by
  unfold Store.put
  rw [List.map_map, List.map_map]
  refine List.map_congr_left fun u _ => ?_
  dsimp only [Function.comp]
  by_cases first : u.id = s.id <;> by_cases second : u.id = t.id <;> simp_all

theorem write_comm (of : first.Of id here) (of' : second.Of other there) (apart : id ≠ other)
    (sessions : List Session) :
    second.write (first.write sessions) = first.write (second.write sessions) := by
  unfold write
  cases early : first.visit with
  | none => rfl
  | some v =>
    cases late : second.visit with
    | none => rfl
    | some w =>
      refine put_comm ?_ sessions
      rwa [(of.visit v early).2.1, (of'.visit w late).2.1]

def set (deed : Deed α) (time : Nat) : List Timer :=
  deed.delays.map fun delay => ⟨delay.1, time + delay.2⟩

theorem continuations_set (time : Nat) :
    (deed.set time).map Timer.continuation = deed.delays.map Prod.fst := by
  simp [set]

theorem Of.set (of : deed.Of id view) {time : Nat} {timer : Timer} (member : timer ∈ deed.set time) :
    timer.continuation.session = id := by
  obtain ⟨delay, asked, rfl⟩ := List.mem_map.1 member
  exact of.delays delay asked

end Deed

namespace Errand

variable {o : Office} {d : Desk} {e f : Errand}

def spend (e : Errand) (timers : List Timer) : List Timer := e.spent.elim timers timers.erase

theorem spend_comm (timers : List Timer) : f.spend (e.spend timers) = e.spend (f.spend timers) := by
  unfold spend
  cases e.spent with
  | none => rfl
  | some timer =>
    cases f.spent with
    | none => rfl
    | some other => exact List.erase_comm ..

theorem spend_append {timers more : List Timer}
    (others : ∀ timer ∈ more, timer.continuation.session ≠ e.session) :
    e.spend (timers ++ more) = e.spend timers ++ more := by
  cases e with
  | fire timer =>
    have missing : timer ∉ more := fun member => others timer member rfl
    change (timers ++ more).erase timer = timers.erase timer ++ more
    rw [List.erase_append]
    split
    · rfl
    · rename_i unset
      rw [List.erase_of_not_mem missing, List.erase_of_not_mem unset]
  | _ => rfl

variable {deed deed' : Deed Answer}

theorem sessions_done : (e.done deed d).store.sessions = deed.write d.store.sessions :=
  Deed.sessions_desk

theorem journal_done : (e.done deed d).store.journal = d.store.journal ++ deed.told :=
  Deed.journal_desk

theorem timers_done :
    (e.done deed d).timers = e.spend d.timers ++ deed.set (max d.elapsed e.due) := rfl

theorem elapsed_done : (e.done deed d).elapsed = max d.elapsed e.due := rfl

theorem timers_second (of : deed.Of e.session (d.view e.session)) (apart : e.session ≠ f.session) :
    (f.done deed' (e.done deed d)).timers = f.spend (e.spend d.timers) ++
      (deed.set (max d.elapsed e.due) ++ deed'.set (max (max d.elapsed e.due) f.due)) := by
  have others : ∀ timer ∈ deed.set (max d.elapsed e.due),
      timer.continuation.session ≠ f.session := by
    intro timer member
    rw [of.set member]
    exact apart
  rw [timers_done, timers_done, spend_append others, elapsed_done, List.append_assoc]

end Errand

namespace Office

variable {o : Office} {e f : Errand}

theorem confines (ignores : o.IgnoresPresence) (e : Errand) : o.Confines e := by
  obtain ⟨deed, does⟩ := e.exists_does ignores
  obtain ⟨-, q, after⟩ := does.first
  unfold Confines
  rw [after, moved_desk, Errand.sessions_done, Deed.write]
  cases visits : deed.visit with
  | none => exact List.forall₂_same.2 fun _ _ => ⟨rfl, fun _ => rfl⟩
  | some v =>
    have name : v.session.id = e.session := (does.of.visit v visits).2.1
    refine List.forall₂_map_right_iff.2 (List.forall₂_same.2 fun s _ => ?_)
    rw [name]
    split
    · rename_i same
      exact ⟨name.trans same.symm, fun other => absurd same other⟩
    · exact ⟨rfl, fun _ => rfl⟩

theorem commutes (ignores : o.IgnoresPresence) (apart : e.session ≠ f.session) :
    o.Commutes e f := by
  obtain ⟨deed, does⟩ := e.exists_does ignores
  obtain ⟨deed', does'⟩ := f.exists_does ignores
  obtain ⟨result, q, after⟩ := does.second does' apart
  obtain ⟨result', q', after'⟩ := does'.second does apart.symm
  constructor
  · rw [result', does.first.1]
  · rw [result, does'.first.1]
  · rw [after, after']
    simp only [moved_desk, Errand.sessions_done]
    exact Deed.write_comm does.of does'.of apart o.desk.store.sessions
  · rw [after, after', moved_desk, moved_desk, Errand.timers_second does.of apart,
      Errand.timers_second does'.of apart.symm, Errand.spend_comm]
    simp only [List.map_append, Deed.continuations_set]
    exact List.perm_append_comm.append_left _
  · intro early early'
    rw [after, after', moved_desk, moved_desk, Errand.timers_second does.of apart,
      Errand.timers_second does'.of apart.symm, Errand.spend_comm, Nat.max_eq_left early,
      Nat.max_eq_left early', Nat.max_eq_left early]
    exact List.perm_append_comm.append_left _
  · refine ⟨deed.told, deed'.told, does.of.told, does'.of.told, ?_, ?_⟩
    · rw [after, moved_desk, Errand.journal_done, Errand.journal_done, List.append_assoc]
    · rw [after', moved_desk, Errand.journal_done, Errand.journal_done, List.append_assoc]

/-- Each session is out of reach of whatever is done for another, and so what is done for two of them may be
done in either order. -/
theorem sessions_side_by_side (ignores : o.IgnoresPresence) :
    (∀ e, o.Confines e) ∧ ∀ e f, e.session ≠ f.session → o.Commutes e f :=
  ⟨confines ignores, fun _ _ => commutes ignores⟩

def twoOnHold : Office :=
  { opening .patient {} .empty [] ⟨0, 0⟩ with
    desk := Desk.after (Request.perform .silent (.start ⟨"chat_2"⟩ "bia")) Desk.onHold }

/-- The delay of one of them ends while the other is transferred. -/
theorem twoOnHold_side_by_side :
    let ends := Errand.fire Desk.holdTimer
    let transfers := Errand.request (.transfer ⟨"chat_2"⟩ (some "sales") none) rfl
    Desk.holdTimer ∈ twoOnHold.desk.timers ∧ (resultOf transfers.perform twoOnHold).isOk ∧
      twoOnHold.Confines ends ∧ twoOnHold.Commutes ends transfers := by
  intro ends transfers
  obtain ⟨confines, commutes⟩ := sessions_side_by_side (o := twoOnHold)
    (ignoresPresence_of_eligible rfl rfl)
  exact ⟨by decide, by decide, confines ends, commutes ends transfers (by decide)⟩

end Office
end Switchboard
