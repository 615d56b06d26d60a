import Switchboard.Proofs.Desk.Commuting
import Switchboard.Proofs.Desk.Inbox
import Switchboard.Proofs.Desk.Refusal

/-! Who serves a session. A flow runs only while nobody serves its session and puts nobody in charge, so this is
up to the people behind the desk. An errand of theirs hinges on one guard of the session: it is refused and
leaves all as it is, or it is done and leaves the session with whom it should. -/
namespace Switchboard

section Serving

variable {here : Surroundings} {d : Desk} {s : Session} {op : Session.Operation} {id : SessionId}

theorem Session.Operation.IsSpeech.hands (speech : op.IsSpeech) :
    (op.outcome s).operator = s.operator ∧ (op.outcome s).status = s.status := by
  cases op <;> first | contradiction | exact ⟨rfl, rfl⟩

theorem Session.Operation.IsOfFlow.unserved (flow : op.IsOfFlow) (free : s.operator = none) :
    (op.outcome s).operator = none := by
  cases op with
  | append | mergeVariables | setPending | close => exact free
  | transfer => rfl
  | appendFromOperator | pickup => cases flow <;> contradiction

theorem Launch.Ready.unserved {l : Launch} {outcome : Outcome} {t : Run} (ready : l.Ready here d)
    (ends : l.Ends here outcome t) (free : l.session.operator = none) :
    t.visit.session.operator = none := by
  obtain ⟨v, event, worked, left, -⟩ := ready.tells ends
  rw [left]
  have kept : v.session.operator = none :=
    worked.holds (P := fun s => s.operator = none) (fun _ _ flow _ free => flow.unserved free) free
  exact kept

theorem Happening.keeps_operator (happening : Happening) (here : Surroundings) (order : d.InOrder here.graph)
    (fits : happening.Fits d) (found : d.store.find? id = some s) (free : s.status = .bot → s.operator = none)
    (speech : happening.session? = some id → happening.Allows = Session.Operation.IsSpeech) :
    ∃ t, (happening.perform here d).store.find? id = some t ∧ t.operator = s.operator := by
  let keeps (t : Session) : Prop := t.operator = s.operator ∧ (t.status = .bot → t.operator = none)
  have kept : ∃ t, (happening.perform here d).store.find? id = some t ∧ keeps t := by
    refine happening.keepsOne order fits found ⟨rfl, free⟩ (fun op t named allowed kept => ?_) ?_
    · rw [speech named] at allowed
      obtain ⟨operator, status⟩ := allowed.hands (s := t)
      exact ⟨operator.trans kept.1, fun bot => operator.trans (kept.2 (status.symm.trans bot))⟩
    · -- a run: its flow is in charge, so that nobody serves the session before and after it
      intro l outcome t _ ready ends _ kept
      have nobody : t.visit.session.operator = none := ready.unserved ends (kept.2 ready.bot)
      exact ⟨nobody.trans ((kept.2 ready.bot).symm.trans kept.1), fun _ => nobody⟩
  obtain ⟨t, there, same, -⟩ := kept
  exact ⟨t, there, same⟩

end Serving

/-! Work that is refused for one reason alone. -/

/-- Whether the action is refused hinges on this guard, and a refusal leaves all as it is. -/
def HingesOn (act : EStateM ε σ α) (s : σ) (post : α → σ → Prop) : Option ε → Prop
  | some e => act s = .error e s
  | none => Succeeds act s post

namespace HingesOn

variable {act : EStateM ε σ α} {s t : σ} {guard : Option ε} {a : α} {post : α → σ → Prop}

theorem of_guarded (run : act s = guarded guard a s t) (holds : post a t) : HingesOn act s post guard := by
  cases guard with
  | some e => exact run
  | none => exact ⟨a, t, run, holds⟩

theorem seq {next : α → EStateM ε σ β} {after : β → σ → Prop} (h : HingesOn act s post guard)
    (then_ : ∀ a t, post a t → Succeeds (next a) t after) : HingesOn (act >>= next) s after guard := by
  cases guard with
  | some e => exact bind_of_error h
  | none => exact Succeeds.seq h then_

end HingesOn

namespace Desk

variable {α : Type} {act : Visit.Act α} {guard : Option NotAllowed} {d : Desk} {s : Session} {left : Session → Prop}
  {here : Surroundings} {operator : Operator}

def FindsLeft (id : SessionId) (left : Session → Prop) (e : Desk) : Prop :=
  ∃ t, e.store.find? id = some t ∧ left t

theorem visit_hinges (distinct : d.store.Distinct) (known : s ∈ d.store.sessions)
    (h : HingesOn act (.start s) (fun _ v => v.session.id = s.id ∧ left v.session) guard) :
    HingesOn (visit s.id act) d (fun _ e => e.FindsLeft s.id left) (guard.map Failure.notAllowed) := by
  cases guard with
  | some refusal =>
    refine (visit_of_error (distinct.find? known) h).trans ?_
    rw [distinct.record_start known]
  | none => exact visit_succeeds distinct known h

theorem visit_find_hinges (distinct : d.store.Distinct) (known : s ∈ d.store.sessions)
    (h : HingesOn act (.start s) (fun _ v => v.session.id = s.id ∧ left v.session) guard) :
    HingesOn (do let _ ← visit s.id act; find s.id) d (fun _ e => e.FindsLeft s.id left)
      (guard.map Failure.notAllowed) := by
  cases guard with
  | some refusal => exact bind_of_error (visit_hinges distinct known h)
  | none => exact (visit_find_succeeds distinct known h).mono fun t _ holds => ⟨t, holds⟩

variable (distinct : d.store.Distinct) (known : s ∈ d.store.sessions)

include distinct known

theorem pickup_hinges : HingesOn (pickup here s.id operator) d
    (fun _ e => e.FindsLeft s.id (·.operator = some operator.id))
    ((s.pickupRefusal operator.id).map Failure.notAllowed) :=
  visit_find_hinges distinct known (.of_guarded (Visit.change_eq Session.pickup_eq) ⟨rfl, rfl⟩)

theorem operatorReply_hinges {text : String} : HingesOn (operatorReply here s.id operator text) d
    (fun _ e => e.FindsLeft s.id (·.operator = s.operator))
    ((s.operatorRefusal operator.id).map Failure.notAllowed) :=
  visit_hinges distinct known (.of_guarded (Visit.change_eq Session.appendFromOperator_eq) ⟨rfl, rfl⟩)

theorem close_hinges : HingesOn (close here s.id operator) d
    (fun _ e => e.FindsLeft s.id (·.operator = s.operator))
    ((s.closeRefusal (closer operator)).map Failure.notAllowed) :=
  visit_find_hinges distinct known (.of_guarded (Visit.change_eq Session.close_eq) ⟨rfl, rfl⟩)

theorem transfer_hinges {queue reserved : Option String} : HingesOn (transfer here s.id queue reserved) d
    (fun _ e => e.FindsLeft s.id (·.operator = none)) (s.closedRefusal.map Failure.notAllowed) := by
  refine visit_find_hinges distinct known ?_
  have queued : HingesOn (Visit.transfer queue reserved (here.services.now 0)) (.start s)
      (fun _ v => v.session = s.enqueue queue reserved (here.services.now 0)) s.closedRefusal :=
    .of_guarded (Visit.change_eq Session.transfer_eq) rfl
  refine queued.seq fun _ v queued => Succeeds.bind_iff.2 (Succeeds.get_iff.2 ?_)
  have waiting : v.session.status = .waiting := by rw [queued]; rfl
  split
  · refine Succeeds.bind_iff.2 (Succeeds.mono (Visit.append_succeeds (by simp [waiting])
      (by simp [Post.system]) (by simp [Post.system])) fun _ w added => Succeeds.pure_iff.2 ?_)
    rw [added.2.1, queued]
    exact ⟨rfl, rfl⟩
  · refine Succeeds.pure_iff.2 ?_
    rw [queued]
    exact ⟨rfl, rfl⟩

omit distinct in
theorem reply_hinges {said : Reply} (order : d.InOrder here.graph) (free : s.status = .bot → s.operator = none) :
    HingesOn (reply here s.id said) d (fun _ e => e.FindsLeft s.id (·.operator = s.operator))
      (s.closedRefusal.map Failure.notAllowed) := by
  have found := order.distinct.find? known
  by_cases closed : s.status = .closed
  · have refused : s.closedRefusal = some .closed := by simp [Session.closedRefusal, closed]
    rw [refused]
    exact reply_of_closed found closed
  · rw [Session.closedRefusal_eq_none_iff.2 closed]
    obtain ⟨t, e, done, -⟩ : Succeeds (reply here s.id said) d _ := reply_succeeds order known closed
    have left : Happening.perform here (.request (.reply s.id said)) d = e :=
      after_hush.trans (after_of_ok done)
    have kept := (Happening.request (.reply s.id said)).keeps_operator here order trivial found free fun _ => rfl
    rw [left] at kept
    exact ⟨t, e, done, kept⟩

omit distinct known in
theorem started_on_empty {fresh : SessionId} {customer : String} {e : Desk}
    (run : start here fresh customer .empty = .ok s e) :
    e.store.find? s.id = some s ∧ s.operator = none ∧ Reached here.graph e := by
  let begins : Happening := .request (.start fresh customer)
  have unused : ∀ s ∈ Desk.empty.store.sessions, s.id ≠ fresh := by simp [Desk.empty, Store.empty]
  have left : begins.perform here .empty = e := after_hush.trans (after_of_ok run)
  have found : e.store.find? s.id = some s := by
    have vacant : Desk.empty.store.current? customer = none := rfl
    obtain ⟨_, f, -, looked⟩ := bind_eq_ok_iff.1 ((start_of_new vacant).symm.trans run)
    unfold find at looked
    split at looked
    · rename_i t there
      cases looked
      rw [(Store.find?_eq_some there).2]
      exact there
    · contradiction
  have develops : Store.Develops (fun v w => v.session.operator = none → w.session.operator = none)
      Desk.empty.store (begins.perform here .empty).store := by
    refine begins.develops .empty unused (fun _ _ named => by contradiction) ?_
    exact fun _ _ _ _ ready ends free => ready.unserved ends free
  rw [left] at develops
  have free : (∀ s ∈ e.store.sessions, s.operator = none) ∧
      ∃ more, e.store.journal = Desk.empty.store.journal ++ more ∧ ∀ e ∈ more, True :=
    develops.keeps (fun _ _ _ => rfl) (fun _ _ => trivial) (fun _ _ kept free => ⟨kept free, fun _ _ => trivial⟩)
      (by simp [Desk.empty, Store.empty])
  exact ⟨found, free.1 s (Store.find?_eq_some found).1,
    .single (left ▸ step_iff.2 ⟨here, begins, rfl, unused, rfl⟩)⟩

end Desk

theorem Office.act_eq_ok_iff {α : Type} {work : Surroundings → Desk.Op α} {o left : Office} {a : α} :
    Office.act work o = .ok a left ↔
      ∃ e, work o.surroundings o.desk = .ok a e ∧ left = { o with desk := e } := by
  unfold Office.act
  cases work o.surroundings o.desk <;> simp [eq_comm]

theorem Office.fire_keeps_operator {o : Office} {s : Session} {id : SessionId} {timer : Timer}
    (order : o.desk.InOrder o.graph) (set : timer ∈ o.desk.timers) (found : o.desk.store.find? id = some s)
    (free : s.status = .bot → s.operator = none) :
    ∃ t, (o.fire timer).desk.store.find? id = some t ∧ t.operator = s.operator := by
  let late : Desk := { o.desk with elapsed := max o.desk.elapsed timer.due }
  have inOrder : late.InOrder o.graph := ⟨order.distinct, order.known, order.settled⟩
  obtain ⟨t, there, same⟩ := (Happening.fire timer).keeps_operator { o with desk := late }.surroundings (d := late)
    inOrder set found free fun named => by contradiction
  exact ⟨t, there, same⟩

namespace Errand

def refusal (s : Session) : Errand → Option NotAllowed
  | request (.reply ..) _ | request (.transfer ..) _ => s.closedRefusal
  | request (.pickup _ operator) _ => s.pickupRefusal operator.id
  | request (.operatorReply _ operator _) _ => s.operatorRefusal operator.id
  | request (.close _ operator) _ => s.closeRefusal (Desk.closer operator)
  | request (.start ..) _ | fire _ => none

def serving (before : Option String) : Errand → Option String
  | request (.pickup _ operator) _ => some operator.id
  | request (.transfer ..) _ => none
  | _ => before

def Fits (d : Desk) : Errand → Prop
  | fire timer => timer ∈ d.timers
  | _ => True

inductive Treats (e : Errand) (o : Office) (s : Session) : Prop
  | refused (refusal : NotAllowed) (left : Office) : e.refusal s = some refusal →
      e.perform o = .error (.notAllowed refusal) left → left.desk = o.desk → Treats e o s
  | done (answer : Answer) (left : Office) (t : Session) : e.refusal s = none →
      e.perform o = .ok answer left → left.desk.store.find? s.id = some t →
      t.operator = e.serving s.operator → Treats e o s

variable {α : Type} {o : Office} {e : Errand} {s : Session}

theorem treats_of_hinges (work : Surroundings → Desk.Op α) (now : Office) {f : α → Answer}
    (same : e.perform o = (do return f (← Office.act work)) now) (desk : now.desk = o.desk)
    (h : HingesOn (work now.surroundings) now.desk
      (fun _ d => d.FindsLeft s.id (·.operator = e.serving s.operator))
      ((e.refusal s).map Failure.notAllowed)) : e.Treats o s := by
  cases guard : e.refusal s with
  | some refusal =>
    rw [guard] at h
    have refused : Office.act work now = .error (.notAllowed refusal) now := by
      unfold Office.act
      rw [show work now.surroundings now.desk = _ from h]
    exact .refused refusal now guard (same.trans (bind_of_error refused)) desk
  | none =>
    rw [guard] at h
    obtain ⟨a, d, run, t, found, served⟩ := h
    exact .done (f a) _ t guard (same.trans (bind_of_ok (Office.act_of_ok run))) found served

/-- Whether an errand is refused hinges on its guard alone, and it leaves the session with whom it should. -/
theorem treats (order : o.desk.InOrder o.graph) (fits : e.Fits o.desk)
    (found : o.desk.store.find? e.session = some s) (free : s.status = .bot → s.operator = none) :
    e.Treats o s := by
  obtain ⟨known, name⟩ := Store.find?_eq_some found
  have distinct := order.distinct
  cases e with
  | request made names =>
    cases made with
    | start => exact absurd names Bool.false_ne_true
    | reply id said =>
      obtain rfl : s.id = id := name
      exact treats_of_hinges _ o rfl rfl (Desk.reply_hinges known order free)
    | pickup id operator =>
      obtain rfl : s.id = id := name
      exact treats_of_hinges (fun here => Desk.pickup here s.id operator) (o.heartbeat operator.id) rfl rfl
        (Desk.pickup_hinges distinct known)
    | operatorReply id operator text =>
      obtain rfl : s.id = id := name
      exact treats_of_hinges (fun here => Desk.operatorReply here s.id operator text) (o.heartbeat operator.id)
        rfl rfl (Desk.operatorReply_hinges distinct known)
    | transfer id queue reserved =>
      obtain rfl : s.id = id := name
      exact treats_of_hinges _ o rfl rfl (Desk.transfer_hinges distinct known)
    | close id operator =>
      obtain rfl : s.id = id := name
      exact treats_of_hinges _ o rfl rfl (Desk.close_hinges distinct known)
  | fire timer =>
    obtain ⟨t, there, same⟩ := Office.fire_keeps_operator order fits found free
    exact .done .nothing (o.fire timer) t rfl rfl (name ▸ there) same

theorem later_of_request (made : Request) {names : made.session?.isSome} (work : Surroundings → Desk.Op α)
    (now : Office) {f : α → Answer} (same : made.serve o = (do return f (← Office.act work)) now)
    (desk : now.desk = o.desk) (graph : now.graph = o.graph) (fresh : made.IsFresh o.desk)
    (asks : made.perform now.surroundings = (do let _ ← work now.surroundings)) :
    Desk.Later o.graph o.desk ((request made names).after o).desk ∧ ((request made names).after o).graph = o.graph := by
  have left : (request made names).after o =
      { now with desk := Desk.after (made.perform now.surroundings) now.desk } := by
    rw [asks, Desk.after_hush]
    unfold after stateAfter
    rw [show (request made names).perform o = _ from same]
    cases run : work now.surroundings now.desk with
    | ok a d => rw [bind_of_ok (Office.act_of_ok run), Desk.after_of_ok run]; rfl
    | error failure d =>
      have failed : Office.act work now = .error failure { now with desk := d } := by
        rw [Office.act, run]
      rw [bind_of_error failed, Desk.after_of_error run]
  rw [left, desk]
  exact ⟨.single (.request now.surroundings made graph fresh), graph⟩

theorem later (fits : e.Fits o.desk) :
    Desk.Later o.graph o.desk (e.after o).desk ∧ (e.after o).graph = o.graph := by
  cases e with
  | request made names =>
    cases made with
    | start => exact absurd names Bool.false_ne_true
    | reply id said => exact later_of_request _ (fun here => Desk.reply here id said) o rfl rfl rfl trivial rfl
    | pickup id operator =>
      exact later_of_request _ (fun here => Desk.pickup here id operator) (o.heartbeat operator.id) rfl rfl rfl
        trivial rfl
    | operatorReply id operator text =>
      exact later_of_request _ (fun here => Desk.operatorReply here id operator text) (o.heartbeat operator.id)
        rfl rfl rfl trivial rfl
    | transfer id queue reserved =>
      exact later_of_request _ (fun here => Desk.transfer here id queue reserved) o rfl rfl rfl trivial rfl
    | close id operator =>
      exact later_of_request _ (fun here => Desk.close here id operator) o rfl rfl rfl trivial rfl
  | fire timer =>
    let late : Desk := { o.desk with elapsed := max o.desk.elapsed timer.due }
    have fires : Desk.Step o.graph late (o.fire timer).desk :=
      .fire (d := late) { o with desk := late }.surroundings timer rfl fits
    exact ⟨.tail (.single (.pass late.elapsed)) fires, rfl⟩

end Errand

end Switchboard
