import Switchboard.Desk.Office
import Switchboard.Proofs.Desk.Launch

/-! What people do at a desk. A request that sets no flow going works on the session that it names, and
on no other one; it never touches the variables or the node at which the flow waits, which are the
flow's own affair. So all that becomes of a desk's sessions is either a run or the work of people. -/
namespace Switchboard

namespace Session.Operation

def IsSpeech : Session.Operation → Prop
  | append .. | appendFromOperator .. => True
  | _ => False

/-- Variables and waiting are the flow's own affair. -/
def IsOfPeople : Session.Operation → Prop
  | mergeVariables .. | setPending _ => False
  | _ => True

theorem IsSpeech.isOfPeople {op : Session.Operation} (speech : op.IsSpeech) : op.IsOfPeople := by
  cases op <;> trivial

theorem IsSaidByCustomer.isSpeech {op : Session.Operation} (said : op.IsSaidByCustomer) :
    op.IsSpeech := by
  cases op <;> trivial

end Session.Operation

namespace Happening

def session? : Happening → Option SessionId
  | request made => made.session?
  | _ => none

/-- What is done to the session that a request names, unless its flow is set going. -/
def Allows : Happening → Session.Operation → Prop
  | request (.reply ..) | request (.operatorReply ..) => Session.Operation.IsSpeech
  | _ => Session.Operation.IsOfPeople

theorem Allows.isOfPeople {happening : Happening} {op : Session.Operation}
    (allowed : happening.Allows op) : op.IsOfPeople := by
  unfold Allows at allowed
  split at allowed
  · exact allowed.isOfPeople
  · exact allowed.isOfPeople
  · exact allowed

end Happening

namespace Desk

/-- Work of this kind on the session of this name, and nothing else. -/
def Serves (kind : Session.Operation → Prop) (id : SessionId) (d e : Desk) : Prop :=
  d.store.Develops (fun v w => v.session.id = id ∧ v.Worked kind w) e.store

variable {kind : Session.Operation → Prop} {id : SessionId} {α : Type} {here : Surroundings}

instance : Std.Refl (Serves kind id) := ⟨fun _ => .refl⟩

instance : Trans (Serves kind id) (Serves kind id) (Serves kind id) := ⟨Relation.ReflTransGen.trans⟩

theorem visit_serves {act : Visit.Act α} (respects : Respects (Visit.Worked kind) act) :
    Respects (Serves kind id) (visit id act) := by
  intro d
  cases found : d.store.find? id with
  | none =>
    exact (Ends.error_iff (visit_of_unknown found)).2 (Std.Refl.refl d)
  | some s =>
    obtain ⟨known, name⟩ := Store.find?_eq_some found
    have served {v : Visit} (worked : (Visit.start s).Worked kind v) :
        Serves kind id d { d with store := d.store.record v } :=
      .single (.visit known worked.id ⟨name, worked⟩)
    cases did : act (.start s) with
    | ok a v => exact (Ends.ok_iff (visit_of_ok found did)).2 (served ((respects _).ok a v did))
    | error refusal v =>
      exact (Ends.error_iff (visit_of_error found did)).2 (served ((respects _).error refusal v did))

theorem find_serves : Respects (Serves kind id) (find id) := by
  intro d
  cases found : d.store.find? id with
  | none =>
    have run : find id d = .error (.sessionNotFound id.text) d := by simp [find, found]
    exact (Ends.error_iff run).2 (Std.Refl.refl d)
  | some s =>
    have run : find id d = .ok s d := by simp [find, found]
    exact (Ends.ok_iff run).2 (Std.Refl.refl d)

open Session.Operation

theorem transferAct_worked {queue operator : Option String} :
    Respects (Visit.Worked IsOfPeople) (transferAct here queue operator) := by
  have transfers : Respects (Visit.Worked IsOfPeople)
      (Visit.transfer queue operator (here.services.now 0)) :=
    Visit.respects_act (.transfer queue operator _) trivial
  refine transfers.bind fun _ => Respects.get.bind fun v => ?_
  split
  · rename_i name _
    have announces : Respects (Visit.Worked IsOfPeople) (Visit.append (.system
        (Text.replace Wording.queueMarker name here.wording.transfer)) (here.services.now 1)) :=
      Visit.respects_worked (.append _ _) trivial fun _ => rfl
    exact announces.bind fun _ => .pure _
  · exact .pure _

theorem pickup_serves {operator : Operator} :
    Respects (Serves IsOfPeople id) (pickup here id operator) := by
  refine Respects.bind (visit_serves ?_) fun _ => find_serves
  exact Visit.respects_worked (.pickup operator _ _) trivial fun _ => rfl

theorem operatorReply_serves {operator : Operator} {text : String} :
    Respects (Serves IsSpeech id) (operatorReply here id operator text) :=
  visit_serves (Visit.respects_worked (.appendFromOperator operator.id text _) trivial fun _ => rfl)

theorem transfer_serves {queue operator : Option String} :
    Respects (Serves IsOfPeople id) (transfer here id queue operator) :=
  Respects.bind (visit_serves transferAct_worked) fun _ => find_serves

theorem close_serves {operator : Operator} :
    Respects (Serves IsOfPeople id) (close here id operator) := by
  refine Respects.bind (visit_serves ?_) fun _ => find_serves
  exact Visit.respects_worked (.close (closer operator) _ _) trivial fun _ => rfl

theorem reply_serves {said : Reply} {d : Desk}
    (unawaited : ∀ s, d.store.find? id = some s → Walk.awaited here.graph s = none) :
    Serves IsSpeech id d (after (reply here id said) d) := by
  cases found : d.store.find? id with
  | none =>
    rw [after_of_error (reply_of_unknown found)]
    exact Std.Refl.refl d
  | some s =>
    by_cases closed : s.status = .closed
    · rw [after_of_error (reply_of_closed found closed)]
      exact Std.Refl.refl d
    · have logs : Succeeds (Walk.log here none said) (.start s s.bag) _ :=
        Walk.log_succeeds none closed
      obtain ⟨_, r, logged, worked, -⟩ := logs
      have received : Walk.receive here said (.start s s.bag) = .ok none r := by
        rw [Walk.receive_of_unawaited (unawaited s found)]
        exact bind_of_ok logged
      rw [after_eq_of_eq (reply_of_said found closed received), after_find]
      obtain ⟨known, name⟩ := Store.find?_eq_some found
      exact .single (.visit known worked.id ⟨name, worked.mono fun _ said => said.isSpeech⟩)

end Desk

namespace Happening

variable {here : Surroundings} {d : Desk} {happening : Happening}

theorem perform_of_no_launch (none_ : happening.launch? here d = none) :
    (happening.perform here d).store = d.store ∨
      ∃ id, happening.session? = some id ∧
        Desk.Serves happening.Allows id d (happening.perform here d) := by
  cases happening with
  | request made =>
    have served {α : Type} {op : Desk.Op α} {kind : Session.Operation → Prop} {id : SessionId}
        (serves : Respects (Desk.Serves kind id) op) :
        Desk.Serves kind id d (Desk.after (do let _ ← op : Desk.Op Unit) d) := by
      rw [Desk.after_hush, Desk.after_eq_stateAfter]
      exact (serves d).stateAfter
    cases made with
    | start fresh customer =>
      refine .inl ?_
      cases current : d.store.current? customer with
      | none => simp [launch?, current] at none_
      | some s =>
        have started : Desk.start here fresh customer d = .ok s d := Desk.start_of_current current
        exact congrArg Desk.store
          (Desk.after_hush.trans (Desk.after_of_ok started))
    | reply id said =>
      refine .inr ⟨id, rfl, ?_⟩
      change Desk.Serves _ id d (Desk.after (do let _ ← Desk.reply here id said) d)
      rw [Desk.after_hush]
      refine Desk.reply_serves fun s found => ?_
      by_contra waits
      obtain ⟨node, awaits⟩ := Option.ne_none_iff_exists'.1 waits
      simp [launch?, found, awaits] at none_
    | pickup id operator => exact .inr ⟨id, rfl, served Desk.pickup_serves⟩
    | operatorReply id operator text => exact .inr ⟨id, rfl, served Desk.operatorReply_serves⟩
    | transfer id queue operator => exact .inr ⟨id, rfl, served Desk.transfer_serves⟩
    | close id operator => exact .inr ⟨id, rfl, served Desk.close_serves⟩
  | fire timer =>
    refine .inl ?_
    have idle : Desk.continueAfter here timer.continuation (d.drop timer) = .ok () (d.drop timer) := by
      unfold Desk.continueAfter
      cases found : (d.drop timer).store.find? timer.continuation.session with
      | none => rfl
      | some s =>
        have there : d.store.find? timer.continuation.session = some s := found
        refine if_neg fun waits => ?_
        simp [launch?, there, waits] at none_
    have fired : d.fire here timer = d.drop timer := Desk.fire_of_ok idle
    change (d.fire here timer).store = d.store
    rw [fired]
    rfl
  | pass elapsed => exact .inl rfl
  | shutdown => exact .inl rfl

end Happening

/-! All that becomes of the sessions of a desk. -/

namespace Desk

variable {g : Graph} {d e : Desk} {R : Visit → Visit → Prop}

def During (g : Graph) (kind : Surroundings → Desk → Happening → Prop) : Desk → Desk → Prop :=
  Relation.ReflTransGen fun d e => ∃ (here : Surroundings) (happening : Happening),
    here.graph = g ∧ happening.Fits d ∧ kind here d happening ∧ e = happening.perform here d

theorem step_iff : Step g d e ↔ ∃ (here : Surroundings) (happening : Happening),
    here.graph = g ∧ happening.Fits d ∧ e = happening.perform here d := by
  constructor
  · intro step
    -- time passes under whatever surroundings
    let nowhere : Surroundings := { Surroundings.silent with graph := g }
    cases step with
    | request here made graph fresh => exact ⟨here, .request made, graph, fresh, rfl⟩
    | fire here timer graph set => exact ⟨here, .fire timer, graph, set, rfl⟩
    | pass elapsed => exact ⟨nowhere, .pass elapsed, rfl, trivial, rfl⟩
    | shutdown => exact ⟨nowhere, .shutdown, rfl, trivial, rfl⟩
  · intro h
    obtain ⟨here, happening, graph, fits, rfl⟩ := h
    cases happening with
    | request made => exact .request here made graph fits
    | fire timer => exact .fire here timer graph fits
    | pass elapsed => exact .pass elapsed
    | shutdown => exact .shutdown

theorem InOrder.perform {here : Surroundings} {happening : Happening} (order : d.InOrder here.graph)
    (fits : happening.Fits d) : (happening.perform here d).InOrder here.graph :=
  (Step.keeps (step_iff.2 ⟨here, happening, rfl, fits, rfl⟩) order).order

theorem During.later {kind : Surroundings → Desk → Happening → Prop} (during : During g kind d e) :
    Later g d e := by
  refine Relation.ReflTransGen.mono (fun _ _ h => ?_) _ _ during
  obtain ⟨here, happening, graph, fits, -, same⟩ := h
  exact step_iff.2 ⟨here, happening, graph, fits, same⟩

end Desk

section Develops

variable {R : Visit → Visit → Prop} {here : Surroundings} {d : Desk}

theorem Launch.Ready.develops {l : Launch} {outcome : Outcome} {t : Run} (ready : l.Ready here d)
    (ends : l.Ends here outcome t) (run : R (.start l.session) t.visit) :
    d.store.Develops R (l.leaves outcome t).store := by
  have visit : Store.Turns R l.desk.store (l.desk.store.record t.visit) :=
    .visit ready.known (ready.id ends) run
  unfold leaves
  rw [Desk.keepTime_store]
  obtain same | ⟨fresh, customer, now, unused, new⟩ := ready.store
  · exact .single (same ▸ visit)
  · exact .tail (.single (new ▸ .create fresh customer now unused)) visit

theorem Happening.develops {happening : Happening} (order : d.InOrder here.graph)
    (fits : happening.Fits d)
    (people : ∀ s v, happening.session? = some s.id → (Visit.start s).Worked happening.Allows v →
      R (.start s) v)
    (runs : ∀ l outcome t, happening.launch? here d = some l → l.Ready here d →
      l.Ends here outcome t → R (.start l.session) t.visit) :
    d.store.Develops R (happening.perform here d).store := by
  cases launch : happening.launch? here d with
  | some l =>
    have ready := launch_ready order fits launch
    obtain ⟨outcome, t, ends⟩ := ready.ends
    rw [perform_of_launch order fits launch ends.run]
    exact ready.develops ends (runs l outcome t launch ready ends)
  | none =>
    obtain same | ⟨id, named, served⟩ := perform_of_no_launch launch
    · rw [same]
    · refine served.mono fun s v worked => ?_
      obtain ⟨name, worked⟩ := worked
      exact people s v (named.trans (congrArg some name.symm)) worked

theorem Desk.Later.develops {g : Graph} {e : Desk} (later : Desk.Later g d e) (order : d.InOrder g)
    (people : ∀ s v, (Visit.start s).Worked Session.Operation.IsOfPeople v → R (.start s) v)
    (runs : ∀ (here : Surroundings) (d : Desk) (l : Launch) (outcome : Outcome) (t : Run),
      here.graph = g → l.Ready here d → l.Ends here outcome t → R (.start l.session) t.visit) :
    d.store.Develops R e.store := by
  induction later with
  | refl => exact .refl
  | tail earlier step ih =>
    have order := (Desk.Later.keeps earlier order).order
    obtain ⟨here, happening, rfl, fits, rfl⟩ := Desk.step_iff.1 step
    refine ih.trans (happening.develops order fits ?_ ?_)
    · intro s v _ worked
      exact people s v (worked.mono fun _ allowed => allowed.isOfPeople)
    · intro l outcome t _ ready ends
      exact runs here _ l outcome t rfl ready ends

end Develops

section Sessions

variable {here : Surroundings} {g : Graph} {d e : Desk} {id : SessionId} {s : Session}
  {P : Session → Prop}

theorem Happening.keepsOne {happening : Happening} (order : d.InOrder here.graph)
    (fits : happening.Fits d) (found : d.store.find? id = some s) (first : P s)
    (people : ∀ op s, happening.session? = some id → happening.Allows op → P s → P (op.outcome s))
    (runs : ∀ l outcome t, happening.launch? here d = some l → l.Ready here d →
      l.Ends here outcome t → l.session.id = id → P l.session → P t.visit.session) :
    ∃ t, (happening.perform here d).store.find? id = some t ∧ P t := by
  let keeps (v w : Visit) : Prop := v.session.id = id → P v.session → P w.session
  have develops : Store.Develops keeps d.store (happening.perform here d).store := by
    refine happening.develops order fits (fun s v named worked its => ?_) runs
    exact worked.holds fun op s allowed _ => people op s (named.trans (congrArg some its)) allowed
  exact develops.keepsOne order.distinct found first fun _ _ name kept => kept name

theorem Desk.During.keepsOne {kind : Surroundings → Desk → Happening → Prop}
    (during : Desk.During g kind d e) (order : d.InOrder g) (found : d.store.find? id = some s)
    (first : P s)
    (step : ∀ (here : Surroundings) (d : Desk) (happening : Happening) (s : Session),
      d.InOrder here.graph → happening.Fits d → kind here d happening → d.store.find? id = some s →
        P s → ∃ t, (happening.perform here d).store.find? id = some t ∧ P t) :
    ∃ t, e.store.find? id = some t ∧ P t := by
  induction during with
  | refl => exact ⟨s, found, first⟩
  | tail earlier last ih =>
    obtain ⟨here, happening, rfl, fits, allowed, rfl⟩ := last
    obtain ⟨t, there, holds⟩ := ih
    have order := (Desk.Later.keeps (Desk.During.later earlier) order).order
    exact step here _ happening t order fits allowed there holds

/-- What is true of new sessions and is kept by every operation is true of all sessions of a desk. -/
theorem Desk.Reached.holds (reached : Desk.Reached g d)
    (new : ∀ fresh customer now, P (.new fresh customer now))
    (step : ∀ (op : Session.Operation) s, P s → P (op.outcome s)) : ∀ s ∈ d.store.sessions, P s := by
  let keeps (v w : Visit) : Prop := P v.session → P w.session
  have develops : Store.Develops keeps Desk.empty.store d.store := by
    refine reached.develops .empty (fun s v worked => ?_) fun here d l outcome t _ ready ends => ?_
    · exact worked.holds fun op s _ _ => step op s
    · obtain ⟨v, event, worked, left, -⟩ := ready.tells ends
      rw [left]
      exact worked.holds fun op s _ _ => step op s
  have kept : (∀ s ∈ d.store.sessions, P s) ∧
      ∃ more, d.store.journal = Desk.empty.store.journal ++ more ∧ ∀ e ∈ more, True :=
    develops.keeps new (fun _ _ => trivial) (fun _ _ kept holds => ⟨kept holds, fun _ _ => trivial⟩)
      fun s member => absurd member (List.not_mem_nil)
  exact kept.1

end Sessions

/-! A desk to look at. It asks for a name and greets, and whoever is not expected in a bar that is not
there is queued. -/

def Graph.reception : Graph where
  id := "reception"
  name := "Reception"
  nodes := [⟨"start", .start none⟩, ⟨"ask", .input "Your name?" "name"⟩,
    ⟨"greet", .script "vars.hello = 'Hi ' + name"⟩,
    ⟨"known", .condition [⟨"guest", "name", .equal, "Dora"⟩]⟩, ⟨"counter", .queue "SAC"⟩,
    ⟨"lounge", .goto "bar"⟩, ⟨"attic", .message "Who is there?"⟩]
  edges := [.always "start" "ask", .always "ask" "greet", .always "greet" "known",
    .branch "known" "guest" "lounge", .branch "known" elseHandle "counter"]
  sound := by decide

def Operator.rui : Operator := .agent "rui" "Rui" ["sac"]

def Surroundings.reception : Surroundings where
  graph := .reception
  wording := {}
  engine := {}
  services := ⟨fun _ => ⟨0, 0⟩, fun _ _ => none, fun _ => Office.sandbox {},
    fun _ => Office.eligible ⟨[.rui], .new 0, false⟩ 0, fun _ _ => none, fun _ _ => none⟩

namespace Desk

def atReception : Desk := after (Request.perform .reception (.start ⟨"chat_1"⟩ "ana")) .empty

def answering (name : String) : Happening := .request (.reply ⟨"chat_1"⟩ ⟨name, none⟩)

theorem atReception_reached : Reached .reception atReception :=
  .single (.request .reception (.start ⟨"chat_1"⟩ "ana") rfl
    (by simp [Request.IsFresh, empty, Store.empty]))

def atCounter : Desk := (answering "Ana").perform .reception atReception

theorem atCounter_reached : Reached .reception atCounter :=
  .tail atReception_reached (step_iff.2 ⟨.reception, answering "Ana", rfl, trivial, rfl⟩)

end Desk
end Switchboard
