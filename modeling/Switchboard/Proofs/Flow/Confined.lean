import Switchboard.Proofs.Chat.Account
import Switchboard.Proofs.Flow.Frame

/-! A walk keeps to its session. Whatever it does and however it ends, the session is the one it was, and
everything it tells is told of this session; nothing else is within its reach. -/
namespace Switchboard

/-- Still the same session, and nothing was told of any other. -/
def Visit.Stays (v w : Visit) : Prop :=
  w.session.id = v.session.id ∧
    ∃ told, w.journal = v.journal ++ told ∧ ∀ event ∈ told, event.session = v.session.id

namespace Visit.Stays

variable {u v w : Visit}

theorem of_same (session : w.session.id = v.session.id) (journal : w.journal = v.journal) :
    v.Stays w := ⟨session, [], by simp [journal], by simp⟩

instance : Std.Refl Visit.Stays := ⟨fun _ => of_same rfl rfl⟩

theorem trans (first : u.Stays v) (second : v.Stays w) : u.Stays w := by
  obtain ⟨same, told, journal, about⟩ := first
  obtain ⟨same', more, journal', about'⟩ := second
  refine ⟨same'.trans same, told ++ more, by rw [journal', journal, List.append_assoc], ?_⟩
  intro event member
  obtain early | late := List.mem_append.1 member
  · exact about event early
  · exact (about' event late).trans same

instance : Trans Visit.Stays Visit.Stays Visit.Stays := ⟨trans⟩

end Visit.Stays

namespace Visit

variable {v : Visit} {α : Type} {guard : Option NotAllowed} {a : α} {t : Session}

theorem change_stays {changes : Session.Change α} {told : Session → Session → α → List Event}
    (h : changes v.session = guarded guard a v.session t) (same : t.id = v.session.id)
    (about : ∀ event ∈ told v.session t a, event.session = v.session.id) :
    Ends (change changes told) v (fun _ w => v.Stays w) v.Stays :=
  .of_guarded (change_eq h) (Std.Refl.refl v) ⟨same, _, rfl, about⟩

theorem session_of_toldStatus {s t : Session} {event : Event} (member : event ∈ toldStatus s t) :
    event.session = s.id := by
  unfold toldStatus at member
  split at member
  · contradiction
  · cases List.mem_singleton.1 member
    rfl

theorem session_of_toldMessage {s : Session} {message : Message} {event : Event}
    (member : event ∈ toldMessage s message) : event.session = s.id := by
  cases List.mem_singleton.1 member
  rfl

theorem session_of_toldBoth {s t : Session} {message : Message} {event : Event}
    (member : event ∈ toldMessage s message ++ toldStatus s t) : event.session = s.id :=
  (List.mem_append.1 member).elim session_of_toldMessage session_of_toldStatus

variable {now : Instant}

theorem append_stays (post : Post) : Respects Stays (append post now) := fun _ =>
  change_stays Session.append_eq rfl fun _ => session_of_toldMessage

theorem appendFromOperator_stays (operator text : String) :
    Respects Stays (appendFromOperator operator text now) := fun _ =>
  change_stays Session.appendFromOperator_eq rfl fun _ => session_of_toldMessage

theorem mergeVariables_stays (patch : Variables) : Respects Stays (mergeVariables patch now) :=
  fun _ => change_stays Session.mergeVariables_eq rfl (by simp)

theorem setPending_stays (node : Option String) : Respects Stays (setPending node) := fun _ =>
  change_stays Session.setPending_eq rfl (by simp)

theorem transfer_stays (queue operator : Option String) :
    Respects Stays (transfer queue operator now) := fun _ =>
  change_stays Session.transfer_eq rfl fun _ => session_of_toldStatus

theorem pickup_stays (operator : Operator) (announcement : String) :
    Respects Stays (pickup operator announcement now) := fun _ =>
  change_stays Session.pickup_eq rfl fun _ => session_of_toldBoth

theorem close_stays (closer : Closer) (farewell : String) :
    Respects Stays (close closer farewell now) := fun _ =>
  change_stays Session.close_eq rfl fun _ => session_of_toldBoth

end Visit

def Run.Stays (r t : Run) : Prop := r.visit.Stays t.visit

instance : Std.Refl Run.Stays := ⟨fun r => Std.Refl.refl r.visit⟩

instance : Trans Run.Stays Run.Stays Run.Stays := ⟨Visit.Stays.trans⟩

namespace Walk

variable {here : Surroundings} {α : Type}

abbrev Confined (work : Walk α) : Prop := Respects Run.Stays work

theorem act_confined {work : Visit.Act α} (stays : Respects Visit.Stays work) :
    Confined (act work) := fun r => act_ends_iff.2 (stays r.visit)

theorem keptByAll_stays (here : Surroundings) : KeptByAll here Run.Stays where
  asks _ _ := .of_same rfl rfl
  requests _ _ := .of_same rfl rfl
  moves _ _ := .of_same rfl rfl
  posts post _ _ := act_confined (Visit.append_stays post)
  transfers queue _ := act_confined (Visit.transfer_stays (some queue) none)
  closes farewell _ := act_confined (Visit.close_stays .flow farewell)
  patches changes := by
    refine .bind (fun r => ask_ends_iff.2 (.of_same rfl rfl)) fun now => ?_
    refine (act_confined (Visit.mergeVariables_stays changes)).bind fun _ => ?_
    exact .modify fun _ => .of_same rfl rfl

/-! What comes after the last round. -/

theorem publish_confined {event : SessionId → Event} (about : ∀ id, (event id).session = id) :
    Confined (publish event) :=
  .modify fun _ => ⟨rfl, _, rfl, by simp [about]⟩

theorem clearPending_confined : Confined clearPending :=
  clearPending_kept (act_confined (Visit.setPending_stays none))

theorem suspend_confined (node : String) : Confined (suspend node) :=
  (act_confined (Visit.setPending_stays _)).bind fun _ => publish_confined fun _ => rfl

theorem conclude_confined (outcome : Outcome) : Confined (conclude outcome) := by
  cases outcome with
  | paused node => exact suspend_confined node
  | delayed node next seconds => exact suspend_confined node
  | stalled node => exact clearPending_confined.bind fun _ => publish_confined fun _ => rfl
  | queued queue => exact clearPending_confined.bind fun _ => publish_confined fun _ => rfl
  | terminated => exact clearPending_confined.bind fun _ => publish_confined fun _ => rfl
  | continuedTo node => exact .pure _

theorem settle_confined (outcome : Outcome) : Confined (settle here outcome) :=
  ((keptByAll_stays here).proceed _ _ outcome).bind fun outcome =>
    (conclude_confined outcome).bind fun _ => .pure _

theorem runFrom_confined (node : String) : Confined (runFrom here node) :=
  ((keptByAll_stays here).advance _ node).bind fun outcome => settle_confined outcome

theorem resumeFrom_confined (pending : String) (reply : Reply) :
    Confined (resumeFrom here pending reply) :=
  ((keptByAll_stays here).resume _ pending reply).bind fun outcome => settle_confined outcome

theorem receive_confined (reply : Reply) : Confined (receive here reply) := by
  refine Respects.get.bind fun r => ((keptByAll_stays here).holds.loggedText _ reply).bind fun text => ?_
  have posts : Confined (post here (.user text)) :=
    ((keptByAll_stays here).holds.ask _).bind fun now =>
      (act_confined (Visit.append_stays _)).bind fun _ => .pure _
  refine posts.bind fun _ => ?_
  split
  · exact (resumeFrom_confined _ reply).bind fun _ => .pure _
  · exact .pure _

end Walk
end Switchboard
