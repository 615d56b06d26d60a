import Switchboard.Proofs.Desk.Service
import Switchboard.Proofs.Flow.InHand

/-! How flows are resumed. A run begins with the variables that its session has, and has them in hand all
along; people never touch them. So a flow that was interrupted, by a question, by a delay or because its
budget was spent, goes on with the very variables that it had. -/
namespace Switchboard

theorem Session.Operation.IsOfPeople.bag {op : Session.Operation} (people : op.IsOfPeople) (s : Session) :
    (op.outcome s).bag = s.bag := by
  cases op <;> first | contradiction | rfl

namespace Happening

/-- The flow of this session is not set going. -/
def LetsRest (id : SessionId) (here : Surroundings) (d : Desk) (happening : Happening) : Prop :=
  ∀ l, happening.launch? here d = some l → l.session.id ≠ id

end Happening

theorem Launch.Ready.eq_of_found {here : Surroundings} {d : Desk} {l : Launch} {s : Session}
    (ready : l.Ready here d) (found : d.store.find? l.session.id = some s) : s = l.session := by
  obtain ⟨known, name⟩ := Store.find?_eq_some found
  have still : s ∈ l.desk.store.sessions := by
    obtain same | ⟨fresh, customer, now, -, new⟩ := ready.store
    · exact same ▸ known
    · exact new ▸ List.mem_append_left _ known
  exact ready.distinct.eq still ready.known name

namespace Desk

variable {g : Graph} {d e : Desk} {id : SessionId} {s : Session} {bag : Variables}

theorem During.keeps_bag (during : During g (Happening.LetsRest id) d e) (order : d.InOrder g)
    (found : d.store.find? id = some s) (has : s.bag = bag) :
    ∃ t, e.store.find? id = some t ∧ t.bag = bag := by
  refine during.keepsOne order found has fun here d happening s order fits rests found has => ?_
  refine happening.keepsOne order fits found has (fun op s _ allowed has => ?_) ?_
  · exact ((Happening.Allows.isOfPeople allowed).bag s).trans has
  · exact fun l _ _ launch _ _ its _ => absurd its (rests l launch)

/-- Every run begins with the variables that its session has, and has them in hand wherever a handler
begins or ends, each handler taking them over from the one before. What a script returns is then what
the session has, though it is set value by value. And the next run of the session, whatever happens
until then, begins with the variables that this one ended with. -/
theorem Reached.bag_in_hand (reached : Reached g d) {here : Surroundings} {happening : Happening}
    (graph : here.graph = g) (fits : happening.Fits d) {l : Launch}
    (launch : happening.launch? here d = some l) :
    (l.begins.bag = l.session.bag ∧ l.begins.InHand) ∧
      ∃ outcome t, l.Makes here d happening outcome t ∧ t.InHand ∧
        (∀ h ∈ l.impulse.trail here l.begins, h.before.InHand ∧ (h.after here).InHand) ∧
        (l.impulse.trail here l.begins).IsChain (Handling.Hands here) ∧
        (∀ h ∈ (l.impulse.trail here l.begins).getLast?, t.bag = (h.after here).bag) ∧
        (∀ h ∈ l.impulse.trail here l.begins, ∀ source b bag, h.node.kind = .script source →
          Script.evaluate b h.before.bag source = .ok bag →
          here.services.evaluate h.before.asked h.before.bag source = some bag →
            (h.after here).bag = bag ∧ (h.after here).visit.session.bag = bag) ∧
        ∀ e, During g (Happening.LetsRest l.session.id) (happening.perform here d) e →
          ∀ (there : Surroundings) (later : Happening) (next : Launch), there.graph = g →
            later.Fits e → later.launch? there e = some next → next.session.id = l.session.id →
              next.begins.bag = t.bag := by
  subst graph
  have order := reached.inOrder
  have ready := Happening.launch_ready order fits launch
  have inHand : l.begins.InHand := by
    have kept : l.begins.visit.session.bag = l.session.bag :=
      ready.logged.same fun op s said _ => said.isSpeech.isOfPeople.bag s
    exact ready.bag.trans kept.symm
  obtain ⟨outcome, t, makes⟩ := Happening.makes order fits launch
  have kept : t.InHand := Impulse.program_retains ready.fits makes.run inHand
  have along : ∀ h ∈ l.impulse.trail here l.begins, h.before.InHand ∧ (h.after here).InHand := by
    intro h member
    obtain ⟨before, after⟩ := Impulse.kept_along_trail (Walk.keptByAll_retains here) member
    exact ⟨before inHand, after inHand⟩
  refine ⟨⟨ready.bag, inHand⟩, outcome, t, makes, kept, along, Impulse.trail_hands, ?_, ?_, ?_⟩
  · intro h last
    exact (Impulse.program_leaves ready.fits makes.run h last).bag
  · intro h member source b bag kind ran answers
    exact Handling.script_replaces kind (Impulse.bot_of_mem_trail ready.still member)
      (along h member).1 ran answers
  · intro e during there later next graph apt resumes its
    have after := order.perform fits
    obtain ⟨s, found, has⟩ := during.keeps_bag after makes.found kept.symm
    have ready : next.Ready there e :=
      Happening.launch_ready (graph ▸ (Later.keeps during.later after).order) apt resumes
    rw [ready.bag, ← ready.eq_of_found (its ▸ found), has]

/-- The reply meets the flow as the question has left it, and the greeting replaces what it finds. -/
theorem atReception_in_hand :
    (∃ (l : Launch) (outcome : Outcome) (t : Run) (next : Launch),
      l.Makes .reception .empty (.request (.start ⟨"chat_1"⟩ "ana")) outcome t ∧
      (answering "Ana").launch? .reception atReception = some next ∧ next.begins.bag = t.bag) ∧
    ∃ l, (answering "Ana").launch? .reception atReception = some l ∧
      ∃ h ∈ l.impulse.trail .reception l.begins, h.node.id = "greet" ∧
        (h.after .reception).visit.session.bag = .ofList [("name", "Ana"), ("hello", "Hi Ana")] := by
  have graph : Surroundings.reception.graph = .reception := rfl
  let opening : Happening := .request (.start ⟨"chat_1"⟩ "ana")
  have fresh : opening.Fits .empty := by
    simp [opening, Happening.Fits, Request.IsFresh, empty, Store.empty]
  have fits : (answering "Ana").Fits atReception := trivial
  have opens : (opening.launch? .reception .empty).map (·.session.id) = some ⟨"chat_1"⟩ := by
    decide +kernel
  have answers : ((answering "Ana").launch? .reception atReception).map (fun l =>
      (l.session.id, (l.impulse.trail .reception l.begins).head?.map fun h =>
        (h.node, h.before.asked, h.before.bag))) =
      some (⟨"chat_1"⟩, some (⟨"greet", .script "vars.hello = 'Hi ' + name"⟩, 2,
        .ofList [("name", "Ana")])) := by decide +kernel
  have greeting : Script.evaluate (.ofLimits {}) (.ofList [("name", "Ana")])
      "vars.hello = 'Hi ' + name" = .ok (.ofList [("name", "Ana"), ("hello", "Hi Ana")]) := by
    decide +kernel
  obtain ⟨first, launch, its⟩ := Option.map_eq_some_iff.1 opens
  obtain ⟨next, answered, resumed⟩ := Option.map_eq_some_iff.1 answers
  obtain ⟨same, head⟩ := Prod.mk.inj resumed
  constructor
  · obtain ⟨-, outcome, t, makes, -, -, -, -, -, goesOn⟩ :=
      Reached.bag_in_hand .refl graph fresh launch
    exact ⟨first, outcome, t, next, makes, answered,
      goesOn _ .refl .reception (answering "Ana") next rfl trivial answered (same.trans its.symm)⟩
  · obtain ⟨-, outcome, t, -, -, -, -, -, replaces, -⟩ :=
      atReception_reached.bag_in_hand graph fits answered
    obtain ⟨h, first, found⟩ := Option.map_eq_some_iff.1 head
    obtain ⟨node, rest⟩ := Prod.mk.inj found
    obtain ⟨asked, bag⟩ := Prod.mk.inj rest
    have met := List.mem_of_mem_head? first
    have result := replaces h met "vars.hello = 'Hi ' + name" (.ofLimits {}) _ (by rw [node])
      (by rw [bag]; exact greeting) (by
        rw [bag]
        exact congrArg Except.toOption greeting)
    exact ⟨next, answered, h, met, by rw [node], result.2⟩

end Desk
end Switchboard
