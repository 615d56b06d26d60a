import Switchboard.Proofs.Desk.Handover
import Switchboard.Proofs.Desk.Inbox

/-! Sessions that are new. A session is registered first and greeted by its flow in a second step, and in
between everybody can see it. A greeting does not look at its session again: it relies on the session
being as it was registered. Customers may speak in it and operators are refused, so the one thing that
could take it away from the flow is a transfer. -/
namespace Switchboard

/-- The flow has not been there yet: what it is to work on is as it was registered. -/
structure Session.Untouched (registered s : Session) : Prop where
  status : s.status = .bot
  pending : s.pending = none
  bag : s.bag = registered.bag

/-- A desk together with the new sessions that are still to be greeted, as they were registered. -/
structure Lobby where
  desk : Desk
  ungreeted : List Session
deriving DecidableEq

namespace Lobby

def empty : Lobby := ⟨.empty, []⟩

/-- What can happen next. The two steps of a start may be far apart. -/
inductive Move
  | register (fresh : SessionId) (customer : String)
  | greet (registered : Session)
  | happen (happening : Happening)

/-- A greeting takes the session as it is by then, and the variables as they were registered. -/
def greeting (lobby : Lobby) (here : Surroundings) (registered s : Session) : Launch :=
  ⟨lobby.desk, s, .enter here.graph.start, .startAfter 1 s registered.bag⟩

namespace Move

def perform (here : Surroundings) : Move → Lobby → Lobby
  | register fresh customer, lobby =>
    match Desk.register here fresh customer lobby.desk with
    | .ok (s, isNew) desk => ⟨desk, if isNew then lobby.ungreeted ++ [s] else lobby.ungreeted⟩
    | .error _ desk => ⟨desk, lobby.ungreeted⟩
  | greet registered, lobby =>
    ⟨Desk.after (Desk.greet here registered) lobby.desk, lobby.ungreeted.erase registered⟩
  | happen happening, lobby => { lobby with desk := happening.perform here lobby.desk }

def Fits (lobby : Lobby) : Move → Prop
  | register fresh _ => ∀ s ∈ lobby.desk.store.sessions, s.id ≠ fresh
  | greet registered => registered ∈ lobby.ungreeted
  | happen happening => happening.Fits lobby.desk

/-- No session is transferred before it is greeted. -/
def Spares (lobby : Lobby) : Move → Prop
  | happen (.request (.transfer id ..)) => ∀ s ∈ lobby.ungreeted, s.id ≠ id
  | _ => True

def launch? (here : Surroundings) (lobby : Lobby) : Move → Option Launch
  | register .. => none
  | greet registered =>
    (lobby.desk.store.find? registered.id).map (lobby.greeting here registered)
  | happen happening => happening.launch? here lobby.desk

def session? : Move → Option SessionId
  | happen happening => happening.session?
  | _ => none

structure Makes (here : Surroundings) (lobby : Lobby) (move : Move) (l : Launch) (outcome : Outcome)
    (t : Run) : Prop extends l.Ends here outcome t where
  path : t.path = (l.impulse.trail here l.begins).map (·.node.id)
  leaves : (move.perform here lobby).desk = l.leaves outcome t
  bot : ∀ h ∈ l.impulse.trail here l.begins, h.before.visit.session.status = .bot

/-- The flow is set going only in sessions that it has. What has left it is changed only by requests that
name it, and is not spoken in by the flow. -/
structure RunsOnBot (here : Surroundings) (lobby : Lobby) (move : Move) : Prop where
  bot : ∀ l, move.launch? here lobby = some l → l.session.status = .bot
  run : ∀ l, move.launch? here lobby = some l → ∃ outcome t, move.Makes here lobby l outcome t
  gone : ∀ id s, lobby.desk.store.find? id = some s → s.status ≠ .bot →
    ∃ t, (move.perform here lobby).desk.store.find? id = some t ∧
      t.status ≠ .bot ∧ t.bag = s.bag ∧ t.pending = s.pending ∧
      (∃ more, t.messages = s.messages ++ more ∧ ∀ message ∈ more, message.sender ≠ .bot) ∧
      (move.session? ≠ some id → t = s)

end Move

def During (g : Graph) (kind : Lobby → Move → Prop) : Lobby → Lobby → Prop :=
  Relation.ReflTransGen fun lobby after => ∃ (here : Surroundings) (move : Move),
    here.graph = g ∧ move.Fits lobby ∧ kind lobby move ∧ after = move.perform here lobby

structure Tidy (g : Graph) (lobby : Lobby) : Prop where
  order : lobby.desk.InOrder g
  distinct : (lobby.ungreeted.map Session.id).Nodup
  untouched : ∀ s ∈ lobby.ungreeted, ∃ t, lobby.desk.store.find? s.id = some t ∧ s.Untouched t

end Lobby

/-! What can be done to a session before it is greeted. -/

section Untouched

variable {here : Surroundings} {d : Desk} {id : SessionId} {s t : Session} {happening : Happening}

theorem Session.Operation.IsSpeech.untouched {op : Session.Operation} (speech : op.IsSpeech)
    (untouched : s.Untouched t) : s.Untouched (op.outcome t) := by
  obtain ⟨status, pending, bag⟩ := untouched
  cases op <;> first | contradiction | exact ⟨status, pending, bag⟩

theorem Session.closeRefusal_of_bot (operator : Operator) (bot : t.status = .bot) :
    t.closeRefusal (Desk.closer operator) = some (.wrongStatus .close .bot) := by
  unfold Desk.closer
  split <;> simp [closeRefusal, isClosed, isHandedOver, bot]

theorem Desk.pickup_of_bot (here : Surroundings) (operator : Operator) (found : d.store.find? id = some t)
    (bot : t.status = .bot) : ∃ failure e, pickup here id operator d = .error failure e := by
  have attempted : Attempts (Visit.pickup operator
      (Text.replace Wording.operatorMarker operator.name here.wording.pickup) (here.services.now 0))
      (.start t) _ := Visit.pickup_attempts
  obtain ⟨refusal, refused⟩ | ⟨message, v, -, waiting, -⟩ := attempted
  · exact ⟨_, _, bind_of_error (visit_of_error found refused)⟩
  · exact absurd (bot.symm.trans waiting) (by simp)

theorem Desk.close_of_bot (here : Surroundings) (operator : Operator) (found : d.store.find? id = some t)
    (bot : t.status = .bot) : ∃ failure e, close here id operator d = .error failure e := by
  have refused : Visit.close (closer operator) here.wording.closed (here.services.now 0) (.start t) =
      _ := Visit.change_eq Session.close_eq
  rw [show (Visit.start t).session = t from rfl, Session.closeRefusal_of_bot operator bot] at refused
  exact ⟨_, _, bind_of_error (visit_of_error found refused)⟩

theorem Happening.unmoved_of_bot (found : d.store.find? id = some t) (bot : t.status = .bot)
    (spares : ∀ queue operator, happening ≠ .request (.transfer id queue operator)) :
    ¬ happening.Moves id here d := by
  intro moves
  cases happening with
  | request made =>
    obtain ⟨names, e, done⟩ := moves
    cases made with
    | pickup other operator =>
      cases names
      obtain ⟨failure, f, refused⟩ := Desk.pickup_of_bot here operator found bot
      exact absurd (done.symm.trans (bind_of_error refused)) (by simp)
    | close other operator =>
      cases names
      obtain ⟨failure, f, refused⟩ := Desk.close_of_bot here operator found bot
      exact absurd (done.symm.trans (bind_of_error refused)) (by simp)
    | transfer other queue operator =>
      cases names
      exact spares queue operator rfl
    | _ => contradiction
  | _ => contradiction

theorem Happening.waits_of_launch {l : Launch} (fits : happening.Fits d)
    (launch : happening.launch? here d = some l) (found : d.store.find? l.session.id = some s) :
    s.pending ≠ none := by
  cases happening with
  | request made =>
    cases made with
    | start fresh customer =>
      simp only [launch?] at launch
      split at launch
      · contradiction
      · cases launch
        obtain ⟨known, name⟩ := Store.find?_eq_some found
        exact absurd name (fits s known)
    | reply id said =>
      simp only [launch?, Option.bind_eq_bind, Option.bind_eq_some_iff] at launch
      obtain ⟨t, there, node, awaits, same⟩ := launch
      cases same
      rw [(Store.find?_eq_some there).2, there] at found
      cases found
      obtain ⟨-, waits, -⟩ := Walk.awaited_eq_some awaits
      simp [waits]
    | _ => contradiction
  | fire timer =>
    simp only [launch?, Option.bind_eq_bind, Option.bind_eq_some_iff] at launch
    obtain ⟨t, there, waits⟩ := launch
    split at waits
    · rename_i still
      cases waits
      rw [(Store.find?_eq_some there).2, there] at found
      cases found
      simp [still.2]
    · contradiction
  | _ => contradiction

theorem Happening.keeps_untouched (order : d.InOrder here.graph) (fits : happening.Fits d)
    (found : d.store.find? id = some t) (untouched : s.Untouched t)
    (spares : ∀ queue operator, happening ≠ .request (.transfer id queue operator)) :
    ∃ u, (happening.perform here d).store.find? id = some u ∧ s.Untouched u := by
  obtain idle | speech :=
    happening.idle_or_speech order fits (unmoved_of_bot found untouched.status spares)
  · rw [idle]
    exact ⟨t, found, untouched⟩
  · refine happening.keepsOne order fits found untouched (fun op u named allowed untouched => ?_) ?_
    · rw [speech named] at allowed
      exact allowed.untouched untouched
    · intro l outcome r launch ready _ its _
      subst its
      exact absurd untouched.pending (waits_of_launch fits launch found)

end Untouched

namespace Lobby

variable {here : Surroundings} {g : Graph} {lobby after : Lobby} {move : Move} {l : Launch}
  {registered s : Session} {id fresh : SessionId} {customer : String}

/-! Each move leaves the lobby tidy. -/

theorem register_of_current (current : lobby.desk.store.current? customer = some s) :
    (Move.register fresh customer).perform here lobby = lobby := by
  simp only [Move.perform, Desk.register_of_current current]
  rfl

theorem register_of_new (new : lobby.desk.store.current? customer = none) :
    let s := Session.new fresh customer (here.services.now 0)
    (Move.register fresh customer).perform here lobby =
      ⟨{ lobby.desk with store := lobby.desk.store.add s }, lobby.ungreeted ++ [s]⟩ := by
  simp only [Move.perform, Desk.register_of_new new]
  rfl

/-- A start is both steps, and nothing between them. -/
theorem start_eq_moves (new : lobby.desk.store.current? customer = none) :
    let s := Session.new fresh customer (here.services.now 0)
    ((Move.greet s).perform here ((Move.register fresh customer).perform here lobby)).desk =
      Desk.after (Desk.start here fresh customer) lobby.desk := by
  intro s
  rw [register_of_new new, Desk.after_eq_of_eq (Desk.start_of_new new),
    Desk.after_bind fun _ _ => Desk.after_find]
  rfl

theorem Tidy.empty : Tidy g .empty where
  order := .empty
  distinct := List.nodup_nil
  untouched := by simp [Lobby.empty]

theorem Tidy.greets (tidy : lobby.Tidy here.graph) (waits : registered ∈ lobby.ungreeted) :
    ∃ s, lobby.desk.store.find? registered.id = some s ∧ registered.Untouched s ∧
      (lobby.greeting here registered s).Ready here lobby.desk := by
  obtain ⟨s, found, untouched⟩ := tidy.untouched registered waits
  exact ⟨s, found, untouched, {
    known := (Store.find?_eq_some found).1
    distinct := tidy.order.distinct
    store := .inl rfl
    bot := untouched.status
    logged := .refl _
    still := untouched.status
    bag := untouched.bag.symm
    path := rfl
    fits := here.graph.hasNode_start
    comes := .inl rfl }⟩

theorem desk_of_greet {outcome : Outcome} {t : Run}
    (found : lobby.desk.store.find? registered.id = some s)
    (ends : (lobby.greeting here registered s).Ends here outcome t) :
    ((Move.greet registered).perform here lobby).desk =
      (lobby.greeting here registered s).leaves outcome t := by
  have name : (lobby.greeting here registered s).session.id = registered.id :=
    (Store.find?_eq_some found).2
  unfold Launch.leaves
  rw [name]
  exact Desk.after_of_ok (Desk.runFrom_of_ok found ends.run)

/-- The run that a greeting makes keeps the desk in order, for nothing was owed to its session. -/
theorem Tidy.keeps_greet (tidy : lobby.Tidy here.graph) (waits : registered ∈ lobby.ungreeted) :
    Desk.Keeps here.graph lobby.desk ((Move.greet registered).perform here lobby).desk ∧
      ∀ id, id ≠ registered.id →
        ((Move.greet registered).perform here lobby).desk.store.find? id =
          lobby.desk.store.find? id := by
  obtain ⟨s, found, untouched, ready⟩ := tidy.greets waits
  obtain ⟨known, name⟩ := Store.find?_eq_some found
  obtain ⟨outcome, t, ends⟩ := ready.ends
  rw [desk_of_greet found ends]
  constructor
  · have nothing : owed lobby.desk.timers s.id = [] :=
      (tidy.order.settled s known).nothing_of_idle untouched.status untouched.pending
    exact .rest tidy.order known ends.follows.visit nothing ends.rests
  · intro id other
    have same : t.visit.session.id = registered.id := (ready.id ends).trans name
    have this : lobby.desk.store.find? t.visit.session.id = some s := same ▸ found
    unfold Launch.leaves
    rw [Desk.keepTime_store]
    exact (Store.find?_record this id).trans (if_neg fun its => other (its.symm.trans same))

theorem Tidy.keeps_register {fresh : SessionId} {customer : String} (tidy : lobby.Tidy here.graph)
    (fits : (Move.register fresh customer).Fits lobby) :
    Desk.Keeps here.graph lobby.desk ((Move.register fresh customer).perform here lobby).desk ∧
      ((Move.register fresh customer).perform here lobby).Tidy here.graph := by
  cases current : lobby.desk.store.current? customer with
  | some s =>
    rw [register_of_current current]
    exact ⟨.refl tidy.order, tidy⟩
  | none =>
    rw [register_of_new current]
    let s := Session.new fresh customer (here.services.now 0)
    have added := Store.find?_add (s := s) fits
    have apart {r : Session} (waits : r ∈ lobby.ungreeted) : s.id ≠ r.id := by
      obtain ⟨t, found, -⟩ := tidy.untouched r waits
      obtain ⟨known, name⟩ := Store.find?_eq_some found
      exact fun same => fits t known (name.trans same.symm)
    have keeps : Desk.Keeps here.graph lobby.desk _ :=
      ⟨.single (.create fresh customer (here.services.now 0) fits), tidy.order.create fits⟩
    refine ⟨keeps, keeps.order, ?_, fun r member => ?_⟩
    · rw [List.map_append, List.map_singleton]
      refine tidy.distinct.append (List.nodup_singleton _) fun id old new => ?_
      obtain ⟨r, waits, rfl⟩ := List.mem_map.1 old
      exact apart waits (List.mem_singleton.1 new).symm
    · obtain old | new := List.mem_append.1 member
      · obtain ⟨t, found, untouched⟩ := tidy.untouched r old
        exact ⟨t, (added r.id).trans ((if_neg (apart old)).trans found), untouched⟩
      · cases List.mem_singleton.1 new
        exact ⟨s, (added s.id).trans (if_pos rfl), rfl, rfl, rfl⟩

theorem Tidy.perform (tidy : lobby.Tidy here.graph) (fits : move.Fits lobby)
    (spares : move.Spares lobby) :
    Desk.Keeps here.graph lobby.desk (move.perform here lobby).desk ∧
      (move.perform here lobby).Tidy here.graph := by
  cases move with
  | register fresh customer => exact tidy.keeps_register fits
  | greet registered =>
    obtain ⟨keeps, others⟩ := tidy.keeps_greet fits
    refine ⟨keeps, keeps.order, ?_, ?_⟩
    · exact List.Nodup.sublist (List.erase_sublist.map Session.id) tidy.distinct
    · intro r member
      obtain ⟨distinct, old⟩ := (List.Nodup.of_map _ tidy.distinct).mem_erase_iff.1 member
      have other : r.id ≠ registered.id := fun same =>
        distinct (List.inj_on_of_nodup_map tidy.distinct old fits same)
      rw [others r.id other]
      exact tidy.untouched r old
  | happen happening =>
    have fits : happening.Fits lobby.desk := fits
    have step := Desk.step_iff.2 ⟨here, happening, rfl, fits, rfl⟩
    have keeps := step.keeps tidy.order
    refine ⟨keeps, keeps.order, tidy.distinct, fun r member => ?_⟩
    obtain ⟨t, found, untouched⟩ := tidy.untouched r member
    refine happening.keeps_untouched tidy.order fits found untouched ?_
    rintro queue operator rfl
    exact spares r member rfl

theorem During.keeps (during : During g Move.Spares lobby after) (tidy : lobby.Tidy g) :
    Desk.Keeps g lobby.desk after.desk ∧ after.Tidy g := by
  induction during with
  | refl => exact ⟨.refl tidy.order, tidy⟩
  | tail _ last ih =>
    obtain ⟨here, move, rfl, fits, spares, rfl⟩ := last
    obtain ⟨keeps, tidy⟩ := ih
    obtain ⟨more, left⟩ := tidy.perform fits spares
    exact ⟨keeps.trans more, left⟩

/-! What runs, and what has left the flow. -/

theorem Move.makes (tidy : lobby.Tidy here.graph) (fits : move.Fits lobby)
    (launch : move.launch? here lobby = some l) :
    l.Ready here lobby.desk ∧ ∃ outcome t, move.Makes here lobby l outcome t := by
  cases move with
  | register => contradiction
  | greet registered =>
    obtain ⟨s, found, -, ready⟩ := tidy.greets fits
    simp only [launch?, found, Option.map_some, Option.some.injEq] at launch
    subst launch
    obtain ⟨outcome, t, ends⟩ := ready.ends
    have path := Impulse.path_of_program ready.fits ends.run
    rw [ready.path, List.nil_append] at path
    exact ⟨ready, outcome, t, ends, path, desk_of_greet found ends,
      fun h member => Impulse.bot_of_mem_trail ready.still member⟩
  | happen happening =>
    have ready := Happening.launch_ready tidy.order fits launch
    obtain ⟨outcome, t, makes⟩ := Happening.makes tidy.order fits launch
    exact ⟨ready, outcome, t, makes.toEnds, makes.path, makes.leaves,
      fun h member => Impulse.bot_of_mem_trail ready.still member⟩

theorem Move.same_of_gone (tidy : lobby.Tidy here.graph) (fits : move.Fits lobby)
    (found : lobby.desk.store.find? id = some s) (gone : s.status ≠ .bot)
    (unnamed : move.session? ≠ some id) :
    (move.perform here lobby).desk.store.find? id = some s := by
  cases move with
  | register fresh customer =>
    cases current : lobby.desk.store.current? customer with
    | some other =>
      rw [register_of_current current]
      exact found
    | none =>
      obtain ⟨known, name⟩ := Store.find?_eq_some found
      rw [register_of_new current]
      let new := Session.new fresh customer (here.services.now 0)
      have added := Store.find?_add (s := new) fits id
      exact added.trans ((if_neg fun its => fits s known (name.trans its.symm)).trans found)
  | greet registered =>
    obtain ⟨t, waits, untouched, -⟩ := tidy.greets fits
    have other : id ≠ registered.id := by
      rintro rfl
      cases found.symm.trans waits
      exact gone untouched.status
    exact ((tidy.keeps_greet fits).2 id other).trans found
  | happen happening =>
    obtain ⟨t, there, same⟩ := happening.keepsOne (P := (· = s)) tidy.order fits found rfl
      (fun _ _ named => absurd named unnamed)
      fun l _ _ _ ready _ _ same => absurd (same ▸ ready.bot) gone
    exact same ▸ there

theorem Tidy.run_on_bot (tidy : lobby.Tidy here.graph) (fits : move.Fits lobby)
    (spares : move.Spares lobby) : move.RunsOnBot here lobby where
  bot l launch := (Move.makes tidy fits launch).1.bot
  run l launch := (Move.makes tidy fits launch).2
  gone id s found gone := by
    obtain ⟨t, there, status, bag, pending, log, -⟩ :=
      (tidy.perform fits spares).1.of_gone tidy.order found gone
    have idle : s.pending = none :=
      (tidy.order.settled s (Store.find?_eq_some found).1).idle_of_gone gone
    refine ⟨t, there, status, bag, pending.trans idle.symm, log, fun unnamed => ?_⟩
    exact Option.some.inj (there.symm.trans (Move.same_of_gone tidy fits found gone unnamed))

/-- As long as no session is transferred before it is greeted, each run finds its session with the flow,
from its first handler to the last one, whatever else comes between the two steps of a start. And what
has left the flow is left alone by it ever after. -/
theorem During.runs_on_bot (before : During g Move.Spares .empty lobby) :
    (∀ (here : Surroundings) (move : Move), here.graph = g → move.Fits lobby → move.Spares lobby →
      move.RunsOnBot here lobby) ∧
    ∀ after, During g Move.Spares lobby after →
      ∀ id s, lobby.desk.store.find? id = some s → s.status ≠ .bot →
        ∃ t, after.desk.store.find? id = some t ∧
          t.status ≠ .bot ∧ t.bag = s.bag ∧ t.pending = none ∧
          (∃ more, t.messages = s.messages ++ more ∧ ∀ message ∈ more, message.sender ≠ .bot) ∧
          (s.status = .closed → t = s) := by
  obtain ⟨-, tidy⟩ := before.keeps .empty
  constructor
  · rintro here move rfl fits spares
    exact tidy.run_on_bot fits spares
  · intro after during id s found gone
    exact (during.keeps tidy).1.of_gone tidy.order found gone

/-! A customer comes in. -/

def comingIn : Lobby := (Move.register ⟨"chat_1"⟩ "ana").perform .reception .empty

def ana : Session := .new ⟨"chat_1"⟩ "ana" ⟨0, 0⟩

def transferring : Move := .happen (.request (.transfer ⟨"chat_1"⟩ none none))

/-- She is asked for her name, and only then transferred. -/
def greeted : Lobby := (Move.greet ana).perform .reception comingIn

theorem comingIn_during {kind : Lobby → Move → Prop}
    (allowed : kind .empty (.register ⟨"chat_1"⟩ "ana")) : During .reception kind .empty comingIn :=
  .single ⟨.reception, .register ⟨"chat_1"⟩ "ana", rfl, by
    simp [Move.Fits, empty, Desk.empty, Store.empty], allowed, rfl⟩

/-- Operators and customers cannot hinder the greeting, and a transfer after it is for good. -/
theorem greeted_in_time :
    (Move.greet ana).RunsOnBot .reception comingIn ∧
    ∃ s t, (transferring.perform .reception greeted).desk.store.find? ⟨"chat_1"⟩ = some s ∧
      s.status = .waiting ∧
      ((Move.happen (Desk.answering "Ana")).perform .reception
        (transferring.perform .reception greeted)).desk.store.find? ⟨"chat_1"⟩ = some t ∧
      t.bag = s.bag ∧ t.pending = none := by
  have waits : ana ∈ comingIn.ungreeted := by decide +kernel
  have before : During .reception Move.Spares .empty comingIn := comingIn_during trivial
  have next : During .reception Move.Spares .empty greeted :=
    .tail before ⟨.reception, .greet ana, rfl, waits, trivial, rfl⟩
  have spared : transferring.Spares greeted := by
    have none_ : greeted.ungreeted = [] := by decide +kernel
    simp [transferring, Move.Spares, none_]
  have last : During .reception Move.Spares .empty (transferring.perform .reception greeted) :=
    .tail next ⟨.reception, transferring, rfl, trivial, spared, rfl⟩
  have left : ((transferring.perform .reception greeted).desk.store.find? ⟨"chat_1"⟩).map
      Session.status = some .waiting := by decide +kernel
  obtain ⟨s, found, waiting⟩ := Option.map_eq_some_iff.1 left
  obtain ⟨runs, -⟩ := before.runs_on_bot
  obtain ⟨-, goes⟩ := last.runs_on_bot
  obtain ⟨t, there, -, bag, pending, -⟩ := goes _
    (.single ⟨.reception, .happen (Desk.answering "Ana"), rfl, trivial, trivial, rfl⟩) ⟨"chat_1"⟩ s
    found (by simp [waiting])
  exact ⟨runs .reception (.greet ana) rfl waits trivial, s, t, found, waiting, there, bag, pending⟩

/-- A transfer that overtakes the greeting is not noticed: the flow asks for a name in a session that
waits for an operator, and waits for the answer there. -/
theorem overtaken_by_transfer :
    let lobby := transferring.perform .reception comingIn
    During .reception (fun _ _ => True) .empty lobby ∧ (Move.greet ana).Fits lobby ∧
      (lobby.desk.store.find? ⟨"chat_1"⟩).map (fun s => (s.status, s.messages, s.pending)) =
        some (.waiting, [], none) ∧
      (((Move.greet ana).perform .reception lobby).desk.store.find? ⟨"chat_1"⟩).map
          (fun s => (s.status, s.messages.map fun m => (m.sender, m.text), s.pending)) =
        some (.waiting, [(.bot, "Your name?")], some "ask") ∧
      ¬ (Move.greet ana).RunsOnBot .reception lobby := by
  intro lobby
  have earlier : During .reception (fun _ _ => True) .empty comingIn := comingIn_during trivial
  have waits : ana ∈ lobby.ungreeted := by decide +kernel
  have stands : (lobby.desk.store.find? ⟨"chat_1"⟩).map (fun s => (s.status, s.messages, s.pending)) =
      some (.waiting, [], none) := by decide +kernel
  refine ⟨.tail earlier ⟨.reception, transferring, rfl, trivial, trivial, rfl⟩, waits, stands,
    by decide +kernel, fun runs => ?_⟩
  obtain ⟨s, found, stands⟩ := Option.map_eq_some_iff.1 stands
  have status : s.status = .waiting := congrArg Prod.fst stands
  have launch : (Move.greet ana).launch? .reception lobby =
      some (lobby.greeting .reception ana s) := by
    simp only [Move.launch?, show ana.id = ⟨"chat_1"⟩ from rfl, found, Option.map_some]
  have bot : s.status = .bot := runs.bot _ launch
  exact absurd (bot.symm.trans status) (by simp)

end Lobby
end Switchboard
