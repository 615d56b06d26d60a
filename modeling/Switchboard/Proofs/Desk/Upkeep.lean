import Switchboard.Proofs.Desk.History
import Switchboard.Proofs.Desk.Order

/-! Whatever happens, a desk in order stays in order. Customers and timers set the flow going and
operators do not; in each case the flow finds nothing owed to its session when it begins, and this is
why at most one continuation is ever owed. -/
namespace Switchboard.Desk

variable {g : Graph} {here : Surroundings} {d e : Desk} {s t : Session} {id fresh : SessionId}
variable {customer : String} {timer : Timer} {v : Visit} {outcome : Outcome}

theorem Keeps.trans {f : Desk} (first : Keeps g d e) (second : Keeps g e f) : Keeps g d f :=
  ⟨first.becomes.trans second.becomes, second.order⟩

theorem Keeps.rest (order : d.InOrder g) (known : s ∈ d.store.sessions)
    (follows : (Visit.start s).Follows v) (nothing : owed d.timers s.id = [])
    (rests : outcome.Rests g v.session) :
    Keeps g d (keepTime s.id outcome { d with store := d.store.record v }) where
  becomes := by
    rw [keepTime_store]
    exact .single (.visit known follows)
  order := order.rest known follows order.known (fun _ _ => rfl) nothing rests

/-! Customers. -/

theorem owed_fresh (order : d.InOrder g) (unused : ∀ s ∈ d.store.sessions, s.id ≠ fresh) :
    owed d.timers fresh = [] := by
  rw [List.eq_nil_iff_forall_not_mem]
  intro c owes
  obtain ⟨timer, member, rfl, same⟩ := mem_owed.1 owes
  obtain ⟨s, known, name⟩ := order.known timer member
  exact unused s known (name.trans same)

theorem InOrder.create {now : Instant} (order : d.InOrder g)
    (unused : ∀ s ∈ d.store.sessions, s.id ≠ fresh) :
    InOrder g { d with store := ⟨d.store.sessions ++ [Session.new fresh customer now],
      d.store.journal ++ [.sessionCreated fresh customer]⟩ } where
  distinct := Store.Grows.distinct (.create fresh customer now unused) order.distinct
  known := by
    intro timer member
    obtain ⟨s, known, name⟩ := order.known timer member
    exact ⟨s, List.mem_append_left _ known, name⟩
  settled := by
    intro s member
    rcases List.mem_append.1 member with old | new
    · exact order.settled s old
    · have created : s = Session.new fresh customer now := List.mem_singleton.1 new
      subst created
      rw [show owed d.timers (Session.new fresh customer now).id = [] from owed_fresh order unused]
      exact .idle rfl rfl

theorem register_succeeds (order : d.InOrder g) (unused : ∀ s ∈ d.store.sessions, s.id ≠ fresh) :
    Succeeds (register here fresh customer) d fun registered e =>
      Keeps g d e ∧ registered.1 ∈ e.store.sessions ∧
        (registered.2 = true →
          registered.1.status = .bot ∧ owed e.timers registered.1.id = []) := by
  cases found : d.store.current? customer with
  | some s =>
    have run : register here fresh customer d = .ok (s, false) d := by
      unfold register Store.create
      simp only [found]
    exact (Succeeds.ok_iff run).2 ⟨.refl order, List.mem_of_find?_eq_some found, by simp⟩
  | none =>
    let now := here.services.now 0
    have run : register here fresh customer d = .ok (Session.new fresh customer now, true)
        { d with store := ⟨d.store.sessions ++ [Session.new fresh customer now],
          d.store.journal ++ [.sessionCreated fresh customer]⟩ } := by
      unfold register Store.create
      simp only [found]
      rfl
    refine (Succeeds.ok_iff run).2
      ⟨⟨.single (.create fresh customer now unused), order.create unused⟩, ?_, ?_⟩
    · exact List.mem_append_right _ (List.mem_singleton.2 rfl)
    · intro _
      have nothing : owed d.timers fresh = [] := owed_fresh order unused
      exact ⟨rfl, nothing⟩

theorem greet_succeeds (order : d.InOrder here.graph) (known : s ∈ d.store.sessions)
    (bot : s.status = .bot) (nothing : owed d.timers s.id = []) :
    Succeeds (greet here s) d fun _ e =>
      Keeps here.graph d e ∧ ∃ t ∈ e.store.sessions, t.id = s.id := by
  refine (runFrom_succeeds order.distinct known bot here.graph.hasNode_start).mono ?_
  intro _ e ran
  obtain ⟨outcome, r, -, -, follows, rests, rfl⟩ := ran
  refine ⟨.rest order known follows nothing rests, ?_⟩
  rw [keepTime_store]
  exact Store.known_record known follows.id

theorem start_succeeds (order : d.InOrder here.graph)
    (unused : ∀ s ∈ d.store.sessions, s.id ≠ fresh) :
    Succeeds (start here fresh customer) d fun _ e => Keeps here.graph d e := by
  refine (register_succeeds order unused).seq fun registered e done => ?_
  obtain ⟨keeps, known, new⟩ := done
  obtain ⟨s, isNew⟩ := registered
  cases isNew with
  | true =>
    obtain ⟨bot, nothing⟩ := new rfl
    refine (greet_succeeds keeps.order known bot nothing).seq fun _ f greeted => ?_
    obtain ⟨more, there⟩ := greeted
    refine (find_succeeds there).mono fun _ _ looked => ?_
    rw [looked.1]
    exact keeps.trans more
  | false => exact Succeeds.pure_iff.2 keeps

theorem reply_succeeds {said : Reply} (order : d.InOrder here.graph)
    (known : s ∈ d.store.sessions) (open_ : s.status ≠ .closed) :
    Succeeds (reply here s.id said) d fun _ e => Keeps here.graph d e := by
  refine (find_succeeds ⟨s, known, rfl⟩).seq fun t e looked => ?_
  obtain ⟨rfl, found⟩ := looked
  rw [order.distinct.find? known] at found
  cases found
  rw [if_neg (by rwa [Session.isClosed_iff])]
  have received : Succeeds (Walk.receive here said) (.start s s.bag) _ := Walk.receive_rests open_
  refine (walk_succeeds order.distinct known received).seq fun outcome f walked => ?_
  obtain ⟨r, ⟨follows, holds⟩, rfl⟩ := walked
  have follows : (Visit.start s).Follows r.visit := follows.visit
  cases outcome with
  | some outcome =>
    -- no timer runs beside a reply, so the run may set one of its own
    have nothing : owed e.timers s.id = [] := (order.settled s known).nothing_of_awaited holds.1
    refine Succeeds.bind_iff.2 (Succeeds.modify_iff.2 ?_)
    have there : ∃ t ∈ (keepTime s.id outcome
        { e with store := e.store.record r.visit }).store.sessions, t.id = s.id := by
      rw [keepTime_store]
      exact Store.known_record known follows.id
    refine (find_succeeds there).mono fun _ _ looked => ?_
    rw [looked.1]
    exact .rest order known follows nothing holds.2
  | none =>
    obtain ⟨message, -, said⟩ := holds
    have same : r.visit.session.id = s.id := follows.id
    refine (find_succeeds (Store.known_record known follows.id)).mono fun _ _ looked => ?_
    rw [looked.1]
    refine ⟨.single (.visit known follows),
      order.record known same order.known (fun _ _ => rfl) ?_⟩
    rw [said]
    exact (order.settled s known).of_same rfl rfl rfl

theorem reply_of_unknown {said : Reply} (unknown : d.store.find? id = none) :
    reply here id said d = .error (.sessionNotFound id.text) d := by
  exact bind_of_error (by rw [find, unknown])

theorem reply_of_closed {said : Reply} (found : d.store.find? id = some s)
    (closed : s.status = .closed) : reply here id said d = .error (.notAllowed .closed) d := by
  have known : find id d = .ok s d := by rw [find, found]
  unfold reply
  rw [bind_of_ok known, if_pos (Session.isClosed_iff.2 closed)]
  rfl

theorem reply_attempts {said : Reply} (order : d.InOrder here.graph) :
    Attempts (reply here id said) d fun _ e => Keeps here.graph d e := by
  cases found : d.store.find? id with
  | none => exact .inl ⟨_, reply_of_unknown found⟩
  | some s =>
    obtain ⟨known, rfl⟩ := Store.find?_eq_some found
    by_cases closed : s.status = .closed
    · exact .inl ⟨_, reply_of_closed found closed⟩
    · exact .inr (reply_succeeds order known closed)

/-! Timers. -/

theorem owed_of_timer (set : timer ∈ d.timers) (its : timer.continuation.session = s.id) :
    timer.continuation ∈ owed d.timers s.id :=
  mem_owed.2 ⟨timer, set, rfl, its⟩

/-- The desk after a timer fired in vain. -/
def drop (timer : Timer) (d : Desk) : Desk := { d with timers := d.timers.erase timer }

theorem continueAfter_of_gone (distinct : d.store.Distinct) (known : s ∈ d.store.sessions)
    (its : timer.continuation.session = s.id) (gone : s.status ≠ .bot) :
    continueAfter here timer.continuation (d.drop timer) = .ok () (d.drop timer) := by
  have found : (d.drop timer).store.find? timer.continuation.session = some s := by
    rw [its]
    exact distinct.find? known
  unfold continueAfter
  simp only [found]
  rw [if_neg fun still => gone still.1]

theorem continueAfter_of_bot (order : d.InOrder here.graph) (set : timer ∈ d.timers)
    (known : s ∈ d.store.sessions) (its : timer.continuation.session = s.id)
    (bot : s.status = .bot) :
    Succeeds (continueAfter here timer.continuation) (d.drop timer) fun _ e =>
      ∃ outcome r, Walk.runFrom here timer.continuation.next (.start s s.bag) = .ok outcome r ∧
        r.path.head? = some timer.continuation.next ∧ (Visit.start s).Follows r.visit ∧
          outcome.Rests here.graph r.visit.session ∧
            e = keepTime s.id outcome { d.drop timer with store := d.store.record r.visit } := by
  have found : (d.drop timer).store.find? timer.continuation.session = some s := by
    rw [its]
    exact order.distinct.find? known
  obtain ⟨seconds, waits, -, leads⟩ :=
    (order.settled s known).delay_of_mem bot (owed_of_timer set its)
  have same : continueAfter here timer.continuation (d.drop timer) =
      runFrom here 0 s.id s.bag timer.continuation.next (d.drop timer) := by
    unfold continueAfter
    simp only [found]
    rw [if_pos ⟨bot, waits⟩, its]
  unfold Succeeds
  rw [same]
  exact runFrom_succeeds order.distinct known bot (here.graph.hasNode_next leads)

theorem InOrder.drop (order : d.InOrder g) (set : timer ∈ d.timers) (known : s ∈ d.store.sessions)
    (its : timer.continuation.session = s.id) (gone : s.status ≠ .bot) :
    InOrder g (d.drop timer) where
  distinct := order.distinct
  known := by
    intro other member
    exact order.known other (List.mem_of_mem_erase member)
  settled := by
    intro t member
    by_cases same : t.id = s.id
    · cases order.distinct.eq member known same
      have idle : s.pending = none := (order.settled s known).idle_of_gone gone
      have few := (order.settled s known).few
      rw [← its] at few
      have nothing := owed_erase set few
      rw [its] at nothing
      exact .gone gone idle (by simp [Desk.drop, nothing])
    · have others : owed (d.drop timer).timers t.id = owed d.timers t.id :=
        owed_erase_of_ne (its ▸ Ne.symm same)
      rw [others]
      exact order.settled t member

theorem continueAfter_succeeds (order : d.InOrder here.graph) (set : timer ∈ d.timers) :
    Succeeds (continueAfter here timer.continuation) (d.drop timer) fun _ e =>
      Keeps here.graph d e := by
  obtain ⟨s, known, name⟩ := order.known timer set
  have its : timer.continuation.session = s.id := name.symm
  by_cases bot : s.status = .bot
  · refine (continueAfter_of_bot order set known its bot).mono fun _ e ran => ?_
    obtain ⟨outcome, r, -, -, follows, rests, rfl⟩ := ran
    -- the timer that fires was the only one of its session
    have nothing : owed (d.timers.erase timer) s.id = [] := by
      have few := (order.settled s known).few
      rw [← its] at few ⊢
      exact owed_erase set few
    constructor
    · rw [keepTime_store]
      exact .single (.visit known follows)
    · refine order.rest known follows ?_ ?_ nothing rests
      · intro other member
        exact order.known other (List.mem_of_mem_erase member)
      · intro id other
        exact owed_erase_of_ne (its ▸ other.symm)
  · have dropped : continueAfter here timer.continuation (d.drop timer) = _ :=
      continueAfter_of_gone order.distinct known its bot
    exact (Succeeds.ok_iff dropped).2 ⟨.refl, order.drop set known its bot⟩

theorem fire_of_ok (run : continueAfter here timer.continuation (d.drop timer) = .ok () e) :
    d.fire here timer = e := by
  unfold fire
  rw [show { d with timers := d.timers.erase timer } = d.drop timer from rfl, run]

/-! Steps. -/

theorem Request.perform_attempts {request : Request} (order : d.InOrder here.graph)
    (fresh : request.IsFresh d) :
    Attempts (request.perform here) d fun _ e => Keeps here.graph d e := by
  have whole {α : Type} {op : Op α} (h : Attempts op d fun _ e => Keeps here.graph d e) :
      Attempts (do let _ ← op) d fun _ e => Keeps here.graph d e :=
    h.seq fun _ _ keeps => Succeeds.pure_iff.2 keeps
  cases request with
  | start => exact whole (.inr (start_succeeds order fresh))
  | reply => exact whole (reply_attempts order)
  | pickup => exact whole (pickup_attempts order)
  | operatorReply => exact whole (operatorReply_attempts order)
  | transfer => exact whole (transfer_attempts order)
  | close => exact whole (close_attempts order)

theorem Step.keeps (step : Step g d e) (order : d.InOrder g) : Keeps g d e := by
  cases step with
  | request here request graph fresh =>
    subst graph
    unfold after
    rcases Request.perform_attempts order fresh with ⟨failure, refused⟩ | ⟨_, e, done, keeps⟩
    · rw [refused]
      exact .refl order
    · rw [done]
      exact keeps
  | fire here timer graph set =>
    subst graph
    obtain ⟨_, e, done, keeps⟩ := continueAfter_succeeds order set
    rw [fire_of_ok done]
    exact keeps
  | pass elapsed => exact ⟨.refl, order.distinct, order.known, order.settled⟩
  | shutdown => exact ⟨.refl, order.distinct, by simp [Desk.shutdown],
      fun s known => (order.settled s known).halt⟩

theorem Later.keeps (later : Later g d e) (order : d.InOrder g) : Keeps g d e := by
  induction later with
  | refl => exact .refl order
  | tail _ step ih => exact ih.trans (step.keeps ih.order)

theorem Reached.inOrder (reached : Reached g d) : d.InOrder g :=
  (Later.keeps reached .empty).order

theorem Reached.faithful (reached : Reached g d) : d.store.Faithful :=
  (Later.keeps reached .empty).becomes.faithful .empty

end Switchboard.Desk
