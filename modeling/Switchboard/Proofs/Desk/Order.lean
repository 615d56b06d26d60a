import Switchboard.Proofs.Chat.Growth
import Switchboard.Proofs.Desk.History
import Switchboard.Proofs.Flow.Round

/-! A desk in order. How each session stands is settled together with the continuations that the desk
owes it, since it is only both that a step keeps: a session waits for a delay exactly while one
continuation is owed to it, and once it has left the flow at most an old one is left over. -/
namespace Switchboard

/-- How a session may stand, beside the continuations that are owed to it. A desk that has shut down
owes nothing even to those that wait for a delay. -/
inductive Session.Settled (g : Graph) (s : Session) : Bool → List Continuation → Prop
  | idle {running : Bool} : s.status = .bot → s.pending = none → Settled g s running []
  | awaits {running : Bool} {node : String} {known : Node} :
      s.status = .bot → s.pending = some node → g.node? node = some known →
      known.kind.awaitsReply → Settled g s running []
  | delays {node next : String} {seconds : Nat} :
      s.status = .bot → s.pending = some node → g.node? node = some ⟨node, .delay seconds⟩ →
      g.next node = some next → Settled g s true [⟨s.id, node, next⟩]
  | halts {node : String} {seconds : Nat} :
      s.status = .bot → s.pending = some node → g.node? node = some ⟨node, .delay seconds⟩ →
      Settled g s false []
  | gone {running : Bool} {owed : List Continuation} :
      s.status ≠ .bot → s.pending = none → owed.length ≤ 1 → Settled g s running owed

namespace Session.Settled

variable {g : Graph} {s t : Session} {running : Bool} {owed : List Continuation}

theorem few (settled : s.Settled g running owed) : owed.length ≤ 1 := by
  cases settled with
  | idle | awaits | delays | halts => simp
  | gone _ _ few => exact few

theorem idle_of_gone (settled : s.Settled g running owed) (gone : s.status ≠ .bot) :
    s.pending = none := by
  cases settled with
  | idle bot | awaits bot | delays bot | halts bot => exact absurd bot gone
  | gone _ idle => exact idle

theorem of_same (settled : s.Settled g running owed) (id : t.id = s.id) (status : t.status = s.status)
    (pending : t.pending = s.pending) : t.Settled g running owed := by
  cases settled with
  | idle bot none => exact .idle (status.trans bot) (pending.trans none)
  | awaits bot waits known awaits =>
    exact .awaits (status.trans bot) (pending.trans waits) known awaits
  | delays bot waits known leads =>
    rw [← id]
    exact .delays (status.trans bot) (pending.trans waits) known leads
  | halts bot waits known => exact .halts (status.trans bot) (pending.trans waits) known
  | gone gone none few => exact .gone (status ▸ gone) (pending.trans none) few

theorem leave (settled : s.Settled g running owed) (gone : t.status ≠ .bot) (none : t.pending = none) :
    t.Settled g running owed :=
  .gone gone none settled.few

theorem nothing_of_awaited (settled : s.Settled g running owed) (awaited : (Walk.awaited g s).isSome) :
    owed = [] := by
  obtain ⟨⟨name, kind⟩, found⟩ := Option.isSome_iff_exists.1 awaited
  obtain ⟨bot, waits, member, awaits⟩ := Walk.awaited_eq_some found
  cases settled with
  | idle | awaits | halts => rfl
  | delays _ waits' delay =>
    rw [waits] at waits'
    cases waits'
    rw [member] at delay
    cases delay
    contradiction
  | gone gone => exact absurd bot gone

theorem nothing_of_idle (settled : s.Settled g running owed) (bot : s.status = .bot)
    (idle : s.pending = none) : owed = [] := by
  cases settled with
  | idle | awaits | halts => rfl
  | delays _ waits => exact absurd (idle.symm.trans waits) (by simp)
  | gone gone => exact absurd bot gone

theorem delay_of_mem {c : Continuation} (settled : s.Settled g running owed) (bot : s.status = .bot)
    (member : c ∈ owed) :
    ∃ seconds, s.pending = some c.node ∧ g.node? c.node = some ⟨c.node, .delay seconds⟩ ∧
      g.next c.node = some c.next := by
  cases settled with
  | idle | awaits | halts => contradiction
  | @delays node next seconds _ waits known leads =>
    rw [List.mem_singleton.1 member]
    exact ⟨seconds, waits, known, leads⟩
  | gone gone => exact absurd bot gone

theorem halt (settled : s.Settled g running owed) : s.Settled g false [] := by
  cases settled with
  | idle bot none => exact .idle bot none
  | awaits bot waits known awaits => exact .awaits bot waits known awaits
  | delays bot waits known | halts bot waits known => exact .halts bot waits known
  | gone gone none => exact .gone gone none (by simp)

end Session.Settled

/-- The continuations that timers hold for a session. -/
def owed (timers : List Timer) (id : SessionId) : List Continuation :=
  (timers.filter (·.continuation.session = id)).map Timer.continuation

section Owed

variable {timers : List Timer} {timer : Timer} {id : SessionId} {c : Continuation}

theorem mem_owed :
    c ∈ owed timers id ↔ ∃ timer ∈ timers, timer.continuation = c ∧ c.session = id := by
  simp only [owed, List.mem_map, List.mem_filter, decide_eq_true_eq]
  constructor
  · intro h
    obtain ⟨timer, ⟨member, same⟩, rfl⟩ := h
    exact ⟨timer, member, rfl, same⟩
  · intro h
    obtain ⟨timer, member, rfl, same⟩ := h
    exact ⟨timer, ⟨member, same⟩, rfl⟩

theorem exists_mem_owed :
    (∃ c, c ∈ owed timers id) ↔ ∃ timer ∈ timers, timer.continuation.session = id := by
  constructor
  · intro h
    obtain ⟨c, owes⟩ := h
    obtain ⟨timer, set, rfl, its⟩ := mem_owed.1 owes
    exact ⟨timer, set, its⟩
  · intro h
    obtain ⟨timer, set, its⟩ := h
    exact ⟨timer.continuation, mem_owed.2 ⟨timer, set, rfl, its⟩⟩

theorem owed_append {more : List Timer} :
    owed (timers ++ more) id = owed timers id ++ owed more id := by
  simp [owed]

theorem owed_erase_of_ne (other : timer.continuation.session ≠ id) :
    owed (timers.erase timer) id = owed timers id := by
  unfold owed
  rw [← List.erase_filter, List.erase_of_not_mem (by simp [other])]

theorem owed_erase (member : timer ∈ timers)
    (few : (owed timers timer.continuation.session).length ≤ 1) :
    owed (timers.erase timer) timer.continuation.session = [] := by
  unfold owed at few ⊢
  rw [List.length_map] at few
  have there : timer ∈ timers.filter (·.continuation.session = timer.continuation.session) :=
    List.mem_filter.2 ⟨member, by simp⟩
  rw [← List.erase_filter]
  obtain ⟨only, alone⟩ := List.length_eq_one_iff.1
    (Nat.le_antisymm few (List.length_pos_of_mem there))
  rw [alone] at there ⊢
  rw [List.mem_singleton.1 there]
  simp

end Owed

structure Desk.InOrder (g : Graph) (d : Desk) : Prop where
  distinct : d.store.Distinct
  known : ∀ timer ∈ d.timers, ∃ s ∈ d.store.sessions, s.id = timer.continuation.session
  settled : ∀ s ∈ d.store.sessions, s.Settled g d.running (owed d.timers s.id)

namespace Desk

variable {g : Graph} {d e : Desk} {s : Session} {v : Visit} {id : SessionId} {timers : List Timer}

theorem InOrder.empty : InOrder g .empty where
  distinct := List.nodup_nil
  known := by simp [Desk.empty]
  settled := by simp [Desk.empty, Store.empty]

/-- A visit to a session keeps the desk in order if it settles this one session with the timers there
are then; those of all other sessions must be as they were. -/
theorem InOrder.record (order : d.InOrder g) (known : s ∈ d.store.sessions)
    (same : v.session.id = s.id)
    (timersKnown : ∀ timer ∈ timers, ∃ s ∈ d.store.sessions, s.id = timer.continuation.session)
    (others : ∀ id, id ≠ s.id → owed timers id = owed d.timers id)
    (settled : v.session.Settled g d.running (owed timers s.id)) :
    InOrder g { d with store := d.store.record v, timers } where
  distinct := by
    unfold Store.Distinct Store.record
    rw [Store.ids_put]
    exact order.distinct
  known := by
    intro timer member
    obtain ⟨t, old, name⟩ := timersKnown timer member
    by_cases this : t.id = s.id
    · exact ⟨v.session, (Store.mem_record known same).2 (.inl rfl), same.trans (this.symm.trans name)⟩
    · exact ⟨t, (Store.mem_record known same).2 (.inr ⟨old, this⟩), name⟩
  settled := by
    intro t member
    rcases (Store.mem_record known same).1 member with rfl | ⟨old, other⟩
    · rw [same]
      exact settled
    · dsimp only
      rw [others t.id other]
      exact order.settled t old

structure Keeps (g : Graph) (d e : Desk) : Prop where
  becomes : d.store.Becomes e.store
  order : e.InOrder g

theorem Keeps.refl (order : d.InOrder g) : Keeps g d d := ⟨.refl, order⟩

/-! Operators visit sessions. -/

/-- The visit is accounted for and leaves its session settled with what it was owed before. -/
structure Leaves (g : Graph) (s : Session) (v : Visit) : Prop where
  follows : (Visit.start s).Follows v
  settled : ∀ running owed, s.Settled g running owed → v.session.Settled g running owed

section Visits

variable {α : Type} {act : Visit.Act α} {s : Session} {v : Visit}

theorem visit_of_unknown (unknown : d.store.find? id = none) :
    visit id act d = .error (.sessionNotFound id.text) d := by
  simp [visit, Store.visit, unknown]

theorem visit_of_ok {a : α} (found : d.store.find? id = some s) (done : act (.start s) = .ok a v) :
    visit id act d = .ok a { d with store := d.store.record v } := by
  simp [visit, Store.visit, found, done]

theorem visit_of_error {refusal : NotAllowed} (found : d.store.find? id = some s)
    (refused : act (.start s) = .error refusal v) :
    visit id act d = .error (.notAllowed refusal) { d with store := d.store.record v } := by
  simp [visit, Store.visit, found, refused]

end Visits

theorem visit_attempts {α : Type} {act : Visit.Act α} (order : d.InOrder g)
    (h : ∀ s, Attempts act (.start s) fun _ v => Leaves g s v) :
    Attempts (visit id act) d fun _ e => Keeps g d e ∧ ∃ s ∈ e.store.sessions, s.id = id := by
  cases found : d.store.find? id with
  | none =>
    exact .inl ⟨_, visit_of_unknown found⟩
  | some s =>
    obtain ⟨known, name⟩ := Store.find?_eq_some found
    rcases h s with ⟨refusal, refused⟩ | ⟨a, v, done, leaves⟩
    · refine .inl ⟨.notAllowed refusal, ?_⟩
      rw [visit_of_error found refused, order.distinct.record_start known]
    · have run := visit_of_ok found done
      have settled := leaves.settled _ _ (order.settled s known)
      refine .inr ((Succeeds.ok_iff run).2 ⟨⟨?_, ?_⟩, ?_⟩)
      · exact .single (.visit known leaves.follows)
      · exact order.record known leaves.follows.id order.known (fun _ _ => rfl) settled
      · rw [← name]
        exact Store.known_record known leaves.follows.id

theorem find_succeeds (known : ∃ s ∈ d.store.sessions, s.id = id) :
    Succeeds (find id) d fun s e => e = d ∧ d.store.find? id = some s := by
  cases found : d.store.find? id with
  | none =>
    obtain ⟨s, member, name⟩ := known
    exact absurd name (Store.find?_eq_none_iff.1 found s member)
  | some s =>
    refine ⟨s, d, ?_, rfl, rfl⟩
    unfold find
    rw [found]

theorem visit_find_attempts {α : Type} {act : Visit.Act α} (order : d.InOrder g)
    (h : ∀ s, Attempts act (.start s) fun _ v => Leaves g s v) :
    Attempts (do let _ ← visit id act; find id) d fun _ e => Keeps g d e := by
  refine (visit_attempts order h).seq fun _ e done => ?_
  refine (find_succeeds done.2).mono fun s f looked => ?_
  rw [looked.1]
  exact done.1

variable {here : Surroundings}

theorem operatorReply_attempts {operator : Operator} {text : String} (order : d.InOrder g) :
    Attempts (operatorReply here id operator text) d fun _ e => Keeps g d e := by
  refine (visit_attempts order fun s => ?_).mono fun _ _ done => done.1
  refine Visit.appendFromOperator_attempts.mono fun message v done => ?_
  obtain ⟨-, -, session, follows⟩ := done
  refine ⟨follows, fun _ _ settled => ?_⟩
  rw [session]
  exact settled.of_same rfl rfl rfl

theorem pickup_attempts {operator : Operator} (order : d.InOrder g) :
    Attempts (pickup here id operator) d fun _ e => Keeps g d e := by
  refine visit_find_attempts order fun s => ?_
  refine Visit.pickup_attempts.mono fun _ v done => ?_
  obtain ⟨waiting, session, follows⟩ := done
  refine ⟨follows, fun _ _ settled => ?_⟩
  rw [session]
  have gone : s.status ≠ .bot := by
    intro bot
    rw [show (Visit.start s).session = s from rfl, bot] at waiting
    contradiction
  exact settled.leave (by simp [Session.say, Session.assign]) (settled.idle_of_gone gone)

theorem close_attempts {operator : Operator} (order : d.InOrder g) :
    Attempts (close here id operator) d fun _ e => Keeps g d e := by
  refine visit_find_attempts order fun s => ?_
  refine Visit.close_attempts.mono fun _ v done => ?_
  obtain ⟨session, follows⟩ := done
  refine ⟨follows, fun _ _ settled => ?_⟩
  rw [session]
  exact settled.leave (by simp [Session.finish]) rfl

theorem transferAct_attempts {queue operator : Option String} :
    Attempts (transferAct here queue operator) (.start s) fun _ v => Leaves g s v := by
  refine Visit.transfer_attempts.seq fun _ v done => ?_
  obtain ⟨session, follows⟩ := done
  have waiting : v.session.status = .waiting := by rw [session]; rfl
  have leaves : Leaves g s v := by
    refine ⟨follows, fun _ _ settled => ?_⟩
    rw [session]
    exact settled.leave (by simp [Session.enqueue]) rfl
  refine Succeeds.bind_iff.2 (Succeeds.get_iff.2 ?_)
  split
  · refine Succeeds.bind_iff.2 (Succeeds.mono (Visit.append_succeeds (by simp [waiting])
      (by simp [Post.system]) (by simp [Post.system])) fun _ w added => ?_)
    obtain ⟨-, said, more⟩ := added
    refine Succeeds.pure_iff.2 ⟨follows.trans more, fun _ _ settled => ?_⟩
    rw [said]
    exact (leaves.settled _ _ settled).of_same rfl rfl rfl
  · exact Succeeds.pure_iff.2 leaves

theorem transfer_attempts {queue operator : Option String} (order : d.InOrder g) :
    Attempts (transfer here id queue operator) d fun _ e => Keeps g d e :=
  visit_find_attempts order fun _ => transferAct_attempts

/-! The flow walks sessions. -/

variable {outcome : Outcome} {node : String}

@[simp] theorem keepTime_store : (keepTime id outcome d).store = d.store := by
  unfold keepTime
  split
  · split <;> rfl
  · rfl

theorem InOrder.rest (order : d.InOrder g) (known : s ∈ d.store.sessions)
    (follows : (Visit.start s).Follows v)
    (timersKnown : ∀ timer ∈ timers, ∃ s ∈ d.store.sessions, s.id = timer.continuation.session)
    (others : ∀ id, id ≠ s.id → owed timers id = owed d.timers id)
    (nothing : owed timers s.id = []) (rests : outcome.Rests g v.session) :
    InOrder g (keepTime s.id outcome { d with store := d.store.record v, timers }) := by
  have same : v.session.id = s.id := follows.id
  cases outcome with
  | continuedTo node => contradiction
  | paused node =>
    obtain ⟨bot, waits, found, member, awaits⟩ := rests
    refine order.record known same timersKnown others ?_
    rw [nothing]
    exact .awaits bot waits member awaits
  | delayed node next seconds =>
    obtain ⟨bot, waits, member, leads⟩ := rests
    unfold keepTime
    dsimp only
    split
    · rename_i running
      refine order.record known same ?_ ?_ ?_
      · intro timer new
        rcases List.mem_append.1 new with old | new
        · exact timersKnown timer old
        · rw [List.mem_singleton.1 new]
          exact ⟨s, known, rfl⟩
      · intro id other
        rw [owed_append, others id other]
        simp [owed, other.symm]
      · have one := Session.Settled.delays bot waits member leads
        rw [same, ← running] at one
        rw [owed_append, nothing]
        simpa [owed] using one
    · rename_i halted
      refine order.record known same timersKnown others ?_
      rw [nothing, Bool.eq_false_iff.2 halted]
      exact .halts bot waits member
  | queued queue =>
    refine order.record known same timersKnown others ?_
    rw [nothing]
    exact .gone (by simp [rests.1]) rests.2 (by simp)
  | terminated =>
    refine order.record known same timersKnown others ?_
    rw [nothing]
    rcases rests.1 with bot | closed
    · exact .idle bot rests.2
    · exact .gone (by simp [closed]) rests.2 (by simp)
  | stalled node =>
    refine order.record known same timersKnown others ?_
    rw [nothing]
    exact .idle rests.1 rests.2.1

theorem walk_succeeds {α : Type} {work : Walk α} {asked : Nat} {bag : Variables} {post : α → Run → Prop}
    (distinct : d.store.Distinct) (known : s ∈ d.store.sessions)
    (h : Succeeds work (.startAfter asked s bag) post) :
    Succeeds (walk asked s.id bag work) d fun a e =>
      ∃ r, post a r ∧ e = { d with store := d.store.record r.visit } := by
  obtain ⟨a, r, done, holds⟩ := h
  refine ⟨a, { d with store := d.store.record r.visit }, ?_, r, holds, rfl⟩
  unfold walk
  simp only [distinct.find? known, done]

theorem runFrom_succeeds {asked : Nat} {bag : Variables} (distinct : d.store.Distinct)
    (known : s ∈ d.store.sessions) (bot : s.status = .bot) (node_ : here.graph.HasNode node) :
    Succeeds (runFrom here asked s.id bag node) d fun _ e =>
      ∃ outcome r, Walk.runFrom here node (.startAfter asked s bag) = .ok outcome r ∧
        r.path.head? = some node ∧ (Visit.start s).Follows r.visit ∧
          outcome.Rests here.graph r.visit.session ∧
            e = keepTime s.id outcome { d with store := d.store.record r.visit } := by
  have runs : Succeeds (Walk.runFrom here node) (.startAfter asked s bag) _ :=
    Walk.runFrom_rests node_ bot
  obtain ⟨outcome, r, run, follows, ⟨rest, path⟩, rests⟩ := runs
  have begins : r.path.head? = some node := by
    rw [← path]
    rfl
  have this_run : Succeeds (Walk.runFrom here node) (.startAfter asked s bag) fun o q => o = outcome ∧ q = r :=
    (Succeeds.ok_iff run).2 ⟨rfl, rfl⟩
  refine (walk_succeeds distinct known this_run).seq fun o e walked => ?_
  obtain ⟨q, ⟨rfl, rfl⟩, rfl⟩ := walked
  exact Succeeds.modify_iff.2 ⟨o, q, run, begins, follows.visit, rests, rfl⟩

end Desk
end Switchboard
