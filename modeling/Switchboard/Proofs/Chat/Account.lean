import Switchboard.Chat.Visit
import Switchboard.Proofs.Chat.Change
import Switchboard.Proofs.Success

/-! What observers are told of a session, held against what became of it. Accounts of one stretch of
work after another make an account of the whole, so a single step is all that has to be looked at. The
heart of it is that a session never comes back to the flow. -/
namespace Switchboard

namespace Event

def message? : Event → Option Message
  | .messageAppended _ message => some message
  | _ => none

def leavesBot : Event → Bool
  | .statusChanged _ before after => before == .bot && after != .bot
  | _ => false

/-- The flow has the session: it speaks there, waits, has lost its way, or gets it back. -/
def isOfFlow : Event → Bool
  | .messageAppended _ message => message.sender == .bot
  | .statusChanged _ _ after => after == .bot
  | .flowPaused .. | .flowStalled .. => true
  | .sessionCreated .. | .flowFinished .. => false

def Remarks (e : Event) (id : SessionId) : Prop :=
  e.session = id ∧ e.message? = none ∧ e.leavesBot = false

/-- Once a session has left the flow, nothing more is told of the flow in it. -/
def Orderly (told : List Event) : Prop :=
  told.Pairwise fun a b => a.leavesBot → a.session = b.session → b.isOfFlow = false

end Event

/-- `told` is what there is to tell of the work that made `t` of `s`. -/
structure Account (s : Session) (told : List Event) (t : Session) : Prop where
  id : t.id = s.id
  own : ∀ e ∈ told, e.session = s.id
  log : t.messages = s.messages ++ told.filterMap Event.message?
  orderly : Event.Orderly told
  left : t.status = .bot → ∀ e ∈ told, e.leavesBot = false
  kept : s.status ≠ .bot → t.status ≠ .bot
  silent : s.status ≠ .bot → ∀ e ∈ told, e.isOfFlow = false
  bag : s.status ≠ .bot → t.bag = s.bag
  idle : s.status ≠ .bot → s.pending = none → t.pending = none
  ended : s.status = .closed → t = s

namespace Account

variable {s t u : Session} {told more : List Event}

theorem refl (s : Session) : Account s [] s where
  id := rfl
  own := by simp
  log := by simp
  orderly := List.Pairwise.nil
  left := by simp
  kept gone := gone
  silent := by simp
  bag _ := rfl
  idle _ none := none
  ended _ := rfl

theorem trans (first : Account s told t) (second : Account t more u) :
    Account s (told ++ more) u where
  id := second.id.trans first.id
  own := by
    intro e he
    rcases List.mem_append.1 he with he | he
    · exact first.own e he
    · rw [second.own e he, first.id]
  log := by rw [second.log, first.log, List.filterMap_append, List.append_assoc]
  orderly := by
    refine List.pairwise_append.2 ⟨first.orderly, second.orderly, ?_⟩
    intro a ha b hb leaves _
    -- had the flow still been in charge in between, `a` could not have been told
    have gone : t.status ≠ .bot := by
      intro bot
      rw [first.left bot a ha] at leaves
      contradiction
    exact second.silent gone b hb
  left := by
    intro bot e he
    have before : t.status = .bot := Decidable.not_not.1 fun gone => second.kept gone bot
    rcases List.mem_append.1 he with he | he
    · exact first.left before e he
    · exact second.left bot e he
  kept gone := second.kept (first.kept gone)
  silent := by
    intro gone e he
    rcases List.mem_append.1 he with he | he
    · exact first.silent gone e he
    · exact second.silent (first.kept gone) e he
  bag gone := (second.bag (first.kept gone)).trans (first.bag gone)
  idle gone none := second.idle (first.kept gone) (first.idle gone none)
  ended := by
    intro closed
    have same : t = s := first.ended closed
    subst same
    exact second.ended closed

theorem single {e : Event} (ended : s.status = .closed → t = s) (id : t.id = s.id)
    (status : t.status = s.status) (own : e.session = s.id)
    (log : t.messages = s.messages ++ e.message?.toList) (stays : e.leavesBot = false)
    (quiet : s.status ≠ .bot → e.isOfFlow = false ∧ t.bag = s.bag ∧ t.pending = s.pending) :
    Account s [e] t where
  id := id
  own := by simpa using own
  log := by rw [log]; cases h : e.message? <;> simp [h]
  orderly := List.pairwise_singleton ..
  left := by simpa using fun _ => stays
  kept gone := status ▸ gone
  silent gone := by simpa using (quiet gone).1
  bag gone := (quiet gone).2.1
  idle gone none := (quiet gone).2.2.trans none
  ended := ended

theorem remark {e : Event} (remark : e.Remarks s.id)
    (quiet : s.status ≠ .bot → e.isOfFlow = false) : Account s [e] s := by
  obtain ⟨own, log, stays⟩ := remark
  exact single (fun _ => rfl) rfl rfl own (by simp [log]) stays fun gone => ⟨quiet gone, rfl, rfl⟩

theorem noted (id : t.id = s.id) (bot : s.status = .bot) (messages : t.messages = s.messages) :
    Account s [] t where
  id := id
  own := by simp
  log := by simpa using messages
  orderly := List.Pairwise.nil
  left := by simp
  kept gone := absurd bot gone
  silent := by simp
  bag gone := absurd bot gone
  idle gone := absurd bot gone
  ended closed := by simp [bot] at closed

theorem cleared (idle : s.status = .closed → s.pending = none) :
    Account s [] { s with pending := none } where
  id := rfl
  own := by simp
  log := by simp
  orderly := List.Pairwise.nil
  left := by simp
  kept gone := gone
  silent := by simp
  bag _ := rfl
  idle _ _ := rfl
  ended closed := by rw [← idle closed]

theorem say {message : Message} (open_ : s.status ≠ .closed)
    (voice : message.sender = .bot → s.status = .bot) :
    Account s [.messageAppended s.id message] (s.say message) := by
  refine single (fun closed => absurd closed open_) rfl rfl rfl rfl rfl fun gone => ⟨?_, rfl, rfl⟩
  have : message.sender ≠ .bot := fun bot => gone (voice bot)
  simpa [Event.isOfFlow] using this

theorem handOver (open_ : s.status ≠ .closed) (id : t.id = s.id) (gone : t.status ≠ .bot)
    (messages : t.messages = s.messages) (bag : t.bag = s.bag)
    (pending : t.pending = none ∨ t.pending = s.pending) :
    Account s (Visit.toldStatus s t) t := by
  have told : ∀ e ∈ Visit.toldStatus s t, e = .statusChanged s.id s.status t.status := by
    intro e he
    unfold Visit.toldStatus at he
    split at he
    · simp at he
    · exact List.mem_singleton.1 he
  exact {
    id := id
    own := by intro e he; rw [told e he]; rfl
    log := by
      have : (Visit.toldStatus s t).filterMap Event.message? = [] := by
        rw [List.filterMap_eq_nil_iff]
        intro e he
        rw [told e he]
        rfl
      rw [this, messages, List.append_nil]
    orderly := by
      unfold Visit.toldStatus
      split
      · exact List.Pairwise.nil
      · exact List.pairwise_singleton ..
    left := fun bot => absurd bot gone
    kept := fun _ => gone
    silent := by
      intro _ e he
      rw [told e he]
      simpa [Event.isOfFlow] using gone
    bag := fun _ => bag
    idle := fun _ none => pending.elim (·) fun same => same.trans none
    ended := fun closed => absurd closed open_ }

end Account

namespace Visit

def Follows (v w : Visit) : Prop :=
  ∃ told, w.journal = v.journal ++ told ∧ Account v.session told w.session

variable {α : Type} {u v w : Visit} {now : Instant}

theorem Follows.refl (v : Visit) : v.Follows v :=
  ⟨[], by simp, .refl _⟩

theorem Follows.trans (first : u.Follows v) (second : v.Follows w) : u.Follows w := by
  obtain ⟨told, journal, account⟩ := first
  obtain ⟨more, journal', account'⟩ := second
  exact ⟨told ++ more, by rw [journal', journal, List.append_assoc], account.trans account'⟩

theorem Follows.id (follows : v.Follows w) : w.session.id = v.session.id :=
  follows.choose_spec.2.id

section Changes

variable {changes : Session.Change α} {told : Session → Session → α → List Event}
variable {guard : Option NotAllowed} {a : α} {t : Session}

theorem change_eq (h : changes v.session = guarded guard a v.session t) :
    change changes told v = guarded guard a v ⟨t, v.journal ++ told v.session t a⟩ := by
  unfold change
  rw [h]
  cases guard <;> rfl

theorem change_attempts (h : changes v.session = guarded guard a v.session t)
    (account : guard = none → Account v.session (told v.session t a) t) :
    Attempts (change changes told) v fun b w =>
      guard = none ∧ b = a ∧ w.session = t ∧ v.Follows w :=
  .of_guarded (change_eq h) fun allowed => ⟨allowed, rfl, rfl, _, rfl, account allowed⟩

theorem change_succeeds (h : changes v.session = guarded guard a v.session t)
    (allowed : guard = none) (account : Account v.session (told v.session t a) t) :
    Succeeds (change changes told) v fun b w => b = a ∧ w.session = t ∧ v.Follows w :=
  .of_guarded (change_eq h) allowed ⟨rfl, rfl, _, rfl, account⟩

end Changes

theorem append_succeeds {post : Post} (open_ : v.session.status ≠ .closed)
    (agent : post.sender ≠ .agent) (voice : post.sender = .bot → v.session.status = .bot) :
    Succeeds (append post now) v fun message w =>
      message = post.stamp now ∧ w.session = v.session.say (post.stamp now) ∧ v.Follows w :=
  change_succeeds Session.append_eq
    (Session.appendRefusal_eq_none_iff.2 ⟨open_, fun h => absurd h agent⟩)
    (Account.say open_ voice)

theorem appendFromOperator_attempts {operator text : String} :
    Attempts (appendFromOperator operator text now) v fun message w =>
      v.session.operatorRefusal operator = none ∧ message = (Post.agent text).stamp now ∧
        w.session = v.session.say ((Post.agent text).stamp now) ∧ v.Follows w := by
  refine change_attempts Session.appendFromOperator_eq fun allowed => ?_
  have opened := (Session.operatorRefusal_eq_none_iff.1 allowed).1
  exact Account.say (by simp [opened]) (by simp [Post.agent])

theorem mergeVariables_succeeds {patch : Variables} (bot : v.session.status = .bot) :
    Succeeds (mergeVariables patch now) v fun merged w =>
      merged = v.session.bag.merge patch ∧
        w.session = { v.session with bag := v.session.bag.merge patch, updatedAt := now } ∧
          v.Follows w :=
  change_succeeds Session.mergeVariables_eq
    (Session.closedRefusal_eq_none_iff.2 (by simp [bot])) (Account.noted rfl bot rfl)

theorem setPending_succeeds {node : Option String} (open_ : v.session.status ≠ .closed)
    (bot : node ≠ none → v.session.status = .bot) :
    Succeeds (setPending node) v fun _ w =>
      w.session = { v.session with pending := node } ∧ v.Follows w := by
  have account : Account v.session [] { v.session with pending := node } := by
    cases node with
    | none => exact .cleared fun closed => absurd closed open_
    | some node => exact .noted rfl (bot (by simp)) rfl
  exact (change_succeeds Session.setPending_eq (Session.closedRefusal_eq_none_iff.2 open_)
    account).mono fun _ _ => And.right

theorem setPending_of_closed {node : Option String} (closed : v.session.status = .closed) :
    setPending node v = .error .closed v := by
  unfold setPending
  rw [change_eq Session.setPending_eq, Session.closedRefusal, if_pos (Session.isClosed_iff.2 closed)]
  rfl

section Transfer

variable {queue operator : Option String}

theorem account_enqueue {s : Session} (open_ : s.status ≠ .closed) :
    Account s (toldStatus s (s.enqueue queue operator now)) (s.enqueue queue operator now) :=
  .handOver open_ rfl (by simp [Session.enqueue]) rfl rfl (.inl rfl)

theorem transfer_succeeds (open_ : v.session.status ≠ .closed) :
    Succeeds (transfer queue operator now) v fun _ w =>
      w.session = v.session.enqueue queue operator now ∧ v.Follows w :=
  (change_succeeds Session.transfer_eq
    (Session.closedRefusal_eq_none_iff.2 open_) (account_enqueue open_)).mono fun _ _ => And.right

theorem transfer_attempts :
    Attempts (transfer queue operator now) v fun _ w =>
      w.session = v.session.enqueue queue operator now ∧ v.Follows w :=
  (change_attempts Session.transfer_eq
    fun allowed => account_enqueue (Session.closedRefusal_eq_none_iff.1 allowed)).mono
      fun _ _ done => done.2.2

end Transfer

theorem pickup_attempts {operator : Operator} {announcement : String} :
    Attempts (pickup operator announcement now) v fun _ w =>
      v.session.status = .waiting ∧
        w.session = (v.session.assign operator).say ((Post.system announcement).stamp now) ∧
          v.Follows w := by
  refine (change_attempts Session.pickup_eq ?_).mono ?_
  · intro allowed
    have waiting := Session.status_of_pickupRefusal allowed
    refine Account.trans (Account.say (by simp [waiting]) (by simp [Post.system])) ?_
    exact Account.handOver (by simp [Session.say, waiting]) rfl
      (by simp [Session.say, Session.assign]) rfl rfl (.inr rfl)
  · intro message w done
    obtain ⟨allowed, -, session, follows⟩ := done
    exact ⟨Session.status_of_pickupRefusal allowed, session, follows⟩

section Close

variable {closer : Closer} {farewell : String}

theorem account_finish {s : Session} {message : Message} (open_ : s.status ≠ .closed)
    (system : message.sender = .system) :
    Account s (toldMessage s message ++ toldStatus s (s.say message).finish)
      (s.say message).finish :=
  .trans (.say open_ (by simp [system]))
    (.handOver open_ rfl (by simp [Session.finish]) rfl rfl (.inl rfl))

theorem close_succeeds (allowed : v.session.closeRefusal closer = none) :
    Succeeds (close closer farewell now) v fun _ w =>
      w.session = (v.session.say ((Post.system farewell).stamp now)).finish ∧ v.Follows w :=
  (change_succeeds Session.close_eq allowed
    (account_finish (Session.status_of_closeRefusal allowed) rfl)).mono fun _ _ => And.right

theorem close_attempts :
    Attempts (close closer farewell now) v fun _ w =>
      w.session = (v.session.say ((Post.system farewell).stamp now)).finish ∧ v.Follows w :=
  (change_attempts Session.close_eq fun allowed =>
    account_finish (Session.status_of_closeRefusal allowed) rfl).mono fun _ _ done => done.2.2

end Close

end Visit
end Switchboard
