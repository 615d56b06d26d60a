import Switchboard.Flow.Settlement
import Switchboard.Proofs.Success

/-! What everything in a walk is made of. A handler asks, says and patches, and besides it can only queue
the session or close it. So what holds of these few, and holds of whatever is put together from such work, holds of
all handlers; and whatever these few leave as it is, all walks leave as it is, however they go and however they
end. -/
namespace Switchboard.Walk

variable {here : Surroundings} {α : Type}

section Ends

variable {r : Run} {returns : α → Run → Prop} {fails : Run → Prop}

@[simp] theorem ask_ends_iff {question : Nat → α} :
    Ends (ask question) r returns fails ↔
      returns (question r.asked) { r with asked := r.asked + 1 } := Ends.ok_iff rfl

@[simp] theorem fill_ends_iff {text : String} {returns : String → Run → Prop} :
    Ends (fill text) r returns fails ↔ returns (r.bag.interpolate text) r := Ends.ok_iff rfl

theorem act_ends_iff {work : Visit.Act α} :
    Ends (act work) r returns fails ↔
      Ends work r.visit (fun a v => returns a { r with visit := v })
        fun v => fails { r with visit := v } := by
  cases run : work r.visit with
  | ok a v =>
    have whole : act work r = .ok a { r with visit := v } := by rw [act, run]
    rw [Ends.ok_iff whole, Ends.ok_iff run]
  | error refusal v =>
    have whole : act work r = .error (.notAllowed refusal) { r with visit := v } := by rw [act, run]
    rw [Ends.error_iff whole, Ends.error_iff run]

end Ends

/-- A property that work has if it is put together from work with the property, and that everything has which a
handler does while the flow keeps the session. -/
structure HoldsOfTalk (here : Surroundings) (C : (α : Type) → Walk α → Prop) : Prop where
  pure : ∀ {α : Type} (a : α), C α (Pure.pure a)
  bind : ∀ {α β : Type} {work : Walk α} {next : α → Walk β}, C α work → (∀ a, C β (next a)) →
    C β (work >>= next)
  get : C Run MonadState.get
  ask : ∀ {α : Type} (question : Nat → α), C α (Walk.ask question)
  requests : ∀ url, C PUnit (MonadState.modifyGet fun r => (PUnit.unit, { r with requests := r.requests ++ [url] }))
  posts : ∀ post now, post.sender ≠ .user → C Message (act (Visit.append post now))
  patches : ∀ changes, C Unit (patch here changes)

/-- A property that work has if it is put together from work with the property, and that everything has which a
handler does. -/
structure HoldsOfAll (here : Surroundings) (C : (α : Type) → Walk α → Prop) : Prop extends HoldsOfTalk here C where
  moves : ∀ node, C PUnit (MonadState.modifyGet fun r => (PUnit.unit, { r with path := r.path ++ [node] }))
  transfers : ∀ queue now, C Unit (act (Visit.transfer (some queue) none now))
  closes : ∀ farewell now, C Message (act (Visit.close .flow farewell now))

section Composition

variable {C : (α : Type) → Walk α → Prop}

namespace HoldsOfTalk

theorem fill (holds : HoldsOfTalk here C) (text : String) : C String (fill text) :=
  holds.bind holds.get fun r => holds.pure (r.bag.interpolate text)

theorem post (holds : HoldsOfTalk here C) (post : Post) (own : post.sender ≠ .user) :
    C Unit (Walk.post here post) :=
  holds.bind (holds.ask _) fun _ => holds.bind (holds.posts post _ own) fun _ => holds.pure _

theorem say (holds : HoldsOfTalk here C) (text : String) : C Unit (say here text) := by
  unfold Walk.say
  split
  · exact holds.pure _
  · exact holds.post _ (by simp [Post.bot])

theorem sayFilled (holds : HoldsOfTalk here C) (text : String) : C Unit (sayFilled here text) :=
  holds.bind (holds.fill text) fun _ => holds.say _

theorem request (holds : HoldsOfTalk here C) (url : String) (mappings : List Mapping) :
    C Unit (request here url mappings) := by
  refine holds.bind (holds.fill url) fun url => holds.bind (holds.ask _) fun response => ?_
  refine holds.bind (holds.requests url) fun _ => ?_
  split
  · split
    · exact holds.pure _
    · exact holds.patches _
  · exact holds.say _

theorem runScript (holds : HoldsOfTalk here C) (source : String) : C Unit (runScript here source) := by
  refine holds.bind holds.get fun r => holds.bind (holds.ask _) fun result => ?_
  split
  · exact holds.patches _
  · exact holds.say _

theorem isOpenNow (holds : HoldsOfTalk here C) (schedule : String) : C Bool (isOpenNow here schedule) := by
  refine holds.bind (holds.ask _) fun group => ?_
  split
  · exact holds.bind (holds.ask _) fun _ => holds.pure _
  · exact holds.pure _

theorem showTemplate (holds : HoldsOfTalk here C) (node template : String) :
    C Step (showTemplate here node template) := by
  refine holds.bind (holds.ask _) fun template => ?_
  split
  · refine holds.bind (holds.fill _) fun _ => ?_
    exact holds.bind (holds.post _ (by simp [Post.offer])) fun _ => holds.pure _
  · exact holds.pure _

theorem enterQueue (holds : HoldsOfTalk here C) {queue : String}
    (transfers : ∀ now, C Unit (act (Visit.transfer (some queue) none now))) :
    C Step (enterQueue here queue) := by
  refine holds.bind (holds.say _) fun _ => holds.bind (holds.ask _) fun served => ?_
  split
  · exact holds.bind (holds.ask _) fun now => holds.bind (transfers now) fun _ => holds.pure _
  · exact holds.bind (holds.say _) fun _ => holds.pure _

theorem sayFarewell (holds : HoldsOfTalk here C) (text : Option String) : C Unit (sayFarewell here text) := by
  unfold Walk.sayFarewell
  split
  · exact holds.sayFilled _
  · exact holds.say _

theorem perform (holds : HoldsOfTalk here C) (node : String) (kind : Kind)
    (transfers : ∀ queue, kind = .queue queue → ∀ now, C Unit (act (Visit.transfer (some queue) none now)))
    (closes : ∀ text, kind = .closing text → ∀ farewell now,
      C Message (act (Visit.close .flow farewell now))) :
    C Step (perform here node kind) := by
  cases kind with
  | start text =>
    unfold Walk.perform
    dsimp only
    split
    · exact holds.bind (holds.sayFilled _) fun _ => holds.pure _
    · exact holds.bind (holds.pure ()) fun _ => holds.pure _
  | message text => exact holds.bind (holds.sayFilled text) fun _ => holds.pure _
  | input text key => exact holds.bind (holds.sayFilled text) fun _ => holds.pure _
  | setValue key value =>
    exact holds.bind (holds.fill value) fun _ => holds.bind (holds.patches _) fun _ => holds.pure _
  | condition rules => exact holds.bind holds.get fun _ => holds.pure _
  | anchor name => exact holds.pure _
  | goto target => exact holds.pure _
  | request url mappings => exact holds.bind (holds.request url mappings) fun _ => holds.pure _
  | script source => exact holds.bind (holds.runScript source) fun _ => holds.pure _
  | delay seconds => exact holds.pure _
  | schedule id => exact holds.bind (holds.isOpenNow id) fun _ => holds.pure _
  | template id => exact holds.showTemplate node id
  | queue name => exact holds.enterQueue (transfers name rfl)
  | ending text => exact holds.bind (holds.sayFarewell text) fun _ => holds.pure _
  | closing text =>
    refine holds.bind (holds.sayFarewell text) fun _ => holds.bind (holds.ask _) fun now => ?_
    exact holds.bind (closes text rfl _ now) fun _ => holds.pure _

theorem loggedText (holds : HoldsOfTalk here C) (awaited : Option Node) (reply : Reply) :
    C String (loggedText here awaited reply) := by
  unfold Walk.loggedText
  split
  · exact holds.pure _
  · split
    · exact holds.pure _
    · exact holds.bind (holds.ask _) fun _ => holds.pure _
    · exact holds.pure _

end HoldsOfTalk

namespace HoldsOfAll

theorem execute (holds : HoldsOfAll here C) (node : Node) : C Step (execute here node) :=
  holds.bind (holds.moves node.id) fun _ =>
    holds.perform node.id node.kind (fun queue _ => holds.transfers queue) fun _ _ => holds.closes

theorem steps (holds : HoldsOfAll here C) (budget : Nat) (node : String) : C Outcome (steps here budget node) := by
  induction budget generalizing node with
  | zero => exact holds.pure _
  | succ budget ih =>
    unfold Walk.steps
    split
    · exact holds.pure _
    · refine holds.bind (holds.execute _) fun step => ?_
      split
      · exact ih _
      · exact holds.pure _

end HoldsOfAll

end Composition

/-- The relation is kept by everything that a handler does while the flow keeps the session, for which it
never speaks as the customer. -/
structure KeptByTalk (here : Surroundings) (R : Run → Run → Prop) : Prop where
  asks : ∀ (r : Run) asked, R r { r with asked }
  requests : ∀ (r : Run) requests, R r { r with requests }
  posts : ∀ post now, post.sender ≠ .user → Respects R (act (Visit.append post now))
  patches : ∀ changes, Respects R (patch here changes)

structure KeptByAll (here : Surroundings) (R : Run → Run → Prop) : Prop extends KeptByTalk here R where
  moves : ∀ (r : Run) path, R r { r with path }
  transfers : ∀ queue now, Respects R (act (Visit.transfer (some queue) none now))
  closes : ∀ farewell now, Respects R (act (Visit.close .flow farewell now))

variable {R : Run → Run → Prop} [Std.Refl R] [Trans R R R]

theorem KeptByTalk.holds (kept : KeptByTalk here R) : HoldsOfTalk here fun _ => Respects R where
  pure := .pure
  bind := .bind
  get := .get
  ask _ := fun r => ask_ends_iff.2 (kept.asks r _)
  requests _ := .modify fun r => kept.requests r _
  posts := kept.posts
  patches := kept.patches

namespace KeptByAll

theorem holds (kept : KeptByAll here R) : HoldsOfAll here fun _ => Respects R where
  toHoldsOfTalk := kept.toKeptByTalk.holds
  moves _ := .modify fun r => kept.moves r _
  transfers := kept.transfers
  closes := kept.closes

theorem advance (kept : KeptByAll here R) (budget : Nat) (node : String) :
    Respects R (advance here budget node) := by
  unfold Walk.advance
  split
  · exact kept.holds.steps budget node
  · exact .throw _

theorem leave (kept : KeptByAll here R) (budget : Nat) (exit : Option String) (stalled : Outcome) :
    Respects R (match exit with
      | some next => Walk.advance here budget next
      | none => pure stalled) := by
  cases exit with
  | some next => exact kept.advance budget next
  | none => exact .pure _

theorem resume (kept : KeptByAll here R) (budget : Nat) (pending : String) (reply : Reply) :
    Respects R (resume here budget pending reply) := by
  unfold Walk.resume
  split
  · exact .throw _
  · dsimp only
    split
    · exact (kept.patches _).bind fun _ => kept.leave budget _ _
    · refine (kept.holds.ask _).bind fun template => ?_
      split
      · exact kept.leave budget _ _
      · exact .pure _
    · exact .pure _

theorem proceed (kept : KeptByAll here R) (budget rounds : Nat) (outcome : Outcome) :
    Respects R (proceed here budget rounds outcome) := by
  induction rounds generalizing outcome with
  | zero => cases outcome <;> exact .pure _
  | succ rounds ih =>
    cases outcome with
    | continuedTo node => exact (kept.advance budget node).bind fun _ => ih _
    | _ => exact .pure _

end KeptByAll

omit [Std.Refl R] [Trans R R R] in
theorem clearPending_kept (kept : Respects R (act (Visit.setPending none))) :
    Respects R clearPending := by
  intro r
  cases run : Visit.setPending none r.visit with
  | ok a v =>
    have set : act (Visit.setPending none) r = .ok a { r with visit := v } := by rw [act, run]
    have cleared : clearPending r = .ok () { r with visit := v } := by rw [clearPending, run]
    exact (Ends.ok_iff cleared).2 ((kept r).ok _ _ set)
  | error refusal v =>
    have refused : act (Visit.setPending none) r = .error (.notAllowed refusal) { r with visit := v } := by
      rw [act, run]
    have left := (kept r).error _ _ refused
    cases refusal with
    | closed =>
      have cleared : clearPending r = .ok () { r with visit := v } := by rw [clearPending, run]
      exact (Ends.ok_iff cleared).2 left
    | _ =>
      obtain ⟨failure, failed⟩ : ∃ failure, clearPending r = .error failure { r with visit := v } :=
        ⟨_, by rw [clearPending, run]⟩
      exact (Ends.error_iff failed).2 left

end Switchboard.Walk
