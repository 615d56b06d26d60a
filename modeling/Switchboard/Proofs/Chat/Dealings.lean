import Switchboard.Proofs.Chat.Growth
import Switchboard.Proofs.Chat.News

/-! What can be asked of a store, and all that can come of it: nothing, a new session where every
earlier one of the customer is closed, or one session that goes on. Whatever holds of the empty store
and outlives these three holds after any number of requests, done or refused. -/
namespace Switchboard.Store

inductive Request
  | create (fresh : SessionId) (customer : String) (now : Instant)
  | operate (id : SessionId) (op : Session.Operation)

namespace Request

def perform : Request → Op Unit
  | create fresh customer now => fun store => .ok () (store.create fresh customer now).2
  | operate id op => visit id op.act

def IsFresh (store : Store) : Request → Prop
  | create fresh _ _ => ∀ s ∈ store.sessions, s.id ≠ fresh
  | operate .. => True

end Request

def add (store : Store) (s : Session) : Store :=
  ⟨store.sessions ++ [s], store.journal ++ [.sessionCreated s.id s.customer]⟩

def advance (store : Store) (s t : Session) : Store :=
  ⟨put store.sessions t, store.journal ++ s.news t⟩

variable {store : Store} {s t : Session} {id fresh : SessionId} {customer : String} {now : Instant}
variable {op : Session.Operation} {a b : Store}

theorem create_of_current (h : store.current? customer = some s) :
    store.create fresh customer now = ((s, false), store) := by
  simp [create, h]

theorem create_of_no_current (h : store.current? customer = none) :
    store.create fresh customer now =
      ((.new fresh customer now, true), store.add (.new fresh customer now)) := by
  simp [create, h, add, Session.new]

theorem current?_eq_some (h : store.current? customer = some s) :
    s ∈ store.sessions ∧ s.customer = customer ∧ s.status ≠ .closed := by
  have found := List.find?_some h
  simp at found
  exact ⟨List.mem_of_find?_eq_some h, found.1, by simpa [Session.isClosed] using found.2⟩

theorem current?_eq_none_iff :
    store.current? customer = none ↔
      ∀ s ∈ store.sessions, s.customer = customer → s.status = .closed := by
  simp [current?]

theorem operate_of_unknown (unknown : store.find? id = none) :
    (Request.operate id op).perform store = .error (.sessionNotFound id.text) store := by
  change visit id op.act store = _
  unfold visit
  rw [unknown]

theorem visit_of_known {act : Visit.Act α} {guard : Option NotAllowed} {x : α} {told : List Event}
    (distinct : store.Distinct) (found : store.find? id = some s)
    (run : act (.start s) = guarded guard x (.start s) ⟨t, told⟩) :
    visit id act store =
      guarded (guard.map .notAllowed) x store ⟨put store.sessions t, store.journal ++ told⟩ := by
  unfold visit
  simp only [found, run]
  cases guard with
  | none => rfl
  | some refusal =>
    have known : s ∈ store.sessions := (find?_eq_some found).1
    change EStateM.Result.error (Failure.notAllowed refusal) (store.record (.start s)) = _
    rw [distinct.record_start known]
    rfl

theorem operate_of_known (op : Session.Operation) (distinct : store.Distinct)
    (found : store.find? id = some s) :
    (Request.operate id op).perform store =
      guarded ((op.refusal s).map .notAllowed) () store (store.advance s (op.outcome s)) :=
  visit_of_known distinct found (op.act_eq (.start s))

inductive Passes (store : Store) : Store → Prop
  | idle : Passes store store
  | create (fresh : SessionId) (customer : String) (now : Instant) :
      (∀ s ∈ store.sessions, s.id ≠ fresh) →
      (∀ s ∈ store.sessions, s.customer = customer → s.status = .closed) →
      Passes store (store.add (.new fresh customer now))
  | advance {s t : Session} : s ∈ store.sessions → s.Advances t → Passes store (store.advance s t)

theorem Request.passes (request : Request) (distinct : store.Distinct)
    (fresh : request.IsFresh store) : store.Passes (stateAfter request.perform store) := by
  cases request with
  | create id customer now =>
    change store.Passes (store.create id customer now).2
    cases current : store.current? customer with
    | some s =>
      rw [create_of_current current]
      exact .idle
    | none =>
      rw [create_of_no_current current]
      exact .create id customer now fresh (current?_eq_none_iff.1 current)
  | operate id op =>
    cases found : store.find? id with
    | none =>
      unfold stateAfter
      rw [operate_of_unknown found]
      exact .idle
    | some s =>
      have run := operate_of_known op distinct found
      cases allowed : op.refusal s with
      | none =>
        rw [allowed] at run
        rw [stateAfter_of_allowed run]
        exact .advance (find?_eq_some found).1 (Session.Operation.advances allowed)
      | some refusal =>
        rw [allowed] at run
        rw [stateAfter_of_refused run]
        exact .idle

theorem Request.fails_idle (request : Request) (distinct : store.Distinct) {failure : Failure}
    (failed : request.perform store = .error failure b) : b = store := by
  cases request with
  | create id customer now =>
    change EStateM.Result.ok () _ = _ at failed
    contradiction
  | operate id op =>
    cases found : store.find? id with
    | none =>
      rw [operate_of_unknown found] at failed
      cases failed
      rfl
    | some s =>
      rw [operate_of_known op distinct found] at failed
      exact (guarded_eq_error_iff.1 failed).2

theorem Passes.distinct (passes : a.Passes b) (distinct : a.Distinct) : b.Distinct := by
  cases passes with
  | idle => exact distinct
  | create fresh customer now unused _ =>
    exact (Grows.create fresh customer now unused).distinct distinct
  | advance known advances =>
    unfold Distinct Store.advance
    rw [ids_put]
    exact distinct

/-- What is left after any number of requests to an empty store. -/
inductive Reached : Store → Prop
  | empty : Reached .empty
  | request {store : Store} (request : Request) :
      Reached store → request.IsFresh store → Reached (stateAfter request.perform store)

theorem Reached.distinct (reached : Reached store) : store.Distinct := by
  induction reached with
  | empty => exact List.nodup_nil
  | request request _ fresh distinct => exact (request.passes distinct fresh).distinct distinct

theorem Reached.keeps (holds : Store → Prop) (reached : Reached store) (empty : holds .empty)
    (step : ∀ a b : Store, a.Distinct → a.Passes b → holds a → holds b) : holds store := by
  induction reached with
  | empty => exact empty
  | request request earlier fresh ih =>
    exact step _ _ earlier.distinct (request.passes earlier.distinct fresh) ih

/-! A store to look at: a customer is served, and comes back. -/

def served : Store :=
  let begun := stateAfter (Request.create ⟨"chat_1"⟩ "ana" ⟨0, 0⟩).perform .empty
  let queued := stateAfter
    (Request.operate ⟨"chat_1"⟩ (.transfer (some "SAC") none ⟨1, 0⟩)).perform begun
  stateAfter (Request.operate ⟨"chat_1"⟩ (.close (.supervisor "dora") "Bye." ⟨2, 0⟩)).perform queued

def returned : Store :=
  stateAfter (Request.create ⟨"chat_2"⟩ "ana" ⟨3, 0⟩).perform served

theorem served_reached : served.Reached := by
  have begun := Reached.empty.request (.create ⟨"chat_1"⟩ "ana" ⟨0, 0⟩)
    (by simp [Request.IsFresh, empty])
  have queued := begun.request (.operate ⟨"chat_1"⟩ (.transfer (some "SAC") none ⟨1, 0⟩)) trivial
  exact queued.request (.operate ⟨"chat_1"⟩ (.close (.supervisor "dora") "Bye." ⟨2, 0⟩)) trivial

theorem returned_reached : returned.Reached := by
  have unused : ∀ s ∈ served.sessions, s.id ≠ ⟨"chat_2"⟩ := by decide
  exact served_reached.request (.create ⟨"chat_2"⟩ "ana" ⟨3, 0⟩) unused

end Switchboard.Store
