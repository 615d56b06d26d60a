import Mathlib.Logic.Relation
import Switchboard.Proofs.Chat.Registry

/-! Work on a session as a row of operations. Whoever works on a session asks for one operation after
another, and what is refused changes nothing. So what a single operation keeps is kept by all work that
is made of such operations, and by a store whose sessions are worked on. -/
namespace Switchboard

namespace Visit

/-- Operations of this kind take the visit on, one after another, and none of them is refused. -/
def Worked (kind : Session.Operation → Prop) : Visit → Visit → Prop :=
  Relation.ReflTransGen fun v w => ∃ op, kind op ∧ op.act v = .ok () w

variable {kind wider : Session.Operation → Prop} {op : Session.Operation} {v w : Visit} {α : Type}

theorem Worked.refl (v : Visit) : v.Worked kind v := Relation.ReflTransGen.refl

theorem Worked.trans {u : Visit} (first : u.Worked kind v) (second : v.Worked kind w) :
    u.Worked kind w :=
  Relation.ReflTransGen.trans first second

instance : Std.Refl (Worked kind) := ⟨Worked.refl⟩

instance : Trans (Worked kind) (Worked kind) (Worked kind) := ⟨Worked.trans⟩

theorem act_eq_ok_iff : op.act v = .ok () w ↔ op.refusal v.session = none ∧
    w = ⟨op.outcome v.session, v.journal ++ v.session.news (op.outcome v.session)⟩ := by
  rw [op.act_eq, guarded_eq_ok_iff]
  simp

theorem respects_act (op : Session.Operation) (allowed : kind op) :
    Respects (Worked kind) op.act := by
  intro v
  cases run : op.act v with
  | ok a w => exact (Ends.ok_iff run).2 (.single ⟨op, allowed, run⟩)
  | error refusal w =>
    have refused := run
    rw [op.act_eq, guarded_eq_error_iff] at refused
    rw [Ends.error_iff run, refused.2]
    exact .refl v

theorem respects_worked {act : Act α} (op : Session.Operation) (allowed : kind op)
    (same : ∀ v, op.act v = (do let _ ← act : Act Unit) v) : Respects (Worked kind) act := by
  intro v
  have worked := respects_act op allowed v
  cases run : act v with
  | ok a w => exact (Ends.ok_iff run).2 (worked.ok () w ((same v).trans (bind_of_ok run)))
  | error refusal w =>
    exact (Ends.error_iff run).2 (worked.error refusal w ((same v).trans (bind_of_error run)))

namespace Worked

theorem mono (worked : v.Worked kind w) (imp : ∀ op, kind op → wider op) : v.Worked wider w :=
  Relation.ReflTransGen.mono
    (fun _ _ step => step.imp fun op done => ⟨imp op done.1, done.2⟩) _ _ worked

theorem holds {P : Session → Prop} (worked : v.Worked kind w)
    (step : ∀ (op : Session.Operation) s, kind op → op.refusal s = none → P s → P (op.outcome s))
    (first : P v.session) : P w.session := by
  induction worked with
  | refl => exact first
  | tail _ done ih =>
    obtain ⟨op, allowed, done⟩ := done
    obtain ⟨unrefused, rfl⟩ := act_eq_ok_iff.1 done
    exact step op _ allowed unrefused ih

theorem same {β : Type} {f : Session → β} (worked : v.Worked kind w)
    (step : ∀ (op : Session.Operation) s, kind op → op.refusal s = none → f (op.outcome s) = f s) :
    f w.session = f v.session := by
  have unchanged : (fun s => f s = f v.session) w.session :=
    worked.holds (fun op s allowed unrefused same => (step op s allowed unrefused).trans same) rfl
  exact unchanged

theorem id (worked : v.Worked kind w) : w.session.id = v.session.id :=
  worked.same fun _ _ _ unrefused => (Session.Operation.advances unrefused).id

/-- Work tells of messages and of another status, and of nothing else. -/
theorem tells (worked : v.Worked kind w) : ∃ told, w.journal = v.journal ++ told ∧
    ∀ e ∈ told, e.session = v.session.id ∧
      ((∃ message, e = .messageAppended e.session message) ∨
        ∃ before after, e = .statusChanged e.session before after) := by
  induction worked with
  | refl => exact ⟨[], by simp, by simp⟩
  | tail earlier done ih =>
    obtain ⟨op, -, done⟩ := done
    obtain ⟨unrefused, rfl⟩ := act_eq_ok_iff.1 done
    obtain ⟨told, journal, news⟩ := ih
    refine ⟨_, by rw [journal, List.append_assoc], fun e member => ?_⟩
    obtain old | new := List.mem_append.1 member
    · exact news e old
    · refine ⟨(Session.session_of_news new).trans (id earlier), ?_⟩
      obtain ⟨message, rfl⟩ | rfl := Session.mem_news new
      · exact .inl ⟨message, rfl⟩
      · exact .inr ⟨_, _, rfl⟩

theorem told {P : Event → Prop} {s : Session} (worked : (start s).Worked kind v)
    (message : ∀ message, P (.messageAppended s.id message))
    (status : ∀ before after, P (.statusChanged s.id before after)) : ∀ e ∈ v.journal, P e := by
  obtain ⟨told, journal, news⟩ := worked.tells
  intro e member
  rw [journal] at member
  obtain ⟨its, ⟨said, same⟩ | ⟨before, after, same⟩⟩ := news e (by simpa [start] using member)
  · rw [same, its]
    exact message said
  · rw [same, its]
    exact status before after

end Worked
end Visit

namespace Store

inductive Turns (R : Visit → Visit → Prop) : Store → Store → Prop
  | create {store : Store} (fresh : SessionId) (customer : String) (now : Instant) :
      (∀ s ∈ store.sessions, s.id ≠ fresh) → Turns R store (store.add (.new fresh customer now))
  | visit {store : Store} {s : Session} {v : Visit} :
      s ∈ store.sessions → v.session.id = s.id → R (.start s) v → Turns R store (store.record v)

abbrev Develops (R : Visit → Visit → Prop) : Store → Store → Prop := Relation.ReflTransGen (Turns R)

variable {R Q : Visit → Visit → Prop} {a b : Store} {s : Session} {id : SessionId}

theorem Turns.distinct (turns : Turns R a b) (distinct : a.Distinct) : b.Distinct := by
  cases turns with
  | create fresh customer now unused =>
    exact (Grows.create fresh customer now unused).distinct distinct
  | visit known same visits =>
    unfold Distinct record
    rw [ids_put]
    exact distinct

namespace Develops

theorem mono (develops : a.Develops R b)
    (imp : ∀ (s : Session) v, R (.start s) v → Q (.start s) v) : a.Develops Q b := by
  refine Relation.ReflTransGen.mono (fun _ _ turn => ?_) _ _ develops
  cases turn with
  | create fresh customer now unused => exact .create fresh customer now unused
  | visit known same visits => exact .visit known same (imp _ _ visits)

theorem distinct (develops : a.Develops R b) (distinct : a.Distinct) : b.Distinct := by
  induction develops with
  | refl => exact distinct
  | tail _ turn ih => exact turn.distinct ih

theorem keeps {holds : Session → Prop} {told : Event → Prop} (develops : a.Develops R b)
    (new : ∀ fresh customer now, holds (.new fresh customer now))
    (created : ∀ fresh customer, told (.sessionCreated fresh customer))
    (visits : ∀ s v, R (.start s) v → holds s → holds v.session ∧ ∀ e ∈ v.journal, told e)
    (sessions : ∀ s ∈ a.sessions, holds s) :
    (∀ s ∈ b.sessions, holds s) ∧
      ∃ more, b.journal = a.journal ++ more ∧ ∀ e ∈ more, told e := by
  induction develops with
  | refl => exact ⟨sessions, [], by simp, by simp⟩
  | tail _ turn ih =>
    obtain ⟨sessions, more, journal, tells⟩ := ih
    have goesOn {last : List Event} (also : ∀ e ∈ last, told e) : ∀ e ∈ more ++ last, told e :=
      fun e member => (List.mem_append.1 member).elim (tells e) (also e)
    cases turn with
    | create fresh customer now unused =>
      constructor
      · intro s member
        obtain old | this := List.mem_append.1 member
        · exact sessions s old
        · exact List.mem_singleton.1 this ▸ new fresh customer now
      · refine ⟨_, by rw [Store.add, journal, List.append_assoc], goesOn fun e member => ?_⟩
        exact List.mem_singleton.1 member ▸ created fresh customer
    | @visit s v known same visit =>
      obtain ⟨holds, also⟩ := visits s v visit (sessions s known)
      constructor
      · intro t member
        obtain ⟨u, old, rfl⟩ := List.mem_map.1 member
        split
        · exact holds
        · exact sessions u old
      · exact ⟨_, by rw [Store.record, journal, List.append_assoc], goesOn also⟩

theorem keepsOne {holds : Session → Prop} (develops : a.Develops R b) (distinct : a.Distinct)
    (found : a.find? id = some s) (holds_ : holds s)
    (visits : ∀ s v, s.id = id → R (.start s) v → holds s → holds v.session) :
    ∃ t, b.find? id = some t ∧ holds t := by
  induction develops with
  | refl => exact ⟨s, found, holds_⟩
  | @tail middle _ earlier turn ih =>
    obtain ⟨t, there, holds_⟩ := ih
    obtain ⟨known, name⟩ := find?_eq_some there
    have apart := Develops.distinct earlier distinct
    cases turn with
    | create fresh customer now unused =>
      refine ⟨t, ?_, holds_⟩
      have other : ¬ (Session.new fresh customer now).id = id := fun same =>
        unused t known (name.trans same.symm)
      rw [find?_add unused, if_neg other]
      exact there
    | @visit u v member same visit =>
      have this : middle.find? v.session.id = some u := same ▸ apart.find? member
      rw [find?_record this]
      split
      · rename_i its
        have named : u.id = id := same.symm.trans its
        cases apart.eq member known (named.trans name.symm)
        exact ⟨v.session, rfl, visits t v name visit holds_⟩
      · exact ⟨t, there, holds_⟩

theorem chronological (develops : a.Develops R b)
    (quiet : ∀ (s : Session) v, R (.start s) v → ∀ e ∈ v.journal, e.created? = none)
    (same : a.Chronological) : b.Chronological := by
  induction develops with
  | refl => exact same
  | tail _ turn ih =>
    unfold Chronological at ih ⊢
    cases turn with
    | create fresh customer now unused =>
      simp [Store.add, List.filterMap_append, ih, Event.created?, Session.new]
    | @visit s v known same visit =>
      have silent : v.journal.filterMap Event.created? = [] :=
        List.filterMap_eq_nil_iff.2 (quiet s v visit)
      simp [Store.record, ids_put, List.filterMap_append, ih, silent]

end Develops
end Store
end Switchboard
