import Mathlib.Data.List.Nodup
import Mathlib.Logic.Relation
import Switchboard.Chat.Store
import Switchboard.Proofs.Chat.Account

/-! A store grows in two ways only: by a session under an identifier of its own, and by a visit to one
session together with what it told. Sessions are never lost on the way, each keeps its identifier, and
what is told of them stays in order. -/
namespace Switchboard.Store

variable {store : Store} {s t : Session} {id : SessionId} {v : Visit}

def Distinct (store : Store) : Prop := (store.sessions.map Session.id).Nodup

theorem find?_eq_some (h : store.find? id = some s) : s ∈ store.sessions ∧ s.id = id :=
  ⟨List.mem_of_find?_eq_some h, by simpa using List.find?_some h⟩

theorem find?_eq_none_iff : store.find? id = none ↔ ∀ s ∈ store.sessions, s.id ≠ id := by
  simp [find?]

namespace Distinct

theorem eq (distinct : store.Distinct) (hs : s ∈ store.sessions) (ht : t ∈ store.sessions)
    (same : s.id = t.id) : s = t :=
  List.inj_on_of_nodup_map distinct hs ht same

theorem find? (distinct : store.Distinct) (h : s ∈ store.sessions) :
    store.find? s.id = some s := by
  cases found : store.find? s.id with
  | none => exact absurd rfl (find?_eq_none_iff.1 found s h)
  | some t =>
    obtain ⟨member, same⟩ := find?_eq_some found
    rw [distinct.eq member h same]

theorem put_self (distinct : store.Distinct) (h : s ∈ store.sessions) :
    put store.sessions s = store.sessions := by
  unfold put
  rw [List.map_congr_left (g := id), List.map_id]
  intro t member
  split
  · rename_i same
    exact (distinct.eq member h same).symm
  · rfl

theorem record_start (distinct : store.Distinct) (h : s ∈ store.sessions) :
    store.record (.start s) = store := by
  simp [record, Visit.start, distinct.put_self h]

end Distinct

theorem ids_put {sessions : List Session} :
    (put sessions s).map Session.id = sessions.map Session.id := by
  unfold put
  rw [List.map_map]
  apply List.map_congr_left
  intro t _
  dsimp only [Function.comp]
  split
  · rename_i same
    exact same.symm
  · rfl

theorem mem_record (known : s ∈ store.sessions) (same : v.session.id = s.id) :
    t ∈ (store.record v).sessions ↔ t = v.session ∨ t ∈ store.sessions ∧ t.id ≠ s.id := by
  simp only [record, put, List.mem_map, same]
  constructor
  · intro h
    obtain ⟨u, member, rfl⟩ := h
    split
    · exact .inl rfl
    · rename_i other
      exact .inr ⟨member, other⟩
  · intro h
    rcases h with rfl | ⟨member, other⟩
    · exact ⟨s, known, if_pos rfl⟩
    · exact ⟨t, member, if_neg other⟩

theorem known_record (known : s ∈ store.sessions) (same : v.session.id = s.id) :
    ∃ t ∈ (store.record v).sessions, t.id = s.id :=
  ⟨v.session, (mem_record known same).2 (.inl rfl), same⟩

inductive Grows : Store → Store → Prop
  | create {store : Store} (fresh : SessionId) (customer : String) (now : Instant) :
      (∀ s ∈ store.sessions, s.id ≠ fresh) →
      Grows store ⟨store.sessions ++ [Session.new fresh customer now],
        store.journal ++ [.sessionCreated fresh customer]⟩
  | visit {store : Store} {s : Session} {v : Visit} :
      s ∈ store.sessions → (Visit.start s).Follows v → Grows store (store.record v)

variable {a b c : Store}

theorem Grows.distinct (grows : Grows a b) (distinct : a.Distinct) : b.Distinct := by
  cases grows with
  | create fresh customer now unused =>
    unfold Distinct
    rw [List.map_append, List.nodup_append]
    refine ⟨distinct, List.nodup_singleton _, ?_⟩
    intro x hx y hy
    obtain ⟨s, member, rfl⟩ := List.mem_map.1 hx
    rw [List.mem_singleton.1 hy]
    exact unused s member
  | visit known follows =>
    unfold Distinct record
    rw [ids_put]
    exact distinct

theorem Grows.account (grows : Grows a b) (distinct : a.Distinct) (h : s ∈ a.sessions) :
    ∃ t ∈ b.sessions, ∃ told, Account s told t := by
  cases grows with
  | create fresh customer now unused =>
    exact ⟨s, List.mem_append_left _ h, [], .refl s⟩
  | @visit visited v known follows =>
    obtain ⟨told, -, account⟩ := follows
    by_cases same : s.id = visited.id
    · cases distinct.eq h known same
      exact ⟨v.session, (mem_record known account.id).2 (.inl rfl), told, account⟩
    · exact ⟨s, (mem_record known account.id).2 (.inr ⟨h, same⟩), [], .refl s⟩

abbrev Becomes : Store → Store → Prop := Relation.ReflTransGen Grows

theorem Becomes.distinct (becomes : Becomes a b) (distinct : a.Distinct) : b.Distinct := by
  induction becomes with
  | refl => exact distinct
  | tail _ grows ih => exact grows.distinct ih

theorem Becomes.account (becomes : Becomes a b) (distinct : a.Distinct) (h : s ∈ a.sessions) :
    ∃ t ∈ b.sessions, ∃ told, Account s told t := by
  induction becomes with
  | refl => exact ⟨s, h, [], .refl s⟩
  | tail earlier grows ih =>
    obtain ⟨t, member, told, account⟩ := ih
    obtain ⟨u, member', more, account'⟩ := grows.account (Becomes.distinct earlier distinct) member
    exact ⟨u, member', told ++ more, account.trans account'⟩

/-- Everything in the journal is of a session that is known, and true of it. -/
structure Faithful (store : Store) : Prop where
  distinct : store.Distinct
  told : ∀ e ∈ store.journal,
    ∃ s ∈ store.sessions, s.id = e.session ∧ (e.leavesBot = true → s.status ≠ .bot)
  orderly : Event.Orderly store.journal

theorem Faithful.empty : Faithful .empty where
  distinct := List.nodup_nil
  told := by simp [Store.empty]
  orderly := List.Pairwise.nil

theorem Grows.faithful (grows : Grows a b) (faithful : a.Faithful) : b.Faithful := by
  refine ⟨grows.distinct faithful.distinct, ?_, ?_⟩
  · intro e he
    have earlier : e ∈ a.journal →
        ∃ t ∈ b.sessions, t.id = e.session ∧ (e.leavesBot = true → t.status ≠ .bot) := by
      intro he
      obtain ⟨s, member, same, left⟩ := faithful.told e he
      obtain ⟨t, member', told, account⟩ := grows.account faithful.distinct member
      exact ⟨t, member', account.id.trans same, fun leaves => account.kept (left leaves)⟩
    cases grows with
    | create fresh customer now unused =>
      rcases List.mem_append.1 he with he | he
      · exact earlier he
      · rw [List.mem_singleton.1 he]
        exact ⟨_, List.mem_append_right _ (List.mem_singleton.2 rfl), rfl, by simp [Event.leavesBot]⟩
    | @visit visited v known follows =>
      obtain ⟨told, journal, account⟩ := follows
      rcases List.mem_append.1 he with he | he
      · exact earlier he
      · rw [journal, Visit.start, List.nil_append] at he
        refine ⟨v.session, (mem_record known account.id).2 (.inl rfl), ?_, ?_⟩
        · rw [account.own e he, account.id]
        · intro leaves bot
          rw [account.left bot e he] at leaves
          contradiction
  · cases grows with
    | create fresh customer now unused =>
      refine List.pairwise_append.2 ⟨faithful.orderly, List.pairwise_singleton .., ?_⟩
      intro x _ y hy _ _
      rw [List.mem_singleton.1 hy]
      rfl
    | @visit visited v known follows =>
      obtain ⟨told, journal, account⟩ := follows
      rw [Visit.start, List.nil_append] at journal
      refine List.pairwise_append.2 ⟨faithful.orderly, journal ▸ account.orderly, ?_⟩
      intro x hx y hy leaves same
      rw [journal] at hy
      -- the session had left the flow before this visit began
      obtain ⟨s, member, name, left⟩ := faithful.told x hx
      have own : y.session = visited.id := account.own y hy
      cases faithful.distinct.eq member known (name.trans (same.trans own))
      exact account.silent (left leaves) y hy

theorem Becomes.faithful (becomes : Becomes a b) (faithful : a.Faithful) : b.Faithful := by
  induction becomes with
  | refl => exact faithful
  | tail _ grows ih => exact grows.faithful ih

end Switchboard.Store
