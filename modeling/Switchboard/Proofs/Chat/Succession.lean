import Switchboard.Desk.Workspace
import Switchboard.Proofs.Chat.Dealings

/-! One conversation after another. A customer's next session begins when the last one is closed, and
what is closed stays closed, so of all the sessions of a customer only the youngest can be open. -/
namespace Switchboard

section Lists

variable {α : Type} {l : List α} {p : α → Bool}

theorem mem_dropLast_or_getLast? {x : α} (member : x ∈ l) :
    x ∈ l.dropLast ∨ l.getLast? = some x := by
  rcases List.eq_nil_or_concat' l with rfl | ⟨before, last, rfl⟩
  · contradiction
  · simpa [eq_comm] using member

theorem filter_prefix_of_dropLast (h : ∀ x ∈ l.dropLast, p x = true) : l.filter p <+: l := by
  rcases List.eq_nil_or_concat' l with rfl | ⟨before, last, rfl⟩
  · exact List.prefix_refl _
  · rw [List.dropLast_concat] at h
    rw [List.filter_append, List.filter_eq_self.2 h]
    apply (List.prefix_append_right_inj before).2
    cases holds : p last <;> simp [holds]

end Lists

namespace Store

variable {store a b : Store} {s t : Session} {customer : String}

def of (store : Store) (customer : String) : List Session :=
  store.sessions.filter (·.customer == customer)

theorem mem_of : s ∈ store.of customer ↔ s ∈ store.sessions ∧ s.customer = customer := by
  simp [of]

/-- A customer's session is closed before the next one begins. -/
def Successive (store : Store) : Prop :=
  store.sessions.Pairwise fun earlier later =>
    earlier.customer = later.customer → earlier.status = .closed

theorem Successive.advance (successive : a.Successive) (distinct : a.Distinct)
    (known : s ∈ a.sessions) (advances : s.Advances t) : (a.advance s t).Successive := by
  have changed : ∀ u ∈ a.sessions, u.id = t.id → u = s := by
    intro u member same
    exact distinct.eq member known (same.trans advances.id)
  unfold Successive Store.advance put
  rw [List.pairwise_map]
  refine List.Pairwise.imp_of_mem ?_ successive
  intro u w hu hw closes
  have customer : (if w.id = t.id then t else w).customer = w.customer := by
    split
    · rename_i same
      rw [changed w hw same, advances.customer]
    · rfl
  split
  · rename_i same
    -- the earlier session was not closed, so the later one is another customer's
    have earlier : u = s := changed u hu same
    subst earlier
    intro both
    rw [customer, advances.customer] at both
    exact absurd (closes both) advances.unclosed
  · rw [customer]
    exact closes

theorem Passes.successive (passes : a.Passes b) (distinct : a.Distinct)
    (successive : a.Successive) : b.Successive := by
  cases passes with
  | idle => exact successive
  | create fresh customer now _ ended =>
    refine List.pairwise_append.2 ⟨successive, List.pairwise_singleton .., ?_⟩
    intro s known new member same
    rw [List.mem_singleton.1 member] at same
    exact ended s known same
  | advance known advances => exact successive.advance distinct known advances

theorem Reached.successive (reached : Reached store) : store.Successive :=
  reached.keeps Successive List.Pairwise.nil fun _ _ distinct passes successive =>
    passes.successive distinct successive

namespace Successive

theorem closed_of_dropLast (successive : store.Successive) (customer : String) :
    ∀ s ∈ (store.of customer).dropLast, s.status = .closed := by
  have ordered : (store.of customer).Pairwise fun earlier _ => earlier.status = .closed := by
    refine List.Pairwise.imp_of_mem ?_ (successive.filter (·.customer == customer))
    intro earlier later he hl closes
    exact closes ((mem_of.1 he).2.trans (mem_of.1 hl).2.symm)
  rcases List.eq_nil_or_concat' (store.of customer) with none | ⟨before, last, parts⟩
  · simp [none]
  · rw [parts] at ordered ⊢
    rw [List.dropLast_concat]
    intro s member
    exact (List.pairwise_append.1 ordered).2.2 s member last (List.mem_singleton.2 rfl)

theorem getLast?_of_unclosed (successive : store.Successive) (member : s ∈ store.of customer)
    (unclosed : s.status ≠ .closed) : (store.of customer).getLast? = some s := by
  rcases mem_dropLast_or_getLast? member with earlier | last
  · exact absurd (successive.closed_of_dropLast customer s earlier) unclosed
  · exact last

theorem eq_of_unclosed (successive : store.Successive) (hs : s ∈ store.of customer)
    (ht : t ∈ store.of customer) (unclosed : s.status ≠ .closed) (unclosed' : t.status ≠ .closed) :
    s = t := by
  have last := successive.getLast?_of_unclosed hs unclosed
  rw [successive.getLast?_of_unclosed ht unclosed'] at last
  exact (Option.some.inj last).symm

theorem history_prefix (successive : store.Successive) (customer : String) :
    store.history customer <+: store.of customer := by
  have closed : store.history customer = (store.of customer).filter (·.isClosed) := by
    simp [history, of, List.filter_filter]
  rw [closed]
  apply filter_prefix_of_dropLast
  intro s member
  exact Session.isClosed_iff.2 (successive.closed_of_dropLast customer s member)

theorem current?_eq_some_iff (successive : store.Successive) :
    store.current? customer = some s ↔ s ∈ store.of customer ∧ s.status ≠ .closed := by
  constructor
  · intro found
    obtain ⟨known, name, unclosed⟩ := current?_eq_some found
    exact ⟨mem_of.2 ⟨known, name⟩, unclosed⟩
  · intro h
    obtain ⟨member, unclosed⟩ := h
    cases found : store.current? customer with
    | none =>
      obtain ⟨known, name⟩ := mem_of.1 member
      exact absurd (current?_eq_none_iff.1 found s known name) unclosed
    | some t =>
      obtain ⟨known, name, unclosed'⟩ := current?_eq_some found
      rw [successive.eq_of_unclosed member (mem_of.2 ⟨known, name⟩) unclosed unclosed']

end Successive

/-- The sessions stand in the order in which the journal tells of their creation. -/
def Chronological (store : Store) : Prop :=
  store.sessions.map Session.id = store.journal.filterMap Event.created?

theorem Passes.chronological (passes : a.Passes b) (same : a.Chronological) : b.Chronological := by
  unfold Chronological at same ⊢
  cases passes with
  | idle => exact same
  | create fresh customer now _ _ =>
    simp [Store.add, List.filterMap_append, same, Event.created?, Session.new]
  | @advance s t known advances =>
    have quiet : (s.news t).filterMap Event.created? = [] := by
      rw [List.filterMap_eq_nil_iff]
      exact fun e member => Session.created_of_news member
    change (put a.sessions t).map Session.id = (a.journal ++ s.news t).filterMap _
    rw [List.filterMap_append, quiet, List.append_nil, ids_put, same]

theorem Reached.chronological (reached : Reached store) : store.Chronological :=
  reached.keeps Chronological rfl fun _ _ _ passes same => passes.chronological same

end Store
end Switchboard
