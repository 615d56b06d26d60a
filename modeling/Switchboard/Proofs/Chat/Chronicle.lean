import Switchboard.Proofs.Chat.Dealings

/-! The journal of a store as the history of its sessions. Whoever reads the events of one session, and
nothing else, knows when it began, every message in it, and how it came to its present status. -/
namespace Switchboard

def Event.about (id : SessionId) (journal : List Event) : List Event :=
  journal.filter (·.session == id)

section About

variable {id : SessionId} {journal more : List Event}

theorem Event.about_append :
    about id (journal ++ more) = about id journal ++ about id more :=
  List.filter_append ..

theorem Event.about_self (own : ∀ e ∈ more, e.session = id) : about id more = more := by
  apply List.filter_eq_self.2
  intro e member
  simpa using own e member

theorem Event.about_other (other : ∀ e ∈ more, e.session ≠ id) : about id more = [] := by
  apply List.filter_eq_nil_iff.2
  intro e member
  simpa using other e member

end About

/-- What the journal tells of the session is all there is to tell, and it is true. -/
structure Session.ToldBy (s : Session) (journal : List Event) : Prop where
  /-- It begins once, before anything else. -/
  created : ∃ rest, Event.about s.id journal = .sessionCreated s.id s.customer :: rest ∧
    ∀ e ∈ rest, e.created? = none
  messages : (Event.about s.id journal).filterMap Event.message? = s.messages
  course : Event.Course .bot ((Event.about s.id journal).filterMap Event.statusChange?) s.status

namespace Session.ToldBy

variable {s t : Session} {journal more : List Event}

theorem of_about (told : s.ToldBy journal) (same : Event.about s.id more = Event.about s.id journal) :
    s.ToldBy more := by
  obtain ⟨created, messages, course⟩ := told
  rw [← same] at created messages course
  exact ⟨created, messages, course⟩

theorem append (told : s.ToldBy journal) (other : ∀ e ∈ more, e.session ≠ s.id) :
    s.ToldBy (journal ++ more) := by
  apply told.of_about
  rw [Event.about_append, Event.about_other other, List.append_nil]

theorem new (fresh : SessionId) (customer : String) (now : Instant)
    (unheard : ∀ e ∈ journal, e.session ≠ fresh) :
    (Session.new fresh customer now).ToldBy (journal ++ [.sessionCreated fresh customer]) := by
  have about : Event.about fresh (journal ++ [.sessionCreated fresh customer]) =
      [.sessionCreated fresh customer] := by
    rw [Event.about_append, Event.about_other unheard, List.nil_append]
    apply Event.about_self
    simp [Event.session]
  refine ⟨⟨[], about, by simp⟩, ?_, ?_⟩
  · change (Event.about fresh _).filterMap Event.message? = []
    rw [about]
    rfl
  · change Event.Course .bot ((Event.about fresh _).filterMap Event.statusChange?) .bot
    rw [about]
    rfl

theorem advance (told : s.ToldBy journal) (advances : s.Advances t) :
    t.ToldBy (journal ++ s.news t) := by
  have own : Event.about s.id (s.news t) = s.news t :=
    Event.about_self fun e member => session_of_news member
  have about : Event.about t.id (journal ++ s.news t) = Event.about s.id journal ++ s.news t := by
    rw [advances.id, Event.about_append, own]
  constructor
  · obtain ⟨rest, begins, once⟩ := told.created
    refine ⟨rest ++ s.news t, ?_, ?_⟩
    · rw [about, begins, advances.id, advances.customer]
      rfl
    · intro e member
      rcases List.mem_append.1 member with earlier | now
      · exact once e earlier
      · exact created_of_news now
  · rw [about, List.filterMap_append, told.messages, ← advances.messages]
  · rw [about, List.filterMap_append]
    exact told.course.append advances.course

end Session.ToldBy

namespace Store

structure Told (store : Store) : Prop where
  sessions : ∀ s ∈ store.sessions, s.ToldBy store.journal
  known : ∀ e ∈ store.journal, ∃ s ∈ store.sessions, s.id = e.session

variable {store a b : Store}

theorem Told.empty : Told .empty where
  sessions := by simp [Store.empty]
  known := by simp [Store.empty]

theorem Told.add {fresh : SessionId} {customer : String} {now : Instant} (told : a.Told)
    (unused : ∀ s ∈ a.sessions, s.id ≠ fresh) : (a.add (.new fresh customer now)).Told := by
  have unheard : ∀ e ∈ a.journal, e.session ≠ fresh := by
    intro e member same
    obtain ⟨s, known, name⟩ := told.known e member
    exact unused s known (name.trans same)
  constructor
  · intro s member
    rcases List.mem_append.1 member with earlier | new
    · apply (told.sessions s earlier).append
      intro e created
      rw [List.mem_singleton.1 created]
      exact (unused s earlier).symm
    · rw [List.mem_singleton.1 new]
      exact .new fresh customer now unheard
  · intro e member
    rcases List.mem_append.1 member with earlier | created
    · obtain ⟨s, known, name⟩ := told.known e earlier
      exact ⟨s, List.mem_append_left _ known, name⟩
    · rw [List.mem_singleton.1 created]
      exact ⟨_, List.mem_append_right _ (List.mem_singleton.2 rfl), rfl⟩

theorem Told.advance {s t : Session} (told : a.Told) (known : s ∈ a.sessions)
    (advances : s.Advances t) : (a.advance s t).Told := by
  have mem {u : Session} : u ∈ (a.advance s t).sessions ↔ u = t ∨ u ∈ a.sessions ∧ u.id ≠ s.id := by
    have same : (⟨t, s.news t⟩ : Visit).session.id = s.id := advances.id
    exact mem_record known same
  constructor
  · intro u member
    rcases mem.1 member with rfl | ⟨earlier, other⟩
    · exact (told.sessions s known).advance advances
    · apply (told.sessions u earlier).append
      intro e news same
      exact other (same.symm.trans (Session.session_of_news news))
  · intro e member
    rcases List.mem_append.1 member with earlier | news
    · obtain ⟨u, there, name⟩ := told.known e earlier
      by_cases same : u.id = s.id
      · exact ⟨t, mem.2 (.inl rfl), advances.id.trans (same.symm.trans name)⟩
      · exact ⟨u, mem.2 (.inr ⟨there, same⟩), name⟩
    · exact ⟨t, mem.2 (.inl rfl), advances.id.trans (Session.session_of_news news).symm⟩

theorem Passes.told (passes : a.Passes b) (told : a.Told) : b.Told := by
  cases passes with
  | idle => exact told
  | create fresh customer now unused _ => exact told.add unused
  | advance known advances => exact told.advance known advances

/-- After any number of requests the journal is the history of every session, and a request that fails
adds nothing to it. -/
theorem Reached.journal_is_history (reached : Reached store) :
    (∀ s ∈ store.sessions, s.ToldBy store.journal) ∧
      (∀ e ∈ store.journal, ∃ s ∈ store.sessions, s.id = e.session) ∧
      (∀ e ∈ store.journal, ∀ before after, e.statusChange? = some (before, after) →
        before ≠ after) ∧
      ∀ (request : Request) (failure : Failure) (after : Store),
        request.perform store = .error failure after → after = store := by
  have told : store.Told := reached.keeps Told .empty fun a b _ passes told => passes.told told
  refine ⟨told.sessions, told.known, ?_, ?_⟩
  · intro e member before after changes
    obtain ⟨s, known, name⟩ := told.known e member
    have about : e ∈ Event.about s.id store.journal := by
      simp [Event.about, member, name]
    exact (told.sessions s known).course.ne _ (List.mem_filterMap.2 ⟨e, about, changes⟩)
  · intro request failure after failed
    exact request.fails_idle reached.distinct failed

theorem served_is_told : ∃ s ∈ served.sessions, s.ToldBy served.journal ∧
    (Event.about s.id served.journal).filterMap Event.statusChange? =
      [(.bot, .waiting), (.waiting, .closed)] := by
  obtain ⟨told, -⟩ := served_reached.journal_is_history
  have known : ∃ s ∈ served.sessions,
      (Event.about s.id served.journal).filterMap Event.statusChange? =
        [(.bot, .waiting), (.waiting, .closed)] := by decide
  obtain ⟨s, member, changes⟩ := known
  exact ⟨s, member, told s member, changes⟩

end Store
end Switchboard
