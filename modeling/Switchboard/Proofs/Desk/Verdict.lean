import Switchboard.Proofs.Desk.Service
import Switchboard.Proofs.Desk.Waiting

/-! What observers learn of a run. Whatever the flow does, and in however many rounds, the last event of
the operation that set it going says where the flow stands, no other event does, and the session bears
it out. -/
namespace Switchboard

/-- What the event says of the session is so. -/
def Event.BorneOutBy (g : Graph) (s : Session) : Event → Prop
  | .flowPaused _ node =>
    s.status = .bot ∧ s.pending = some node ∧
      ∃ known, g.node? node = some known ∧ known.kind.suspends
  | .flowStalled _ node => s.status = .bot ∧ s.pending = none ∧ g.HasNode node
  | .flowFinished _ =>
    s.pending = none ∧ (s.status = .bot ∨ s.status = .waiting ∨ s.status = .closed)
  | _ => False

section Verdict

variable {g : Graph} {s : Session} {id : SessionId} {outcome : Outcome} {event : Event}

theorem Outcome.isVerdict_of_verdict (told : outcome.verdict id = some event) :
    event.isVerdict = true ∧ event.session = id := by
  cases outcome <;> cases told <;> exact ⟨rfl, rfl⟩

theorem Outcome.Rests.borneOut (rests : outcome.Rests g s) (told : outcome.verdict id = some event) :
    event.BorneOutBy g s := by
  cases outcome with
  | continuedTo node => contradiction
  | paused node =>
    cases told
    obtain ⟨bot, waits, known, member, awaits⟩ := rests
    exact ⟨bot, waits, known, member, Kind.suspends_of_awaitsReply awaits⟩
  | delayed node next seconds =>
    cases told
    obtain ⟨bot, waits, member, -⟩ := rests
    exact ⟨bot, waits, _, member, rfl⟩
  | stalled node =>
    cases told
    exact rests
  | queued queue =>
    cases told
    exact ⟨rests.2, .inr (.inl rests.1)⟩
  | terminated =>
    cases told
    exact ⟨rests.2, rests.1.elim .inl fun closed => .inr (.inr closed)⟩

end Verdict

theorem Visit.Worked.unjudged {kind : Session.Operation → Prop} {v : Visit} {s : Session}
    (worked : (Visit.start s).Worked kind v) : ∀ e ∈ v.journal, e.isVerdict = false :=
  worked.told (fun _ => rfl) fun _ _ => rfl

namespace Launch

variable {here : Surroundings} {d : Desk} {l : Launch} {outcome : Outcome} {t : Run}

theorem Ready.journal_leaves (ready : l.Ready here d) (ends : l.Ends here outcome t) :
    ∃ told event, (l.leaves outcome t).store.journal = d.store.journal ++ (told ++ [event]) ∧
      (∀ e ∈ told, e.isVerdict = false) ∧ outcome.verdict l.session.id = some event := by
  obtain ⟨v, event, worked, left, verdict⟩ := ready.tells ends
  have journal : (l.leaves outcome t).store.journal = l.desk.store.journal ++ (v.journal ++ [event]) := by
    unfold leaves
    rw [Desk.keepTime_store, Store.record, left]
    rfl
  obtain same | ⟨fresh, customer, now, unused, new⟩ := ready.store
  · exact ⟨v.journal, event, by rw [journal, same], worked.unjudged, verdict⟩
  · refine ⟨.sessionCreated fresh customer :: v.journal, event, ?_, ?_, verdict⟩
    · rw [journal, new]
      simp [Store.add, Session.new]
    · exact List.forall_mem_cons.2 ⟨rfl, worked.unjudged⟩

end Launch

namespace Desk

variable {g : Graph} {d : Desk}

/-- A run ends, and its last event is the only one that says where the flow stands. The session bears it
out; and it waits in a queue, is closed or is with the flow as the handlers have been met that hand it
over. Nothing is said of a flow that is not set going. -/
theorem Reached.runs_judged (reached : Reached g d) {here : Surroundings} {happening : Happening}
    (graph : here.graph = g) (fits : happening.Fits d) :
    (∀ l, happening.launch? here d = some l → ∃ outcome t, l.Makes here d happening outcome t ∧
      (∃ told event,
        (happening.perform here d).store.journal = d.store.journal ++ (told ++ [event]) ∧
        (∀ e ∈ told, e.isVerdict = false) ∧
        event.isVerdict = true ∧ event.session = l.session.id ∧
        event.BorneOutBy g t.visit.session) ∧
      t.visit.session.EndsAs here (l.impulse.trail here l.begins)) ∧
    (happening.launch? here d = none →
      ∃ told, (happening.perform here d).store.journal = d.store.journal ++ told ∧
        ∀ e ∈ told, e.isVerdict = false) := by
  subst graph
  have order := reached.inOrder
  constructor
  · intro l launch
    have ready := Happening.launch_ready order fits launch
    obtain ⟨outcome, t, makes⟩ := Happening.makes order fits launch
    obtain ⟨told, event, journal, quiet, verdict⟩ := ready.journal_leaves makes.toEnds
    obtain ⟨judges, its⟩ := Outcome.isVerdict_of_verdict verdict
    exact ⟨outcome, t, makes,
      ⟨told, event, makes.leaves ▸ journal, quiet, judges, its, makes.rests.borneOut verdict⟩,
      Impulse.endsAs_of_program ready.fits ready.still makes.run⟩
  · intro none_
    obtain same | ⟨id, -, served⟩ := Happening.perform_of_no_launch none_
    · exact ⟨[], by simp [same], by simp⟩
    · have kept : (∀ s ∈ (happening.perform here d).store.sessions, True) ∧
          ∃ told, (happening.perform here d).store.journal = d.store.journal ++ told ∧
            ∀ e ∈ told, e.isVerdict = false :=
        served.keeps (fun _ _ _ => trivial) (fun _ _ => rfl)
          (fun _ _ worked _ => ⟨trivial, worked.2.unjudged⟩) fun _ _ => trivial
      exact kept.2

theorem atReception_judged : ∃ l outcome t, (answering "Ana").launch? .reception atReception = some l ∧
    l.Makes .reception atReception (answering "Ana") outcome t ∧
      (∃ h ∈ l.impulse.trail .reception l.begins, ∃ queue, h.Queues .reception queue ∧
        t.visit.session.IsQueued queue) ∧
      ∃ event, ((answering "Ana").perform .reception atReception).store.journal.getLast? = some event ∧
        event.BorneOutBy .reception t.visit.session := by
  have graph : Surroundings.reception.graph = .reception := rfl
  have fits : (answering "Ana").Fits atReception := trivial
  have sets : ((answering "Ana").launch? .reception atReception).map (·.session.id) =
      some ⟨"chat_1"⟩ := by decide +kernel
  obtain ⟨l, launch, name⟩ := Option.map_eq_some_iff.1 sets
  obtain ⟨runs, -⟩ := atReception_reached.runs_judged graph fits
  obtain ⟨outcome, t, makes, ⟨told, event, journal, -, -, -, borneOut⟩, endsAs⟩ :=
    runs l launch
  have waits : (((answering "Ana").perform .reception atReception).store.find? ⟨"chat_1"⟩).map
      Session.status = some .waiting := by decide +kernel
  rw [← name, makes.found] at waits
  obtain ⟨h, met, queue, queues⟩ := endsAs.waiting.1 (Option.some.inj waits)
  refine ⟨l, outcome, t, launch, makes, ⟨h, met, queue, queues, endsAs.queued h met queue queues⟩, event,
    ?_, borneOut⟩
  rw [journal]
  simp

end Desk
end Switchboard
