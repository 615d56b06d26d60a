import Switchboard.Proofs.Desk.Verdict
import Switchboard.Proofs.Flow.Entry

/-! What the warnings of a report are worth. Sessions wait only where their flows have come, so a resumed
flow never begins at a node that nothing leads to, and no run meets one. A jump into nowhere is met, and
ends the run. -/
namespace Switchboard

def Event.place? : Event → Option String
  | .flowPaused _ node | .flowStalled _ node => some node
  | .sessionCreated .. | .messageAppended .. | .statusChanged .. | .flowFinished _ => none

def Session.WaitsWithin (g : Graph) (s : Session) : Prop :=
  ∀ node, s.pending = some node → g.Entered node

def Event.TellsWithin (g : Graph) (e : Event) : Prop := ∀ node, e.place? = some node → g.Entered node

section Places

variable {g : Graph} {s : Session} {id : SessionId} {outcome : Outcome} {event : Event} {node : String}

theorem Outcome.place?_verdict (told : outcome.verdict id = some event) :
    event.place? = outcome.place? := by
  cases outcome <;> cases told <;> rfl

theorem Outcome.Rests.place?_of_pending (rests : outcome.Rests g s) (waits : s.pending = some node) :
    outcome.place? = some node := by
  cases outcome with
  | continuedTo node => contradiction
  | paused node => exact rests.2.1.symm.trans waits
  | delayed node next seconds => exact rests.2.1.symm.trans waits
  | stalled node => exact absurd (rests.2.1.symm.trans waits) (by simp)
  | queued queue => exact absurd (rests.2.symm.trans waits) (by simp)
  | terminated => exact absurd (rests.2.symm.trans waits) (by simp)

theorem Session.Operation.IsOfPeople.waitsWithin {op : Session.Operation} (people : op.IsOfPeople)
    (within : s.WaitsWithin g) : (op.outcome s).WaitsWithin g := by
  cases op with
  | append | appendFromOperator | pickup => exact within
  | mergeVariables | setPending => contradiction
  | transfer | close => exact fun _ waits => by cases waits

theorem Visit.Worked.tellsWithin {kind : Session.Operation → Prop} {v : Visit}
    (worked : (Visit.start s).Worked kind v) : ∀ e ∈ v.journal, e.TellsWithin g :=
  worked.told (fun _ _ told => by cases told) fun _ _ _ told => by cases told

end Places

theorem Launch.Ready.stays_within {here : Surroundings} {d : Desk} {l : Launch} {outcome : Outcome}
    {t : Run} (ready : l.Ready here d) (ends : l.Ends here outcome t)
    (within : l.session.WaitsWithin here.graph) :
    t.visit.session.WaitsWithin here.graph ∧ ∀ e ∈ t.visit.journal, e.TellsWithin here.graph := by
  have left : ∀ node, outcome.place? = some node → here.graph.Entered node := fun _ =>
    Impulse.program_place ready.fits ready.comes within ends.run
  refine ⟨fun node waits => left node (ends.rests.place?_of_pending waits), ?_⟩
  obtain ⟨v, event, worked, told, verdict⟩ := ready.tells ends
  rw [told]
  intro e member
  obtain earlier | last := List.mem_append.1 member
  · exact worked.tellsWithin e earlier
  · intro node place
    rw [List.mem_singleton.1 last, Outcome.place?_verdict verdict] at place
    exact left node place

namespace Desk

variable {g : Graph} {d : Desk}

theorem Reached.stays_within (reached : Reached g d) :
    (∀ s ∈ d.store.sessions, s.WaitsWithin g) ∧ ∀ e ∈ d.store.journal, e.TellsWithin g := by
  let keeps (v w : Visit) : Prop := v.session.WaitsWithin g →
    w.session.WaitsWithin g ∧ ∀ e ∈ w.journal, e.TellsWithin g
  have develops : Store.Develops keeps empty.store d.store := by
    refine reached.develops .empty (fun s v worked within => ?_) ?_
    · exact ⟨worked.holds (fun op s people _ => people.waitsWithin) within, worked.tellsWithin⟩
    · intro here d l outcome t graph ready ends within
      subst graph
      exact ready.stays_within ends within
  obtain ⟨sessions, told, journal, within⟩ := develops.keeps (fun _ _ _ _ waits => by cases waits)
    (fun _ _ _ told => by cases told) (fun _ _ kept => kept) fun s member => by cases member
  exact ⟨sessions, journal ▸ within⟩

/-- A node that the report finds unentered is never executed, and no session waits there or has stalled
there; and a run that comes to a jump into nowhere ends there, stalled. -/
theorem Reached.warnings_hold (reached : Reached g d) :
    (∀ unentered ∈ g.unentered,
      (∀ s ∈ d.store.sessions, s.pending ≠ some unentered) ∧
      (∀ e ∈ d.store.journal, e.place? ≠ some unentered) ∧
      ∀ (here : Surroundings) (happening : Happening) (l : Launch), here.graph = g →
        happening.Fits d → happening.launch? here d = some l →
          ∃ outcome t, l.Makes here d happening outcome t ∧ outcome.place? ≠ some unentered ∧
            ∀ h ∈ l.impulse.trail here l.begins, h.node.id ≠ unentered) ∧
    ∀ missing ∈ g.missingTargets, ∀ (here : Surroundings) (happening : Happening) (l : Launch),
      here.graph = g → happening.Fits d → happening.launch? here d = some l →
        ∀ h ∈ l.impulse.trail here l.begins, h.node.kind = .goto missing →
          ∃ t, l.Makes here d happening (.stalled h.node.id) t ∧
            t.visit.session.status = .bot ∧ t.visit.session.pending = none ∧
            (happening.perform here d).store.journal.getLast? =
              some (.flowStalled l.session.id h.node.id) := by
  obtain ⟨sessions, journal⟩ := reached.stays_within
  constructor
  · intro unentered listed
    have out := Graph.not_entered_of_unentered listed
    refine ⟨fun s known waits => out (sessions s known _ waits),
      fun e told place => out (journal e told _ place), fun here happening l graph fits launch => ?_⟩
    subst graph
    have ready := Happening.launch_ready reached.inOrder fits launch
    obtain ⟨outcome, t, makes⟩ := Happening.makes reached.inOrder fits launch
    have within : l.session.WaitsWithin here.graph := by
      obtain same | ⟨fresh, customer, now, -, new⟩ := ready.store
      · exact sessions _ (same ▸ ready.known)
      · obtain old | this := List.mem_append.1 (new ▸ ready.known)
        · exact sessions _ old
        · rw [List.mem_singleton.1 this]
          exact fun _ waits => by cases waits
    refine ⟨outcome, t, makes, fun left => ?_, fun h met same => ?_⟩
    · exact out (Impulse.program_place ready.fits ready.comes within makes.run left)
    · exact out (same ▸ Impulse.entered_of_mem_trail ready.comes met)
  · intro missing listed here happening l graph fits launch h met kind
    subst graph
    have ready := Happening.launch_ready reached.inOrder fits launch
    obtain ⟨outcome, t, makes⟩ := Happening.makes reached.inOrder fits launch
    have nowhere : ¬ (here.graph.node? missing).isSome := (Graph.mem_missingTargets_iff.1 listed).2
    have halts : Walk.perform here h.node.id h.node.kind h.before =
        .ok (.halt (.stalled h.node.id)) h.before := by
      rw [kind, Walk.perform, if_neg nowhere]
      rfl
    obtain ⟨o, s, round, rfl, -, -⟩ := Impulse.round_of_program ready.fits makes.run
    rw [Impulse.round_of_halt ready.fits met halts] at round
    cases round
    obtain ⟨told, event, journal, -, verdict⟩ := ready.journal_leaves makes.toEnds
    cases verdict
    refine ⟨t, makes, makes.rests.1, makes.rests.2.1, ?_⟩
    rw [makes.leaves, journal, ← List.append_assoc, List.getLast?_concat]

/-- Nobody comes to the attic, and Dora is sent to a bar that is not there. -/
theorem atReception_warned :
    ("attic" ∈ Graph.reception.unentered ∧ "bar" ∈ Graph.reception.missingTargets) ∧
    (∃ l, (answering "Ana").launch? .reception atReception = some l ∧
      ∀ h ∈ l.impulse.trail .reception l.begins, h.node.id ≠ "attic") ∧
    ∃ l t, (answering "Dora").launch? .reception atReception = some l ∧
      l.Makes .reception atReception (answering "Dora") (.stalled "lounge") t ∧
      t.visit.session.pending = none := by
  have graph : Surroundings.reception.graph = .reception := rfl
  have attic : "attic" ∈ Graph.reception.unentered := by decide
  have bar : "bar" ∈ Graph.reception.missingTargets := by decide
  have ana : (answering "Ana").Fits atReception := trivial
  have dora : (answering "Dora").Fits atReception := trivial
  have greets : ((answering "Ana").launch? .reception atReception).isSome := by decide +kernel
  have sends : ((answering "Dora").launch? .reception atReception).map (fun l =>
      (l.impulse.trail .reception l.begins).getLast?.map fun h => h.node) =
      some (some ⟨"lounge", .goto "bar"⟩) := by decide +kernel
  obtain ⟨unentered, missing⟩ := atReception_reached.warnings_hold
  refine ⟨⟨attic, bar⟩, ?_, ?_⟩
  · obtain ⟨l, launch⟩ := Option.isSome_iff_exists.1 greets
    obtain ⟨-, -, runs⟩ := unentered "attic" attic
    obtain ⟨outcome, t, -, -, spared⟩ := runs .reception _ l graph ana launch
    exact ⟨l, launch, spared⟩
  · obtain ⟨l, launch, last⟩ := Option.map_eq_some_iff.1 sends
    obtain ⟨h, last, node⟩ := Option.map_eq_some_iff.1 last
    obtain ⟨t, makes, -, idle, -⟩ := missing "bar" bar .reception _ l graph dora launch h
      (List.mem_of_getLast? last) (by rw [node])
    rw [node] at makes
    exact ⟨l, t, launch, makes, idle⟩

end Desk
end Switchboard
