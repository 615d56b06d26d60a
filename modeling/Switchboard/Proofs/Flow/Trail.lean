import Mathlib.Data.List.Chain
import Switchboard.Proofs.Flow.Budget
import Switchboard.Proofs.Flow.Frame

/-! The trail of a run: every handler that is set to work, with the run as it finds it. A run is set going
at a node or by a reply to a node that waits for one, and from there on its rounds make one trail, which
names the nodes that the run itself notes as executed. -/
namespace Switchboard

/-- A handler that is set to work, and the run as it finds it. -/
structure Handling where
  node : Node
  before : Run

def Handling.after (here : Surroundings) (h : Handling) : Run :=
  stateAfter (Walk.perform here h.node.id h.node.kind) h.before

def Handling.Hands (here : Surroundings) (h next : Handling) : Prop :=
  next.before = Walk.entering (h.after here) next.node.id

/-- The nodes that all rounds of a run may execute together. -/
def EngineSettings.most (e : EngineSettings) : Nat := e.budget * e.rounds

namespace Walk

/-- The handlers that a budget sets to work from a node on. -/
def trail (here : Surroundings) : Nat → String → Run → List Handling
  | 0, _, _ => []
  | budget + 1, id, r =>
    match here.graph.node? id with
    | none => []
    | some node =>
      ⟨node, entering r node.id⟩ ::
        match execute here node r with
        | .ok (.next next) t => trail here budget next t
        | _ => []

variable {here : Surroundings} {r t : Run} {node : String} {found : Node} {budget : Nat}
  {h : Handling} {outcome : Outcome}

theorem trail_of_known (known : here.graph.node? node = some found) :
    trail here (budget + 1) node r = ⟨found, entering r found.id⟩ ::
      match execute here found r with
      | .ok (.next next) t => trail here budget next t
      | _ => [] := by
  rw [trail, known]

theorem mem_trail_iff (known : here.graph.node? node = some found) :
    h ∈ trail here (budget + 1) node r ↔ h = ⟨found, entering r found.id⟩ ∨
      ∃ next t, execute here found r = .ok (.next next) t ∧ h ∈ trail here budget next t := by
  rw [trail_of_known known, List.mem_cons]
  cases execute here found r with
  | error failure t => simp
  | ok step t => cases step <;> simp

theorem node_of_mem_trail (member : h ∈ trail here budget node r) :
    here.graph.node? h.node.id = some h.node := by
  induction budget generalizing node r with
  | zero => contradiction
  | succ budget ih =>
    cases known : here.graph.node? node with
    | none => simp [trail, known] at member
    | some found =>
      obtain rfl | ⟨next, t, -, later⟩ := (mem_trail_iff known).1 member
      · rwa [(Graph.node?_eq_some known).2]
      · exact ih later

theorem entered_of_mem_trail (member : h ∈ trail here budget node r) :
    h.node.id = node ∨ ∃ source, here.graph.Leads source h.node.id := by
  induction budget generalizing node r with
  | zero => contradiction
  | succ budget ih =>
    cases known : here.graph.node? node with
    | none => simp [trail, known] at member
    | some found =>
      obtain rfl | ⟨next, t, run, later⟩ := (mem_trail_iff known).1 member
      · exact .inl (Graph.node?_eq_some known).2
      · obtain same | entered := ih later
        · exact .inr ⟨node, same ▸ (execute_next known run).1⟩
        · exact .inr entered

theorem steps_path (known : here.graph.HasNode node) :
    let noted (t : Run) := t.path = r.path ++ (trail here budget node r).map (·.node.id)
    Ends (steps here budget node) r (fun _ => noted) noted := by
  intro noted
  induction budget generalizing node r with
  | zero => exact Ends.pure_iff.2 (List.append_nil _).symm
  | succ budget ih =>
    obtain ⟨found, member⟩ := Option.isSome_iff_exists.1 known
    have name := (Graph.node?_eq_some member).2
    simp only [noted, trail_of_known member]
    rw [steps, member]
    dsimp only
    cases run : execute here found r with
    | error failure t =>
      refine (Ends.error_iff (bind_of_error run)).2 ?_
      simp [execute_error member run, name]
    | ok step t =>
      refine Ends.bind_iff.2 ((Ends.ok_iff run).2 ?_)
      cases step with
      | halt outcome =>
        refine Ends.pure_iff.2 ?_
        simp [(execute_halt member run).2.1, name]
      | next next =>
        obtain ⟨leads, path, -⟩ := execute_next member run
        refine (ih leads.hasNode).mono (fun _ u walked => ?_) fun u walked => ?_
        · rw [walked, path, List.append_assoc, List.map_cons, name]
          rfl
        · rw [walked, path, List.append_assoc, List.map_cons, name]
          rfl

theorem bot_of_mem_trail (bot : r.visit.session.status = .bot)
    (member : h ∈ trail here budget node r) : h.before.visit.session.status = .bot := by
  induction budget generalizing node r with
  | zero => contradiction
  | succ budget ih =>
    cases known : here.graph.node? node with
    | none => simp [trail, known] at member
    | some found =>
      obtain rfl | ⟨next, t, run, later⟩ := (mem_trail_iff known).1 member
      · exact bot
      · obtain ⟨-, -, fits⟩ := (Succeeds.ok_iff run).1 (execute_fits known bot)
        exact ih fits.1 later

theorem steps_of_halt (member : h ∈ trail here budget node r)
    (halts : perform here h.node.id h.node.kind h.before = .ok (.halt outcome) t) :
    steps here budget node r = .ok outcome t := by
  induction budget generalizing node r with
  | zero => contradiction
  | succ budget ih =>
    cases known : here.graph.node? node with
    | none => simp [trail, known] at member
    | some found =>
      rw [steps, known]
      obtain rfl | ⟨next, s, run, later⟩ := (mem_trail_iff known).1 member
      · exact bind_of_ok halts
      · exact (bind_of_ok run).trans (ih later)

theorem steps_last (known : here.graph.HasNode node) (run : steps here budget node r = .ok outcome t) :
    (∃ last, outcome = .continuedTo last ∧ here.graph.HasNode last) ∨
      ∃ h ∈ (trail here budget node r).getLast?,
        perform here h.node.id h.node.kind h.before = .ok (.halt outcome) t := by
  induction budget generalizing node r with
  | zero =>
    cases run
    exact .inl ⟨node, rfl, known⟩
  | succ budget ih =>
    obtain ⟨found, member⟩ := Option.isSome_iff_exists.1 known
    rw [steps, member] at run
    obtain ⟨step, s, first, rest⟩ := bind_eq_ok_iff.1 run
    rw [trail_of_known member, first, List.getLast?_cons]
    cases step with
    | halt halted =>
      cases rest
      exact .inr ⟨_, rfl, first⟩
    | next next =>
      obtain spent | ⟨h, last, halts⟩ := ih (execute_next member first).1.hasNode rest
      · exact .inl spent
      · refine .inr ⟨h, ?_, halts⟩
        rw [Option.mem_def.1 last]
        rfl

theorem steps_ends (known : here.graph.HasNode node) (bot : r.visit.session.status = .bot)
    (run : steps here budget node r = .ok outcome t) :
    t.visit.session.status = .bot ∨ ∃ h ∈ trail here budget node r,
      perform here h.node.id h.node.kind h.before = .ok (.halt outcome) t := by
  obtain ⟨last, rfl, -⟩ | ⟨h, last, halts⟩ := steps_last known run
  · obtain ⟨-, -, fits⟩ := (Succeeds.ok_iff run).1 (steps_fits known bot)
    exact .inl fits.1
  · exact .inr ⟨h, List.mem_of_getLast? last, halts⟩

theorem before_of_mem_head (first : h ∈ (trail here budget node r).head?) :
    h.before = entering r h.node.id := by
  cases budget with
  | zero => contradiction
  | succ budget =>
    cases known : here.graph.node? node with
    | none => simp [trail, known] at first
    | some found =>
      rw [trail_of_known known] at first
      cases first
      rfl

/-- Between two handlers nothing happens to the run, whichever round they are in. -/
theorem trail_hands : (trail here budget node r).IsChain (Handling.Hands here) := by
  induction budget generalizing node r with
  | zero => exact .nil
  | succ budget ih =>
    cases known : here.graph.node? node with
    | none =>
      rw [trail, known]
      exact .nil
    | some found =>
      rw [trail_of_known known]
      split
      · rename_i next t run
        have after : Handling.after here ⟨found, entering r found.id⟩ = t := stateAfter_of_ok run
        refine List.isChain_cons.2 ⟨fun h first => ?_, ih⟩
        rw [Handling.Hands, after]
        exact before_of_mem_head first
      · exact .singleton _

theorem steps_leaves (run : steps here budget node r = .ok outcome t) :
    t = ((trail here budget node r).getLast?.map (Handling.after here)).getD r := by
  induction budget generalizing node r with
  | zero =>
    cases run
    rfl
  | succ budget ih =>
    cases known : here.graph.node? node with
    | none =>
      rw [steps, known] at run
      cases run
      rw [trail, known]
      rfl
    | some found =>
      rw [steps, known] at run
      obtain ⟨step, s, first, rest⟩ := bind_eq_ok_iff.1 run
      have after : Handling.after here ⟨found, entering r found.id⟩ = s := stateAfter_of_ok first
      rw [trail_of_known known, first, List.getLast?_cons]
      cases step with
      | halt halted =>
        cases rest
        exact after.symm
      | next next =>
        rw [ih rest, Option.map_some, Option.getD_some, ← after]
        exact Option.getD_map ..

theorem kept_along_trail {R : Run → Run → Prop} [Std.Refl R] [Trans R R R] (kept : KeptByAll here R)
    (member : h ∈ trail here budget node r) : R r h.before ∧ R r (h.after here) := by
  induction budget generalizing node r with
  | zero => contradiction
  | succ budget ih =>
    cases known : here.graph.node? node with
    | none => simp [trail, known] at member
    | some found =>
      obtain rfl | ⟨next, t, run, later⟩ := (mem_trail_iff known).1 member
      · have left : R r (stateAfter (execute here found) r) := (kept.holds.execute found r).stateAfter
        exact ⟨kept.moves r _, left⟩
      · have first : R r t := (kept.holds.execute found r).ok _ t run
        obtain ⟨before, after⟩ := ih later
        exact ⟨Trans.trans first before, Trans.trans first after⟩

end Walk

/-- What sets the flow going: it enters a node, or a reply comes to a node. -/
inductive Impulse
  | enter (node : String)
  | answer (node : Node) (reply : Reply)

namespace Impulse

def program (here : Surroundings) : Impulse → Walk Outcome
  | enter node => Walk.runFrom here node
  | answer node reply => Walk.resumeFrom here node.id reply

/-- Where the flow goes on, before any handler is set to work. -/
def setOff (here : Surroundings) : Impulse → Walk Step
  | enter node => pure (.next node)
  | answer node reply => Walk.answered here node reply

def trail (here : Surroundings) (impulse : Impulse) (r : Run) : List Handling :=
  match impulse.setOff here r with
  | .ok (.next node) s => Walk.trail here here.engine.most node s
  | _ => []

def handlers (here : Surroundings) (budget : Nat) (impulse : Impulse) (r : Run) : List Handling :=
  match impulse.setOff here r with
  | .ok (.next node) s => Walk.trail here budget node s
  | _ => []

def Fits (g : Graph) : Impulse → Prop
  | enter node => g.HasNode node
  | answer node _ => g.node? node.id = some node ∧ node.kind.awaitsReply

/-- A run enters a node to which flows may come, or a reply comes where the session waits. -/
def ComesTo (g : Graph) (s : Session) : Impulse → Prop
  | enter node => g.Entered node
  | answer node _ => s.pending = some node.id

variable {here : Surroundings} {impulse : Impulse} {r s t : Run} {outcome : Outcome} {node : String}
  {h : Handling} {budget : Nat} {failure : Failure}

theorem program_eq (fits : impulse.Fits here.graph) : impulse.program here =
    Walk.recorded (impulse.setOff here >>= Walk.goOn here here.engine.most) := by
  cases impulse with
  | enter node =>
    unfold setOff
    rw [pure_bind]
    exact Walk.runFrom_eq node
  | answer node reply =>
    change Walk.resumeFrom here node.id reply = _
    rw [Walk.resumeFrom_eq, Walk.resume_of_known fits.1]
    rfl

theorem mem_trail_iff : h ∈ impulse.trail here r ↔
    ∃ node s, impulse.setOff here r = .ok (.next node) s ∧
      h ∈ Walk.trail here here.engine.most node s := by
  unfold trail
  cases impulse.setOff here r with
  | error failure t => simp
  | ok step t => cases step <;> simp

theorem handlers_of_next (set : impulse.setOff here r = .ok (.next node) s) :
    impulse.handlers here budget r = Walk.trail here budget node s := by
  rw [handlers, set]

theorem handlers_of_halt (set : impulse.setOff here r = .ok (.halt outcome) s) :
    impulse.handlers here budget r = [] := by
  rw [handlers, set]

theorem handlers_of_error (set : impulse.setOff here r = .error failure s) :
    impulse.handlers here budget r = [] := by
  rw [handlers, set]

theorem node_of_mem_handlers (member : h ∈ impulse.handlers here budget r) :
    here.graph.node? h.node.id = some h.node := by
  unfold handlers at member
  split at member
  · exact Walk.node_of_mem_trail member
  · contradiction

theorem setOff_talks (impulse : Impulse) : Walk.Talks (impulse.setOff here) := by
  cases impulse with
  | enter entered => exact .pure _
  | answer waiting reply => exact Walk.answered_talks waiting reply

theorem setOff_next (fits : impulse.Fits here.graph)
    (run : impulse.setOff here r = .ok (.next node) s) : here.graph.HasNode node := by
  cases impulse with
  | enter entered =>
    cases run
    exact fits
  | answer waiting reply =>
    have goes := ((Ends.ok_iff run).1 (Walk.answered_goes waiting reply r)).2
    exact Graph.Leads.hasNode goes

/-- What comes of a run: a single round with the budget of all of them, put on record. -/
theorem round_of_program (fits : impulse.Fits here.graph)
    (run : impulse.program here r = .ok outcome t) :
    ∃ o s, (impulse.setOff here >>= Walk.goOn here here.engine.most) r = .ok o s ∧
      outcome = o.settled ∧ Walk.conclude outcome s = .ok () t ∧ s.Recorded t := by
  rw [program_eq fits] at run
  obtain ⟨o, s, round, rest⟩ := bind_eq_ok_iff.1 run
  obtain ⟨_, u, concluded, last⟩ := bind_eq_ok_iff.1 rest
  cases last
  refine ⟨o, s, round, rfl, concluded, ?_⟩
  obtain ⟨u, recorded, record⟩ | ⟨-, refused⟩ := Walk.recorded_or_refused round
  · cases run.symm.trans recorded
    exact record
  · rw [run] at refused
    contradiction

theorem round_path (fits : impulse.Fits here.graph) :
    let noted (t : Run) := t.path = r.path ++ (impulse.handlers here budget r).map (·.node.id)
    Ends (impulse.setOff here >>= Walk.goOn here budget) r (fun _ => noted) noted := by
  intro noted
  have talks : Ends (impulse.setOff here) r _ _ := setOff_talks impulse r
  cases set : impulse.setOff here r with
  | error failure s =>
    refine (Ends.error_iff (bind_of_error set)).2 ?_
    have same := (Ends.error_iff set).1 talks
    simp [noted, handlers_of_error set, same.path]
  | ok step s =>
    refine Ends.bind_iff.2 ((Ends.ok_iff set).2 ?_)
    have same := (Ends.ok_iff set).1 talks
    cases step with
    | halt halted => exact Ends.pure_iff.2 (by simp [noted, handlers_of_halt set, same.path])
    | next node =>
      have known := setOff_next fits set
      rw [Walk.goOn, Walk.advance_of_known known]
      simp only [noted, handlers_of_next set, ← same.path]
      exact Walk.steps_path known

theorem path_of_program (fits : impulse.Fits here.graph)
    (run : impulse.program here r = .ok outcome t) :
    t.path = r.path ++ (impulse.trail here r).map (·.node.id) := by
  obtain ⟨o, s, round, -, -, record⟩ := round_of_program fits run
  rw [record.path]
  exact (round_path fits).ok o s round

theorem bot_of_mem_trail (bot : r.visit.session.status = .bot)
    (member : h ∈ impulse.trail here r) : h.before.visit.session.status = .bot := by
  obtain ⟨node, s, set, there⟩ := mem_trail_iff.1 member
  have same : r.Same s := (setOff_talks impulse r).ok _ s set
  exact Walk.bot_of_mem_trail (same.status.trans bot) there

theorem round_of_halt (fits : impulse.Fits here.graph) (member : h ∈ impulse.trail here r)
    (halts : Walk.perform here h.node.id h.node.kind h.before = .ok (.halt outcome) t) :
    (impulse.setOff here >>= Walk.goOn here here.engine.most) r = .ok outcome t := by
  obtain ⟨node, s, set, there⟩ := mem_trail_iff.1 member
  rw [bind_of_ok set, Walk.goOn, Walk.advance_of_known (setOff_next fits set)]
  exact Walk.steps_of_halt there halts

theorem round_ends (fits : impulse.Fits here.graph) (bot : r.visit.session.status = .bot)
    (round : (impulse.setOff here >>= Walk.goOn here here.engine.most) r = .ok outcome t) :
    t.visit.session.status = .bot ∨ ∃ h ∈ impulse.trail here r,
      Walk.perform here h.node.id h.node.kind h.before = .ok (.halt outcome) t := by
  obtain ⟨step, s, set, gone⟩ := bind_eq_ok_iff.1 round
  have same : r.Same s := (setOff_talks impulse r).ok step s set
  cases step with
  | halt halted =>
    cases gone
    exact .inl (same.status.trans bot)
  | next node =>
    have known := setOff_next fits set
    rw [Walk.goOn, Walk.advance_of_known known] at gone
    obtain still | ⟨h, there, halts⟩ := Walk.steps_ends known (same.status.trans bot) gone
    · exact .inl still
    · exact .inr ⟨h, mem_trail_iff.2 ⟨node, s, set, there⟩, halts⟩

theorem trail_hands : (impulse.trail here r).IsChain (Handling.Hands here) := by
  unfold trail
  split
  · exact Walk.trail_hands
  · exact .nil

theorem program_leaves (fits : impulse.Fits here.graph)
    (run : impulse.program here r = .ok outcome t) :
    ∀ h ∈ (impulse.trail here r).getLast?, (h.after here).Recorded t := by
  obtain ⟨o, s, round, -, -, record⟩ := round_of_program fits run
  obtain ⟨step, u, set, gone⟩ := bind_eq_ok_iff.1 round
  intro h last
  unfold trail at last
  rw [set] at last
  cases step with
  | halt halted => contradiction
  | next node =>
    rw [Walk.goOn, Walk.advance_of_known (setOff_next fits set)] at gone
    have left := Walk.steps_leaves gone
    have same : s = h.after here := by rw [left, last, Option.map_some, Option.getD_some]
    exact same ▸ record

variable {R : Run → Run → Prop} [Std.Refl R] [Trans R R R]

theorem setOff_kept (kept : Walk.KeptByAll here R) (impulse : Impulse) :
    Respects R (impulse.setOff here) := by
  cases impulse with
  | enter entered => exact .pure _
  | answer waiting reply => exact kept.holds.answered waiting reply

theorem round_kept (kept : Walk.KeptByAll here R) (impulse : Impulse) (budget : Nat) :
    Respects R (impulse.setOff here >>= Walk.goOn here budget) := by
  refine (setOff_kept kept impulse).bind fun step => ?_
  cases step with
  | next node => exact kept.advance budget node
  | halt halted => exact .pure _

theorem kept_along_trail (kept : Walk.KeptByAll here R) (member : h ∈ impulse.trail here r) :
    R r h.before ∧ R r (h.after here) := by
  obtain ⟨node, s, set, there⟩ := mem_trail_iff.1 member
  have first : R r s := (setOff_kept kept impulse r).ok _ s set
  obtain ⟨before, after⟩ := Walk.kept_along_trail kept there
  exact ⟨Trans.trans first before, Trans.trans first after⟩

end Impulse
end Switchboard
