import Switchboard.Proofs.Flow.Trail

/-! Where a round comes and where it leaves the flow. All nodes that it executes are nodes of the graph, so what is
to be done at a node that has vanished is never done. It stops the flow only as the last of these nodes may stop it,
and it fails only where the session refuses to be written to. -/
namespace Switchboard

def Outcome.nodes : Outcome → List String
  | .continuedTo node | .paused node | .stalled node => [node]
  | .delayed node next _ => [node, next]
  | .queued _ | .terminated => []

/-- How a node of this kind may stop the flow: it pauses it only for a reply, delays it only for as long as a delay
says and until the node that comes next, and stalls it at this very node. Only a queue hands the session over, and
only there or at an end there is nothing more to come. -/
def Kind.Stops (g : Graph) (node : String) (kind : Kind) : Outcome → Prop
  | .continuedTo _ => False
  | .paused at_ => at_ = node ∧ kind.awaitsReply
  | .delayed at_ next seconds => at_ = node ∧ kind = .delay seconds ∧ g.next node = some next
  | .stalled at_ => at_ = node
  | .queued name => kind = .queue name
  | .terminated => (∃ name, kind = .queue name) ∨ (∃ text, kind = .ending text) ∨ ∃ text, kind = .closing text

def Step.Befits (g : Graph) (node : String) (kind : Kind) : Step → Prop
  | .next _ => kind.suspends = false
  | .halt outcome => kind.Stops g node outcome

namespace Walk

variable {α β : Type} {here : Surroundings}

/-- Whatever the work finds, it returns only such. -/
def Yields (P : α → Prop) (work : Walk α) : Prop := ∀ r a t, work r = .ok a t → P a

theorem Yields.pure {P : α → Prop} {a : α} (holds : P a) : Yields P (Pure.pure a : Walk α) := by
  intro r b t run
  cases run
  exact holds

theorem Yields.bind {P : β → Prop} {work : Walk α} {next : α → Walk β}
    (last : ∀ a, Yields P (next a)) : Yields P (work >>= next) := by
  intro r b t run
  obtain ⟨a, s, -, rest⟩ := bind_eq_ok_iff.1 run
  exact last a s b t rest

/-! What a handler may decide. -/

section Stops

variable {node : String} {kind : Kind}

theorem follow_befits (passing : kind.suspends = false) : (follow here node).Befits here.graph node kind := by
  unfold follow
  split
  · exact passing
  · rfl

theorem takeBranch_befits {handle : String} (passing : kind.suspends = false) :
    (takeBranch here node handle).Befits here.graph node kind := by
  unfold takeBranch
  split
  · exact passing
  · rfl

theorem branchOnRules_befits {rules : List Rule} {bag : Variables} :
    (branchOnRules here node rules bag).Befits here.graph node (.condition rules) := by
  unfold branchOnRules
  dsimp only
  split
  · rfl
  · exact takeBranch_befits rfl

theorem perform_befits (node : String) (kind : Kind) :
    Yields (Step.Befits here.graph node kind) (perform here node kind) := by
  cases kind with
  | start text =>
    unfold perform
    dsimp only
    split
    · exact .bind fun _ => .pure (follow_befits rfl)
    · exact .pure (follow_befits rfl)
  | message text => exact .bind fun _ => .pure (follow_befits rfl)
  | input text key => exact .bind fun _ => .pure ⟨rfl, rfl⟩
  | setValue key value => exact .bind fun _ => .bind fun _ => .pure (follow_befits rfl)
  | condition rules => exact .bind fun _ => .pure branchOnRules_befits
  | anchor name => exact .pure (follow_befits rfl)
  | goto target =>
    refine .pure ?_
    split
    · rfl
    · rfl
  | request url mappings => exact .bind fun _ => .pure (follow_befits rfl)
  | script source => exact .bind fun _ => .pure (follow_befits rfl)
  | delay seconds =>
    refine .pure ?_
    split
    · rename_i next leads
      exact ⟨rfl, rfl, leads⟩
    · rfl
  | schedule id => exact .bind fun _ => .pure (takeBranch_befits rfl)
  | template id =>
    refine .bind fun template => ?_
    split
    · exact .bind fun _ => .bind fun _ => .pure ⟨rfl, rfl⟩
    · exact .pure rfl
  | queue name =>
    refine .bind fun _ => .bind fun served => ?_
    split
    · exact .bind fun _ => .bind fun _ => .pure rfl
    · exact .bind fun _ => .pure (.inl ⟨name, rfl⟩)
  | ending text => exact .bind fun _ => .pure (.inr (.inl ⟨text, rfl⟩))
  | closing text => exact .bind fun _ => .bind fun _ => .bind fun _ => .pure (.inr (.inr ⟨text, rfl⟩))

end Stops

/-! What a handler may fail of. -/

/-- Whatever the work finds, it fails only where the session refuses to be written to. -/
def Refusable (work : Walk α) : Prop :=
  ∀ r failure t, work r = .error failure t → ∃ refusal, failure = .notAllowed refusal

namespace Refusable

theorem returning {work : Walk α} (returns : ∀ r, ∃ a t, work r = .ok a t) : Refusable work := by
  intro r failure t run
  obtain ⟨a, u, done⟩ := returns r
  cases done.symm.trans run

theorem act (work : Visit.Act α) : Refusable (act work) := by
  intro r failure t run
  unfold Walk.act at run
  split at run
  · contradiction
  · cases run
    exact ⟨_, rfl⟩

theorem bind {work : Walk α} {next : α → Walk β} (first : Refusable work) (second : ∀ a, Refusable (next a)) :
    Refusable (work >>= next) := by
  intro r failure t run
  cases done : work r with
  | ok a s =>
    rw [bind_of_ok done] at run
    exact second a s failure t run
  | error _ s =>
    rw [bind_of_error done] at run
    cases run
    exact first r _ _ done

theorem holds (here : Surroundings) : HoldsOfAll here fun _ => Refusable where
  pure _ := returning fun _ => ⟨_, _, rfl⟩
  bind := bind
  get := returning fun _ => ⟨_, _, rfl⟩
  ask _ := returning fun _ => ⟨_, _, rfl⟩
  requests _ := returning fun _ => ⟨_, _, rfl⟩
  posts _ _ _ := act _
  patches _ := (returning fun _ => ⟨_, _, rfl⟩).bind fun _ => (act _).bind fun _ => returning fun _ => ⟨_, _, rfl⟩
  moves _ := returning fun _ => ⟨_, _, rfl⟩
  transfers _ _ := act _
  closes _ _ := act _

end Refusable

/-! Where a round comes. -/

/-- The walk, with something else to be done where it comes to a node that has vanished. -/
def stepsOr (here : Surroundings) (vanished : String → Walk Outcome) : Nat → String → Walk Outcome
  | 0, node => pure (.continuedTo node)
  | budget + 1, id =>
    match here.graph.node? id with
    | none => vanished id
    | some node => do
      match ← execute here node with
      | .next next => stepsOr here vanished budget next
      | .halt outcome => pure outcome

def goOnOr (here : Surroundings) (vanished : String → Walk Outcome) (budget : Nat) : Step → Walk Outcome
  | .next node => stepsOr here vanished budget node
  | .halt outcome => pure outcome

variable {r t : Run} {node : String} {budget : Nat} {outcome : Outcome} {h : Handling}
  {vanished : String → Walk Outcome}

theorem steps_eq_stepsOr : steps here budget node = stepsOr here (fun id => pure (.stalled id)) budget node := by
  induction budget generalizing node with
  | zero => rfl
  | succ budget ih =>
    rw [steps, stepsOr]
    cases here.graph.node? node with
    | none => rfl
    | some found =>
      dsimp only
      congr 1
      funext step
      cases step with
      | next next => exact ih
      | halt outcome => rfl

theorem stepsOr_eq (known : here.graph.HasNode node) : stepsOr here vanished budget node = steps here budget node := by
  rw [steps_eq_stepsOr]
  induction budget generalizing node with
  | zero => rfl
  | succ budget ih =>
    obtain ⟨found, member⟩ := Option.isSome_iff_exists.1 known
    rw [stepsOr, stepsOr, member]
    funext r
    refine bind_congr_of_ok fun step t run => ?_
    cases step with
    | next next => exact congrFun (ih (execute_next member run).1.hasNode) t
    | halt outcome => rfl

theorem stops_of_halt (known : here.graph.node? h.node.id = some h.node)
    (halts : perform here h.node.id h.node.kind h.before = .ok (.halt outcome) t) :
    h.node.kind.Stops here.graph h.node.id outcome ∧
      ∀ at_, outcome = .stalled at_ → DeadEnd here h.before h.node := by
  refine ⟨perform_befits _ _ _ _ _ halts, ?_⟩
  rintro at_ rfl
  exact ((Ends.ok_iff halts).1 (perform_decides (Graph.node?_eq_some known).1)).goes.2

end Walk

namespace Impulse

/-- What one round may come to: its budget is spent at a node, or its last handler has stopped the flow, or the reply
that came to a node was not taken there or had no exit to follow. -/
inductive Comes (here : Surroundings) (budget : Nat) (impulse : Impulse) (r : Run) : Outcome → Prop
  | spent {last : String} : here.graph.HasNode last → Comes here budget impulse r (.continuedTo last)
  | halted {h : Handling} {outcome : Outcome} : h ∈ (impulse.handlers here budget r).getLast? →
    here.graph.node? h.node.id = some h.node → h.node.kind.Stops here.graph h.node.id outcome →
    (∀ at_, outcome = .stalled at_ → Walk.DeadEnd here h.before h.node) → Comes here budget impulse r outcome
  | unmoved {node : Node} {reply : Reply} {outcome : Outcome} : impulse = .answer node reply →
    impulse.handlers here budget r = [] → Walk.Answers here r node reply (.halt outcome) →
    Comes here budget impulse r outcome

/-- The work is a round that is set going like this, and it keeps to the graph. What is to be done at a node that has
vanished does not matter to it. The nodes that it executes, which are those that it notes, are nodes of the graph, and
so are those that its outcome names. It pauses the flow only at a node that awaits a reply, delays it only at a delay,
until the node that comes next, and stalls it only where the last handler has no exit to follow, or the reply has
none. It fails only where the session refuses to be written to, which one that the flow has in hand never does. -/
structure KeepsTo (here : Surroundings) (budget : Nat) (impulse : Impulse) (work : Walk Outcome) (r : Run) :
    Prop where
  stays : ∀ vanished, (impulse.setOff here >>= Walk.goOnOr here vanished budget) r = work r
  known : ∀ h ∈ impulse.handlers here budget r, here.graph.node? h.node.id = some h.node
  path : let noted (t : Run) := t.path = r.path ++ (impulse.handlers here budget r).map (·.node.id)
    Ends work r (fun _ => noted) noted
  named : ∀ outcome t, work r = .ok outcome t → ∀ id ∈ outcome.nodes, here.graph.HasNode id
  paused : ∀ at_ t, work r = .ok (.paused at_) t →
    ∃ node, here.graph.node? at_ = some node ∧ node.kind.awaitsReply
  delayed : ∀ at_ next seconds t, work r = .ok (.delayed at_ next seconds) t →
    here.graph.node? at_ = some ⟨at_, .delay seconds⟩ ∧ here.graph.next at_ = some next
  stalled : ∀ at_ t, work r = .ok (.stalled at_) t →
    (∃ h ∈ (impulse.handlers here budget r).getLast?, h.node.id = at_ ∧ Walk.DeadEnd here h.before h.node) ∨
      impulse.handlers here budget r = [] ∧
        ∃ node reply, impulse = .answer node reply ∧ node.id = at_ ∧ Walk.DeadReply here r node reply
  refused : ∀ failure t, work r = .error failure t → ∃ refusal, failure = .notAllowed refusal
  returns : r.visit.session.status = .bot → ∃ outcome t, work r = .ok outcome t

variable {here : Surroundings} {impulse : Impulse} {r t : Run} {budget : Nat} {outcome : Outcome}
  {vanished : String → Walk Outcome}

namespace Comes

theorem named (fits : impulse.Fits here.graph) (comes : impulse.Comes here budget r outcome) :
    ∀ id ∈ outcome.nodes, here.graph.HasNode id := by
  cases comes with
  | spent there => simpa [Outcome.nodes] using there
  | @halted h _ last known stops dead =>
    have there := Graph.hasNode_of_node? known
    cases outcome with
    | continuedTo at_ => exact stops.elim
    | delayed at_ next seconds =>
      obtain ⟨rfl, -, leads⟩ := stops
      simpa [Outcome.nodes] using ⟨there, Graph.hasNode_next leads⟩
    | paused at_ =>
      obtain ⟨rfl, -⟩ := stops
      simpa [Outcome.nodes] using there
    | stalled at_ =>
      cases stops
      simpa [Outcome.nodes] using there
    | queued queue | terminated => simp [Outcome.nodes]
  | @unmoved waiting reply _ same idle answers =>
    subst same
    have there := Graph.hasNode_of_node? fits.1
    cases outcome with
    | paused at_ =>
      cases answers
      simpa [Outcome.nodes] using there
    | stalled at_ =>
      obtain ⟨rfl, -⟩ := answers
      simpa [Outcome.nodes] using there
    | _ => exact answers.elim

theorem paused {at_ : String} (fits : impulse.Fits here.graph) (comes : impulse.Comes here budget r (.paused at_)) :
    ∃ node, here.graph.node? at_ = some node ∧ node.kind.awaitsReply := by
  cases comes with
  | @halted h _ last known stops dead =>
    obtain ⟨rfl, awaits⟩ := stops
    exact ⟨h.node, known, awaits⟩
  | @unmoved waiting reply _ same idle answers =>
    subst same
    cases answers
    exact ⟨waiting, fits⟩

theorem delayed {at_ next : String} {seconds : Nat} (comes : impulse.Comes here budget r (.delayed at_ next seconds)) :
    here.graph.node? at_ = some ⟨at_, .delay seconds⟩ ∧ here.graph.next at_ = some next := by
  cases comes with
  | @halted h _ last known stops dead =>
    obtain ⟨rfl, kind, leads⟩ := stops
    exact ⟨by rw [known, ← kind], leads⟩
  | unmoved same idle answers => exact answers.elim

theorem stalled {at_ : String} (comes : impulse.Comes here budget r (.stalled at_)) :
    (∃ h ∈ (impulse.handlers here budget r).getLast?, h.node.id = at_ ∧ Walk.DeadEnd here h.before h.node) ∨
      impulse.handlers here budget r = [] ∧
        ∃ node reply, impulse = .answer node reply ∧ node.id = at_ ∧ Walk.DeadReply here r node reply := by
  cases comes with
  | @halted h _ last known stops dead => exact .inl ⟨h, last, stops.symm, dead at_ rfl⟩
  | unmoved same idle answers => exact .inr ⟨idle, _, _, same, answers.1.symm, answers.2⟩

end Comes

/-! A round as it is set going and goes on. -/

theorem setOff_returns (impulse : Impulse) (bot : r.visit.session.status = .bot) :
    ∃ step t, impulse.setOff here r = .ok step t := by
  have set : Succeeds (impulse.setOff here) r fun _ _ => True := by
    cases impulse with
    | enter node => exact Succeeds.pure_iff.2 trivial
    | answer node reply =>
      unfold setOff Walk.answered
      dsimp only
      split
      · exact (Walk.patch_continues bot).seq fun _ _ _ => Succeeds.pure_iff.2 trivial
      · exact Succeeds.bind_iff.2 (Walk.ask_iff.2 (Succeeds.pure_iff.2 trivial))
      · exact Succeeds.pure_iff.2 trivial
  obtain ⟨step, t, run, -⟩ := set
  exact ⟨step, t, run⟩

section Rounds

variable (fits : impulse.Fits here.graph)

include fits

theorem round_stays :
    (impulse.setOff here >>= Walk.goOnOr here vanished budget) r = (impulse.setOff here >>= Walk.goOn here budget) r := by
  refine bind_congr_of_ok fun step s set => ?_
  cases step with
  | next node =>
    have known := setOff_next fits set
    rw [Walk.goOnOr, Walk.goOn, Walk.advance_of_known known, Walk.stepsOr_eq known]
  | halt halted => rfl

theorem round_comes (run : (impulse.setOff here >>= Walk.goOn here budget) r = .ok outcome t) :
    impulse.Comes here budget r outcome := by
  obtain ⟨step, s, set, gone⟩ := bind_eq_ok_iff.1 run
  cases step with
  | next node =>
    have known := setOff_next fits set
    rw [Walk.goOn, Walk.advance_of_known known] at gone
    obtain ⟨last, rfl, there⟩ | ⟨h, last, halts⟩ := Walk.steps_last known gone
    · exact .spent there
    · rw [← handlers_of_next set] at last
      have its := node_of_mem_handlers (List.mem_of_getLast? last)
      obtain ⟨stops, dead⟩ := Walk.stops_of_halt its halts
      exact .halted last its stops dead
  | halt halted =>
    cases gone
    cases impulse with
    | enter node => cases set
    | answer node reply =>
      exact .unmoved rfl (handlers_of_halt set) ((Ends.ok_iff set).1 (Walk.answered_goes node reply r)).2

theorem round_refusable : Walk.Refusable (impulse.setOff here >>= Walk.goOn here budget) := by
  have goesOn (step : Step) : Walk.Refusable (Walk.goOnOr here (fun id => pure (.stalled id)) budget step) := by
    cases step with
    | next node =>
      rw [Walk.goOnOr, ← Walk.steps_eq_stepsOr]
      exact (Walk.Refusable.holds here).steps budget node
    | halt halted => exact (Walk.Refusable.holds here).pure _
  have setsOff : Walk.Refusable (impulse.setOff here) := by
    cases impulse with
    | enter node => exact (Walk.Refusable.holds here).pure _
    | answer node reply => exact (Walk.Refusable.holds here).answered node reply
  intro r failure t run
  rw [← round_stays fits] at run
  exact setsOff.bind goesOn r failure t run

/-- A session that the flow has in hand refuses nothing on the way. -/
theorem round_returns (bot : r.visit.session.status = .bot) :
    ∃ outcome t, (impulse.setOff here >>= Walk.goOn here budget) r = .ok outcome t := by
  obtain ⟨step, s, set⟩ : ∃ step s, impulse.setOff here r = .ok step s := setOff_returns impulse bot
  have still : s.visit.session.status = .bot := ((Ends.ok_iff set).1 (setOff_talks impulse r)).status.trans bot
  rw [bind_of_ok set]
  cases step with
  | next node =>
    have known := setOff_next fits set
    rw [Walk.goOn, Walk.advance_of_known known]
    obtain ⟨outcome, t, run, -⟩ : Succeeds (Walk.steps here budget node) s _ := Walk.steps_fits known still
    exact ⟨outcome, t, run⟩
  | halt halted => exact ⟨halted, s, rfl⟩

theorem round_keepsTo : impulse.KeepsTo here budget (impulse.setOff here >>= Walk.goOn here budget) r where
  stays _ := round_stays fits
  known _ := node_of_mem_handlers
  path := round_path fits
  named _ _ run := (round_comes fits run).named fits
  paused _ _ run := (round_comes fits run).paused fits
  delayed _ _ _ _ run := (round_comes fits run).delayed
  stalled _ _ run := (round_comes fits run).stalled
  refused := round_refusable fits r
  returns := round_returns fits

end Rounds

end Impulse

/-- Every round keeps to the graph, from whichever node it starts and to whichever node that awaits one a reply comes,
whoever has the session in hand, whatever it holds and whatever the world answers. -/
theorem Walk.rounds_keep_to_graph (here : Surroundings) (budget : Nat) (r : Run) :
    (∀ node, here.graph.HasNode node → (Impulse.enter node).KeepsTo here budget (advance here budget node) r) ∧
    ∀ node reply, here.graph.node? node.id = some node → node.kind.awaitsReply →
      (Impulse.answer node reply).KeepsTo here budget (resume here budget node.id reply) r := by
  constructor
  · intro node known
    have fits : (Impulse.enter node).Fits here.graph := known
    exact Impulse.round_keepsTo fits
  · intro node reply known awaits
    rw [resume_of_known known]
    have fits : (Impulse.answer node reply).Fits here.graph := ⟨known, awaits⟩
    exact Impulse.round_keepsTo fits

end Switchboard
