import Switchboard.Proofs.Chat.Account
import Switchboard.Proofs.Flow.Frame
import Switchboard.Proofs.Flow.Soundness

/-! Where a flow can go. Whatever a session holds and the world answers, one node is executed at a time,
and from it a walk either moves along an edge or by a jump, or halts; it stalls only where the node has no
exit to follow. Nothing here asks who is in charge of the session, so it also says what a walk that
fails has done before. -/
namespace Switchboard

namespace Graph

/-- A flow may go from one node to the other: along an edge, or by a jump to a node that exists. -/
def Leads (g : Graph) (source target : String) : Prop :=
  (∃ edge ∈ g.edges, edge.source = source ∧ edge.target = target) ∨
    ∃ node ∈ g.nodes, node.id = source ∧ node.kind = .goto target ∧ g.HasNode target

/-- A flow may come here: it is the start, or something leads here. -/
def Entered (g : Graph) (id : String) : Prop := id = g.start ∨ ∃ source, g.Leads source id

def Lacks (g : Graph) (source handle : String) : Prop :=
  ∀ edge ∈ g.edges, edge.source = source → edge.handle ≠ some handle

variable {g : Graph} {source target handle : String}

theorem Leads.hasNode (leads : g.Leads source target) : g.HasNode target := by
  obtain ⟨edge, member, -, rfl⟩ | ⟨-, -, -, -, known⟩ := leads
  · exact hasNode_target member
  · exact known

theorem leads_of_outgoing {edge : Edge} (leaves : edge ∈ g.outgoing source) :
    g.Leads source edge.target := by
  simp only [outgoing, List.mem_filter, beq_iff_eq] at leaves
  exact .inl ⟨edge, leaves.1, leaves.2, rfl⟩

theorem leads_of_next (next : g.next source = some target) : g.Leads source target := by
  obtain ⟨edge, chosen, rfl⟩ := Option.map_eq_some_iff.1 next
  rcases Option.or_eq_some_iff.1 chosen with found | ⟨-, first⟩
  · exact leads_of_outgoing (List.mem_of_find?_eq_some found)
  · exact leads_of_outgoing (List.mem_of_mem_head? first)

theorem leads_of_branch (branch : g.branch source handle = some target) :
    g.Leads source target := by
  obtain ⟨edge, found, rfl⟩ := Option.map_eq_some_iff.1 branch
  exact leads_of_outgoing (List.mem_of_find?_eq_some found)

theorem next_eq_none_iff : g.next source = none ↔ ∀ edge ∈ g.edges, edge.source ≠ source := by
  have empty : g.outgoing source = [] ↔ ∀ edge ∈ g.edges, edge.source ≠ source := by
    simp [outgoing]
  rw [← empty, next, Option.map_eq_none_iff, Option.or_eq_none_iff, List.head?_eq_none_iff]
  exact ⟨And.right, fun none_ => ⟨by rw [none_]; rfl, none_⟩⟩

theorem branch_eq_none_iff : g.branch source handle = none ↔ g.Lacks source handle := by
  simp [branch, outgoing, Lacks]

end Graph

structure Run.Same (r t : Run) : Prop where
  path : t.path = r.path
  status : t.visit.session.status = r.visit.session.status

theorem Run.Same.refl (r : Run) : r.Same r := ⟨rfl, rfl⟩

theorem Run.Same.trans {r t u : Run} (first : r.Same t) (second : t.Same u) : r.Same u :=
  ⟨second.path.trans first.path, second.status.trans first.status⟩

instance : Std.Refl Run.Same := ⟨Run.Same.refl⟩

instance : Trans Run.Same Run.Same Run.Same := ⟨Run.Same.trans⟩

namespace Walk

/-- Work that talks and asks, and neither moves nor hands the session over, be it done or refused. -/
def Talks (work : Walk α) : Prop := ∀ r, Ends work r (fun _ t => r.Same t) r.Same

theorem Talks.pure (a : α) : Talks (Pure.pure a : Walk α) := Respects.pure a

variable {here : Surroundings} {α : Type}

theorem keptByTalk_same (here : Surroundings) : KeptByTalk here Run.Same where
  asks _ _ := ⟨rfl, rfl⟩
  requests _ _ := ⟨rfl, rfl⟩
  posts _ _ _ := fun _ => act_ends_iff.2
    (.of_guarded (Visit.change_eq Session.append_eq) ⟨rfl, rfl⟩ ⟨rfl, rfl⟩)
  patches _ := fun _ => by
    rw [patch, Ends.bind_iff, ask_ends_iff, Ends.bind_iff, act_ends_iff]
    refine .of_guarded (Visit.change_eq Session.mergeVariables_eq) ⟨rfl, rfl⟩ ?_
    exact Ends.modify_iff.2 ⟨rfl, rfl⟩

theorem say_talks (text : String) : Talks (say here text) := (keptByTalk_same here).holds.say text

def scheduleHandle (here : Surroundings) (asked : Nat) (schedule : String) : String :=
  if (here.services.schedule? asked schedule).any fun group =>
      group.isOpen (localTime (here.services.now (asked + 1)) here.engine.utcOffsetHours)
  then insideHandle else outsideHandle

/-- The node has no exit to follow, as the variables and the world's answers are at this moment: no edge
leaves it, or none that its rules or its schedule pick, or its jump leads nowhere, or its template is
not there to be answered. -/
def DeadEnd (here : Surroundings) (r : Run) (node : Node) : Prop :=
  match node.kind with
  | .condition rules =>
    (∀ rule ∈ rules, rule.comparison.holds ((r.bag.get? rule.key).getD "") rule.value →
      here.graph.Lacks node.id rule.id) ∧ here.graph.Lacks node.id elseHandle
  | .goto target => ¬ here.graph.HasNode target
  | .schedule id => here.graph.Lacks node.id (scheduleHandle here r.asked id)
  | .template id => here.services.template? r.asked id = none
  | .input .. | .queue _ | .ending _ | .closing _ => False
  | .start _ | .message _ | .setValue .. | .anchor _ | .request .. | .script _ | .delay _ =>
    ∀ edge ∈ here.graph.edges, edge.source ≠ node.id

def Goes (here : Surroundings) (r : Run) (node : Node) : Step → Prop
  | .next next => here.graph.Leads node.id next
  | .halt (.continuedTo _) => False
  | .halt (.stalled at_) => at_ = node.id ∧ DeadEnd here r node
  | .halt _ => True

/-- A step that was decided on: the run has not moved yet, and if a session was closed in it, the flow
has come to its end. -/
structure Decides (here : Surroundings) (r : Run) (node : Node) (step : Step) (t : Run) : Prop where
  goes : Goes here r node step
  path : t.path = r.path
  closed : t.visit.session.status = .closed →
    r.visit.session.status = .closed ∨ step = .halt .terminated

def answered (here : Surroundings) (node : Node) (reply : Reply) : Walk Step :=
  match node.kind with
  | .input _ key => do
    patch here (.ofList [(key, answer reply)])
    return follow here node.id
  | .template id => do
    let template ← ask fun n => here.services.template? n id
    return match template.bind (chosenButton ·.buttons reply) with
      | some button => takeBranch here node.id button
      | none => .halt (.paused node.id)
  | _ => pure (.halt (.stalled node.id))

theorem HoldsOfTalk.answered {C : (α : Type) → Walk α → Prop} (holds : HoldsOfTalk here C) (node : Node)
    (reply : Reply) : C Step (answered here node reply) := by
  unfold Walk.answered
  split
  · exact holds.bind (holds.patches _) fun _ => holds.pure _
  · exact holds.bind (holds.ask _) fun _ => holds.pure _
  · exact holds.pure _

/-- The reply has no exit to follow: no edge leaves the question, or none is that of the button. A node
that asks nothing takes no reply. -/
def DeadReply (here : Surroundings) (r : Run) (node : Node) (reply : Reply) : Prop :=
  match node.kind with
  | .input .. => ∀ edge ∈ here.graph.edges, edge.source ≠ node.id
  | .template id => ∃ template button, here.services.template? r.asked id = some template ∧
      chosenButton template.buttons reply = some button ∧ here.graph.Lacks node.id button
  | kind => ¬ kind.awaitsReply

def Answers (here : Surroundings) (r : Run) (node : Node) (reply : Reply) : Step → Prop
  | .next next => here.graph.Leads node.id next
  | .halt (.paused at_) => at_ = node.id
  | .halt (.stalled at_) => at_ = node.id ∧ DeadReply here r node reply
  | .halt _ => False

section Handlers

variable {r : Run} {node : Node}

theorem follow_elim {P : Step → Prop} (moves : ∀ next, here.graph.Leads node.id next → P (.next next))
    (stalls : (∀ edge ∈ here.graph.edges, edge.source ≠ node.id) → P (.halt (.stalled node.id))) :
    P (follow here node.id) := by
  unfold follow
  split
  · rename_i next leads
    exact moves next (Graph.leads_of_next leads)
  · rename_i none_
    exact stalls (Graph.next_eq_none_iff.1 none_)

theorem takeBranch_elim {P : Step → Prop} {handle : String}
    (moves : ∀ next, here.graph.Leads node.id next → P (.next next))
    (stalls : here.graph.Lacks node.id handle → P (.halt (.stalled node.id))) :
    P (takeBranch here node.id handle) := by
  unfold takeBranch
  split
  · rename_i next leads
    exact moves next (Graph.leads_of_branch leads)
  · rename_i none_
    exact stalls (Graph.branch_eq_none_iff.1 none_)

theorem follow_goes
    (bare : (∀ edge ∈ here.graph.edges, edge.source ≠ node.id) → DeadEnd here r node) :
    Goes here r node (follow here node.id) :=
  follow_elim (fun _ leads => leads) fun none_ => ⟨rfl, bare none_⟩

theorem takeBranch_goes {handle : String}
    (lacks : here.graph.Lacks node.id handle → DeadEnd here r node) :
    Goes here r node (takeBranch here node.id handle) :=
  takeBranch_elim (fun _ leads => leads) fun none_ => ⟨rfl, lacks none_⟩

theorem branchOnRules_goes {rules : List Rule} (kind : node.kind = .condition rules) :
    Goes here r node (branchOnRules here node.id rules r.bag) := by
  unfold branchOnRules
  dsimp only
  split
  · rename_i next taken
    obtain ⟨rule, -, leads⟩ := List.exists_of_findSome?_eq_some taken
    split at leads
    · exact Graph.leads_of_branch leads
    · contradiction
  · rename_i untaken
    refine takeBranch_goes fun otherwise => ?_
    unfold DeadEnd
    rw [kind]
    refine ⟨fun rule member holds => Graph.branch_eq_none_iff.1 ?_, otherwise⟩
    have refused := List.findSome?_eq_none_iff.1 untaken rule member
    rwa [if_pos holds] at refused

theorem Talks.decides {work : Walk α} {decision : α → Step} (talks : Talks work)
    (goes : ∀ a, Goes here r node (decision a)) :
    Ends (do let a ← work; return decision a) r
      (Decides here r node) fun t => t.path = r.path :=
  Ends.bind_iff.2 ((talks r).mono
    (fun a _ same => Ends.pure_iff.2
      ⟨goes a, same.path, fun closed => .inl (same.status.symm.trans closed)⟩)
    fun _ same => same.path)

theorem decides_at_once {step : Step} (goes : Goes here r node step) :
    Decides here r node step r := ⟨goes, rfl, .inl⟩

theorem isOpenNow_picks {id : String} :
    Ends (isOpenNow here id) r
      (fun isOpen t => r.Same t ∧
        scheduleHandle here r.asked id = if isOpen then insideHandle else outsideHandle)
      r.Same := by
  unfold isOpenNow
  simp only [Ends.bind_iff, ask_ends_iff]
  split
  · rename_i group found
    simp only [Ends.bind_iff, ask_ends_iff, Ends.pure_iff]
    exact ⟨⟨rfl, rfl⟩, by simp [scheduleHandle, found]⟩
  · rename_i missing
    exact Ends.pure_iff.2 ⟨⟨rfl, rfl⟩, by simp [scheduleHandle, missing]⟩

theorem schedule_decides {id : String} (kind : node.kind = .schedule id) :
    Ends (do
        let isOpen ← isOpenNow here id
        return takeBranch here node.id (if isOpen then insideHandle else outsideHandle)) r
      (Decides here r node) fun t => t.path = r.path := by
  refine Ends.bind_iff.2 (isOpenNow_picks.mono (fun isOpen t picked => Ends.pure_iff.2 ?_)
    fun _ same => same.path)
  obtain ⟨same, handle⟩ := picked
  refine ⟨takeBranch_goes fun lacks => ?_, same.path,
    fun closed => .inl (same.status.symm.trans closed)⟩
  unfold DeadEnd
  rw [kind]
  dsimp only
  rwa [handle]

theorem showTemplate_decides {id : String} (kind : node.kind = .template id) :
    Ends (showTemplate here node.id id) r (Decides here r node) fun t => t.path = r.path := by
  unfold showTemplate
  simp only [Ends.bind_iff, ask_ends_iff]
  split
  · rename_i template found
    refine Ends.bind_iff.2 (fill_ends_iff.2 (Ends.bind_iff.2 ?_))
    have talks := (keptByTalk_same here).holds.post
    refine (talks _ (by simp [Post.offer]) _).mono (fun _ t same => Ends.pure_iff.2 ?_)
      fun _ same => same.path
    exact ⟨trivial, same.path, fun closed => .inl (same.status.symm.trans closed)⟩
  · rename_i missing
    refine Ends.pure_iff.2 ⟨⟨rfl, ?_⟩, rfl, .inl⟩
    unfold DeadEnd
    rw [kind]
    exact missing

theorem enterQueue_decides {queue : String} :
    Ends (enterQueue here queue) r (Decides here r node) fun t => t.path = r.path := by
  unfold enterQueue
  refine Ends.bind_iff.2 ((say_talks _ r).mono (fun _ t announced => ?_) fun _ same => same.path)
  simp only [Ends.bind_iff, ask_ends_iff]
  split
  · simp only [Ends.bind_iff, ask_ends_iff, act_ends_iff, Ends.pure_iff]
    refine .of_guarded (Visit.change_eq Session.transfer_eq) announced.path ?_
    exact ⟨trivial, announced.path, fun closed => by cases closed⟩
  · refine Ends.bind_iff.2 ((say_talks _ _).mono (fun _ u same => Ends.pure_iff.2 ?_) ?_)
    · refine ⟨trivial, same.path.trans announced.path, fun closed => .inl ?_⟩
      exact announced.status.symm.trans (same.status.symm.trans closed)
    · exact fun _ same => same.path.trans announced.path

theorem closing_decides {text : Option String} :
    Ends (perform here node.id (.closing text)) r (Decides here r node)
      fun t => t.path = r.path := by
  refine Ends.bind_iff.2 (((keptByTalk_same here).holds.sayFarewell text r).mono (fun _ t told => ?_)
    fun _ same => same.path)
  simp only [Ends.bind_iff, ask_ends_iff, act_ends_iff, Ends.pure_iff]
  exact .of_guarded (Visit.change_eq Session.close_eq) told.path
    ⟨trivial, told.path, fun _ => .inr rfl⟩

/-- Every move of a handler lies in the graph, and it stalls nowhere but at its own node, where there
is no exit to follow. -/
theorem perform_decides (member : node ∈ here.graph.nodes) :
    Ends (perform here node.id node.kind) r (Decides here r node) fun t => t.path = r.path := by
  have talks := (keptByTalk_same here).holds
  cases kind : node.kind with
  | start text =>
    have bare : Goes here r node _ := follow_goes (by simp [DeadEnd, kind])
    unfold perform
    dsimp only
    split
    · exact Talks.decides (talks.sayFilled _) fun _ => bare
    · exact (Talks.pure ()).decides fun _ => bare
  | message text =>
    exact Talks.decides (talks.sayFilled text) fun _ => follow_goes (by simp [DeadEnd, kind])
  | input text key => exact Talks.decides (talks.sayFilled text) fun _ => trivial
  | setValue key value =>
    refine Ends.bind_iff.2 (fill_ends_iff.2 ?_)
    exact Talks.decides (talks.patches _) fun _ => follow_goes (by simp [DeadEnd, kind])
  | condition rules =>
    refine Ends.bind_iff.2 (Ends.get_iff.2 (Ends.pure_iff.2 ?_))
    exact decides_at_once (branchOnRules_goes kind)
  | anchor name =>
    exact Ends.pure_iff.2 (decides_at_once (follow_goes (by simp [DeadEnd, kind])))
  | goto target =>
    refine Ends.pure_iff.2 (decides_at_once ?_)
    split
    · rename_i known
      exact .inr ⟨node, member, rfl, kind, known⟩
    · rename_i missing
      exact ⟨rfl, by simpa [DeadEnd, kind, Graph.HasNode] using missing⟩
  | request url mappings =>
    exact Talks.decides (talks.request url mappings) fun _ => follow_goes (by simp [DeadEnd, kind])
  | script source =>
    exact Talks.decides (talks.runScript source) fun _ => follow_goes (by simp [DeadEnd, kind])
  | delay seconds =>
    refine Ends.pure_iff.2 (decides_at_once ?_)
    split
    · trivial
    · rename_i none_
      exact ⟨rfl, by simpa [DeadEnd, kind] using Graph.next_eq_none_iff.1 none_⟩
  | schedule id => exact schedule_decides kind
  | template id => exact showTemplate_decides kind
  | queue name => exact enterQueue_decides
  | ending text => exact Talks.decides (talks.sayFarewell text) fun _ => trivial
  | closing text => exact closing_decides

theorem answered_goes (node : Node) (reply : Reply) (r : Run) :
    Ends (answered here node reply) r (fun step t => r.Same t ∧ Answers here r node reply step)
      r.Same := by
  unfold answered
  cases kind : node.kind with
  | input text key =>
    have talks := (keptByTalk_same here).patches
    refine Ends.bind_iff.2 ((talks _ r).mono (fun _ t same => ?_) fun _ same => same)
    refine Ends.pure_iff.2 ⟨same, follow_elim (fun _ leads => leads) fun bare => ⟨rfl, ?_⟩⟩
    simpa [DeadReply, kind] using bare
  | template id =>
    refine Ends.bind_iff.2 (ask_ends_iff.2 (Ends.pure_iff.2 ⟨⟨rfl, rfl⟩, ?_⟩))
    split
    · rename_i button chosen
      refine takeBranch_elim (fun _ leads => leads) fun lacks => ⟨rfl, ?_⟩
      obtain ⟨template, found, chosen⟩ := Option.bind_eq_some_iff.1 chosen
      unfold DeadReply
      rw [kind]
      exact ⟨template, button, found, chosen, lacks⟩
    · rfl
  | _ => exact Ends.pure_iff.2 ⟨.refl r, rfl, by simp [DeadReply, kind, Kind.awaitsReply]⟩

end Handlers

end Walk
end Switchboard
