import Switchboard.Flow.Settlement
import Switchboard.Proofs.Chat.Account
import Switchboard.Proofs.Flow.Soundness

/-! What each kind of node does. While the flow is in charge of a session nothing that it does can fail,
whatever the world answers, and it either moves on inside the graph or halts with an outcome that the
session bears out. -/
namespace Switchboard

/-- The run goes on: its journal accounts for what it does, and it forgets no node. -/
structure Run.Follows (r t : Run) : Prop where
  visit : r.visit.Follows t.visit
  path : r.path <+: t.path

namespace Run.Follows

variable {r t u : Run}

theorem refl (r : Run) : r.Follows r := ⟨.refl _, List.prefix_rfl⟩

theorem trans (first : r.Follows t) (second : t.Follows u) : r.Follows u :=
  ⟨first.visit.trans second.visit, first.path.trans second.path⟩

end Run.Follows

structure Run.Continues (r t : Run) : Prop extends Run.Follows r t where
  bot : t.visit.session.status = .bot

namespace Run.Continues

variable {r t u : Run}

theorem refl (bot : r.visit.session.status = .bot) : r.Continues r := ⟨.refl r, bot⟩

theorem trans (first : r.Continues t) (second : t.Continues u) : r.Continues u :=
  ⟨first.toFollows.trans second.toFollows, second.bot⟩

theorem of_same (visit : t.visit = r.visit) (path : t.path = r.path)
    (bot : r.visit.session.status = .bot) : r.Continues t :=
  ⟨⟨visit ▸ .refl _, path ▸ List.prefix_rfl⟩, visit ▸ bot⟩

end Run.Continues

/-- What an outcome says of the session, before the session is told of it. -/
def Outcome.Fits (g : Graph) (s : Session) : Outcome → Prop
  | .continuedTo node | .stalled node => s.status = .bot ∧ g.HasNode node
  | .paused node =>
    s.status = .bot ∧ ∃ known, g.node? node = some known ∧ known.kind.awaitsReply
  | .delayed node next seconds =>
    s.status = .bot ∧ g.node? node = some ⟨node, .delay seconds⟩ ∧ g.next node = some next
  | .queued _ => s.status = .waiting ∧ s.pending = none
  | .terminated => s.status = .bot ∨ s.status = .closed ∧ s.pending = none

def Step.Fits (g : Graph) (s : Session) : Step → Prop
  | .next node => s.status = .bot ∧ g.HasNode node
  | .halt outcome => outcome.Fits g s

namespace Walk

variable {α : Type} {here : Surroundings} {r : Run}

@[simp] theorem ask_iff {question : Nat → α} {post : α → Run → Prop} :
    Succeeds (ask question) r post ↔ post (question r.asked) { r with asked := r.asked + 1 } :=
  Succeeds.ok_iff rfl

@[simp] theorem fill_iff {text : String} {post : String → Run → Prop} :
    Succeeds (fill text) r post ↔ post (r.bag.interpolate text) r := Succeeds.ok_iff rfl

@[simp] theorem act_iff {work : Visit.Act α} {post : α → Run → Prop} :
    Succeeds (act work) r post ↔
      Succeeds work r.visit fun a v => post a { r with visit := v } := by
  cases run : work r.visit with
  | ok a v =>
    have whole : act work r = .ok a { r with visit := v } := by simp [act, run]
    rw [Succeeds.ok_iff run, Succeeds.ok_iff whole]
  | error refusal v => simp [Succeeds, act, run]

theorem post_succeeds {post : Post} (open_ : r.visit.session.status ≠ .closed)
    (agent : post.sender ≠ .agent) (voice : post.sender = .bot → r.visit.session.status = .bot) :
    Succeeds (Walk.post here post) r fun _ t =>
      r.Follows t ∧ ∃ now, t.visit.session = r.visit.session.say (post.stamp now) := by
  unfold Walk.post
  simp only [Succeeds.bind_iff, ask_iff, act_iff, Succeeds.pure_iff]
  refine (Visit.append_succeeds open_ agent voice).mono ?_
  intro message v done
  obtain ⟨-, session, follows⟩ := done
  exact ⟨⟨follows, List.prefix_rfl⟩, _, session⟩

theorem post_continues {post : Post} (bot : r.visit.session.status = .bot)
    (agent : post.sender ≠ .agent) : Succeeds (Walk.post here post) r fun _ t => r.Continues t := by
  refine (post_succeeds (by simp [bot]) agent fun _ => bot).mono ?_
  intro _ t done
  obtain ⟨follows, now, session⟩ := done
  refine ⟨follows, ?_⟩
  rw [session]
  exact bot

theorem say_continues {text : String} (bot : r.visit.session.status = .bot) :
    Succeeds (say here text) r fun _ t => r.Continues t := by
  unfold say
  split
  · exact Succeeds.pure_iff.2 (.refl bot)
  · exact post_continues bot (by simp [Post.bot])

theorem sayFilled_continues {text : String} (bot : r.visit.session.status = .bot) :
    Succeeds (sayFilled here text) r fun _ t => r.Continues t := by
  unfold sayFilled
  simpa using say_continues bot

theorem patch_continues {changes : Variables} (bot : r.visit.session.status = .bot) :
    Succeeds (patch here changes) r fun _ t => r.Continues t := by
  unfold patch
  simp only [Succeeds.bind_iff, ask_iff, act_iff, Succeeds.modify_iff]
  refine (Visit.mergeVariables_succeeds bot).mono ?_
  intro merged v done
  obtain ⟨-, session, follows⟩ := done
  refine ⟨⟨follows, List.prefix_rfl⟩, ?_⟩
  rw [session]
  exact bot

theorem request_continues {url : String} {mappings : List Mapping}
    (bot : r.visit.session.status = .bot) :
    Succeeds (request here url mappings) r fun _ t => r.Continues t := by
  unfold request
  simp only [Succeeds.bind_iff, fill_iff, ask_iff, Succeeds.modify_iff]
  split
  · split
    · exact Succeeds.pure_iff.2 (.of_same rfl rfl bot)
    · exact Succeeds.mono (patch_continues bot) fun _ _ => .trans (.of_same rfl rfl bot)
  · exact Succeeds.mono (say_continues bot) fun _ _ => .trans (.of_same rfl rfl bot)

theorem runScript_continues {source : String} (bot : r.visit.session.status = .bot) :
    Succeeds (runScript here source) r fun _ t => r.Continues t := by
  unfold runScript
  simp only [Succeeds.bind_iff, Succeeds.get_iff, ask_iff]
  split
  · exact Succeeds.mono (patch_continues bot) fun _ _ => .trans (.of_same rfl rfl bot)
  · exact Succeeds.mono (say_continues bot) fun _ _ => .trans (.of_same rfl rfl bot)

theorem isOpenNow_continues {schedule : String} (bot : r.visit.session.status = .bot) :
    Succeeds (isOpenNow here schedule) r fun _ t => r.Continues t := by
  unfold isOpenNow
  simp only [Succeeds.bind_iff, ask_iff]
  split
  · simp only [Succeeds.bind_iff, ask_iff, Succeeds.pure_iff]
    exact .of_same rfl rfl bot
  · exact Succeeds.pure_iff.2 (.of_same rfl rfl bot)

theorem sayFarewell_continues {text : Option String} (bot : r.visit.session.status = .bot) :
    Succeeds (sayFarewell here text) r fun _ t => r.Continues t := by
  unfold sayFarewell
  split
  · exact sayFilled_continues bot
  · exact say_continues bot

section Exits

variable {g : Graph} {s : Session} {node handle : String}

theorem follow_fits (known : here.graph.HasNode node) (bot : s.status = .bot) :
    (follow here node).Fits here.graph s := by
  unfold follow
  split
  · rename_i next leads
    exact ⟨bot, Graph.hasNode_next leads⟩
  · exact ⟨bot, known⟩

theorem takeBranch_fits (known : here.graph.HasNode node) (bot : s.status = .bot) :
    (takeBranch here node handle).Fits here.graph s := by
  unfold takeBranch
  split
  · rename_i next leads
    exact ⟨bot, Graph.hasNode_branch leads⟩
  · exact ⟨bot, known⟩

theorem branchOnRules_fits {rules : List Rule} {bag : Variables}
    (known : here.graph.HasNode node) (bot : s.status = .bot) :
    (branchOnRules here node rules bag).Fits here.graph s := by
  unfold branchOnRules
  dsimp only
  split
  · rename_i next taken
    obtain ⟨rule, -, leads⟩ := List.exists_of_findSome?_eq_some taken
    split at leads
    · exact ⟨bot, Graph.hasNode_branch leads⟩
    · contradiction
  · exact takeBranch_fits known bot

end Exits

theorem exit_fits {work : Walk α} {exit : α → Step}
    (talks : Succeeds work r fun _ t => r.Continues t)
    (fits : ∀ a (s : Session), s.status = .bot → (exit a).Fits here.graph s) :
    Succeeds (do let a ← work; return exit a) r fun step t =>
      r.Follows t ∧ step.Fits here.graph t.visit.session :=
  talks.seq fun a t continues =>
    Succeeds.pure_iff.2 ⟨continues.toFollows, fits a t.visit.session continues.bot⟩

variable {node : String}

theorem showTemplate_fits {template : String}
    (known : here.graph.node? node = some ⟨node, .template template⟩)
    (bot : r.visit.session.status = .bot) :
    Succeeds (showTemplate here node template) r fun step t =>
      r.Follows t ∧ step.Fits here.graph t.visit.session := by
  unfold showTemplate
  simp only [Succeeds.bind_iff, ask_iff]
  split
  · simp only [Succeeds.bind_iff, fill_iff]
    refine Succeeds.mono (post_continues bot (by simp [Post.offer])) ?_
    intro _ t continues
    exact Succeeds.pure_iff.2
      ⟨⟨continues.visit, continues.path⟩, continues.bot, _, known, rfl⟩
  · exact Succeeds.pure_iff.2
      ⟨⟨.refl _, List.prefix_rfl⟩, bot, Graph.hasNode_of_node? known⟩

/-- Whoever serves the queue is looked for after the announcement; what comes then is either the
transfer, which ends the run, or one more message. -/
theorem enterQueue_fits {queue : String} (bot : r.visit.session.status = .bot) :
    Succeeds (enterQueue here queue) r fun step t =>
      r.Follows t ∧ step.Fits here.graph t.visit.session := by
  unfold enterQueue
  refine (say_continues bot).seq fun _ t announced => ?_
  simp only [Succeeds.bind_iff, ask_iff]
  split
  · simp only [Succeeds.bind_iff, ask_iff, act_iff, Succeeds.pure_iff]
    refine (Visit.transfer_succeeds (by simp [announced.bot])).mono ?_
    intro _ v done
    obtain ⟨session, follows⟩ := done
    refine ⟨announced.toFollows.trans ⟨follows, List.prefix_rfl⟩, ?_⟩
    rw [session]
    exact ⟨rfl, rfl⟩
  · refine Succeeds.bind_iff.2 (Succeeds.mono (say_continues announced.bot) ?_)
    intro _ u continues
    exact Succeeds.pure_iff.2
      ⟨announced.toFollows.trans ⟨continues.visit, continues.path⟩, .inl continues.bot⟩

theorem closing_fits {text : Option String} (bot : r.visit.session.status = .bot) :
    Succeeds (perform here node (.closing text)) r fun step t =>
      r.Follows t ∧ step.Fits here.graph t.visit.session := by
  refine (sayFarewell_continues bot).seq fun _ t told => ?_
  simp only [Succeeds.bind_iff, ask_iff, act_iff, Succeeds.pure_iff]
  have allowed := Session.closeRefusal_flow_eq_none_iff.2 told.bot
  refine (Visit.close_succeeds allowed).mono ?_
  intro _ v done
  obtain ⟨session, follows⟩ := done
  refine ⟨told.toFollows.trans ⟨follows, List.prefix_rfl⟩, ?_⟩
  rw [session]
  exact .inr ⟨rfl, rfl⟩

theorem perform_fits {kind : Kind} (known : here.graph.node? node = some ⟨node, kind⟩)
    (bot : r.visit.session.status = .bot) :
    Succeeds (perform here node kind) r fun step t =>
      r.Follows t ∧ step.Fits here.graph t.visit.session := by
  have member := Graph.hasNode_of_node? known
  have stays : r.Follows r := .refl r
  cases kind with
  | start text =>
    unfold perform
    dsimp only
    split
    · exact exit_fits (sayFilled_continues bot) fun _ _ => follow_fits member
    · simpa using ⟨stays, follow_fits member bot⟩
  | message text => exact exit_fits (sayFilled_continues bot) fun _ _ => follow_fits member
  | input text key =>
    exact (sayFilled_continues bot).seq fun _ t continues =>
      Succeeds.pure_iff.2 ⟨continues.toFollows, continues.bot, _, known, rfl⟩
  | setValue key value =>
    unfold perform
    refine Succeeds.bind_iff.2 (fill_iff.2 ?_)
    exact exit_fits (patch_continues bot) fun _ _ => follow_fits member
  | condition rules =>
    unfold perform
    simp only [Succeeds.bind_iff, Succeeds.get_iff, Succeeds.pure_iff]
    exact ⟨stays, branchOnRules_fits member bot⟩
  | anchor name => exact Succeeds.pure_iff.2 ⟨stays, follow_fits member bot⟩
  | goto target =>
    refine Succeeds.pure_iff.2 ⟨stays, ?_⟩
    split
    · rename_i exists_
      exact ⟨bot, exists_⟩
    · exact ⟨bot, member⟩
  | request url mappings =>
    exact exit_fits (request_continues bot) fun _ _ => follow_fits member
  | script source => exact exit_fits (runScript_continues bot) fun _ _ => follow_fits member
  | delay seconds =>
    refine Succeeds.pure_iff.2 ⟨stays, ?_⟩
    split
    · rename_i next leads
      exact ⟨bot, known, leads⟩
    · exact ⟨bot, member⟩
  | schedule id => exact exit_fits (isOpenNow_continues bot) fun _ _ => takeBranch_fits member
  | template id => exact showTemplate_fits known bot
  | queue name => exact enterQueue_fits bot
  | ending text =>
    exact (sayFarewell_continues bot).seq fun _ t continues =>
      Succeeds.pure_iff.2 ⟨continues.toFollows, .inl continues.bot⟩
  | closing text => exact closing_fits bot

theorem execute_fits {known : Node} (member : here.graph.node? node = some known)
    (bot : r.visit.session.status = .bot) :
    Succeeds (execute here known) r fun step t =>
      r.Follows t ∧ r.path ++ [node] <+: t.path ∧ step.Fits here.graph t.visit.session := by
  have name : known.id = node := (Graph.node?_eq_some member).2
  subst name
  unfold execute
  simp only [Succeeds.bind_iff, Succeeds.modify_iff]
  refine Succeeds.mono (perform_fits member bot) ?_
  intro step t done
  obtain ⟨follows, fits⟩ := done
  exact ⟨⟨follows.visit, (List.prefix_append ..).trans follows.path⟩, follows.path, fits⟩

end Walk
end Switchboard
