import Switchboard.Proofs.Flow.Handler

/-! Whole runs. A round spends its budget node by node, further rounds follow while it runs out, and in
the end the session is told where it stands. So a run of a session that is with the bot always comes to
its end, and its outcome can be read off the session. -/
namespace Switchboard

def Outcome.IsFinal : Outcome → Prop
  | .continuedTo _ => False
  | _ => True

def Outcome.Rests (g : Graph) (s : Session) : Outcome → Prop
  | .continuedTo _ => False
  | .paused node =>
    s.status = .bot ∧ s.pending = some node ∧
      ∃ known, g.node? node = some known ∧ known.kind.awaitsReply
  | .delayed node next seconds =>
    s.status = .bot ∧ s.pending = some node ∧
      g.node? node = some ⟨node, .delay seconds⟩ ∧ g.next node = some next
  | .stalled node => s.status = .bot ∧ s.pending = none ∧ g.HasNode node
  | .queued _ => s.status = .waiting ∧ s.pending = none
  | .terminated => (s.status = .bot ∨ s.status = .closed) ∧ s.pending = none

namespace Walk

variable {here : Surroundings} {r : Run} {node : String} {budget : Nat}

theorem budget_pos (e : EngineSettings) : 0 < e.budget :=
  Nat.lt_of_lt_of_le Nat.one_pos (Nat.le_max_right ..)

theorem steps_fits (known : here.graph.HasNode node) (bot : r.visit.session.status = .bot) :
    Succeeds (steps here budget node) r fun outcome t =>
      r.Follows t ∧ (0 < budget → r.path ++ [node] <+: t.path) ∧
        outcome.Fits here.graph t.visit.session := by
  induction budget generalizing node r with
  | zero => exact Succeeds.pure_iff.2 ⟨.refl r, nofun, bot, known⟩
  | succ budget ih =>
    obtain ⟨found, member⟩ := Option.isSome_iff_exists.1 known
    rw [steps, member]
    refine (execute_fits member bot).seq fun step t executed => ?_
    obtain ⟨follows, begins, fits⟩ := executed
    cases step with
    | next next =>
      refine (ih fits.2 fits.1).mono fun outcome u rest => ?_
      obtain ⟨more, -, fits⟩ := rest
      exact ⟨follows.trans more, fun _ => begins.trans more.path, fits⟩
    | halt outcome => exact Succeeds.pure_iff.2 ⟨follows, fun _ => begins, fits⟩

theorem advance_fits (some_ : 0 < budget) (known : here.graph.HasNode node)
    (bot : r.visit.session.status = .bot) :
    Succeeds (advance here budget node) r fun outcome t =>
      r.Follows t ∧ r.path ++ [node] <+: t.path ∧
        outcome.Fits here.graph t.visit.session := by
  unfold advance
  rw [if_pos (show (here.graph.node? node).isSome from known)]
  refine (steps_fits known bot).mono fun outcome t walked => ?_
  obtain ⟨follows, begins, fits⟩ := walked
  exact ⟨follows, begins some_, fits⟩

theorem leave_fits {t : Run} {exit : Option String} (some_ : 0 < budget)
    (known : here.graph.HasNode node) (continues : r.Continues t)
    (leads : ∀ next, exit = some next → here.graph.HasNode next) :
    Succeeds (match exit with
      | some next => advance here budget next
      | none => pure (.stalled node)) t fun outcome u =>
        r.Follows u ∧ outcome.Fits here.graph u.visit.session := by
  cases exit with
  | none => exact Succeeds.pure_iff.2 ⟨continues.toFollows, continues.bot, known⟩
  | some next =>
    refine (advance_fits some_ (leads next rfl) continues.bot).mono ?_
    intro outcome u done
    obtain ⟨more, -, fits⟩ := done
    exact ⟨continues.toFollows.trans more, fits⟩

theorem resume_fits {reply : Reply} {found : Node} (some_ : 0 < budget)
    (member : here.graph.node? node = some found) (awaits : found.kind.awaitsReply)
    (bot : r.visit.session.status = .bot) :
    Succeeds (resume here budget node reply) r fun outcome t =>
      r.Follows t ∧ outcome.Fits here.graph t.visit.session := by
  have name : found.id = node := (Graph.node?_eq_some member).2
  have known := Graph.hasNode_of_node? member
  subst name
  unfold resume
  rw [member]
  dsimp only
  split
  · exact (patch_continues bot).seq fun _ t continues =>
      leave_fits some_ known continues fun _ => Graph.hasNode_next
  · simp only [Succeeds.bind_iff, ask_iff]
    split
    · exact leave_fits some_ known (.of_same rfl rfl bot) fun _ => Graph.hasNode_branch
    · exact Succeeds.pure_iff.2 ⟨⟨.refl _, List.prefix_rfl⟩, bot, found, member, awaits⟩
  · rename_i input template
    cases kind : found.kind with
    | input text key => exact absurd kind (input text key)
    | template id => exact absurd kind (template id)
    | _ => simp [kind, Kind.awaitsReply] at awaits

theorem proceed_fits {rounds : Nat} {outcome : Outcome} (some_ : 0 < budget)
    (fits : outcome.Fits here.graph r.visit.session) :
    Succeeds (proceed here budget rounds outcome) r fun outcome t =>
      r.Follows t ∧ outcome.IsFinal ∧ outcome.Fits here.graph t.visit.session := by
  induction rounds generalizing outcome r with
  | zero =>
    cases outcome with
    | continuedTo node => exact Succeeds.pure_iff.2 ⟨.refl r, trivial, fits⟩
    | _ => exact Succeeds.pure_iff.2 ⟨.refl r, trivial, fits⟩
  | succ rounds ih =>
    cases outcome with
    | continuedTo node =>
      refine (advance_fits some_ fits.2 fits.1).seq ?_
      intro outcome t done
      obtain ⟨follows, -, fits⟩ := done
      refine (ih fits).mono ?_
      intro outcome u done
      obtain ⟨more, final, fits⟩ := done
      exact ⟨follows.trans more, final, fits⟩
    | _ => exact Succeeds.pure_iff.2 ⟨.refl r, trivial, fits⟩

/-! What comes after the last round. -/

theorem publish_follows {event : SessionId → Event} (remark : ∀ id, (event id).Remarks id)
    (quiet : r.visit.session.status ≠ .bot → ∀ id, (event id).isOfFlow = false) :
    Succeeds (publish event) r fun _ t =>
      r.Follows t ∧ t.visit.session = r.visit.session := by
  unfold publish
  refine Succeeds.modify_iff.2 ⟨⟨⟨_, rfl, ?_⟩, List.prefix_rfl⟩, rfl⟩
  exact Account.remark (remark _) fun gone => quiet gone _

theorem suspend_rests (bot : r.visit.session.status = .bot) :
    Succeeds (suspend node) r fun _ t =>
      r.Follows t ∧ t.visit.session.status = .bot ∧ t.visit.session.pending = some node := by
  unfold suspend
  refine Succeeds.bind_iff.2 (act_iff.2 ?_)
  refine (Visit.setPending_succeeds (by simp [bot]) fun _ => bot).mono fun _ v waits => ?_
  obtain ⟨session, follows⟩ := waits
  have still : v.session.status = .bot := by rw [session]; exact bot
  refine (publish_follows (fun _ => ⟨rfl, rfl, rfl⟩) fun gone => absurd still gone).mono ?_
  intro _ t published
  obtain ⟨told, same⟩ := published
  refine ⟨⟨follows.trans told.visit, told.path⟩, ?_⟩
  rw [same]
  exact ⟨still, by rw [session]⟩

/-- Clearing cannot fail: the only session that refuses is one that has nothing to clear. -/
theorem clearPending_rests
    (idle : r.visit.session.status = .closed → r.visit.session.pending = none) :
    Succeeds clearPending r fun _ t =>
      r.Follows t ∧ t.visit.session = { r.visit.session with pending := none } := by
  by_cases closed : r.visit.session.status = .closed
  · refine ⟨(), r, ?_, .refl r, by rw [← idle closed]⟩
    unfold clearPending
    rw [Visit.setPending_of_closed closed]
  · have cleared : Succeeds (Visit.setPending none) r.visit _ :=
      Visit.setPending_succeeds closed (by simp)
    obtain ⟨_, v, run, session, follows⟩ := cleared
    refine ⟨(), { r with visit := v }, ?_, ⟨follows, List.prefix_rfl⟩, session⟩
    unfold clearPending
    rw [run]

theorem clearAndPublish_rests {event : SessionId → Event}
    (remark : ∀ id, (event id).Remarks id)
    (idle : r.visit.session.status = .closed → r.visit.session.pending = none)
    (quiet : r.visit.session.status ≠ .bot → ∀ id, (event id).isOfFlow = false) :
    Succeeds (do clearPending; publish event) r fun _ t =>
      r.Follows t ∧ t.visit.session = { r.visit.session with pending := none } := by
  refine (clearPending_rests idle).seq fun _ t done => ?_
  obtain ⟨cleared, session⟩ := done
  have quiet' : t.visit.session.status ≠ .bot → ∀ id, (event id).isOfFlow = false := by
    rw [session]
    exact quiet
  refine (publish_follows remark quiet').mono fun _ u published => ?_
  obtain ⟨told, same⟩ := published
  exact ⟨cleared.trans told, same.trans session⟩

theorem conclude_rests {g : Graph} {outcome : Outcome} (final : outcome.IsFinal)
    (fits : outcome.Fits g r.visit.session) :
    Succeeds (conclude outcome) r fun _ t =>
      r.Follows t ∧ outcome.Rests g t.visit.session := by
  cases outcome with
  | continuedTo node => contradiction
  | paused node | delayed node next seconds =>
    refine (suspend_rests fits.1).mono fun _ t suspended => ?_
    obtain ⟨follows, bot, waits⟩ := suspended
    exact ⟨follows, bot, waits, fits.2⟩
  | stalled node =>
    obtain ⟨bot, known⟩ := fits
    refine (clearAndPublish_rests (fun _ => ⟨rfl, rfl, rfl⟩) (by simp [bot])
      fun gone => absurd bot gone).mono fun _ t cleared => ?_
    obtain ⟨follows, session⟩ := cleared
    rw [session]
    exact ⟨follows, bot, rfl, known⟩
  | queued queue =>
    refine (clearAndPublish_rests (fun _ => ⟨rfl, rfl, rfl⟩) (fun _ => fits.2)
      fun _ _ => rfl).mono fun _ t cleared => ?_
    obtain ⟨follows, session⟩ := cleared
    rw [session]
    exact ⟨follows, fits.1, rfl⟩
  | terminated =>
    have idle : r.visit.session.status = .closed → r.visit.session.pending = none := by
      intro closed
      rcases fits with bot | ⟨-, idle⟩
      · simp [bot] at closed
      · exact idle
    refine (clearAndPublish_rests (fun _ => ⟨rfl, rfl, rfl⟩) idle
      fun _ _ => rfl).mono fun _ t cleared => ?_
    obtain ⟨follows, session⟩ := cleared
    rw [session]
    exact ⟨follows, fits.imp_right And.left, rfl⟩

theorem settle_rests {outcome : Outcome} (fits : outcome.Fits here.graph r.visit.session) :
    Succeeds (settle here outcome) r fun outcome t =>
      r.Follows t ∧ outcome.Rests here.graph t.visit.session := by
  unfold settle
  refine (proceed_fits (budget_pos _) fits).seq ?_
  intro outcome t done
  obtain ⟨follows, final, fits⟩ := done
  refine (conclude_rests final fits).seq ?_
  intro _ u done
  obtain ⟨more, rests⟩ := done
  exact Succeeds.pure_iff.2 ⟨follows.trans more, rests⟩

theorem runFrom_rests (known : here.graph.HasNode node) (bot : r.visit.session.status = .bot) :
    Succeeds (runFrom here node) r fun outcome t =>
      r.Follows t ∧ r.path ++ [node] <+: t.path ∧
        outcome.Rests here.graph t.visit.session := by
  unfold runFrom
  refine (advance_fits (budget_pos _) known bot).seq fun outcome t reached => ?_
  obtain ⟨follows, begins, fits⟩ := reached
  refine (settle_rests fits).mono fun outcome u settled => ?_
  obtain ⟨more, rests⟩ := settled
  exact ⟨follows.trans more, begins.trans more.path, rests⟩

theorem resumeFrom_rests {reply : Reply} {found : Node}
    (member : here.graph.node? node = some found) (awaits : found.kind.awaitsReply)
    (bot : r.visit.session.status = .bot) :
    Succeeds (resumeFrom here node reply) r fun outcome t =>
      r.Follows t ∧ outcome.Rests here.graph t.visit.session := by
  unfold resumeFrom
  refine (resume_fits (budget_pos _) member awaits bot).seq fun outcome t reached => ?_
  obtain ⟨follows, fits⟩ := reached
  refine (settle_rests fits).mono fun outcome u settled => ?_
  obtain ⟨more, rests⟩ := settled
  exact ⟨follows.trans more, rests⟩

theorem awaited_eq_some {g : Graph} {s : Session} {found : Node}
    (h : awaited g s = some found) :
    s.status = .bot ∧ s.pending = some found.id ∧ g.node? found.id = some found ∧
      found.kind.awaitsReply := by
  unfold awaited at h
  obtain ⟨waits, holds⟩ := Option.filter_eq_some_iff.1 h
  obtain ⟨pending, at_, member⟩ := Option.bind_eq_some_iff.1 waits
  simp only [Bool.and_eq_true, beq_iff_eq] at holds
  have name := (Graph.node?_eq_some member).2
  subst name
  exact ⟨holds.1, at_, member, holds.2⟩

theorem loggedText_looks {awaited : Option Node} {reply : Reply} :
    Succeeds (loggedText here awaited reply) r fun _ t =>
      t.visit = r.visit ∧ t.path = r.path := by
  unfold loggedText
  split
  · exact Succeeds.pure_iff.2 ⟨rfl, rfl⟩
  · split
    · exact Succeeds.pure_iff.2 ⟨rfl, rfl⟩
    · exact Succeeds.bind_iff.2 (ask_iff.2 (Succeeds.pure_iff.2 ⟨rfl, rfl⟩))
    · exact Succeeds.pure_iff.2 ⟨rfl, rfl⟩

/-- What a reply leaves behind: a run that came to rest, or one more message and nothing else. -/
def Received (here : Surroundings) (before after : Session) : Option Outcome → Prop
  | some outcome =>
    (awaited here.graph before).isSome ∧ outcome.Rests here.graph after
  | none => ∃ message, message.sender = .user ∧ after = before.say message

theorem receive_rests {reply : Reply} (open_ : r.visit.session.status ≠ .closed) :
    Succeeds (receive here reply) r fun outcome t =>
      r.Follows t ∧ Received here r.visit.session t.visit.session outcome := by
  unfold receive
  simp only [Succeeds.bind_iff, Succeeds.get_iff]
  refine loggedText_looks.mono fun text t looked => ?_
  obtain ⟨visit, path⟩ := looked
  have logged : Succeeds (post here (.user text)) t _ :=
    post_succeeds (by rw [visit]; exact open_) (by simp [Post.user]) (by simp [Post.user])
  refine logged.mono fun _ u done => ?_
  obtain ⟨follows, now, session⟩ := done
  rw [visit] at session
  have whole : r.Follows u := ⟨visit ▸ follows.visit, path ▸ follows.path⟩
  cases waits : awaited here.graph r.visit.session with
  | none => exact Succeeds.pure_iff.2 ⟨whole, _, rfl, session⟩
  | some found =>
    obtain ⟨bot, -, member, awaits⟩ := awaited_eq_some waits
    have still : u.visit.session.status = .bot := by rw [session]; exact bot
    refine (resumeFrom_rests member awaits still).seq fun outcome w settled => ?_
    obtain ⟨more, rests⟩ := settled
    exact Succeeds.pure_iff.2 ⟨whole.trans more, by simp [waits], rests⟩

end Walk
end Switchboard
