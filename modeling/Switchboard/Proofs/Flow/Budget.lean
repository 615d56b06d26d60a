import Switchboard.Proofs.Flow.Journey
import Switchboard.Proofs.Flow.Round

/-! Rounds and one budget. Cutting a run into rounds changes nothing of it: the rounds of a desk come to
what a single round comes to whose budget is their product. Only that a flow which would still go on is
told to have stalled, and that the end is put on record. -/
namespace Switchboard

/-- An outcome as it is told once no further round follows. -/
def Outcome.settled : Outcome → Outcome
  | .continuedTo node => .stalled node
  | outcome => outcome

def Outcome.Resumes (g : Graph) : Outcome → Prop
  | .continuedTo node => g.HasNode node
  | _ => True

def Outcome.Waits : Outcome → Prop
  | .paused _ | .delayed .. => True
  | _ => False

theorem Outcome.settled_final (outcome : Outcome) : outcome.settled.IsFinal := by
  cases outcome <;> trivial

theorem Outcome.IsFinal.resumes {g : Graph} {outcome : Outcome} (final : outcome.IsFinal) :
    outcome.Resumes g := by
  cases outcome with
  | continuedTo last => contradiction
  | _ => trivial

theorem Outcome.waits_settled (outcome : Outcome) : outcome.settled.Waits = outcome.Waits := by
  cases outcome <;> rfl

def Surroundings.within (here : Surroundings) (budget rounds : Nat) : Surroundings :=
  { here with engine := { here.engine with stepBudget := budget, maxRounds := rounds } }

/-- The record at the end of a run: the node at which the session waits, and one event. -/
structure Run.Recorded (t u : Run) : Prop where
  path : u.path = t.path
  bag : u.bag = t.bag
  asked : u.asked = t.asked
  requests : u.requests = t.requests
  session : u.visit.session = { t.visit.session with pending := u.visit.session.pending }
  journal : ∃ event, u.visit.journal = t.visit.journal ++ [event]

def Run.Within (r : Run) (budget : Nat) (t : Run) : Prop :=
  ∃ executed, t.path = r.path ++ executed ∧ executed.length ≤ budget

namespace Walk

def recorded (round : Walk Outcome) : Walk Outcome := do
  let outcome ← round
  conclude outcome.settled
  return outcome.settled

def carryOn (here : Surroundings) (budget : Nat) : Outcome → Walk Outcome
  | .continuedTo node => steps here budget node
  | outcome => pure outcome

def goOn (here : Surroundings) (budget : Nat) : Step → Walk Outcome
  | .next node => advance here budget node
  | .halt outcome => pure outcome

variable {here : Surroundings} {r t : Run} {node pending : String} {budget : Nat}
  {reply : Reply}

theorem carryOn_of_final {outcome : Outcome} (final : outcome.IsFinal) :
    carryOn here budget outcome = pure outcome := by
  cases outcome with
  | continuedTo last => contradiction
  | _ => rfl

theorem execute_final {found : Node} {outcome : Outcome}
    (member : here.graph.node? node = some found)
    (run : execute here found r = .ok (.halt outcome) t) : outcome.IsFinal := by
  have goes := (execute_halt member run).1
  cases outcome with
  | continuedTo last => exact goes
  | _ => trivial

theorem steps_add (first second : Nat) (node : String) :
    steps here (first + second) node = steps here first node >>= carryOn here second := by
  induction first generalizing node with
  | zero => rw [Nat.zero_add, steps, pure_bind]; rfl
  | succ first ih =>
    rw [Nat.succ_add, steps, steps]
    split
    · rw [pure_bind]; rfl
    · rename_i found member
      rw [bind_assoc]
      funext r
      refine bind_congr_of_ok fun step t run => ?_
      cases step with
      | next next => exact congrFun (ih next) t
      | halt outcome =>
        -- No handler says that a budget was spent, so a second one changes nothing here.
        rw [pure_bind, carryOn_of_final (execute_final member run)]

theorem Round.resumes {outcome : Outcome} (known : here.graph.HasNode node)
    (round : Round here budget node r (.ok outcome t)) : outcome.Resumes here.graph := by
  cases round with
  | spent moves length => exact moves.known known _ (by simp)
  | halted moves length at_ halts => exact (execute_final at_ halts).resumes

theorem proceed_eq {rounds : Nat} {outcome : Outcome} (resumes : outcome.Resumes here.graph) :
    proceed here budget rounds outcome r =
      (do let last ← carryOn here (budget * rounds) outcome; return last.settled) r := by
  induction rounds generalizing outcome r with
  | zero => cases outcome <;> rfl
  | succ rounds ih =>
    cases outcome with
    | continuedTo node =>
      have known : here.graph.HasNode node := resumes
      rw [proceed, advance_of_known known, Nat.mul_succ, Nat.add_comm, carryOn, steps_add, bind_assoc]
      refine bind_congr_of_ok fun outcome t run => ih ?_
      exact (run ▸ steps_round known).resumes known
    | _ => rfl

theorem settle_eq {outcome : Outcome} (resumes : outcome.Resumes here.graph) :
    settle here outcome r =
      recorded (carryOn here (here.engine.budget * (here.engine.rounds - 1)) outcome) r := by
  unfold settle recorded
  rw [bind_congr_first (proceed_eq resumes), bind_assoc]
  simp only [pure_bind]

/-- The rounds of a desk are one round, however the flow was set going. -/
theorem goOn_settle (step : Step) (final : ∀ outcome, step = .halt outcome → outcome.IsFinal) :
    goOn here here.engine.budget step >>= settle here =
      recorded (goOn here (here.engine.budget * here.engine.rounds) step) := by
  have rounds : here.engine.budget + here.engine.budget * (here.engine.rounds - 1) =
      here.engine.budget * here.engine.rounds := by
    have some_ : 0 < here.engine.rounds := Nat.le_max_right ..
    rw [Nat.mul_sub_one, Nat.add_sub_cancel' (Nat.le_mul_of_pos_right _ some_)]
  funext r
  cases step with
  | next node =>
    simp only [goOn]
    by_cases known : here.graph.HasNode node
    · rw [advance_of_known known, advance_of_known known, ← rounds, steps_add, recorded, bind_assoc]
      refine bind_congr_of_ok fun outcome t run => settle_eq ?_
      exact (run ▸ steps_round known).resumes known
    · rw [advance_of_unknown known, advance_of_unknown known]
      rfl
  | halt outcome =>
    have final := final outcome rfl
    simp only [goOn, pure_bind]
    rw [settle_eq final.resumes, carryOn_of_final final]

theorem runFrom_eq (node : String) :
    runFrom here node =
      recorded (advance here (here.engine.budget * here.engine.rounds) node) :=
  goOn_settle (.next node) nofun

theorem resume_of_unknown (unknown : here.graph.node? pending = none) :
    resume here budget pending reply = throw (.nodeNotFound pending) := by
  unfold resume
  rw [unknown]

theorem resume_of_known {found : Node} (known : here.graph.node? pending = some found) :
    resume here budget pending reply = answered here found reply >>= goOn here budget := by
  unfold resume answered
  rw [known]
  dsimp only
  cases kind : found.kind with
  | input text key =>
    dsimp only
    rw [bind_assoc]
    congr 1
    funext _
    rw [pure_bind, follow]
    cases here.graph.next found.id <;> rfl
  | template id =>
    dsimp only
    rw [bind_assoc]
    congr 1
    funext template
    rw [pure_bind]
    cases template.bind (chosenButton ·.buttons reply) with
    | none => rfl
    | some button =>
      dsimp only
      rw [takeBranch]
      cases here.graph.branch found.id button <;> rfl
  | _ => rfl

theorem recorded_bind {work : Walk Step} {next : Step → Walk Outcome} :
    recorded (work >>= next) = work >>= fun step => recorded (next step) := by
  unfold recorded
  rw [bind_assoc]

theorem resumeFrom_eq (pending : String) (reply : Reply) :
    resumeFrom here pending reply =
      recorded (resume here (here.engine.budget * here.engine.rounds) pending reply) := by
  unfold resumeFrom
  cases known : here.graph.node? pending with
  | none =>
    rw [resume_of_unknown known, resume_of_unknown known]
    rfl
  | some found =>
    rw [resume_of_known known, resume_of_known known, recorded_bind, bind_assoc]
    funext r
    refine bind_congr_of_ok fun step t run => congrFun (goOn_settle step fun outcome halts => ?_) t
    have answers := ((Ends.ok_iff run).1 (answered_goes found reply r)).2
    cases halts
    cases outcome with
    | continuedTo last => exact answers
    | _ => trivial

section Limits

variable {rounds : Nat}

theorem perform_within (kind : Kind) :
    perform (here.within budget rounds) node kind = perform here node kind := by
  cases kind <;> rfl

theorem steps_within (most : Nat) (node : String) :
    steps (here.within budget rounds) most node = steps here most node := by
  induction most generalizing node with
  | zero => rfl
  | succ most ih =>
    simp only [steps, execute, perform_within, ih]
    rfl

theorem advance_within (most : Nat) (node : String) :
    advance (here.within budget rounds) most node = advance here most node := by
  unfold advance
  rw [steps_within]
  rfl

theorem resume_within (most : Nat) (pending : String) (reply : Reply) :
    resume (here.within budget rounds) most pending reply = resume here most pending reply := by
  have same : (here.within budget rounds).graph = here.graph := rfl
  cases known : here.graph.node? pending with
  | none => rw [resume_of_unknown known, resume_of_unknown (same ▸ known)]
  | some found =>
    rw [resume_of_known known, resume_of_known (same ▸ known)]
    have goes : goOn (here.within budget rounds) most = goOn here most := by
      funext step
      cases step with
      | next next => exact advance_within most next
      | halt outcome => rfl
    rw [goes]
    rfl

end Limits

section Record

variable {outcome : Outcome} {event : SessionId → Event}

theorem setPending_done {v : Visit} (at_ : Option String)
    (open_ : v.session.status ≠ .closed) :
    Succeeds (Visit.setPending at_) v fun _ w =>
      w.session = { v.session with pending := at_ } ∧ w.journal = v.journal :=
  .of_guarded (Visit.change_eq Session.setPending_eq)
    (Session.closedRefusal_eq_none_iff.2 open_) ⟨rfl, List.append_nil _⟩

theorem suspend_records (open_ : t.visit.session.status ≠ .closed) :
    Succeeds (suspend node) t fun _ u => t.Recorded u := by
  unfold suspend publish
  simp only [Succeeds.bind_iff, act_iff, Succeeds.modify_iff]
  refine (setPending_done _ open_).mono fun _ v done => ?_
  obtain ⟨session, journal⟩ := done
  refine ⟨rfl, rfl, rfl, rfl, ?_, ?_⟩
  · simp [Visit.publish, session]
  · exact ⟨_, by rw [← journal]; rfl⟩

theorem suspend_refused (closed : t.visit.session.status = .closed) :
    suspend node t = .error (.notAllowed .closed) t := by
  have refused : Visit.setPending (some node) t.visit = _ := Visit.setPending_of_closed closed
  exact bind_of_error (by rw [act, refused])

theorem clear_records :
    Succeeds (do clearPending; publish event) t fun _ u => t.Recorded u := by
  unfold publish
  simp only [Succeeds.bind_iff, Succeeds.modify_iff]
  -- A closed session refuses to be cleared, which is no failure.
  by_cases closed : t.visit.session.status = .closed
  · have cleared : clearPending t = .ok () t := by
      unfold clearPending
      rw [Visit.setPending_of_closed closed]
    exact (Succeeds.ok_iff cleared).2 ⟨rfl, rfl, rfl, rfl, rfl, _, rfl⟩
  · obtain ⟨_, v, run, session, journal⟩ := setPending_done none closed
    have cleared : clearPending t = .ok () { t with visit := v } := by
      unfold clearPending
      rw [run]
    refine (Succeeds.ok_iff cleared).2 ⟨rfl, rfl, rfl, rfl, ?_, ?_⟩
    · simp [Visit.publish, session]
    · exact ⟨_, by rw [← journal]; rfl⟩

theorem conclude_records (open_ : outcome.Waits → t.visit.session.status ≠ .closed)
    (final : outcome.IsFinal) : Succeeds (conclude outcome) t fun _ u => t.Recorded u := by
  cases outcome with
  | continuedTo last => contradiction
  | paused node | delayed node next seconds => exact suspend_records (open_ trivial)
  | stalled node => exact clear_records
  | queued queue | terminated => exact clear_records

end Record

section Bounds

theorem Travels.within (travels : Travels here budget node r t) : r.Within budget t := by
  obtain ⟨path, last, s, -, ⟨executed, length⟩ | ⟨executed, length⟩⟩ := travels
  · exact ⟨_, executed, Nat.le_of_eq length⟩
  · exact ⟨_, executed, by rw [List.length_append]; exact length⟩

theorem goOn_within (step : Step) :
    Ends (goOn here budget step) r (fun _ t => r.Within budget t) (r.Within budget) := by
  have nowhere : r.Within budget r := ⟨[], by simp, Nat.zero_le _⟩
  cases step with
  | halt outcome => exact Ends.pure_iff.2 nowhere
  | next node =>
    by_cases known : here.graph.HasNode node
    · rw [goOn, advance_of_known known]
      exact (steps_travels known).mono (fun _ _ => Travels.within) fun _ => Travels.within
    · rw [goOn, advance_of_unknown known]
      exact Ends.throw_iff.2 nowhere

theorem goOn_closes {step : Step} {outcome : Outcome}
    (run : goOn here budget step r = .ok outcome t) (closed : t.visit.session.status = .closed) :
    r.visit.session.status = .closed ∨ outcome = .terminated := by
  cases step with
  | halt halted =>
    cases run
    exact .inl closed
  | next node =>
    by_cases known : here.graph.HasNode node
    · rw [goOn, advance_of_known known] at run
      cases run ▸ steps_round known with
      | spent moves length => exact .inl (moves.unclosed closed)
      | halted moves length member halts =>
        exact ((execute_halt member halts).2.2 closed).imp_left moves.unclosed
    · rw [goOn, advance_of_unknown known] at run
      contradiction

theorem answered_talks (node : Node) (reply : Reply) : Talks (answered here node reply) := fun r =>
  (answered_goes node reply r).mono (fun _ _ => And.left) fun _ => id

theorem round_within {start : Walk Step} (talks : Talks start) :
    Ends (start >>= goOn here budget) r (fun _ t => r.Within budget t) (r.Within budget) := by
  have stays {s : Run} (same : r.Same s) (t : Run) (within : s.Within budget t) :
      r.Within budget t := by
    obtain ⟨executed, path, few⟩ := within
    exact ⟨executed, by rw [path, same.path], few⟩
  refine Ends.bind_iff.2 ((talks r).mono (fun step s same => ?_) fun s same => ?_)
  · exact (goOn_within step).mono (fun _ => stays same) (stays same)
  · exact stays same s ⟨[], by simp, Nat.zero_le _⟩

end Bounds

section Recording

variable {round : Walk Outcome} {outcome : Outcome} {failure : Failure}

theorem recorded_of_ok (run : round r = .ok outcome t) :
    recorded round r = (do conclude outcome.settled; return outcome.settled : Walk Outcome) t :=
  bind_of_ok run

theorem recorded_of_error (run : round r = .error failure t) :
    recorded round r = .error failure t :=
  bind_of_error run

theorem exists_of_recorded_eq_ok (run : recorded round r = .ok outcome t) :
    ∃ o s, round r = .ok o s ∧ outcome = o.settled := by
  obtain ⟨o, s, first, rest⟩ := bind_eq_ok_iff.1 run
  obtain ⟨-, u, -, last⟩ := bind_eq_ok_iff.1 rest
  exact ⟨o, s, first, (EStateM.Result.ok.inj last).1.symm⟩

theorem recorded_records (run : round r = .ok outcome t)
    (open_ : outcome.Waits → t.visit.session.status ≠ .closed) :
    ∃ u, recorded round r = .ok outcome.settled u ∧ t.Recorded u := by
  obtain ⟨_, u, concluded, record⟩ :=
    conclude_records (outcome.waits_settled ▸ open_) outcome.settled_final
  exact ⟨u, (recorded_of_ok run).trans (bind_of_ok concluded), record⟩

theorem recorded_refused (run : round r = .ok outcome t) (waits : outcome.Waits)
    (closed : t.visit.session.status = .closed) :
    recorded round r = .error (.notAllowed .closed) t := by
  have refused : conclude outcome.settled t = .error (.notAllowed .closed) t := by
    cases outcome with
    | paused | delayed => exact suspend_refused closed
    | _ => contradiction
  exact (recorded_of_ok run).trans (bind_of_error refused)

theorem recorded_or_refused (run : round r = .ok outcome t) :
    (∃ u, recorded round r = .ok outcome.settled u ∧ t.Recorded u) ∨
      outcome.Waits ∧ recorded round r = .error (.notAllowed .closed) t := by
  by_cases refuses : outcome.Waits ∧ t.visit.session.status = .closed
  · exact .inr ⟨refuses.1, recorded_refused run refuses.1 refuses.2⟩
  · exact .inl (recorded_records run fun waits closed => refuses ⟨waits, closed⟩)

end Recording

/-- A desk's run beside the single round with the budget of all its rounds. -/
structure OneRound (round whole : Walk Outcome) (most : Nat) (r : Run) : Prop where
  /-- Settling is recording the end of that round, in every state and whatever fails. -/
  program : whole = recorded round
  executes : r.Within most (stateAfter whole r)
  fails : ∀ failure t, round r = .error failure t → whole r = .error failure t
  ends : r.visit.session.status ≠ .closed → ∀ outcome t, round r = .ok outcome t →
    ∃ u, whole r = .ok outcome.settled u ∧ t.Recorded u
  /-- Only a session that was closed all along may refuse the record, and then nothing is changed. -/
  refused : r.visit.session.status = .closed → ∀ outcome t, round r = .ok outcome t →
    (∃ u, whole r = .ok outcome.settled u ∧ t.Recorded u) ∨
      outcome.Waits ∧ whole r = .error (.notAllowed .closed) t

namespace OneRound

variable {start : Walk Step} {round : Walk Outcome}

theorem of_bounds
    (within : Ends round r (fun _ t => r.Within budget t) (r.Within budget))
    (closes : ∀ outcome t, round r = .ok outcome t → t.visit.session.status = .closed →
      r.visit.session.status = .closed ∨ outcome = .terminated) :
    OneRound round (recorded round) budget r where
  program := rfl
  fails _ _ := recorded_of_error
  ends open_ outcome t run := by
    refine recorded_records run fun waits closed => ?_
    rcases closes outcome t run closed with still | rfl
    · exact open_ still
    · exact waits
  refused _ _ _ := recorded_or_refused
  executes := by
    cases run : round r with
    | error failure t =>
      rw [stateAfter, recorded_of_error run]
      exact within.error failure t run
    | ok outcome t =>
      obtain ⟨executed, path, few⟩ := within.ok outcome t run
      rw [stateAfter]
      obtain ⟨u, recorded, record⟩ | ⟨-, refused⟩ := recorded_or_refused run
      · rw [recorded]
        exact ⟨executed, record.path.trans path, few⟩
      · rw [refused]
        exact ⟨executed, path, few⟩

theorem of_start (talks : Talks start) :
    OneRound (start >>= goOn here budget) (recorded (start >>= goOn here budget)) budget r := by
  refine of_bounds (round_within talks) fun outcome t run closed => ?_
  obtain ⟨step, s, started, run⟩ := bind_eq_ok_iff.1 run
  have same : r.Same s := (Ends.ok_iff started).1 (talks r)
  exact (goOn_closes run closed).imp_left same.status.symm.trans

theorem of_throw (failure : Failure) :
    OneRound (throw failure) (recorded (throw failure)) budget r := by
  have thrown : (throw failure : Walk Outcome) r = .error failure r := rfl
  refine of_bounds (Ends.throw_iff.2 ?_) fun outcome t run => ?_
  · exact ⟨[], (List.append_nil _).symm, Nat.zero_le _⟩
  · rw [thrown] at run
    contradiction

end OneRound

/-- However a budget is cut into rounds, they come to one round with the product of both limits: the same
nodes are executed, the same is said, asked and set, and the same is the end. Only a flow that would go
on is told to have stalled. -/
theorem rounds_multiply (here : Surroundings) (budget rounds : Nat) (node pending : String)
    (reply : Reply) (r : Run) :
    let most := max budget 1 * max rounds 1
    OneRound (advance here most node) (runFrom (here.within budget rounds) node) most r ∧
      OneRound (resume here most pending reply)
        (resumeFrom (here.within budget rounds) pending reply) most r := by
  intro most
  have limits : (here.within budget rounds).engine.budget *
      (here.within budget rounds).engine.rounds = most := rfl
  rw [runFrom_eq, resumeFrom_eq, limits, advance_within, resume_within]
  constructor
  · have begins : advance here most node = pure (.next node) >>= goOn here most := by
      rw [pure_bind]
      rfl
    rw [begins]
    exact .of_start (.pure _)
  · cases known : here.graph.node? pending with
    | none =>
      rw [resume_of_unknown known]
      exact .of_throw _
    | some found =>
      rw [resume_of_known known]
      exact .of_start (answered_talks found reply)

end Walk
end Switchboard
