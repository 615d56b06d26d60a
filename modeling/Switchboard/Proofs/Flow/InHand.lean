import Switchboard.Proofs.Flow.Trail
import Switchboard.Proofs.Script.Keeping

/-! The variables in hand. A run has a copy of its session's variables, and where it sets some the two
change by different ways: the session's are patched, and the copy becomes what has come of that. Nothing
else that a handler does touches either, so the copy is never out of date. -/
namespace Switchboard

namespace Run

/-- The copy is what the session has. -/
def InHand (r : Run) : Prop := r.bag = r.visit.session.bag

def Retains (r t : Run) : Prop := r.InHand → t.InHand

instance : Std.Refl Retains := ⟨fun _ inHand => inHand⟩

instance : Trans Retains Retains Retains := ⟨fun first second inHand => second (first inHand)⟩

theorem Recorded.retains {r t : Run} (record : r.Recorded t) : r.Retains t := by
  intro inHand
  have session : t.visit.session.bag = r.visit.session.bag := by rw [record.session]
  exact record.bag.trans (inHand.trans session.symm)

end Run

namespace Walk

variable {here : Surroundings} {r : Run} {α : Type}

theorem act_retains {work : Visit.Act α}
    (same : ∀ v, Ends work v (fun _ w => w.session.bag = v.session.bag)
      fun w => w.session.bag = v.session.bag) : Respects Run.Retains (act work) := fun r =>
  act_ends_iff.2 ((same r.visit).mono (fun _ _ same inHand => inHand.trans same.symm)
    fun _ same inHand => inHand.trans same.symm)

theorem keptByAll_retains (here : Surroundings) : KeptByAll here Run.Retains where
  asks _ _ inHand := inHand
  requests _ _ inHand := inHand
  moves _ _ inHand := inHand
  posts _ _ _ := act_retains fun _ => .of_guarded (Visit.change_eq Session.append_eq) rfl rfl
  transfers _ _ := act_retains fun _ => .of_guarded (Visit.change_eq Session.transfer_eq) rfl rfl
  closes _ _ := act_retains fun _ => .of_guarded (Visit.change_eq Session.close_eq) rfl rfl
  patches changes := by
    intro r
    rw [Walk.patch, Ends.bind_iff, ask_ends_iff, Ends.bind_iff, act_ends_iff]
    refine .of_guarded (Visit.change_eq Session.mergeVariables_eq) (fun inHand => inHand) ?_
    exact Ends.modify_iff.2 fun _ => rfl

theorem patch_merges {changes : Variables} (bot : r.visit.session.status = .bot) :
    Succeeds (patch here changes) r fun _ t =>
      t.bag = r.visit.session.bag.merge changes ∧ t.InHand := by
  have open_ : r.visit.session.closedRefusal = none := by
    simp [Session.closedRefusal_eq_none_iff, bot]
  rw [patch, Succeeds.bind_iff, ask_iff, Succeeds.bind_iff, act_iff]
  refine .of_guarded (Visit.change_eq Session.mergeVariables_eq) open_ ?_
  exact Succeeds.modify_iff.2 ⟨rfl, rfl⟩

variable {b : Script.Bounds} {source : String} {bag : Variables}

/-- A script's result is patched in, and yet replaces all the variables. -/
theorem runScript_replaces (bot : r.visit.session.status = .bot) (inHand : r.InHand)
    (ran : Script.evaluate b r.bag source = .ok bag)
    (answers : here.services.evaluate r.asked r.bag source = some bag) :
    Succeeds (runScript here source) r fun _ t => t.bag = bag ∧ t.InHand := by
  rw [runScript, Succeeds.bind_iff, Succeeds.get_iff, Succeeds.bind_iff, ask_iff, answers]
  have patches : Succeeds (patch here bag) { r with asked := r.asked + 1 } _ := patch_merges bot
  refine patches.mono fun _ t patched => ?_
  have replaced : r.visit.session.bag.merge bag = bag := inHand ▸ Script.merge_evaluated ran
  exact ⟨patched.1.trans replaced, patched.2⟩

end Walk

theorem Handling.script_replaces {here : Surroundings} {h : Handling} {b : Script.Bounds}
    {source : String} {bag : Variables} (kind : h.node.kind = .script source)
    (bot : h.before.visit.session.status = .bot) (inHand : h.before.InHand)
    (ran : Script.evaluate b h.before.bag source = .ok bag)
    (answers : here.services.evaluate h.before.asked h.before.bag source = some bag) :
    (h.after here).bag = bag ∧ (h.after here).visit.session.bag = bag := by
  have runs : Succeeds (Walk.perform here h.node.id h.node.kind) h.before fun _ t =>
      t.bag = bag ∧ t.InHand := by
    rw [kind]
    refine (Walk.runScript_replaces bot inHand ran answers).seq fun _ t replaced => ?_
    exact Succeeds.pure_iff.2 replaced
  obtain ⟨step, t, run, replaced, inHand⟩ := runs
  rw [Handling.after, stateAfter_of_ok run]
  exact ⟨replaced, inHand.symm.trans replaced⟩

namespace Impulse

variable {here : Surroundings} {impulse : Impulse} {r t : Run} {outcome : Outcome}

theorem program_retains (fits : impulse.Fits here.graph)
    (run : impulse.program here r = .ok outcome t) : r.Retains t := by
  obtain ⟨o, s, round, -, -, record⟩ := round_of_program fits run
  have retains : r.Retains s :=
    (round_kept (Walk.keptByAll_retains here) impulse _ r).ok o s round
  exact Trans.trans retains record.retains

end Impulse
end Switchboard
