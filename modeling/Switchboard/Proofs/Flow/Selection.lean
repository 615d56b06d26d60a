import Mathlib.Data.List.DropRight
import Switchboard.Catalogue.Template
import Switchboard.Proofs.Flow.Building
import Switchboard.Proofs.Flow.Whereabouts

/-! Which button a reply selects, and where that takes the flow. A reply that presses a button selects it by its
name alone. One that presses none selects the first button whose label it writes out; a label of a template without
fault has something in it, so blank text writes out none. Either way the flow knows only the name of the button, and
this is the one thing that leads it away from a template. -/
namespace Switchboard

namespace Text

theorem trimStart_eq_nil_iff {cs : List Char} : trimStart cs = [] ↔ ∀ c ∈ cs, isBlank c := List.dropWhile_eq_nil_iff

theorem trimChars_eq_nil_iff {cs : List Char} : trimChars cs = [] ↔ ∀ c ∈ cs, isBlank c := by
  have once : trimStart (trimStart cs) = trimStart cs := List.dropWhile_idempotent ..
  calc trimChars cs = []
      ↔ trimStart (trimStart cs).reverse = [] := List.reverse_eq_nil_iff
    _ ↔ ∀ c ∈ trimStart cs, isBlank c := by rw [trimStart_eq_nil_iff]; simp only [List.mem_reverse]
    _ ↔ trimStart cs = [] := by rw [← trimStart_eq_nil_iff, once]
    _ ↔ ∀ c ∈ cs, isBlank c := trimStart_eq_nil_iff

theorem trim_eq_empty_iff {s : String} : trim s = "" ↔ isBlankText s = true := by
  rw [trim, String.ofList_eq_empty_iff, trimChars_eq_nil_iff, isBlankText, List.all_eq_true]

theorem eq_empty_of_sameIgnoringCase {s : String} (same : sameIgnoringCase s "" = true) : s = "" := by
  simpa [sameIgnoringCase] using same

end Text

/-- The text is the label of the button, but for blanks around either and for the case of ASCII letters. -/
def Button.IsWrittenOut (button : Button) (text : String) : Prop :=
  Text.sameIgnoringCase (Text.trim button.label) (Text.trim text) = true

instance (button : Button) (text : String) : Decidable (button.IsWrittenOut text) :=
  inferInstanceAs (Decidable (_ = true))

/-- The reply presses the button, or writes out its label where it presses none. -/
def Reply.Picks (reply : Reply) (button : Button) : Prop :=
  match reply.button with
  | some name => button.id = name
  | none => Text.trim reply.text ≠ "" ∧
    Text.sameIgnoringCase (Text.trim button.label) (Text.trim reply.text) = true

theorem Template.not_isWrittenOut_of_blank {template : Template} {button : Button} {text : String}
    (valid : template.fault? = none) (member : button ∈ template.buttons) (blank : Text.isBlankText text = true) :
    ¬ button.IsWrittenOut text := by
  intro written
  rw [Button.IsWrittenOut, Text.trim_eq_empty_iff.2 blank] at written
  have label := Text.trim_eq_empty_iff.1 (Text.eq_empty_of_sameIgnoringCase written)
  rw [(template.fault?_eq_none_iff.1 valid).2 button member] at label
  exact Bool.false_ne_true label

def Surroundings.buttonsOf (here : Surroundings) (asked : Nat) (template : String) : List Button :=
  ((here.services.template? asked template).map Template.buttons).getD []

namespace Walk

/-- Where a reply takes a flow that waits at a template with these buttons. It goes on along the edge of the button
that is selected, stalls if there is no such edge, and waits on if no button is selected. -/
inductive Turns (here : Surroundings) (budget : Nat) (node : String) (buttons : List Button) (reply : Reply)
    (r : Run) : EStateM.Result Failure Run Outcome → Prop
  | leaves {button : Button} {target : String} : button ∈ buttons → chosenButton buttons reply = some button.id →
    .branch node button.id target ∈ here.graph.edges →
    Turns here budget node buttons reply r (advance here budget target r)
  | stalls {button : Button} : button ∈ buttons → chosenButton buttons reply = some button.id →
    (∀ target, .branch node button.id target ∉ here.graph.edges) →
    Turns here budget node buttons reply r (.ok (.stalled node) r)
  | waits : chosenButton buttons reply = none → Turns here budget node buttons reply r (.ok (.paused node) r)

section Choice

variable {buttons : List Button} {reply : Reply} {name : String}

theorem chosenButton_eq_some_iff : chosenButton buttons reply = some name ↔
    ∃ before first after, buttons = before ++ first :: after ∧ (∀ earlier ∈ before, ¬ reply.Picks earlier) ∧
      reply.Picks first ∧ first.id = name := by
  unfold chosenButton Reply.Picks
  cases reply.button with
  | some pressed =>
    simp only [Option.map_eq_some_iff, List.find?_eq_some_iff_append]
    grind
  | none =>
    simp only [Option.map_eq_some_iff, List.find?_eq_some_iff_append]
    grind

theorem chosenButton_eq_none_iff : chosenButton buttons reply = none ↔ ∀ button ∈ buttons, ¬ reply.Picks button := by
  unfold chosenButton Reply.Picks
  cases reply.button <;> simp

theorem chosenButton_isSome_iff :
    (chosenButton buttons reply).isSome ↔ ∃ button ∈ buttons, reply.Picks button := by
  rw [Option.isSome_iff_ne_none, ne_eq, chosenButton_eq_none_iff]
  push Not
  rfl

theorem offered_of_chosenButton (chosen : chosenButton buttons reply = some name) :
    ∃ button ∈ buttons, button.id = name := by
  obtain ⟨before, first, after, rfl, -, -, named⟩ := chosenButton_eq_some_iff.1 chosen
  exact ⟨first, List.mem_append_right _ (.head _), named⟩

end Choice

section Template

variable {template : Template} {front rest : List Button} {button : Button} {name text : String}

theorem chosenButton_of_press (member : button ∈ template.buttons) :
    chosenButton template.buttons ⟨text, some button.id⟩ = some button.id := by
  have pressed : (Reply.mk text (some button.id)).Picks button := rfl
  obtain ⟨name, chosen⟩ := Option.isSome_iff_exists.1 (chosenButton_isSome_iff.2 ⟨button, member, pressed⟩)
  obtain ⟨_, first, _, -, -, same, rfl⟩ := chosenButton_eq_some_iff.1 chosen
  rw [chosen]
  exact congrArg some same

/-- In a template without fault a text picks just the buttons whose labels it writes out. -/
theorem picks_iff_isWrittenOut (valid : template.fault? = none) (member : button ∈ template.buttons) :
    (Reply.mk text none).Picks button ↔ button.IsWrittenOut text := by
  refine ⟨And.right, fun written => ⟨fun empty => ?_, written⟩⟩
  exact template.not_isWrittenOut_of_blank valid member (Text.trim_eq_empty_iff.1 empty) written

theorem chosenButton_of_first (valid : template.fault? = none) (split : template.buttons = front ++ button :: rest)
    (written : button.IsWrittenOut text) (first : ∀ earlier ∈ front, ¬ earlier.IsWrittenOut text) :
    chosenButton template.buttons ⟨text, none⟩ = some button.id := by
  have member : button ∈ template.buttons := split ▸ List.mem_append_right _ (.head _)
  refine chosenButton_eq_some_iff.2 ⟨front, button, rest, split, fun earlier member picks => ?_, ?_, rfl⟩
  · exact first earlier member picks.2
  · exact (picks_iff_isWrittenOut valid member).2 written

theorem chosenButton_of_written (valid : template.fault? = none) (member : button ∈ template.buttons)
    (written : button.IsWrittenOut text) :
    ∃ before first after, template.buttons = before ++ first :: after ∧
      (∀ earlier ∈ before, ¬ earlier.IsWrittenOut text) ∧ first.IsWrittenOut text ∧
      chosenButton template.buttons ⟨text, none⟩ = some first.id := by
  have picked := (picks_iff_isWrittenOut valid member).2 written
  obtain ⟨name, chosen⟩ := Option.isSome_iff_exists.1 (chosenButton_isSome_iff.2 ⟨button, member, picked⟩)
  obtain ⟨before, first, after, split, passed, picks, rfl⟩ := chosenButton_eq_some_iff.1 chosen
  refine ⟨before, first, after, split, fun earlier early its => passed earlier early ?_, picks.2, chosen⟩
  exact (picks_iff_isWrittenOut valid (split ▸ List.mem_append_left _ early)).2 its

theorem chosenButton_of_unwritten (valid : template.fault? = none)
    (none_ : Text.isBlankText text = true ∨ ∀ button ∈ template.buttons, ¬ button.IsWrittenOut text) :
    chosenButton template.buttons ⟨text, none⟩ = none := by
  refine chosenButton_eq_none_iff.2 fun button member picks => ?_
  obtain blank | unwritten := none_
  · exact template.not_isWrittenOut_of_blank valid member blank picks.2
  · exact unwritten button member picks.2

theorem chosenButton_of_unknown {buttons : List Button} (unknown : ∀ button ∈ buttons, button.id ≠ name) :
    chosenButton buttons ⟨text, some name⟩ = none :=
  chosenButton_eq_none_iff.2 unknown

end Template

section Departure

variable {here : Surroundings} {budget : Nat} {node : Node} {id : String} {reply : Reply} {r t : Run} {step : Step}

theorem template_halts (performed : perform here node.id (.template id) r = .ok step t) :
    step = .halt (.paused node.id) ∨ step = .halt (.stalled node.id) := by
  have befits := perform_befits _ _ _ _ _ performed
  cases step with
  | next next => cases befits
  | halt outcome =>
    cases outcome with
    | paused at_ => exact .inl (by rw [befits.1])
    | stalled at_ => exact .inr (by rw [show at_ = node.id from befits])
    | continuedTo at_ => exact befits.elim
    | delayed at_ next seconds => cases befits.2.1
    | queued queue => cases befits
    | terminated => simp [Step.Befits, Kind.Stops] at befits

theorem chosenButton_buttonsOf {asked : Nat} :
    (here.services.template? asked id).bind (chosenButton ·.buttons reply) =
      chosenButton (here.buttonsOf asked id) reply := by
  unfold Surroundings.buttonsOf
  cases here.services.template? asked id with
  | some template => rfl
  | none => exact (chosenButton_eq_none_iff.2 (List.forall_mem_nil _)).symm

theorem answered_at_template (kind : node.kind = .template id) :
    answered here node reply r =
      .ok (match chosenButton (here.buttonsOf r.asked id) reply with
        | some button => takeBranch here node.id button
        | none => .halt (.paused node.id)) { r with asked := r.asked + 1 } := by
  rw [← chosenButton_buttonsOf]
  unfold answered
  rw [kind]
  rfl

theorem resume_turns (known : here.graph.node? node.id = some node) (kind : node.kind = .template id) :
    Turns here budget node.id (here.buttonsOf r.asked id) reply { r with asked := r.asked + 1 }
      (resume here budget node.id reply r) := by
  rw [resume_of_known known, bind_of_ok (answered_at_template kind)]
  cases chosen : chosenButton (here.buttonsOf r.asked id) reply with
  | none => exact .waits chosen
  | some name =>
    obtain ⟨button, member, rfl⟩ := offered_of_chosenButton chosen
    dsimp only
    unfold takeBranch
    split
    · rename_i target leads
      exact .leaves member chosen (Graph.branch_eq_some_iff.1 leads)
    · rename_i none_
      refine .stalls member chosen fun target edge => ?_
      rw [Graph.branch_eq_some_iff.2 edge] at none_
      contradiction

end Departure

/-- A template without fault can be answered with each of its buttons. A reply that presses one selects it by its name,
whatever is written beside. Text without a button selects the first one whose label it writes out, which is this one
if no button before has such a label. What presses a button that is not offered, or is blank or writes out no label,
selects nothing. So the flow, which stays at a template that it comes to, leaves it only by a reply, and only along
the edge of a button that is offered there and then. -/
theorem selection_keeps_to_buttons {template : Template} (valid : template.fault? = none) :
    (∀ button ∈ template.buttons, ∀ text,
      chosenButton template.buttons ⟨text, some button.id⟩ = some button.id) ∧
    (∀ front button rest text, template.buttons = front ++ button :: rest → button.IsWrittenOut text →
      (∃ before first after, template.buttons = before ++ first :: after ∧
        (∀ earlier ∈ before, ¬ earlier.IsWrittenOut text) ∧ first.IsWrittenOut text ∧
        chosenButton template.buttons ⟨text, none⟩ = some first.id) ∧
      ((∀ earlier ∈ front, ¬ earlier.IsWrittenOut text) →
        chosenButton template.buttons ⟨text, none⟩ = some button.id)) ∧
    (∀ text name, (∀ button ∈ template.buttons, button.id ≠ name) →
      chosenButton template.buttons ⟨text, some name⟩ = none) ∧
    (∀ text, (Text.isBlankText text = true ∨ ∀ button ∈ template.buttons, ¬ button.IsWrittenOut text) →
      chosenButton template.buttons ⟨text, none⟩ = none) ∧
    ∀ (here : Surroundings) (node : Node) (id : String), here.graph.node? node.id = some node →
      node.kind = .template id → ∀ r : Run,
        (∀ step t, perform here node.id node.kind r = .ok step t →
          step = .halt (.paused node.id) ∨ step = .halt (.stalled node.id)) ∧
        ∀ budget reply, Turns here budget node.id (here.buttonsOf r.asked id) reply { r with asked := r.asked + 1 }
          (resume here budget node.id reply r) := by
  refine ⟨fun _ member _ => chosenButton_of_press member, fun front button rest text split written => ⟨?_, ?_⟩,
    fun _ _ => chosenButton_of_unknown, fun _ => chosenButton_of_unwritten valid,
    fun here node id known kind r => ⟨fun step t performed => ?_, fun _ _ => resume_turns known kind⟩⟩
  · exact chosenButton_of_written valid (split ▸ List.mem_append_right _ (.head _)) written
  · exact chosenButton_of_first valid split written
  · exact template_halts (kind ▸ performed)

/-- Three buttons, two of which have the same label but for blanks and case, and two the same name. -/
def sampleMenu : Template :=
  ⟨"menu", "Menu", "Sim ou não?", [⟨"yes", " Sim "⟩, ⟨"no", "Não"⟩, ⟨"no", "SIM"⟩]⟩

theorem sampleMenu_selects :
    sampleMenu.fault? = none ∧ chosenButton sampleMenu.buttons ⟨"sim", some "no"⟩ = some "no" ∧
      chosenButton sampleMenu.buttons ⟨"\tsIM", none⟩ = some "yes" ∧
      chosenButton sampleMenu.buttons ⟨" ", none⟩ = none := by
  have valid : sampleMenu.fault? = none := by decide +kernel
  obtain ⟨pressed, written, -, unwritten, -⟩ := selection_keeps_to_buttons valid
  refine ⟨valid, pressed ⟨"no", "Não"⟩ (by decide) "sim", ?_, unwritten " " (.inl (by decide +kernel))⟩
  exact (written [] ⟨"yes", " Sim "⟩ _ "\tsIM" rfl (by decide +kernel)).2 (List.forall_mem_nil _)

end Walk
end Switchboard
