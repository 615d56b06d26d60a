import Mathlib.Data.List.Basic
import Switchboard.Catalogue.Loading
import Switchboard.Proofs.Dict
import Switchboard.Proofs.Success

/-! What a catalogue holds after files have been loaded into it. A file that cannot be read changes nothing. The
entries of a file that can be read are set one after another, the last one of an identifier standing; and as
templates are judged on the way, a faulty one keeps out those behind it and leaves those before it in. -/
namespace Switchboard
namespace Catalogue

inductive Load
  | schedules (file : Option String)
  | templates (file : Option String)

def Load.perform : Load → Loading Nat
  | schedules file => loadSchedules file
  | templates file => loadTemplates file

/-- Files have been loaded into an empty catalogue, with success or not. -/
inductive Reached : Catalogue → Prop
  | empty : Reached .empty
  | load {c : Catalogue} (load : Load) : Reached c → Reached (stateAfter load.perform c)

def addSchedules (groups : List ScheduleGroup) (c : Catalogue) : Catalogue :=
  groups.foldl (fun c group => c.addSchedule group) c

def keepTemplates (templates : List Template) (c : Catalogue) : Catalogue :=
  templates.foldl (fun c template => c.keepTemplate template) c

def lastOf (id : α → String) (entries : List α) (key : String) : Option α :=
  entries.reverse.find? (id · == key)

def FirstFault (templates front : List Template) (fault : Template.Fault) : Prop :=
  ∃ faulty rest, templates = front ++ faulty :: rest ∧ (∀ template ∈ front, template.fault? = none) ∧
    faulty.fault? = some fault

variable {c after : Catalogue} {groups : List ScheduleGroup} {templates front rest : List Template}
  {template : Template} {fault : Template.Fault} {failure : Failure} {file : Option String} {count : Nat}
  {id : String}

section Entries

theorem foldl_set {α : Type} {dict : Catalogue → Dict α} {add : Catalogue → α → Catalogue} {name : α → String}
    (sets : ∀ c entry, dict (add c entry) = (dict c).set (name entry) entry) (entries : List α) (c : Catalogue) :
    dict (entries.foldl add c) = (dict c).setAll (entries.map fun entry => (name entry, entry)) := by
  rw [Dict.setAll, List.foldl_map]
  exact (List.foldl_hom dict fun c entry => (sets c entry).symm).symm

theorem schedules_addSchedules : (c.addSchedules groups).schedules =
    c.schedules.setAll (groups.map fun group => (group.id, group)) :=
  foldl_set (fun _ _ => rfl) groups c

theorem templates_keepTemplates : (c.keepTemplates templates).templates =
    c.templates.setAll (templates.map fun template => (template.id, template)) :=
  foldl_set (fun _ _ => rfl) templates c

theorem foldl_same {α β : Type} (dict : Catalogue → Dict β) (add : Catalogue → α → Catalogue)
    (same : ∀ c entry, dict (add c entry) = dict c) (entries : List α) (c : Catalogue) :
    dict (entries.foldl add c) = dict c :=
  List.foldlRecOn (motive := fun after => dict after = dict c) entries add rfl fun after kept entry _ =>
    (same after entry).trans kept

theorem templates_addSchedules : (c.addSchedules groups).templates = c.templates :=
  foldl_same Catalogue.templates (fun c group => c.addSchedule group) (fun _ _ => rfl) groups c

theorem schedules_keepTemplates : (c.keepTemplates templates).schedules = c.schedules :=
  foldl_same Catalogue.schedules (fun c template => c.keepTemplate template) (fun _ _ => rfl) templates c

theorem get?_setAll_entries {α : Type} {name : α → String} {entries : List α} {d : Dict α} :
    (d.setAll (entries.map fun entry => (name entry, entry))).get? id =
      (lastOf name entries id).or (d.get? id) := by
  rw [Dict.get?_setAll, ← List.map_reverse, Dict.find_labelled, lastOf]

theorem schedule?_addSchedules :
    (c.addSchedules groups).schedule? id = (lastOf ScheduleGroup.id groups id).or (c.schedule? id) := by
  rw [schedule?, schedules_addSchedules, get?_setAll_entries, schedule?]

theorem template?_keepTemplates :
    (c.keepTemplates templates).template? id = (lastOf Template.id templates id).or (c.template? id) := by
  rw [template?, templates_keepTemplates, get?_setAll_entries, template?]

end Entries

section Faults

theorem addTemplate_of_sound (sound : template.fault? = none) :
    addTemplate template c = .ok () (c.keepTemplate template) := by
  unfold addTemplate
  rw [sound]

theorem addTemplate_of_faulty (found : template.fault? = some fault) :
    addTemplate template c = .error (.catalogue fault.message) c := by
  unfold addTemplate
  rw [found]

theorem addTemplates_cons :
    addTemplates (template :: rest) c = (do addTemplate template; addTemplates rest) c := by
  cases judged : addTemplate template c with
  | ok done next =>
    rw [bind_of_ok judged]
    simp only [addTemplates, judged]
  | error failure next =>
    rw [bind_of_error judged]
    simp only [addTemplates, judged]

theorem addTemplates_append (faultless : ∀ template ∈ front, template.fault? = none) :
    addTemplates (front ++ rest) c = addTemplates rest (c.keepTemplates front) := by
  induction front generalizing c with
  | nil => rfl
  | cons template front ih =>
    obtain ⟨sound, faultless⟩ := List.forall_mem_cons.1 faultless
    rw [List.cons_append, addTemplates_cons, bind_of_ok (addTemplate_of_sound sound)]
    exact ih faultless

theorem addTemplates_of_faultless (faultless : ∀ template ∈ templates, template.fault? = none) :
    addTemplates templates c = .ok () (c.keepTemplates templates) := by
  have whole : addTemplates (templates ++ []) c = _ := addTemplates_append faultless
  rw [List.append_nil] at whole
  exact whole

theorem FirstFault.addTemplates_eq (first : FirstFault templates front fault) :
    addTemplates templates c = .error (.catalogue fault.message) (c.keepTemplates front) := by
  obtain ⟨faulty, rest, rfl, faultless, found⟩ := first
  rw [addTemplates_append faultless, addTemplates_cons]
  exact bind_of_error (addTemplate_of_faulty found)

theorem FirstFault.not_faultless (first : FirstFault templates front fault) :
    ¬ ∀ template ∈ templates, template.fault? = none := by
  obtain ⟨faulty, rest, rfl, -, found⟩ := first
  intro faultless
  have sound := faultless faulty (List.mem_append_right _ (.head _))
  rw [found] at sound
  contradiction

theorem faultless_or_firstFault (templates : List Template) :
    (∀ template ∈ templates, template.fault? = none) ∨ ∃ front fault, FirstFault templates front fault := by
  induction templates with
  | nil => exact .inl (List.forall_mem_nil _)
  | cons template templates ih =>
    cases found : template.fault? with
    | some fault => exact .inr ⟨[], fault, template, templates, rfl, List.forall_mem_nil _, found⟩
    | none =>
      obtain faultless | ⟨front, fault, faulty, rest, rfl, faultless, found'⟩ := ih
      · exact .inl (List.forall_mem_cons.2 ⟨found, faultless⟩)
      · exact .inr ⟨template :: front, fault, faulty, rest, rfl,
          List.forall_mem_cons.2 ⟨found, faultless⟩, found'⟩

end Faults

section Files

theorem loadSchedules_of_unread (unread : readEntries ScheduleGroup.ofJson file = .error failure) :
    loadSchedules file c = .error failure c := by
  rw [loadSchedules, unread]

theorem loadSchedules_of_read (read : readEntries ScheduleGroup.ofJson file = .ok groups) :
    loadSchedules file c = .ok groups.length (c.addSchedules groups) := by
  rw [loadSchedules, read]
  rfl

theorem loadTemplates_of_unread (unread : readEntries Template.ofJson file = .error failure) :
    loadTemplates file c = .error failure c := by
  rw [loadTemplates, unread]

theorem loadTemplates_of_read (read : readEntries Template.ofJson file = .ok templates) :
    loadTemplates file c = (do addTemplates templates; return templates.length) c := by
  rw [loadTemplates, read]
  cases judged : addTemplates templates c with
  | ok done next =>
    rw [bind_of_ok judged]
    simp only [judged]
    rfl
  | error failure next =>
    rw [bind_of_error judged]
    simp only [judged]

theorem loadTemplates_of_faultless (read : readEntries Template.ofJson file = .ok templates)
    (faultless : ∀ template ∈ templates, template.fault? = none) :
    loadTemplates file c = .ok templates.length (c.keepTemplates templates) := by
  rw [loadTemplates_of_read read, bind_of_ok (addTemplates_of_faultless faultless)]
  rfl

theorem loadTemplates_of_firstFault (read : readEntries Template.ofJson file = .ok templates)
    (first : FirstFault templates front fault) :
    loadTemplates file c = .error (.catalogue fault.message) (c.keepTemplates front) := by
  rw [loadTemplates_of_read read, bind_of_error first.addTemplates_eq]

theorem loadSchedules_eq_ok_iff : loadSchedules file c = .ok count after ↔
    ∃ groups, readEntries ScheduleGroup.ofJson file = .ok groups ∧ groups.length = count ∧
      c.addSchedules groups = after := by
  cases read : readEntries ScheduleGroup.ofJson file with
  | error failure => simp [loadSchedules_of_unread read]
  | ok groups => simp [loadSchedules_of_read read]

theorem eq_of_loadSchedules_error (failed : loadSchedules file c = .error failure after) : after = c := by
  cases read : readEntries ScheduleGroup.ofJson file with
  | error failure =>
    rw [loadSchedules_of_unread read] at failed
    exact (EStateM.Result.error.inj failed).2.symm
  | ok groups =>
    rw [loadSchedules_of_read read] at failed
    contradiction

theorem loadTemplates_eq_ok_iff : loadTemplates file c = .ok count after ↔
    ∃ templates, readEntries Template.ofJson file = .ok templates ∧
      (∀ template ∈ templates, template.fault? = none) ∧ templates.length = count ∧
      c.keepTemplates templates = after := by
  cases read : readEntries Template.ofJson file with
  | error failure => simp [loadTemplates_of_unread read]
  | ok templates =>
    obtain faultless | ⟨front, fault, first⟩ := faultless_or_firstFault templates
    · simp only [loadTemplates_of_faultless read faultless, EStateM.Result.ok.injEq, Except.ok.injEq,
        exists_eq_left']
      exact (and_iff_right faultless).symm
    · simp only [loadTemplates_of_firstFault read first, reduceCtorEq, Except.ok.injEq, exists_eq_left',
        first.not_faultless, false_and]

theorem of_loadTemplates_error (failed : loadTemplates file c = .error failure after) :
    (readEntries Template.ofJson file = .error failure ∧ after = c) ∨
    ∃ templates front fault, readEntries Template.ofJson file = .ok templates ∧
      FirstFault templates front fault ∧ failure = .catalogue fault.message ∧
      after = c.keepTemplates front := by
  cases read : readEntries Template.ofJson file with
  | error other =>
    rw [loadTemplates_of_unread read] at failed
    cases failed
    exact .inl ⟨rfl, rfl⟩
  | ok templates =>
    obtain faultless | ⟨front, fault, first⟩ := faultless_or_firstFault templates
    · rw [loadTemplates_of_faultless read faultless] at failed
      contradiction
    · rw [loadTemplates_of_firstFault read first] at failed
      cases failed
      exact .inr ⟨templates, front, fault, rfl, first, rfl, rfl⟩

end Files

section Presentable

/-- No template is at hand that cannot be shown. -/
def Presentable (c : Catalogue) : Prop := ∀ id template, c.template? id = some template → template.fault? = none

theorem Presentable.keepTemplates (presentable : c.Presentable)
    (faultless : ∀ template ∈ templates, template.fault? = none) : (c.keepTemplates templates).Presentable := by
  intro id template there
  rw [template?_keepTemplates, Option.or_eq_some_iff] at there
  obtain last | ⟨-, earlier⟩ := there
  · exact faultless template (List.mem_reverse.1 (List.mem_of_find?_eq_some last))
  · exact presentable id template earlier

theorem Presentable.load (presentable : c.Presentable) (load : Load) :
    (stateAfter load.perform c).Presentable := by
  cases load with
  | schedules file =>
    cases run : loadSchedules file c with
    | ok count after =>
      obtain ⟨groups, -, -, rfl⟩ := loadSchedules_eq_ok_iff.1 run
      rw [Load.perform, stateAfter_of_ok run]
      intro id template there
      rw [template?, templates_addSchedules] at there
      exact presentable id template there
    | error failure after =>
      rw [stateAfter, Load.perform, run, eq_of_loadSchedules_error run]
      exact presentable
  | templates file =>
    cases run : loadTemplates file c with
    | ok count after =>
      obtain ⟨templates, -, faultless, -, rfl⟩ := loadTemplates_eq_ok_iff.1 run
      rw [Load.perform, stateAfter_of_ok run]
      exact presentable.keepTemplates faultless
    | error failure after =>
      rw [stateAfter, Load.perform, run]
      obtain ⟨-, rfl⟩ | ⟨templates, front, fault, -, ⟨faulty, rest, -, faultless, -⟩, -, rfl⟩ :=
        of_loadTemplates_error run
      · exact presentable
      · -- what was kept before the file was refused has been judged
        exact presentable.keepTemplates faultless

theorem Reached.presentable (reached : c.Reached) : c.Presentable := by
  induction reached with
  | empty =>
    intro id template there
    rw [template?, Catalogue.empty] at there
    contradiction
  | load load _ ih => exact ih.load load

end Presentable

/-- What files do to a catalogue, and what it may be asked for. -/
structure TakesFiles (c : Catalogue) : Prop where
  schedules_refused : ∀ file failure after, loadSchedules file c = .error failure after → after = c
  schedules_taken : ∀ file count after, loadSchedules file c = .ok count after ↔
    ∃ groups, readEntries ScheduleGroup.ofJson file = .ok groups ∧ groups.length = count ∧
      c.addSchedules groups = after
  schedules_added : ∀ groups, (c.addSchedules groups).templates = c.templates ∧
    ∀ id, (c.addSchedules groups).schedule? id = (lastOf ScheduleGroup.id groups id).or (c.schedule? id)
  /-- Where templates stand before the faulty one, they are kept. -/
  templates_refused : ∀ file failure after, loadTemplates file c = .error failure after → after = c ∨
    ∃ templates front fault, readEntries Template.ofJson file = .ok templates ∧
      FirstFault templates front fault ∧ front ≠ [] ∧ failure = .catalogue fault.message ∧
      after = c.keepTemplates front
  templates_taken : ∀ file count after, loadTemplates file c = .ok count after ↔
    ∃ templates, readEntries Template.ofJson file = .ok templates ∧
      (∀ template ∈ templates, template.fault? = none) ∧ templates.length = count ∧
      c.keepTemplates templates = after
  templates_kept : ∀ templates, (c.keepTemplates templates).schedules = c.schedules ∧
    ∀ id, (c.keepTemplates templates).template? id = (lastOf Template.id templates id).or (c.template? id)
  presentable : ∀ id template, c.template? id = some template →
    template.buttons.length ≤ Template.maxButtons ∧
      ∀ button ∈ template.buttons, Text.isBlankText button.label = false

/-- A file is refused without a trace unless templates stand before its first faulty one. One that is taken sets
the last of its entries under each identifier and leaves everything else. Whatever has been loaded, only
templates that can be shown are at hand. -/
theorem Reached.takes_files (reached : c.Reached) : c.TakesFiles where
  schedules_refused _ _ _ := eq_of_loadSchedules_error
  schedules_taken _ _ _ := loadSchedules_eq_ok_iff
  schedules_added _ := ⟨templates_addSchedules, fun _ => schedule?_addSchedules⟩
  templates_refused file failure after failed := by
    obtain ⟨-, same⟩ | ⟨templates, front, fault, read, first, reason, kept⟩ := of_loadTemplates_error failed
    · exact .inl same
    · by_cases nothing : front = []
      · subst nothing
        exact .inl kept
      · exact .inr ⟨templates, front, fault, read, first, nothing, reason, kept⟩
  templates_taken _ _ _ := loadTemplates_eq_ok_iff
  templates_kept _ := ⟨schedules_keepTemplates, fun _ => template?_keepTemplates⟩
  presentable id template there := template.fault?_eq_none_iff.1 (reached.presentable id template there)

/-! Two files to look at: a menu, and the menu before a template with a button that says nothing. -/

def menu : Template := ⟨"menu", "", "Choose", [⟨"1", "Yes"⟩]⟩

def unlabelled : Template := ⟨"blank", "", "", [⟨"1", " "⟩]⟩

def menuText : String :=
  "\x7b\"id\":\"menu\",\"text\":\"Choose\",\"buttons\":[\x7b\"id\":\"1\",\"label\":\"Yes\"\x7d]\x7d"

def unlabelledText : String :=
  "\x7b\"id\":\"blank\",\"text\":\"\",\"buttons\":[\x7b\"id\":\"1\",\"label\":\" \"\x7d]\x7d"

def menuFile : String := "[" ++ menuText ++ "]"

def faultyFile : String := "[" ++ menuText ++ "," ++ unlabelledText ++ "]"

set_option maxRecDepth 2000 in
theorem menuFile_reads : readEntries Template.ofJson (some menuFile) = .ok [menu] := by rfl

set_option maxRecDepth 2000 in
theorem faultyFile_reads : readEntries Template.ofJson (some faultyFile) = .ok [menu, unlabelled] := by rfl

def withMenu : Catalogue := stateAfter (loadTemplates (some menuFile)) .empty

theorem withMenu_eq : withMenu = Catalogue.empty.keepTemplates [menu] :=
  stateAfter_of_ok (loadTemplates_of_faultless menuFile_reads (by decide))

/-- The menu is at hand, and further files are taken or refused as others. -/
theorem withMenu_takes_files : withMenu.Reached ∧ withMenu.template? "menu" = some menu ∧
    withMenu.TakesFiles := by
  have reached : withMenu.Reached := .load (.templates (some menuFile)) .empty
  exact ⟨reached, by rw [withMenu_eq]; rfl, reached.takes_files⟩

/-- The menu comes in, although the file is refused for the template behind it. -/
theorem menu_before_faulty_template : Reached .empty ∧ ∃ after,
    loadTemplates (some faultyFile) .empty =
      .error (.catalogue "template 'blank' button '1' has an empty label") after ∧
    Catalogue.empty.template? "menu" = none ∧ after.template? "menu" = some menu ∧
    Catalogue.empty.templates.size = 0 ∧ after.templates.size = 1 := by
  have first : FirstFault [menu, unlabelled] [menu] (.emptyLabel "blank" "1") :=
    ⟨unlabelled, [], rfl, by decide, by decide⟩
  exact ⟨.empty, _, loadTemplates_of_firstFault faultyFile_reads first, rfl, rfl, rfl, rfl⟩

end Catalogue
end Switchboard
