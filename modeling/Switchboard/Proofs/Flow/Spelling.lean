import Switchboard.Flow.Draft
import Switchboard.Flow.Sample
import Switchboard.Proofs.Flow.Building
import Switchboard.Proofs.Json.Members
import Switchboard.Proofs.Success

/-! The ways to write a flow. Editors have names of their own, leave out what is as usual and add what they
need for themselves; whichever way a flow is written, the same nodes and edges are read, in the same
order. -/
namespace Switchboard

open Json (Field Spells SpellsList Stable slots required withDefault readString readOption readList)

/-! What is written of each part. -/

def Edge.fields (edge : Edge) : List Field :=
  [.text ["source"] edge.source, .text ["target"] edge.target,
    .optional ["handle", "sourceHandle"] edge.handle]

def Rule.fields (rule : Rule) : List Field :=
  [.text ["id"] rule.id, .text ["variable"] rule.key, .text ["operator"] rule.comparison.name,
    .textOr ["value"] "" rule.value]

def Mapping.fields (mapping : Mapping) : List Field :=
  [.textOr ["jsonPath"] "" mapping.path, .textOr ["variable", "varName"] "" mapping.key]

namespace Kind

/-- A delay is a number, or its digits as a text. -/
def SpellsSeconds (seconds : Nat) (j : Json) : Prop :=
  j = .integer seconds ∨ ∃ digits : List Char, j = .string (String.ofList digits) ∧ digits ≠ [] ∧
    (∀ c ∈ digits, c.isDigit) ∧ Decimal.digitsValue digits = seconds

def secondsField (seconds : Nat) : Field :=
  ⟨["seconds", "delay"], SpellsSeconds seconds, seconds = 1⟩

def written : Kind → List Field
  | start text | ending text | closing text => [.optional ["text"] text]
  | message text => [.textOr ["text"] "" text]
  | input text key => [.textOr ["text"] "" text, .text ["variable", "variableName"] key]
  | setValue key value => [.text ["variable", "variableName"] key, .textOr ["value"] "" value]
  | condition rules => [.list ["rules", "conditions"] (fun rule => Spells rule.fields []) rules]
  | anchor name => [.optional ["name", "anchorName"] name]
  | goto target => [.text ["target", "targetAnchorId"] target]
  | request url mappings =>
    [.text ["url"] url, .list ["mappings"] (fun mapping => Spells mapping.fields []) mappings]
  | script source => [.textOr ["script"] "" source]
  | delay seconds => [secondsField seconds]
  | schedule id => [.text ["scheduleId"] id]
  | template id => [.text ["templateId"] id]
  | queue name => [.text ["queue", "queueName"] name]

def InRange : Kind → Prop
  | delay seconds => seconds ≤ Json.maxWord
  | _ => True

def Tags (kind : Kind) (tag : String) : Prop := tag = kind.name ∨ tag = kind.name ++ "Node"

def Plain (kind : Kind) : Prop := ∀ field ∈ kind.written, field.omittable

/-- A configuration of which nothing need be written may be null. -/
def Configures (kind : Kind) (j : Json) : Prop :=
  Spells kind.written [] j ∨ j = .null ∧ kind.Plain

def tagField (kind : Kind) : Field :=
  ⟨["kind", "type"], fun j => ∃ tag, j = .string tag ∧ kind.Tags tag, False⟩

def configField (kind : Kind) : Field := ⟨["config", "data"], kind.Configures, kind.Plain⟩

end Kind

def Node.fields (node : Node) : List Field :=
  [.text ["id"] node.id, node.kind.tagField, node.kind.configField]

def Draft.fields (id name : String) (nodes : List Node) (edges : List Edge) : List Field :=
  [.textOr ["id"] "" id, .textOr ["name"] "" name,
    .list ["nodes"] (fun node => Spells node.fields []) nodes,
    .list ["edges"] (fun edge => Spells edge.fields []) edges]

/-- The document writes the flow, itself and not as part of a record. -/
def Draft.Writes (id name : String) (nodes : List Node) (edges : List Edge) : Json → Prop :=
  Spells (Draft.fields id name nodes edges) ["published", "draft"]

/-! Taking it as a whole. -/

section Stable

theorem Edge.stable (edge : Edge) : Stable (Spells edge.fields []) := by
  refine Json.stable_spells ?_
  simp only [Edge.fields, List.forall_mem_cons]
  exact ⟨Json.stable_string, Json.stable_string, Json.stable_option, by simp⟩

theorem Rule.stable (rule : Rule) : Stable (Spells rule.fields []) := by
  refine Json.stable_spells ?_
  simp only [Rule.fields, List.forall_mem_cons]
  exact ⟨Json.stable_string, Json.stable_string, Json.stable_string, Json.stable_string, by simp⟩

theorem Mapping.stable (mapping : Mapping) : Stable (Spells mapping.fields []) := by
  refine Json.stable_spells ?_
  simp only [Mapping.fields, List.forall_mem_cons]
  exact ⟨Json.stable_string, Json.stable_string, by simp⟩

theorem Kind.stable_seconds (seconds : Nat) : Stable (Kind.SpellsSeconds seconds) := by
  rintro _ (rfl | ⟨digits, rfl, spelled⟩)
  · exact ⟨_, rfl, .inl rfl⟩
  · exact ⟨_, rfl, .inr ⟨digits, rfl, spelled⟩⟩

theorem Kind.stable (kind : Kind) : ∀ field ∈ kind.written, Stable field.spells := by
  cases kind with
  | condition rules =>
    simpa [Kind.written, Field.list] using Json.stable_list fun rule _ => rule.stable
  | request url mappings =>
    have listed : Stable (SpellsList (fun mapping => Spells (Mapping.fields mapping) []) mappings) :=
      Json.stable_list fun mapping _ => mapping.stable
    simpa [Kind.written, Field.list, Field.text, Json.stable_string] using listed
  | delay seconds => simpa [Kind.written, Kind.secondsField] using Kind.stable_seconds seconds
  | _ =>
    simp [Kind.written, Field.text, Field.textOr, Field.optional, Json.stable_string,
      Json.stable_option]

theorem Kind.stable_configures (kind : Kind) : Stable kind.Configures := by
  rintro _ (spells | ⟨rfl, plain⟩)
  · obtain ⟨w, whole, again⟩ := Json.stable_spells kind.stable _ spells
    exact ⟨w, whole, .inl again⟩
  · exact ⟨.null, rfl, .inr ⟨rfl, plain⟩⟩

theorem Node.stable (node : Node) : Stable (Spells node.fields []) := by
  refine Json.stable_spells ?_
  simp only [Node.fields, List.forall_mem_cons]
  refine ⟨Json.stable_string, ?_, node.kind.stable_configures, by simp⟩
  rintro _ ⟨tag, rfl, tags⟩
  exact ⟨_, rfl, tag, rfl, tags⟩

theorem Draft.stable {id name : String} {nodes : List Node} {edges : List Edge} :
    Stable (Draft.Writes id name nodes edges) := by
  refine Json.stable_spells ?_
  simp only [Draft.fields, List.forall_mem_cons]
  exact ⟨Json.stable_string, Json.stable_string, Json.stable_list fun node _ => node.stable,
    Json.stable_list fun edge _ => edge.stable, by simp⟩

end Stable

/-! Every flow can be written, by the names that are its own. -/

section Canonical

theorem Edge.spells_toJson (edge : Edge) : Spells edge.fields [] edge.toJson := by
  obtain ⟨source, target, _ | handle⟩ := edge
  · refine ⟨_, rfl, ?_, by simp [Edge.fields, Field.text]⟩
    simp only [Edge.fields, List.forall_mem_cons]
    exact ⟨.inl ⟨"source", _, rfl, rfl⟩, .inl ⟨"target", _, rfl, rfl⟩, .inr ⟨rfl, rfl⟩, by simp⟩
  · refine ⟨_, rfl, ?_, by simp [Edge.fields, Field.text, Field.optional]⟩
    simp only [Edge.fields, List.forall_mem_cons]
    exact ⟨.inl ⟨"source", _, rfl, rfl⟩, .inl ⟨"target", _, rfl, rfl⟩,
      .inl ⟨"handle", _, rfl, rfl⟩, by simp⟩

theorem Rule.spells_toJson (rule : Rule) : Spells rule.fields [] rule.toJson := by
  refine ⟨_, rfl, ?_, by simp [Rule.fields, Field.text, Field.textOr]⟩
  simp only [Rule.fields, List.forall_mem_cons]
  exact ⟨.inl ⟨"id", _, rfl, rfl⟩, .inl ⟨"variable", _, rfl, rfl⟩, .inl ⟨"operator", _, rfl, rfl⟩,
    .inl ⟨"value", _, rfl, rfl⟩, by simp⟩

theorem Mapping.spells_toJson (mapping : Mapping) : Spells mapping.fields [] mapping.toJson := by
  refine ⟨_, rfl, ?_, by simp [Mapping.fields, Field.textOr]⟩
  simp only [Mapping.fields, List.forall_mem_cons]
  exact ⟨.inl ⟨"jsonPath", _, rfl, rfl⟩, .inl ⟨"variable", _, rfl, rfl⟩, by simp⟩

theorem Kind.spells_config (kind : Kind) : Spells kind.written [] kind.config := by
  cases kind with
  | start text | ending text | closing text => exact Json.spells_single List.mem_cons_self rfl
  | message text | script text => exact Json.spells_single List.mem_cons_self rfl
  | anchor text | goto text | queue text => exact Json.spells_single List.mem_cons_self rfl
  | schedule text | template text => exact Json.spells_single List.mem_cons_self rfl
  | delay seconds => exact Json.spells_single List.mem_cons_self (.inl rfl)
  | condition rules =>
    exact Json.spells_single List.mem_cons_self (Json.spellsList_map Rule.spells_toJson rules)
  | input text key =>
    refine ⟨_, rfl, ?_, by simp [Kind.written, Field.text, Field.textOr]⟩
    simp only [Kind.written, List.forall_mem_cons]
    exact ⟨.inl ⟨"text", _, rfl, rfl⟩, .inl ⟨"variable", _, rfl, rfl⟩, by simp⟩
  | setValue key value =>
    refine ⟨_, rfl, ?_, by simp [Kind.written, Field.text, Field.textOr]⟩
    simp only [Kind.written, List.forall_mem_cons]
    exact ⟨.inl ⟨"variable", _, rfl, rfl⟩, .inl ⟨"value", _, rfl, rfl⟩, by simp⟩
  | request url mappings =>
    refine ⟨_, rfl, ?_, by simp [Kind.written, Field.text, Field.list]⟩
    simp only [Kind.written, List.forall_mem_cons]
    exact ⟨.inl ⟨"url", _, rfl, rfl⟩,
      .inl ⟨"mappings", _, rfl, Json.spellsList_map Mapping.spells_toJson mappings⟩, by simp⟩

def Node.raw (node : Node) : RawNode := ⟨node.id, node.kind.name, node.kind.config⟩

theorem Node.spells_toJson (node : Node) : Spells node.fields [] node.raw.toJson := by
  refine ⟨_, rfl, ?_, by simp [Node.fields, Node.raw, Field.text, Kind.tagField, Kind.configField]⟩
  simp only [Node.fields, List.forall_mem_cons]
  exact ⟨.inl ⟨"id", _, rfl, rfl⟩, .inl ⟨"kind", _, rfl, _, rfl, .inl rfl⟩,
    .inl ⟨"config", _, rfl, .inl node.kind.spells_config⟩, by simp⟩

/-- What is stored of a flow is one way to write it. -/
theorem Draft.writes_toJson (id name : String) (nodes : List Node) (edges : List Edge) :
    Draft.Writes id name nodes edges (Draft.mk id name (nodes.map Node.raw) edges).toJson := by
  refine ⟨_, rfl, ?_, by simp [Draft.fields, Field.textOr, Field.list]⟩
  simp only [Draft.fields, List.forall_mem_cons]
  refine ⟨.inl ⟨"id", _, rfl, rfl⟩, .inl ⟨"name", _, rfl, rfl⟩, .inl ⟨"nodes", _, rfl, ?_⟩,
    .inl ⟨"edges", _, rfl, Json.spellsList_map Edge.spells_toJson edges⟩, by simp⟩
  rw [List.map_map]
  exact Json.spellsList_map Node.spells_toJson nodes

end Canonical

/-! Reading it. -/

section Reading

variable {j : Json}

theorem Edge.reads {edge : Edge} (spells : Spells edge.fields [] j) : Edge.ofJson j = some edge := by
  obtain ⟨members, rfl, writes⟩ := spells
  obtain ⟨values, picked, fills⟩ := Json.Writes.slots writes.given
  obtain _ | ⟨source, _ | ⟨target, _ | ⟨handle, ⟨⟩⟩⟩⟩ := fills
  rw [Edge.ofJson, show slots [["source"], ["target"], ["handle", "sourceHandle"]] _ = _ from picked]
  simp [Json.required_text source, Json.required_text target, Json.withDefault_optional handle]

theorem Comparison.ofWhole_name (comparison : Comparison) :
    Comparison.ofWhole (.string comparison.name) = some comparison := by
  cases comparison <;> rfl

theorem Rule.reads {rule : Rule} (spells : Spells rule.fields [] j) : Rule.ofWhole j = some rule := by
  obtain ⟨members, rfl, writes⟩ := spells
  obtain ⟨values, picked, fills⟩ := Json.Writes.slots writes.given
  obtain _ | ⟨id, _ | ⟨key, _ | ⟨comparison, _ | ⟨value, ⟨⟩⟩⟩⟩⟩ := fills
  rw [Rule.ofWhole, Rule.ofJsonWith,
    show slots [["id"], ["variable"], ["operator"], ["value"]] _ = _ from picked]
  simp [Json.required_text id, Json.required_text key, Json.withDefault_text value,
    Json.required_of_text (Comparison.ofWhole_name rule.comparison) comparison]

theorem Mapping.reads {mapping : Mapping} (spells : Spells mapping.fields [] j) :
    Mapping.ofJson j = some mapping := by
  obtain ⟨members, rfl, writes⟩ := spells
  obtain ⟨values, picked, fills⟩ := Json.Writes.slots writes.given
  obtain _ | ⟨path, _ | ⟨key, ⟨⟩⟩⟩ := fills
  rw [Mapping.ofJson, show slots [["jsonPath"], ["variable", "varName"]] _ = _ from picked]
  simp [Json.withDefault_text path, Json.withDefault_text key]

theorem Text.trimChars_eq_self {cs : List Char} (full : ∀ c ∈ cs, ¬ Text.isBlank c) :
    Text.trimChars cs = cs := by
  have kept (l : List Char) (full : ∀ c ∈ l, ¬ Text.isBlank c) : Text.trimStart l = l := by
    cases l with
    | nil => rfl
    | cons c rest => simp [Text.trimStart, full c List.mem_cons_self]
  rw [Text.trimChars, kept cs full, kept _ fun c member => full c (List.mem_reverse.1 member),
    List.reverse_reverse]

theorem Text.not_isBlank_of_isDigit {c : Char} (digit : c.isDigit) : ¬ Text.isBlank c := by
  simp only [Char.isDigit, Bool.and_eq_true, decide_eq_true_eq, ge_iff_le,
    UInt32.le_iff_toNat_le] at digit
  obtain ⟨low, high⟩ := digit
  change 48 ≤ c.toNat at low
  change c.toNat ≤ 57 at high
  simp only [Text.isBlank, Bool.or_eq_true, Bool.and_eq_true, decide_eq_true_eq, beq_iff_eq]
  omega

namespace Kind

theorem readDigits_eq {digits : List Char} (some_ : digits ≠ []) (all : ∀ c ∈ digits, c.isDigit)
    (range : Decimal.digitsValue digits ≤ Json.maxWord) :
    readDigits digits = some (Decimal.digitsValue digits) := by
  have unsigned : digits.head? ≠ some '+' := by
    cases digits with
    | nil => simp
    | cons c rest =>
      rintro ⟨⟩
      exact absurd (all '+' List.mem_cons_self) (by decide)
  unfold readDigits
  split
  · simp at unsigned
  · simp [some_, range, List.all_eq_true.2 all]

theorem readSeconds_eq {seconds : Nat} (range : seconds ≤ Json.maxWord)
    (spells : SpellsSeconds seconds j) : readSeconds j = some seconds := by
  obtain rfl | ⟨digits, rfl, some_, all, rfl⟩ := spells
  · simp [readSeconds, Json.readWord, Json.readInt, range]
  · have trimmed : Text.trimChars digits = digits :=
      Text.trimChars_eq_self fun c member => Text.not_isBlank_of_isDigit (all c member)
    simp [readSeconds, trimmed, some_, readDigits_eq some_ all range]

theorem withDefault_seconds {seconds : Nat} {slot : Option Json} (range : seconds ≤ Json.maxWord)
    (fills : (secondsField seconds).Fills slot) :
    withDefault defaultSeconds readSeconds slot = some seconds := by
  cases slot with
  | none =>
    cases fills
    rfl
  | some j => exact readSeconds_eq range fills

theorem canonical_eq {kind : Kind} {tag : String} (tags : kind.Tags tag) :
    canonical tag = kind.name := by
  obtain rfl | rfl := tags <;> cases kind <;> rfl

theorem fields_name (kind : Kind) : fields kind.name = some (kind.written.map Field.names) := by
  cases kind <;> rfl

theorem ofSlots_eq {kind : Kind} {values : List (Option Json)} (range : kind.InRange)
    (fills : List.Forall₂ Field.Fills kind.written values) :
    ofSlots Rule.ofWhole kind.name values = some kind := by
  cases kind with
  | start text | ending text | closing text | anchor text =>
    obtain _ | ⟨text, ⟨⟩⟩ := fills
    simp [ofSlots, name, readText, Json.withDefault_optional text]
  | message text | script text =>
    obtain _ | ⟨text, ⟨⟩⟩ := fills
    simp [ofSlots, name, Json.withDefault_text text]
  | input text key =>
    obtain _ | ⟨text, _ | ⟨key, ⟨⟩⟩⟩ := fills
    simp [ofSlots, name, Json.withDefault_text text, Json.required_text key]
  | setValue key value =>
    obtain _ | ⟨key, _ | ⟨value, ⟨⟩⟩⟩ := fills
    simp [ofSlots, name, Json.required_text key, Json.withDefault_text value]
  | goto text | schedule text | template text | queue text =>
    obtain _ | ⟨text, ⟨⟩⟩ := fills
    simp [ofSlots, name, Json.required_text text]
  | condition rules =>
    obtain _ | ⟨listed, ⟨⟩⟩ := fills
    simp [ofSlots, name, Json.withDefault_list_eq (fun rule _ _ spelled => Rule.reads spelled) listed]
  | request url mappings =>
    obtain _ | ⟨url, _ | ⟨listed, ⟨⟩⟩⟩ := fills
    simp [ofSlots, name, Json.required_text url,
      Json.withDefault_list_eq (fun mapping _ _ spelled => Mapping.reads spelled) listed]
  | delay seconds =>
    obtain _ | ⟨spelled, ⟨⟩⟩ := fills
    simp [ofSlots, name, withDefault_seconds range spelled]

theorem ofConfig_eq {kind : Kind} {tag : String} {members : List (String × Json)}
    (tags : kind.Tags tag) (range : kind.InRange)
    (given : ∀ field ∈ kind.written, field.Given members) :
    ofConfig Rule.ofWhole tag (.object members) = some kind := by
  obtain ⟨values, picked, fills⟩ := Json.Writes.slots given
  have picked : (kind.written.map Field.names).mapM (Json.pick members) = some values := picked
  simp [ofConfig, canonical_eq tags, fields_name, picked, ofSlots_eq range fills]

theorem required_tag {kind : Kind} {slot : Option Json} (fills : kind.tagField.Fills slot) :
    ∃ tag, required readString slot = some tag ∧ kind.Tags tag := by
  cases slot with
  | none => contradiction
  | some j =>
    obtain ⟨tag, rfl, tags⟩ := fills
    exact ⟨tag, rfl, tags⟩

theorem withDefault_config {kind : Kind} {slot : Option Json} (fills : kind.configField.Fills slot) :
    ∃ config, withDefault .null Json.whole slot = some config ∧ kind.Configures config := by
  cases slot with
  | none => exact ⟨.null, rfl, .inr ⟨rfl, fills⟩⟩
  | some j => exact kind.stable_configures j fills

end Kind

theorem RawNode.toNode_eq {node : Node} {tag : String} {config : Json} (range : node.kind.InRange)
    (tags : node.kind.Tags tag) (configures : node.kind.Configures config) :
    (RawNode.mk node.id tag config).toNode = .ok node := by
  obtain ⟨members, rfl, writes⟩ | ⟨rfl, plain⟩ := configures
  · simp [RawNode.toNode, Kind.ofConfig_eq tags range writes.given]
  · have given : ∀ field ∈ node.kind.written, field.Given [] :=
      fun field member => .inr ⟨rfl, plain field member⟩
    simp [RawNode.toNode, Kind.ofConfig_eq tags range given]

theorem Node.reads {node : Node} (range : node.kind.InRange) (spells : Spells node.fields [] j) :
    ∃ raw, RawNode.ofJson j = some raw ∧ RawNode.toNode raw = .ok node := by
  obtain ⟨members, rfl, writes⟩ := spells
  obtain ⟨values, picked, fills⟩ := Json.Writes.slots writes.given
  obtain _ | ⟨id, _ | ⟨tagged, _ | ⟨configured, ⟨⟩⟩⟩⟩ := fills
  obtain ⟨tag, named, tags⟩ := Kind.required_tag tagged
  obtain ⟨config, whole, configures⟩ := Kind.withDefault_config configured
  refine ⟨⟨node.id, tag, config⟩, ?_, RawNode.toNode_eq range tags configures⟩
  rw [RawNode.ofJson, show slots [["id"], ["kind", "type"], ["config", "data"]] _ = _ from picked]
  simp [Json.required_text id, named, whole]

section Flow

variable {id name : String} {nodes : List Node} {edges : List Edge} {raws : List RawNode}

theorem Draft.not_isRecord {members : List (String × Json)}
    (writes : Json.Writes (Draft.fields id name nodes edges) ["published", "draft"] members) :
    Draft.isRecord (.object members) = false := by
  refine List.any_eq_false.2 fun m member => ?_
  obtain ⟨field, known, names⟩ | ⟨free, -⟩ := writes.others m member
  · simp only [Draft.fields, List.mem_cons, List.not_mem_nil, or_false] at known
    obtain rfl | rfl | rfl | rfl := known <;> rw [List.mem_singleton.1 names] <;> decide
  · simpa using free

theorem Draft.publish_eq
    (judged : List.Forall₂ (fun node raw => RawNode.toNode raw = .ok node) nodes raws) :
    (Draft.mk id name raws edges).publish = Graph.build id name nodes edges := by
  have all : raws.mapM RawNode.toNode = .ok nodes := by
    induction judged with
    | nil => rfl
    | cons first _ ih =>
      rw [List.mapM_cons, first, Except.ok_bind, ih]
      rfl
  rw [Draft.publish, all]
  rfl

theorem Draft.reads (range : ∀ node ∈ nodes, node.kind.InRange)
    (writes : Draft.Writes id name nodes edges j) :
    ∃ draft, Draft.ofValue j = .ok draft ∧
      draft.publish = Graph.build id name nodes edges := by
  obtain ⟨members, rfl, writes⟩ := writes
  obtain ⟨values, picked, fills⟩ := Json.Writes.slots writes.given
  obtain _ | ⟨named, _ | ⟨titled, _ | ⟨listed, _ | ⟨joined, ⟨⟩⟩⟩⟩⟩ := fills
  obtain ⟨raws, read, judged⟩ := Json.withDefault_list
    (fun node member j spelled => Node.reads (range node member) spelled) listed
  have edges_eq := Json.withDefault_list_eq (fun edge _ _ spelled => Edge.reads spelled) joined
  refine ⟨⟨id, name, raws, edges⟩, ?_, Draft.publish_eq judged⟩
  have whole : Draft.ofJson (.object members) = some ⟨id, name, raws, edges⟩ := by
    rw [Draft.ofJson, show slots [["id"], ["name"], ["nodes"], ["edges"]] _ = _ from picked]
    simp [Json.withDefault_text named, Json.withDefault_text titled, read, edges_eq]
  rw [Draft.ofValue, Draft.not_isRecord writes, whole]
  rfl

/-- However a flow is written, it is read and published with the same nodes and edges, in the same order. -/
theorem Draft.spelling_free {g : Graph} {text : String}
    (accepted : Graph.build id name nodes edges = .ok g) (range : ∀ node ∈ nodes, node.kind.InRange)
    (parses : Json.ofText text = some j) (writes : Draft.Writes id name nodes edges j) :
    ∃ draft, Draft.read text = .ok draft ∧ draft.publish = .ok g ∧ g.nodes = nodes ∧
      g.edges = edges ∧ g.id = id ∧ g.name = name := by
  obtain ⟨w, whole, again⟩ := Draft.stable j writes
  obtain ⟨draft, read, published⟩ := Draft.reads range again
  obtain ⟨named, titled, nodes_eq, edges_eq⟩ := Graph.build_eq_ok_iff.1 accepted
  refine ⟨draft, ?_, published.trans accepted, nodes_eq, edges_eq, named, titled⟩
  have parsed : Json.ofWholeText text = some w := by
    rw [Json.ofWholeText, parses]
    exact whole
  rw [Draft.read, parsed]
  exact read

end Flow

end Reading

-- The sample uses the names that are not an editor's, and leaves out what is as usual.
set_option maxRecDepth 2000 in
example : (Draft.ofValue Sample.routing).toOption.map (fun draft => draft.publish.map
    fun g => (g.start, g.nodes.map Node.id, g.branch "check" "is_vip")) =
    some (.ok ("start", ["start", "hello", "ask", "check", "sac", "bye"], some "sac")) := by rfl

/-! A flow as an editor may write it. -/

def editorText : String :=
  "\x7b\"nodes\":[\x7b\"id\":\"s\",\"type\":\"startNode\"\x7d," ++
  "\x7b\"data\":\x7b\"delay\":\"05\"\x7d,\"kind\":\"delay\",\"id\":\"w\"\x7d],\"zoom\":null," ++
  "\"edges\":[\x7b\"target\":\"w\",\"source\":\"s\",\"sourceHandle\":\"out\"\x7d]\x7d"

def startMembers : List (String × Json) := [("id", .string "s"), ("type", .string "startNode")]

def waitMembers : List (String × Json) :=
  [("data", .object [("delay", .string "05")]), ("kind", .string "delay"), ("id", .string "w")]

def edgeMembers : List (String × Json) :=
  [("target", .string "w"), ("source", .string "s"), ("sourceHandle", .string "out")]

def draftMembers : List (String × Json) :=
  [("nodes", .array [.object startMembers, .object waitMembers]), ("zoom", .null),
    ("edges", .array [.object edgeMembers])]

def pause : Graph where
  id := ""
  name := ""
  nodes := [⟨"s", .start none⟩, ⟨"w", .delay 5⟩]
  edges := [⟨"s", "w", some "out"⟩]
  sound := by decide

set_option maxRecDepth 2000 in
theorem editorText_parses : Json.ofText editorText = some (.object draftMembers) := by rfl

theorem startMembers_writes : Json.Writes (Node.fields ⟨"s", .start none⟩) [] startMembers := by
  constructor
  · simp only [Node.fields, List.forall_mem_cons]
    exact ⟨.inl ⟨"id", _, rfl, rfl⟩, .inl ⟨"type", _, rfl, "startNode", rfl, .inr rfl⟩,
      .inr ⟨rfl, by simp [Kind.configField, Kind.Plain, Kind.written, Field.optional]⟩, by simp⟩
  · simp [Node.fields, startMembers, Field.text, Kind.tagField]

theorem waitMembers_writes : Json.Writes (Node.fields ⟨"w", .delay 5⟩) [] waitMembers := by
  have five : Kind.SpellsSeconds 5 (.string "05") :=
    .inr ⟨['0', '5'], rfl, by decide, by simp, by decide⟩
  have config : (Kind.delay 5).Configures (.object [("delay", .string "05")]) := by
    refine .inl ⟨_, rfl, ?_, by simp [Kind.written, Kind.secondsField]⟩
    simp only [Kind.written, List.forall_mem_cons]
    exact ⟨.inl ⟨"delay", _, rfl, five⟩, by simp⟩
  constructor
  · simp only [Node.fields, List.forall_mem_cons]
    exact ⟨.inl ⟨"id", _, rfl, rfl⟩, .inl ⟨"kind", _, rfl, "delay", rfl, .inl rfl⟩,
      .inl ⟨"data", _, rfl, config⟩, by simp⟩
  · simp [Node.fields, waitMembers, Field.text, Kind.tagField, Kind.configField]

theorem edgeMembers_writes : Json.Writes (Edge.fields ⟨"s", "w", some "out"⟩) [] edgeMembers := by
  constructor
  · simp only [Edge.fields, List.forall_mem_cons]
    exact ⟨.inl ⟨"source", _, rfl, rfl⟩, .inl ⟨"target", _, rfl, rfl⟩,
      .inl ⟨"sourceHandle", _, rfl, rfl⟩, by simp⟩
  · simp [Edge.fields, edgeMembers, Field.text, Field.optional]

theorem draftMembers_writes : Draft.Writes "" "" pause.nodes pause.edges (.object draftMembers) := by
  have nodes : SpellsList (fun node => Spells node.fields []) pause.nodes
      (.array [.object startMembers, .object waitMembers]) :=
    ⟨_, rfl, .cons ⟨_, rfl, startMembers_writes⟩ (.cons ⟨_, rfl, waitMembers_writes⟩ .nil)⟩
  have edges : SpellsList (fun edge => Spells edge.fields []) pause.edges
      (.array [.object edgeMembers]) := ⟨_, rfl, .cons ⟨_, rfl, edgeMembers_writes⟩ .nil⟩
  refine ⟨_, rfl, ?_, ?_⟩
  · simp only [Draft.fields, List.forall_mem_cons]
    exact ⟨.inr ⟨rfl, rfl⟩, .inr ⟨rfl, rfl⟩, .inl ⟨"nodes", _, rfl, nodes⟩,
      .inl ⟨"edges", _, rfl, edges⟩, by simp⟩
  · simp [Draft.fields, draftMembers, Field.textOr, Field.list, Json.whole]

/-- The editor's names and digits are read, and its zoom is not. -/
theorem editorText_published : ∃ draft, Draft.read editorText = .ok draft ∧
    draft.publish = .ok pause ∧ pause.nodes = [⟨"s", .start none⟩, ⟨"w", .delay 5⟩] ∧
    pause.edges = [⟨"s", "w", some "out"⟩] ∧ pause.id = "" ∧ pause.name = "" :=
  Draft.spelling_free (Graph.build_eq_ok_iff.2 ⟨rfl, rfl, rfl, rfl⟩)
    (by simp [Kind.InRange, Json.maxWord]) editorText_parses draftMembers_writes

end Switchboard
