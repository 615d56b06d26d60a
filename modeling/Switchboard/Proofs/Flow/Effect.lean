import Switchboard.Proofs.Chat.Account
import Switchboard.Proofs.Dict
import Switchboard.Proofs.Flow.Handler

/-! Requests and scripts. What comes back from outside decides what is said or set, and never which way the flow
goes. A failure is made known to the customer and leaves the variables alone, and a success says nothing;
there is nothing in between. Only a closed session stops the flow, for it can be written to no more. -/
namespace Switchboard

/-! What a request sets. -/

namespace Mapping

/-- The mapping names a variable, and its path leads to a value for it. -/
structure Finds (document : Json) (m : Mapping) (value : Json) : Prop where
  named : m.key ≠ ""
  leads : document.lookup m.path = some value
  something : value ≠ .null

/-- The text is what the last of the variable's mappings finds, among those that find anything. -/
def Settles (document : Json) (mappings : List Mapping) (key text : String) : Prop :=
  ∃ front m back value, mappings = front ++ m :: back ∧ m.key = key ∧ m.Finds document value ∧
    value.plainText = some text ∧ ∀ later ∈ back, later.key = key → ∀ other, ¬ later.Finds document other

end Mapping

namespace Response

/-- The request comes to nothing: no response, one that is no success, or one that is no document for the
mappings. -/
inductive Fails (mappings : List Mapping) : Option Response → Prop
  | unanswered : Fails mappings none
  | refused : response.status < 200 ∨ 299 < response.status → Fails mappings (some response)
  | unreadable : mappings ≠ [] → Json.ofWholeText response.body = none → Fails mappings (some response)

def Gives (response : Response) (mappings : List Mapping) (key text : String) : Prop :=
  ∃ document, Json.ofWholeText response.body = some document ∧ Mapping.Settles document mappings key text

end Response

section Answers

variable {document value : Json} {m : Mapping} {mappings : List Mapping} {key text : String}
  {response : Response} {fetched : Option Response} {answer : Variables}

theorem Json.plainText_eq_none_iff : value.plainText = none ↔ value = .null := by
  cases value <;> simp [plainText]

def Mapping.found (document : Json) (key : String) (m : Mapping) : Option String :=
  if m.key = key ∧ key ≠ "" then (document.lookup m.path).bind Json.plainText else none

theorem Mapping.found_eq_some_iff : m.found document key = some text ↔
    m.key = key ∧ ∃ value, m.Finds document value ∧ value.plainText = some text := by
  unfold found
  split
  · rename_i named
    obtain ⟨rfl, named⟩ := named
    rw [Option.bind_eq_some_iff]
    constructor
    · intro found
      obtain ⟨value, leads, written⟩ := found
      refine ⟨rfl, value, ⟨named, leads, ?_⟩, written⟩
      rintro rfl
      contradiction
    · intro found
      obtain ⟨-, value, finds, written⟩ := found
      exact ⟨value, finds.leads, written⟩
  · rename_i unnamed
    refine ⟨nofun, fun found => absurd ?_ unnamed⟩
    obtain ⟨rfl, value, finds, -⟩ := found
    exact ⟨rfl, finds.named⟩

theorem Mapping.found_eq_none_iff : m.found document key = none ↔
    (m.key = key → ∀ value, ¬ m.Finds document value) := by
  rw [Option.eq_none_iff_forall_ne_some]
  constructor
  · intro none_ same value finds
    cases written : value.plainText with
    | none => exact finds.something (Json.plainText_eq_none_iff.1 written)
    | some text => exact none_ text (found_eq_some_iff.2 ⟨same, value, finds, written⟩)
  · intro none_ text found
    obtain ⟨same, value, finds, -⟩ := found_eq_some_iff.1 found
    exact none_ same value finds

theorem get?_mapped : (Walk.mapped document mappings).get? key =
    mappings.reverse.findSome? (Mapping.found document key) := by
  rw [Walk.mapped, Dict.get?_ofList, ← List.filterMap_reverse, Dict.find_filterMap]
  congr 1
  funext m
  unfold Mapping.found
  generalize (document.lookup m.path).bind Json.plainText = text?
  cases text? <;> grind

theorem get?_mapped_eq_some_iff : (Walk.mapped document mappings).get? key = some text ↔
    Mapping.Settles document mappings key text := by
  rw [get?_mapped, List.findSome?_eq_some_iff]
  constructor
  · intro found
    obtain ⟨back, m, front, split, found, others⟩ := found
    obtain ⟨same, value, finds, written⟩ := Mapping.found_eq_some_iff.1 found
    refine ⟨front.reverse, m, back.reverse, value, ?_, same, finds, written, fun later member => ?_⟩
    · simpa using congrArg List.reverse split
    · exact Mapping.found_eq_none_iff.1 (others later (List.mem_reverse.1 member))
  · intro settles
    obtain ⟨front, m, back, value, rfl, same, finds, written, others⟩ := settles
    refine ⟨back.reverse, m, front.reverse, by simp, ?_, fun later member => ?_⟩
    · exact Mapping.found_eq_some_iff.2 ⟨same, value, finds, written⟩
    · exact Mapping.found_eq_none_iff.2 (others later (List.mem_reverse.1 member))

theorem Response.isSuccess_eq_false_iff : response.isSuccess = false ↔
    response.status < 200 ∨ 299 < response.status := by
  rw [isSuccess, Bool.and_eq_false_iff, decide_eq_false_iff_not, decide_eq_false_iff_not]
  omega

theorem answerOf_eq_none_iff : Walk.answerOf fetched mappings = none ↔ Response.Fails mappings fetched := by
  cases fetched with
  | none => exact ⟨fun _ => .unanswered, fun _ => rfl⟩
  | some response =>
    constructor
    · intro none_
      unfold Walk.answerOf at none_
      dsimp only at none_
      split at none_
      · rename_i refused
        exact .refused (Response.isSuccess_eq_false_iff.1 (by simpa using refused))
      · split at none_
        · contradiction
        · rename_i some_
          exact .unreadable (by simpa using some_) (Option.map_eq_none_iff.1 none_)
    · intro fails
      cases fails with
      | refused status => simp [Walk.answerOf, Response.isSuccess_eq_false_iff.2 status]
      | unreadable some_ unread => simp [Walk.answerOf, some_, unread]

theorem get?_answerOf (answered : Walk.answerOf (some response) mappings = some answer) :
    answer.get? key = some text ↔ response.Gives mappings key text := by
  unfold Walk.answerOf at answered
  dsimp only at answered
  split at answered
  · contradiction
  · split at answered
    · rename_i none_
      cases answered
      rw [List.isEmpty_iff.1 none_]
      refine ⟨nofun, fun gives => ?_⟩
      obtain ⟨_, -, front, m, back, _, split, -⟩ := gives
      simp at split
    · obtain ⟨document, reads, rfl⟩ := Option.map_eq_some_iff.1 answered
      rw [get?_mapped_eq_some_iff, Response.Gives, reads]
      simp

theorem isEmpty_answerOf_iff (answered : Walk.answerOf (some response) mappings = some answer) :
    answer.entries.isEmpty ↔ ¬ ∃ key text, response.Gives mappings key text := by
  rw [Dict.isEmpty_entries_iff]
  constructor
  · intro empty gives
    obtain ⟨key, text, gives⟩ := gives
    rw [← get?_answerOf answered, empty key] at gives
    contradiction
  · intro nothing key
    refine Option.eq_none_iff_forall_ne_some.2 fun text given => nothing ⟨key, text, ?_⟩
    exact (get?_answerOf answered).1 given

end Answers

/-! What becomes of the run. -/

namespace Run

variable {r t : Run}

/-- The customer has been told, unless the text is blank, and the variables are as they were. -/
structure Warned (r : Run) (warning : String) (t : Run) : Prop where
  bag : t.bag = r.bag
  stored : t.visit.session.bag = r.visit.session.bag
  log : ∃ now, t.visit.session.messages = r.visit.session.messages ++
    if Text.isBlankText warning then [] else [(Post.bot warning).stamp now]

/-- Nothing has been said, and of the session's variables just those have been set for which there is a text. If
there are any, the variables in hand are then the session's. -/
structure Takes (r : Run) (gives : String → String → Prop) (t : Run) : Prop where
  log : t.visit.session.messages = r.visit.session.messages
  given : ∀ key text, gives key text → t.visit.session.bag.get? key = some text
  others : ∀ key, (∀ text, ¬ gives key text) → t.visit.session.bag.get? key = r.visit.session.bag.get? key
  renewed : (∃ key text, gives key text) → t.bag = t.visit.session.bag
  kept : (∀ key text, ¬ gives key text) → t.bag = r.bag

theorem Takes.of_answer {response : Response} {mappings : List Mapping} {answer : Variables}
    (answered : Walk.answerOf (some response) mappings = some answer)
    (log : t.visit.session.messages = r.visit.session.messages)
    (merged : t.visit.session.bag = r.visit.session.bag.merge answer)
    (inHand : t.bag = if answer.entries.isEmpty then r.bag else t.visit.session.bag) :
    r.Takes (response.Gives mappings) t where
  log := log
  given key text gives := by
    rw [merged, Dict.get?_merge, (get?_answerOf answered).2 gives]
    rfl
  others key nothing := by
    have absent : answer.get? key = none := Option.eq_none_iff_forall_ne_some.2 fun text given =>
      nothing text ((get?_answerOf answered).1 given)
    rw [merged, Dict.get?_merge, absent]
    rfl
  renewed gives := by
    rw [inHand, if_neg fun empty => (isEmpty_answerOf_iff answered).1 empty gives]
  kept nothing := by
    have empty : answer.entries.isEmpty := (isEmpty_answerOf_iff answered).2 fun gives => by
      obtain ⟨key, text, gives⟩ := gives
      exact nothing key text gives
    rw [inHand, if_pos empty]

end Run

namespace Walk

variable {α β : Type} {here : Surroundings} {r s : Run} {a : α} {b : β} {work : Walk α}
  {next : α → Walk β} {writes writes' : Prop} {leaves left : Run → Prop}

/-- The work returns this and leaves such a run, but not if it writes to a closed session: that is refused, and
nothing has come of the work. -/
structure UnlessClosed (work : Walk α) (r : Run) (writes : Prop) (a : α) (leaves : Run → Prop) : Prop where
  refused : r.visit.session.status = .closed → writes →
    ∃ t, work r = .error (.notAllowed .closed) t ∧ t.visit = r.visit ∧ t.bag = r.bag
  done : (r.visit.session.status = .closed → ¬ writes) → ∃ t, work r = .ok a t ∧ leaves t

namespace UnlessClosed

theorem of_ok {t : Run} (idle : ¬ writes) (run : work r = .ok a t) (holds : leaves t) :
    UnlessClosed work r writes a leaves where
  refused _ some_ := absurd some_ idle
  done _ := ⟨t, run, holds⟩

theorem seq (first : UnlessClosed work r writes a leaves)
    (then_ : ∀ t, leaves t → ∃ u, next a t = .ok b u ∧ left u) :
    UnlessClosed (work >>= next) r writes b left where
  refused closed some_ := by
    obtain ⟨t, refused, same⟩ := first.refused closed some_
    exact ⟨t, bind_of_error refused, same⟩
  done free := by
    obtain ⟨t, run, holds⟩ := first.done free
    obtain ⟨u, further, holds⟩ := then_ t holds
    exact ⟨u, (bind_of_ok run).trans further, holds⟩

theorem after (run : work r = .ok a s) (visit : s.visit = r.visit) (bag : s.bag = r.bag)
    (then_ : UnlessClosed (next a) s writes b leaves) : UnlessClosed (work >>= next) r writes b leaves where
  refused closed some_ := by
    rw [← visit] at closed
    obtain ⟨t, refused, same⟩ := then_.refused closed some_
    rw [visit, bag] at same
    exact ⟨t, (bind_of_ok run).trans refused, same⟩
  done free := by
    rw [← visit] at free
    obtain ⟨t, further, holds⟩ := then_.done free
    exact ⟨t, (bind_of_ok run).trans further, holds⟩

theorem mono (h : UnlessClosed work r writes a leaves) (same : writes ↔ writes')
    (imp : ∀ t, leaves t → left t) : UnlessClosed work r writes' a left where
  refused closed some_ := h.refused closed (same.2 some_)
  done free := by
    obtain ⟨t, run, holds⟩ := h.done fun closed some_ => free closed (same.1 some_)
    exact ⟨t, run, imp t holds⟩

theorem returning {work : Walk Unit} (h : UnlessClosed work r writes () leaves) :
    UnlessClosed (do work; return b) r writes b leaves :=
  h.seq fun t holds => ⟨t, rfl, holds⟩

end UnlessClosed

theorem act_unlessClosed {work : Visit.Act α} {w : Visit}
    (run : work r.visit = guarded r.visit.session.closedRefusal a r.visit w) :
    UnlessClosed (act work) r True a (· = { r with visit := w }) where
  refused closed _ := by
    have refusal : r.visit.session.closedRefusal = some .closed := if_pos (Session.isClosed_iff.2 closed)
    have refused : act work r = .error (.notAllowed .closed) r := by rw [act, run, refusal]; rfl
    exact ⟨r, refused, rfl, rfl⟩
  done free := by
    have allowed : r.visit.session.closedRefusal = none :=
      Session.closedRefusal_eq_none_iff.2 fun closed => free closed trivial
    have done : act work r = .ok a { r with visit := w } := by rw [act, run, allowed]; rfl
    exact ⟨_, done, rfl⟩

theorem append_unlessClosed (text : String) (now : Instant) :
    UnlessClosed (act (Visit.append (.bot text) now)) r True ((Post.bot text).stamp now) fun t =>
      t.bag = r.bag ∧ t.visit.session = r.visit.session.say ((Post.bot text).stamp now) := by
  have guard : r.visit.session.appendRefusal .bot = r.visit.session.closedRefusal := by
    simp [Session.appendRefusal, Session.closedRefusal]
  have run : Session.append (.bot text) now r.visit.session = guarded (r.visit.session.appendRefusal .bot)
      ((Post.bot text).stamp now) r.visit.session (r.visit.session.say ((Post.bot text).stamp now)) :=
    Session.append_eq
  rw [guard] at run
  refine (act_unlessClosed (Visit.change_eq run)).mono Iff.rfl fun t same => ?_
  rw [same]
  exact ⟨rfl, rfl⟩

theorem say_warns (text : String) :
    UnlessClosed (say here text) r (¬ Text.isBlankText text) () (r.Warned text) := by
  unfold say
  split
  · rename_i blank
    exact .of_ok (not_not_intro blank) rfl ⟨rfl, rfl, ⟨0, 0⟩, by rw [if_pos blank, List.append_nil]⟩
  · rename_i spoken
    refine .after (s := { r with asked := r.asked + 1 }) rfl rfl rfl ?_
    refine ((append_unlessClosed text _).mono (iff_of_true trivial spoken) fun t said => said).seq fun t said => ?_
    refine ⟨t, rfl, said.1, by rw [said.2]; rfl, here.services.now r.asked, ?_⟩
    rw [said.2, if_neg spoken]
    rfl

theorem patch_sets (changes : Variables) : UnlessClosed (patch here changes) r True () fun t =>
    t.bag = t.visit.session.bag ∧ t.visit.session.bag = r.visit.session.bag.merge changes ∧
      t.visit.session.messages = r.visit.session.messages := by
  refine .after (s := { r with asked := r.asked + 1 }) rfl rfl rfl ?_
  refine (act_unlessClosed (Visit.change_eq Session.mergeVariables_eq)).seq fun t same => ?_
  rw [same]
  exact ⟨_, rfl, rfl, rfl, rfl⟩

/-- There is something to write: a warning, or what the mappings give. -/
def RequestWrites (here : Surroundings) (url : String) (mappings : List Mapping) (r : Run) : Prop :=
  (Response.Fails mappings (here.services.fetch r.asked (r.bag.interpolate url)) ∧
    ¬ Text.isBlankText here.wording.httpFailure) ∨
  ∃ response, here.services.fetch r.asked (r.bag.interpolate url) = some response ∧
    ¬ Response.Fails mappings (some response) ∧ ∃ key text, response.Gives mappings key text

def RequestLeaves (here : Surroundings) (url : String) (mappings : List Mapping) (r t : Run) : Prop :=
  (Response.Fails mappings (here.services.fetch r.asked (r.bag.interpolate url)) →
    r.Warned here.wording.httpFailure t) ∧
  ∀ response, here.services.fetch r.asked (r.bag.interpolate url) = some response →
    ¬ Response.Fails mappings (some response) → r.Takes (response.Gives mappings) t

/-- The variables of a script are written even if there are none. -/
def ScriptWrites (here : Surroundings) (source : String) (r : Run) : Prop :=
  here.services.evaluate r.asked r.bag source = none → ¬ Text.isBlankText here.wording.scriptFailure

def ScriptLeaves (here : Surroundings) (source : String) (r t : Run) : Prop :=
  (here.services.evaluate r.asked r.bag source = none → r.Warned here.wording.scriptFailure t) ∧
  ∀ bag, here.services.evaluate r.asked r.bag source = some bag →
    t.visit.session.messages = r.visit.session.messages ∧
      t.visit.session.bag = r.visit.session.bag.merge bag ∧ t.bag = t.visit.session.bag

theorem request_contained (url : String) (mappings : List Mapping) :
    UnlessClosed (request here url mappings) r (RequestWrites here url mappings r) ()
      (RequestLeaves here url mappings r) := by
  let asked : Run := { r with asked := r.asked + 1 }
  let s : Run := { asked with requests := r.requests ++ [r.bag.interpolate url] }
  refine .after (s := r) rfl rfl rfl (.after (s := asked) rfl rfl rfl (.after (s := s) rfl rfl rfl ?_))
  unfold RequestWrites RequestLeaves
  dsimp only
  generalize here.services.fetch r.asked (r.bag.interpolate url) = fetched
  cases answered : answerOf fetched mappings with
  | none =>
    have fails := answerOf_eq_none_iff.1 answered
    refine (say_warns _).mono ⟨fun spoken => .inl ⟨fails, spoken⟩, fun writes => ?_⟩ fun t warned =>
      ⟨fun _ => ⟨warned.bag, warned.stored, warned.log⟩, ?_⟩
    · obtain ⟨-, spoken⟩ | ⟨response, rfl, succeeds, -⟩ := writes
      · exact spoken
      · exact absurd fails succeeds
    · rintro response rfl succeeds
      exact absurd fails succeeds
  | some answer =>
    have succeeds : ¬ Response.Fails mappings fetched := fun fails =>
      absurd (answerOf_eq_none_iff.2 fails) (by simp [answered])
    dsimp only
    split
    · rename_i none_
      refine .of_ok (fun writes => ?_) rfl ⟨fun fails => absurd fails succeeds, ?_⟩
      · obtain ⟨fails, -⟩ | ⟨response, rfl, -, gives⟩ := writes
        · exact succeeds fails
        · exact (isEmpty_answerOf_iff answered).1 none_ gives
      · rintro response rfl -
        exact .of_answer answered rfl (Dict.merge_of_isEmpty none_).symm (if_pos none_).symm
    · rename_i some_
      refine (patch_sets answer).mono (iff_of_true trivial (.inr ?_)) fun t patched =>
        ⟨fun fails => absurd fails succeeds, ?_⟩
      · cases fetched with
        | none => exact absurd .unanswered succeeds
        | some response =>
          exact ⟨response, rfl, succeeds, not_not.1 fun nothing => some_ ((isEmpty_answerOf_iff answered).2 nothing)⟩
      · rintro response rfl -
        obtain ⟨inHand, merged, log⟩ := patched
        exact .of_answer answered log merged (inHand.trans (if_neg some_).symm)

theorem runScript_contained (source : String) :
    UnlessClosed (runScript here source) r (ScriptWrites here source r) () (ScriptLeaves here source r) := by
  let asked : Run := { r with asked := r.asked + 1 }
  refine .after (s := r) rfl rfl rfl (.after (s := asked) rfl rfl rfl ?_)
  unfold ScriptWrites ScriptLeaves
  dsimp only
  cases here.services.evaluate r.asked r.bag source with
  | none =>
    refine (say_warns _).mono ⟨fun spoken _ => spoken, fun writes => writes rfl⟩ fun t warned =>
      ⟨fun _ => ⟨warned.bag, warned.stored, warned.log⟩, nofun⟩
  | some bag =>
    refine (patch_sets bag).mono (iff_of_true trivial nofun) fun t patched => ⟨nofun, ?_⟩
    rintro _ ⟨⟩
    obtain ⟨inHand, merged, log⟩ := patched
    exact ⟨log, merged, inHand⟩

/-- At a request or a script the flow goes on by the only exit, or stalls if there is none, whatever comes back. If
that is a failure, the customer gets the one warning for it and no variable changes; if a request
succeeds, nothing is said and just the variables are set for which the mappings have found something. A
closed session refuses whatever is to be written, and is left as it is. -/
theorem effects_contained (here : Surroundings) (node : String) (r : Run) :
    ∃ step, (∀ next, here.graph.next node = some next → step = .next next) ∧
      (here.graph.next node = none → step = .halt (.stalled node)) ∧
      ∀ services : Services,
        (∀ url mappings, UnlessClosed (perform { here with services } node (.request url mappings)) r
          (RequestWrites { here with services } url mappings r) step
          (RequestLeaves { here with services } url mappings r)) ∧
        ∀ source, UnlessClosed (perform { here with services } node (.script source)) r
          (ScriptWrites { here with services } source r) step (ScriptLeaves { here with services } source r) := by
  refine ⟨follow here node, fun next leads => ?_, fun none_ => ?_, fun services => ⟨?_, ?_⟩⟩
  · rw [follow, leads]
  · rw [follow, none_]
  · exact fun url mappings => (request_contained url mappings).returning
  · exact fun source => (runScript_contained source).returning

end Walk

def Graph.enquiry : Graph where
  id := "enquiry"
  name := "Enquiry"
  nodes := [⟨"start", .start none⟩, ⟨"ask", .request "u" []⟩]
  edges := [.always "start" "ask"]
  sound := by decide

def Response.pair : Response := ⟨200, "\x7b\"a\":\"b\"\x7d"⟩

def Services.responding (response : Option Response) : Services :=
  ⟨fun _ => ⟨0, 0⟩, fun _ _ => response, fun _ _ _ => none, fun _ _ => none, fun _ _ => none, fun _ _ => none⟩

def Surroundings.enquiry (response : Option Response) : Surroundings :=
  ⟨.enquiry, {}, {}, .responding response⟩

namespace Run

def fresh : Run := .start (.new ⟨"chat_1"⟩ "ana" ⟨0, 0⟩) ∅

def onClosed : Run := .start { Session.new ⟨"chat_1"⟩ "ana" ⟨0, 0⟩ with status := .closed } ∅

end Run

namespace Response

theorem pair_document : Json.ofWholeText pair.body = some (.object [("a", .string "b")]) := by
  have parses : Json.ofText pair.body = some (.object [("a", .string "b")]) := by rfl
  rw [Json.ofWholeText, parses]
  rfl

theorem pair_succeeds (mappings : List Mapping) : ¬ Fails mappings (some pair) := by
  intro fails
  cases fails with
  | refused status => exact absurd status (by decide)
  | unreadable some_ unread => rw [pair_document] at unread; contradiction

end Response

namespace Walk

/-- Of two mappings the last one that finds something sets the variable; a failure sets none and is reported, but
not in a closed session. -/
theorem enquiry_contained :
    (∃ t, perform (.enquiry (some .pair)) "ask"
        (.request "u" [⟨"a", "x"⟩, ⟨"c", "x"⟩]) .fresh = .ok (.halt (.stalled "ask")) t ∧
      t.visit.session.bag.get? "x" = some "b" ∧ t.visit.session.messages = []) ∧
    (∃ t, perform (.enquiry (some ⟨500, ""⟩)) "ask" (.request "u" []) .fresh =
        .ok (.halt (.stalled "ask")) t ∧
      t.bag = ∅ ∧ t.visit.session.messages.length = 1) ∧
    ∃ t, perform (.enquiry (some ⟨500, ""⟩)) "ask" (.request "u" []) .onClosed =
        .error (.notAllowed .closed) t ∧
      t.visit = Run.onClosed.visit ∧ t.bag = ∅ := by
  obtain ⟨step, -, stalls, contained⟩ := effects_contained (.enquiry none) "ask" .fresh
  obtain ⟨stepOnClosed, -, -, containedOnClosed⟩ := effects_contained (.enquiry none) "ask" .onClosed
  cases stalls rfl
  have open_ {writes : Prop} (closed : Run.fresh.visit.session.status = .closed) : ¬ writes :=
    absurd closed (by decide)
  have fails : Response.Fails [] (some ⟨500, ""⟩) := .refused (.inr (by decide))
  refine ⟨?_, ?_, ?_⟩
  · obtain ⟨t, run, -, takes⟩ := ((contained (.responding (some .pair))).1
      "u" [⟨"a", "x"⟩, ⟨"c", "x"⟩]).done open_
    have taken := takes _ rfl (Response.pair_succeeds _)
    refine ⟨t, run, taken.given "x" "b" ⟨_, Response.pair_document, [], ⟨"a", "x"⟩, [⟨"c", "x"⟩], .string "b", rfl, rfl,
      ⟨by decide, rfl, nofun⟩, rfl, ?_⟩, taken.log⟩
    intro later member _ other finds
    cases List.mem_singleton.1 member
    exact absurd finds.leads nofun
  · obtain ⟨t, run, warns, -⟩ := ((contained (.responding (some ⟨500, ""⟩))).1 "u" []).done open_
    have warned := warns fails
    obtain ⟨now, log⟩ := warned.log
    exact ⟨t, run, warned.bag, by rw [log]; rfl⟩
  · exact ((containedOnClosed (.responding (some ⟨500, ""⟩))).1 "u" []).refused rfl (.inl ⟨fails, by decide⟩)

/-- A closed session takes no warning, and so the flow fails where it would otherwise have stalled. And a variable in
hand that the session does not have is lost when a request sets another one. -/
theorem enquiry_not_contained :
    (resultOf (perform (.enquiry (some ⟨500, ""⟩)) "ask" (.request "u" [])) .onClosed =
        .error (.notAllowed .closed) ∧
      resultOf (perform (.enquiry (some ⟨200, ""⟩)) "ask" (.request "u" [])) .onClosed =
        .ok (.halt (.stalled "ask")) ∧
      ¬ ∀ (here : Surroundings) (services : Services) (node url : String) (mappings : List Mapping) (r : Run),
        resultOf (perform here node (.request url mappings)) r =
          resultOf (perform { here with services } node (.request url mappings)) r) ∧
    ∃ t, perform (.enquiry (some .pair)) "ask" (.request "u" [⟨"a", "x"⟩])
        { Run.fresh with bag := .ofList [("y", "c")] } = .ok (.halt (.stalled "ask")) t ∧
      t.bag.get? "x" = some "b" ∧ t.bag.get? "y" = none := by
  have refused : resultOf (perform (.enquiry (some ⟨500, ""⟩)) "ask" (.request "u" [])) .onClosed =
      .error (.notAllowed .closed) := by rfl
  have stalled : resultOf (perform (.enquiry (some ⟨200, ""⟩)) "ask" (.request "u" [])) .onClosed =
      .ok (.halt (.stalled "ask")) := by rfl
  refine ⟨⟨refused, stalled, fun same => ?_⟩, ?_⟩
  · have both := same (.enquiry (some ⟨500, ""⟩)) (.responding (some ⟨200, ""⟩)) "ask" "u" [] .onClosed
    exact absurd (refused.symm.trans (both.trans stalled)) nofun
  · let other : Run := { Run.fresh with bag := .ofList [("y", "c")] }
    have contained : UnlessClosed (perform (.enquiry (some .pair)) "ask"
        (.request "u" [⟨"a", "x"⟩])) other _ (.halt (.stalled "ask")) _ :=
      (request_contained "u" [⟨"a", "x"⟩]).returning
    have gives : Response.pair.Gives [⟨"a", "x"⟩] "x" "b" :=
      ⟨_, Response.pair_document, [], ⟨"a", "x"⟩, [], .string "b", rfl, rfl, ⟨by decide, rfl, nofun⟩, rfl, by simp⟩
    have nothing (text : String) : ¬ Response.pair.Gives [⟨"a", "x"⟩] "y" text := by
      intro gives
      obtain ⟨_, -, front, m, back, _, split, same, -⟩ := gives
      have only : m = ⟨"a", "x"⟩ := List.mem_singleton.1 (split ▸ by simp : m ∈ [(⟨"a", "x"⟩ : Mapping)])
      subst only
      exact absurd same (by decide)
    obtain ⟨t, run, -, takes⟩ := contained.done fun closed => absurd closed (by decide)
    have taken := takes _ rfl (Response.pair_succeeds _)
    refine ⟨t, run, ?_, ?_⟩
    · rw [taken.renewed ⟨_, _, gives⟩, taken.given "x" "b" gives]
    · rw [taken.renewed ⟨_, _, gives⟩, taken.others "y" nothing]
      rfl

end Walk

end Switchboard
