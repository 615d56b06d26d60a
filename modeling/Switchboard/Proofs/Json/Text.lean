import Mathlib.Data.List.Forall2
import Mathlib.Tactic.SplitIfs
import Switchboard.Json.Printer
import Switchboard.Json.Reader

/-! The text of a document and back. Lexemes end where a character comes that belongs to no word, and each
part of a document, once read, is put where it belongs; so a document is read back part by part. Numbers are
left out here: the documents in question hold none. -/
namespace Switchboard.Json

mutual
/-- A document as compact text, with its members in the order in which they stand. -/
def text : Json → String
  | .null | .unreadable => "null"
  | .bool value => if value then "true" else "false"
  | .integer value => integerText value
  | .double value => NumberStyle.compact.write value
  | .string value => quote value
  | .array items => braced "[" "]" (texts items)
  | .object members => braced "\x7b" "\x7d" (memberTexts members)

def texts : List Json → List String
  | [] => []
  | item :: rest => text item :: texts rest

def memberTexts : List (String × Json) → List String
  | [] => []
  | (name, value) :: rest => (quote name ++ ":" ++ text value) :: memberTexts rest
end

/-- Nested no deeper than this, and without numbers. -/
inductive Plain : Nat → Json → Prop
  | null {depth : Nat} : Plain depth .null
  | bool {depth : Nat} (value : Bool) : Plain depth (.bool value)
  | string {depth : Nat} (value : String) : Plain depth (.string value)
  | array {depth : Nat} {items : List Json} (each : ∀ item ∈ items, Plain depth item) :
    Plain (depth + 1) (.array items)
  | object {depth : Nat} {members : List (String × Json)}
    (each : ∀ member ∈ members, Plain depth member.2) : Plain (depth + 1) (.object members)

/-! Lexemes. -/

def Breaks (rest : List Char) : Prop := ∀ c ∈ rest.head?, isWordChar c = false

/-- The text ends with a lexeme, whatever comes next. -/
def Lexes (front : List Char) (tokens : List Token) : Prop :=
  ∀ rest, Breaks rest → scan .between (front ++ rest) = (scan .between rest).map (tokens ++ ·)

section Lexemes

variable {front back rest reversed : List Char} {tokens more : List Token} {mode next : Mode} {c : Char}
  {token : Token} {value : Json}

theorem scan_cons : scan mode (c :: rest) =
    (step mode c).bind fun found => (scan found.2 rest).map (found.1 ++ ·) := by
  rw [scan]
  cases step mode c with
  | none => rfl
  | some found =>
    obtain ⟨tokens, next⟩ := found
    simp only [Option.bind_eq_bind, Option.bind_some]
    cases scan next rest <;> rfl

theorem scan_of_step (step_ : step mode c = some ([], next)) : scan mode (c :: rest) = scan next rest := by
  rw [scan_cons, step_]
  simp

theorem Breaks.cons (breaks : isWordChar c = false) : Breaks (c :: rest) := by
  rintro _ ⟨⟩
  exact breaks

theorem Lexes.nil : Lexes [] [] := by
  intro rest _
  simp

theorem Lexes.cons (starts : startToken c = some ([token], .between)) (further : Lexes back more) :
    Lexes (c :: back) (token :: more) := by
  intro rest breaks
  rw [List.cons_append, scan_cons, step, starts, Option.bind_some, further rest breaks, Option.map_map]
  rfl

/-- A lexeme of one character ends the one before it. -/
theorem Lexes.append (first : Lexes front tokens) (breaks : isWordChar c = false)
    (further : Lexes (c :: back) more) : Lexes (front ++ c :: back) (tokens ++ more) := by
  intro rest apart
  rw [List.append_assoc, List.cons_append, first _ (.cons breaks), ← List.cons_append, further _ apart,
    Option.map_map]
  simp [Function.comp_def]

theorem scan_word (reads : readLiteral reversed.reverse = some value) (breaks : Breaks rest) :
    scan (.word reversed) rest = (scan .between rest).map (.value value :: ·) := by
  cases rest with
  | nil => simp [scan, reads]
  | cons c rest =>
    have apart : isWordChar c = false := breaks c rfl
    rw [scan_cons, scan_cons]
    simp only [step, apart, reads]
    cases startToken c with
    | none => rfl
    | some found => simp [Function.comp_def]

theorem lexes_word {cs : List Char} (starts : startToken c = some ([], .word [c]))
    (word : cs.all isWordChar = true) (reads : readLiteral (c :: cs) = some value) :
    Lexes (c :: cs) [.value value] := by
  intro rest breaks
  have inside (cs reversed : List Char) (word : ∀ d ∈ cs, isWordChar d = true) :
      scan (.word reversed) (cs ++ rest) = scan (.word (cs.reverse ++ reversed)) rest := by
    induction cs generalizing reversed with
    | nil => rfl
    | cons d cs ih =>
      have goesOn : step (.word reversed) d = some ([], .word (d :: reversed)) := by
        simp [step, word d List.mem_cons_self]
      rw [List.cons_append, scan_of_step goesOn, ih _ fun e member => word e (List.mem_cons_of_mem d member)]
      simp
  have opens : step .between c = some ([], .word [c]) := starts
  rw [List.cons_append, scan_of_step opens, inside cs [c] (List.all_eq_true.1 word)]
  exact scan_word (by simpa using reads) breaks

theorem lexes_null : Lexes "null".toList [.value .null] :=
  lexes_word rfl rfl rfl

theorem lexes_bool (value : Bool) :
    Lexes (if value then "true" else "false").toList [.value (.bool value)] := by
  cases value <;> exact lexes_word rfl rfl rfl

/-! Texts. -/

theorem hexFour_eq : ∀ n < 32,
    hexFour n = ['0', '0', Nat.digitChar (n / 16), Nat.digitChar (n % 16)] := by
  decide

theorem hexValue_digitChar : ∀ n < 16, hexValue n.digitChar = some n := by
  decide

theorem scan_digit {digit : Char} {value count found : Nat} {spelled : Spelled}
    (reads : hexValue digit = some value) (early : count ≠ 3) :
    scan (.code spelled found count) (digit :: rest) =
      scan (.code spelled (16 * found + value) (count + 1)) rest :=
  scan_of_step (by simp [step, reads, early])

theorem scan_lastDigit {digit : Char} {value found : Nat} {spelled : Spelled}
    (reads : hexValue digit = some value) :
    scan (.code spelled found 3) (digit :: rest) = scan (endCode spelled (16 * found + value)) rest :=
  scan_of_step (by simp [step, reads])

theorem scan_escapeChar (c : Char) (reversed : List Char) :
    scan (.text (some reversed)) (escapeChar c ++ rest) = scan (.text (some (c :: reversed))) rest := by
  have opens : step (.text (some reversed)) '\\' = some ([], .escape (some reversed)) := rfl
  have escape (e : Char) (simple : simpleEscape e = some c) (other : e ≠ 'u') :
      scan (.text (some reversed)) (['\\', e] ++ rest) = scan (.text (some (c :: reversed))) rest := by
    have closes : step (.escape (some reversed)) e = some ([], .text (some (c :: reversed))) := by
      simp [step, other, simple, Spelled.add]
    exact (scan_of_step opens).trans (scan_of_step closes)
  have coded (control : c.toNat < 32) :
      scan (.text (some reversed)) (['\\', 'u'] ++ hexFour c.toNat ++ rest) =
        scan (.text (some (c :: reversed))) rest := by
    have number : step (.escape (some reversed)) 'u' = some ([], .code (some reversed) 0 0) := rfl
    have high := hexValue_digitChar (c.toNat / 16) (by omega)
    have low := hexValue_digitChar (c.toNat % 16) (by omega)
    have whole : 16 * (16 * (16 * (16 * 0 + 0) + 0) + c.toNat / 16) + c.toNat % 16 = c.toNat := by
      omega
    have ends : endCode (some reversed) c.toNat = .text (some (c :: reversed)) := by
      have plain : ¬ (0xD800 ≤ c.toNat) ∧ ¬ (0xDC00 ≤ c.toNat) := by omega
      simp [endCode, isHigh, isLow, plain, Spelled.add]
    have zero : hexValue '0' = some 0 := rfl
    rw [hexFour_eq _ control]
    simp only [List.cons_append, List.nil_append]
    rw [scan_of_step opens, scan_of_step number, scan_digit zero (by decide), scan_digit zero (by decide),
      scan_digit high (by decide), scan_lastDigit low, whole, ends]
  have plain (quotation : c ≠ '"') (backslash : c ≠ '\\') (printable : ¬ c.toNat < 32) :
      step (.text (some reversed)) c = some ([], .text (some (c :: reversed))) := by
    simp [step, stepText, quotation, backslash, printable, Spelled.add]
  unfold escapeChar
  simp only [Bool.or_eq_true, beq_iff_eq]
  split_ifs with special backspace tab newline feed return_ control
  · obtain rfl | rfl := special <;> exact escape _ rfl (by decide)
  · exact escape 'b' (backspace ▸ rfl) (by decide)
  · exact escape 't' (tab ▸ rfl) (by decide)
  · exact escape 'n' (newline ▸ rfl) (by decide)
  · exact escape 'f' (feed ▸ rfl) (by decide)
  · exact escape 'r' (return_ ▸ rfl) (by decide)
  · exact coded control
  · rw [not_or] at special
    exact scan_of_step (plain special.1 special.2 control)

theorem lexes_quote (s : String) : Lexes (quote s).toList [.value (.string s)] := by
  intro rest _
  have inside (cs reversed : List Char) :
      scan (.text (some reversed)) (cs.flatMap escapeChar ++ '"' :: rest) =
        (scan .between rest).map (.value (.string (String.ofList (reversed.reverse ++ cs))) :: ·) := by
    induction cs generalizing reversed with
    | nil =>
      rw [List.flatMap_nil, List.nil_append, scan_cons]
      simp [step, stepText]
    | cons c cs ih =>
      rw [List.flatMap_cons, List.append_assoc, scan_escapeChar, ih]
      simp
  unfold quote
  rw [String.toList_ofList]
  have opens : step .between '"' = some ([], .text (some [])) := rfl
  have opened := inside s.toList []
  simp only [List.append_assoc, List.cons_append, List.nil_append]
  rw [scan_of_step opens, opened]
  simp

end Lexemes

/-! Values in their places. -/

/-- Wherever a value may stand that is nested so deep, the text puts this one there. -/
def Tells (depth : Nat) (front : List Char) (value : Json) : Prop :=
  ∃ tokens, Lexes front tokens ∧ ∀ outer expected, takesValue expected = true →
    outer.length + depth ≤ maxDepth →
      tokens.foldlM Reading.step ⟨outer, expected, .null⟩ = Reading.put value outer

structure Row (α : Type) where
  opening : Char
  closing : Char
  openToken : Token
  closeToken : Token
  frame : List α → Frame
  /-- The whole that the entries make. -/
  value : List α → Json
  /-- What is expected of the first entry, and of the next ones. -/
  first : Expected
  next : Expected
  opens : startToken opening = some ([openToken], .between)
  closes : startToken closing = some ([closeToken], .between)
  closing_breaks : isWordChar closing = false
  step_open : ∀ outer expected, takesValue expected = true →
    Reading.step ⟨outer, expected, .null⟩ openToken = some ⟨frame [] :: outer, first, .null⟩
  step_comma : ∀ reversed outer,
    Reading.step ⟨frame reversed :: outer, .commaOrClose, .null⟩ .comma =
      some ⟨frame reversed :: outer, next, .null⟩
  step_close : ∀ reversed outer expected, expected = first ∨ expected = .commaOrClose →
    outer.length + 1 ≤ maxDepth →
      Reading.step ⟨frame reversed :: outer, expected, .null⟩ closeToken =
        Reading.put (value reversed.reverse) outer

namespace Row

def items : Row Json where
  opening := '['
  closing := ']'
  openToken := .openArray
  closeToken := .closeArray
  frame := .items
  value := .array
  first := .valueOrClose
  next := .value
  opens := rfl
  closes := rfl
  closing_breaks := rfl
  step_open := fun _ _ takes => if_pos takes
  step_comma := fun _ _ => rfl
  step_close := by
    rintro reversed outer _ (rfl | rfl) shallow <;>
      simp [Reading.step, Frame.value, shallow]

def members : Row (String × Json) where
  opening := '\x7b'
  closing := '\x7d'
  openToken := .openObject
  closeToken := .closeObject
  frame := (.members · true)
  value := .object
  first := .nameOrClose
  next := .name
  opens := rfl
  closes := rfl
  closing_breaks := rfl
  step_open := fun _ _ takes => if_pos takes
  step_comma := fun _ _ => rfl
  step_close := by
    rintro reversed outer _ (rfl | rfl) shallow <;>
      simp [Reading.step, Frame.value, shallow]

variable {α : Type} {row : Row α} {depth : Nat} {entries : List α} {write : α → List Char}

def Adds (row : Row α) (depth : Nat) (front : List Char) (entries : List α) : Prop :=
  ∃ tokens, Lexes front tokens ∧ ∀ reversed outer expected, expected = row.first ∨ expected = row.next →
    outer.length + 1 + depth ≤ maxDepth →
      tokens.foldlM Reading.step ⟨row.frame reversed :: outer, expected, .null⟩ =
        some ⟨row.frame (entries.reverse ++ reversed) :: outer, .commaOrClose, .null⟩

theorem adds_intercalate (some_ : entries ≠ []) (each : ∀ a ∈ entries, row.Adds depth (write a) [a]) :
    row.Adds depth ([','].intercalate (entries.map write)) entries := by
  induction entries with
  | nil => contradiction
  | cons a entries ih =>
    have first := each a List.mem_cons_self
    cases entries with
    | nil => simpa using first
    | cons b entries =>
      obtain ⟨tokens, lexes, adds⟩ := first
      obtain ⟨more, lexes', adds'⟩ :=
        ih (by simp) fun c member => each c (List.mem_cons_of_mem a member)
      rw [List.map_cons, List.map_cons, List.intercalate_cons_cons, ← List.map_cons, List.append_assoc]
      refine ⟨tokens ++ .comma :: more, lexes.append (by decide) (lexes'.cons rfl), ?_⟩
      intro reversed outer expected ready shallow
      rw [List.foldlM_append, adds reversed outer expected ready shallow]
      simp only [Option.bind_eq_bind, Option.bind_some, List.foldlM_cons, row.step_comma]
      rw [adds' _ outer row.next (.inr rfl) shallow]
      simp

theorem tells_value (each : ∀ a ∈ entries, row.Adds depth (write a) [a]) :
    Tells (depth + 1)
      (row.opening :: ([','].intercalate (entries.map write) ++ [row.closing])) (row.value entries) := by
  have closed : Lexes [row.closing] [row.closeToken] := Lexes.nil.cons row.closes
  cases entries with
  | nil =>
    refine ⟨[row.openToken, row.closeToken], closed.cons row.opens, ?_⟩
    intro outer expected takes shallow
    rw [List.foldlM_cons, row.step_open outer expected takes, Option.bind_eq_bind, Option.bind_some,
      List.foldlM_cons, row.step_close [] outer _ (.inl rfl) (by omega), List.reverse_nil]
    cases Reading.put (row.value []) outer <;> rfl
  | cons a entries =>
    obtain ⟨tokens, lexes, adds⟩ := adds_intercalate (by simp) each
    refine ⟨row.openToken :: (tokens ++ [row.closeToken]),
      (lexes.append row.closing_breaks closed).cons row.opens, ?_⟩
    intro outer expected takes shallow
    rw [List.foldlM_cons, row.step_open outer expected takes, Option.bind_eq_bind, Option.bind_some,
      List.foldlM_append, adds [] outer row.first (.inl rfl) (by omega), Option.bind_eq_bind,
      Option.bind_some, List.foldlM_cons, row.step_close _ outer _ (.inr rfl) (by omega), List.append_nil,
      List.reverse_reverse]
    cases Reading.put (row.value (a :: entries)) outer <;> rfl

theorem items_adds {front : List Char} {value : Json} (tells : Tells depth front value) :
    items.Adds depth front [value] := by
  obtain ⟨tokens, lexes, puts⟩ := tells
  refine ⟨tokens, lexes, fun reversed outer expected ready shallow => ?_⟩
  have takes : takesValue expected = true := by
    obtain rfl | rfl := ready <;> rfl
  exact puts (.items reversed :: outer) expected takes shallow

theorem members_adds {front : List Char} {name : String} {value : Json}
    (tells : Tells depth front value) :
    members.Adds depth ((quote name).toList ++ ':' :: front) [(name, value)] := by
  obtain ⟨tokens, lexes, puts⟩ := tells
  refine ⟨[.value (.string name)] ++ .colon :: tokens,
    (lexes_quote name).append (by decide) (lexes.cons rfl), ?_⟩
  intro reversed outer expected ready shallow
  have named : Reading.step ⟨.members reversed true :: outer, expected, .null⟩ (.value (.string name)) =
      some ⟨.member (some name) reversed true :: outer, .colon, .null⟩ := by
    obtain rfl | rfl := ready <;> rfl
  have followed : Reading.step ⟨.member (some name) reversed true :: outer, .colon, .null⟩ .colon =
      some ⟨.member (some name) reversed true :: outer, .value, .null⟩ := rfl
  change List.foldlM Reading.step (⟨.members reversed true :: outer, expected, .null⟩ : Reading) _ = _
  rw [List.cons_append, List.nil_append, List.foldlM_cons, named, Option.bind_eq_bind, Option.bind_some,
    List.foldlM_cons, followed, Option.bind_eq_bind, Option.bind_some]
  exact puts (.member (some name) reversed true :: outer) .value rfl shallow

end Row

theorem tells_scalar {depth : Nat} {front : List Char} {value : Json}
    (lexes : Lexes front [.value value]) : Tells depth front value := by
  refine ⟨_, lexes, fun outer expected takes _ => ?_⟩
  have stands : Reading.step ⟨outer, expected, .null⟩ (.value value) = Reading.put value outer :=
    if_pos takes
  rw [List.foldlM_cons, stands]
  cases Reading.put value outer <;> rfl

theorem texts_eq (items : List Json) : texts items = items.map text := by
  induction items with
  | nil => rfl
  | cons item rest ih => rw [texts, ih, List.map_cons]

theorem memberTexts_eq (members : List (String × Json)) :
    memberTexts members = members.map fun member => quote member.1 ++ ":" ++ text member.2 := by
  induction members with
  | nil => rfl
  | cons member rest ih => rw [memberTexts, ih, List.map_cons]

theorem tells_text {depth : Nat} {j : Json} (plain : Plain depth j) : Tells depth (text j).toList j := by
  induction plain with
  | null => exact tells_scalar lexes_null
  | bool value => exact tells_scalar (lexes_bool value)
  | string value => exact tells_scalar (lexes_quote value)
  | @array depth items each ih =>
    have whole := Row.tells_value fun item member => Row.items_adds (ih item member)
    simpa [text, braced, texts_eq, Row.items, Function.comp_def] using whole
  | @object depth members each ih =>
    have each (member : String × Json) (mem : member ∈ members) :
        Row.members.Adds depth ((quote member.1).toList ++ ':' :: (text member.2).toList) [member] :=
      Row.members_adds (ih member mem)
    have whole := Row.tells_value each
    simpa [text, braced, memberTexts_eq, Row.members, Function.comp_def] using whole

/-- A plain document is read back from its text. -/
theorem ofText_text {j : Json} (plain : Plain maxDepth j) : ofText (text j) = some j := by
  obtain ⟨tokens, lexes, puts⟩ := tells_text plain
  have lexed := lexes [] (fun _ none_ => by cases none_)
  have found : tokens.foldlM Reading.step Reading.start = Reading.put j [] :=
    puts [] .value rfl (by simp)
  rw [List.append_nil] at lexed
  unfold ofText ofTokens
  rw [Json.tokens, lexed]
  simp [scan, found, Reading.put]

/-! The printer writes the same text once members stand in the order of their names. -/

def inOrder (members : List (String × Json)) : List (String × Json) :=
  members.mergeSort fun a b => a.1 ≤ b.1

mutual
def arrange : Json → Json
  | .array items => .array (arrangeItems items)
  | .object members => .object (inOrder (arrangeMembers members))
  | value => value

def arrangeItems : List Json → List Json
  | [] => []
  | item :: rest => arrange item :: arrangeItems rest

def arrangeMembers : List (String × Json) → List (String × Json)
  | [] => []
  | (name, value) :: rest => (name, arrange value) :: arrangeMembers rest
end

theorem byName_map (members : List (String × Json)) :
    byName (members.map fun member => (member.1, text member.2)) =
      (inOrder members).map fun member => (member.1, text member.2) := by
  unfold byName inOrder
  refine (List.map_mergeSort ?_).symm
  intros
  rfl

mutual
theorem compact_eq_text : (j : Json) → compact j = text (arrange j)
  | .null | .unreadable | .bool _ | .integer _ | .double _ | .string _ => rfl
  | .array items => by
    rw [compact, arrange, text, compactItems_eq items]
  | .object members => by
    rw [compact, arrange, text, compactMembers_eq members, byName_map, memberTexts_eq, List.map_map]
    rfl

theorem compactItems_eq : (items : List Json) → compactItems items = texts (arrangeItems items)
  | [] => rfl
  | item :: rest => by
    rw [compactItems, arrangeItems, texts, compact_eq_text item, compactItems_eq rest]

theorem compactMembers_eq : (members : List (String × Json)) →
    compactMembers members = (arrangeMembers members).map fun member => (member.1, text member.2)
  | [] => rfl
  | (name, value) :: rest => by
    rw [compactMembers, arrangeMembers, List.map_cons, compact_eq_text value, compactMembers_eq rest]
end

theorem arrangeItems_eq (items : List Json) : arrangeItems items = items.map arrange := by
  induction items with
  | nil => rfl
  | cons item rest ih => rw [arrangeItems, ih, List.map_cons]

theorem arrangeMembers_eq (members : List (String × Json)) :
    arrangeMembers members = members.map fun member => (member.1, arrange member.2) := by
  induction members with
  | nil => rfl
  | cons member rest ih => rw [arrangeMembers, ih, List.map_cons]

theorem Plain.arrange {depth : Nat} {j : Json} (plain : Plain depth j) : Plain depth j.arrange := by
  induction plain with
  | null => exact .null
  | bool value => exact .bool value
  | string value => exact .string value
  | array each ih =>
    rw [Json.arrange, arrangeItems_eq]
    exact .array (List.forall_mem_map.2 ih)
  | object each ih =>
    rw [Json.arrange, arrangeMembers_eq]
    refine .object fun member mem => ?_
    obtain ⟨entry, known, rfl⟩ := List.mem_map.1 ((List.mergeSort_perm _ _).mem_iff.1 mem)
    exact ih entry known

/-- What is printed is read back, with the members of each object in the order of their names. -/
theorem ofText_compact {j : Json} (plain : Plain maxDepth j) : ofText (compact j) = some j.arrange := by
  rw [compact_eq_text, ofText_text plain.arrange]

end Switchboard.Json
