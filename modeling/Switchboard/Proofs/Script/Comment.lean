import Mathlib.Data.List.Basic
import Mathlib.Data.Nat.Find
import Switchboard.Proofs.Script.Scanning

/-! Where comments begin. A line is cut before it is scanned, by a reader of its own that tells the end of a
text from the one character before it, while the scanner undoes escapes in pairs. The two agree on every
line whose texts end plainly; a text that ends in an escaped backslash seems to go on to the first. -/
namespace Switchboard.Script

def BeginsComment (rest : List Char) : Prop := ['#'] <+: rest ∨ ['/', '/'] <+: rest

instance (rest : List Char) : Decidable (BeginsComment rest) := inferInstanceAs (Decidable (_ ∨ _))

/-- The scanner would come to a comment here. -/
def CommentAt (before after : List Char) : Prop :=
  placeAfter before = .outside ∧ BeginsComment after

instance (before after : List Char) : Decidable (CommentAt before after) :=
  inferInstanceAs (Decidable (_ ∧ _))

def Free (front rest : List Char) : Prop :=
  ∀ before after, before ++ after = front ++ rest → CommentAt before after →
    front.length ≤ before.length

/-- The line is code up to its first comment, or code altogether. -/
structure Splits (line code comment : List Char) : Prop where
  whole : code ++ comment = line
  begins : comment = [] ∨ CommentAt code comment
  first : Free code comment

/-- No text ends at a quote right after a backslash, as one does whose last backslash is escaped. -/
def EndsPlainly (code : List Char) : Prop :=
  ∀ before quote after, before ++ '\\' :: quote :: after = code →
    placeAfter (before ++ ['\\']) ≠ .inside quote

variable {line code comment front rest note : List Char} {c : Char} {tokens : List Token}

theorem free_iff : Free front rest ↔ ∀ n < front.length,
    ¬ CommentAt ((front ++ rest).take n) ((front ++ rest).drop n) := by
  constructor
  · intro free n short at_
    have within := free _ _ (List.take_append_drop n _) at_
    rw [List.length_take, List.length_append] at within
    omega
  · intro none before after same at_
    by_contra short
    refine none before.length (by omega) ?_
    rwa [← same, List.take_left, List.drop_left]

instance : Decidable (Free front rest) := decidable_of_iff _ free_iff.symm

theorem endsPlainly_iff : EndsPlainly code ↔ ∀ n < code.length, (code.drop n).head? = some '\\' →
    (code.drop (n + 1)).head?.map .inside ≠ some (placeAfter (code.take (n + 1))) := by
  constructor
  · intro plain n short escapes closes
    obtain ⟨quote, closes, within⟩ := Option.map_eq_some_iff.1 closes
    obtain ⟨after, further⟩ := List.head?_eq_some_iff.1 closes
    obtain ⟨later, here⟩ := List.head?_eq_some_iff.1 escapes
    have tail : later = quote :: after := by
      rw [← further, ← List.drop_drop, here, List.drop_one, List.tail_cons]
    have taken : code.take (n + 1) = code.take n ++ ['\\'] := by
      rw [List.take_add, here]
      rfl
    rw [taken] at within
    exact plain _ quote after (by rw [← tail, ← here, List.take_append_drop]) within.symm
  · rintro none before quote after rfl within
    refine none before.length (by simp) (by simp) ?_
    simp [List.take_append, List.drop_append, List.take_of_length_le, within]

instance : Decidable (EndsPlainly code) := decidable_of_iff _ endsPlainly_iff.symm

theorem exists_splits (line : List Char) : ∃ code comment, Splits line code comment := by
  by_cases found : ∃ n, CommentAt (line.take n) (line.drop n)
  · have within : Nat.find found ≤ line.length := by
      by_contra beyond
      have at_ := Nat.find_spec found
      rw [List.drop_eq_nil_of_le (by omega)] at at_
      simp [CommentAt, BeginsComment] at at_
    refine ⟨line.take (Nat.find found), line.drop (Nat.find found), List.take_append_drop _ _,
      .inr (Nat.find_spec found), fun before after same at_ => ?_⟩
    rw [List.take_append_drop] at same
    subst same
    rw [List.length_take_of_le within]
    exact Nat.find_min' found (by simpa using at_)
  · refine ⟨line, [], List.append_nil line, .inl rfl, fun before after same at_ => ?_⟩
    rw [List.append_nil] at same
    subst same
    exact absurd ⟨before.length, by simpa using at_⟩ found

theorem beginsComment_of_append {more : List Char} (begins : BeginsComment (more ++ c :: rest))
    (some_ : more ≠ []) (slash : c ≠ '/') : BeginsComment more := by
  match more, some_ with
  | [d], _ =>
    obtain hash | slashes := begins
    · exact .inl (by simpa using hash)
    · exact absurd (by simpa using slashes : '/' = d ∧ '/' = c).2.symm slash
  | d :: e :: more, _ => simpa [BeginsComment] using begins

theorem Free.append (free : Free front []) (slash : c ≠ '/') : Free front (c :: rest) := by
  intro before after same at_
  by_contra inside
  obtain ⟨more, rfl, rfl⟩ | ⟨more, rfl, -⟩ := List.append_eq_append_iff.1 same
  · have some_ : more ≠ [] := by
      rintro rfl
      simp at inside
    have earlier := beginsComment_of_append at_.2 some_ slash
    exact inside (free before more (by simp) ⟨at_.1, earlier⟩)
  · simp at inside

def lastOf (before : List Char) : Char := before.getLast?.getD '\x00'

@[simp] theorem lastOf_append (before : List Char) (c : Char) : lastOf (before ++ [c]) = c := by
  simp [lastOf]

theorem eq_append_of_lastOf {before : List Char} (last : lastOf before = c) (real : c ≠ '\x00') :
    ∃ earlier, before = earlier ++ [c] := by
  obtain rfl | ⟨earlier, d, rfl⟩ := List.eq_nil_or_concat' before
  · exact absurd last.symm real
  · rw [lastOf_append] at last
    exact ⟨earlier, by rw [last]⟩

theorem lastOf_of_escaped {before : List Char} {quote : Char}
    (escaped : placeAfter before = .escaped quote) : lastOf before = '\\' := by
  obtain rfl | ⟨earlier, d, rfl⟩ := List.eq_nil_or_concat' before
  · contradiction
  · rw [placeAfter_append] at escaped
    rw [lastOf_append]
    unfold Place.after at escaped
    split at escaped
    · split at escaped <;> contradiction
    · split at escaped
      · contradiction
      · split at escaped
        · assumption
        · contradiction
    · contradiction

theorem beginsComment_cons (begins : c = '#' ∨ c = '/' ∧ rest.head? = some '/') :
    BeginsComment (c :: rest) := by
  obtain rfl | ⟨rfl, second⟩ := begins
  · exact .inl ⟨rest, rfl⟩
  · cases rest with
    | nil => contradiction
    | cons d rest =>
      cases second
      exact .inr ⟨rest, rfl⟩

/-- One character of code. Where a text would end, the reader of comments must not see a backslash. -/
theorem withoutComment_cons {place : Place} {last : Char}
    (code : place = .outside → ¬ BeginsComment (c :: rest)) (plain : place = .inside c → last ≠ '\\')
    (escaped : ∀ quote, place = .escaped quote → last = '\\') :
    withoutComment place.quote? last (c :: rest) =
      c :: withoutComment (place.after c).quote? c rest := by
  cases place with
  | outside =>
    have hash : ¬ (c == '#' || (c == '/' && rest.head? == some '/')) := by
      intro begins
      refine code rfl (beginsComment_cons ?_)
      simpa using begins
    simp only [withoutComment, Place.quote?, Place.after, if_neg hash]
    split <;> rfl
  | inside quote =>
    simp only [withoutComment, Place.quote?, Place.after]
    by_cases closes : c = quote
    · subst closes
      simp [plain rfl]
    · rw [if_neg closes, if_neg (by simp [closes])]
      by_cases escapes : c = '\\'
      · rw [if_pos escapes]
      · rw [if_neg escapes]
  | escaped quote =>
    simp only [withoutComment, Place.quote?, Place.after, escaped quote rfl]
    simp

/-- As long as texts end plainly, the reader of comments knows whether it is in a text, and so it passes
over all the code in front of the first comment. -/
theorem withoutComment_free (before : List Char) {more : List Char} (free : Free (before ++ more) rest)
    (plain : EndsPlainly (before ++ more)) :
    withoutComment (placeAfter before).quote? (lastOf before) (more ++ rest) =
      more ++ withoutComment (placeAfter (before ++ more)).quote? (lastOf (before ++ more)) rest := by
  induction more generalizing before with
  | nil => simp
  | cons c more ih =>
    have later : before ++ c :: more = before ++ [c] ++ more := by simp
    have next : withoutComment (placeAfter (before ++ [c])).quote? (lastOf (before ++ [c]))
        (more ++ rest) = _ := ih _ (later ▸ free) (later ▸ plain)
    rw [placeAfter_append, lastOf_append] at next
    rw [List.cons_append, withoutComment_cons, next, later]
    · rfl
    · intro outside begins
      have within := free before (c :: (more ++ rest)) (by simp) ⟨outside, begins⟩
      simp only [List.length_append, List.length_cons] at within
      omega
    · intro inside last
      obtain ⟨earlier, rfl⟩ := eq_append_of_lastOf last (by decide)
      exact plain earlier c more (by simp) inside
    · exact fun quote => lastOf_of_escaped

theorem withoutComment_comment {last : Char} (begins : BeginsComment rest) :
    withoutComment none last rest = [] := by
  obtain ⟨note, rfl⟩ | ⟨note, rfl⟩ := begins <;> simp [withoutComment, isQuote]

theorem stripComment_of_splits (splits : Splits line code comment) (plain : EndsPlainly code) :
    stripComment line = code := by
  have cut : stripComment (code ++ comment) =
      code ++ withoutComment (placeAfter code).quote? (lastOf code) comment :=
    withoutComment_free [] splits.first plain
  obtain none | ⟨outside, begins⟩ := splits.begins
  · rw [← splits.whole, cut, none]
    exact List.append_nil code
  · rw [outside, Place.quote?, withoutComment_comment begins, List.append_nil] at cut
    rw [← splits.whole, cut]

theorem stripComment_append (free : Free front rest) (plain : EndsPlainly front)
    (outside : placeAfter front = .outside) :
    stripComment (front ++ rest) = front ++ stripComment rest := by
  have cut : stripComment (front ++ rest) =
      front ++ withoutComment (placeAfter front).quote? (lastOf front) rest :=
    withoutComment_free [] free plain
  rw [cut, outside]
  cases rest <;> rfl

structure Bare (line : List Char) (tokens : List Token) : Prop where
  scans : scan line = .ok tokens
  free : Free line []
  plain : EndsPlainly line

theorem Free.snoc (free : Free front (c :: rest)) (code : ¬ BeginsComment (c :: rest)) :
    Free (front ++ [c]) rest := by
  intro before after same at_
  rw [List.append_assoc, List.singleton_append] at same
  have within := free before after same at_
  rw [List.length_append, List.length_singleton]
  by_contra short
  have length : before.length = front.length := by omega
  obtain ⟨rfl, rfl⟩ := List.append_inj same length
  exact code at_.2

theorem EndsPlainly.snoc (plain : EndsPlainly front) (outside : placeAfter front = .outside) :
    EndsPlainly (front ++ [c]) := by
  intro before quote after same inside
  obtain rfl | ⟨after, d, rfl⟩ := List.eq_nil_or_concat' after
  · have same : (before ++ ['\\']) ++ [quote] = front ++ [c] := by simpa using same
    rw [(List.append_inj' same rfl).1, outside] at inside
    contradiction
  · have same : (before ++ '\\' :: quote :: after) ++ [d] = front ++ [c] := by simpa using same
    exact plain before quote after (List.append_inj' same rfl).1 inside

section Lines

theorem linesFrom_append (reversed rest : List Char) (unbroken : '\n' ∉ front) :
    linesFrom reversed (front ++ rest) = linesFrom (front.reverse ++ reversed) rest := by
  induction front generalizing reversed with
  | nil => rfl
  | cons c front ih =>
    obtain ⟨first, further⟩ := not_or.1 (mt List.mem_cons.2 unbroken)
    rw [List.cons_append, linesFrom, if_neg (by simpa using Ne.symm first), ih _ further]
    simp

theorem lines_unbroken (unbroken : '\n' ∉ line) : lines line = if line = [] then [] else [line] := by
  have all := linesFrom_append [] [] unbroken
  rw [List.append_nil, List.append_nil] at all
  rw [lines, all, linesFrom]
  simp

theorem lines_append_feed (unbroken : '\n' ∉ line) :
    lines (line ++ '\n' :: rest) = dropReturn line.reverse :: lines rest := by
  rw [lines, linesFrom_append _ _ unbroken, List.append_nil, linesFrom,
    if_pos (beq_self_eq_true _), lines]

theorem linesFrom_semicolon (reversed front rest : List Char) :
    ∃ first more, linesFrom (reversed ++ ';' :: front) rest = (front.reverse ++ ';' :: first) :: more ∧
      (linesFrom reversed rest = first :: more ∨
        linesFrom reversed rest = [] ∧ first = [] ∧ more = []) := by
  induction rest generalizing reversed with
  | nil =>
    cases reversed with
    | nil => exact ⟨[], [], by simp [linesFrom], .inr ⟨rfl, rfl, rfl⟩⟩
    | cons c reversed => exact ⟨(c :: reversed).reverse, [], by simp [linesFrom], .inl rfl⟩
  | cons c rest ih =>
    by_cases feed : c = '\n'
    · subst feed
      refine ⟨dropReturn reversed, lines rest, ?_, .inl rfl⟩
      rw [linesFrom, if_pos (beq_self_eq_true _)]
      refine congrArg (· :: lines rest) ?_
      cases reversed with
      | nil => simp [dropReturn]
      | cons d reversed =>
        rw [List.cons_append, dropReturn.eq_def, dropReturn.eq_def]
        split <;> split <;> simp_all
    · have further := ih (c :: reversed)
      simpa only [linesFrom, beq_iff_eq, if_neg feed, List.cons_append] using further

end Lines

section Reading

variable {program : Program} {n m : Nat} {more : List (List Char)}

theorem readLines_cons_eq_ok_iff :
    readLines n (line :: more) = .ok program ↔ ∃ first further, readLine line = .ok first ∧
      readLines (n + 1) more = .ok further ∧ first ++ further = program := by
  rw [readLines]
  cases readLine line with
  | error misfit => simp
  | ok first => cases readLines (n + 1) more <;> simp

theorem readLines_eq_ok_iff (n m : Nat) :
    readLines n more = .ok program ↔ readLines m more = .ok program := by
  induction more generalizing n m program with
  | nil => rfl
  | cons line more ih =>
    rw [readLines_cons_eq_ok_iff, readLines_cons_eq_ok_iff]
    simp only [ih (n + 1) (m + 1)]

theorem splitStatements_ne_nil : splitStatements tokens ≠ [] := by
  cases tokens with
  | nil => exact List.cons_ne_nil _ _
  | cons token tokens =>
    rw [splitStatements]
    split
    · exact List.cons_ne_nil _ _
    · split <;> exact List.cons_ne_nil _ _

theorem splitStatements_append (tokens later : List Token) :
    splitStatements (tokens ++ .semicolon :: later) = splitStatements tokens ++ splitStatements later := by
  induction tokens with
  | nil => rfl
  | cons token tokens ih =>
    simp only [List.cons_append, splitStatements, ih]
    split
    · rfl
    · cases pieces : splitStatements tokens with
      | nil => exact absurd pieces splitStatements_ne_nil
      | cons => rfl

def readTokens (tokens : List Token) : Except Misfit Program :=
  ((splitStatements tokens).filter (! ·.isEmpty)).mapM boundedStatement

theorem readLine_eq : readLine line = scan (stripComment line) >>= readTokens := rfl

theorem readTokens_append_eq_ok_iff {later : List Token} :
    readTokens (tokens ++ .semicolon :: later) = .ok program ↔ ∃ first further,
      readTokens tokens = .ok first ∧ readTokens later = .ok further ∧ first ++ further = program := by
  rw [readTokens, splitStatements_append, List.filter_append, List.mapM_append]
  simp only [Except.bind_eq_ok_iff, readTokens]
  constructor
  · rintro ⟨first, reads, further, readsMore, ⟨⟩⟩
    exact ⟨first, further, reads, readsMore, rfl⟩
  · rintro ⟨first, further, reads, readsMore, rfl⟩
    exact ⟨first, reads, further, readsMore, rfl⟩

namespace Bare

theorem outside (bare : Bare line tokens) : placeAfter line = .outside := place_of_scan bare.scans

theorem readLine_eq (bare : Bare line tokens) : readLine line = readTokens tokens := by
  have cut := stripComment_of_splits ⟨List.append_nil line, .inl rfl, bare.free⟩ bare.plain
  rw [Script.readLine_eq, cut, bare.scans, Except.ok_bind]

theorem stripComment_append (bare : Bare line tokens) (hash : c ≠ '#') (slash : c ≠ '/')
    (quote : ¬ isQuote c) : stripComment (line ++ c :: rest) = line ++ c :: stripComment rest := by
  have code : ¬ BeginsComment (c :: rest) := by
    simp [BeginsComment, Ne.symm hash, Ne.symm slash]
  have outside : placeAfter (line ++ [c]) = .outside := by
    rw [placeAfter_append, bare.outside, after_outside quote]
  have cut := Script.stripComment_append ((bare.free.append slash).snoc code)
    (bare.plain.snoc bare.outside) outside
  simpa using cut

theorem readLine_append_comment (bare : Bare line tokens) (space : isSpace c)
    (begins : BeginsComment note) : readLine (line ++ c :: note) = readLine line := by
  have hash : c ≠ '#' := by
    rintro rfl
    contradiction
  have slash : c ≠ '/' := by
    rintro rfl
    contradiction
  have cut : stripComment (line ++ c :: note) = line ++ [c] := by
    rw [bare.stripComment_append hash slash (by simp [isQuote_of_isSpace space]),
      show stripComment note = [] from withoutComment_comment begins]
  rw [bare.readLine_eq, Script.readLine_eq, cut, scan_append_space bare.scans space, Except.ok_bind]

theorem readLine_append_semicolon (bare : Bare line tokens) :
    readLine (line ++ ';' :: rest) = .ok program ↔ ∃ first further,
      readLine line = .ok first ∧ readLine rest = .ok further ∧ first ++ further = program := by
  rw [bare.readLine_eq, Script.readLine_eq, Script.readLine_eq,
    bare.stripComment_append (by decide) (by decide) (by decide), scan_append_semicolon bare.scans]
  cases scan (stripComment rest) with
  | error misfit => simp [Except.map, bind, Except.bind]
  | ok later => exact readTokens_append_eq_ok_iff

theorem of_append_space (bare : Bare (line ++ [c]) tokens) (space : isSpace c) :
    Bare line tokens where
  scans := scan_of_append_space bare.scans space
  free := by
    intro before after same at_
    have later : CommentAt before (after ++ [c]) :=
      ⟨at_.1, at_.2.imp (·.trans (List.prefix_append ..)) (·.trans (List.prefix_append ..))⟩
    have within := bare.free before (after ++ [c]) (by rw [← List.append_assoc, same]; simp) later
    rw [List.length_append, List.length_singleton] at within
    omega
  plain := by
    intro before quote after same
    exact bare.plain before quote (after ++ [c]) (by simp [← same])

theorem dropReturn (bare : Bare line tokens) : Bare (dropReturn line.reverse) tokens := by
  obtain rfl | ⟨front, c, rfl⟩ := List.eq_nil_or_concat' line
  · exact bare
  · rw [List.reverse_append, List.reverse_singleton, List.singleton_append, Script.dropReturn.eq_def]
    split
    · rename_i same
      cases same
      rw [List.reverse_reverse]
      exact bare.of_append_space rfl
    · simpa using bare

end Bare

theorem readLines_append_feed (bare : Bare line tokens) (unbroken : '\n' ∉ line) :
    readLines n (lines (line ++ '\n' :: rest)) = .ok program ↔ ∃ first further,
      readLine line = .ok first ∧ readLines n (lines rest) = .ok further ∧
        first ++ further = program := by
  rw [lines_append_feed unbroken, readLines_cons_eq_ok_iff, bare.dropReturn.readLine_eq,
    bare.readLine_eq]
  simp only [readLines_eq_ok_iff (n + 1) n]

theorem readLines_append_semicolon (bare : Bare line tokens) (unbroken : '\n' ∉ line) :
    readLines n (lines (line ++ ';' :: rest)) = .ok program ↔ ∃ first further,
      readLine line = .ok first ∧ readLines n (lines rest) = .ok further ∧
        first ++ further = program := by
  have feed : '\n' ∉ line ++ [';'] := by simpa using unbroken
  obtain ⟨l, more, joined, alone⟩ :=
    linesFrom_semicolon [] line.reverse rest
  have all : lines (line ++ ';' :: rest) = (line ++ ';' :: l) :: more := by
    rw [List.nil_append, List.reverse_reverse] at joined
    have split := linesFrom_append [] rest feed
    simpa [lines, joined] using split
  have later : ∀ further, readLines n (lines rest) = .ok further ↔ ∃ second third,
      readLine l = .ok second ∧ readLines (n + 1) more = .ok third ∧ second ++ third = further := by
    intro further
    obtain alone | ⟨alone, rfl, rfl⟩ := alone
    · rw [lines, alone, readLines_cons_eq_ok_iff]
    · have nothing : readLine [] = .ok [] := rfl
      rw [lines, alone, nothing]
      simp [readLines]
  rw [all, readLines_cons_eq_ok_iff]
  simp only [bare.readLine_append_semicolon, later]
  constructor
  · rintro ⟨_, third, ⟨first, second, one, two, rfl⟩, three, rfl⟩
    exact ⟨first, second ++ third, one, ⟨second, third, two, three, rfl⟩, by simp⟩
  · rintro ⟨first, _, one, ⟨second, third, two, three, rfl⟩, rfl⟩
    exact ⟨first ++ second, third, ⟨first, second, one, two, rfl⟩, three, by simp⟩

theorem Program.read_ofList (source : List Char) :
    Program.read (String.ofList source) = readLines 1 (lines source) := by
  rw [Program.read, String.toList_ofList]

theorem Program.read_unbroken (unbroken : '\n' ∉ line) :
    Program.read (String.ofList line) = readLines 1 [line] := by
  rw [Program.read_ofList, lines_unbroken unbroken]
  split
  · rename_i empty
    rw [empty]
    rfl
  · rfl

end Reading

/-- Comments are cut where the scanner would come to them, and blanks, semicolons and line feeds between
statements are all one, as long as no text ends in a backslash. -/
theorem comments_cut (line : List Char) :
    (∀ s, Scanning.start.readAll line = .ok s → s.mode.place = placeAfter line) ∧
    (∃ code comment, Splits line code comment) ∧
    (∀ code comment, Splits line code comment → EndsPlainly code → stripComment line = code) ∧
    ∀ tokens, Bare line tokens → '\n' ∉ line →
      (∀ blank note, isSpace blank → BeginsComment note → '\n' ∉ note →
        Program.read (String.ofList (line ++ blank :: note)) = Program.read (String.ofList line)) ∧
      ∀ rest program, Program.read (String.ofList (line ++ ';' :: rest)) = .ok program ↔
        Program.read (String.ofList (line ++ '\n' :: rest)) = .ok program := by
  refine ⟨fun _ => Scanning.readAll_place, exists_splits line,
    fun code comment => stripComment_of_splits, ?_⟩
  intro tokens bare unbroken
  constructor
  · intro blank note space begins further
    have feed : '\n' ∉ line ++ blank :: note := by
      rw [List.mem_append, List.mem_cons]
      rintro (within | rfl | within)
      · exact unbroken within
      · contradiction
      · exact further within
    rw [Program.read_unbroken feed, Program.read_unbroken unbroken]
    simp only [readLines, bare.readLine_append_comment space begins]
  · intro rest program
    rw [Program.read_ofList, Program.read_ofList, readLines_append_semicolon bare unbroken,
      readLines_append_feed bare unbroken]

theorem titled_comments_cut :
    let line := "vars.a = \"\\\"#\"".toList
    let rest := "b = 'c;d'; // e".toList
    stripComment (line ++ " # note".toList) = line ++ [' '] ∧
      Program.read (String.ofList (line ++ " # note".toList)) = Program.read (String.ofList line) ∧
      ∀ program, Program.read (String.ofList (line ++ ';' :: rest)) = .ok program ↔
        Program.read (String.ofList (line ++ '\n' :: rest)) = .ok program := by
  intro line rest
  have scans : scan line = .ok [.name "vars", .dot, .name "a", .assign, .text "\"#"] := by rfl
  have bare : Bare line [.name "vars", .dot, .name "a", .assign, .text "\"#"] :=
    ⟨scans, by decide +kernel, by decide +kernel⟩
  have splits : Splits (line ++ " # note".toList) (line ++ [' ']) "# note".toList :=
    ⟨by decide, .inr (by decide +kernel), by decide +kernel⟩
  obtain ⟨-, -, -, joins⟩ := comments_cut line
  have joins := joins _ bare (by decide +kernel)
  obtain ⟨-, -, cuts, -⟩ := comments_cut (line ++ " # note".toList)
  exact ⟨cuts _ _ splits (by decide +kernel),
    joins.1 ' ' "# note".toList rfl (by decide) (by decide +kernel), joins.2 rest⟩

/-- Where a text ends in an escaped backslash, it seems to go on: the comment after it is not cut, and then
the scanner stumbles over it. -/
theorem escaped_backslash_hides_comment :
    let line := "vars.x = \"a\\\\\"".toList
    let note := "# note".toList
    let next := "vars.y = \"#\"".toList
    (scan line).isOk ∧ Free line [] ∧ (Program.read (String.ofList line)).isOk ∧
      Splits (line ++ ' ' :: note) (line ++ [' ']) note ∧
      stripComment (line ++ ' ' :: note) = line ++ ' ' :: note ∧
      Program.read (String.ofList (line ++ ' ' :: note)) = .error (1, .unexpectedCharacter '#') ∧
      (Program.read (String.ofList (line ++ '\n' :: next))).isOk ∧
      Program.read (String.ofList (line ++ ';' :: next)) = .error (1, .unterminatedText) := by
  refine ⟨by decide +kernel, by decide +kernel, by decide +kernel, ?_, by decide +kernel, by rfl,
    by decide +kernel, by rfl⟩
  exact ⟨by decide, .inr (by decide +kernel), by decide +kernel⟩

end Switchboard.Script
