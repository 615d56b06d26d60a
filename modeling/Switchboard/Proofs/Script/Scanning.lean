import Mathlib.Data.List.Induction
import Switchboard.Proofs.Success
import Switchboard.Script.Parser

/-! Scanning goes on. What the scanner has read of a line is a state of its own, so a line may be taken in
parts: a token ends where a blank or a semicolon stands, and from there on the scanner reads what
follows as if nothing had been before it. -/
namespace Switchboard.Script

inductive Place
  | outside
  | inside (quote : Char)
  /-- Inside a text, after a backslash that escapes what comes next. -/
  | escaped (quote : Char)
deriving DecidableEq

def Place.after : Place → Char → Place
  | .outside, c => if isQuote c then .inside c else .outside
  | .inside quote, c =>
    if c = quote then .outside else if c = '\\' then .escaped quote else .inside quote
  | .escaped quote, _ => .inside quote

def Place.quote? : Place → Option Char
  | .outside => none
  | .inside quote | .escaped quote => some quote

def placeAfter (front : List Char) : Place := front.foldl Place.after .outside

@[simp] theorem placeAfter_append (front : List Char) (c : Char) :
    placeAfter (front ++ [c]) = (placeAfter front).after c := by
  simp [placeAfter]

theorem isQuote_of_placeAfter {front : List Char} {quote : Char}
    (inside : (placeAfter front).quote? = some quote) : isQuote quote := by
  induction front using List.reverseRecOn with
  | nil => contradiction
  | append_singleton front c ih =>
    rw [placeAfter_append] at inside
    cases place : placeAfter front with
    | outside =>
      rw [place, Place.after] at inside
      split at inside
      · rename_i quoted
        cases inside
        exact quoted
      · contradiction
    | inside q =>
      rw [place] at ih
      rw [place, Place.after] at inside
      split at inside
      · contradiction
      · split at inside <;> exact ih inside
    | escaped q =>
      rw [place] at ih inside
      exact ih inside

def Mode.place : Mode → Place
  | .between | .number _ | .name _ => .outside
  | .text quote _ => .inside quote
  | .escape quote _ => .escaped quote

section Characters

variable {c : Char}

/-- Neither a name nor a number goes on with this character. -/
def Separates (c : Char) : Prop := isNameChar c = false ∧ isNumberChar c = false

theorem separates_semicolon : Separates ';' := ⟨by decide, by decide⟩

theorem separates_of_isSpace (space : isSpace c) : Separates c := by
  simp only [isSpace, Bool.or_eq_true, beq_iff_eq] at space
  obtain (rfl | rfl) | rfl := space <;> exact ⟨by decide, by decide⟩

theorem separates_of_isQuote (quote : isQuote c) : Separates c := by
  simp only [isQuote, Bool.or_eq_true, beq_iff_eq] at quote
  obtain rfl | rfl := quote <;> exact ⟨by decide, by decide⟩

theorem isQuote_of_isSpace (space : isSpace c) : isQuote c = false := by
  simp only [isSpace, Bool.or_eq_true, beq_iff_eq] at space
  obtain (rfl | rfl) | rfl := space <;> rfl

theorem after_outside (plain : ¬ isQuote c) : Place.after .outside c = .outside := if_neg plain

end Characters

namespace Scanning

variable {s t : Scanning} {tokens : List Token} {c : Char} {front rest : List Char}

def readAll (s : Scanning) (chars : List Char) : Except Misfit Scanning := chars.foldlM read s

theorem readAll_cons : s.readAll (c :: rest) = s.read c >>= (readAll · rest) := List.foldlM_cons

theorem readAll_append : s.readAll (front ++ rest) = s.readAll front >>= (readAll · rest) :=
  List.foldlM_append

/-! The scanner and the places agree on where texts begin and end. -/

theorem begin_place (run : begin tokens c = .ok t) : t.mode.place = Place.after .outside c := by
  unfold begin at run
  split at run
  · rename_i space
    cases run
    simp [Mode.place, after_outside, isQuote_of_isSpace space]
  · split at run
    · rename_i quote
      cases run
      exact (if_pos quote).symm
    · rename_i plain
      rw [after_outside plain]
      repeat' split at run
      all_goals cases run <;> rfl

theorem read_place (run : s.read c = .ok t) : t.mode.place = s.mode.place.after c := by
  obtain ⟨tokens, mode⟩ := s
  cases mode with
  | between => exact begin_place run
  | text quote reversed =>
    simp only [read, beq_iff_eq] at run
    simp only [Mode.place, Place.after]
    split at run
    · rename_i closes
      cases run
      exact (if_pos closes).symm
    · rename_i goesOn
      rw [if_neg goesOn]
      split at run
      · rename_i escapes
        cases run
        exact (if_pos escapes).symm
      · rename_i plain
        cases run
        exact (if_neg plain).symm
  | escape quote reversed =>
    cases run
    rfl
  | number reversed =>
    simp only [read] at run
    split at run
    · rename_i digit
      cases run
      exact (after_outside fun quote => by simp [(separates_of_isQuote quote).2] at digit).symm
    · split at run
      · exact begin_place run
      · contradiction
  | name reversed =>
    simp only [read] at run
    split at run
    · rename_i letter
      cases run
      exact (after_outside fun quote => by simp [(separates_of_isQuote quote).1] at letter).symm
    · exact begin_place run

theorem readAll_place (run : s.readAll front = .ok t) :
    t.mode.place = front.foldl Place.after s.mode.place := by
  induction front generalizing s with
  | nil =>
    cases run
    rfl
  | cons c rest ih =>
    rw [readAll_cons] at run
    obtain ⟨u, first, further⟩ := Except.bind_eq_ok_iff.1 run
    rw [ih further, read_place first]
    rfl

/-! What was read before is of no account to what comes after. -/

def onto (older : List Token) (s : Scanning) : Scanning := ⟨s.tokens ++ older, s.mode⟩

theorem begin_onto (tokens older : List Token) :
    begin (tokens ++ older) c = (begin tokens c).map (onto older) := by
  unfold begin
  repeat' split
  all_goals rfl

theorem read_onto (older : List Token) : (s.onto older).read c = (s.read c).map (onto older) := by
  obtain ⟨tokens, mode⟩ := s
  cases mode with
  | between => exact begin_onto _ older
  | text quote reversed =>
    simp only [onto, read]
    repeat' split
    all_goals rfl
  | escape quote reversed => rfl
  | number reversed =>
    simp only [onto, read]
    split
    · rfl
    · split
      · exact begin_onto (_ :: tokens) older
      · rfl
  | name reversed =>
    simp only [onto, read]
    split
    · rfl
    · exact begin_onto (nameToken reversed :: tokens) older

theorem finish_onto (older : List Token) :
    (s.onto older).finish = s.finish.map (older.reverse ++ ·) := by
  obtain ⟨tokens, mode⟩ := s
  cases mode with
  | number reversed =>
    simp only [onto, finish]
    split <;> simp [Except.map]
  | _ => simp [onto, finish, Except.map]

end Scanning

variable {s t : Scanning} {tokens : List Token} {c : Char} {front rest : List Char}

theorem scanFrom_eq : scanFrom s rest = s.readAll rest >>= Scanning.finish := by
  induction rest generalizing s with
  | nil => rfl
  | cons c rest ih =>
    rw [scanFrom, Scanning.readAll_cons]
    cases s.read c with
    | ok t => exact ih
    | error misfit => rfl

theorem scanFrom_onto (older : List Token) :
    scanFrom (s.onto older) rest = (scanFrom s rest).map (older.reverse ++ ·) := by
  induction rest generalizing s with
  | nil => exact Scanning.finish_onto older
  | cons c rest ih =>
    rw [scanFrom, scanFrom, Scanning.read_onto]
    cases s.read c with
    | ok t => exact ih
    | error misfit => rfl

theorem read_of_finish (ends : s.finish = .ok tokens) (separates : Separates c) :
    s.read c = Scanning.begin tokens.reverse c := by
  obtain ⟨older, mode⟩ := s
  cases mode with
  | between =>
    cases ends
    simp [Scanning.read]
  | text | escape => contradiction
  | number reversed =>
    simp only [Scanning.finish] at ends
    split at ends <;> cases ends
    simp [Scanning.read, separates.2, *]
  | name reversed =>
    cases ends
    simp [Scanning.read, separates.1]

theorem place_of_scan (run : scan front = .ok tokens) : placeAfter front = .outside := by
  rw [scan, scanFrom_eq] at run
  obtain ⟨s, reads, ends⟩ := Except.bind_eq_ok_iff.1 run
  have place : s.mode.place = placeAfter front := Scanning.readAll_place reads
  rw [← place]
  cases mode : s.mode with
  | between | number | name => rfl
  | text | escape =>
    rw [Scanning.finish, mode] at ends
    contradiction

theorem scan_append (run : scan front = .ok tokens) (separates : Separates c) :
    scan (front ++ c :: rest) =
      Scanning.begin tokens.reverse c >>= fun s => scanFrom s rest := by
  rw [scan, scanFrom_eq] at run
  obtain ⟨s, reads, ends⟩ := Except.bind_eq_ok_iff.1 run
  rw [scan, scanFrom_eq, Scanning.readAll_append, reads, Except.ok_bind, Scanning.readAll_cons,
    read_of_finish ends separates]
  simp only [scanFrom_eq]
  cases Scanning.begin tokens.reverse c <;> rfl

/-- A character that separates, and stands for these tokens alone, leaves nothing to go on with. -/
theorem scan_append_alone {more : List Token} (run : scan front = .ok tokens) (separates : Separates c)
    (begins : Scanning.begin [] c = .ok ⟨more, .between⟩) :
    scan (front ++ c :: rest) = (scan rest).map (tokens ++ more.reverse ++ ·) := by
  have behind : Scanning.begin tokens.reverse c = .ok (Scanning.start.onto (more ++ tokens.reverse)) := by
    rw [← List.nil_append tokens.reverse, Scanning.begin_onto, begins]
    rfl
  rw [scan_append run separates, behind, Except.ok_bind, scanFrom_onto, scan]
  simp

theorem scan_append_gap (run : scan front = .ok tokens) (space : isSpace c) :
    scan (front ++ c :: rest) = (scan rest).map (tokens ++ ·) := by
  rw [scan_append_alone run (separates_of_isSpace space) (if_pos space), List.reverse_nil, List.append_nil]

theorem scan_append_space (run : scan front = .ok tokens) (space : isSpace c) :
    scan (front ++ [c]) = .ok tokens := by
  rw [scan_append_gap run space]
  simp [scan, scanFrom, Scanning.start, Scanning.finish, Except.map]

theorem outside_of_append_space (space : isSpace c)
    (outside : placeAfter (front ++ [c]) = .outside) : placeAfter front = .outside := by
  rw [placeAfter_append] at outside
  cases place : placeAfter front with
  | outside => rfl
  | inside quote =>
    have quoted : isQuote quote := isQuote_of_placeAfter (congrArg Place.quote? place)
    rw [place, Place.after] at outside
    split at outside
    · rename_i same
      rw [← same, isQuote_of_isSpace space] at quoted
      contradiction
    · split at outside <;> contradiction
  | escaped quote =>
    rw [place] at outside
    contradiction

theorem finish_of_read_space (space : isSpace c) (outside : s.mode.place = .outside)
    (run : s.read c = .ok t) : ∃ tokens, s.finish = .ok tokens := by
  obtain ⟨older, mode⟩ := s
  cases mode with
  | between | name => exact ⟨_, rfl⟩
  | text | escape => contradiction
  | number reversed =>
    simp only [Scanning.read, (separates_of_isSpace space).2, Bool.false_eq_true, if_false] at run
    simp only [Scanning.finish]
    cases number : Scanning.numberToken reversed with
    | ok token => exact ⟨_, rfl⟩
    | error misfit =>
      rw [number] at run
      contradiction

theorem scan_of_append_space (run : scan (front ++ [c]) = .ok tokens) (space : isSpace c) :
    scan front = .ok tokens := by
  have outside := outside_of_append_space space (place_of_scan run)
  have reads := run
  rw [scan, scanFrom_eq, Scanning.readAll_append] at reads
  obtain ⟨t, reads, -⟩ := Except.bind_eq_ok_iff.1 reads
  obtain ⟨s, reads, last⟩ := Except.bind_eq_ok_iff.1 reads
  obtain ⟨t, last, -⟩ := Except.bind_eq_ok_iff.1 (Scanning.readAll_cons ▸ last)
  obtain ⟨earlier, ends⟩ :=
    finish_of_read_space space ((Scanning.readAll_place reads).trans outside) last
  have before : scan front = .ok earlier := by rw [scan, scanFrom_eq, reads, Except.ok_bind, ends]
  rw [scan_append_space before space] at run
  exact before.trans run

theorem scan_append_semicolon (run : scan front = .ok tokens) :
    scan (front ++ ';' :: rest) = (scan rest).map (tokens ++ .semicolon :: ·) := by
  have alone : Scanning.begin [] ';' = .ok ⟨[.semicolon], .between⟩ := rfl
  rw [scan_append_alone run separates_semicolon alone]
  simp

end Switchboard.Script
