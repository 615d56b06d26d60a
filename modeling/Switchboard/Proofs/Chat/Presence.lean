import Mathlib.Data.List.Basic
import Switchboard.Chat.Directory
import Switchboard.Proofs.Dict

/-! Presence as a question about the past. The table forgets operators at every heartbeat, but only those
who would not have counted as online any more; who is online is what it would be if nobody were forgotten. -/
namespace Switchboard.Presence

inductive Move
  | touch (operator : String)
  | heartbeat (operator : String)
  | sweep
  | wait (time : Nat)
deriving DecidableEq

structure Watch where
  presence : Presence
  now : Nat

namespace Watch

def perform (w : Watch) : Move → Watch
  | .touch operator => { w with presence := w.presence.touch operator w.now }
  | .heartbeat operator => { w with presence := w.presence.heartbeat operator w.now }
  | .sweep => { w with presence := (w.presence.sweep w.now).2 }
  | .wait time => { w with now := w.now + time }

def isOnline (w : Watch) (operator : String) : Bool := w.presence.isOnline operator w.now

def isEligible (w : Watch) (operators : List Operator) (requireOnline : Bool) (queue : String) : Bool :=
  (⟨operators, w.presence, requireOnline⟩ : Directory).isEligible queue w.now

/-- The table after a history, whose latest move comes first. Nobody has been seen before it. -/
def after (window start : Nat) : List Move → Watch
  | [] => ⟨.new window, start⟩
  | move :: earlier => (after window start earlier).perform move

end Watch

/-- The time since an operator was seen last, be it by a touch or by a heartbeat. -/
def sinceSeen (operator : String) : List Move → Option Nat
  | [] => none
  | .touch other :: earlier | .heartbeat other :: earlier =>
    if other = operator then some 0 else sinceSeen operator earlier
  | .sweep :: earlier => sinceSeen operator earlier
  | .wait time :: earlier => (sinceSeen operator earlier).map (· + time)

/-- Seen so recently that the window has not passed. -/
def IsOnline (window : Nat) (operator : String) (history : List Move) : Prop :=
  ∃ ago, sinceSeen operator history = some ago ∧ ago < window

/-- Seen, but not within the window. -/
def HasLeft (window : Nat) (operator : String) (history : List Move) : Prop :=
  ∃ ago, sinceSeen operator history = some ago ∧ window ≤ ago

/-- An operator who had left has been swept since they were seen last. Every heartbeat sweeps, also the
operator's own where the window is nothing. -/
def IsSwept (window : Nat) (operator : String) : List Move → Prop
  | [] => False
  | .touch other :: earlier => other ≠ operator ∧ IsSwept window operator earlier
  | .heartbeat other :: earlier =>
    if other = operator then window = 0
    else IsSwept window operator earlier ∨ HasLeft window operator earlier
  | .sweep :: earlier => IsSwept window operator earlier ∨ HasLeft window operator earlier
  | .wait _ :: earlier => IsSwept window operator earlier

def unswept (history : List Move) : List Move := history.filter (· != .sweep)

variable {p : Presence} {window start now seen ago : Nat} {operator : String} {history other : List Move}

theorem isFresh_iff : p.isFresh now seen = true ↔ now - seen < p.window := decide_eq_true_iff

theorem get?_sweep : (p.sweep now).2.lastSeen.get? operator = some seen ↔
    p.lastSeen.get? operator = some seen ∧ now - seen < p.window := by
  unfold sweep
  rw [Dict.get?_filter, Option.filter_eq_some_iff, isFresh_iff]

theorem isOnline_iff : p.isOnline operator now = true ↔
    ∃ seen, p.lastSeen.get? operator = some seen ∧ now - seen < p.window := by
  simp only [isOnline, Option.any_eq_true, isFresh_iff]

theorem sweep_counts (p : Presence) (now : Nat) : ∃ left : List String, left.Nodup ∧
    (∀ operator, operator ∈ left ↔ ∃ seen, p.lastSeen.get? operator = some seen ∧ p.window ≤ now - seen) ∧
    (p.sweep now).1 = left.length := by
  refine ⟨(p.lastSeen.entries.filter fun entry => !p.isFresh now entry.2).map Prod.fst,
    p.lastSeen.distinct.sublist (List.filter_sublist.map _), fun operator => ?_, ?_⟩
  · simp only [List.mem_map, List.mem_filter, Dict.get?_eq_some_iff, Bool.not_eq_true', isFresh,
      decide_eq_false_iff_not, Nat.not_lt]
    constructor
    · rintro ⟨⟨name, seen⟩, ⟨known, stale⟩, rfl⟩
      exact ⟨seen, known, stale⟩
    · rintro ⟨seen, known, stale⟩
      exact ⟨_, ⟨known, stale⟩, rfl⟩
  · have both := List.length_eq_length_filter_add (l := p.lastSeen.entries) fun entry => p.isFresh now entry.2
    rw [List.length_map]
    exact Nat.sub_eq_of_eq_add (both.trans (Nat.add_comm ..))

theorem HasLeft.iff_of_seen (last : sinceSeen operator history = some ago) :
    HasLeft window operator history ↔ window ≤ ago := by
  simp [HasLeft, last]

theorem IsSwept.hasLeft (swept : IsSwept window operator history) : HasLeft window operator history := by
  induction history with
  | nil => exact swept.elim
  | cons move earlier ih =>
    cases move with
    | touch seen =>
      obtain ⟨ago, last, left⟩ := ih swept.2
      exact ⟨ago, (if_neg swept.1).trans last, left⟩
    | heartbeat seen =>
      unfold IsSwept at swept
      split at swept
      · rename_i self
        exact ⟨0, if_pos self, Nat.le_of_eq swept⟩
      · rename_i differs
        obtain ⟨ago, last, left⟩ := swept.elim ih id
        exact ⟨ago, (if_neg differs).trans last, left⟩
    | sweep => exact swept.elim ih id
    | wait time =>
      obtain ⟨ago, last, left⟩ := ih swept
      exact ⟨ago + time, congrArg (Option.map (· + time)) last, Nat.le_add_right_of_le left⟩

theorem sinceSeen_heartbeat (seen : String) :
    sinceSeen operator (.heartbeat seen :: history) = sinceSeen operator (.sweep :: .touch seen :: history) := rfl

theorem isSwept_heartbeat (seen : String) : IsSwept window operator (.heartbeat seen :: history) ↔
    IsSwept window operator (.sweep :: .touch seen :: history) := by
  by_cases self : seen = operator
  · subst self
    have recent : sinceSeen seen (.touch seen :: history) = some 0 := if_pos rfl
    simp only [IsSwept, HasLeft.iff_of_seen recent, if_true, ne_eq, not_true, false_and, false_or, Nat.le_zero]
  · have before : HasLeft window operator (.touch seen :: history) ↔ HasLeft window operator history := by
      simp only [HasLeft, sinceSeen, if_neg self]
    simp only [IsSwept, before, self, if_false, ne_eq, not_false_eq_true, true_and]

namespace Watch

def Remembers (window : Nat) (w : Watch) (history : List Move) : Prop :=
  ∀ operator seen, w.presence.lastSeen.get? operator = some seen ↔
    ¬ IsSwept window operator history ∧ ∃ ago, sinceSeen operator history = some ago ∧ seen + ago = w.now

variable {w : Watch}

theorem Remembers.touch (remembers : Remembers window w history) (operator : String) :
    Remembers window (w.perform (.touch operator)) (.touch operator :: history) := by
  intro other seen
  change (w.presence.lastSeen.set operator w.now).get? other = some seen ↔ _ ∧ ∃ ago, _ ∧ seen + ago = w.now
  rw [Dict.get?_set]
  by_cases self : other = operator
  · subst self
    simp [IsSwept, sinceSeen, eq_comm]
  · simp only [IsSwept, sinceSeen, if_neg self, ne_eq, Ne.symm self, not_false_eq_true, true_and]
    exact remembers other seen

theorem Remembers.sweep (remembers : Remembers window w history) (same : w.presence.window = window) :
    Remembers window (w.perform .sweep) (.sweep :: history) := by
  intro operator seen
  change (w.presence.sweep w.now).2.lastSeen.get? operator = some seen ↔
    ¬ (IsSwept window operator history ∨ HasLeft window operator history) ∧
      ∃ ago, sinceSeen operator history = some ago ∧ seen + ago = w.now
  rw [get?_sweep, remembers operator seen, same, not_or]
  constructor
  · rintro ⟨⟨kept, ago, last, adds⟩, fresh⟩
    refine ⟨⟨kept, ?_⟩, ago, last, adds⟩
    rw [HasLeft.iff_of_seen last]
    omega
  · rintro ⟨⟨kept, stays⟩, ago, last, adds⟩
    rw [HasLeft.iff_of_seen last] at stays
    exact ⟨⟨kept, ago, last, adds⟩, by omega⟩

theorem Remembers.heartbeat (remembers : Remembers window w history) (same : w.presence.window = window)
    (operator : String) : Remembers window (w.perform (.heartbeat operator)) (.heartbeat operator :: history) := by
  intro other seen
  rw [isSwept_heartbeat, sinceSeen_heartbeat]
  exact (remembers.touch operator).sweep same other seen

theorem Remembers.wait (remembers : Remembers window w history) (time : Nat) :
    Remembers window (w.perform (.wait time)) (.wait time :: history) := by
  intro operator seen
  refine (remembers operator seen).trans (and_congr_right fun _ => ?_)
  simp only [sinceSeen, Option.map_eq_some_iff, perform]
  constructor
  · rintro ⟨ago, last, adds⟩
    exact ⟨ago + time, ⟨ago, last, rfl⟩, by omega⟩
  · rintro ⟨_, ⟨ago, last, rfl⟩, adds⟩
    exact ⟨ago, last, by omega⟩

theorem window_after (history : List Move) : (after window start history).presence.window = window := by
  induction history with
  | nil => rfl
  | cons move earlier ih => cases move <;> exact ih

theorem remembers_after (window start : Nat) (history : List Move) :
    Remembers window (after window start history) history := by
  induction history with
  | nil => simp [Remembers, after, Presence.new, sinceSeen, Dict.get?, Dict.find, EmptyCollection.emptyCollection, Dict.empty]
  | cons move earlier ih =>
    cases move with
    | touch operator => exact ih.touch operator
    | heartbeat operator => exact ih.heartbeat (window_after earlier) operator
    | sweep => exact ih.sweep (window_after earlier)
    | wait time => exact ih.wait time

theorem sinceSeen_le (last : sinceSeen operator history = some ago) : ago ≤ (after window start history).now := by
  induction history generalizing ago with
  | nil => contradiction
  | cons move earlier ih =>
    cases move with
    | touch seen | heartbeat seen =>
      unfold sinceSeen at last
      split at last
      · cases last
        exact Nat.zero_le _
      · exact ih last
    | sweep => exact ih last
    | wait time =>
      obtain ⟨before, seen, rfl⟩ := Option.map_eq_some_iff.1 last
      exact Nat.add_le_add_right (ih seen) time

/-- Nobody is forgotten who would count as online. -/
theorem isOnline_after (window start : Nat) (operator : String) (history : List Move) :
    (after window start history).isOnline operator = true ↔ IsOnline window operator history := by
  rw [isOnline, isOnline_iff, window_after]
  constructor
  · rintro ⟨seen, known, fresh⟩
    obtain ⟨-, ago, last, adds⟩ := (remembers_after window start history operator seen).1 known
    exact ⟨ago, last, by omega⟩
  · -- Whoever was swept had left, so somebody this recent is still in the table.
    rintro ⟨ago, last, recent⟩
    have past : ago ≤ (after window start history).now := sinceSeen_le last
    have kept : ¬ IsSwept window operator history := fun swept =>
      absurd ((HasLeft.iff_of_seen last).1 swept.hasLeft) (Nat.not_le_of_lt recent)
    exact ⟨_, (remembers_after window start history operator _).2 ⟨kept, ago, last, Nat.sub_add_cancel past⟩, by omega⟩

theorem sweep_after (window start : Nat) (history : List Move) : ∃ left : List String, left.Nodup ∧
    (∀ operator, operator ∈ left ↔ HasLeft window operator history ∧ ¬ IsSwept window operator history) ∧
    ((after window start history).presence.sweep (after window start history).now).1 = left.length := by
  obtain ⟨left, distinct, members, counts⟩ :=
    sweep_counts (after window start history).presence (after window start history).now
  refine ⟨left, distinct, fun operator => (members operator).trans ?_, counts⟩
  rw [window_after]
  constructor
  · rintro ⟨seen, known, stale⟩
    obtain ⟨kept, ago, last, adds⟩ := (remembers_after window start history operator seen).1 known
    exact ⟨⟨ago, last, by omega⟩, kept⟩
  · rintro ⟨⟨ago, last, gone⟩, kept⟩
    have past : ago ≤ (after window start history).now := sinceSeen_le last
    exact ⟨_, (remembers_after window start history operator _).2 ⟨kept, ago, last, Nat.sub_add_cancel past⟩, by omega⟩

end Watch

theorem sinceSeen_unswept (operator : String) (history : List Move) :
    sinceSeen operator (unswept history) = sinceSeen operator history := by
  induction history with
  | nil => rfl
  | cons move earlier ih =>
    unfold unswept at *
    cases move with
    | sweep => exact ih
    | touch seen | heartbeat seen | wait time => rw [List.filter_cons_of_pos rfl, sinceSeen, ih, sinceSeen]

theorem isOnline_of_unswept (same : unswept other = unswept history) :
    IsOnline window operator other ↔ IsOnline window operator history := by
  unfold IsOnline
  rw [← sinceSeen_unswept operator other, same, sinceSeen_unswept]

theorem Watch.isEligible_iff {w : Watch} {operators : List Operator} {requireOnline : Bool} {queue : String} :
    w.isEligible operators requireOnline queue = true ↔ ∃ operator ∈ operators, operator.role = .agent ∧
      (∃ name ∈ operator.queues, Text.sameIgnoringCase name queue = true) ∧
      (requireOnline = true → w.isOnline operator.id = true) := by
  unfold isEligible Directory.isEligible Directory.isOnline Operator.serves isOnline
  simp only [List.any_eq_true, Bool.and_eq_true, Bool.or_eq_true, beq_iff_eq, Bool.not_eq_true', and_assoc]
  cases requireOnline <;> simp

/-- What a table of presence, and a directory that goes by it, have to say after a history. -/
structure Watch.Answers (window start : Nat) (history : List Move) (w : Watch) : Prop where
  online : ∀ operator, w.isOnline operator = true ↔ IsOnline window operator history
  sweep : ∃ left : List String, left.Nodup ∧
    (∀ operator, operator ∈ left ↔ HasLeft window operator history ∧ ¬ IsSwept window operator history) ∧
    (w.presence.sweep w.now).1 = left.length
  eligible : ∀ operators requireOnline queue, w.isEligible operators requireOnline queue = true ↔
    ∃ operator ∈ operators, operator.role = .agent ∧
      (∃ name ∈ operator.queues, Text.sameIgnoringCase name queue = true) ∧
      (requireOnline = true → IsOnline window operator.id history)
  /-- Histories that differ in sweeps only make no difference. -/
  unswept : ∀ other, unswept other = unswept history →
    (∀ operator, (after window start other).isOnline operator = w.isOnline operator) ∧
    ∀ operators requireOnline queue, (after window start other).isEligible operators requireOnline queue =
      w.isEligible operators requireOnline queue

theorem presence_of_history (window start : Nat) (history : List Move) :
    (Watch.after window start history).Answers window start history where
  online operator := Watch.isOnline_after window start operator history
  sweep := Watch.sweep_after window start history
  eligible operators requireOnline queue := by
    simp only [Watch.isEligible_iff, Watch.isOnline_after]
  unswept other same := by
    refine ⟨fun operator => Bool.eq_iff_iff.2 ?_, fun operators requireOnline queue => Bool.eq_iff_iff.2 ?_⟩
    · rw [Watch.isOnline_after, Watch.isOnline_after, isOnline_of_unswept same]
    · simp only [Watch.isEligible_iff, Watch.isOnline_after, isOnline_of_unswept same]

end Switchboard.Presence
