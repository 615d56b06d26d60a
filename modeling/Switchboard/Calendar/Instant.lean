import Switchboard.Calendar.Date

/-! Points in time as seconds and nanoseconds since 1970 in universal time. Inside a leap second
the nanoseconds pass one thousand million while the seconds stand still. -/
namespace Switchboard

structure Instant where
  seconds : Int
  nanos : Nat
deriving DecidableEq, Repr, Inhabited

namespace Instant

def nanosPerSecond : Nat := 1000000000

def secondsPerDay : Nat := 86400

def notAfter (a b : Instant) : Prop :=
  a.seconds < b.seconds ∨ (a.seconds = b.seconds ∧ a.nanos ≤ b.nanos)

instance (a b : Instant) : Decidable (notAfter a b) := by unfold notAfter; infer_instance

/-- Moving away from a leap second leaves it behind. -/
def addSeconds (t : Instant) (seconds : Int) : Instant :=
  if t.nanos < nanosPerSecond || seconds == 0 then { t with seconds := t.seconds + seconds }
  else
    { seconds := t.seconds + seconds + (if seconds < 0 then 1 else 0)
      nanos := t.nanos - nanosPerSecond }

def addHours (t : Instant) (hours : Int) : Instant := t.addSeconds (3600 * hours)

def days (t : Instant) : Int := t.seconds / secondsPerDay

def secondOfDay (t : Instant) : Nat := (t.seconds % secondsPerDay).toNat

def date (t : Instant) : Date := .ofDays t.days

def weekday (t : Instant) : Weekday := Date.weekdayOfDays t.days

def hour (t : Instant) : Nat := t.secondOfDay / 3600

def minute (t : Instant) : Nat := t.secondOfDay / 60 % 60

def second (t : Instant) : Nat := t.secondOfDay % 60

def minuteOfDay (t : Instant) : Nat := t.secondOfDay / 60

theorem secondOfDay_lt (t : Instant) : t.secondOfDay < secondsPerDay := by
  unfold secondOfDay secondsPerDay; omega

theorem minuteOfDay_lt (t : Instant) : t.minuteOfDay < 1440 := by
  have := t.secondOfDay_lt
  unfold secondsPerDay at this
  unfold minuteOfDay
  omega

theorem notAfter_refl (t : Instant) : t.notAfter t := .inr ⟨rfl, Nat.le_refl _⟩

theorem notAfter_trans {a b c : Instant} (hab : a.notAfter b) (hbc : b.notAfter c) :
    a.notAfter c := by
  unfold notAfter at *
  omega

end Instant
end Switchboard
