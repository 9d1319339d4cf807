import LineScript.Number.Binary64

/-!
The clock and the calendar, both in universal time, and what else a running program meets when it
looks outside.
-/

namespace LineScript

/-- What a clock and a calendar show, and the time since the start of the run. -/
structure Clock where
  elapsed : Number.Binary64
  year : Int
  month : Nat
  day : Nat
  hour : Nat
  minute : Nat
  second : Nat
  weekday : Nat
deriving DecidableEq, Repr

namespace Clock

/-- The year, the month and the day that lie so many days after the first of January 1970. The
days are counted within periods of 400 years that begin in March, so that a leap day comes last. -/
def dateOf (days : Int) : Int × Nat × Nat :=
  let shifted := days + 719468
  let period := shifted / 146097
  let day := (shifted % 146097).toNat
  let year := (day - day / 1460 + day / 36524 - day / 146096) / 365
  let dayOfYear := day - (365 * year + year / 4 - year / 100)
  let month := (5 * dayOfYear + 2) / 153
  let dayOfMonth := dayOfYear - (153 * month + 2) / 5 + 1
  let civil := if month < 10 then month + 3 else month - 9
  (year + period * 400 + (if civil ≤ 2 then 1 else 0), civil, dayOfMonth)

/-- The clock so many seconds after the beginning of 1970, in a run that has taken so many
milliseconds. -/
def ofSeconds (seconds : Int) (elapsed : Nat) : Clock :=
  let days := seconds / 86400
  let rest := (seconds % 86400).toNat
  let (year, month, day) := dateOf days
  { elapsed := .ofRatio false elapsed 1000
    year, month, day
    hour := rest / 3600
    minute := rest % 3600 / 60
    second := rest % 60
    weekday := ((days + 4) % 7).toNat }

end Clock

/-- What there is to see outside at one moment: the clock, the size of the terminal, and a number
for anything else that code of an extension goes by. -/
structure Moment where
  clock : Clock
  columns : Nat
  rows : Nat
  chance : Nat
deriving DecidableEq, Repr

/-- The moments at which a run looks outside, in their order; nothing is known about them. -/
def Moments : Type := Nat → Moment

namespace Moments

def still (moment : Moment) : Moments := fun _ => moment

def now (moments : Moments) : Moment := moments 0

def after (moments : Moments) (count : Nat) : Moments := fun index => moments (index + count)

/-- A clock that stands still, beside a terminal of the usual size. -/
instance : Coe Clock Moments := ⟨fun clock => still ⟨clock, 80, 24, 0⟩⟩

end Moments

end LineScript
