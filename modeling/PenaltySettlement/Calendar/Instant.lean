import PenaltySettlement.Calendar.Date

/-!
# Instants

An instant is a date and a time of day in universal time, to the nanosecond. The last second of a
minute may be a leap second: it is the fifty-ninth with a thousand million nanoseconds or more.

## Main definitions

* `Instant` — the instants.
* `Instant.chars` — an instant as text.
* `Instant.toMillis` — an instant without what is finer than milliseconds.
-/

set_option autoImplicit false

namespace PenaltySettlement

/-- A point in time. `minute` counts from midnight. -/
structure Instant where
  date : Date
  minute : Nat
  second : Nat
  nano : Nat
  minute_lt : minute < 1440
  second_lt : second < 60
  nano_lt : nano < (if second = 59 then 2000000000 else 1000000000)
  deriving DecidableEq, Repr

namespace Instant

/-- The instant with the given parts, where they are in range. -/
def ofParts? (date : Date) (minute second nano : Nat) : Option Instant :=
  if h : minute < 1440 ∧ second < 60 ∧
      nano < (if second = 59 then 2000000000 else 1000000000) then
    some ⟨date, minute, second, nano, h.1, h.2.1, h.2.2⟩
  else none

instance : Inhabited Instant := ⟨default, 0, 0, 0, by decide, by decide, by decide⟩

/-- The instant without what is finer than milliseconds. -/
def toMillis (t : Instant) : Instant :=
  { t with
    nano := t.nano / 1000000 * 1000000
    nano_lt := Nat.lt_of_le_of_lt (Nat.div_mul_le_self ..) t.nano_lt }

/-! ## Text -/

/-- A fraction of a second with three, six or nine digits, the fewest that are exact. -/
def fractionChars (nano : Nat) : List Char :=
  if nano = 0 then []
  else if nano % 1000000 = 0 then '.' :: Date.paddedChars 3 (nano / 1000000)
  else if nano % 1000 = 0 then '.' :: Date.paddedChars 6 (nano / 1000)
  else '.' :: Date.paddedChars 9 nano

/-- The characters of an instant: the date, the time of day and `Z`. A leap second is the sixtieth
of its minute. -/
def chars (t : Instant) : List Char :=
  let leap := 1000000000 ≤ t.nano
  let second := if leap then t.second + 1 else t.second
  let nano := if leap then t.nano - 1000000000 else t.nano
  t.date.chars ++ 'T' :: Date.paddedChars 2 (t.minute / 60) ++
    ':' :: Date.paddedChars 2 (t.minute % 60) ++ ':' :: Date.paddedChars 2 second ++
    fractionChars nano ++ ['Z']

/-- An instant as text. -/
def text (t : Instant) : String := String.ofList t.chars

end Instant

end PenaltySettlement
