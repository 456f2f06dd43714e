import PenaltySettlement.Number.Digits

/-!
# Calendar dates

Dates of the Gregorian calendar, extended without end to the past; year zero and the negative years
come before year one. The years reach from `-262143` to `262142`.

## Main definitions

* `Date` — the dates.
* `Date.ofParts?` — the date with a given year, month and day.
* `Date.next?`, `Date.previous?` — the neighbouring days.
* `Date.chars` — a date as text.
-/

set_option autoImplicit false

namespace PenaltySettlement

namespace Date

/-- The first year. -/
def firstYear : Int := -262143

/-- The last year. -/
def lastYear : Int := 262142

/-- Whether a year has a twenty-ninth of February. -/
def isLeap (year : Int) : Bool := year % 4 == 0 && (year % 100 != 0 || year % 400 == 0)

/-- The number of days of a month. -/
def daysIn (year : Int) (month : Nat) : Nat :=
  match month with
  | 1 | 3 | 5 | 7 | 8 | 10 | 12 => 31
  | 4 | 6 | 9 | 11 => 30
  | 2 => if isLeap year then 29 else 28
  | _ => 0

/-- Whether there is a date with the given parts. -/
def Exists (year : Int) (month day : Nat) : Prop :=
  (firstYear ≤ year ∧ year ≤ lastYear) ∧ (1 ≤ day ∧ day ≤ daysIn year month)

instance (year : Int) (month day : Nat) : Decidable (Exists year month day) :=
  inferInstanceAs (Decidable (_ ∧ _))

end Date

/-- A calendar date. -/
structure Date where
  year : Int
  month : Nat
  day : Nat
  exists_parts : Date.Exists year month day
  deriving DecidableEq, Repr

namespace Date

/-- The date with the given parts, if there is one. -/
def ofParts? (year : Int) (month day : Nat) : Option Date :=
  if h : Exists year month day then some ⟨year, month, day, h⟩ else none

instance : Inhabited Date := ⟨1970, 1, 1, by decide⟩

/-- The day after, unless it is the last one. -/
def next? (d : Date) : Option Date :=
  (ofParts? d.year d.month (d.day + 1)).or <|
    (ofParts? d.year (d.month + 1) 1).or (ofParts? (d.year + 1) 1 1)

/-- The day before, unless it is the first one. -/
def previous? (d : Date) : Option Date :=
  (ofParts? d.year d.month (d.day - 1)).or <|
    (ofParts? d.year (d.month - 1) (daysIn d.year (d.month - 1))).or (ofParts? (d.year - 1) 12 31)

/-! ## Text -/

/-- A natural with zeros in front up to a width. -/
def paddedChars (width n : Nat) : List Char :=
  (Digits.padded width (Digits.ofNat n)).map Digit.char

/-- A year as text: four digits, with a sign and as many as needed where four do not do. -/
def yearChars (year : Int) : List Char :=
  if 0 ≤ year ∧ year ≤ 9999 then paddedChars 4 year.natAbs
  else (if year < 0 then '-' else '+') :: paddedChars 4 year.natAbs

/-- The characters of a date: year, month and day with hyphens between them. -/
def chars (d : Date) : List Char :=
  yearChars d.year ++ '-' :: paddedChars 2 d.month ++ '-' :: paddedChars 2 d.day

/-- A date as text. -/
def text (d : Date) : String := String.ofList d.chars

end Date

end PenaltySettlement
