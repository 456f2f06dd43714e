import PenaltySettlement.Number.Power
import PenaltySettlement.Calendar.Instant
import PenaltySettlement.Text.Blank

/-!
# Reading dates and instants

Both are read leniently: white space may stand between the parts, months and days may have a single
digit, and a year with a sign may have any number of digits. An instant carries its distance from
universal time, and is converted.

## Main definitions

* `Calendar.Fault` — what is wrong with a date or an instant.
* `Date.parse`, `Instant.parse` — reading them.
-/

set_option autoImplicit false

namespace PenaltySettlement

namespace Calendar

/-- What is wrong with the text of a date or an instant. -/
inductive Fault where
  | invalid
  | outOfRange
  | tooShort
  | trailing
  | impossible
  deriving DecidableEq, Repr

/-- The wording of a fault. -/
def Fault.message : Fault → String
  | .invalid => "input contains invalid characters"
  | .outOfRange => "input is out of range"
  | .tooShort => "premature end of input"
  | .trailing => "trailing input"
  | .impossible => "no possible date and time matching input"

/-- Reads something at the start of a text and gives it with the text behind. -/
abbrev Scan (α : Type) := List Char → Except Fault (α × List Char)

/-- The number that up to `width` digits at the start stand for; at least one digit is there. -/
def number (width : Option Nat) : Scan Nat := fun text =>
  let found := (Digits.span text).1
  let taken := match width with
    | some width => found.take width
    | none => found
  if text.isEmpty then .error .tooShort
  else if taken.isEmpty then .error .invalid
  else if Digits.toNat taken < twoPow 63 then .ok (Digits.toNat taken, text.drop taken.length)
  else .error .outOfRange

/-- A number of up to two digits between two bounds, after white space. -/
def part (least greatest : Nat) : Scan Nat := fun text => do
  let (n, rest) ← number (some 2) (Text.trimStart text)
  if least ≤ n ∧ n ≤ greatest then return (n, rest) else throw .outOfRange

/-- A given character. -/
def literal (c : Char) : Scan Unit
  | [] => .error .tooShort
  | d :: rest => if c = d then .ok ((), rest) else .error .invalid

/-- A given character, after white space. -/
def separator (c : Char) : Scan Unit := fun text => literal c (Text.trimStart text)

/-- A year, after white space: up to four digits, or any number of digits behind a sign. -/
def year : Scan Int := fun text => do
  let (year, rest) ← match Text.trimStart text with
    | '-' :: digits => (number none digits).map fun (n, rest) => (-(n : Int), rest)
    | '+' :: digits => (number none digits).map fun (n, rest) => ((n : Int), rest)
    | digits => (number (some 4) digits).map fun (n, rest) => ((n : Int), rest)
  if -(twoPow 31 : Int) ≤ year ∧ year < twoPow 31 then return (year, rest) else throw .outOfRange

/-- Year, month and day. There need not be such a date. -/
def dateParts : Scan (Int × Nat × Nat) := fun text => do
  let (y, text) ← year text
  let ((), text) ← separator '-' text
  let (m, text) ← part 1 12 text
  let ((), text) ← separator '-' text
  let (d, text) ← part 1 31 text
  return ((y, m, d), text)

/-- Nanoseconds behind a point, if there is one. Digits beyond the ninth are passed over. -/
def fraction : Scan Nat
  | '.' :: text => do
    let (n, rest) ← number (some 9) text
    let count := text.length - rest.length
    return (n * tenPow (9 - count), rest.dropWhile fun c => (Digit.ofChar? c).isSome)
  | text => .ok (0, text)

/-- Hour, minute, second and nanoseconds; second sixty is allowed. -/
def timeParts : Scan (Nat × Nat × Nat × Nat) := fun text => do
  let (h, text) ← part 0 23 text
  let ((), text) ← separator ':' text
  let (m, text) ← part 0 59 text
  let ((), text) ← separator ':' text
  let (s, text) ← part 0 60 text
  let (n, text) ← fraction text
  return ((h, m, s, n), Text.trimStart text)

/-- The number of bytes of a text. -/
def byteCount (text : List Char) : Nat := text.foldl (fun n c => n + c.utf8Size) 0

/-- Two digits of an offset. -/
def twoDigits : Scan Nat := fun text =>
  if byteCount text < 2 then .error .tooShort
  else
    match text with
    | c :: d :: rest =>
      match Digit.ofChar? c, Digit.ofChar? d with
      | some c, some d => .ok (10 * c.val + d.val, rest)
      | _, _ => .error .invalid
    | _ => .error .invalid

/-- The minutes of an offset. -/
def offsetMinutes : Scan Nat := fun text => do
  let (m, rest) ← twoDigits text
  if m < 60 then return (m, rest) else throw .outOfRange

/-- The distance from universal time in minutes: `Z`, `UTC` or a sign, hours and minutes, with
colons or white space between them. -/
def offset : Scan Int := fun text =>
  let signed (negative : Bool) (text : List Char) : Except Fault (Int × List Char) := do
    let (h, text) ← twoDigits text
    let (m, text) ← offsetMinutes (text.dropWhile fun c => c == ':' || Text.isSpace c)
    let size : Int := 60 * h + m
    return (if negative then -size else size, text)
  match text with
  | [] => .error .tooShort
  | c :: rest =>
    if ((text.take 3).map Char.toUpper) = ['U', 'T', 'C'] then .ok (0, text.drop 3)
    else if c = 'Z' ∨ c = 'z' then .ok (0, rest)
    else if c = '+' then signed false rest
    else if c = '-' ∨ c = '\u2212' then signed true rest
    else .error .invalid

end Calendar

open Calendar (Fault)

/-- **Reading a date.** White space may follow it. -/
def Date.parse (text : String) : Except Fault Date := do
  let ((year, month, day), rest) ← Calendar.dateParts text.toList
  if (Text.trimStart rest).isEmpty then
    match Date.ofParts? year month day with
    | some date => return date
    | none => throw .outOfRange
  else throw .trailing

/-- The instant in universal time that a local date and minute with an offset stand for. -/
def Instant.ofLocal? (date : Date) (minute second nano : Nat) (offset : Int) : Option Instant :=
  let shifted := (minute : Int) - offset
  if shifted < 0 then
    date.previous?.bind fun date => ofParts? date (shifted + 1440).toNat second nano
  else if shifted < 1440 then ofParts? date shifted.toNat second nano
  else date.next?.bind fun date => ofParts? date (shifted - 1440).toNat second nano

/-- **Reading an instant.** A date, `T`, `t` or a space, a time of day and an offset, which may be
followed by white space. -/
def Instant.parse (text : String) : Except Fault Instant := do
  let ((year, month, day), rest) ← Calendar.dateParts text.toList
  let rest ← match rest with
    | [] => throw Fault.tooShort
    | c :: rest => if c = 'T' ∨ c = 't' ∨ c = ' ' then pure rest else throw Fault.invalid
  let ((hour, minute, second, nano), rest) ← Calendar.timeParts rest
  let (offset, rest) ← Calendar.offset rest
  if !(Text.trimStart rest).isEmpty then throw Fault.trailing
  match Date.ofParts? year month day with
  | none => throw .outOfRange
  | some date =>
    if offset ≤ -1440 ∨ 1440 ≤ offset then throw .outOfRange
    -- The sixtieth second is the fifty-ninth with another thousand million nanoseconds.
    let (second, nano) := if second = 60 then (59, nano + 1000000000) else (second, nano)
    match Instant.ofLocal? date (60 * hour + minute) second nano offset with
    | some instant => return instant
    | none => throw .impossible

end PenaltySettlement
