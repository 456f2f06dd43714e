import PenaltySettlement.Number.Power

/-!
# Characters beyond ASCII in domain names

A label of a domain name with characters beyond ASCII is written in ASCII: its ASCII characters
first and behind them, as numbers of variable length, the places and code points of the others in
the order of their code points.

## Main definitions

* `Punycode.encode`, `Punycode.decode?` — the two directions.
-/

set_option autoImplicit false

namespace PenaltySettlement.Punycode

/-- The character of a digit under thirty-six. -/
def digitChar (n : Nat) : Char := if n < 26 then Char.ofNat (97 + n) else Char.ofNat (22 + n)

/-- The digit that a character of either case stands for. -/
def digitValue? (c : Char) : Option Nat :=
  if 'a' ≤ c ∧ c ≤ 'z' then some (c.toNat - 97)
  else if 'A' ≤ c ∧ c ≤ 'Z' then some (c.toNat - 65)
  else if '0' ≤ c ∧ c ≤ '9' then some (c.toNat - 22)
  else none

/-- The digits from which on a number is over at a place, between one and twenty-six. -/
def threshold (place bias : Nat) : Nat := max 1 (min 26 (place - bias))

/-- Divides until a number is small, counting thirty-six for each division. -/
def shrink (delta place : Nat) : Nat × Nat :=
  if 455 < delta then shrink (delta / 35) (place + 36) else (delta, place)
termination_by delta

/-- The bias after a number, `count` being the characters placed so far. -/
def adapt (delta count : Nat) (first : Bool) : Nat :=
  let delta := if first then delta / 700 else delta / 2
  let (delta, place) := shrink (delta + delta / count) 0
  place + 36 * delta / (delta + 38)

/-- A number of variable length. -/
def encodeNumber (bias place n : Nat) : List Char :=
  let least := threshold place bias
  if n < least then [digitChar n]
  else
    digitChar (least + (n - least) % (36 - least)) ::
      encodeNumber bias (place + 36) ((n - least) / (36 - least))
termination_by n
decreasing_by
  have : 1 ≤ threshold place bias := Nat.le_max_left ..
  exact Nat.lt_of_le_of_lt (Nat.div_le_self _ _) (by omega)

/-- What has been written: the digits, the distance from the last place, the bias and the number of
characters placed. -/
structure Writing where
  digits : List Char
  delta : Nat
  bias : Nat
  placed : Nat

/-- Passes one character of the label while those with a code point are placed. -/
def Writing.pass (basic point : Nat) (w : Writing) (c : Char) : Writing :=
  if c.toNat < point then { w with delta := w.delta + 1 }
  else if c.toNat = point then
    { digits := w.digits ++ encodeNumber w.bias 36 w.delta
      delta := 0
      bias := adapt w.delta (w.placed + 1) (w.placed == basic)
      placed := w.placed + 1 }
  else w

/-- Places the characters with the given code points, which increase from `least` on. -/
def Writing.placeAll (label : List Char) (basic : Nat) :
    (least : Nat) → List Nat → Writing → Writing
  | _, [], w => w
  | least, point :: points, w =>
    let ahead := { w with delta := w.delta + (point - least) * (w.placed + 1) }
    let passed := label.foldl (Writing.pass basic point) ahead
    placeAll label basic (point + 1) points { passed with delta := passed.delta + 1 }

/-- The label in ASCII. -/
def encode (label : List Char) : List Char :=
  let ascii := label.filter fun c => c.toNat < 128
  let points := ((label.filter fun c => 128 ≤ c.toNat).map Char.toNat).mergeSort.eraseDups
  let written := Writing.placeAll label ascii.length 128 points ⟨[], 0, 72, ascii.length⟩
  ascii ++ (if ascii.isEmpty then [] else ['-']) ++ written.digits

/-- A number of variable length at the start, added to `sum`, and the characters behind it. Neither
the sum nor the weight of a digit goes beyond thirty-two bits. -/
def decodeNumber (bias : Nat) :
    (place weight sum : Nat) → List Char → Option (Nat × List Char)
  | _, _, _, [] => none
  | place, weight, sum, c :: rest =>
    match digitValue? c with
    | none => none
    | some digit =>
      let sum := sum + digit * weight
      if twoPow 32 ≤ sum then none
      else
        let least := threshold place bias
        if digit < least then some (sum, rest)
        else if twoPow 32 ≤ weight * (36 - least) then none
        else decodeNumber bias (place + 36) (weight * (36 - least)) sum rest

/-- Places the characters that the digits stand for into the label; no more than `fuel` of them. -/
def place? : (fuel : Nat) → (label : List Char) → (point index bias : Nat) → List Char →
    Option (List Char)
  | _, label, _, _, _, [] => some label
  | 0, _, _, _, _, _ :: _ => none
  | fuel + 1, label, point, index, bias, digits =>
    match decodeNumber bias 36 1 index digits with
    | none => none
    | some (sum, rest) =>
      let count := label.length + 1
      let point := point + sum / count
      let index' := sum % count
      if h : point.isValidChar then
        let c : Char := Char.ofNatAux point h
        place? fuel (label.take index' ++ c :: label.drop index') point (index' + 1)
          (adapt (sum - index) count (index == 0)) rest
      else none

/-- The label that stands behind its ASCII form, if it is one. The last hyphen divides the ASCII
characters, of which there are some, from the digits. -/
def decode? (text : List Char) : Option (List Char) :=
  let digits := (text.reverse.takeWhile (· != '-')).reverse
  let ascii := (text.take (text.length - digits.length)).dropLast
  if ascii.isEmpty ∧ text.contains '-' then none
  else place? (digits.length + 1) ascii 128 0 72 digits

end PenaltySettlement.Punycode
