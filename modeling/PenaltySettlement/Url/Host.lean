import PenaltySettlement.Number.Power
import PenaltySettlement.Url.Basic
import PenaltySettlement.Url.DomainName

/-!
# Reading hosts

The host of an address with a well known scheme is a domain name, or a number of the fourth or the
sixth version; a name whose last label is a number has to be one of the fourth. In other addresses
a host is any text without certain characters.

## Main definitions

* `Url.Fault` — what is wrong with an address.
* `Host.parse`, `Host.parsePlain` — reading a host with a well known scheme and another one.
-/

set_option autoImplicit false

namespace PenaltySettlement

/-- What is wrong with the text of an address. -/
inductive Url.Fault where
  | emptyHost
  | invalidPort
  | invalidDomainName
  | invalidIpv4
  | invalidIpv6
  | invalidDomainCharacter
  | noScheme
  deriving DecidableEq, Repr

/-- The wording of a fault. -/
def Url.Fault.message : Url.Fault → String
  | .emptyHost => "empty host"
  | .invalidPort => "invalid port number"
  | .invalidDomainName => "invalid international domain name"
  | .invalidIpv4 => "invalid IPv4 address"
  | .invalidIpv6 => "invalid IPv6 address"
  | .invalidDomainCharacter => "invalid domain character"
  | .noScheme => "relative URL without a base"

namespace Host

/-! ## Numbers of the fourth version -/

/-- The number that digits in some base stand for, one of which is there. -/
def numberIn? (base : Nat) (digits : List Char) : Option Nat :=
  digits.foldl
    (fun n c =>
      match n, Percent.hexValue? c with
      | some n, some d => if d < base then some (n * base + d) else none
      | _, _ => none)
    (some 0)

/-- A part of a number: hexadecimal behind `0x`, octal behind another zero, else decimal. -/
def part? : List Char → Option Nat
  | [] => none
  | '0' :: 'x' :: digits | '0' :: 'X' :: digits => numberIn? 16 digits
  | '0' :: d :: digits => numberIn? 8 (d :: digits)
  | digits => numberIn? 10 digits

/-- The labels of a name without an empty one at the end. -/
def labels (name : List Char) : List (List Char) :=
  let labels := name.splitOn '.'
  if 1 < labels.length ∧ labels.getLast? = some [] then labels.dropLast else labels

/-- Whether the last label of a name is a number. -/
def endsInNumber (name : List Char) : Bool :=
  match (labels name).getLast? with
  | some label => (!label.isEmpty && label.all Char.isDigit) || (part? label).isSome
  | none => false

/-- A number of one to four parts, the last of which fills the places of the missing ones. -/
def ipv4? (name : List Char) : Option Host := do
  let parts ← (labels name).mapM part?
  let last ← parts.getLast?
  let leading := parts.dropLast
  let unit := twoPow (8 * (4 - leading.length))
  if 4 < parts.length ∨ leading.any (255 < ·) ∨ unit ≤ last then none
  else some (.ipv4 (leading.foldl (fun n part => n * 256 + part) 0 * unit + last))

/-! ## Numbers of the sixth version -/

/-- One of the four decimal parts at the end of a number. -/
def decimalPart? (digits : List Char) : Option Nat :=
  if digits.length ≤ 3 ∧ (digits.head? = some '0' → digits.length = 1) then do
    let n ← if digits.isEmpty then none else numberIn? 10 digits
    if n ≤ 255 then some n else none
  else none

/-- The two pieces that four decimal parts stand for. -/
def decimalPieces? (text : List Char) : Option (List Nat) := do
  match ← (text.splitOn '.').mapM decimalPart? with
  | [a, b, c, d] => some [a * 256 + b, c * 256 + d]
  | _ => none

/-- A piece of up to four hexadecimal digits. -/
def piece? (digits : List Char) : Option Nat :=
  if digits.isEmpty ∨ 4 < digits.length then none else numberIn? 16 digits

/-- Pieces with colons between them, the last of which may be decimal when `decimalEnd` holds. -/
def pieces? (decimalEnd : Bool) : List (List Char) → Option (List Nat)
  | [] => some []
  | [last] =>
    if last.contains '.' then if decimalEnd then decimalPieces? last else none
    else (piece? last).map ([·])
  | first :: others => do return (← piece? first) :: (← pieces? decimalEnd others)

/-- The text split at its first two colons in a row. -/
def splitGap : List Char → Option (List Char × List Char)
  | ':' :: ':' :: rest => some ([], rest)
  | c :: rest => (splitGap rest).map fun (before, behind) => (c :: before, behind)
  | [] => none

/-- The pieces of a text that may be empty. -/
def side? (decimalEnd : Bool) (text : List Char) : Option (List Nat) :=
  if text.isEmpty then some [] else pieces? decimalEnd (text.splitOn ':')

/-- Eight pieces, or fewer with a gap among them that zeros fill. -/
def ipv6? (text : List Char) : Option Host :=
  match splitGap text with
  | none => do
    let pieces ← side? true text
    if pieces.length = 8 then some (.ipv6 pieces) else none
  | some (before, behind) => do
    let before ← side? false before
    let behind ← side? true behind
    let gap := 8 - (before.length + behind.length)
    if gap = 0 then none else some (.ipv6 (before ++ List.replicate gap 0 ++ behind))

/-- A number of the sixth version in brackets. -/
def parseBrackets (text : List Char) : Except Url.Fault Host :=
  if text.getLast? = some ']' then
    match ipv6? (text.drop 1).dropLast with
    | some host => .ok host
    | none => .error .invalidIpv6
  else .error .invalidIpv6

/-! ## Hosts -/

/-- **The host of an address with a well known scheme.** -/
def parse (text : List Char) : Except Url.Fault Host :=
  if text.head? = some '[' then parseBrackets text
  else
    match DomainName.toAscii? (Percent.decode text) with
    | none => .error .invalidDomainName
    | some name =>
      if name = "" then .error .emptyHost
      else if endsInNumber name.toList then
        match ipv4? name.toList with
        | some host => .ok host
        | none => .error .invalidIpv4
      else .ok (.domain name)

/-- **The host of another address.** -/
def parsePlain (text : List Char) : Except Url.Fault Host :=
  if text.head? = some '[' then parseBrackets text
  else if text.any fun c => "\x00\t\n\r #/:<>?@[\\]^|".toList.contains c then
    .error .invalidDomainCharacter
  else .ok (.domain (Percent.encodeText Percent.isControl text))

end Host

end PenaltySettlement
