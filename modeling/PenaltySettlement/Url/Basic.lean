import PenaltySettlement.Number.Power
import PenaltySettlement.Url.Query
import PenaltySettlement.Number.Digits

/-!
# Addresses of resources

An address has a scheme, possibly a host with a port and with a user, a path, and possibly a query
and a fragment. The path is a list of segments, unless the address has no place for segments, as in
`mailto:` addresses.

## Main definitions

* `Url` — the addresses.
* `Url.text` — an address as text.
* `Url.appendSegments` — an address with further segments behind its path.
-/

set_option autoImplicit false

namespace PenaltySettlement

/-- The host of an address. -/
inductive Host where
  | domain (name : String)
  | ipv4 (number : Nat)
  | ipv6 (pieces : List Nat)
  deriving DecidableEq, Repr

/-- The path of an address: segments, or a text that is not divided. -/
inductive UrlPath where
  | segments (segments : List String)
  | undivided (text : String)
  deriving DecidableEq, Repr

/-- An address. The parts are held as they are written; `dotted` when a slash and a dot keep a path
that starts with two slashes from reading as a host. -/
structure Url where
  scheme : String
  username : String := ""
  password : Option String := none
  host : Option Host := none
  port : Option Nat := none
  dotted : Bool := false
  path : UrlPath
  query : Option String := none
  fragment : Option String := none
  deriving DecidableEq, Repr

namespace Host

/-- A number in lower case hexadecimal without leading zeros. -/
def hex (n : Nat) : String := String.ofList (Nat.toDigits 16 n)

/-- The length of the run of zeros at the start. -/
def zeroRun (pieces : List Nat) : Nat := (pieces.takeWhile (· == 0)).length

/-- Where the longest run of at least two zeros starts, and its length; the first of equals. -/
def longestRun (pieces : List Nat) : Nat × Nat :=
  (List.range pieces.length).foldl
    (fun (start, length) i =>
      let run := zeroRun (pieces.drop i)
      if length < run ∧ 2 ≤ run then (i, run) else (start, length))
    (0, 0)

/-- The pieces of an address of the sixth version, the longest run of zeros left out. -/
def ipv6Text (pieces : List Nat) : String :=
  let colons (pieces : List Nat) : String := ":".intercalate (pieces.map hex)
  let (start, length) := longestRun pieces
  if length = 0 then colons pieces
  else colons (pieces.take start) ++ "::" ++ colons (pieces.drop (start + length))

/-- A host as text. -/
def text : Host → String
  | .domain name => name
  | .ipv4 n =>
    ".".intercalate
      ([n / twoPow 24, n / twoPow 16 % 256, n / twoPow 8 % 256, n % 256].map fun part =>
        Digits.text (Digits.ofNat part))
  | .ipv6 pieces => "[" ++ ipv6Text pieces ++ "]"

end Host

namespace Url

/-- The well known schemes with their usual ports. -/
def specialSchemes : List (String × Option Nat) :=
  [("http", some 80), ("https", some 443), ("ws", some 80), ("wss", some 443), ("ftp", some 21),
    ("file", none)]

/-- Whether a scheme is well known. -/
def isSpecialScheme (scheme : String) : Bool := (specialSchemes.lookup scheme).isSome

/-- Whether the address names a host. -/
def hasHost (u : Url) : Bool :=
  match u.host with
  | none => false
  | some (.domain name) => name != ""
  | some _ => true

/-! ## Text -/

/-- The user of an address, up to the at sign. -/
def userText (u : Url) : String :=
  match u.password with
  | some password => u.username ++ ":" ++ password ++ "@"
  | none => if u.username = "" then "" else u.username ++ "@"

/-- The host of an address with what belongs to it. -/
def authorityText (u : Url) : String :=
  match u.host with
  | none => ""
  | some host =>
    "//" ++ u.userText ++ host.text ++
      match u.port with
      | some port => ":" ++ Digits.text (Digits.ofNat port)
      | none => ""

/-- The path of an address. -/
def pathText (u : Url) : String :=
  match u.path with
  | .undivided text => text
  | .segments segments =>
    (if u.dotted then "/." else "") ++ String.join (segments.map fun segment => "/" ++ segment)

/-- The query and the fragment of an address. -/
def tailText (u : Url) : String :=
  (match u.query with
    | some query => "?" ++ query
    | none => "") ++
  match u.fragment with
  | some fragment => "#" ++ fragment
  | none => ""

/-- An address as text. -/
def text (u : Url) : String := u.scheme ++ ":" ++ u.authorityText ++ u.pathText ++ u.tailText

/-! ## Breaks -/

/-- Whether a character is a tab or a line break, which addresses pass over. -/
def isBreak (c : Char) : Bool := c == '\t' || c == '\n' || c == '\r'

/-- A text without its tabs and line breaks. -/
def withoutBreaks (text : List Char) : List Char := text.filter (!isBreak ·)

/-! ## Paths -/

/-- Whether a segment stands for the place it is in. -/
def isHere (segment : String) : Bool :=
  [".", "%2e"].contains segment.toLower

/-- Whether a segment stands for the place above. -/
def isAbove (segment : String) : Bool :=
  ["..", ".%2e", "%2e.", "%2e%2e"].contains segment.toLower

/-- Whether a text names a drive: a letter and a colon or a bar. -/
def isDrive : List Char → Bool
  | [letter, mark] => letter.isAlpha && (mark == ':' || mark == '|')
  | _ => false

/-- The segments without the last one. There is nothing above a drive, with a backslash behind it
or without. -/
def above (segments : List String) : List String :=
  match segments.getLast? with
  | some last =>
    if isDrive (last.toList.takeWhile (· != '\\')) then segments else segments.dropLast
  | none => []

/-- The segments without an empty one at the end, unless it is the only one. -/
def dropEmptyLast (segments : List String) : List String :=
  if 1 < segments.length ∧ segments.getLast? = some "" then segments.dropLast else segments

/-- The segments with one more; a path of one empty segment is no more than the slash before it. -/
def push (segments : List String) (segment : String) : List String :=
  if segments = [""] then [segment] else segments ++ [segment]

/-- **One more segment.** A segment of one or two dots is left out. A segment that comes to be so
only when tabs and line breaks are passed over is read as a step instead: one dot ends the path
with a slash, and two dots lead above. -/
def appendSegment (isEncoded : UInt8 → Bool) (segments : List String) (segment : String) :
    List String :=
  if segment = "." ∨ segment = ".." then segments
  else
    let encoded := Percent.encodeText isEncoded (withoutBreaks segment.toList)
    if encoded = "." then push segments ""
    else if encoded = ".." then
      if segments.length ≤ 1 then [""] else push (above segments) ""
    else push segments encoded

/-- **Further segments.** One empty segment at the end of the path gives way. -/
def appendSegments (u : Url) (segments : List String) : Url :=
  match u.path with
  | .undivided _ => u
  | .segments path =>
    let isEncoded :=
      if isSpecialScheme u.scheme then Percent.inSpecialSegment else Percent.inSegment
    { u with
      path := .segments (segments.foldl (appendSegment isEncoded) (dropEmptyLast path)) }

end Url

end PenaltySettlement
