import PenaltySettlement.Url.Percent

/-!
# Parameters in queries

A query carries parameters as pairs of a name and a value, joined by `=`, with `&` between the
pairs. A space is written as a plus sign, letters, digits and `*-._` as they are, and every other
byte with a percent sign.

## Main definitions

* `Query.encodePairs`, `Query.append` — writing parameters, alone or behind a query.
* `Query.decodePairs` — reading them.
-/

set_option autoImplicit false

namespace PenaltySettlement.Query

/-- Whether a byte stands for itself. -/
def isPlain (b : UInt8) : Bool :=
  let n := b.toNat
  (0x30 ≤ n && n ≤ 0x39) || (0x41 ≤ n && n ≤ 0x5a) || (0x61 ≤ n && n ≤ 0x7a) ||
    Percent.isOneOf "*-._" b

/-- A byte of a name or value. -/
def encodeByte (b : UInt8) : List Char :=
  if b = 0x20 then ['+'] else if isPlain b then [Char.ofNat b.toNat] else Percent.encodeByte b

/-- A name or a value. -/
def encodeText (s : String) : List Char := (Utf8.encode s).flatMap encodeByte

/-- A pair. -/
def encodePair (pair : String × String) : List Char :=
  encodeText pair.1 ++ '=' :: encodeText pair.2

/-- Pairs with `&` between them. -/
def encodePairs (pairs : List (String × String)) : List Char :=
  List.intercalate ['&'] (pairs.map encodePair)

/-- A query with pairs behind it. -/
def append (query : Option String) (pairs : List (String × String)) : String :=
  match query with
  | none | some "" => String.ofList (encodePairs pairs)
  | some query => query ++ "&" ++ String.ofList (encodePairs pairs)

/-- A name or a value read back. -/
def decodeText (text : List Char) : String :=
  Utf8.decodeLenient (Percent.decode (text.map fun c => if c = '+' then ' ' else c))

/-- A pair read back; a pair without `=` has an empty value. -/
def decodePair (text : List Char) : String × String :=
  (decodeText (text.takeWhile (· != '=')), decodeText ((text.dropWhile (· != '=')).drop 1))

/-- The pairs of a query; nothing between two `&` is no pair. -/
def decodePairs (query : List Char) : List (String × String) :=
  ((query.splitOn '&').filter fun part => !part.isEmpty).map decodePair

end PenaltySettlement.Query
