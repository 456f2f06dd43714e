import PenaltySettlement.Text.Utf8

/-!
# Percent coding

A byte that a part of an address cannot hold as it is stands there as a percent sign and two
hexadecimal digits. Each part has its own set of such bytes; bytes beyond ASCII belong to all sets.

## Main definitions

* `Percent.encode` — a list of bytes with those of a set encoded.
* `Percent.decode` — the bytes that a text stands for.
* `Percent.inPath` and the other predicates — the sets.
-/

set_option autoImplicit false

namespace PenaltySettlement.Percent

/-- A hexadecimal digit, upper case. -/
def hexDigit (n : Nat) : Char :=
  if n < 10 then Char.ofNat (48 + n) else Char.ofNat (55 + n)

/-- The value of a hexadecimal digit of either case. -/
def hexValue? (c : Char) : Option Nat :=
  if '0' ≤ c ∧ c ≤ '9' then some (c.toNat - 48)
  else if 'A' ≤ c ∧ c ≤ 'F' then some (c.toNat - 55)
  else if 'a' ≤ c ∧ c ≤ 'f' then some (c.toNat - 87)
  else none

/-- A byte as a percent sign and two digits. -/
def encodeByte (b : UInt8) : List Char :=
  ['%', hexDigit (b.toNat / 16), hexDigit (b.toNat % 16)]

/-- Bytes as text, those of a set encoded. -/
def encode (isEncoded : UInt8 → Bool) (bytes : List UInt8) : List Char :=
  bytes.flatMap fun b => if isEncoded b then encodeByte b else [Char.ofNat b.toNat]

/-- A text with the bytes of a set encoded. -/
def encodeText (isEncoded : UInt8 → Bool) (text : List Char) : String :=
  String.ofList (encode isEncoded (Utf8.encode (String.ofList text)))

/-- The bytes that a text stands for. A percent sign without two digits behind it stands for
itself. -/
def decode : List Char → List UInt8
  | [] => []
  | '%' :: a :: b :: rest =>
    match hexValue? a, hexValue? b with
    | some high, some low => (high * 16 + low).toUInt8 :: decode rest
    | _, _ => '%'.toUInt8 :: decode (a :: b :: rest)
  | c :: rest => String.utf8EncodeChar c ++ decode rest

/-! ## Sets -/

/-- Controls and bytes beyond ASCII. -/
def isControl (b : UInt8) : Bool := b.toNat < 0x20 || 0x7e < b.toNat

/-- Whether a byte is one of some ASCII characters. -/
def isOneOf (text : String) (b : UInt8) : Bool := text.toList.any fun c => c.toNat == b.toNat

/-- Encoded in fragments. -/
def inFragment (b : UInt8) : Bool := isControl b || isOneOf " \"<>`" b

/-- Encoded in queries. -/
def inQuery (b : UInt8) : Bool := isControl b || isOneOf " \"#<>" b

/-- Encoded in queries of addresses with a well known scheme. -/
def inSpecialQuery (b : UInt8) : Bool := inQuery b || isOneOf "'" b

/-- Encoded in paths. -/
def inPath (b : UInt8) : Bool := inFragment b || isOneOf "#?\x7b\x7d" b

/-- Encoded in user names and passwords. -/
def inUserInfo (b : UInt8) : Bool := inPath b || isOneOf "/:;=@[\\]^|" b

/-- Encoded in a segment that is put behind a path. -/
def inSegment (b : UInt8) : Bool := inPath b || isOneOf "/%" b

/-- Encoded in a segment that is put behind the path of an address with a well known scheme. -/
def inSpecialSegment (b : UInt8) : Bool := inSegment b || isOneOf "\\" b

end PenaltySettlement.Percent
