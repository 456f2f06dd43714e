import PenaltySettlement.Json.Fault
import PenaltySettlement.Text.Utf8

/-!
# The tokens of JSON

A JSON text is a sequence of tokens with white space between them. A text token keeps the bytes
between its quotes as they are written, so that a reader that only checks the syntax need not look
into them.

## Main definitions

* `Json.Token` — the tokens.
* `Json.Token.bytes`, `Json.render` — tokens as text, without white space.
* `Json.Token.ofText` — the token of a text, its quotes, backslashes and controls escaped.
-/

set_option autoImplicit false

namespace PenaltySettlement.Json

/-- What stands where no token starts. -/
inductive Broken where
  /-- A word that starts like `null`, `true` or `false` and is none of them; `startsNull` when it
  starts like `null`, and `ended` when the text is over before the word is. -/
  | word (startsNull ended : Bool)
  /-- A malformed number, with the fault it is for a reader and for a check of the syntax. -/
  | number (fault skipFault : Fault)
  /-- A text without its closing quote or with a fault in it; the bytes behind its opening quote. -/
  | text (raw : List UInt8)
  /-- Any other byte. -/
  | byte
  deriving DecidableEq, Repr

/-- A token of JSON. Nothing follows a broken one. -/
inductive Token where
  | openList
  | closeList
  | openObject
  | closeObject
  | comma
  | colon
  | null
  | boolean (value : Bool)
  | number (numeral : Numeral)
  | text (raw : List UInt8)
  | broken (what : Broken)
  deriving DecidableEq, Repr

/-! ## Writing -/

/-- The byte of an ASCII character. -/
def ascii (c : Char) : UInt8 := c.toNat.toUInt8

/-- The bytes of an ASCII text. -/
def asciiBytes (s : String) : List UInt8 := s.toList.map ascii

/-- A byte of a text as it stands between quotes: quotes, backslashes and controls are escaped. -/
def escapeByte (b : UInt8) : List UInt8 :=
  if b = ascii '"' then asciiBytes "\\\""
  else if b = ascii '\\' then asciiBytes "\\\\"
  else if 0x20 ≤ b.toNat then [b]
  else if b.toNat = 0x08 then asciiBytes "\\b"
  else if b.toNat = 0x09 then asciiBytes "\\t"
  else if b.toNat = 0x0a then asciiBytes "\\n"
  else if b.toNat = 0x0c then asciiBytes "\\f"
  else if b.toNat = 0x0d then asciiBytes "\\r"
  else
    asciiBytes "\\u00" ++
      [ascii (Text.hexDigit (b.toNat / 16)), ascii (Text.hexDigit (b.toNat % 16))]

/-- The token of a text. -/
def Token.ofText (s : String) : Token := .text ((Utf8.encode s).flatMap escapeByte)

/-- A token as text. A broken token has none. -/
def Token.bytes : Token → List UInt8
  | .openList => asciiBytes "["
  | .closeList => asciiBytes "]"
  | .openObject => asciiBytes "\x7b"
  | .closeObject => asciiBytes "\x7d"
  | .comma => asciiBytes ","
  | .colon => asciiBytes ":"
  | .null => asciiBytes "null"
  | .boolean true => asciiBytes "true"
  | .boolean false => asciiBytes "false"
  | .number numeral => numeral.chars.map ascii
  | .text raw => ascii '"' :: raw ++ [ascii '"']
  | .broken _ => []

/-- Tokens as a JSON text without white space. -/
def render (tokens : List Token) : List UInt8 := tokens.flatMap Token.bytes

end PenaltySettlement.Json
