import PenaltySettlement.Number.Numeral
import PenaltySettlement.Text.Quoted

/-!
# What can be wrong with a JSON text

Reading a JSON text as a value of some type stops at the first fault, in the order of the text. A
fault is either one of syntax or one of type.

## Main definitions

* `Json.Found` — what stands in the text where something else was expected.
* `Json.Fault` — the faults.
* `Json.Fault.message` — their wording.
-/

set_option autoImplicit false

namespace PenaltySettlement.Json

/-- A value of the text, as it is named in a fault. -/
inductive Found where
  | null
  | boolean (value : Bool)
  | integer (value : Int)
  | float (value : Binary64)
  | text (value : String)
  | list
  | object
  deriving DecidableEq, Repr

/-- What the text breaks off in. -/
inductive Unfinished where
  | value
  | list
  | object
  | text
  deriving DecidableEq, Repr

/-- The faults of a JSON text. -/
inductive Fault where
  | ends (inside : Unfinished)
  | expectedValue
  | expectedWord
  | expectedColon
  | expectedListEnd
  | expectedObjectEnd
  | trailingComma
  | trailingCharacters
  | keyNotText
  | invalidNumber
  | numberOutOfRange
  | invalidEscape
  | unfinishedEscape
  | loneSurrogate
  | invalidCodePoint
  | controlCharacter
  | tooDeep
  | wrongType (found : Found) (expected : String)
  | wrongValue (found : Found) (expected : String)
  | wrongLength (length : Nat) (expected : String)
  | missingMember (name : String)
  | repeatedMember (name : String)
  | unknownChoice (name : String) (choices : List String)
  | custom (reason : String)
  deriving DecidableEq, Repr

/-- A found value as a fault names it. -/
def Found.describe : Found → String
  | .null => "null"
  | .boolean true => "boolean `true`"
  | .boolean false => "boolean `false`"
  | .integer value => s!"integer `{(Numeral.ofInt value).text}`"
  | .float value => s!"floating point `{value.compact.text}`"
  | .text value => s!"string {Text.quoted value}"
  | .list => "sequence"
  | .object => "map"

/-- The name of a part of the text that is not finished. -/
def Unfinished.describe : Unfinished → String
  | .value => "a value"
  | .list => "a list"
  | .object => "an object"
  | .text => "a string"

/-- The wording of a fault. -/
def Fault.message : Fault → String
  | .ends inside => s!"EOF while parsing {inside.describe}"
  | .expectedValue => "expected value"
  | .expectedWord => "expected ident"
  | .expectedColon => "expected `:`"
  | .expectedListEnd => "expected `,` or `]`"
  | .expectedObjectEnd => "expected `,` or `\x7d`"
  | .trailingComma => "trailing comma"
  | .trailingCharacters => "trailing characters"
  | .keyNotText => "key must be a string"
  | .invalidNumber => "invalid number"
  | .numberOutOfRange => "number out of range"
  | .invalidEscape => "invalid escape"
  | .unfinishedEscape => "unexpected end of hex escape"
  | .loneSurrogate => "lone leading surrogate in hex escape"
  | .invalidCodePoint => "invalid unicode code point"
  | .controlCharacter => "control character (\\u0000-\\u001F) found while parsing a string"
  | .tooDeep => "recursion limit exceeded"
  | .wrongType found expected => s!"invalid type: {found.describe}, expected {expected}"
  | .wrongValue found expected => s!"invalid value: {found.describe}, expected {expected}"
  | .wrongLength length expected => s!"invalid length {length}, expected {expected}"
  | .missingMember name => s!"missing field `{name}`"
  | .repeatedMember name => s!"duplicate field `{name}`"
  | .unknownChoice name choices =>
    s!"unknown variant `{name}`, expected " ++
      match choices with
      | [] => "there are no variants"
      | [one] => s!"`{one}`"
      | [one, other] => s!"`{one}` or `{other}`"
      | _ => "one of " ++ ", ".intercalate (choices.map fun choice => s!"`{choice}`")
  | .custom reason => reason

end PenaltySettlement.Json
