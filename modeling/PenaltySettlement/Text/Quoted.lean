import PenaltySettlement.Text.Printable

/-!
# Quoted text in diagnostics

A text is shown between double quotes, with escapes for the quote, the backslash, the usual control
characters and every character that has no glyph of its own.

## Main definitions

* `Text.hex` — lower case hexadecimal digits.
* `Text.quoted` — a text between quotes.
-/

set_option autoImplicit false

namespace PenaltySettlement.Text

/-- The hexadecimal digit of a number under sixteen. -/
def hexDigit (n : Nat) : Char :=
  if n < 10 then Char.ofNat (48 + n) else Char.ofNat (87 + n)

/-- A number in hexadecimal, lower case and without leading zeros. -/
def hex (n : Nat) : List Char :=
  if n < 16 then [hexDigit n] else hex (n / 16) ++ [hexDigit (n % 16)]
termination_by n
decreasing_by omega

/-- A character as it stands in a quoted text. -/
def quotedChar (c : Char) : List Char :=
  if c = '\x00' then ['\\', '0']
  else if c = '\t' then ['\\', 't']
  else if c = '\n' then ['\\', 'n']
  else if c = '\r' then ['\\', 'r']
  else if c = '"' then ['\\', '"']
  else if c = '\\' then ['\\', '\\']
  else if isPrintable c then [c]
  else ['\\', 'u', '\x7b'] ++ hex c.toNat ++ ['\x7d']

/-- A text between double quotes. -/
def quoted (s : String) : String :=
  String.ofList (['"'] ++ s.toList.flatMap quotedChar ++ ['"'])

end PenaltySettlement.Text
