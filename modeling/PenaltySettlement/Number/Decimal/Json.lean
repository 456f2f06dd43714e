import PenaltySettlement.Number.Decimal.Reader
import PenaltySettlement.Json.Record

/-!
# Amounts in JSON

An amount is read from a JSON number or from a text. A floating point number is read through its
shortest decimal digits. Amounts are written as texts in stored documents and as floating point
numbers in messages to and from the ledger.

## Main definitions

* `Decimal.textCodec`, `Decimal.floatCodec` — the two codecs; they read alike.
-/

set_option autoImplicit false

namespace PenaltySettlement.Decimal

open Json

/-- What a fault calls an amount. -/
def expectedName : String := "a Decimal type representing a fixed-point number"

/-- The amount that a number of the text stands for. -/
def ofNumber? : Number → Option Decimal
  | .integer value => ofParts? (value < 0) value.natAbs 0
  | .float value => ofText? value.positional.text

/-- Reads an amount from a number or a text. -/
def read : Reader Decimal := fun _ tokens =>
  match tokens with
  | .number numeral :: rest =>
    match Number.ofNumeral numeral with
    | .error fault => .error fault
    | .ok number =>
      match ofNumber? number with
      | some amount => .ok (amount, rest)
      | none => .error (.wrongValue number.found expectedName)
  | .text raw :: rest =>
    match readText true raw with
    | .error fault => .error fault
    | .ok text =>
      match ofText? text with
      | some amount => .ok (amount, rest)
      | none => .error (.wrongValue (.text text) expectedName)
  | _ => .error (mismatch expectedName tokens)

/-- Amounts written as texts. -/
def textCodec : Codec Decimal where
  read := read
  write amount := [.ofText amount.text]

/-- Amounts written as floating point numbers. -/
def floatCodec : Codec Decimal where
  read := read
  write amount := [.number amount.toBinary64.compact]

end PenaltySettlement.Decimal
