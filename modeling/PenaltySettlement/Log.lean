import PenaltySettlement.Text.Quoted
import PenaltySettlement.Number.Numeral

/-!
# Log entries

What the service reports while it works: a message with a level and named fields, from one of its
parts. Entries are values; the operations of this library give them with their results.

## Main definitions

* `LogEntry` — an entry.
* `LogEntry.line` — the entry as a line.
-/

set_option autoImplicit false

namespace PenaltySettlement

/-- How important an entry is. -/
inductive LogLevel where
  | debug
  | info
  | warn
  | error
  deriving DecidableEq, Repr

/-- The part of the service that an entry comes from. -/
inductive LogSource where
  | program
  | client
  | store
  | partition
  | service
  | handler
  | consumer
  | supervisor
  deriving DecidableEq, Repr

/-- The value of a field: a text that lines show in quotes, or anything else. -/
inductive LogValue where
  | quoted (text : String)
  | plain (text : String)
  deriving DecidableEq, Repr

/-- An entry of the log. -/
structure LogEntry where
  source : LogSource
  level : LogLevel
  message : String
  fields : List (String × LogValue) := []
  deriving DecidableEq, Repr

/-- Entries in the order in which they were made. -/
abbrev Log := List LogEntry

namespace LogValue

/-- A number as a value. -/
def nat (n : Nat) : LogValue := .plain (Digits.text (Digits.ofNat n))

/-- The text of a value, without quotes. -/
def text : LogValue → String
  | .quoted text => text
  | .plain text => text

/-- A value as lines show it. -/
def shown : LogValue → String
  | .quoted text => Text.quoted text
  | .plain text => text

end LogValue

/-- The name of a level. -/
def LogLevel.name : LogLevel → String
  | .debug => "debug"
  | .info => "info"
  | .warn => "warn"
  | .error => "error"

/-- The name of a part of the service. -/
def LogSource.name : LogSource → String
  | .program => "penalty_payments"
  | .client => "penalty_payments::infrastructure::ledger"
  | .store => "penalty_payments::infrastructure::in_memory"
  | .partition => "penalty_payments::interfaces::events::partition"
  | .service => "penalty_payments::application::penalties"
  | .handler => "penalty_payments::application::handler"
  | .consumer => "penalty_payments::application::consumer"
  | .supervisor => "penalty_payments::application::supervisor"

/-- **A line of the log.** A field called `message` shows only its value. -/
def LogEntry.line (e : LogEntry) : String :=
  let field : String × LogValue → String
    | ("message", value) => " " ++ value.shown
    | (name, value) => " " ++ name ++ "=" ++ value.shown
  e.level.name.toUpper ++ " " ++ e.source.name ++ ": " ++ e.message ++
    String.join (e.fields.map field)

end PenaltySettlement
