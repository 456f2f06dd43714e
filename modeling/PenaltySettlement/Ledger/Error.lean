import PenaltySettlement.Ledger.Validation
import PenaltySettlement.Ledger.Envelope

/-!
# What can go wrong with the ledger

An input that breaks a rule never reaches the ledger. An answer other than a success is told apart
by its status, once its body has been read as an error envelope. Everything else that goes wrong
with a request or its answer is one kind of error.

## Main definitions

* `LedgerError` — the errors.
* `LedgerError.ofStatus` — the error of an answer with a status and an envelope.
-/

set_option autoImplicit false

namespace PenaltySettlement

/-- An error of the ledger client. -/
inductive LedgerError where
  | validation (violations : List Violation)
  | badRequest (envelope : ErrorEnvelope)
  | notFound (envelope : ErrorEnvelope)
  | internalServer (envelope : ErrorEnvelope)
  | unexpected (status : Nat) (envelope : ErrorEnvelope)
  | bodyRead (reason : String)
  deriving Repr

namespace LedgerError

/-- The error of an answer that is not a success. -/
def ofStatus (status : Nat) (envelope : ErrorEnvelope) : LedgerError :=
  match status with
  | 400 => .badRequest envelope
  | 404 => .notFound envelope
  | 500 => .internalServer envelope
  | _ => .unexpected status envelope

/-- The envelope that the ledger sent, if it sent one. -/
def envelope? : LedgerError → Option ErrorEnvelope
  | .badRequest e | .notFound e | .internalServer e | .unexpected _ e => some e
  | .validation _ | .bodyRead _ => none

/-- The wording of an error. -/
def message : LedgerError → String
  | .validation violations => "invalid ledger input: " ++ Violation.describe violations
  | .badRequest e => "ledger rejected the request (400): " ++ e.describe
  | .notFound e => "ledger resource not found (404): " ++ e.describe
  | .internalServer e => "ledger internal error (500): " ++ e.describe
  | .unexpected status e => s!"unexpected ledger status {status}: " ++ e.describe
  | .bodyRead reason => "failed to read ledger response: " ++ reason

end LedgerError

end PenaltySettlement
