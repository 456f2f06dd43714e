import PenaltySettlement.Json.Record

/-!
# Ledger actions

The ledger knows five actions that change the state of a payment session. Creating one locks the
customer's account and authorising it keeps the lock until the funds are confirmed; confirming it
settles and unlocks, and a timeout or a rejection unlocks without settlement.

## Main definitions

* `LedgerAction` — the actions.
* `LedgerAction.segments` — the path of an action below the ledger's base address.
-/

set_option autoImplicit false

namespace PenaltySettlement

/-- An action on a payment session. -/
inductive LedgerAction where
  | create
  | authorise
  | confirm
  | timeout
  | reject
  deriving DecidableEq, Repr

namespace LedgerAction

/-- The name of an action. -/
def name : LedgerAction → String
  | .create => "create"
  | .authorise => "authorise"
  | .confirm => "confirm"
  | .timeout => "timeout"
  | .reject => "reject"

/-- The actions with their names. -/
def choices : List (String × LedgerAction) :=
  [.create, .authorise, .confirm, .timeout, .reject].map fun action => (action.name, action)

/-- The collection of all ledger resources. -/
def collection : String := "arTransactions"

/-- The segments of the path of an action. -/
def segments : LedgerAction → List String
  | .create => [collection, "payment"]
  | action => [collection, "payment", action.name]

/-- The path of an action below the base address. -/
def path (action : LedgerAction) : String :=
  String.join (action.segments.map fun segment => "/" ++ segment)

/-- Actions in JSON. -/
def codec : Json.Codec LedgerAction := .choice choices

end LedgerAction

end PenaltySettlement
