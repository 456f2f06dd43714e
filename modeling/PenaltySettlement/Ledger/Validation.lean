import PenaltySettlement.Ledger.Input
import PenaltySettlement.Text.Blank

/-!
# Rules on ledger inputs

Before an input is sent it is checked against rules, and all the violations are reported together,
in the order of the fields. A text is required not to be blank, an amount not to be zero and a list
not to be empty.

## Main definitions

* `Violation` — a field and the rule that it breaks.
* `Violation.required` — the rule on texts.
* `CreatePaymentInput.violations` and the same for the other inputs — the violations of an input.
-/

set_option autoImplicit false

namespace PenaltySettlement

/-- A rule on a field, by its name. -/
abbrev Rule := String

/-- A field and the rule that it breaks. -/
structure Violation where
  field : String
  rule : Rule
  deriving DecidableEq, Repr

namespace Violation

/-- The rule that something has to be there. -/
def requiredRule : Rule := "required"

/-- A violation of the rule that something has to be there, when it is not. -/
def requiredIf (missing : Bool) (field : String) : List Violation :=
  if missing then [⟨field, requiredRule⟩] else []

/-- A text that is blank breaks the rule. -/
def required (field value : String) : List Violation := requiredIf (Text.isBlank value) field

/-- Violations as text. -/
def describe (violations : List Violation) : String :=
  ", ".intercalate (violations.map fun v => v.field ++ " is " ++ v.rule)

end Violation

open Violation (required requiredIf)

/-- The violations of the penalty at a place in the list. -/
def CreatePaymentTransaction.violations (index : Nat) (t : CreatePaymentTransaction) :
    List Violation :=
  let place := s!"Transactions[{index}]"
  required (place ++ ".TransactionReference") t.transactionReference ++
    requiredIf t.value.isZero (place ++ ".Value")

/-- The violations of the penalties in a list that starts at a place. -/
def CreatePaymentTransaction.violationsFrom : Nat → List CreatePaymentTransaction → List Violation
  | _, [] => []
  | index, t :: others => t.violations index ++ violationsFrom (index + 1) others

/-- The violations of the input of the create action. -/
def CreatePaymentInput.violations (i : CreatePaymentInput) : List Violation :=
  required "CustomerCode" i.customerCode ++ required "CompanyCode" i.companyCode ++
    required "PaymentID" i.paymentId ++ requiredIf i.totalValue.isZero "TotalValue" ++
    requiredIf i.transactions.isEmpty "Transactions" ++
    CreatePaymentTransaction.violationsFrom 0 i.transactions

/-- The violations of the input of the authorise action. -/
def AuthorisePaymentInput.violations (i : AuthorisePaymentInput) : List Violation :=
  required "CompanyCode" i.companyCode ++ required "PaymentID" i.paymentId ++
    required "Email" i.email

/-- The violations of the input of the confirm, timeout and reject actions. -/
def PaymentActionInput.violations (i : PaymentActionInput) : List Violation :=
  required "CompanyCode" i.companyCode ++ required "PaymentID" i.paymentId

/-- The violations of a query. -/
def TransactionsQuery.violations (q : TransactionsQuery) : List Violation :=
  required "CustomerCode" q.customerCode ++ required "CompanyCode" q.companyCode

/-- An input without violations may be sent; otherwise all of them are given. -/
def checked (violations : List Violation) : Except (List Violation) Unit :=
  if violations.isEmpty then .ok () else .error violations

end PenaltySettlement
