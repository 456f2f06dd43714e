import PenaltySettlement.Activity

/-!
# Looking up penalties

The penalties of an account are answered from the store. The ledger is asked only while the store
has no document for the account; the document that its answer makes is then kept, unless another
one has come in meanwhile, which wins.

## Main definitions

* `LookupError` — why there is no answer.
* `PenaltyLookup.penalties` — the document of an account.
* `PenaltyLookup.isPaid` — whether one of its penalties is paid.
-/

set_option autoImplicit false

namespace PenaltySettlement

/-- Why penalties could not be looked up. -/
inductive LookupError where
  | ledger (source : LedgerError)
  | store (source : StoreError)
  deriving Repr

/-- The wording of an error. -/
def LookupError.message : LookupError → String
  | .ledger source => "failed to fetch ledger transactions: " ++ source.message
  | .store source => "account penalties store failed: " ++ source.message

namespace PenaltyLookup

/-- The log entry about a look into the store. -/
def entry (level : LogLevel) (message : String) (key : AccountKey)
    (more : List (String × LogValue)) : LogEntry :=
  { source := .service, level, message
    fields := [("customer_code", .quoted key.customerCode),
      ("company_code", .quoted key.companyCode)] ++ more }

/-- Keeps a document unless the account has one, and gives the document that the account has
then. -/
def keep (key : AccountKey) (document : AccountPenalties) :
    Activity (Except LookupError AccountPenalties) := do
  match ← Activity.step (.accounts (.createAccount document)) with
  | .error source => pure (.error (.store source))
  | .ok () =>
    match ← Activity.step (.accounts (.account key)) with
    | .error source => pure (.error (.store source))
    | .ok kept => pure (.ok (kept.getD document))

/-- The document of an account that the store does not have. -/
def fetch (key : AccountKey) : Activity (Except LookupError AccountPenalties) := do
  match ← Activity.step (.transactions ⟨key.customerCode, key.companyCode⟩) with
  | .error source => pure (.error (.ledger source))
  | .ok response =>
    Activity.report (entry .info "account penalties cache miss, fetched from ledger" key
      [("transactions", .nat response.data.length)])
    let now ← Activity.step .time
    keep key (.ofTransactions now key response.data)

/-- **The document of an account.** -/
def penalties (key : AccountKey) : Activity (Except LookupError AccountPenalties) := do
  match ← Activity.step (.accounts (.account key)) with
  | .error source => pure (.error (.store source))
  | .ok (some document) =>
    Activity.report (entry .debug "account penalties cache hit" key [])
    pure (.ok document)
  | .ok none => fetch key

/-- **Whether a penalty is paid**, if the account has it. -/
def isPaid (key : AccountKey) (reference : String) :
    Activity (Except LookupError (Option Bool)) := do
  match ← penalties key with
  | .error e => pure (.error e)
  | .ok document => pure (.ok ((document.item? reference).map PenaltyItem.isPaid))

end PenaltyLookup

end PenaltySettlement
