import PenaltySettlement.Proofs.LedgerAddress

/-!
# What calls of the ledger come to

An input that lacks something is not sent: all that it lacks is told. Any other input is sent once,
whatever comes of it, and the reply of the ledger decides: a success by its status alone, every
other reply by its body first and by its status then. All actions and the query obey the same law
and differ only in what their inputs need and in what a success gives.

## Main definitions

* `LedgerCommand.Lacks`, `TransactionsQuery.Lacks` — the fields that an input lacks.
* `HttpReply.Refuses`, `HttpReply.Reports` — the replies that are no success, and those to a query
  that are one, case by case.
* `HttpReply.ComesTo` — what a reply comes to.
* `LedgerExchange.Lawful` — the law of a call.

## Main results

* `LedgerCommand.mem_violations`, `TransactionsQuery.mem_violations` — all that an input lacks is
  told, and nothing else.
* `LedgerClient.comesTo_of_exchange` — what comes of a request that is sent.
* `LedgerClient.calls_lawful` — every call obeys the law.
-/

set_option autoImplicit false

namespace PenaltySettlement

/-! ## Inputs -/

/-- What the input of the create action lacks, by the names of the fields. A penalty is known by
its place in the list. -/
inductive CreatePaymentInput.Lacks (i : CreatePaymentInput) : String → Prop where
  | customerCode : Text.isBlank i.customerCode = true → i.Lacks "CustomerCode"
  | companyCode : Text.isBlank i.companyCode = true → i.Lacks "CompanyCode"
  | paymentId : Text.isBlank i.paymentId = true → i.Lacks "PaymentID"
  | totalValue : i.totalValue.isZero = true → i.Lacks "TotalValue"
  | transactions : i.transactions = [] → i.Lacks "Transactions"
  | reference {place : Nat} {t : CreatePaymentTransaction} : i.transactions[place]? = some t →
      Text.isBlank t.transactionReference = true →
      i.Lacks (s!"Transactions[{place}]" ++ ".TransactionReference")
  | value {place : Nat} {t : CreatePaymentTransaction} : i.transactions[place]? = some t →
      t.value.isZero = true → i.Lacks (s!"Transactions[{place}]" ++ ".Value")

/-- What the input of the authorise action lacks. -/
inductive AuthorisePaymentInput.Lacks (i : AuthorisePaymentInput) : String → Prop where
  | companyCode : Text.isBlank i.companyCode = true → i.Lacks "CompanyCode"
  | paymentId : Text.isBlank i.paymentId = true → i.Lacks "PaymentID"
  | email : Text.isBlank i.email = true → i.Lacks "Email"

/-- What the input of the confirm, timeout and reject actions lacks. -/
inductive PaymentActionInput.Lacks (i : PaymentActionInput) : String → Prop where
  | companyCode : Text.isBlank i.companyCode = true → i.Lacks "CompanyCode"
  | paymentId : Text.isBlank i.paymentId = true → i.Lacks "PaymentID"

/-- What a query lacks. -/
inductive TransactionsQuery.Lacks (q : TransactionsQuery) : String → Prop where
  | customerCode : Text.isBlank q.customerCode = true → q.Lacks "CustomerCode"
  | companyCode : Text.isBlank q.companyCode = true → q.Lacks "CompanyCode"

/-- **What the input of a command lacks.** -/
def LedgerCommand.Lacks : LedgerCommand → String → Prop
  | .create input => input.Lacks
  | .authorise input => input.Lacks
  | .confirm input | .timeout input | .reject input => input.Lacks

namespace Violation

/-- Violations that tell which fields are lacking: each of them, and no others. -/
def Tell (violations : List Violation) (lacks : String → Prop) : Prop :=
  ∀ v, v ∈ violations ↔ lacks v.field ∧ v.rule = requiredRule

/-- What is missing makes one violation of its field. -/
@[simp]
lemma mem_requiredIf {missing : Bool} {field : String} {v : Violation} :
    v ∈ requiredIf missing field ↔ missing = true ∧ v = ⟨field, requiredRule⟩ := by
  cases missing <;> simp [requiredIf]

/-- A blank text makes one violation of its field. -/
@[simp]
lemma mem_required {field value : String} {v : Violation} :
    v ∈ required field value ↔ Text.isBlank value = true ∧ v = ⟨field, requiredRule⟩ :=
  mem_requiredIf

/-- There is no violation exactly when nothing is lacking. -/
lemma Tell.eq_nil_iff {violations : List Violation} {lacks : String → Prop}
    (h : Tell violations lacks) : violations = [] ↔ ∀ field, ¬lacks field := by
  rw [List.eq_nil_iff_forall_not_mem]
  constructor
  · intro hnone field hlacks
    exact hnone ⟨field, requiredRule⟩ ((h _).2 ⟨hlacks, rfl⟩)
  · intro hnone v hv
    exact hnone v.field ((h v).1 hv).1

end Violation

open Violation (Tell)

/-- The violations of the penalties in a list are those at its places. -/
lemma CreatePaymentTransaction.mem_violationsFrom {start : Nat}
    {transactions : List CreatePaymentTransaction} {v : Violation} :
    v ∈ violationsFrom start transactions ↔
      ∃ (place : Nat) (t : CreatePaymentTransaction),
        transactions[place]? = some t ∧ v ∈ t.violations (start + place) := by
  induction transactions generalizing start with
  | nil => simp [violationsFrom]
  | cons first others ih =>
    rw [violationsFrom, List.mem_append, ih]
    constructor
    · rintro (hfirst | ⟨place, t, ht, hv⟩)
      · exact ⟨0, first, rfl, hfirst⟩
      · exact ⟨place + 1, t, ht, by rwa [Nat.add_right_comm] at hv⟩
    · rintro ⟨_ | place, t, ht, hv⟩
      · obtain rfl := Option.some.inj ht
        exact .inl hv
      · exact .inr ⟨place, t, ht, by rwa [Nat.add_right_comm]⟩

/-- The violations of the create action tell what its input lacks. -/
lemma CreatePaymentInput.mem_violations (i : CreatePaymentInput) : Tell i.violations i.Lacks := by
  rintro ⟨field, rule⟩
  simp only [violations, List.mem_append, Violation.mem_required, Violation.mem_requiredIf,
    List.isEmpty_iff, CreatePaymentTransaction.mem_violationsFrom,
    CreatePaymentTransaction.violations, Nat.zero_add, Violation.mk.injEq]
  constructor
  · rintro (((((⟨h, rfl, rfl⟩ | ⟨h, rfl, rfl⟩) | ⟨h, rfl, rfl⟩) | ⟨h, rfl, rfl⟩) | ⟨h, rfl, rfl⟩) |
      ⟨place, t, ht, ⟨h, rfl, rfl⟩ | ⟨h, rfl, rfl⟩⟩)
    · exact ⟨.customerCode h, rfl⟩
    · exact ⟨.companyCode h, rfl⟩
    · exact ⟨.paymentId h, rfl⟩
    · exact ⟨.totalValue h, rfl⟩
    · exact ⟨.transactions h, rfl⟩
    · exact ⟨.reference ht h, rfl⟩
    · exact ⟨.value ht h, rfl⟩
  · rintro ⟨hlacks, rfl⟩
    cases hlacks with
    | customerCode h => simp [h]
    | companyCode h => simp [h]
    | paymentId h => simp [h]
    | totalValue h => simp [h]
    | transactions h => simp [h]
    | reference ht h => exact .inr ⟨_, _, ht, .inl ⟨h, rfl, rfl⟩⟩
    | value ht h => exact .inr ⟨_, _, ht, .inr ⟨h, rfl, rfl⟩⟩

/-- The violations of the authorise action tell what its input lacks. -/
lemma AuthorisePaymentInput.mem_violations (i : AuthorisePaymentInput) :
    Tell i.violations i.Lacks := by
  rintro ⟨field, rule⟩
  simp only [violations, List.mem_append, Violation.mem_required, Violation.mk.injEq]
  constructor
  · rintro ((⟨h, rfl, rfl⟩ | ⟨h, rfl, rfl⟩) | ⟨h, rfl, rfl⟩)
    · exact ⟨.companyCode h, rfl⟩
    · exact ⟨.paymentId h, rfl⟩
    · exact ⟨.email h, rfl⟩
  · rintro ⟨hlacks, rfl⟩
    cases hlacks <;> simp [*]

/-- The violations of the confirm, timeout and reject actions tell what their input lacks. -/
lemma PaymentActionInput.mem_violations (i : PaymentActionInput) : Tell i.violations i.Lacks := by
  rintro ⟨field, rule⟩
  simp only [violations, List.mem_append, Violation.mem_required, Violation.mk.injEq]
  constructor
  · rintro (⟨h, rfl, rfl⟩ | ⟨h, rfl, rfl⟩)
    · exact ⟨.companyCode h, rfl⟩
    · exact ⟨.paymentId h, rfl⟩
  · rintro ⟨hlacks, rfl⟩
    cases hlacks <;> simp [*]

/-- The violations of a query tell what it lacks. -/
lemma TransactionsQuery.mem_violations (q : TransactionsQuery) : Tell q.violations q.Lacks := by
  rintro ⟨field, rule⟩
  simp only [violations, List.mem_append, Violation.mem_required, Violation.mk.injEq]
  constructor
  · rintro (⟨h, rfl, rfl⟩ | ⟨h, rfl, rfl⟩)
    · exact ⟨.customerCode h, rfl⟩
    · exact ⟨.companyCode h, rfl⟩
  · rintro ⟨hlacks, rfl⟩
    cases hlacks <;> simp [*]

/-- **The violations of a command tell what its input lacks.** -/
lemma LedgerCommand.mem_violations (command : LedgerCommand) :
    Tell command.violations command.Lacks := by
  cases command with
  | create input => exact input.mem_violations
  | authorise input => exact input.mem_violations
  | confirm input => exact input.mem_violations
  | timeout input => exact input.mem_violations
  | reject input => exact input.mem_violations

/-! ## Replies -/

namespace HttpReply

/-- **A reply that is no success**, and its error. A body that breaks off or is no error envelope
is told before the status is looked at. The status is that of the reply, whatever the envelope says
about it. -/
inductive Refuses (status : Nat) : Except String (List UInt8) → LedgerError → Prop where
  | cut (reason : String) : Refuses status (.error reason) (.bodyRead reason)
  | unreadable {bytes : List UInt8} {fault : Json.Fault} :
      ErrorEnvelope.codec.decode bytes = .error fault →
      Refuses status (.ok bytes) (.bodyRead
        ("unreadable error body for status " ++ HttpStatus.describe status ++ ": " ++
          fault.message))
  | badRequest {bytes : List UInt8} {envelope : ErrorEnvelope} :
      ErrorEnvelope.codec.decode bytes = .ok envelope → status = 400 →
      Refuses status (.ok bytes) (.badRequest envelope)
  | notFound {bytes : List UInt8} {envelope : ErrorEnvelope} :
      ErrorEnvelope.codec.decode bytes = .ok envelope → status = 404 →
      Refuses status (.ok bytes) (.notFound envelope)
  | internalServer {bytes : List UInt8} {envelope : ErrorEnvelope} :
      ErrorEnvelope.codec.decode bytes = .ok envelope → status = 500 →
      Refuses status (.ok bytes) (.internalServer envelope)
  | unexpected {bytes : List UInt8} {envelope : ErrorEnvelope} :
      ErrorEnvelope.codec.decode bytes = .ok envelope →
      status ≠ 400 → status ≠ 404 → status ≠ 500 →
      Refuses status (.ok bytes) (.unexpected status envelope)

/-- A success of an action, whose body is not looked at. -/
def Does (_ : Except String (List UInt8)) (outcome : Except LedgerError Unit) : Prop :=
  outcome = .ok ()

/-- **A success of a query.** Its body has to be a list of transactions. -/
inductive Reports :
    Except String (List UInt8) → Except LedgerError TransactionsResponse → Prop where
  | cut (reason : String) : Reports (.error reason) (.error (.bodyRead reason))
  | unreadable {bytes : List UInt8} {fault : Json.Fault} :
      TransactionsResponse.codec.decode bytes = .error fault →
      Reports (.ok bytes) (.error (.bodyRead fault.message))
  | transactions {bytes : List UInt8} {response : TransactionsResponse} :
      TransactionsResponse.codec.decode bytes = .ok response → Reports (.ok bytes) (.ok response)

/-- **What a reply comes to**, where `succeeds` says what a success gives. Only status 200 is a
success. -/
inductive ComesTo {α : Type}
    (succeeds : Except String (List UInt8) → Except LedgerError α → Prop) :
    HttpReply → Except LedgerError α → Prop where
  | failed (reason : String) : ComesTo succeeds (.failed reason) (.error (.bodyRead reason))
  | success {status : Nat} {body : Except String (List UInt8)} {outcome : Except LedgerError α} :
      status = 200 → succeeds body outcome → ComesTo succeeds (.answered status body) outcome
  | refused {status : Nat} {body : Except String (List UInt8)} {error : LedgerError} :
      status ≠ 200 → Refuses status body error →
      ComesTo succeeds (.answered status body) (.error error)

end HttpReply

open HttpReply (ComesTo Refuses Reports Does)

namespace LedgerClient

/-- The error of a reply that is no success is the one that it should be. -/
lemma refuses_refusal (status : Nat) (body : Except String (List UInt8)) :
    Refuses status body (refusal status body).1 := by
  rcases body with reason | bytes
  · exact .cut reason
  rw [refusal]
  cases hdecode : ErrorEnvelope.codec.decode bytes with
  | error fault => exact .unreadable hdecode
  | ok envelope =>
    dsimp only [LedgerError.ofStatus]
    split
    · exact .badRequest hdecode rfl
    · exact .notFound hdecode rfl
    · exact .internalServer hdecode rfl
    · rename_i hbad hnot hinternal
      exact .unexpected hdecode hbad hnot hinternal

/-- The outcome of an action is what the reply comes to. -/
lemma comesTo_receiveAction (status : Nat) (body : Except String (List UInt8)) :
    ComesTo Does (.answered status body) (receiveAction status body).1 := by
  rw [receiveAction]
  split
  · exact .success ‹_› rfl
  · exact .refused ‹_› (refuses_refusal status body)

/-- The outcome of a query is what the reply comes to. -/
lemma comesTo_receiveTransactions (status : Nat) (body : Except String (List UInt8)) :
    ComesTo Reports (.answered status body) (receiveTransactions status body).1 := by
  unfold receiveTransactions
  split
  · rename_i hstatus
    refine .success hstatus ?_
    rcases body with reason | bytes
    · exact .cut reason
    dsimp only
    split
    · exact .unreadable ‹_›
    · exact .transactions ‹_›
  · exact .refused ‹_› (refuses_refusal status body)

variable {α : Type} {send : HttpRequest → HttpReply} {u : Url} {r : HttpRequest} {log : Log}
  {receive : Nat → Except String (List UInt8) → Except LedgerError α × Log}

/-- **What comes of a request that is sent**: the reply to it decides. -/
lemma comesTo_of_exchange {succeeds : Except String (List UInt8) → Except LedgerError α → Prop}
    (hreceive : ∀ status body, ComesTo succeeds (.answered status body) (receive status body).1)
    (h : unsendable u r = none) :
    ComesTo succeeds (send r) (exchange send u r log receive).outcome := by
  rw [exchange, h]
  dsimp only
  cases hreply : send r with
  | failed reason => exact .failed reason
  | answered status body => exact hreceive status body

/-- A request that cannot be sent is a failure. -/
lemma outcome_of_unsendable (h : unsendable u r ≠ none) :
    ∃ reason, (exchange send u r log receive).outcome = .error (.bodyRead reason) := by
  obtain ⟨reason, hreason⟩ := Option.ne_none_iff_exists'.1 h
  exact ⟨reason, by rw [exchange, hreason]⟩

end LedgerClient

/-! ## Calls -/

/-- **A lawful call**, whose input lacks what `lacks` says, whose request is given and whose success
gives what `succeeds` says.

An address that is not one of the web has no ledger that could reply: a call of a client with such
a base address fails like one that gets no reply. -/
structure LedgerExchange.Lawful {α : Type} (client : LedgerClient)
    (send : HttpRequest → HttpReply) (lacks : String → Prop) (request : HttpRequest)
    (succeeds : Except String (List UInt8) → Except LedgerError α → Prop)
    (x : LedgerExchange α) : Prop where
  invalid : (∃ field, lacks field) → x.requests = [] ∧
    ∃ violations, x.outcome = .error (.validation violations) ∧ Tell violations lacks
  sent : (∀ field, ¬lacks field) → client.OnWeb →
    x.requests = [request] ∧ ComesTo succeeds (send request) x.outcome
  unsent : (∀ field, ¬lacks field) → ¬client.OnWeb →
    x.requests = [] ∧ ∃ reason, x.outcome = .error (.bodyRead reason)

namespace LedgerClient

/-- The request of a query. -/
def queryRequest (c : LedgerClient) (q : TransactionsQuery) : HttpRequest :=
  request .get (c.endpoint [LedgerAction.collection, q.customerCode]) (queryParameters q) none

/-- A call that checks its input and sends its request is lawful. -/
lemma lawful_of_exchange {text : String} {client : LedgerClient} (h : new text = .ok client)
    (send : HttpRequest → HttpReply) {α : Type} {violations : List Violation}
    {lacks : String → Prop} (told : Tell violations lacks) (segments : List String)
    (r : HttpRequest) (log : Log)
    {receive : Nat → Except String (List UInt8) → Except LedgerError α × Log}
    {succeeds : Except String (List UInt8) → Except LedgerError α → Prop}
    (hreceive : ∀ status body, ComesTo succeeds (.answered status body) (receive status body).1)
    {x : LedgerExchange α}
    (hx : x = match checked violations with
      | .error violations => { outcome := .error (.validation violations) }
      | .ok () => exchange send (client.endpoint segments) r log receive) :
    x.Lawful client send lacks r succeeds := by
  have hweb := unsendable_eq_none_iff h segments r
  have hrequests := requests_exchange send (client.endpoint segments) r log receive
  have hvalid : (∀ field, ¬lacks field) →
      x = exchange send (client.endpoint segments) r log receive := by
    intro hnone
    rw [hx, told.eq_nil_iff.2 hnone]
    rfl
  constructor
  · rintro ⟨field, hlacks⟩
    have hne : violations ≠ [] := fun hnil => told.eq_nil_iff.1 hnil field hlacks
    have hchecked : checked violations = .error violations :=
      if_neg (by simpa using hne)
    rw [hx, hchecked]
    exact ⟨rfl, violations, rfl, told⟩
  · intro hnone hon
    rw [hvalid hnone, hrequests, if_pos (hweb.2 hon)]
    exact ⟨rfl, comesTo_of_exchange hreceive (hweb.2 hon)⟩
  · intro hnone hoff
    have hunsendable : unsendable (client.endpoint segments) r ≠ none := fun hn => hoff (hweb.1 hn)
    rw [hvalid hnone, hrequests, if_neg hunsendable]
    exact ⟨rfl, outcome_of_unsendable hunsendable⟩

/-- A call for an action is lawful. -/
lemma act_lawful {text : String} {client : LedgerClient} (h : new text = .ok client)
    (send : HttpRequest → HttpReply) (command : LedgerCommand) :
    (client.act send command).Lawful client send command.Lacks (client.commandRequest command)
      Does :=
  lawful_of_exchange h send command.mem_violations command.action.segments _ _
    comesTo_receiveAction rfl

/-- A query is lawful. -/
lemma transactions_lawful {text : String} {client : LedgerClient} (h : new text = .ok client)
    (send : HttpRequest → HttpReply) (q : TransactionsQuery) :
    (client.transactions send q).Lawful client send q.Lacks (client.queryRequest q) Reports :=
  lawful_of_exchange h send q.mem_violations [LedgerAction.collection, q.customerCode] _ _
    comesTo_receiveTransactions rfl

/-- **Every call obeys the law**: the five actions and the query, with any input, whatever the
ledger replies.

**Proof sketch.** All calls are made in the same way (`lawful_of_exchange`). They differ in the
rules on their inputs, whose violations tell what the input lacks (`LedgerCommand.mem_violations`,
`TransactionsQuery.mem_violations`), and in what they make of a reply (`comesTo_receiveAction`,
`comesTo_receiveTransactions`). -/
theorem calls_lawful {text : String} {client : LedgerClient} (h : new text = .ok client)
    (send : HttpRequest → HttpReply) :
    (∀ command : LedgerCommand, (client.act send command).Lawful client send command.Lacks
      (client.commandRequest command) Does) ∧
    ∀ q : TransactionsQuery, (client.transactions send q).Lawful client send q.Lacks
      (client.queryRequest q) Reports :=
  ⟨act_lawful h send, transactions_lawful h send⟩

/-- A confirmation that the ledger answers with status 404 and an envelope that speaks of status 500
has been sent once, and its payment was not found. -/
theorem confirm_not_found :
    let client : LedgerClient := ⟨{
      scheme := "http", host := some (.ipv6 [0, 0, 0, 0, 0, 0, 0, 1]), path := .segments [""] }⟩
    let body := Utf8.encode "\x7b\"httpStatusCode\":500\x7d"
    let command := LedgerCommand.confirm ⟨"LP", "P1"⟩
    let x := client.act (fun _ => .answered 404 (.ok body)) command
    x.requests = [client.commandRequest command] ∧
      ∃ envelope, envelope.httpStatusCode = 500 ∧ x.outcome = .error (.notFound envelope) := by
  intro client body command x
  have hclient : new "http://[::1]" = .ok client := by decide +kernel
  have hread : (ErrorEnvelope.codec.decode body).toOption.map (·.httpStatusCode) = some 500 := by
    decide +kernel
  have hnone : ∀ field, ¬command.Lacks field := by
    rintro field (hcompany | hpayment)
    · exact absurd hcompany (by decide)
    · exact absurd hpayment (by decide)
  obtain ⟨hrequests, houtcome⟩ :=
    ((calls_lawful hclient fun _ => .answered 404 (.ok body)).1 command).sent hnone (by decide)
  refine ⟨hrequests, ?_⟩
  change ComesTo Does (.answered 404 (.ok body)) x.outcome at houtcome
  generalize x.outcome = outcome at houtcome
  cases houtcome with
  | success hstatus => cases hstatus
  | refused _ hrefuses =>
    cases hrefuses with
    | unreadable hdecode => rw [hdecode] at hread; cases hread
    | notFound hdecode =>
      rw [hdecode] at hread
      exact ⟨_, Option.some.inj hread, rfl⟩
    | badRequest _ hstatus => cases hstatus
    | internalServer _ hstatus => cases hstatus
    | unexpected _ _ hstatus => exact absurd rfl hstatus

end LedgerClient

end PenaltySettlement
