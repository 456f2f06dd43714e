import PenaltySettlement.Ledger.Http
import PenaltySettlement.Ledger.Error
import PenaltySettlement.Ledger.Transaction
import PenaltySettlement.Log

/-!
# The ledger client

The client checks an input, sends at most one request for it and makes an outcome of the reply. It
has a base address, below which the resources of the ledger are.

## Main definitions

* `LedgerClient.new` — a client with a base address.
* `LedgerClient.act`, `LedgerClient.transactions` — an action, and the query for transactions.
* `LedgerClient.refusal` — the error of a reply that is not a success.
-/

set_option autoImplicit false

namespace PenaltySettlement

/-- A base address that a client cannot have, and what is wrong with it if it is no address. -/
structure InvalidBaseUrl where
  text : String
  fault : Option Url.Fault
  deriving DecidableEq, Repr

/-- The wording of the error. -/
def InvalidBaseUrl.message (e : InvalidBaseUrl) : String :=
  "invalid ledger base url: " ++ e.text ++
    match e.fault with
    | some fault => ": " ++ fault.message
    | none => ""

/-- A client of the ledger below a base address. -/
structure LedgerClient where
  base : Url
  deriving DecidableEq, Repr

/-- What has come of a call: its outcome, the requests that were sent and the log. -/
structure LedgerExchange (α : Type) where
  outcome : Except LedgerError α
  requests : List HttpRequest := []
  log : Log := []

/-- An action with its input. -/
inductive LedgerCommand where
  | create (input : CreatePaymentInput)
  | authorise (input : AuthorisePaymentInput)
  | confirm (input : PaymentActionInput)
  | timeout (input : PaymentActionInput)
  | reject (input : PaymentActionInput)
  deriving DecidableEq, Repr

namespace LedgerCommand

/-- The action of a command. -/
def action : LedgerCommand → LedgerAction
  | .create _ => .create
  | .authorise _ => .authorise
  | .confirm _ => .confirm
  | .timeout _ => .timeout
  | .reject _ => .reject

/-- The rules that the input of a command breaks. -/
def violations : LedgerCommand → List Violation
  | .create input => input.violations
  | .authorise input => input.violations
  | .confirm input | .timeout input | .reject input => input.violations

/-- The input of a command as JSON. -/
def body : LedgerCommand → List UInt8
  | .create input => CreatePaymentInput.codec.encode input
  | .authorise input => AuthorisePaymentInput.codec.encode input
  | .confirm input | .timeout input | .reject input => PaymentActionInput.codec.encode input

end LedgerCommand

namespace LedgerClient

/-- The parameter that tells the ledger who is asking. -/
def identity : String × String := ("ADV_userName", "SYSTEM")

/-- The first day of the history that is asked for. -/
def historyStart : String := "1990-01-01"

/-- **A new client.** The base address has to be one that can have paths below it. -/
def new (text : String) : Except InvalidBaseUrl LedgerClient :=
  match Url.parse text with
  | .error fault => .error ⟨text, some fault⟩
  | .ok url =>
    match url.path with
    | .undivided _ => .error ⟨text, none⟩
    | .segments _ => .ok ⟨url⟩

/-- The base address as text, without slashes at its end. -/
def baseText (c : LedgerClient) : String :=
  String.ofList (c.base.text.toList.reverse.dropWhile (· == '/')).reverse

/-- The address of a resource below the base address. -/
def endpoint (c : LedgerClient) (segments : List String) : Url := c.base.appendSegments segments

/-! ## Requests -/

/-- The user of an address with percent coding undone, if there is one that is a text. -/
def credentials (u : Url) : Option (String × Option String) := do
  let name ← Utf8.decode? (Percent.decode u.username.toList)
  let password := u.password.bind fun p => Utf8.decode? (Percent.decode p.toList)
  if name = "" ∧ password.isNone then none else some (name, password)

/-- The request to an address with parameters behind its query. The user goes into the
credentials. -/
def request (method : HttpMethod) (u : Url) (parameters : List (String × String))
    (body : Option (List UInt8)) : HttpRequest :=
  let credentials := credentials u
  let u := if credentials.isSome then { u with username := "", password := none } else u
  { method, credentials, body
    url := { u with query := some (Query.append u.query parameters) } }

/-- The reason why no request can be sent to an address, if there is one: it has no host, or
another scheme than those of the web. -/
def unsendable (u : Url) (r : HttpRequest) : Option String :=
  if !u.hasHost then some ("builder error for url (" ++ u.text ++ ")")
  else if u.scheme = "http" ∨ u.scheme = "https" then none
  else some ("builder error for url (" ++ r.url.text ++ ")")

/-- The reason of a request that got no reply at all. -/
def unreachable (r : HttpRequest) : String := "error sending request for url (" ++ r.url.text ++ ")"

/-- Sends a request, if that can be done, and takes the reply to an outcome. -/
def exchange {α : Type} (send : HttpRequest → HttpReply) (u : Url) (r : HttpRequest)
    (log : Log) (receive : Nat → Except String (List UInt8) → Except LedgerError α × Log) :
    LedgerExchange α :=
  match unsendable u r with
  | some reason => { outcome := .error (.bodyRead reason), log }
  | none =>
    match send r with
    | .failed reason => { outcome := .error (.bodyRead reason), requests := [r], log }
    | .answered status body =>
      let (outcome, received) := receive status body
      { outcome, requests := [r], log := log ++ received }

/-! ## Replies -/

/-- **The error of a reply that is not a success.** The body has to be an error envelope. -/
def refusal (status : Nat) (body : Except String (List UInt8)) : LedgerError × Log :=
  match body with
  | .error reason => (.bodyRead reason, [])
  | .ok bytes =>
    match ErrorEnvelope.codec.decode bytes with
    | .error fault =>
      (.bodyRead
        ("unreadable error body for status " ++ HttpStatus.describe status ++ ": " ++
          fault.message), [])
    | .ok envelope =>
      (.ofStatus status envelope,
        [{ source := .client, level := .warn, message := "ledger returned an error"
           fields := [("status", .nat status), ("message", .plain envelope.message),
             ("message_code", .quoted (envelope.messageCode.getD ""))] }])

/-- The outcome of an action. The body of a success is not looked at. -/
def receiveAction (status : Nat) (body : Except String (List UInt8)) :
    Except LedgerError Unit × Log :=
  if status = 200 then (.ok (), [])
  else (.error (refusal status body).1, (refusal status body).2)

/-- The outcome of a query. -/
def receiveTransactions (status : Nat) (body : Except String (List UInt8)) :
    Except LedgerError TransactionsResponse × Log :=
  if status = 200 then
    match body with
    | .error reason => (.error (.bodyRead reason), [])
    | .ok bytes =>
      match TransactionsResponse.codec.decode bytes with
      | .error fault => (.error (.bodyRead fault.message), [])
      | .ok response => (.ok response, [])
  else (.error (refusal status body).1, (refusal status body).2)

/-! ## Calls -/

/-- **An action.** Its input goes as the body of a request to the path of the action. -/
def act (c : LedgerClient) (send : HttpRequest → HttpReply) (command : LedgerCommand) :
    LedgerExchange Unit :=
  match checked command.violations with
  | .error violations => { outcome := .error (.validation violations) }
  | .ok () =>
    let url := c.endpoint command.action.segments
    let entry : LogEntry :=
      { source := .client, level := .debug, message := "sending ledger action"
        fields := [("action", .plain command.action.name), ("url", .plain url.text)] }
    exchange send url (request .post url [identity] (some command.body)) [entry] receiveAction

/-- The parameters of a query for transactions. -/
def queryParameters (q : TransactionsQuery) : List (String × String) :=
  [("companyCode", q.companyCode), ("fromDate", historyStart), identity]

/-- **The query for transactions.** The customer is a segment of the path and the company a
parameter. -/
def transactions (c : LedgerClient) (send : HttpRequest → HttpReply) (q : TransactionsQuery) :
    LedgerExchange TransactionsResponse :=
  match checked q.violations with
  | .error violations => { outcome := .error (.validation violations) }
  | .ok () =>
    let url := c.endpoint [LedgerAction.collection, q.customerCode]
    let entry : LogEntry :=
      { source := .client, level := .debug, message := "querying ledger transactions"
        fields := [("url", .plain url.text), ("company_code", .plain q.companyCode)] }
    exchange send url (request .get url (queryParameters q) none) [entry] receiveTransactions

end LedgerClient

end PenaltySettlement
