import PenaltySettlement.Json.Value

/-!
# Error envelopes

The body of every answer of the ledger other than a success. All its members may be missing.

## Main definitions

* `ErrorEnvelope` — the envelope, and `SubError` one of the errors it lists.
* `ErrorEnvelope.describe` — the envelope in one line.
-/

set_option autoImplicit false

namespace PenaltySettlement

open Json (Codec)

/-- An error on one field of a request. -/
structure SubError where
  object : String
  field : String
  rejectedValue : Option Json.Value
  message : String
  deriving Repr

/-- The body of an answer that is not a success. -/
structure ErrorEnvelope where
  httpStatusCode : Nat
  status : String
  timestamp : Option String
  messageCode : Option String
  message : String
  debugMessage : Option String
  subErrors : List SubError
  deriving Repr

/-- The codec of the errors on fields. -/
def SubError.codec : Codec SubError :=
  .record "SubError"
    (.cons (.defaulted "object" .text "") <|
      .cons (.defaulted "field" .text "") <|
      .cons (.defaulted "rejectedValue" (.option Json.Value.codec) none) <|
      .cons (.defaulted "message" .text "") .nil)
    (fun (object, field, rejectedValue, message, ()) => { object, field, rejectedValue, message })
    (fun e => (e.object, e.field, e.rejectedValue, e.message, ()))

namespace ErrorEnvelope

/-- The codec of envelopes. -/
def codec : Codec ErrorEnvelope :=
  .record "ErrorEnvelope"
    (.cons (.defaulted "httpStatusCode" (.natural "u16" (twoPow 16 - 1)) 0) <|
      .cons (.defaulted "status" .text "") <|
      .cons (.defaulted "timestamp" (.option .text) none) <|
      .cons (.defaulted "messageCode" (.option .text) none) <|
      .cons (.defaulted "message" .text "") <|
      .cons (.defaulted "debugMessage" (.option .text) none) <|
      .cons (.defaulted "subErrors" (.nullAs [] (.list SubError.codec)) []) .nil)
    (fun (httpStatusCode, status, timestamp, messageCode, message, debugMessage, subErrors, ()) =>
      { httpStatusCode, status, timestamp, messageCode, message, debugMessage, subErrors })
    (fun e =>
      (e.httpStatusCode, e.status, e.timestamp, e.messageCode, e.message, e.debugMessage,
        e.subErrors, ()))

/-- Status and message, and the code of the message in brackets where there is one. -/
def describe (e : ErrorEnvelope) : String :=
  e.status ++ " " ++ e.message ++
    match e.messageCode with
    | some code => " [" ++ code ++ "]"
    | none => ""

end ErrorEnvelope

end PenaltySettlement
