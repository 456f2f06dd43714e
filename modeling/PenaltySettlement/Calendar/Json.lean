import PenaltySettlement.Calendar.Reader
import PenaltySettlement.Json.Record

/-!
# Dates and instants in JSON

Both are texts.

## Main definitions

* `Date.codec`, `Instant.codec` — the codecs.
-/

set_option autoImplicit false

namespace PenaltySettlement

/-- Dates. -/
def Date.codec : Json.Codec Date :=
  .ofText "a formatted date string"
    (fun text => (Date.parse text).mapError fun fault => .custom fault.message) Date.text

/-- Instants. -/
def Instant.codec : Json.Codec Instant :=
  .ofText "an RFC 3339 formatted date and time string"
    (fun text => (Instant.parse text).mapError fun fault => .custom fault.message) Instant.text

end PenaltySettlement
