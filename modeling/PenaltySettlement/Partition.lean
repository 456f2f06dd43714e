import PenaltySettlement.Log

/-!
# The partition

A partition is a list of payloads that only grows; the place of a payload is its offset. Reading
goes through a subscription, which starts behind the last committed offset and delivers the
payloads in their order. At most one subscription is active at a time.

## Main definitions

* `Partition` — the payloads and what has been committed.
* `Subscription` — a place in a partition.
* `Partition.subscribe`, `Partition.next`, `Partition.commit`, `Partition.closeSubscription`,
  `Partition.dropSubscription` — the life of a subscription.
-/

set_option autoImplicit false

namespace PenaltySettlement

/-- What can go wrong with the delivery of messages. -/
inductive DeliveryError where
  | subscribe (partition : Int) (reason : String)
  | receive (reason : String)
  | commit (offset : Nat) (reason : String)
  | subscriptionClosed
  deriving DecidableEq, Repr

/-- The wording of an error. -/
def DeliveryError.message : DeliveryError → String
  | .subscribe partition reason => s!"failed to subscribe to partition {partition}: " ++ reason
  | .receive reason => "failed to receive from partition: " ++ reason
  | .commit offset reason => s!"failed to commit offset {offset}: " ++ reason
  | .subscriptionClosed => "partition subscription closed"

/-- A payload with its offset. -/
structure Message where
  offset : Nat
  payload : List UInt8
  deriving DecidableEq, Repr

/-- What comes of asking for the next message. -/
inductive Receipt where
  | message (m : Message)
  | pending
  | ended
  | failed (e : DeliveryError)
  deriving DecidableEq, Repr

/-- A list of payloads, the last offset that has been committed, and whether there is an active
subscription. -/
structure Partition where
  number : Int
  messages : Array (List UInt8) := #[]
  closed : Bool := false
  committed : Option Nat := none
  subscribed : Bool := false
  deriving DecidableEq, Repr

/-- A place in a partition. -/
structure Subscription where
  position : Nat
  closed : Bool := false
  deriving DecidableEq, Repr

namespace Partition

/-- The number of payloads. -/
def size (p : Partition) : Nat := p.messages.size

/-- Adds a payload. Its offset is the size so far. -/
def publish (p : Partition) (payload : List UInt8) : Partition :=
  { p with messages := p.messages.push payload }

/-- Lets subscriptions end after the last payload. -/
def close (p : Partition) : Partition := { p with closed := true }

/-- The offset behind the last committed one. -/
def resumption (p : Partition) : Nat :=
  match p.committed with
  | some offset => offset + 1
  | none => 0

/-- **A new subscription**, if none is active. -/
def subscribe (p : Partition) : Except DeliveryError Subscription × Partition × Log :=
  if p.subscribed then
    (.error (.subscribe p.number "partition already has an active subscription"), p, [])
  else
    (.ok { position := p.resumption }, { p with subscribed := true },
      [{ source := .partition, level := .debug, message := "subscribed to memory partition"
         fields := [("partition", .plain s!"{p.number}"), ("position", .nat p.resumption)] }])

/-- Why a closed subscription gives nothing. -/
def closedReason : String := "subscription is closed"

/-- **The next message** of a subscription, which moves behind it. -/
def next (p : Partition) (s : Subscription) : Receipt × Subscription :=
  if s.closed then (.failed (.receive closedReason), s)
  else
    match p.messages[s.position]? with
    | some payload => (.message ⟨s.position, payload⟩, { s with position := s.position + 1 })
    | none => (if p.closed then .ended else .pending, s)

/-- Why a subscription cannot commit an offset, if it cannot. -/
def commitRefusal (s : Subscription) (offset : Nat) : Option String :=
  if s.closed then some closedReason
  else if s.position ≤ offset then some "offset has not been delivered"
  else none

/-- **A commit** of an offset that the subscription has delivered. An earlier offset than the
committed one changes nothing. -/
def commit (p : Partition) (s : Subscription) (offset : Nat) :
    Except DeliveryError Unit × Partition :=
  match commitRefusal s offset with
  | some reason => (.error (.commit offset reason), p)
  | none => (.ok (), { p with committed := some (max offset (p.committed.getD 0)) })

/-- A subscription that is given up; if it was still open there is no active one now. -/
def dropSubscription (p : Partition) (s : Subscription) : Partition :=
  if s.closed then p else { p with subscribed := false }

/-- The end of a subscription, with a report each time. -/
def closeSubscription (p : Partition) (s : Subscription) : Subscription × Partition × Log :=
  ({ s with closed := true }, p.dropSubscription s,
    [{ source := .partition, level := .debug, message := "memory subscription closed"
       fields := [("position", .nat s.position)] }])

end Partition

end PenaltySettlement
