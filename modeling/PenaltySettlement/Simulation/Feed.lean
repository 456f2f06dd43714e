import PenaltySettlement.Consumer

/-!
# A feed of messages

A source whose messages are known beforehand, together with the errors of its subscription and its
commits. It keeps a list of what the consumer has done. Behind the last item nothing comes any
more.

## Main definitions

* `FeedItem` — a message, an error in its place, or the end.
* `Feed` — what is still to come and what has been done.
* `Feed.consume` — the consumer of a feed.
-/

set_option autoImplicit false

namespace PenaltySettlement

/-- What a feed gives when it is asked for the next message. -/
inductive FeedItem where
  | message (m : Message)
  | failure (reason : String)
  | finish
  deriving Repr

/-- What the consumer has done. -/
inductive FeedEvent where
  | subscribed
  | settled (paymentId : String)
  | committed (offset : Nat)
  | closed
  deriving DecidableEq, Repr

/-- What comes of settling an event of a feed, and whether the work is cancelled by it. -/
structure FeedOutcome where
  outcome : Except Breakdown (Except SettlementError Unit)
  cancels : Bool := false

/-- What is still to come and what has been done. -/
structure Feed where
  partition : Int
  items : List FeedItem
  subscribeError : Option String := none
  commitErrors : List (Nat × String) := []
  settle : PenaltyPaymentEvent → FeedOutcome
  cancelAt : Nat
  cancelled : Bool := false
  now : Nat := 0
  events : List FeedEvent := []

namespace Feed

/-- Adds to the list of what has been done. -/
def record (f : Feed) (event : FeedEvent) : Feed := { f with events := f.events ++ [event] }

/-- A feed as a source of messages. -/
def source : MessageSource Feed where
  subscribe f :=
    let f := f.record .subscribed
    match f.subscribeError with
    | some reason => (.error (.subscribe f.partition reason), f, [])
    | none => (.ok (), f, [])
  next f :=
    match f.items with
    | [] => (.pending, f)
    | .message m :: items => (.message m, { f with items })
    | .failure reason :: items => (.failed (.receive reason), { f with items })
    | .finish :: items => (.ended, { f with items })
  commit offset f :=
    let f := f.record (.committed offset)
    match f.commitErrors.lookup offset with
    | some reason => (.error (.commit offset reason), f)
    | none => (.ok (), f)
  close f := (f.record .closed, [])
  release f := f

/-- What the consumer works in. -/
def surroundings : Consumer.Surroundings Feed where
  source
  cancelled f := f.cancelled || f.cancelAt ≤ f.now
  settle event f :=
    let result := f.settle event
    (result.outcome,
      { f.record (.settled event.paymentId) with cancelled := f.cancelled || result.cancels }, [])
  await f := if f.now < f.cancelAt then some { f with now := f.cancelAt } else none

/-- **The consumer of a feed.** -/
def consume (f : Feed) : RunEnd DeliveryError × Feed × Log :=
  Consumer.run surroundings (3 * f.items.length + 5) .starting f

end Feed

end PenaltySettlement
