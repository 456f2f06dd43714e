import PenaltySettlement.Partition
import PenaltySettlement.Settlement
import PenaltySettlement.Supervisor

/-!
# The consumer

The consumer takes messages from a source, one at a time, and has each payment event settled. A
message that is no event and an event that cannot be settled are reported and then committed like
all others, so that they do not come again. Cancellation is seen only between messages: a message
that is being worked on is finished and committed first.

## Main definitions

* `MessageSource` — what the consumer reads from.
* `ConsumerPhase` — where the consumer is in its work.
* `Consumer.advance`, `Consumer.settled` — its steps.
* `Consumer.run` — the consumer in its surroundings.
-/

set_option autoImplicit false

namespace PenaltySettlement

/-- A source of messages and the one subscription that the consumer has to it. A subscription that
is released is gone without a report. -/
structure MessageSource (σ : Type) where
  subscribe : σ → Except DeliveryError Unit × σ × Log
  next : σ → Receipt × σ
  commit : Nat → σ → Except DeliveryError Unit × σ
  close : σ → σ × Log
  release : σ → σ

/-- Where a consumer is in its work: before its subscription, between two messages, with an event
that is being settled, with a message that is to be committed, or at the end. -/
inductive ConsumerPhase where
  | starting
  | receiving
  | settling (offset : Nat) (event : PenaltyPaymentEvent)
  | committing (offset : Nat)
  | ended (outcome : Except DeliveryError Unit)
  deriving Repr

/-- The place where a step leaves a consumer and its source, with the log. -/
structure ConsumerStep (σ : Type) where
  phase : ConsumerPhase
  source : σ
  log : Log := []

namespace Consumer

/-- A log entry of the consumer. -/
def entry (level : LogLevel) (message : String) (fields : List (String × LogValue)) : LogEntry :=
  { source := .consumer, level, message, fields }

/-- The wording of the fault of a payload that is no event. -/
def undecodable (fault : Json.Fault) : String :=
  "failed to decode penalty payment event: " ++ fault.message

/-- The work on a message: it is settled if it is an event, and reported otherwise. -/
def take (m : Message) : ConsumerPhase × Log :=
  match PenaltyPaymentEvent.decode m.payload with
  | .ok event => (.settling m.offset event, [])
  | .error fault =>
    (.committing m.offset,
      [entry .warn "dropping undecodable message"
        [("offset", .nat m.offset), ("error", .plain (undecodable fault))]])

/-- The end of the consumer together with its subscription. -/
def finish {σ : Type} (source : MessageSource σ) (s : σ) (outcome : Except DeliveryError Unit)
    (more : Log) : ConsumerStep σ :=
  let (s, log) := source.close s
  { phase := .ended outcome, source := s, log := log ++ more }

/-- **A step of the consumer** on its own. There is none while no message has come, while an event
is being settled and after the end. -/
def advance {σ : Type} (source : MessageSource σ) (cancelled : Bool) (s : σ) :
    ConsumerPhase → Option (ConsumerStep σ)
  | .starting =>
    match source.subscribe s with
    | (.error e, s, log) => some { phase := .ended (.error e), source := s, log }
    | (.ok (), s, log) =>
      some {
        phase := .receiving, source := s
        log := log ++ [entry .info "payment consumer subscribed" []] }
  | .receiving =>
    if cancelled then
      some (finish source s (.ok ()) [entry .info "payment consumer shutting down" []])
    else
      match source.next s with
      | (.pending, _) => none
      | (.ended, s) => some (finish source s (.error .subscriptionClosed) [])
      | (.failed e, s) => some (finish source s (.error e) [])
      | (.message m, s) =>
        let (phase, log) := take m
        some { phase, source := s, log }
  | .committing offset =>
    match source.commit offset s with
    | (.ok (), s) => some { phase := .receiving, source := s }
    | (.error e, s) => some { phase := .ended (.error e), source := source.release s }
  | .settling _ _ => none
  | .ended _ => none

/-- **The end of the work on an event**, which is committed whatever has come of it. -/
def settled (offset : Nat) (event : PenaltyPaymentEvent) (outcome : Except SettlementError Unit) :
    ConsumerPhase × Log :=
  (.committing offset,
    match outcome with
    | .ok () =>
      [entry .info "payment event processed"
        [("offset", .nat offset), ("payment_id", .plain event.paymentId)]]
    | .error e =>
      [entry .error "failed to process payment event"
        [("offset", .nat offset), ("customer_code", .plain event.customerCode),
          ("company_code", .plain event.companyCode), ("payment_id", .plain event.paymentId),
          ("error", .plain e.message)]])

/-- What a consumer works in: its source, whether the work is cancelled, the settling of an event,
which may break down, and the time until something happens, if there is anything to wait for. -/
structure Surroundings (ω : Type) where
  source : MessageSource ω
  cancelled : ω → Bool
  settle : PenaltyPaymentEvent → ω → Except Breakdown (Except SettlementError Unit) × ω × Log
  await : ω → Option ω

/-- **The consumer in its surroundings.** A breakdown ends it and releases its subscription. One
unit of fuel is spent on each step; a consumer that runs out of it, or that waits for something
that never happens, is taken off. -/
def run {ω : Type} (around : Surroundings ω) :
    Nat → ConsumerPhase → ω → RunEnd DeliveryError × ω × Log
  | 0, _, world => (.takenOff, around.source.release world, [])
  | fuel + 1, phase, world =>
    match phase with
    | .ended outcome => (.returned outcome, world, [])
    | .settling offset event =>
      match around.settle event world with
      | (.error breakdown, world, log) =>
        (.brokeDown breakdown, around.source.release world, log)
      | (.ok outcome, world, log) =>
        let (phase, report) := settled offset event outcome
        let (result, world, more) := run around fuel phase world
        (result, world, log ++ report ++ more)
    | phase =>
      match advance around.source (around.cancelled world) world phase with
      | some step =>
        let (result, world, more) := run around fuel step.phase step.source
        (result, world, step.log ++ more)
      | none =>
        match around.await world with
        | some world => run around fuel phase world
        | none => (.takenOff, around.source.release world, [])

end Consumer

/-! ## Reading from a partition -/

/-- A partition with a subscription to it, if there is one. -/
structure Partition.Connection where
  partition : Partition
  subscription : Option Subscription := none
  deriving DecidableEq, Repr

namespace Partition.Connection

/-- Opens a subscription. -/
def subscribe (c : Connection) : Except DeliveryError Unit × Connection × Log :=
  match c.partition.subscribe with
  | (.ok s, p, log) => (.ok (), { partition := p, subscription := some s }, log)
  | (.error e, p, log) => (.error e, { c with partition := p }, log)

/-- The next message of the subscription. -/
def next (c : Connection) : Receipt × Connection :=
  match c.subscription with
  | none => (.pending, c)
  | some s =>
    let (receipt, s) := c.partition.next s
    (receipt, { c with subscription := some s })

/-- A commit through the subscription. -/
def commit (offset : Nat) (c : Connection) : Except DeliveryError Unit × Connection :=
  match c.subscription with
  | none => (.error (.commit offset Partition.closedReason), c)
  | some s =>
    let (outcome, p) := c.partition.commit s offset
    (outcome, { c with partition := p })

/-- Closes the subscription. -/
def close (c : Connection) : Connection × Log :=
  match c.subscription with
  | none => (c, [])
  | some s =>
    let (_, p, log) := c.partition.closeSubscription s
    ({ partition := p, subscription := none }, log)

/-- Gives the subscription up. -/
def release (c : Connection) : Connection :=
  match c.subscription with
  | none => c
  | some s => { partition := c.partition.dropSubscription s, subscription := none }

/-- A partition as a source of messages. -/
def source : MessageSource Connection := { subscribe, next, commit, close, release }

end Partition.Connection

end PenaltySettlement
