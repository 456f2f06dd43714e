import PenaltySettlement.Consumer

/-!
# A world in virtual time

The service with everything that it works with: stores, a partition, a ledger that follows a script
and a clock that moves only when all work waits. The script has a turn for each call of the ledger;
in its turn the ledger takes some time, may do something elsewhere, and then answers. A call with
an input that breaks a rule never reaches the ledger and takes no turn.

## Main definitions

* `LedgerTurn` — what the ledger does with one call.
* `World` — the state of everything.
* `World.take` — a step of an activity.
* `World.perform` — an activity on its own.
-/

set_option autoImplicit false

namespace PenaltySettlement

/-- The two families of records, by the use that is made of them. -/
inductive RecordFamily where
  | accounts
  | payables
  deriving DecidableEq, Repr

/-- The stores of a world: one for all records, or one for each family. -/
inductive Stores where
  | shared (store : Store)
  | split (accounts payables : Store)
  deriving DecidableEq

namespace Stores

/-- The store for a family. -/
def get : Stores → RecordFamily → Store
  | .shared store, _ => store
  | .split accounts _, .accounts => accounts
  | .split _ payables, .payables => payables

/-- The stores with another one for a family. -/
def set : Stores → RecordFamily → Store → Stores
  | .shared _, _, store => .shared store
  | .split _ payables, .accounts, store => .split store payables
  | .split accounts _, .payables, store => .split accounts store

end Stores

/-- What a turn of the ledger does elsewhere. -/
inductive TurnEffect where
  | shutDown (family : RecordFamily)
  | cancel
  | closePartition
  | publish (payload : List UInt8)
  | createAccount (document : AccountPenalties)
  deriving Repr

/-- How a turn of the ledger ends. The response is for queries; an action is just accepted. -/
inductive TurnEnd where
  | accept (response : TransactionsResponse)
  | refuse (e : LedgerError)
  | breakDown (b : Breakdown)
  deriving Repr

/-- What the ledger does with one call. -/
structure LedgerTurn where
  delayMs : Nat := 0
  effect : Option TurnEffect := none
  ending : TurnEnd := .accept .empty
  deriving Repr

/-- A call that has reached the ledger. -/
inductive LedgerCall where
  | confirm (input : PaymentActionInput)
  | transactions (query : TransactionsQuery)
  deriving DecidableEq, Repr

/-- The rules that the input of a call breaks. -/
def LedgerCall.violations : LedgerCall → List Violation
  | .confirm input => input.violations
  | .transactions query => query.violations

/-- The state of everything. Times of the simulation are milliseconds; `clock` is what a look at
the clock gives. -/
structure World where
  clock : Instant
  stores : Stores
  connection : Partition.Connection
  subscriptions : Table String Subscription := .empty
  turns : List LedgerTurn := []
  calls : List LedgerCall := []
  created : Nat := 0
  now : Nat := 0
  cancelAt : Option Nat := none
  cancelled : Bool := false
  log : Log := []

namespace World

/-- The world at a later time, with the work that runs cancelled if the time for that has come. -/
def passTo (w : World) (time : Nat) : World :=
  { w with now := time, cancelled := w.cancelled || w.cancelAt.any (· ≤ time) }

/-- Adds to the log. -/
def write (w : World) (log : Log) : World := { w with log := w.log ++ log }

/-- A step of a store. -/
def storeStep (w : World) (family : RecordFamily) (action : StoreAction) :
    Except StoreError action.Result × World :=
  let step := (w.stores.get family).perform action
  (step.outcome, { w with stores := w.stores.set family step.store }.write step.log)

/-! ## The ledger -/

/-- The beginning of a call: it is recorded and takes a turn, or one without delay and effect when
the script is used up. -/
def beginCall (w : World) (call : LedgerCall) : LedgerTurn × World :=
  let w := { w with calls := w.calls ++ [call] }
  match w.turns with
  | [] => ({}, w)
  | turn :: turns => (turn, { w with turns })

/-- What a turn does elsewhere. -/
def applyEffect (w : World) : TurnEffect → World
  | .shutDown family => (w.storeStep family .shutDown).2
  | .cancel => { w with cancelled := true }
  | .closePartition =>
    { w with connection := { w.connection with partition := w.connection.partition.close } }
  | .publish payload =>
    { w with connection :=
        { w.connection with partition := w.connection.partition.publish payload } }
  | .createAccount document => (w.storeStep .accounts (.createAccount document)).2

/-- The end of a turn, once its time has passed. -/
def endTurn (w : World) (turn : LedgerTurn) :
    Except Breakdown (Except LedgerError TransactionsResponse) × World :=
  let w := (turn.effect.map w.applyEffect).getD w
  match turn.ending with
  | .accept response => (.ok (.ok response), w)
  | .refuse e => (.ok (.error e), w)
  | .breakDown b => (.error b, w)

/-- A call from its beginning to its end. -/
def callLedger (w : World) (call : LedgerCall) :
    Except Breakdown (Except LedgerError TransactionsResponse) × World :=
  match checked call.violations with
  | .error violations => (.ok (.error (.validation violations)), w)
  | .ok () =>
    let (turn, w) := w.beginCall call
    (w.passTo (w.now + turn.delayMs)).endTurn turn

/-! ## Activities -/

/-- Work in a world that may break down. -/
abbrev Work := ExceptT Breakdown (StateM World)

/-- **A step of an activity.** -/
def take : (question : Ask) → Work question.Answer
  | .accounts action => fun w => let (answer, w) := w.storeStep .accounts action; (.ok answer, w)
  | .payables action => fun w => let (answer, w) := w.storeStep .payables action; (.ok answer, w)
  | .confirm input => fun w =>
    let (answer, w) := w.callLedger (.confirm input)
    (answer.map fun outcome => outcome.map fun _ => (), w)
  | .transactions query => fun w => w.callLedger (.transactions query)
  | .time => fun w => (.ok w.clock, w)

/-- Puts the log of some work beside its result. -/
def logged {α : Type} (w : World) (work : World → α × World) : α × World × Log :=
  let (result, after) := work { w with log := [] }
  (result, { after with log := w.log }, after.log)

/-- **An activity on its own**, with its result or the breakdown of the ledger. -/
def perform {α : Type} (w : World) (activity : Activity α) : Except Breakdown α × World × Log :=
  w.logged (Activity.run take (fun entry w => (.ok (), w.write [entry])) activity)

/-- A step of a store on its own. -/
def performStep (w : World) (family : RecordFamily) (action : StoreAction) :
    Except StoreError action.Result × World × Log :=
  w.logged fun w => w.storeStep family action

/-- Creation of a payable resource with the next free identifier. -/
def createPayable (w : World) (resource : PayableResource) :
    Except StoreError PayableResource × World × Log :=
  let (outcome, after, log) :=
    w.performStep .payables (.createPayable s!"id#{w.created + 1}" resource)
  match outcome with
  | .ok stored => (.ok stored, { after with created := w.created + 1 }, log)
  | .error e => (.error e, after, log)

/-! ## Runs of the consumer -/

/-- Lets a step of the connection act on the world that it is in. -/
def within {α : Type} (step : Partition.Connection → α × Partition.Connection) (w : World) :
    α × World :=
  let (result, connection) := step w.connection
  (result, { w with connection })

/-- The partition as the consumer reads it. -/
def source : MessageSource World where
  subscribe w :=
    let (outcome, connection, log) := w.connection.subscribe
    (outcome, { w with connection }, log)
  next := within Partition.Connection.next
  commit offset := within (Partition.Connection.commit offset)
  close w :=
    let (connection, log) := w.connection.close
    ({ w with connection }, log)
  release w := { w with connection := w.connection.release }

/-- What the consumer works in. It can wait for nothing but cancellation. -/
def consumerSurroundings : Consumer.Surroundings World where
  source
  cancelled := cancelled
  settle event w := w.perform (Settlement.settle event)
  await w := (w.cancelAt.filter (w.now < ·)).map w.passTo

/-- More messages than a consumer can take: those that are there and one for each turn of the
ledger. -/
def messageBound (w : World) : Nat := w.connection.partition.size + w.turns.length + 1

/-- **A run of the consumer.** -/
def runConsumer (w : World) : RunEnd DeliveryError × World × Log :=
  Consumer.run consumerSurroundings (3 * w.messageBound + 5) .starting w

/-- What the supervisor of the consumer works in. A pause ends early when cancellation comes before
its end. Of the end of a pause and a cancellation at the same time, the end of the pause comes
first, also when the pause takes no time; a run starts behind such a cancellation. -/
def supervisorSurroundings : Supervisor.Surroundings World where
  cancelled := cancelled
  runTask w :=
    let (ending, w, log) := (w.passTo w.now).runConsumer
    (ending.guarded DeliveryError.message, w, log)
  rest pause w :=
    let finish := w.now + pause
    match (if w.cancelled then some w.now else w.cancelAt).filter (· < finish) with
    | some time => (false, w.passTo time)
    | none => (true, { w with now := finish })

/-- The world with the work that starts now to be cancelled after some milliseconds. -/
def cancelAfter (w : World) (ms : Nat) : World :=
  { w with cancelAt := some (w.now + ms), cancelled := false }.passTo w.now

/-- **The consumer under a supervisor** until it is cancelled, after some milliseconds at the
latest. -/
def runSupervised (w : World) (s : Supervisor) (ms : Nat) : Supervisor × World × Log :=
  let (s, w, log) :=
    Supervisor.run supervisorSurroundings (3 * (ms + w.messageBound + 2)) s (w.cancelAfter ms)
  (s, w, log)

/-- A single run of the consumer, guarded, which is cancelled after some milliseconds. -/
def runGuarded (w : World) (ms : Nat) : Except Fault Unit × World × Log :=
  supervisorSurroundings.runTask (w.cancelAfter ms)

/-! ## Named subscriptions -/

/-- Opens a subscription under a name; one that had the name is given up. -/
def subscribe (w : World) (name : String) : Except DeliveryError Unit × World × Log :=
  match w.connection.partition.subscribe with
  | (.error e, _, log) => (.error e, w, log)
  | (.ok s, p, log) =>
    let p := ((w.subscriptions.find? name).map p.dropSubscription).getD p
    (.ok (), { w with
      connection := { w.connection with partition := p }
      subscriptions := w.subscriptions.insert name s }, log)

/-- The next message of a subscription. -/
def next (w : World) (name : String) (s : Subscription) : Receipt × World :=
  let (receipt, s) := w.connection.partition.next s
  (receipt, { w with subscriptions := w.subscriptions.insert name s })

/-- A commit through a subscription. -/
def commit (w : World) (s : Subscription) (offset : Nat) : Except DeliveryError Unit × World :=
  let (outcome, p) := w.connection.partition.commit s offset
  (outcome, { w with connection := { w.connection with partition := p } })

/-- Closes a subscription, which keeps its name. -/
def closeSubscription (w : World) (name : String) (s : Subscription) : World × Log :=
  let (s, p, log) := w.connection.partition.closeSubscription s
  ({ w with
      connection := { w.connection with partition := p }
      subscriptions := w.subscriptions.insert name s }, log)

/-- Gives a subscription up together with its name. -/
def dropSubscription (w : World) (name : String) (s : Subscription) : World :=
  { w with
    connection := { w.connection with partition := w.connection.partition.dropSubscription s }
    subscriptions := w.subscriptions.erase name }

end World

end PenaltySettlement
