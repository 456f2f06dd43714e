import PenaltySettlement.Configuration
import PenaltySettlement.Consumer
import PenaltySettlement.Ledger.Client

/-!
# The program

The program puts the events of a file into a partition, a line each, and lets a supervised consumer
settle them with the ledger. It can be told to end when all of them have been committed.

## Main definitions

* `StartFault` — why the program does not get to work.
* `Batch.eventLines` — the events of a file.
* `Batch.run` — the program.
-/

set_option autoImplicit false

namespace PenaltySettlement

/-- Why the program does not get to work. -/
inductive StartFault where
  | baseUrl (e : InvalidBaseUrl)
  | unreadableEvents
  deriving Repr

/-- The exit code of a program that does not get its configuration. -/
def CommandLineFault.exitCode : CommandLineFault → Nat
  | .helpAsked | .versionAsked => 0
  | .unknownArgument | .valueMissing | .valueMalformed | .valueUnneeded | .repeated
  | .required => 2

/-- The exit code of a program that does not get to work. -/
def StartFault.exitCode : StartFault → Nat
  | .baseUrl _ | .unreadableEvents => 1

namespace Batch

/-- The state of the program: what it has, the requests that it has made, and whether its work is
cancelled. The reply to a request depends on how many there were before. Between two steps the
watch that waits for the last commit may take a look at the partition, or not. -/
structure State where
  client : LedgerClient
  reply : Nat → HttpRequest → HttpReply
  clock : Instant
  exitWhenDrained : Bool
  looks : List Bool := []
  connection : Partition.Connection
  store : Store := {}
  requests : List HttpRequest := []
  cancelled : Bool := false
  log : Log := []

namespace State

/-- Adds to the log. -/
def write (s : State) (log : Log) : State := { s with log := s.log ++ log }

/-- A step of the store. -/
def storeStep (s : State) (action : StoreAction) : Except StoreError action.Result × State :=
  let step := s.store.perform action
  (step.outcome, { s with store := step.store }.write step.log)

/-- A call of the ledger through the client. -/
def callLedger {α : Type} (s : State) (call : (HttpRequest → HttpReply) → LedgerExchange α) :
    Except LedgerError α × State :=
  let exchange := call (s.reply s.requests.length)
  (exchange.outcome,
    { s with requests := s.requests ++ exchange.requests }.write exchange.log)

/-- A step of an activity. -/
def take : (question : Ask) → StateM State question.Answer
  | .accounts action => fun s => s.storeStep action
  | .payables action => fun s => s.storeStep action
  | .confirm input => fun s => s.callLedger fun send => s.client.act send (.confirm input)
  | .transactions query => fun s => s.callLedger fun send => s.client.transactions send query
  | .time => fun s => (s.clock, s)

/-- The settling of an event. -/
def settle (event : PenaltyPaymentEvent) (s : State) :
    Except SettlementError Unit × State × Log :=
  let (outcome, after) :=
    Activity.run take (fun entry s => ((), s.write [entry])) (Settlement.settle event)
      { s with log := [] }
  (outcome, { after with log := s.log }, after.log)

/-- Whether all messages have been committed. -/
def drained (s : State) : Bool :=
  let p := s.connection.partition
  p.size = 0 || p.committed = some (p.size - 1)

/-- What happens before the next step: the watch may take a look. Where the program is to end after
the last message, the work is cancelled when the look finds all of them committed. -/
def elapse (s : State) : State :=
  match s.looks with
  | [] => s
  | look :: looks =>
    { s with looks, cancelled := s.cancelled || (look && s.exitWhenDrained && s.drained) }

/-- Lets a step of the connection act on the state that it is in. -/
def within {α : Type} (step : Partition.Connection → α × Partition.Connection) (s : State) :
    α × State :=
  let (result, connection) := step s.connection
  (result, { s with connection }.elapse)

/-- The partition as the consumer reads it. -/
def source : MessageSource State where
  subscribe s :=
    let (outcome, connection, log) := s.connection.subscribe
    (outcome, { s with connection }.elapse, log)
  next := within Partition.Connection.next
  commit offset := within (Partition.Connection.commit offset)
  close s :=
    let (connection, log) := s.connection.close
    ({ s with connection }, log)
  release s := { s with connection := s.connection.release }

/-- What the consumer works in. While it waits, a look is taken at some time. -/
def consumerSurroundings : Consumer.Surroundings State where
  source
  cancelled := cancelled
  settle event s :=
    let (outcome, s, log) := s.settle event
    (.ok outcome, s.elapse, log)
  await s := if s.exitWhenDrained && s.drained then some { s with cancelled := true } else none

/-- A run of the consumer. -/
def consume (s : State) : RunEnd DeliveryError × State × Log :=
  Consumer.run consumerSurroundings (3 * s.connection.partition.size + 5) .starting s

/-- What the supervisor of the consumer works in. -/
def supervisorSurroundings : Supervisor.Surroundings State where
  cancelled := cancelled
  runTask s :=
    let (ending, s, log) := s.consume
    (ending.guarded DeliveryError.message, s, log)
  rest _ s := (!s.cancelled, s)

end State

/-! ## The start -/

/-- The events of a text: its lines without white space at their ends, unless nothing is left. -/
def eventLines (text : List Char) : List String :=
  ((text.splitOn '\n').map fun line => Text.trim (String.ofList line)).filter (· ≠ "")

/-- The entry about a database that the program cannot open. -/
def databaseEntry (path : String) : LogEntry :=
  { source := .program, level := .warn
    message := "Persistent storage requested via --db-path, but 'storage-rocksdb' feature " ++
      "is not enabled. Falling back to In-Memory storage."
    fields := [("db_path", .plain path)] }

/-- What the program has before it works: the partition with all events, and the log so far. -/
def seed (c : Configuration) (contents : Option (List UInt8)) :
    Except StartFault Partition × Log :=
  let warnings := c.dbPath.toList.map databaseEntry
  let empty : Partition := { number := c.partition }
  match c.events with
  | none => (.ok empty, warnings)
  | some path =>
    match contents.bind Utf8.decode? with
    | none => (.error .unreadableEvents, warnings)
    | some text =>
      let p := (eventLines text.toList).foldl (fun p line => p.publish (Utf8.encode line)) empty
      (.ok p, warnings ++ [{
        source := .program, level := .info, message := "partition seeded"
        fields := [("events", .nat p.size), ("path", .plain path)] }])

/-! ## The whole program -/

/-- What comes of the program: its exit code, or none when it does not come to an end, as when it
waits for messages that nobody sends, the number of restarts, the partition, the requests that it
made and the log. -/
structure Report where
  exitCode : Option Nat
  restarts : Nat := 0
  partition : Option Partition := none
  requests : List HttpRequest := []
  log : Log := []

/-- The work of the program that has been started. -/
def work (c : Configuration) (s : State) : Report :=
  let supervisor : Supervisor := { name := "payment-consumer", backoffMs := c.restartBackoffMs }
  if c.exitWhenDrained then
    let (after, s, log) := Supervisor.run State.supervisorSurroundings 4 supervisor s.elapse
    let shutDown := s.store.shutDown
    { exitCode := if after.phase = .stopped then some 0 else none
      restarts := after.restarts, partition := some s.connection.partition
      requests := s.requests, log := supervisor.started :: log ++ shutDown.log }
  else
    let (_, s, log) := s.consume
    { exitCode := none, partition := some s.connection.partition, requests := s.requests
      log := supervisor.started :: log }

/-- **The program** with a configuration and the contents of the file of events, if it could be
read. Looks at the partition may be taken between its steps. -/
def run (c : Configuration) (clock : Instant) (reply : Nat → HttpRequest → HttpReply)
    (contents : Option (List UInt8)) (looks : List Bool := []) : Report :=
  match LedgerClient.new c.ledgerUrl with
  | .error e => { exitCode := some (StartFault.baseUrl e).exitCode }
  | .ok client =>
    match seed c contents with
    | (.error fault, log) => { exitCode := some fault.exitCode, log }
    | (.ok partition, log) =>
      let report := work c
        { client, reply, clock, exitWhenDrained := c.exitWhenDrained, looks,
          connection := { partition } }
      { report with log := log ++ report.log }

/-- The lines that the program writes about its work; details for debugging are left out. -/
def lines (log : Log) : List String :=
  (log.filter fun entry => entry.level ≠ .debug).map LogEntry.line

end Batch

end PenaltySettlement
