import PenaltySettlement.Simulation.World

/-!
# Activities at the same time

Activities that run at the same time share a world. Each goes on until the ledger lets it wait, and
the one that has waited to the earliest time goes on first; of several with the same time, the one
that comes first in the list.

## Main definitions

* `Strand` — an activity that has ended or waits for the ledger.
* `World.proceed` — an activity up to its next wait.
* `World.concurrently` — activities at the same time.
-/

set_option autoImplicit false

namespace PenaltySettlement

/-- An activity that has ended, or that waits until the ledger's turn for it is over. -/
inductive Strand (α : Type) where
  | ended (result : Except Breakdown α)
  | waiting (due : Nat) (turn : LedgerTurn)
      (next : Except LedgerError TransactionsResponse → Activity α)

/-- A call of the ledger that has its answer at once, or the turn to wait for. -/
inductive CallProgress where
  | answered (answer : Except Breakdown (Except LedgerError TransactionsResponse))
  | taking (turn : LedgerTurn)

namespace World

/-- A call of the ledger up to its first wait. -/
def tryCall (w : World) (call : LedgerCall) : CallProgress × World :=
  match checked call.violations with
  | .error violations => (.answered (.ok (.error (.validation violations))), w)
  | .ok () =>
    let (turn, w) := w.beginCall call
    if turn.delayMs = 0 then
      let (answer, w) := w.endTurn turn
      (.answered answer, w)
    else (.taking turn, w)

/-- **An activity up to its next wait.** -/
def proceed {α : Type} (w : World) : Activity α → Strand α × World
  | .done result => (.ended (.ok result), w)
  | .note entry rest => (w.write [entry]).proceed rest
  | .ask (.accounts action) next =>
    let (answer, w) := w.storeStep .accounts action
    w.proceed (next answer)
  | .ask (.payables action) next =>
    let (answer, w) := w.storeStep .payables action
    w.proceed (next answer)
  | .ask .time next => w.proceed (next w.clock)
  | .ask (.confirm input) next =>
    match w.tryCall (.confirm input) with
    | (.taking turn, w) =>
      (.waiting (w.now + turn.delayMs) turn fun answer => next (answer.map fun _ => ()), w)
    | (.answered (.ok answer), w) => w.proceed (next (answer.map fun _ => ()))
    | (.answered (.error breakdown), w) => (.ended (.error breakdown), w)
  | .ask (.transactions query) next =>
    match w.tryCall (.transactions query) with
    | (.taking turn, w) => (.waiting (w.now + turn.delayMs) turn next, w)
    | (.answered (.ok answer), w) => w.proceed (next answer)
    | (.answered (.error breakdown), w) => (.ended (.error breakdown), w)

/-- All activities up to their first waits, one after the other. -/
def start {α : Type} (w : World) : List (Activity α) → List (Strand α) × World
  | [] => ([], w)
  | activity :: activities =>
    let (strand, w) := w.proceed activity
    let (strands, w) := w.start activities
    (strand :: strands, w)

/-- The earliest time that a strand waits for. -/
def earliest? {α : Type} (strands : List (Strand α)) : Option Nat :=
  (strands.filterMap fun
    | .ended _ => none
    | .waiting due _ _ => some due).min?

/-- Lets the first strand that waits for a time go on. -/
def wake {α : Type} (w : World) (time : Nat) : List (Strand α) → List (Strand α) × World
  | [] => ([], w)
  | .ended result :: strands =>
    let (strands, w) := w.wake time strands
    (.ended result :: strands, w)
  | .waiting due turn next :: strands =>
    if due = time then
      match { w with now := max w.now time }.endTurn turn with
      | (.ok answer, w) =>
        let (strand, w) := w.proceed (next answer)
        (strand :: strands, w)
      | (.error breakdown, w) => (.ended (.error breakdown) :: strands, w)
    else
      let (strands, w) := w.wake time strands
      (.waiting due turn next :: strands, w)

/-- Wakes strands until none waits. One unit of fuel is spent on each. -/
def wakeAll {α : Type} : Nat → World → List (Strand α) → List (Strand α) × World
  | 0, w, strands => (strands, w)
  | fuel + 1, w, strands =>
    match earliest? strands with
    | none => (strands, w)
    | some time =>
      let (strands, w) := w.wake time strands
      wakeAll fuel w strands

/-- **Activities at the same time**, each of which calls the ledger at most once. -/
def concurrently {α : Type} (w : World) (activities : List (Activity α)) :
    List (Except Breakdown α) × World × Log :=
  w.logged fun w =>
    let (strands, w) := w.start activities
    let (strands, w) := wakeAll activities.length w strands
    (strands.filterMap fun
      | .ended result => some result
      | .waiting _ _ _ => none, w)

end World

end PenaltySettlement
