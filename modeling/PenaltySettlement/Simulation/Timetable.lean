import PenaltySettlement.Supervisor

/-!
# Runs of known length

A supervisor whose runs are known beforehand: how long each takes, how it ends, and whether it
cancels the work itself or waits for its cancellation.

## Main definitions

* `PlannedRun` — a run.
* `Timetable` — the runs still to come, the time, and the time of cancellation.
* `Timetable.supervise` — the supervisor of these runs.
-/

set_option autoImplicit false

namespace PenaltySettlement

/-- A run that is known beforehand. Without an ending it goes on until it is taken off. -/
structure PlannedRun where
  cancels : Bool := false
  untilCancelled : Bool := false
  delayMs : Nat := 0
  ending : Option (RunEnd String)
  deriving Repr

/-- How a run ends that may be taken off before. -/
def PlannedRun.guarded (r : PlannedRun) (takenOff : Bool) : Except Fault Unit :=
  if takenOff then RunEnd.takenOff.guarded (ε := String) id
  else (r.ending.getD .takenOff).guarded id

/-- The runs still to come, of which the last one is repeated, and the starts of those before. The
work is cancelled at a time, if at all, or by a run. -/
structure Timetable where
  runs : List PlannedRun
  cancelAt : Option Nat := none
  cancelled : Bool := false
  now : Nat := 0
  starts : List Nat := []
  deriving Repr

namespace Timetable

/-- The timetable at a later time, with the work cancelled if the time for that has come. -/
def passTo (t : Timetable) (time : Nat) : Timetable :=
  { t with now := time, cancelled := t.cancelled || t.cancelAt.any (· ≤ time) }

/-- The next run, and the timetable without it unless it is the last one. -/
def nextRun (t : Timetable) : PlannedRun × Timetable :=
  match t.runs with
  | [] => ({ ending := some (.returned (.ok ())) }, t)
  | [run] => (run, t)
  | run :: runs => (run, { t with runs })

/-- A run from its start to its end. It starts behind a cancellation of the same time. One that
waits for a cancellation that never comes is taken off. -/
def runTask (t : Timetable) : Except Fault Unit × Timetable × Log :=
  let (run, t) := t.nextRun
  let t :=
    { t with starts := t.starts ++ [t.now], cancelled := t.cancelled || run.cancels }.passTo t.now
  match if run.untilCancelled && !t.cancelled then t.cancelAt else some t.now with
  | some time => (run.guarded false, t.passTo (time + run.delayMs), [])
  | none => (run.guarded true, t, [])

/-- A pause, which ends early when cancellation comes before its end. Of the end of a pause and a
cancellation at the same time, the end of the pause comes first; so a pause of no time comes to its
end also when the work has been cancelled. -/
def rest (pause : Nat) (t : Timetable) : Bool × Timetable :=
  let finish := t.now + pause
  match (if t.cancelled then some t.now else t.cancelAt).filter (· < finish) with
  | some time => (false, t.passTo time)
  | none => (true, { t with now := finish })

/-- What the supervisor works in. -/
def surroundings : Supervisor.Surroundings Timetable where
  cancelled := cancelled
  runTask := runTask
  rest := rest

/-- Steps enough for a supervisor that is cancelled: each restart takes up a millisecond or a run of
the list. -/
def stepBound (t : Timetable) : Nat := 3 * (t.cancelAt.getD 0 + t.runs.length + 2)

/-- **The supervisor of the runs.** -/
def supervise (t : Timetable) (s : Supervisor) : Supervisor × Timetable × Log :=
  Supervisor.run surroundings t.stepBound s (t.passTo t.now)

end Timetable

end PenaltySettlement
