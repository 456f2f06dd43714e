import PenaltySettlement.Log

/-!
# The supervisor

A supervisor keeps a task running: whenever a run of the task ends, however it ends, a new one is
started after a pause. Only cancellation stops it, and cancellation also cuts the pause short. A
run that breaks down does not take the supervisor with it.

## Main definitions

* `Breakdown`, `RunEnd` — the ways in which a run ends.
* `Fault` — the end of a run other than its success.
* `Supervisor` — a supervisor between two of its steps.
* `Supervisor.begin`, `Supervisor.runEnded`, `Supervisor.rested` — the steps.
* `Supervisor.run` — the supervisor in its surroundings.
-/

set_option autoImplicit false

namespace PenaltySettlement

/-- What a task that breaks down leaves behind: a text, or something that is none. -/
inductive Breakdown where
  | text (message : String)
  | other
  deriving DecidableEq, Repr

/-- The wording of a breakdown. -/
def Breakdown.message : Breakdown → String
  | .text message => message
  | .other => "non-string panic payload"

/-- How a run ends other than with success. -/
inductive Fault where
  | failed (reason : String)
  | brokeDown (message : String)
  | aborted
  deriving DecidableEq, Repr

/-- The wording of a fault. -/
def Fault.message : Fault → String
  | .failed reason => "failed: " ++ reason
  | .brokeDown message => "panicked: " ++ message
  | .aborted => "aborted"

/-- How a run ends: it returns, it breaks down, or it is taken off before its end. -/
inductive RunEnd (ε : Type) where
  | returned (outcome : Except ε Unit)
  | brokeDown (breakdown : Breakdown)
  | takenOff
  deriving Repr

/-- **The outcome of a guarded run.** -/
def RunEnd.guarded {ε : Type} (message : ε → String) : RunEnd ε → Except Fault Unit
  | .returned (.ok ()) => .ok ()
  | .returned (.error e) => .error (.failed (message e))
  | .brokeDown breakdown => .error (.brokeDown breakdown.message)
  | .takenOff => .error .aborted

/-- The pause before a restart, in milliseconds, unless another one is asked for. -/
def defaultBackoffMs : Nat := 1000

/-- Where a supervisor is in its work. -/
inductive SupervisorPhase where
  | ready
  | running
  | resting
  | stopped
  deriving DecidableEq, Repr

/-- A supervisor. -/
structure Supervisor where
  name : String
  backoffMs : Nat := defaultBackoffMs
  phase : SupervisorPhase := .ready
  restarts : Nat := 0
  deriving DecidableEq, Repr

namespace Supervisor

/-- What a supervisor shows of its phase. -/
def state (s : Supervisor) : String :=
  match s.phase with
  | .stopped => "Stopped"
  | .ready | .running | .resting => "Running"

/-- A log entry with the supervisor's name in front of the fields. -/
def entry (s : Supervisor) (level : LogLevel) (message : String)
    (fields : List (String × LogValue)) : LogEntry :=
  { source := .supervisor, level, message, fields := ("supervised", .plain s.name) :: fields }

/-- The entry about the start of the supervisor. -/
def started (s : Supervisor) : LogEntry := s.entry .info "supervisor started" []

/-- Starts a run, or stops once the work is cancelled. -/
def begin (s : Supervisor) (cancelled : Bool) : Supervisor × Log :=
  if cancelled then
    ({ s with phase := .stopped },
      [s.entry .info "supervisor stopped" [("restarts", .nat s.restarts)]])
  else ({ s with phase := .running }, [])

/-- **The end of a run.** After cancellation a run that succeeded needs no pause. -/
def runEnded (s : Supervisor) (cancelled : Bool) : Except Fault Unit → Supervisor × Log
  | .ok () =>
    if cancelled then ({ s with phase := .ready }, [])
    else
      ({ s with phase := .resting },
        [s.entry .warn "supervised task returned, restarting"
          [("backoff_ms", .nat s.backoffMs)]])
  | .error fault =>
    ({ s with phase := .resting },
      [s.entry .error "supervised task faulted, restarting"
        [("fault", .plain fault.message), ("backoff_ms", .nat s.backoffMs)]])

/-- The end of a pause, either because it has elapsed, which counts as a restart, or because the
work has been cancelled. -/
def rested (s : Supervisor) (elapsed : Bool) : Supervisor :=
  { s with phase := .ready, restarts := if elapsed then s.restarts + 1 else s.restarts }

/-- What a supervisor works in: whether the work is cancelled, a run of the task, and a pause of
some milliseconds, which tells whether it elapsed before the work was cancelled. -/
structure Surroundings (ω : Type) where
  cancelled : ω → Bool
  runTask : ω → Except Fault Unit × ω × Log
  rest : Nat → ω → Bool × ω

/-- **The supervisor in its surroundings.** One unit of fuel is spent on each step. -/
def run {ω : Type} (around : Surroundings ω) : Nat → Supervisor → ω → Supervisor × ω × Log
  | 0, s, world => (s, world, [])
  | fuel + 1, s, world =>
    match s.phase with
    | .stopped => (s, world, [])
    | .ready =>
      let (s, log) := s.begin (around.cancelled world)
      let (s, world, more) := run around fuel s world
      (s, world, log ++ more)
    | .running =>
      let (outcome, world, log) := around.runTask world
      let (s, ending) := s.runEnded (around.cancelled world) outcome
      let (s, world, more) := run around fuel s world
      (s, world, log ++ ending ++ more)
    | .resting =>
      let (elapsed, world) := around.rest s.backoffMs world
      run around fuel (s.rested elapsed) world

end Supervisor

end PenaltySettlement
