import PenaltySettlement.Number.Power
import PenaltySettlement.CommandLine
import PenaltySettlement.Number.Digits

/-!
# Configuration

What the program is told on its command line and in its environment. Each option has a long name,
some can be given by a variable of the environment instead, and an option on the command line wins
over its variable.

The value of an option is taken when the next option starts or the command line ends; until then an
argument that is not understood is the greater fault.

## Main definitions

* `Configuration` — what the program works with.
* `Configuration.read` — the configuration of a command line and an environment.
-/

set_option autoImplicit false

namespace PenaltySettlement

/-- What the program works with. -/
structure Configuration where
  ledgerUrl : String
  ledgerTimeoutSecs : Nat
  dbPath : Option String
  events : Option String
  partition : Int
  restartBackoffMs : Nat
  exitWhenDrained : Bool
  deriving DecidableEq, Repr

namespace Configuration

/-- How long a ledger request may take, in milliseconds. -/
def ledgerTimeoutMs (c : Configuration) : Nat := c.ledgerTimeoutSecs * 1000

/-- An option that has a value. -/
inductive Parameter where
  | ledgerUrl
  | ledgerTimeoutSecs
  | dbPath
  | events
  | partition
  | restartBackoffMs
  deriving DecidableEq, Repr

/-- An option that has none. -/
inductive Switch where
  | exitWhenDrained
  | help
  | version
  deriving DecidableEq, Repr

/-- The parameter with a long name. -/
def Parameter.ofName? : String → Option Parameter
  | "ledger-url" => some .ledgerUrl
  | "ledger-timeout-secs" => some .ledgerTimeoutSecs
  | "db-path" => some .dbPath
  | "events" => some .events
  | "partition" => some .partition
  | "restart-backoff-ms" => some .restartBackoffMs
  | _ => none

/-- The switch with a long name. -/
def Switch.ofName? : String → Option Switch
  | "exit-when-drained" => some .exitWhenDrained
  | "help" => some .help
  | "version" => some .version
  | _ => none

/-- The switch with a letter. -/
def Switch.ofLetter? : Char → Option Switch
  | 'h' => some .help
  | 'V' => some .version
  | _ => none

/-- The parameters that have a variable in the environment, with its name. -/
def environmentNames : List (Parameter × String) :=
  [(.ledgerUrl, "LEDGER_URL"), (.ledgerTimeoutSecs, "LEDGER_TIMEOUT_SECS"), (.dbPath, "DB_PATH")]

/-! ## Values -/

/-- The integer that a text writes in decimal digits with an optional sign. -/
def integer? (text : String) : Option Int :=
  let magnitude? (digits : List Char) : Option Nat :=
    match Digits.span digits with
    | (_ :: _, []) => some (Digits.toNat (Digits.span digits).1)
    | _ => none
  match text.toList with
  | '-' :: digits => (magnitude? digits).map fun n => -(n : Int)
  | '+' :: digits => (magnitude? digits).map Int.ofNat
  | digits => (magnitude? digits).map Int.ofNat

/-- A natural below 2^64. It has no minus sign, not even for zero. -/
def word? (text : String) : Option Nat :=
  match integer? text with
  | some (.ofNat n) => if n < twoPow 64 ∧ text.front ≠ '-' then some n else none
  | _ => none

/-- An integer that 32 bits hold. -/
def partition? (text : String) : Option Int :=
  (integer? text).filter fun n => -(twoPow 31 : Int) ≤ n && n < twoPow 31

/-- What the options say so far. -/
structure Settings where
  ledgerUrl : Option String := none
  ledgerTimeoutSecs : Option Nat := none
  dbPath : Option String := none
  events : Option String := none
  partition : Option Int := none
  restartBackoffMs : Option Nat := none
  exitWhenDrained : Bool := false
  deriving DecidableEq, Repr

namespace Settings

/-- Whether a parameter has been given. -/
def has (s : Settings) : Parameter → Bool
  | .ledgerUrl => s.ledgerUrl.isSome
  | .ledgerTimeoutSecs => s.ledgerTimeoutSecs.isSome
  | .dbPath => s.dbPath.isSome
  | .events => s.events.isSome
  | .partition => s.partition.isSome
  | .restartBackoffMs => s.restartBackoffMs.isSome

/-- A value, if there is one. -/
def wellFormed {α : Type} (value : Option α) : Except CommandLineFault α :=
  match value with
  | some value => .ok value
  | none => .error .valueMalformed

/-- A path, which has to have a character. -/
def path (text : String) : Except CommandLineFault String :=
  if text = "" then .error .valueMissing else .ok text

/-- Takes the value of a parameter that has none yet. -/
def assign (s : Settings) (parameter : Parameter) (text : String) :
    Except CommandLineFault Settings := do
  if s.has parameter then throw .repeated
  match parameter with
  | .ledgerUrl => pure { s with ledgerUrl := some text }
  | .ledgerTimeoutSecs => pure { s with ledgerTimeoutSecs := some (← wellFormed (word? text)) }
  | .dbPath => pure { s with dbPath := some (← path text) }
  | .events => pure { s with events := some (← path text) }
  | .partition => pure { s with partition := some (← wellFormed (partition? text)) }
  | .restartBackoffMs => pure { s with restartBackoffMs := some (← wellFormed (word? text)) }

/-- Turns a switch on. -/
def turnOn (s : Settings) : Switch → Except CommandLineFault Settings
  | .help => .error .helpAsked
  | .version => .error .versionAsked
  | .exitWhenDrained =>
    if s.exitWhenDrained then .error .repeated else .ok { s with exitWhenDrained := true }

end Settings

/-! ## Reading -/

/-- How far a command line has been read: the settings, and the parameter whose value has not been
taken yet, with that value if it has come. -/
structure Reading where
  settings : Settings := {}
  unsettled : Option (Parameter × Option String) := none
  ended : Bool := false
  deriving DecidableEq, Repr

namespace Reading

/-- Takes the value of the parameter that waits for it. -/
def settle (r : Reading) : Except CommandLineFault Reading :=
  match r.unsettled with
  | none => .ok r
  | some (_, none) => .error .valueMissing
  | some (parameter, some text) => do
    pure { r with settings := ← r.settings.assign parameter text, unsettled := none }

/-- Turns a switch on. -/
def turnOn (r : Reading) (switch : Switch) : Except CommandLineFault Reading := do
  let r ← r.settle
  pure { r with settings := ← r.settings.turnOn switch }

/-- Reads a group of letters. -/
def letters (r : Reading) : List Char → Except CommandLineFault Reading
  | [] => .ok r
  | letter :: rest =>
    match Switch.ofLetter? letter with
    | some switch => do letters (← r.turnOn switch) rest
    | none => .error .unknownArgument

/-- Reads a long option. -/
def long (r : Reading) (name : String) (value : Option String) :
    Except CommandLineFault Reading :=
  match Parameter.ofName? name, Switch.ofName? name, value with
  | some parameter, _, none => do
    pure { ← r.settle with unsettled := some (parameter, none) }
  | some parameter, _, some text => do
    let r ← r.settle
    pure { r with settings := ← r.settings.assign parameter text }
  | none, some switch, none => r.turnOn switch
  | none, some _, some _ => .error .valueUnneeded
  | none, none, _ => .error .unknownArgument

/-- Reads an argument. A word is the value of a parameter that waits for one, and nothing else. -/
def argument (r : Reading) (text : String) : Except CommandLineFault Reading :=
  if r.ended then .error .unknownArgument
  else
    match Argument.ofText text with
    | .terminator => .ok { r with ended := true }
    | .long name value => r.long name value
    | .short letters => r.letters letters
    | .word text =>
      match r.unsettled with
      | some (parameter, none) => .ok { r with unsettled := some (parameter, some text) }
      | _ => .error .unknownArgument

end Reading

/-- Takes the value of a variable for a parameter that is not on the command line. -/
def fromVariable (environment : String → Option String) (s : Settings)
    (binding : Parameter × String) : Except CommandLineFault Settings :=
  match environment binding.2 with
  | some text => if s.has binding.1 then .ok s else s.assign binding.1 text
  | none => .ok s

/-- The configuration that settings give; the address of the ledger has to be among them. -/
def ofSettings (s : Settings) : Except CommandLineFault Configuration :=
  match s.ledgerUrl with
  | none => .error .required
  | some ledgerUrl =>
    .ok {
      ledgerUrl
      ledgerTimeoutSecs := s.ledgerTimeoutSecs.getD 30
      dbPath := s.dbPath
      events := s.events
      partition := s.partition.getD 0
      restartBackoffMs := s.restartBackoffMs.getD 1000
      exitWhenDrained := s.exitWhenDrained }

/-- **The configuration of a command line and an environment.** -/
def read (arguments : List String) (environment : String → Option String) :
    Except CommandLineFault Configuration := do
  let reading ← arguments.foldlM Reading.argument {}
  let reading ← reading.settle
  let settings ← environmentNames.foldlM (fromVariable environment) reading.settings
  ofSettings settings

end Configuration

end PenaltySettlement
