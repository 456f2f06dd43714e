import PenaltySettlement.Batch

/-!
# The command line

The program with its arguments, its environment, the file of events and its output streams. This
build has no transport to a ledger, so each request ends as one that found nobody to answer it.

## Main definitions

* `main` — the program.
-/

set_option autoImplicit false

namespace PenaltySettlement.Program

/-- What the program writes about its own use. -/
def usageText : String :=
  "Finalizes penalty payments from payment-completion events\n\n" ++
  "Usage: penalty-payments [OPTIONS] --ledger-url <LEDGER_URL>\n\n" ++
  "Options:\n" ++
  "      --ledger-url <LEDGER_URL>                    Base URL of the financial ledger API\n" ++
  "      --ledger-timeout-secs <LEDGER_TIMEOUT_SECS>  Ledger request timeout, in seconds\n" ++
  "      --db-path <DB_PATH>                          Path to persistent database\n" ++
  "      --events <EVENTS>                            Payment events, one on each line\n" ++
  "      --partition <PARTITION>                      Partition to consume\n" ++
  "      --restart-backoff-ms <RESTART_BACKOFF_MS>    Pause before a restart, in milliseconds\n" ++
  "      --exit-when-drained                          Shut down after the last event\n" ++
  "  -h, --help                                       Print help\n" ++
  "  -V, --version                                    Print version"

/-- The version of the program. -/
def versionText : String := "penalty-payments 0.1.0"

/-- What the program writes when it does not get its configuration. -/
def faultText : CommandLineFault → String
  | .helpAsked => usageText
  | .versionAsked => versionText
  | .unknownArgument => "error: unexpected argument found"
  | .valueMissing => "error: a value is required but none was supplied"
  | .valueMalformed => "error: invalid value"
  | .valueUnneeded => "error: unexpected value found"
  | .repeated => "error: an argument cannot be used multiple times"
  | .required => "error: required arguments were not provided: --ledger-url <LEDGER_URL>"

/-- The contents of a file, if it can be read. -/
def contents? (path : String) : IO (Option (List UInt8)) := do
  try
    let bytes ← IO.FS.readBinFile path
    pure (some bytes.toList)
  catch _ => pure none

/-- Waits for an end that comes from outside. -/
partial def waitForEnd : IO UInt32 := do
  IO.sleep 60000
  waitForEnd

end PenaltySettlement.Program

open PenaltySettlement

/-- **The program.** No document is created while it runs, so that it never looks at the clock. -/
def main (arguments : List String) : IO UInt32 := do
  let mut environment : List (String × String) := []
  for (_, name) in Configuration.environmentNames do
    if let some value := ← IO.getEnv name then
      environment := (name, value) :: environment
  match Configuration.read arguments fun name => environment.lookup name with
  | .error fault =>
    if fault.exitCode = 0 then IO.println (Program.faultText fault)
    else IO.eprintln (Program.faultText fault)
    pure fault.exitCode.toUInt32
  | .ok configuration =>
    let contents ←
      match configuration.events with
      | some path => Program.contents? path
      | none => pure none
    let reply : Nat → HttpRequest → HttpReply := fun _ r => .failed (LedgerClient.unreachable r)
    let report := Batch.run configuration default reply contents
    for line in Batch.lines report.log do
      IO.eprintln line
    match report.exitCode with
    | some code => pure code.toUInt32
    | none => Program.waitForEnd
