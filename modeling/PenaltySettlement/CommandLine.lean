/-!
# Command lines

An argument is a long option, a group of one-letter options, the mark behind which nothing is an
option any more, or a plain word. A long option may carry its value behind an equals sign.

## Main definitions

* `Argument` — the kinds of arguments.
* `Argument.ofText` — the kind of a text.
* `CommandLineFault` — why a program does not start with the arguments that it got.
-/

set_option autoImplicit false

namespace PenaltySettlement

/-- What a text on the command line is. -/
inductive Argument where
  | terminator
  | long (name : String) (value : Option String)
  | short (letters : List Char)
  | word (text : String)
  deriving DecidableEq, Repr

/-- Why a program does not start: a fault in its arguments, or a text that is asked for
instead. -/
inductive CommandLineFault where
  | helpAsked
  | versionAsked
  | unknownArgument
  | valueMissing
  | valueMalformed
  | valueUnneeded
  | repeated
  | required
  deriving DecidableEq, Repr

/-- **The kind of an argument.** One dash alone is a word. -/
def Argument.ofText (text : String) : Argument :=
  match text.toList with
  | ['-', '-'] => .terminator
  | '-' :: '-' :: rest =>
    let name := rest.takeWhile (· != '=')
    match rest.dropWhile (· != '=') with
    | [] => .long (String.ofList name) none
    | _ :: value => .long (String.ofList name) (some (String.ofList value))
  | '-' :: letter :: letters => .short (letter :: letters)
  | _ => .word text

end PenaltySettlement
