import PenaltySettlement.Json.Quoted

/-!
# Values that nobody reads

The value of a member that a record does not know is checked for its syntax only: brackets have to
match and commas and colons to stand in their places, to any depth. A pushdown machine does this,
one token at a time.

## Main definitions

* `Json.Broken.fault`, `Json.Broken.skipFault` — what is wrong where no token starts.
* `Json.Skip.step` — one token of a value that is passed over.
* `Json.skipValue` — the tokens behind a value.
-/

set_option autoImplicit false

namespace PenaltySettlement.Json

/-- The fault of a broken token for a reader of its value. -/
def Broken.fault : Broken → Fault
  | .word _ true => .ends .value
  | .word _ false => .expectedWord
  | .number fault _ => fault
  | .text raw =>
    match readText false raw with
    | .error fault => fault
    | .ok _ => .ends .text
  | .byte => .expectedValue

/-- The fault of a broken token for a check of the syntax. -/
def Broken.skipFault : Broken → Fault
  | .number _ fault => fault
  | .text raw =>
    match closingQuote [] raw with
    | .error fault => fault
    | .ok _ => .ends .text
  | what => what.fault

namespace Skip

/-- An open bracket. -/
inductive Bracket where
  | list
  | object
  deriving DecidableEq, Repr

/-- What may come next. -/
inductive Awaiting where
  | value
  /-- A value or the end of a list that was just opened. -/
  | firstValue
  | key
  /-- A key or the end of an object that was just opened. -/
  | firstKey
  | colon
  /-- A comma or the end of what is open. -/
  | separator
  deriving DecidableEq, Repr

/-- What may come next and the brackets that are open, innermost first. -/
structure State where
  awaiting : Awaiting
  opened : List Bracket
  deriving DecidableEq, Repr

/-- The state behind a complete value; none when it is the whole value. -/
def afterValue : List Bracket → Option State
  | [] => none
  | opened => some ⟨.separator, opened⟩

/-- The fault of a text that is over here. -/
def State.ended (s : State) : Fault :=
  match s.awaiting, s.opened with
  | .value, _ => .ends .value
  | .firstValue, _ => .ends .list
  | .key, _ | .firstKey, _ | .colon, _ => .ends .object
  | .separator, .object :: _ => .ends .object
  | .separator, _ => .ends .list

/-- A token where a value is awaited. -/
def stepValue (opened : List Bracket) : Token → Except Fault (Option State)
  | .null | .boolean _ | .number _ | .text _ => .ok (afterValue opened)
  | .openList => .ok (some ⟨.firstValue, .list :: opened⟩)
  | .openObject => .ok (some ⟨.firstKey, .object :: opened⟩)
  | .broken what => .error what.skipFault
  | _ => .error .expectedValue

/-- A token where a key is awaited. -/
def stepKey (opened : List Bracket) : Token → Except Fault (Option State)
  | .text _ => .ok (some ⟨.colon, opened⟩)
  | .broken (.text raw) => .error (Broken.text raw).skipFault
  | _ => .error .keyNotText

/-- A token behind a complete element or member. -/
def stepSeparator (token : Token) : List Bracket → Except Fault (Option State)
  | .list :: outer =>
    match token with
    | .comma => .ok (some ⟨.value, .list :: outer⟩)
    | .closeList => .ok (afterValue outer)
    | _ => .error .expectedListEnd
  | .object :: outer =>
    match token with
    | .comma => .ok (some ⟨.key, .object :: outer⟩)
    | .closeObject => .ok (afterValue outer)
    | _ => .error .expectedObjectEnd
  | [] => .ok none

/-- **One token.** The next state, none when the token completes the value. -/
def step (s : State) (token : Token) : Except Fault (Option State) :=
  match s.awaiting with
  | .value => stepValue s.opened token
  | .firstValue =>
    if token = .closeList then .ok (afterValue s.opened.tail) else stepValue s.opened token
  | .key => stepKey s.opened token
  | .firstKey =>
    if token = .closeObject then .ok (afterValue s.opened.tail) else stepKey s.opened token
  | .colon => if token = .colon then .ok (some ⟨.value, s.opened⟩) else .error .expectedColon
  | .separator => stepSeparator token s.opened

/-- Runs the machine to the end of the value. -/
def run (s : State) : List Token → Except Fault (List Token)
  | [] => .error s.ended
  | token :: rest =>
    match step s token with
    | .error fault => .error fault
    | .ok none => .ok rest
    | .ok (some s) => run s rest

end Skip

/-- The tokens behind the value at the start. -/
def skipValue (tokens : List Token) : Except Fault (List Token) := Skip.run ⟨.value, []⟩ tokens

end PenaltySettlement.Json
