import PenaltySettlement.Json.Record

/-!
# JSON values of any shape

Where a record admits any JSON at all, it keeps it as a value: a tree of lists and objects. The
members of an object are kept in the order of their keys; of members with the same key the last
one counts.

## Main definitions

* `Json.Value` — the values.
* `Json.Value.codec` — reading and writing them.
-/

set_option autoImplicit false

namespace PenaltySettlement.Json

/-- A JSON value. -/
inductive Value where
  | null
  | boolean (value : Bool)
  | number (value : Number)
  | text (value : String)
  | list (elements : List Value)
  | object (members : List (String × Value))
  deriving Repr, Inhabited

namespace Value

/-- The members of an object with one more: it takes the place of a member with the same key, or
else the place that its key has in the order. -/
def insert (key : String) (value : Value) : List (String × Value) → List (String × Value)
  | [] => [(key, value)]
  | (other, old) :: members =>
    if key < other then (key, value) :: (other, old) :: members
    else if key = other then (key, value) :: members
    else (other, old) :: insert key value members

/-- Reads the remaining members of an object and its closing bracket; `found` holds those read so
far. -/
def readMembers (item : TokenReader Value) :
    (fuel : Nat) → (first : Bool) → (found : List (String × Value)) →
      TokenReader (List (String × Value))
  | 0, _, _, _ => .error (.ends .object)
  | fuel + 1, first, found, tokens =>
    match nextKey first tokens with
    | .error fault => .error fault
    | .ok (none, rest) => .ok (found, rest)
    | .ok (some key, rest) =>
      match (behindColon rest).bind item with
      | .error fault => .error fault
      | .ok (value, rest) => readMembers item fuel false (insert key value found) rest

/-- Reads a value whose lists and objects nest to at most the given number of levels, less one. -/
def read : Reader Value
  | 0, _ => .error .tooDeep
  | levels + 1, tokens =>
    match tokens with
    | .null :: rest => .ok (.null, rest)
    | .boolean value :: rest => .ok (.boolean value, rest)
    | .number numeral :: rest =>
      (Number.ofNumeral numeral).map fun number => (.number number, rest)
    | .text raw :: rest => (readText true raw).map fun s => (.text s, rest)
    | .openList :: rest =>
      if levels = 0 then .error .tooDeep
      else
        (Json.readElements (read levels) (rest.length + 1) true [] rest).map
          fun (elements, rest) => (.list elements, rest)
    | .openObject :: rest =>
      if levels = 0 then .error .tooDeep
      else
        (readMembers (read levels) (rest.length + 1) true [] rest).map
          fun (members, rest) => (.object members, rest)
    | _ => .error (mismatch "any value" tokens)

mutual

/-- A value as tokens. -/
def write : Value → List Token
  | .null => [.null]
  | .boolean value => [.boolean value]
  | .number value => [.number value.numeral]
  | .text value => [.ofText value]
  | .list elements =>
    .openList :: List.intercalate [.comma] (writeElements elements) ++ [.closeList]
  | .object members =>
    .openObject :: List.intercalate [.comma] (writeMembers members) ++ [.closeObject]

/-- The elements of a list as tokens. -/
def writeElements : List Value → List (List Token)
  | [] => []
  | value :: values => write value :: writeElements values

/-- The members of an object as tokens. -/
def writeMembers : List (String × Value) → List (List Token)
  | [] => []
  | (key, value) :: members => (.ofText key :: .colon :: write value) :: writeMembers members

end

/-- The codec of values of any shape. -/
def codec : Codec Value where
  read := read
  write := write

end Value

end PenaltySettlement.Json
