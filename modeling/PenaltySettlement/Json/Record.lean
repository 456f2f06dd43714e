import PenaltySettlement.Json.Codec

/-!
# Records

A record is read from an object, whose members may come in any order and among others that the
record does not know, or from a list of its members in their order. It is written as an object,
its members in their order.

## Main definitions

* `Json.Member` — one member of a record.
* `Json.Members` — the members of a record.
* `Json.Codec.record` — the codec of a record.

## Implementation notes

The values of the members form a right-nested tuple, closed by a unit. While an object is read, the
values found so far form a tuple of the same shape with an option in each place.
-/

set_option autoImplicit false

namespace PenaltySettlement.Json

/-- **A member of a record.** A member with an alias is also read under that key. The two absent
values are taken when an object does not have the member and when a list is too short for it;
where there is none, that is a fault. A member whose value is in `omitted` is not written. -/
structure Member (α : Type) where
  name : String
  codec : Codec α
  aliasKey : Option String := none
  whenAbsent : Option α := none
  whenShort : Option α := none
  omitted : α → Bool := fun _ => false

/-- The members of a record with values `ρ`; `δ` holds the values found so far. -/
inductive Members : Type → Type → Type 1 where
  | nil : Members Unit Unit
  | cons {α ρ δ : Type} (member : Member α) (others : Members ρ δ) :
      Members (α × ρ) (Option α × δ)

namespace Member

/-- A member that has to be there. -/
def required {α : Type} (name : String) (codec : Codec α) : Member α where
  name := name
  codec := codec

/-- A member that may be left out of objects and of lists. -/
def defaulted {α : Type} (name : String) (codec : Codec α) (default : α) : Member α where
  name := name
  codec := codec
  whenAbsent := some default
  whenShort := some default

/-- A member without a value when left out of an object; a list has to have it. -/
def optional {α : Type} (name : String) (codec : Codec α) : Member (Option α) where
  name := name
  codec := codec.option
  whenAbsent := some none

/-- Whether the member is read under a key. -/
def hasKey {α : Type} (m : Member α) (key : String) : Bool :=
  key == m.name || m.aliasKey == some key

end Member

namespace Members

/-- The number of members. -/
def length {ρ δ : Type} : Members ρ δ → Nat
  | .nil => 0
  | .cons _ others => others.length + 1

/-- No value found yet. -/
def blank {ρ δ : Type} : Members ρ δ → δ
  | .nil => ()
  | .cons _ others => (none, others.blank)

/-- Reads the value of the member with the given key, from its colon on; none if no member has the
key. A member that was found before is a fault. -/
def readMember {ρ δ : Type} (key : String) (levels : Nat) (tokens : List Token) :
    (members : Members ρ δ) → (found : δ) → Option (Except Fault (δ × List Token))
  | .nil, _ => none
  | .cons member others, (value, found) =>
    if member.hasKey key then
      some <|
        if value.isSome then .error (.repeatedMember member.name)
        else
          match tokens with
          | [] => .error (.ends .object)
          | .colon :: rest =>
            (member.codec.read levels rest).map fun (value, rest) => ((some value, found), rest)
          | _ => .error .expectedColon
    else
      (readMember key levels tokens others found).map fun result =>
        result.map fun (found, rest) => ((value, found), rest)

/-- The values of all members, those not found taking their absent values. -/
def complete {ρ δ : Type} : (members : Members ρ δ) → (found : δ) → Except Fault ρ
  | .nil, _ => .ok ()
  | .cons member others, (value, found) =>
    match value.or member.whenAbsent with
    | some value => (complete others found).map fun values => (value, values)
    | none => .error (.missingMember member.name)

/-- Reads the values from the elements of a list; `index` is the place of the first of them. -/
def readElements {ρ δ : Type} (expected : String) (levels index : Nat) :
    (members : Members ρ δ) → TokenReader ρ
  | .nil, tokens => .ok ((), tokens)
  | .cons member others, tokens =>
    match nextElement (index == 0) tokens with
    | .error fault => .error fault
    | .ok none =>
      match member.whenShort with
      | some value =>
        (readElements expected levels (index + 1) others tokens).map
          fun (values, rest) => ((value, values), rest)
      | none => .error (.wrongLength index expected)
    | .ok (some tokens) =>
      match member.codec.read levels tokens with
      | .error fault => .error fault
      | .ok (value, rest) =>
        (readElements expected levels (index + 1) others rest).map
          fun (values, rest) => ((value, values), rest)

/-- The members as they are written, each with its key and its value. -/
def write {ρ δ : Type} : (members : Members ρ δ) → (values : ρ) → List (List Token)
  | .nil, _ => []
  | .cons member others, (value, values) =>
    if member.omitted value then others.write values
    else (.ofText member.name :: .colon :: member.codec.write value) :: others.write values

end Members

/-! ## Objects -/

/-- Reads a key of an object. `start` is the fault of a text that is over here. -/
def readKey (start : Unfinished) : TokenReader String
  | [] => .error (.ends start)
  | .text raw :: rest => (readText true raw).map fun key => (key, rest)
  | .broken (.text raw) :: _ => .error (Broken.text raw).fault
  | _ => .error .keyNotText

/-- The next key of an object and the tokens behind it, none behind the closing bracket. -/
def nextKey (first : Bool) : List Token → Except Fault (Option String × List Token)
  | [] => .error (.ends .object)
  | .closeObject :: rest => .ok (none, rest)
  | tokens =>
    if first then (readKey .object tokens).map fun (key, rest) => (some key, rest)
    else
      match tokens with
      | .comma :: .closeObject :: _ => .error .trailingComma
      | .comma :: rest => (readKey .value rest).map fun (key, rest) => (some key, rest)
      | _ => .error .expectedObjectEnd

/-- The tokens behind the colon that follows a key. -/
def behindColon : List Token → Except Fault (List Token)
  | [] => .error (.ends .object)
  | .colon :: rest => .ok rest
  | _ => .error .expectedColon

/-- Reads the remaining members of an object and its closing bracket. Each member takes a token, so
`fuel` need not be more than the number of tokens. -/
def Members.readObject {ρ δ : Type} (members : Members ρ δ) (levels : Nat) :
    (fuel : Nat) → (first : Bool) → (found : δ) → TokenReader δ
  | 0, _, _, _ => .error (.ends .object)
  | fuel + 1, first, found, tokens =>
    match nextKey first tokens with
    | .error fault => .error fault
    | .ok (none, rest) => .ok (found, rest)
    | .ok (some key, rest) =>
      match members.readMember key levels rest found with
      | some (.error fault) => .error fault
      | some (.ok (found, rest)) => members.readObject levels fuel false found rest
      | none =>
        match (behindColon rest).bind skipValue with
        | .error fault => .error fault
        | .ok rest => members.readObject levels fuel false found rest

/-- What a fault calls a record with its number of members. -/
def recordLength (name : String) (count : Nat) : String :=
  s!"struct {name} with {count} element" ++ if count = 1 then "" else "s"

/-- **Records.** `build` and `parts` go between the members' values and the record. -/
def Codec.record {ρ δ σ : Type} (name : String) (members : Members ρ δ) (build : ρ → σ)
    (parts : σ → ρ) : Codec σ where
  read levels tokens :=
    match tokens with
    | .openObject :: rest =>
      if levels ≤ 1 then .error .tooDeep
      else
        match members.readObject (levels - 1) (rest.length + 1) true members.blank rest with
        | .error fault => .error fault
        | .ok (found, rest) => (members.complete found).map fun values => (build values, rest)
    | .openList :: rest =>
      if levels ≤ 1 then .error .tooDeep
      else
        let expected := recordLength name members.length
        match members.readElements expected (levels - 1) 0 rest with
        | .error fault => .error fault
        | .ok (values, rest) => (endList rest).map fun rest => (build values, rest)
    | _ => .error (mismatch s!"struct {name}" tokens)
  write value :=
    .openObject :: List.intercalate [.comma] (members.write (parts value)) ++ [.closeObject]

end PenaltySettlement.Json
