import PenaltySettlement.Json.Number
import PenaltySettlement.Json.Skip
import PenaltySettlement.Json.Lexer

/-!
# Reading and writing values of a type

A codec reads a value of its type from the tokens of a JSON text and writes one as tokens. Reading
stops at the first fault. Lists and objects nest to a limited depth, counted in levels that are
left.

## Main definitions

* `Json.Reader`, `Json.Codec` — reading, and reading with writing.
* `Json.Codec.decode`, `Json.Codec.encode` — whole texts.
* `Json.Codec.text`, `Json.Codec.boolean`, `Json.Codec.integer`, `Json.Codec.list`,
  `Json.Codec.option`, `Json.Codec.choice` — codecs of plain types.
-/

set_option autoImplicit false

namespace PenaltySettlement.Json

/-- Reads a value at the start of the tokens and gives it with the tokens behind it. -/
abbrev TokenReader (α : Type) := List Token → Except Fault (α × List Token)

/-- A reader that knows how many levels of nesting are left. -/
abbrev Reader (α : Type) := Nat → TokenReader α

/-- A way to read and to write the values of a type. -/
structure Codec (α : Type) where
  read : Reader α
  write : α → List Token

/-- The levels of nesting that a text may have, and one more. -/
def levels : Nat := 128

namespace Codec

variable {α β : Type}

/-- **Reading a text.** Nothing but white space follows the value. -/
def decode (c : Codec α) (bytes : List UInt8) : Except Fault α :=
  match c.read levels (lex bytes) with
  | .error fault => .error fault
  | .ok (value, []) => .ok value
  | .ok _ => .error .trailingCharacters

/-- **Writing a text.** There is no white space between the tokens. -/
def encode (c : Codec α) (value : α) : List UInt8 := render (c.write value)

/-- Reading a text that is given in characters. -/
def decodeText (c : Codec α) (text : String) : Except Fault α := c.decode (Utf8.encode text)

/-- Writing as characters. -/
def encodeText (c : Codec α) (value : α) : String := Utf8.decodeLenient (c.encode value)

end Codec

/-! ## Faults of type -/

/-- The fault of a value of another type than the expected one. A number or text is read first,
so that its own fault is found. -/
def mismatch (expected : String) : List Token → Fault
  | [] => .ends .value
  | .null :: _ => .wrongType .null expected
  | .boolean value :: _ => .wrongType (.boolean value) expected
  | .number numeral :: _ =>
    match Number.ofNumeral numeral with
    | .ok number => .wrongType number.found expected
    | .error fault => fault
  | .text raw :: _ =>
    match readText true raw with
    | .ok text => .wrongType (.text text) expected
    | .error fault => fault
  | .openList :: _ => .wrongType .list expected
  | .openObject :: _ => .wrongType .object expected
  | .broken what :: _ => what.fault
  | _ :: _ => .expectedValue

/-! ## Plain types -/

namespace Codec

variable {α β : Type}

/-- Texts. -/
def text : Codec String where
  read _ tokens :=
    match tokens with
    | .text raw :: rest => (readText true raw).map fun s => (s, rest)
    | _ => .error (mismatch "a string" tokens)
  write s := [.ofText s]

/-- Truth values. -/
def boolean : Codec Bool where
  read _ tokens :=
    match tokens with
    | .boolean value :: rest => .ok (value, rest)
    | _ => .error (mismatch "a boolean" tokens)
  write value := [.boolean value]

/-- Integers from `least` to `greatest`; `name` is what a fault calls their type. -/
def integer (name : String) (least greatest : Int) : Codec Int where
  read _ tokens :=
    match tokens with
    | .number numeral :: rest =>
      match Number.ofNumeral numeral with
      | .error fault => .error fault
      | .ok (.integer value) =>
        if least ≤ value ∧ value ≤ greatest then .ok (value, rest)
        else .error (.wrongValue (.integer value) name)
      | .ok (.float value) => .error (.wrongType (.float value) name)
    | _ => .error (mismatch name tokens)
  write value := [.number (.ofInt value)]

/-- Naturals up to `greatest`. -/
def natural (name : String) (greatest : Nat) : Codec Nat where
  read levels tokens :=
    ((integer name 0 greatest).read levels tokens).map fun (value, rest) => (value.toNat, rest)
  write value := [.number (.ofInt value)]

/-- Texts that stand for values of another type: `parse` reads one or says what is wrong with it,
`print` writes one, and `expected` is what a fault calls them. -/
def ofText (expected : String) (parse : String → Except Fault α) (print : α → String) :
    Codec α where
  read _ tokens :=
    match tokens with
    | .text raw :: rest => do return (← parse (← readText true raw), rest)
    | _ => .error (mismatch expected tokens)
  write value := [.ofText (print value)]

/-- Values of a type or `null`. A word that starts like `null` has to be it. -/
def option (c : Codec α) : Codec (Option α) where
  read levels tokens :=
    match tokens with
    | .null :: rest => .ok (none, rest)
    | .broken (.word true ended) :: _ => .error (Broken.word true ended).fault
    | _ => (c.read levels tokens).map fun (value, rest) => (some value, rest)
  write
    | none => [.null]
    | some value => c.write value

/-- Values of a type, `null` standing for one of them. -/
def nullAs (default : α) (c : Codec α) : Codec α where
  read levels tokens :=
    (c.option.read levels tokens).map fun (value, rest) => (value.getD default, rest)
  write := c.write

/-- The value that a choice names. -/
def named? (choices : List (String × α)) (name : String) : Except Fault α :=
  match choices.lookup name with
  | some value => .ok value
  | none => .error (.unknownChoice name (choices.map (·.1)))

/-- Reads the key of an object that stands for a choice. -/
def readChoiceKey (tokens : List Token) : Except Fault (String × List Token) :=
  match tokens with
  | [] => .error (.ends .object)
  | .text raw :: rest => (readText true raw).map fun s => (s, rest)
  | .closeObject :: _ => .error .expectedValue
  | .broken (.text raw) :: _ => .error (Broken.text raw).fault
  | _ => .error .keyNotText

/-- What follows the key of an object that stands for a choice: a colon, `null` and the end. -/
def endChoice : List Token → Except Fault (List Token)
  | [] => .error (.ends .object)
  | .colon :: rest =>
    match rest with
    | .null :: .closeObject :: rest => .ok rest
    | .null :: [] => .error (.ends .object)
    | .null :: _ => .error .expectedValue
    | _ => .error (mismatch "unit" rest)
  | _ => .error .expectedColon

/-- Values that are known by name: a text with the name, or an object with the name as its only
key and `null` as the value. -/
def choice [BEq α] (choices : List (String × α)) : Codec α where
  read levels tokens :=
    match tokens with
    | [] => .error (.ends .value)
    | .text raw :: rest => do return (← named? choices (← readText true raw), rest)
    | .broken (.text raw) :: _ => .error (Broken.text raw).fault
    | .openObject :: rest =>
      if levels ≤ 1 then .error .tooDeep
      else do
        let (name, rest) ← readChoiceKey rest
        let value ← named? choices name
        return (value, ← endChoice rest)
    | _ => .error .expectedValue
  write value :=
    match choices.find? fun choice => choice.2 == value with
    | some (name, _) => [.ofText name]
    | none => [.null]

/-! ## Lists -/

end Codec

/-- The tokens of the next element of a list, none before the closing bracket, which is left. -/
def nextElement (first : Bool) : List Token → Except Fault (Option (List Token))
  | [] => .error (.ends .list)
  | .closeList :: _ => .ok none
  | tokens =>
    if first then .ok (some tokens)
    else
      match tokens with
      | [.comma] => .error (.ends .value)
      | .comma :: .closeList :: _ => .error .trailingComma
      | .comma :: rest => .ok (some rest)
      | _ => .error .expectedListEnd

/-- The tokens behind the closing bracket of a list whose elements have all been read. -/
def endList : List Token → Except Fault (List Token)
  | [] => .error (.ends .list)
  | .closeList :: rest => .ok rest
  | .comma :: .closeList :: _ => .error .trailingComma
  | _ => .error .trailingCharacters

/-- Reads the remaining elements of a list and its closing bracket; `done` holds the elements read
so far, in reverse. No more than `fuel` elements are read, and a list of tokens has no more
elements than tokens. -/
def readElements {α : Type} (item : TokenReader α) :
    (fuel : Nat) → (first : Bool) → (done : List α) → TokenReader (List α)
  | 0, _, _, _ => .error (.ends .list)
  | fuel + 1, first, done, tokens =>
    match nextElement first tokens with
    | .error fault => .error fault
    | .ok none => (endList tokens).map fun rest => (done.reverse, rest)
    | .ok (some tokens) =>
      match item tokens with
      | .error fault => .error fault
      | .ok (value, rest) => readElements item fuel false (value :: done) rest

/-- Lists. -/
def Codec.list {α : Type} (c : Codec α) : Codec (List α) where
  read levels tokens :=
    match tokens with
    | .openList :: rest =>
      if levels ≤ 1 then .error .tooDeep
      else readElements (c.read (levels - 1)) (rest.length + 1) true [] rest
    | _ => .error (mismatch "a sequence" tokens)
  write values :=
    .openList :: List.intercalate [.comma] (values.map c.write) ++ [.closeList]

end PenaltySettlement.Json
