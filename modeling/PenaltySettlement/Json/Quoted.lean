import PenaltySettlement.Json.Token

/-!
# The inside of JSON texts

Between the quotes of a JSON text, quotes, backslashes and controls stand as escapes. A check of
the syntax looks for the closing quote and for known escapes; a reader also pairs the surrogates
and requires the result to be UTF-8.

## Main definitions

* `Json.closingQuote` — splits behind the closing quote, checking the syntax.
* `Json.unescape` — the bytes that the inside of a text stands for.
* `Json.readText` — the text itself.
-/

set_option autoImplicit false

namespace PenaltySettlement.Json

/-- The value of a hexadecimal digit of either case. -/
def hexValue? (b : UInt8) : Option Nat :=
  let n := b.toNat
  if 0x30 ≤ n ∧ n ≤ 0x39 then some (n - 0x30)
  else if 0x61 ≤ n ∧ n ≤ 0x66 then some (n - 0x57)
  else if 0x41 ≤ n ∧ n ≤ 0x46 then some (n - 0x37)
  else none

/-- The number that four hexadecimal digits stand for. -/
def hexUnit? (a b c d : UInt8) : Option Nat := do
  return (← hexValue? a) * 0x1000 + (← hexValue? b) * 0x100 + (← hexValue? c) * 0x10 +
    (← hexValue? d)

/-- The byte that an escape other than `\u` stands for. -/
def escaped? (b : UInt8) : Option UInt8 :=
  if b = ascii '"' ∨ b = ascii '\\' ∨ b = ascii '/' then some b
  else if b = ascii 'b' then some 0x08
  else if b = ascii 'f' then some 0x0c
  else if b = ascii 'n' then some 0x0a
  else if b = ascii 'r' then some 0x0d
  else if b = ascii 't' then some 0x09
  else none

/-- Splits behind the closing quote: the bytes before it and those behind it. `done` holds the
bytes already passed, in reverse. -/
def closingQuote (done : List UInt8) : List UInt8 → Except Fault (List UInt8 × List UInt8)
  | [] => .error (.ends .text)
  | b :: rest =>
    if b = ascii '"' then .ok (done.reverse, rest)
    else if b = ascii '\\' then
      match rest with
      | [] => .error (.ends .text)
      | c :: rest =>
        if c = ascii 'u' then
          match rest with
          | h :: i :: j :: k :: rest =>
            match hexUnit? h i j k with
            | some _ => closingQuote (k :: j :: i :: h :: c :: b :: done) rest
            | none => .error .invalidEscape
          | _ => .error (.ends .text)
        else
          match escaped? c with
          | some _ => closingQuote (c :: b :: done) rest
          | none => .error .invalidEscape
    else if b.toNat < 0x20 then .error .controlCharacter
    else closingQuote (b :: done) rest

/-- The part behind the closing quote is shorter than what was split. -/
theorem length_closingQuote {done bytes raw rest : List UInt8}
    (h : closingQuote done bytes = .ok (raw, rest)) : rest.length < bytes.length := by
  fun_induction closingQuote done bytes <;> simp_all <;> omega

/-- The bytes of a code point. -/
def codePointBytes (n : Nat) : List UInt8 := String.utf8EncodeChar (Char.ofNat n)

/-- The bytes that the inside of a text stands for. `closed` says whether the closing quote or
the end of the whole input follows; `done` holds the bytes already found, in reverse. -/
def unescape (closed : Bool) (done : List UInt8) : List UInt8 → Except Fault (List UInt8)
  | [] => if closed then .ok done.reverse else .error (.ends .text)
  | b :: rest =>
    if b = ascii '\\' then
      match rest with
      | [] => .error (.ends .text)
      | c :: rest =>
        if c = ascii 'u' then
          match rest with
          | h :: i :: j :: k :: rest =>
            match hexUnit? h i j k with
            | none => .error .invalidEscape
            | some high =>
              if 0xdc00 ≤ high ∧ high ≤ 0xdfff then .error .loneSurrogate
              else if 0xd800 ≤ high ∧ high ≤ 0xdbff then
                -- The first half of a pair: the second half has to follow at once.
                match rest with
                | [] => .error (if closed then .unfinishedEscape else .ends .text)
                | [d] =>
                  .error (if d = ascii '\\' ∧ !closed then .ends .text else .unfinishedEscape)
                | d :: e :: rest =>
                  if d = ascii '\\' ∧ e = ascii 'u' then
                    match rest with
                    | l :: m :: n :: o :: rest =>
                      match hexUnit? l m n o with
                      | none => .error .invalidEscape
                      | some low =>
                        if 0xdc00 ≤ low ∧ low ≤ 0xdfff then
                          let point := (high - 0xd800) * 0x400 + (low - 0xdc00) + 0x10000
                          unescape closed ((codePointBytes point).reverse ++ done) rest
                        else .error .loneSurrogate
                    | _ => .error (.ends .text)
                  else .error .unfinishedEscape
              else unescape closed ((codePointBytes high).reverse ++ done) rest
          | _ => .error (.ends .text)
        else
          match escaped? c with
          | some byte => unescape closed (byte :: done) rest
          | none => .error .invalidEscape
    else if b.toNat < 0x20 then .error .controlCharacter
    else unescape closed (b :: done) rest

/-- The text whose inside is given. -/
def readText (closed : Bool) (raw : List UInt8) : Except Fault String :=
  (unescape closed [] raw).bind fun bytes =>
    match Utf8.decode? bytes with
    | some text => .ok text
    | none => .error .invalidCodePoint

end PenaltySettlement.Json
