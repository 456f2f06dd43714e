import PenaltySettlement.Json.Quoted

/-!
# From bytes to tokens

White space separates tokens and has no other meaning. Where no token starts, the sequence ends
with a broken token; whether that matters is for the reader of the tokens to say, since it may find
an earlier fault, or another one at the same place.

## Main definitions

* `Json.lexToken` — the token at the start of a text.
* `Json.lex` — the tokens of a text.

## Main results

* `Json.length_lexToken` — a token takes at least one byte.
-/

set_option autoImplicit false

namespace PenaltySettlement.Json

/-! ## Numbers -/

/-- The digit that a byte stands for. -/
def digit? (b : UInt8) : Option Digit :=
  if h : 0x30 ≤ b.toNat ∧ b.toNat ≤ 0x39 then some ⟨b.toNat - 0x30, by omega⟩ else none

/-- The digits at the start and the bytes behind them. -/
def digits : List UInt8 → List Digit × List UInt8
  | [] => ([], [])
  | b :: rest =>
    match digit? b with
    | some d => (d :: (digits rest).1, (digits rest).2)
    | none => ([], b :: rest)

/-- The digits at the start where there has to be one, and the bytes behind them. A check of the
syntax does not tell the end of the text from another character. -/
def lexDigits (bytes : List UInt8) : Except Broken (List Digit × List UInt8) :=
  if (digits bytes).1.isEmpty then
    .error (.number (if bytes.isEmpty then .ends .value else .invalidNumber) .invalidNumber)
  else .ok (digits bytes)

/-- The sign at the start of a power of ten, whether it is a minus, and the bytes behind it. -/
def lexSign : List UInt8 → Bool × List UInt8
  | [] => (false, [])
  | b :: rest =>
    if b = ascii '-' then (true, rest) else if b = ascii '+' then (false, rest)
    else (false, b :: rest)

/-- The fraction at the start, if there is one. -/
def lexFraction : List UInt8 → Except Broken (List Digit × List UInt8)
  | [] => .ok ([], [])
  | b :: rest => if b = ascii '.' then lexDigits rest else .ok ([], b :: rest)

/-- The power of ten at the start, if there is one. -/
def lexPower : List UInt8 → Except Broken (Option PowerOfTen × List UInt8)
  | [] => .ok (none, [])
  | b :: rest =>
    if b = ascii 'e' ∨ b = ascii 'E' then
      (lexDigits (lexSign rest).2).map fun (ds, rest') => (some ⟨(lexSign rest).1, ds⟩, rest')
    else .ok (none, b :: rest)

/-- The number at the start, its sign apart. A zero is not followed by another digit. -/
def lexNumber (negative : Bool) (bytes : List UInt8) : Except Broken (Numeral × List UInt8) :=
  (lexDigits bytes).bind fun (whole, rest) =>
    if whole.head? = some Digit.zero ∧ 1 < whole.length then
      .error (.number .invalidNumber .invalidNumber)
    else
      (lexFraction rest).bind fun (fraction, rest) =>
        (lexPower rest).map fun (power, rest) => ({ negative, whole, fraction, power }, rest)

/-! ## Tokens -/

/-- The bytes behind a word whose remaining letters are given; `isNull` when it is `null`. -/
def lexWord (isNull : Bool) : (letters bytes : List UInt8) → Except Broken (List UInt8)
  | [], rest => .ok rest
  | _ :: _, [] => .error (.word isNull true)
  | c :: letters, b :: rest =>
    if b = c then lexWord isNull letters rest else .error (.word isNull false)

/-- Whether a byte is white space. -/
def isBlank (b : UInt8) : Bool :=
  b = ascii ' ' || b = ascii '\t' || b = ascii '\n' || b = ascii '\r'

/-- The token that a byte is by itself. -/
def mark? (b : UInt8) : Option Token :=
  if b = ascii '[' then some .openList
  else if b = ascii ']' then some .closeList
  else if b = ascii '\x7b' then some .openObject
  else if b = ascii '\x7d' then some .closeObject
  else if b = ascii ',' then some .comma
  else if b = ascii ':' then some .colon
  else none

/-- The word that starts with a byte: its token and its other letters. -/
def word? (b : UInt8) : Option (Token × List UInt8) :=
  if b = ascii 'n' then some (.null, asciiBytes "ull")
  else if b = ascii 't' then some (.boolean true, asciiBytes "rue")
  else if b = ascii 'f' then some (.boolean false, asciiBytes "alse")
  else none

/-- The token that starts with a byte, and the bytes behind it. -/
def lexToken (b : UInt8) (rest : List UInt8) : Except Broken (Token × List UInt8) :=
  match mark? b, word? b with
  | some token, _ => .ok (token, rest)
  | none, some (token, letters) =>
    (lexWord (token == .null) letters rest).map fun rest => (token, rest)
  | none, none =>
    if b = ascii '"' then
      match closingQuote [] rest with
      | .ok (raw, rest) => .ok (.text raw, rest)
      | .error _ => .error (.text rest)
    else if b = ascii '-' then
      (lexNumber true rest).map fun (numeral, rest) => (.number numeral, rest)
    else if (digit? b).isSome then
      (lexNumber false (b :: rest)).map fun (numeral, rest) => (.number numeral, rest)
    else .error .byte

/-! ## Progress -/

/-- The digits and the bytes behind them are all the bytes. -/
theorem length_digits (bytes : List UInt8) :
    (digits bytes).1.length + (digits bytes).2.length = bytes.length := by
  fun_induction digits bytes <;> simp_all
  omega

private theorem length_lexDigits {bytes rest : List UInt8} {ds : List Digit}
    (h : lexDigits bytes = .ok (ds, rest)) : rest.length < bytes.length := by
  have := length_digits bytes
  unfold lexDigits at h
  split at h
  · simp at h
  · rename_i hne
    simp only [Except.ok.injEq] at h
    rw [h] at this hne
    have hds : ds.length ≠ 0 := by simpa using hne
    dsimp only at this
    omega

private theorem length_lexSign (bytes : List UInt8) :
    (lexSign bytes).2.length ≤ bytes.length := by
  fun_cases lexSign bytes <;> simp

private theorem length_lexFraction {bytes rest : List UInt8} {ds : List Digit}
    (h : lexFraction bytes = .ok (ds, rest)) : rest.length ≤ bytes.length := by
  unfold lexFraction at h
  split at h
  · simp_all
  · split at h
    · have := length_lexDigits h
      simp
      omega
    · simp_all

private theorem length_lexPower {bytes rest : List UInt8} {power : Option PowerOfTen}
    (h : lexPower bytes = .ok (power, rest)) : rest.length ≤ bytes.length := by
  unfold lexPower at h
  split at h
  · simp_all
  · rename_i b tail
    split at h
    · cases hd : lexDigits (lexSign tail).2 with
      | error e => simp [hd, Except.map] at h
      | ok found =>
        have h₁ : found.2.length < (lexSign tail).2.length := length_lexDigits hd
        have h₂ := length_lexSign tail
        simp [hd, Except.map] at h
        obtain ⟨_, rfl⟩ := h
        simp
        omega
    · simp_all

private theorem length_lexNumber {negative : Bool} {bytes rest : List UInt8} {numeral : Numeral}
    (h : lexNumber negative bytes = .ok (numeral, rest)) : rest.length < bytes.length := by
  unfold lexNumber at h
  cases hd : lexDigits bytes with
  | error e => simp [hd, Except.bind] at h
  | ok found =>
    have h₀ : found.2.length < bytes.length := length_lexDigits hd
    simp only [hd, Except.bind] at h
    split at h
    · simp at h
    · cases hf : lexFraction found.2 with
      | error e => simp [hf] at h
      | ok f =>
        cases hp : lexPower f.2 with
        | error e => simp [hf, hp, Except.map] at h
        | ok p =>
          have h₁ : f.2.length ≤ found.2.length := length_lexFraction hf
          have h₂ : p.2.length ≤ f.2.length := length_lexPower hp
          simp [hf, hp, Except.map] at h
          obtain ⟨_, rfl⟩ := h
          omega

private theorem length_lexWord {isNull : Bool} {letters bytes rest : List UInt8}
    (h : lexWord isNull letters bytes = .ok rest) : rest.length ≤ bytes.length := by
  fun_induction lexWord isNull letters bytes <;> simp_all
  omega

/-- A token takes at least its first byte. -/
theorem length_lexToken {b : UInt8} {bytes rest : List UInt8} {token : Token}
    (h : lexToken b bytes = .ok (token, rest)) : rest.length ≤ bytes.length := by
  unfold lexToken at h
  split at h
  · simp_all
  · rename_i word letters _ _
    cases hw : lexWord (word == .null) letters bytes with
    | error e => simp [hw, Except.map] at h
    | ok r =>
      have := length_lexWord hw
      simp_all [Except.map]
  · split at h
    · split at h
      · rename_i heq
        have := length_closingQuote heq
        simp_all
        omega
      · simp at h
    · split at h
      · cases hn : lexNumber true bytes with
        | error e => simp [hn, Except.map] at h
        | ok r =>
          have : r.2.length < bytes.length := length_lexNumber hn
          simp [hn, Except.map] at h
          obtain ⟨_, rfl⟩ := h
          omega
      · split at h
        · cases hn : lexNumber false (b :: bytes) with
          | error e => simp [hn, Except.map] at h
          | ok r =>
            have : r.2.length < (b :: bytes).length := length_lexNumber hn
            simp [hn, Except.map] at h this
            obtain ⟨_, rfl⟩ := h
            omega
        · simp at h

/-! ## The tokens of a text -/

/-- The tokens of the bytes behind those already found, which are held in reverse. -/
def lexOnto (done : List Token) : List UInt8 → List Token
  | [] => done.reverse
  | b :: bytes =>
    if isBlank b then lexOnto done bytes
    else
      match h : lexToken b bytes with
      | .error what => (.broken what :: done).reverse
      | .ok (token, rest) =>
        have : rest.length ≤ bytes.length := length_lexToken h
        lexOnto (token :: done) rest
termination_by bytes => bytes.length
decreasing_by
  · exact Nat.lt_succ_self _
  · exact Nat.lt_succ_of_le this

/-- The tokens of a text. -/
def lex (bytes : List UInt8) : List Token := lexOnto [] bytes

end PenaltySettlement.Json
