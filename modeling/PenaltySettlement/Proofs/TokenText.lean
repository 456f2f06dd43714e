import PenaltySettlement.Proofs.NumeralText

/-!
# Tokens in a JSON text

The grammar of tokens: how each of them may stand in a text, with white space between them. A mark
or a word is always spelled alike, a text is any bytes and escapes between quotes, and a number has
its own grammar. A text that is spelled so has exactly these tokens.

## Main definitions

* `Json.Inside` — what may stand between quotes.
* `Json.Token.Spelling` — how a token may be spelled.
* `Json.Spelled` — how tokens may stand in a text.

## Main results

* `Json.lex_of_spelled` — the tokens that stand in a text are read from it.
-/

set_option autoImplicit false

namespace PenaltySettlement.Json

/-! ## Between quotes -/

/-- **A byte or an escape between quotes**: a byte by itself, a letter behind a backslash, or four
hexadecimal digits. -/
inductive Piece : List UInt8 → Prop
  | plain {b : UInt8} : b ≠ ascii '"' → b ≠ ascii '\\' → ¬b.toNat < 0x20 → Piece [b]
  | short {letter : UInt8} : letter ≠ ascii 'u' → (escaped? letter).isSome →
      Piece [ascii '\\', letter]
  | unit {h i j k : UInt8} : (hexUnit? h i j k).isSome →
      Piece [ascii '\\', ascii 'u', h, i, j, k]

/-- **What may stand between quotes.** -/
inductive Inside : List UInt8 → Prop
  | nil : Inside []
  | cons {piece raw : List UInt8} : Piece piece → Inside raw → Inside (piece ++ raw)

/-- The search for the closing quote passes over a byte or an escape. -/
lemma Piece.closingQuote {piece : List UInt8} (h : Piece piece) (done rest : List UInt8) :
    closingQuote done (piece ++ rest) = Json.closingQuote (piece.reverse ++ done) rest := by
  cases h with
  | @plain b hquote hbackslash hcontrol =>
    show Json.closingQuote done (b :: rest) = Json.closingQuote (b :: done) rest
    conv_lhs => unfold Json.closingQuote
    rw [if_neg hquote, if_neg hbackslash, if_neg hcontrol]
  | @short letter hletter hescaped =>
    obtain ⟨byte, hbyte⟩ := Option.isSome_iff_exists.1 hescaped
    show Json.closingQuote done (ascii '\\' :: letter :: rest) =
      Json.closingQuote (letter :: ascii '\\' :: done) rest
    conv_lhs => unfold Json.closingQuote
    rw [if_neg (by decide), if_pos rfl]
    dsimp only
    rw [if_neg hletter, hbyte]
  | @unit h i j k hunit =>
    obtain ⟨unit, hunit⟩ := Option.isSome_iff_exists.1 hunit
    show Json.closingQuote done (ascii '\\' :: ascii 'u' :: h :: i :: j :: k :: rest) =
      Json.closingQuote (k :: j :: i :: h :: ascii 'u' :: ascii '\\' :: done) rest
    conv_lhs => unfold Json.closingQuote
    rw [if_neg (by decide), if_pos rfl]
    dsimp only
    rw [if_pos rfl, hunit]

/-- **The closing quote is found** behind what may stand between quotes. -/
lemma Inside.closingQuote {raw : List UInt8} (h : Inside raw) (done rest : List UInt8) :
    closingQuote done (raw ++ ascii '"' :: rest) = .ok (done.reverse ++ raw, rest) := by
  induction h generalizing done with
  | nil =>
    show Json.closingQuote done (ascii '"' :: rest) = _
    unfold Json.closingQuote
    rw [if_pos rfl, List.append_nil]
  | cons hpiece _ ih =>
    rw [List.append_assoc, hpiece.closingQuote, ih]
    simp

/-! ## One token -/

/-- The tokens that are always spelled alike: the marks and the words. -/
def Token.fixed : List Token :=
  [.openList, .closeList, .openObject, .closeObject, .comma, .colon, .null, .boolean true,
    .boolean false]

/-- **How a token may be spelled.** -/
inductive Token.Spelling : Token → List UInt8 → Prop
  | fixed {token : Token} : token ∈ Token.fixed → Spelling token token.bytes
  | text {raw : List UInt8} : Inside raw → Spelling (.text raw) (ascii '"' :: raw ++ [ascii '"'])
  | number {n : Numeral} {bytes : List UInt8} : NumberText n bytes →
      Spelling (.number n) ((if n.negative then [ascii '-'] else []) ++ bytes)

/-- What may follow a token at once: behind a number, nothing that would go on with it. -/
def Token.Ends : Token → List UInt8 → Prop
  | .number _, rest => NumberEnds rest
  | _, _ => True

/-- A word is read behind its first letter. -/
lemma lexWord_append (isNull : Bool) (letters rest : List UInt8) :
    lexWord isNull letters (letters ++ rest) = .ok rest := by
  induction letters with
  | nil => rfl
  | cons letter letters ih =>
    rw [List.cons_append, lexWord, if_pos rfl]
    exact ih

/-- A mark or a word is read behind its first byte. -/
lemma exists_lexToken_fixed {token : Token} (h : token ∈ Token.fixed) :
    ∃ b tail, token.bytes = b :: tail ∧ isBlank b = false ∧
      ∀ rest, lexToken b (tail ++ rest) = .ok (token, rest) := by
  have hmark : ∀ {b : UInt8} {token : Token}, mark? b = some token →
      ∀ rest, lexToken b ([] ++ rest) = .ok (token, rest) := by
    intro b token hb rest
    simp only [lexToken, hb, List.nil_append]
  have hword : ∀ {b : UInt8} {token : Token} {letters : List UInt8}, mark? b = none →
      word? b = some (token, letters) →
        ∀ rest, lexToken b (letters ++ rest) = .ok (token, rest) := by
    intro b token letters hb hletters rest
    simp only [lexToken, hb, hletters, lexWord_append]
    rfl
  simp only [Token.fixed, List.mem_cons, List.not_mem_nil, or_false] at h
  rcases h with rfl | rfl | rfl | rfl | rfl | rfl | rfl | rfl | rfl
  · exact ⟨_, _, rfl, by decide, hmark (by decide)⟩
  · exact ⟨_, _, rfl, by decide, hmark (by decide)⟩
  · exact ⟨_, _, rfl, by decide, hmark (by decide)⟩
  · exact ⟨_, _, rfl, by decide, hmark (by decide)⟩
  · exact ⟨_, _, rfl, by decide, hmark (by decide)⟩
  · exact ⟨_, _, rfl, by decide, hmark (by decide)⟩
  · exact ⟨_, _, rfl, by decide, hword (by decide) (by decide)⟩
  · exact ⟨_, _, rfl, by decide, hword (by decide) (by decide)⟩
  · exact ⟨_, _, rfl, by decide, hword (by decide) (by decide)⟩

/-- A text is read behind its first quote. -/
lemma lexToken_text {raw : List UInt8} (h : Inside raw) (rest : List UInt8) :
    lexToken (ascii '"') (raw ++ ascii '"' :: rest) = .ok (.text raw, rest) := by
  have hmark : mark? (ascii '"') = none := by decide
  have hword : word? (ascii '"') = none := by decide
  simp only [lexToken, hmark, hword, if_true, h.closingQuote, List.reverse_nil, List.nil_append]

/-- **A spelled token is read**, from its first byte on and in front of what may follow it. -/
theorem Token.Spelling.exists_lexToken {token : Token} {bytes : List UInt8}
    (h : token.Spelling bytes) :
    ∃ b tail, bytes = b :: tail ∧ isBlank b = false ∧
      ∀ rest, token.Ends rest → lexToken b (tail ++ rest) = .ok (token, rest) := by
  cases h with
  | fixed hfixed =>
    obtain ⟨b, tail, hbytes, hblank, hlex⟩ := exists_lexToken_fixed hfixed
    exact ⟨b, tail, hbytes, hblank, fun rest _ => hlex rest⟩
  | @text raw hraw =>
    refine ⟨ascii '"', raw ++ [ascii '"'], rfl, by decide, fun rest _ => ?_⟩
    rw [List.append_assoc]
    exact lexToken_text hraw rest
  | number hnumber => exact hnumber.exists_lexToken

/-! ## All tokens of a text -/

/-- **How tokens may stand in a text**, white space between them. -/
inductive Spelled : List Token → List UInt8 → Prop
  | nil : Spelled [] []
  | blank {b : UInt8} {tokens : List Token} {bytes : List UInt8} : isBlank b = true →
      Spelled tokens bytes → Spelled tokens (b :: bytes)
  | token {token : Token} {tokens : List Token} {spelling bytes : List UInt8} :
      token.Spelling spelling → token.Ends bytes → Spelled tokens bytes →
      Spelled (token :: tokens) (spelling ++ bytes)

/-- A token is found in front of what follows it. -/
lemma Token.Spelling.lexOnto {token : Token} {spelling rest : List UInt8}
    (h : token.Spelling spelling) (hrest : token.Ends rest) (done : List Token) :
    lexOnto done (spelling ++ rest) = Json.lexOnto (token :: done) rest := by
  obtain ⟨b, tail, hbytes, hblank, hlex⟩ := h.exists_lexToken
  have hread := hlex rest hrest
  rw [hbytes, List.cons_append, Json.lexOnto, hblank, if_neg Bool.false_ne_true]
  split
  · rename_i what heq
    rw [hread] at heq
    cases heq
  · rename_i found behind heq
    rw [hread] at heq
    cases heq
    rfl

/-- **The tokens that stand in a text are read from it.** -/
theorem lex_of_spelled {tokens : List Token} {bytes : List UInt8} (h : Spelled tokens bytes) :
    lex bytes = tokens := by
  suffices ∀ done, lexOnto done bytes = done.reverse ++ tokens from this []
  induction h with
  | nil =>
    intro done
    rw [lexOnto, List.append_nil]
  | blank hblank _ ih =>
    intro done
    rw [lexOnto, hblank, if_pos rfl, ih]
  | token hspelling hends _ ih =>
    intro done
    rw [hspelling.lexOnto hends, ih]
    simp

end PenaltySettlement.Json
