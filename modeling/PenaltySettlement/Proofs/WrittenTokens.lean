import Mathlib.Data.List.Basic
import PenaltySettlement.Proofs.CharacterBytes
import PenaltySettlement.Proofs.TokenText

/-!
# Tokens that are written

A JSON text that is written from tokens has these tokens again. What is written between the quotes
of a text is read back as it was, whatever the text is: a byte stands there by itself, behind a
backslash, or as the number of a control, and in each case the search for the closing quote passes
over it and the reader finds it again. A number is read back if its numeral can be written and no
other number follows it at once.

## Main definitions

* `Json.Escape` — how a byte may stand between quotes.
* `Json.Legible` — tokens that can be read back.

## Main results

* `Json.readText_ofText` — a text is read back.
* `Json.lex_render` — tokens are read back.
* `Json.isText_render` — what is written for tokens is a text.
-/

set_option autoImplicit false

namespace PenaltySettlement.Json

/-- **A byte between quotes**: by itself, behind a backslash, or as four hexadecimal digits. -/
inductive Escape (b : UInt8) : List UInt8 → Prop where
  | plain : b ≠ ascii '"' → b ≠ ascii '\\' → ¬b.toNat < 0x20 → Escape b [b]
  | short {letter : UInt8} : letter ≠ ascii 'u' → escaped? letter = some b →
      Escape b [ascii '\\', letter]
  | unit {h i j k : UInt8} : hexUnit? h i j k = some b.toNat → b.toNat < 0x20 →
      Escape b [ascii '\\', ascii 'u', h, i, j, k]

/-- The number of a control is read back from its digits. -/
lemma hexUnit?_hexDigit : ∀ n < 0x20,
    hexUnit? (ascii '0') (ascii '0') (ascii (Text.hexDigit (n / 16)))
      (ascii (Text.hexDigit (n % 16))) = some n := by
  decide

/-- Every byte is written in one of these ways. -/
lemma escape_escapeByte (b : UInt8) : Escape b (escapeByte b) := by
  have hshort : ∀ {n : Nat} {letter : UInt8}, b.toNat = n → letter ≠ ascii 'u' →
      escaped? letter = some n.toUInt8 → Escape b [ascii '\\', letter] := by
    rintro n letter rfl hletter hescaped
    rw [Nat.toUInt8_eq, UInt8.ofNat_toNat] at hescaped
    exact .short hletter hescaped
  unfold escapeByte
  split
  · rename_i hquote
    exact hquote ▸ .short (by decide) (by decide)
  · rename_i hquote
    split
    · rename_i hbackslash
      exact hbackslash ▸ .short (by decide) (by decide)
    · rename_i hbackslash
      split
      · exact .plain hquote hbackslash (by omega)
      · rename_i hcontrol
        split
        · exact hshort ‹_› (by decide) (by decide)
        split
        · exact hshort ‹_› (by decide) (by decide)
        split
        · exact hshort ‹_› (by decide) (by decide)
        split
        · exact hshort ‹_› (by decide) (by decide)
        split
        · exact hshort ‹_› (by decide) (by decide)
        · exact .unit (hexUnit?_hexDigit _ (by omega)) (by omega)

/-- What is written for a byte may stand between quotes. -/
lemma Escape.piece {b : UInt8} {bytes : List UInt8} (h : Escape b bytes) : Piece bytes := by
  cases h with
  | plain hquote hbackslash hcontrol => exact .plain hquote hbackslash hcontrol
  | short hletter hescaped => exact .short hletter (Option.isSome_of_eq_some hescaped)
  | unit hunit _ => exact .unit (Option.isSome_of_eq_some hunit)

/-- **What is written for bytes may stand between quotes.** -/
lemma inside_flatMap_escapeByte (bytes : List UInt8) : Inside (bytes.flatMap escapeByte) := by
  induction bytes with
  | nil => exact .nil
  | cons b bytes ih => exact .cons (escape_escapeByte b).piece ih

/-! ## The text -/

/-- The reader finds a byte again. -/
lemma Escape.unescape {b : UInt8} {bytes : List UInt8} (h : Escape b bytes)
    (done rest : List UInt8) :
    unescape true done (bytes ++ rest) = Json.unescape true (b :: done) rest := by
  cases h with
  | plain hquote hbackslash hcontrol =>
    show Json.unescape true done (b :: rest) = _
    conv_lhs => unfold Json.unescape
    rw [if_neg hbackslash, if_neg hcontrol]
  | @short letter hletter hescaped =>
    show Json.unescape true done (ascii '\\' :: letter :: rest) = _
    conv_lhs => unfold Json.unescape
    rw [if_pos rfl]
    dsimp only
    rw [if_neg hletter, hescaped]
  | @unit h i j k hunit hcontrol =>
    have hbytes : codePointBytes b.toNat = [b] := by
      have hall : ∀ n < 0x20, codePointBytes n = [n.toUInt8] := by decide
      rw [hall _ hcontrol, Nat.toUInt8_eq, UInt8.ofNat_toNat]
    show Json.unescape true done (ascii '\\' :: ascii 'u' :: h :: i :: j :: k :: rest) = _
    conv_lhs => unfold Json.unescape
    rw [if_pos rfl]
    dsimp only
    rw [if_pos rfl, hunit]
    dsimp only
    rw [if_neg (by omega), if_neg (by omega), hbytes]
    rfl

/-- What is written for bytes stands for them. -/
lemma unescape_flatMap_escapeByte (bytes done : List UInt8) :
    unescape true done (bytes.flatMap escapeByte) = .ok (done.reverse ++ bytes) := by
  induction bytes generalizing done with
  | nil =>
    show unescape true done [] = _
    unfold unescape
    rw [if_pos rfl, List.append_nil]
  | cons b bytes ih =>
    rw [List.flatMap_cons, (escape_escapeByte b).unescape, ih]
    simp

/-- **A text is read back** from what is written for it. -/
theorem readText_ofText (s : String) :
    readText true ((Utf8.encode s).flatMap escapeByte) = .ok s := by
  rw [readText, unescape_flatMap_escapeByte]
  simp [Except.bind]

/-! ## Tokens -/

/-- **Tokens that are read back**: none of them is broken, a number can be written, and it is not
followed by another one, whose digits would go on with its own. -/
inductive Legible : List Token → Prop where
  | nil : Legible []
  | fixed {token : Token} {tokens : List Token} : token ∈ Token.fixed → Legible tokens →
      Legible (token :: tokens)
  | text (s : String) {tokens : List Token} : Legible tokens → Legible (.ofText s :: tokens)
  | number {n : Numeral} {tokens : List Token} : n.Proper →
      (∀ m, tokens.head? ≠ some (.number m)) → Legible tokens → Legible (.number n :: tokens)

/-- A broken token is not read back. -/
lemma not_legible_broken {what : Broken} {tokens : List Token} :
    ¬Legible (.broken what :: tokens) := by
  intro h
  cases h with
  | fixed hfixed => simp [Token.fixed] at hfixed

/-- A number does not go on with a mark or a word. -/
lemma goesOn_fixed {token : Token} (h : token ∈ Token.fixed) :
    ∀ b ∈ token.bytes.head?, goesOn b = false := by
  have hall : ∀ token ∈ Token.fixed, ∀ b ∈ token.bytes.head?, goesOn b = false :=
    by decide +kernel
  exact hall token h

/-- A mark or a word is written with some bytes. -/
lemma bytes_ne_nil_of_fixed {token : Token} (h : token ∈ Token.fixed) : token.bytes ≠ [] := by
  have hall : ∀ token ∈ Token.fixed, token.bytes ≠ [] := by decide
  exact hall token h

/-- A number ends where no other one follows. -/
lemma Legible.numberEnds {tokens : List Token} (h : Legible tokens)
    (hfirst : ∀ m, tokens.head? ≠ some (.number m)) : NumberEnds (render tokens) := by
  cases h with
  | nil => exact nofun
  | @fixed token tokens hfixed =>
    intro b hb
    have hhead : (render (token :: tokens)).head? = token.bytes.head? := by
      rw [render, List.flatMap_cons, List.head?_append,
        Option.or_of_isSome (List.isSome_head?.2 (bytes_ne_nil_of_fixed hfixed))]
    exact goesOn_fixed hfixed b (hhead ▸ hb)
  | text s =>
    intro b hb
    obtain rfl := Option.some.inj hb
    decide
  | number => exact absurd rfl (hfirst _)

/-- What is written for tokens has them in it. -/
lemma Legible.spelled {tokens : List Token} (h : Legible tokens) :
    Spelled tokens (render tokens) := by
  have hends : ∀ {token : Token} (rest : List UInt8), token ∈ Token.fixed → token.Ends rest := by
    intro token rest hfixed
    cases token with
    | number n => simp [Token.fixed] at hfixed
    | _ => trivial
  induction h with
  | nil => exact .nil
  | fixed hfixed _ ih => exact .token (.fixed hfixed) (hends _ hfixed) ih
  | text s _ ih => exact .token (.text (inside_flatMap_escapeByte _)) trivial ih
  | @number n tokens hproper hfirst htokens ih =>
    show Spelled _ ((Token.number n).bytes ++ render tokens)
    rw [bytes_number]
    exact .token (.number (numberText_magnitude hproper)) (htokens.numberEnds hfirst) ih

/-- **Tokens are read back** from what is written for them. -/
theorem lex_render {tokens : List Token} (h : Legible tokens) : lex (render tokens) = tokens :=
  lex_of_spelled h.spelled

/-! ## Numbers that cannot be written -/

/-- Where no token starts, a broken one is found. -/
lemma lex_broken {b : UInt8} {bytes : List UInt8} {what : Broken} (hblank : isBlank b = false)
    (h : lexToken b bytes = .error what) : lex (b :: bytes) = [.broken what] := by
  rw [lex, lexOnto, hblank, if_neg Bool.false_ne_true]
  split
  · rename_i heq
    rw [h] at heq
    cases heq
    rfl
  · rename_i heq
    rw [h] at heq
    cases heq

/-- What is written for a number that cannot be written has no token or a broken one. -/
lemma lex_number_of_not_proper {n : Numeral} (h : ¬n.Proper) :
    lex (render [.number n]) = [] ∨ ∃ what, lex (render [.number n]) = [.broken what] := by
  have hrender : render [.number n] = (if n.negative then [ascii '-'] else []) ++ magnitude n := by
    rw [render, List.flatMap_singleton, bytes_number]
  have hnumber : ∀ {b : UInt8} {bytes : List UInt8}, isBlank b = false →
      (∃ negative, lexToken b bytes = (lexNumber negative (magnitude n)).map
        fun read => (.number read.1, read.2)) →
      ∃ what, lex (b :: bytes) = [.broken what] := by
    rintro b bytes hblank ⟨negative, htoken⟩
    cases hread : lexNumber negative (magnitude n) with
    | ok read => exact absurd (proper_of_lexNumber hread) h
    | error what =>
      rw [hread] at htoken
      exact ⟨what, lex_broken hblank htoken⟩
  rw [hrender]
  cases hnegative : n.negative with
  | true =>
    refine .inr (hnumber (by decide) ⟨true, ?_⟩)
    have hfirst : mark? (ascii '-') = none ∧ word? (ascii '-') = none := by decide
    simp only [lexToken, hfirst.1, hfirst.2, if_neg (by decide : ascii '-' ≠ ascii '"'), if_true]
    rfl
  | false =>
    show lex (magnitude n) = [] ∨ ∃ what, lex (magnitude n) = [.broken what]
    cases hwhole : n.whole with
    | cons d ds =>
      obtain ⟨hdigit, hmark, hword, hquote, hminus, -, hblank⟩ := digit?_ascii d
      have hmagnitude : magnitude n =
          ascii d.char :: (digitBytes ds ++ (fractionBytes n.fraction ++ powerBytes n.power)) := by
        rw [magnitude, hwhole]
        rfl
      rw [hmagnitude]
      refine .inr (hnumber hblank ⟨false, ?_⟩)
      simp only [lexToken, hmark, hword, if_neg hquote, if_neg hminus, hdigit, Option.isSome_some,
        if_true, hmagnitude]
    | nil =>
      have hbyte : ∀ b, b = ascii '.' ∨ b = ascii 'e' → ∀ bytes,
          lex (b :: bytes) = [.broken .byte] := by
        rintro b (rfl | rfl) bytes <;> exact lex_broken (by decide) rfl
      have hmagnitude : magnitude n = fractionBytes n.fraction ++ powerBytes n.power := by
        rw [magnitude, hwhole]
        rfl
      rw [hmagnitude, fractionBytes]
      split
      · cases n.power with
        | none =>
          left
          show lex [] = []
          rw [lex, lexOnto, List.reverse_nil]
        | some p => exact .inr ⟨.byte, hbyte _ (.inr rfl) _⟩
      · exact .inr ⟨.byte, hbyte _ (.inl rfl) _⟩

/-! ## Tokens as a text -/

/-- What is written for a byte of ASCII is ASCII. -/
lemma ascii_escapeByte : ∀ n < 0x80, (escapeByte n.toUInt8).all fun b => b.toNat < 0x80 := by
  decide

/-- A byte beyond ASCII stands by itself. -/
lemma escapeByte_beyond {b : UInt8} (h : 0x80 ≤ b.toNat) : escapeByte b = [b] := by
  have hne : ∀ a : UInt8, a.toNat < 0x80 → b ≠ a := by
    rintro a ha rfl
    omega
  have hascii : (ascii '"').toNat < 0x80 ∧ (ascii '\\').toNat < 0x80 := by decide
  rw [escapeByte, if_neg (hne _ hascii.1), if_neg (hne _ hascii.2), if_pos (by omega)]

/-- What stands between quotes is a text. -/
lemma isText_escaped (s : String) : Utf8.IsText ((Utf8.encode s).flatMap escapeByte) := by
  rw [Utf8.encode, List.flatMap_assoc]
  refine Utf8.isText_flatMap fun c _ => ?_
  rcases Utf8.utf8EncodeChar_cases c with ⟨b, hb, hascii⟩ | hbeyond
  · have hbytes := ascii_escapeByte b.toNat hascii
    rw [Nat.toUInt8_eq, UInt8.ofNat_toNat] at hbytes
    rw [hb, List.flatMap_singleton]
    exact Utf8.isText_of_ascii hbytes
  · have hsame : (String.utf8EncodeChar c).flatMap escapeByte = String.utf8EncodeChar c := by
      conv_rhs => rw [← List.flatMap_singleton' (String.utf8EncodeChar c)]
      exact List.flatMap_congr fun b hb => escapeByte_beyond (hbeyond b hb)
    rw [hsame]
    exact Utf8.isText_char c

/-- What is written for a number is ASCII. -/
lemma ascii_number (n : Numeral) : (Token.number n).bytes.all fun b => b.toNat < 0x80 := by
  have hdigit : ∀ d : Digit, (ascii d.char).toNat < 0x80 := by decide
  have hdigits : ∀ ds : List Digit, (digitBytes ds).all fun b => b.toNat < 0x80 := by
    intro ds
    simpa [digitBytes] using fun d _ => hdigit d
  have hpoint : (ascii '.').toNat < 0x80 := by decide
  have hletter : (ascii 'e').toNat < 0x80 := by decide
  have hsign : (ascii '-').toNat < 0x80 ∧ (ascii '+').toNat < 0x80 := by decide
  have hfraction : (fractionBytes n.fraction).all fun b => b.toNat < 0x80 := by
    rw [fractionBytes]
    split
    · rfl
    · rw [List.all_cons, hdigits, decide_eq_true hpoint]
      rfl
  have hpower : (powerBytes n.power).all fun b => b.toNat < 0x80 := by
    cases n.power with
    | none => rfl
    | some p =>
      rw [powerBytes, List.all_cons, List.all_cons, hdigits, decide_eq_true hletter]
      split
      · rw [decide_eq_true hsign.1]
        rfl
      · rw [decide_eq_true hsign.2]
        rfl
  rw [bytes_number, magnitude, List.all_append, List.all_append, List.all_append, hdigits,
    hfraction, hpower]
  split
  · rw [List.all_cons, decide_eq_true hsign.1]
    rfl
  · rfl

/-- **What is written for tokens is a text.** -/
theorem isText_render {tokens : List Token} (h : Legible tokens) : Utf8.IsText (render tokens) := by
  have hquote : Utf8.IsText [ascii '"'] := Utf8.isText_of_ascii (by decide)
  have hfixed : ∀ token ∈ Token.fixed, token.bytes.all fun b => b.toNat < 0x80 := by decide
  induction h with
  | nil => exact ⟨"", rfl⟩
  | fixed htoken _ ih => exact (Utf8.isText_of_ascii (hfixed _ htoken)).append ih
  | text s _ ih => exact ((hquote.append (isText_escaped s)).append hquote).append ih
  | number _ _ _ ih => exact (Utf8.isText_of_ascii (ascii_number _)).append ih

end PenaltySettlement.Json
