import Mathlib.Data.List.Basic
import PenaltySettlement.Proofs.CharacterBytes
import PenaltySettlement.Url.Percent

/-!
# Percent coding undone

Percent coding can be undone when the percent sign itself is encoded, and all bytes beyond ASCII
with it: what stands there as it is then is an ASCII character and starts no code. A character that
is encoded does not occur any more.

## Main definitions

* `Percent.Safe` — a set of bytes that can be encoded so that the coding can be undone.

## Main results

* `Percent.decode_encode` — decoding undoes encoding.
* `Percent.not_mem_encode` — a character that is encoded does not occur.
-/

set_option autoImplicit false

namespace PenaltySettlement

namespace Percent

/-! ## Reading back -/

/-- A digit has the value that it was written for. -/
lemma hexValue?_hexDigit : ∀ n < 16, hexValue? (hexDigit n) = some n := by decide

/-- A byte is read back from its code. -/
lemma decode_encodeByte (b : UInt8) (rest : List Char) :
    decode (encodeByte b ++ rest) = b :: decode rest := by
  have hlt := b.toNat_lt
  have hhigh : hexValue? (hexDigit (b.toNat / 16)) = some (b.toNat / 16) :=
    hexValue?_hexDigit _ (by omega)
  have hlow : hexValue? (hexDigit (b.toNat % 16)) = some (b.toNat % 16) :=
    hexValue?_hexDigit _ (by omega)
  have hvalue : (b.toNat / 16 * 16 + b.toNat % 16).toUInt8 = b := by
    rw [Nat.div_add_mod']
    exact UInt8.ofNat_toNat
  show decode ('%' :: hexDigit (b.toNat / 16) :: hexDigit (b.toNat % 16) :: rest) = _
  simp only [decode, hhigh, hlow, hvalue]

/-- Any other character than the percent sign stands for itself. -/
lemma decode_cons {c : Char} (h : c ≠ '%') (rest : List Char) :
    decode (c :: rest) = String.utf8EncodeChar c ++ decode rest := by
  rw [decode]
  intro _ _ _ heq _
  exact h heq

/-- **A set of bytes** whose encoding can be undone. -/
structure Safe (isEncoded : UInt8 → Bool) : Prop where
  percent : isEncoded '%'.toUInt8 = true
  beyond : ∀ b : UInt8, 0x80 ≤ b.toNat → isEncoded b = true

variable {isEncoded : UInt8 → Bool}

/-- **Decoding undoes encoding.** -/
theorem decode_encode (safe : Safe isEncoded) (bytes : List UInt8) :
    decode (encode isEncoded bytes) = bytes := by
  induction bytes with
  | nil => rfl
  | cons b bytes ih =>
    rw [encode, List.flatMap_cons]
    cases hb : isEncoded b with
    | true =>
      rw [if_pos rfl, decode_encodeByte]
      exact congrArg (b :: ·) ih
    | false =>
      have hpercent : Char.ofNat b.toNat ≠ '%' := by
        intro heq
        have hbyte : b = '%'.toUInt8 := Utf8.char_injective heq
        rw [hbyte, safe.percent] at hb
        cases hb
      have hascii : b.toNat < 0x80 := by
        by_contra hbeyond
        rw [safe.beyond b (by omega)] at hb
        cases hb
      rw [if_neg Bool.false_ne_true, List.singleton_append, decode_cons hpercent,
        Utf8.utf8EncodeChar_char hascii]
      exact congrArg (b :: ·) ih

/-- A text is read back from its code. -/
lemma decode_encodeText (safe : Safe isEncoded) (text : List Char) :
    decode (encodeText isEncoded text).toList = Utf8.encode (String.ofList text) := by
  rw [encodeText, String.toList_ofList, decode_encode safe]

/-- Different texts have different codes. -/
lemma encodeText_injective (safe : Safe isEncoded) :
    Function.Injective (encodeText isEncoded) := by
  intro s t h
  have hbytes := congrArg (fun text => decode text.toList) h
  simp only [decode_encodeText safe] at hbytes
  exact String.ofList_injective (Utf8.encode_injective hbytes)

/-! ## What does not occur -/

/-- Codes hold a percent sign and digits only. -/
lemma mem_encodeByte {c : Char} {b : UInt8} (h : c ∈ encodeByte b) :
    c = '%' ∨ ∃ n < 16, c = hexDigit n := by
  have hlt := b.toNat_lt
  simp only [encodeByte, List.mem_cons, List.not_mem_nil, or_false] at h
  rcases h with rfl | rfl | rfl
  · exact .inl rfl
  · exact .inr ⟨_, by omega, rfl⟩
  · exact .inr ⟨_, by omega, rfl⟩

/-- **A character that is encoded does not occur**, if it is not one that codes are made of. -/
theorem not_mem_encode {mark : UInt8} (hmark : isEncoded mark = true)
    (hpercent : Char.ofNat mark.toNat ≠ '%') (hdigit : ∀ n < 16, Char.ofNat mark.toNat ≠ hexDigit n)
    (bytes : List UInt8) : Char.ofNat mark.toNat ∉ encode isEncoded bytes := by
  intro hmem
  obtain ⟨b, -, hb⟩ := List.mem_flatMap.1 hmem
  split at hb
  · rcases mem_encodeByte hb with heq | ⟨n, hn, heq⟩
    · exact hpercent heq
    · exact hdigit n hn heq
  · rename_i hplain
    have hbyte : mark = b := Utf8.char_injective (List.mem_singleton.1 hb)
    exact hplain (hbyte ▸ hmark)

end Percent

end PenaltySettlement
