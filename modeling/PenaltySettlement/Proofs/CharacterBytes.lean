import Mathlib.Tactic.Common
import PenaltySettlement.Text.Utf8

/-!
# Characters and their bytes

An ASCII character is a byte below `0x80`, and every other one has bytes from there on only. So
bytes of ASCII may stand between any characters, and what is put together of them is a text again.

## Main definitions

* `Utf8.IsText` — bytes that are those of a text.

## Main results

* `Utf8.encode_injective` — different texts have different bytes.
* `Utf8.isText_of_ascii`, `Utf8.isText_flatMap` — bytes that are a text.
-/

set_option autoImplicit false

namespace PenaltySettlement.Utf8

/-- Different texts have different bytes. -/
lemma encode_injective : Function.Injective encode := by
  intro s t h
  have hread := congrArg decode? h
  rw [decode?_encode, decode?_encode] at hread
  exact Option.some.inj hread

/-! ## Bytes of ASCII -/

/-- The number of the character of a byte is the byte. -/
lemma toNat_char (b : UInt8) : (Char.ofNat b.toNat).toNat = b.toNat := by
  have hlt := b.toNat_lt
  have hvalid : b.toNat.isValidChar := .inl (by omega)
  rw [Char.ofNat, dif_pos hvalid]
  rfl

/-- Different bytes have different characters. -/
lemma char_injective {a b : UInt8} (h : Char.ofNat a.toNat = Char.ofNat b.toNat) : a = b := by
  have hnat := congrArg Char.toNat h
  rw [toNat_char, toNat_char] at hnat
  exact UInt8.toNat_inj.1 hnat

/-- An ASCII character is a single byte. -/
lemma utf8EncodeChar_char {b : UInt8} (h : b.toNat < 0x80) :
    String.utf8EncodeChar (Char.ofNat b.toNat) = [b] := by
  have hnat : (Char.ofNat b.toNat).val.toNat = b.toNat := toNat_char b
  unfold String.utf8EncodeChar
  simp only [hnat]
  rw [if_pos (by omega)]
  simp

/-- A character is ASCII and a single byte, or has bytes beyond ASCII only. -/
lemma utf8EncodeChar_cases (c : Char) :
    (∃ b : UInt8, String.utf8EncodeChar c = [b] ∧ b.toNat < 0x80) ∨
      ∀ b ∈ String.utf8EncodeChar c, 0x80 ≤ b.toNat := by
  by_cases hascii : c.val.toNat ≤ 0x7f
  · refine .inl ⟨UInt8.ofNat c.val.toNat, by simp only [String.utf8EncodeChar, if_pos hascii], ?_⟩
    rw [UInt8.toNat_ofNat']
    omega
  · refine .inr fun b hb => ?_
    unfold String.utf8EncodeChar at hb
    dsimp only at hb
    rw [if_neg hascii] at hb
    split_ifs at hb <;> simp only [List.mem_cons, List.not_mem_nil, or_false] at hb
    · rcases hb with rfl | rfl <;> rw [UInt8.toNat_ofNat'] <;> omega
    · rcases hb with rfl | rfl | rfl <;> rw [UInt8.toNat_ofNat'] <;> omega
    · rcases hb with rfl | rfl | rfl | rfl <;> rw [UInt8.toNat_ofNat'] <;> omega

/-! ## Bytes of texts -/

/-- **Bytes that are those of a text.** -/
def IsText (bytes : List UInt8) : Prop := ∃ text : String, encode text = bytes

/-- Texts stand one behind the other. -/
lemma IsText.append {bytes more : List UInt8} (h : IsText bytes) (h' : IsText more) :
    IsText (bytes ++ more) := by
  obtain ⟨text, rfl⟩ := h
  obtain ⟨further, rfl⟩ := h'
  exact ⟨text ++ further, by simp [encode]⟩

/-- What is a text for each element is one for all of them. -/
lemma isText_flatMap {α : Type} {bytes : α → List UInt8} {elements : List α}
    (h : ∀ element ∈ elements, IsText (bytes element)) : IsText (elements.flatMap bytes) := by
  induction elements with
  | nil => exact ⟨"", rfl⟩
  | cons element elements ih =>
    obtain ⟨helement, helements⟩ := List.forall_mem_cons.1 h
    exact helement.append (ih helements)

/-- The bytes of a character are a text. -/
lemma isText_char (c : Char) : IsText (String.utf8EncodeChar c) :=
  ⟨String.ofList [c], by simp [encode]⟩

/-- Bytes of ASCII are a text. -/
lemma isText_of_ascii {bytes : List UInt8} (h : bytes.all fun b => b.toNat < 0x80) :
    IsText bytes := by
  have htext : IsText (bytes.flatMap fun b => [b]) := by
    refine isText_flatMap fun b hb => ?_
    have hascii : b.toNat < 0x80 := by simpa using List.all_eq_true.1 h b hb
    exact utf8EncodeChar_char hascii ▸ isText_char _
  rwa [List.flatMap_singleton'] at htext

end PenaltySettlement.Utf8
