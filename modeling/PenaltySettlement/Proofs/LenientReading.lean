import PenaltySettlement.Proofs.CharacterBytes

/-!
# Lenient reading of texts

Lenient reading gives back every text from its bytes. A character has up to four bytes: the bits of
its number stand in the first one, which says how many more there are, and then six in each of the
others.

## Main results

* `Utf8.decodeOnto_char` — a character is read from its bytes, whatever follows them.
* `Utf8.decodeLenient_encode` — a text is read from its bytes.
-/

set_option autoImplicit false

namespace PenaltySettlement.Utf8

/-! ## Bytes of a character -/

/-- A number of eight bits is that of its byte. -/
lemma toNat_ofNat {n : Nat} (h : n < 256) : (UInt8.ofNat n).toNat = n := by
  rw [UInt8.toNat_ofNat', Nat.mod_eq_of_lt h]

/-- The only byte of a character of ASCII. -/
lemma ofByte?_one {n : Nat} (h : n < 0x80) :
    Lead.ofByte? (UInt8.ofNat n) = some ⟨n, 0, 0, 0⟩ := by
  unfold Lead.ofByte?
  dsimp only
  rw [toNat_ofNat (by omega), if_pos h]

/-- The first byte of a character of two bytes. -/
lemma ofByte?_two {n : Nat} (h : 0xc2 ≤ n) (h' : n < 0xe0) :
    Lead.ofByte? (UInt8.ofNat n) = some ⟨n % 0x20, 1, 0x80, 0xbf⟩ := by
  unfold Lead.ofByte?
  dsimp only
  rw [toNat_ofNat (by omega), if_neg (by omega), if_neg (by omega), if_pos h']

/-- The first byte of a character of three bytes. -/
lemma ofByte?_three {n : Nat} (h : 0xe0 ≤ n) (h' : n < 0xf0) :
    Lead.ofByte? (UInt8.ofNat n) =
      some ⟨n % 0x10, 2, if n = 0xe0 then 0xa0 else 0x80, if n = 0xed then 0x9f else 0xbf⟩ := by
  unfold Lead.ofByte?
  dsimp only
  rw [toNat_ofNat (by omega), if_neg (by omega), if_neg (by omega), if_neg (by omega), if_pos h']

/-- The first byte of a character of four bytes. -/
lemma ofByte?_four {n : Nat} (h : 0xf0 ≤ n) (h' : n < 0xf5) :
    Lead.ofByte? (UInt8.ofNat n) =
      some ⟨n % 0x08, 3, if n = 0xf0 then 0x90 else 0x80, if n = 0xf4 then 0x8f else 0xbf⟩ := by
  unfold Lead.ofByte?
  dsimp only
  rw [toNat_ofNat (by omega), if_neg (by omega), if_neg (by omega), if_neg (by omega),
    if_neg (by omega), if_pos h']

/-- A byte within the bounds is read as six more bits. -/
lemma continued_ofNat {bits more least greatest n : Nat} (hn : n < 256) (hleast : least ≤ n)
    (hgreatest : n ≤ greatest) (rest : List UInt8) :
    continued bits (more + 1) least greatest (UInt8.ofNat n :: rest) =
      continued (bits * 0x40 + n % 0x40) more 0x80 0xbf rest := by
  rw [continued, toNat_ofNat hn, if_pos ⟨hleast, hgreatest⟩]

/-- A character that the bytes behind its first one complete is read. -/
lemma decodeOnto_of_continued {b : UInt8} {bits more least greatest n : Nat}
    {bytes rest : List UInt8} (hlead : Lead.ofByte? b = some ⟨bits, more, least, greatest⟩)
    (hmore : continued bits more least greatest bytes = continued n 0 0x80 0xbf rest)
    (done : List Char) : decodeOnto done (b :: bytes) = decodeOnto (Char.ofNat n :: done) rest := by
  rw [decodeOnto, hlead]
  dsimp only
  rw [hmore]
  cases rest <;> rfl

/-- **A character is read from its bytes**, whatever follows them.

**Proof sketch.** The number of bytes depends on the number of the character. In each case the first
byte is a lead with as many bytes behind it, those are within the bounds, since the number is not
one of the surrogates and not too large, and the bits of all of them are the number. -/
lemma decodeOnto_char (done : List Char) (c : Char) (rest : List UInt8) :
    decodeOnto done (String.utf8EncodeChar c ++ rest) = decodeOnto (c :: done) rest := by
  have hvalid : c.val.toNat.isValidChar := c.valid
  have hc : Char.ofNat c.val.toNat = c := Char.ofNat_toNat c
  unfold String.utf8EncodeChar
  dsimp only
  generalize c.val.toNat = v at hvalid hc
  subst hc
  unfold Nat.isValidChar at hvalid
  by_cases hone : v ≤ 0x7f
  · rw [if_pos hone]
    exact decodeOnto_of_continued (ofByte?_one (by omega)) (by cases rest <;> rfl) done
  rw [if_neg hone]
  by_cases htwo : v ≤ 0x7ff
  · rw [if_pos htwo]
    refine decodeOnto_of_continued (ofByte?_two (by omega) (by omega)) ?_ done
    refine (continued_ofNat (by omega) (by omega) (by omega) rest).trans ?_
    congr 1
    omega
  rw [if_neg htwo]
  by_cases hthree : v ≤ 0xffff
  · rw [if_pos hthree]
    refine decodeOnto_of_continued (ofByte?_three (by omega) (by omega)) ?_ done
    -- only the second byte of a long form or of a surrogate is out of the narrower bounds
    refine (continued_ofNat (by omega) ?_ ?_ _).trans ?_
    · split <;> omega
    · split <;> omega
    refine (continued_ofNat (by omega) (by omega) (by omega) rest).trans ?_
    congr 1
    omega
  · rw [if_neg hthree]
    refine decodeOnto_of_continued (ofByte?_four (by omega) (by omega)) ?_ done
    -- only that of a long form or of a number that is too large is
    refine (continued_ofNat (by omega) ?_ ?_ _).trans ?_
    · split <;> omega
    · split <;> omega
    refine (continued_ofNat (by omega) (by omega) (by omega) _).trans ?_
    refine (continued_ofNat (by omega) (by omega) (by omega) rest).trans ?_
    congr 1
    omega

/-- **A text is read from its bytes.** -/
theorem decodeLenient_encode (s : String) : decodeLenient (encode s) = s := by
  have hchars : ∀ chars done,
      decodeOnto done (chars.flatMap String.utf8EncodeChar) = done.reverse ++ chars := by
    intro chars
    induction chars with
    | nil =>
      intro done
      rw [List.flatMap_nil, decodeOnto, List.append_nil]
    | cons c chars ih =>
      intro done
      rw [List.flatMap_cons, decodeOnto_char, ih, List.reverse_cons, List.append_assoc,
        List.singleton_append]
  rw [decodeLenient, encode, hchars, List.reverse_nil, List.nil_append, String.ofList_toList]

end PenaltySettlement.Utf8
