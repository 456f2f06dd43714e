/-!
# UTF-8

Texts as bytes and back. Strict reading refuses bytes that are not UTF-8. Lenient reading shows
each maximal start of a character that is cut short, and each byte that starts none, as U+FFFD.

## Main definitions

* `Utf8.encode` — the bytes of a text.
* `Utf8.decode?` — strict reading.
* `Utf8.decodeLenient` — lenient reading.
-/

set_option autoImplicit false

namespace PenaltySettlement.Utf8

/-- The bytes of a text. -/
def encode (s : String) : List UInt8 := s.toList.flatMap String.utf8EncodeChar

/-- Strict reading: the text whose bytes are given, if there is one. -/
def decode? (bytes : List UInt8) : Option String :=
  (ByteArray.utf8Decode? bytes.toByteArray).map fun cs => String.ofList cs.toList

/-! ## Lenient reading -/

/-- What the first byte of a character says of the rest: its own bits, the number of bytes that
follow, and the bounds of the next one. The bounds are narrower than those of other continuation
bytes where a wider choice would give a long form, a surrogate or a number that is too large. -/
structure Lead where
  bits : Nat
  more : Nat
  least : Nat
  greatest : Nat

/-- The reading of a first byte. -/
def Lead.ofByte? (b : UInt8) : Option Lead :=
  let n := b.toNat
  if n < 0x80 then some ⟨n, 0, 0, 0⟩
  else if n < 0xc2 then none
  else if n < 0xe0 then some ⟨n % 0x20, 1, 0x80, 0xbf⟩
  else if n < 0xf0 then
    some ⟨n % 0x10, 2, if n = 0xe0 then 0xa0 else 0x80, if n = 0xed then 0x9f else 0xbf⟩
  else if n < 0xf5 then
    some ⟨n % 0x08, 3, if n = 0xf0 then 0x90 else 0x80, if n = 0xf4 then 0x8f else 0xbf⟩
  else none

/-- Reads `more` continuation bytes, the first one within the bounds, and gives the character with
the bytes behind it; a missing or unfit byte gives no character and is left unread. -/
def continued (bits : Nat) : (more least greatest : Nat) → List UInt8 → Option Char × List UInt8
  | 0, _, _, rest => (some (Char.ofNat bits), rest)
  | _ + 1, _, _, [] => (none, [])
  | more + 1, least, greatest, b :: rest =>
    if least ≤ b.toNat ∧ b.toNat ≤ greatest then
      continued (bits * 0x40 + b.toNat % 0x40) more 0x80 0xbf rest
    else (none, b :: rest)

/-- No more bytes are left than there were. -/
theorem length_continued (bits more least greatest : Nat) (bytes : List UInt8) :
    (continued bits more least greatest bytes).2.length ≤ bytes.length := by
  induction more generalizing bits least greatest bytes with
  | zero => cases bytes <;> simp [continued]
  | succ more ih =>
    cases bytes with
    | nil => simp [continued]
    | cons b rest =>
      rw [continued]
      split
      · exact Nat.le_trans (ih _ _ _ rest) (by simp)
      · simp

/-- Lenient reading, the characters read so far in reverse. -/
def decodeOnto (done : List Char) : List UInt8 → List Char
  | [] => done.reverse
  | b :: rest =>
    match Lead.ofByte? b with
    | none => decodeOnto ('\ufffd' :: done) rest
    | some lead =>
      let next := continued lead.bits lead.more lead.least lead.greatest rest
      have : next.2.length ≤ rest.length := length_continued _ _ _ _ rest
      decodeOnto (next.1.getD '\ufffd' :: done) next.2
termination_by bytes => bytes.length
decreasing_by
  · exact Nat.lt_succ_self _
  · exact Nat.lt_succ_of_le this

/-- Lenient reading: the text with U+FFFD where the bytes are not UTF-8. -/
def decodeLenient (bytes : List UInt8) : String := String.ofList (decodeOnto [] bytes)

/-! ## Lemmas -/

/-- The bytes of a text, as a byte array, are its UTF-8 encoding. -/
theorem toByteArray_encode (s : String) : (encode s).toByteArray = s.toList.utf8Encode := by
  rfl

/-- **Round trip.** A text is read back from its bytes. -/
@[simp]
theorem decode?_encode (s : String) : decode? (encode s) = some s := by
  rw [decode?, toByteArray_encode, List.utf8Decode?_utf8Encode]
  simp

end PenaltySettlement.Utf8
