import PenaltySettlement.Calendar.Reader
import PenaltySettlement.Proofs.AmountText

/-!
# Dates, instants and their texts

The text of a date or of an instant stands for it, in every year that there is, to the nanosecond
and also within a leap second. Every part of the text ends where its digits do, since what follows
is no digit, and reads as the number that was written.

## Main definitions

* `Calendar.NoDigit` — a text that does not go on with a digit.

## Main results

* `Date.parse_text` — the text of a date is read as the date.
* `Instant.parse_text` — the text of an instant is read as the instant.
-/

set_option autoImplicit false

namespace PenaltySettlement

namespace Calendar

open Date (paddedChars yearChars)

/-! ## Numbers -/

/-- **A text that does not go on with a digit.** -/
def NoDigit (text : List Char) : Prop := ∀ c ∈ text.head?, Digit.ofChar? c = none

/-- A text that goes on with another character. -/
lemma noDigit_cons {c : Char} (h : Digit.ofChar? c = none) (rest : List Char) :
    NoDigit (c :: rest) := by
  intro first hfirst
  exact Option.some.inj hfirst ▸ h

/-- Digits end where no digit follows. -/
lemma span_append {rest : List Char} (h : NoDigit rest) (ds : List Digit) :
    Digits.span (ds.map Digit.char ++ rest) = (ds, rest) := by
  induction ds with
  | nil =>
    cases rest with
    | nil => rfl
    | cons c rest =>
      have hc : Digit.ofChar? c = none := h c rfl
      simp only [List.map_nil, List.nil_append, Digits.span, hc]
  | cons d ds ih => simp only [List.map_cons, List.cons_append, Digits.span, Digit.ofChar?_char, ih]

/-- Digits are read as their number, if they fit the width. -/
lemma number_append {width : Option Nat} {ds : List Digit} {rest : List Char} (hds : ds ≠ [])
    (hrest : NoDigit rest) (hwidth : ∀ w ∈ width, ds.length ≤ w)
    (hsize : Digits.toNat ds < twoPow 63) :
    number width (ds.map Digit.char ++ rest) = .ok (Digits.toNat ds, rest) := by
  have htext : (ds.map Digit.char ++ rest).isEmpty = false := by
    cases ds with
    | nil => exact absurd rfl hds
    | cons d ds => rfl
  have hempty : ds.isEmpty = false := by simpa using hds
  have hread : ∀ taken : List Digit, taken = ds →
      (if (ds.map Digit.char ++ rest).isEmpty then Except.error Fault.tooShort
        else if taken.isEmpty then .error .invalid
        else if Digits.toNat taken < twoPow 63 then
          .ok (Digits.toNat taken, (ds.map Digit.char ++ rest).drop taken.length)
        else .error .outOfRange) = .ok (Digits.toNat ds, rest) := by
    rintro taken rfl
    rw [htext, hempty, if_neg Bool.false_ne_true, if_neg Bool.false_ne_true, if_pos hsize]
    simp
  unfold number
  rw [span_append hrest]
  cases width with
  | none => exact hread ds rfl
  | some w => exact hread _ (List.take_of_length_le (hwidth w rfl))

section

variable {width n : Nat} {rest : List Char}

/-- A number with zeros in front has a digit. -/
lemma padded_ne_nil (width n : Nat) : Digits.padded width (Digits.ofNat n) ≠ [] := by
  have := List.length_pos_iff.2 (Digits.ofNat_ne_nil n)
  rw [← List.length_pos_iff, Digits.length_padded]
  omega

/-- A number with zeros in front starts with a digit. -/
lemma exists_paddedChars (width n : Nat) : ∃ (first : Digit) (others : List Char),
    paddedChars width n = first.char :: others := by
  obtain ⟨first, others, hdigits⟩ := List.exists_cons_of_ne_nil (padded_ne_nil width n)
  exact ⟨first, others.map Digit.char, by rw [paddedChars, hdigits, List.map_cons]⟩

/-- A number with zeros in front is read back where any number of digits may stand. -/
lemma number_none (hrest : NoDigit rest) (hsize : n < twoPow 63) :
    number none (paddedChars width n ++ rest) = .ok (n, rest) := by
  have hvalue : Digits.toNat (Digits.padded width (Digits.ofNat n)) = n := by
    rw [Digits.toNat_padded, Digits.toNat_ofNat]
  have hlimit : ∀ w ∈ (none : Option Nat), (Digits.padded width (Digits.ofNat n)).length ≤ w :=
    nofun
  have hread := number_append (padded_ne_nil width n) hrest hlimit (by omega)
  rwa [hvalue] at hread

/-- A number with zeros in front is read back where its digits have room. -/
lemma number_some {limit : Nat} (hrest : NoDigit rest) (hwidth : 0 < width) (hle : width ≤ limit)
    (hn : n < 10 ^ width) (hsize : n < twoPow 63) :
    number (some limit) (paddedChars width n ++ rest) = .ok (n, rest) := by
  have hvalue : Digits.toNat (Digits.padded width (Digits.ofNat n)) = n := by
    rw [Digits.toNat_padded, Digits.toNat_ofNat]
  have hlimit : ∀ w ∈ some limit, (Digits.padded width (Digits.ofNat n)).length ≤ w := by
    intro w hw
    have := Option.some.inj hw
    rw [Digits.length_padded_ofNat hwidth hn]
    omega
  have hread := number_append (padded_ne_nil width n) hrest hlimit (by omega)
  rwa [hvalue] at hread

/-- There is no white space in front of a number. -/
lemma trimStart_paddedChars (width n : Nat) (rest : List Char) :
    Text.trimStart (paddedChars width n ++ rest) = paddedChars width n ++ rest := by
  have hspace : ∀ d : Digit, Text.isSpace d.char = false := by decide
  obtain ⟨first, others, hchars⟩ := exists_paddedChars width n
  rw [hchars, List.cons_append, Text.trimStart, List.dropWhile_cons, hspace,
    if_neg Bool.false_ne_true]

/-- A part of two digits is read back. -/
lemma part_paddedChars {least greatest : Nat} (hrest : NoDigit rest) (hleast : least ≤ n)
    (hgreatest : n ≤ greatest) (hsmall : n < 100) :
    part least greatest (paddedChars 2 n ++ rest) = .ok (n, rest) := by
  have hsize : n < twoPow 63 := Nat.lt_trans hsmall (by decide)
  unfold part
  rw [trimStart_paddedChars, number_some hrest (by decide) (Nat.le_refl 2) hsmall hsize]
  exact if_pos ⟨hleast, hgreatest⟩

/-- A separator is read where it stands. -/
lemma separator_cons {c : Char} (h : Text.isSpace c = false) (rest : List Char) :
    separator c (c :: rest) = .ok ((), rest) := by
  rw [separator, Text.trimStart, List.dropWhile_cons, h, if_neg Bool.false_ne_true]
  exact if_pos rfl

end

/-! ## Dates -/

section

variable {n : Nat} {rest : List Char} (hrest : NoDigit rest)

include hrest

/-- Four digits are a year. -/
lemma year_paddedChars (hn : n < 10000) :
    year (paddedChars 4 n ++ rest) = .ok ((n : Int), rest) := by
  have hbound : twoPow 31 = 2147483648 ∧ twoPow 63 = 9223372036854775808 := by decide
  have hread : number (some 4) (paddedChars 4 n ++ rest) = .ok (n, rest) :=
    number_some hrest (by decide) (Nat.le_refl 4) hn (by omega)
  have hrange : -(twoPow 31 : Int) ≤ n ∧ (n : Int) < twoPow 31 := by omega
  obtain ⟨first, others, hchars⟩ := exists_paddedChars 4 n
  obtain ⟨hminus, hplus⟩ := first.char_ne_sign
  unfold year
  rw [trimStart_paddedChars]
  rw [hchars, List.cons_append] at hread ⊢
  split
  · rename_i heq
    exact absurd (List.cons.inj heq).1 hminus
  · rename_i heq
    exact absurd (List.cons.inj heq).1 hplus
  · simp only [hread, Except.map, bind, Except.bind, if_pos hrange]
    rfl

/-- Behind a sign any number of digits is a year. -/
lemma year_minus (hn : n < twoPow 31) :
    year ('-' :: (paddedChars 4 n ++ rest)) = .ok (-(n : Int), rest) := by
  have hbound : twoPow 31 = 2147483648 ∧ twoPow 63 = 9223372036854775808 := by decide
  have hread : number none (paddedChars 4 n ++ rest) = .ok (n, rest) :=
    number_none hrest (by omega)
  have hrange : -(twoPow 31 : Int) ≤ -(n : Int) ∧ -(n : Int) < twoPow 31 := by omega
  have hspace : Text.isSpace '-' = false := by decide
  simp only [year, Text.trimStart, List.dropWhile_cons, hspace, Bool.false_eq_true, if_false, hread,
    Except.map, bind, Except.bind, if_pos hrange]
  rfl

/-- The same holds behind a plus sign. -/
lemma year_plus (hn : n < twoPow 31) :
    year ('+' :: (paddedChars 4 n ++ rest)) = .ok ((n : Int), rest) := by
  have hbound : twoPow 31 = 2147483648 ∧ twoPow 63 = 9223372036854775808 := by decide
  have hread : number none (paddedChars 4 n ++ rest) = .ok (n, rest) :=
    number_none hrest (by omega)
  have hrange : -(twoPow 31 : Int) ≤ n ∧ (n : Int) < twoPow 31 := by omega
  have hspace : Text.isSpace '+' = false := by decide
  simp only [year, Text.trimStart, List.dropWhile_cons, hspace, Bool.false_eq_true, if_false, hread,
    Except.map, bind, Except.bind, if_pos hrange]
  rfl

/-- A year is read back. -/
lemma year_yearChars {y : Int} (hleast : Date.firstYear ≤ y) (hgreatest : y ≤ Date.lastYear) :
    year (yearChars y ++ rest) = .ok (y, rest) := by
  have hbound : twoPow 31 = 2147483648 := by decide
  simp only [Date.firstYear, Date.lastYear] at hleast hgreatest
  have hsize : y.natAbs < twoPow 31 := by omega
  unfold yearChars
  split
  · have hvalue : (y.natAbs : Int) = y := by omega
    rw [year_paddedChars hrest (by omega), hvalue]
  · split
    · have hvalue : -(y.natAbs : Int) = y := by omega
      rw [List.cons_append, year_minus hrest hsize, hvalue]
    · have hvalue : (y.natAbs : Int) = y := by omega
      rw [List.cons_append, year_plus hrest hsize, hvalue]

end

/-- The month of a date is one of twelve, and its day is one of thirty-one. -/
lemma parts_of_exists {y : Int} {month day : Nat} (h : Date.Exists y month day) :
    (1 ≤ month ∧ month ≤ 12) ∧ (1 ≤ day ∧ day ≤ 31) := by
  obtain ⟨-, hleast, hgreatest⟩ := h
  unfold Date.daysIn at hgreatest
  split at hgreatest <;> try split at hgreatest
  all_goals omega

/-- The parts of a date are read back. -/
lemma dateParts_chars (d : Date) {rest : List Char} (hrest : NoDigit rest) :
    dateParts (d.chars ++ rest) = .ok ((d.year, d.month, d.day), rest) := by
  have hhyphen : Digit.ofChar? '-' = none ∧ Text.isSpace '-' = false := by decide
  obtain ⟨⟨hfirst, hlast⟩, -⟩ := d.exists_parts
  obtain ⟨⟨hmonth, hmonth'⟩, hday, hday'⟩ := parts_of_exists d.exists_parts
  have htext : d.chars ++ rest = yearChars d.year ++
      ('-' :: (paddedChars 2 d.month ++ ('-' :: (paddedChars 2 d.day ++ rest)))) := by
    simp only [Date.chars, List.append_assoc, List.cons_append]
  rw [htext]
  unfold dateParts
  simp only [year_yearChars (noDigit_cons hhyphen.1 _) hfirst hlast, separator_cons hhyphen.2,
    part_paddedChars (noDigit_cons hhyphen.1 _) hmonth hmonth' (by omega),
    part_paddedChars hrest hday hday' (by omega), bind, Except.bind, pure, Except.pure]

/-- A date is the one with its parts. -/
lemma ofParts?_parts (d : Date) : Date.ofParts? d.year d.month d.day = some d :=
  dif_pos d.exists_parts

/-! ## Times of day -/

/-- The fraction of a second is read back. -/
lemma fraction_padded {width n : Nat} {rest : List Char} (hrest : NoDigit rest)
    (hwidth : 0 < width) (hle : width ≤ 9) (hn : n < 10 ^ width) :
    fraction ('.' :: (paddedChars width n ++ rest)) = .ok (n * tenPow (9 - width), rest) := by
  have hsize : n < twoPow 63 := by
    have hpow : 10 ^ width ≤ 10 ^ 9 := Nat.pow_le_pow_right (by decide) hle
    have hbound : twoPow 63 = 9223372036854775808 := by decide
    omega
  have hcount : (paddedChars width n ++ rest).length - rest.length = width := by
    rw [List.length_append, paddedChars, List.length_map, Digits.length_padded_ofNat hwidth hn]
    omega
  have hend : rest.dropWhile (fun c => (Digit.ofChar? c).isSome) = rest := by
    cases rest with
    | nil => rfl
    | cons c rest =>
      have hc : Digit.ofChar? c = none := hrest c rfl
      rw [List.dropWhile_cons, hc]
      rfl
  simp only [fraction, number_some hrest hwidth hle hn hsize, bind, Except.bind, pure, Except.pure,
    hcount, hend]

/-- Nanoseconds are read back from their fraction. -/
lemma fraction_chars {nano : Nat} (h : nano < 1000000000) :
    fraction (Instant.fractionChars nano ++ ['Z']) = .ok (nano, ['Z']) := by
  have hend : NoDigit ['Z'] := noDigit_cons (by decide) []
  have hpow : tenPow 0 = 1 ∧ tenPow 3 = 1000 ∧ tenPow 6 = 1000000 := by decide
  unfold Instant.fractionChars
  split_ifs with hzero hmillis hmicros
  · rw [hzero]
    rfl
  · rw [List.cons_append, fraction_padded hend (by decide) (by decide) (by omega), hpow.2.2]
    congr 2
    omega
  · rw [List.cons_append, fraction_padded hend (by decide) (by decide) (by omega), hpow.2.1]
    congr 2
    omega
  · rw [List.cons_append, fraction_padded hend (by decide) (by decide) (by omega), hpow.1,
      Nat.mul_one]

/-- What follows the seconds of a time of day is no digit. -/
lemma noDigit_fractionChars (nano : Nat) : NoDigit (Instant.fractionChars nano ++ ['Z']) := by
  have hpoint : Digit.ofChar? '.' = none := by decide
  unfold Instant.fractionChars
  split_ifs
  · exact noDigit_cons (by decide) []
  · exact noDigit_cons hpoint _
  · exact noDigit_cons hpoint _
  · exact noDigit_cons hpoint _

/-- A time of day is read back. -/
lemma timeParts_chars {hour minute second nano : Nat} (hhour : hour ≤ 23) (hminute : minute ≤ 59)
    (hsecond : second ≤ 60) (hnano : nano < 1000000000) :
    timeParts (paddedChars 2 hour ++ (':' :: (paddedChars 2 minute ++ (':' ::
      (paddedChars 2 second ++ (Instant.fractionChars nano ++ ['Z'])))))) =
      .ok ((hour, minute, second, nano), ['Z']) := by
  have hcolon : Digit.ofChar? ':' = none ∧ Text.isSpace ':' = false := by decide
  have hend : Text.trimStart ['Z'] = ['Z'] := by decide
  unfold timeParts
  simp only [separator_cons hcolon.2, fraction_chars hnano,
    part_paddedChars (noDigit_cons hcolon.1 _) (Nat.zero_le _) hhour (by omega),
    part_paddedChars (noDigit_cons hcolon.1 _) (Nat.zero_le _) hminute (by omega),
    part_paddedChars (noDigit_fractionChars _) (Nat.zero_le _) hsecond (by omega),
    bind, Except.bind, pure, Except.pure, hend]

end Calendar

/-- **The text of a date is read as the date.** -/
theorem Date.parse_text (d : Date) : Date.parse d.text = .ok d := by
  have hparts : Calendar.dateParts d.text.toList = .ok ((d.year, d.month, d.day), []) := by
    have hend : Calendar.NoDigit [] := nofun
    simpa [Date.text] using Calendar.dateParts_chars d hend
  unfold Date.parse
  simp only [hparts, Calendar.ofParts?_parts, bind, Except.bind]
  rfl

namespace Instant

/-- The second that is written for an instant: a leap second is the sixtieth. -/
def writtenSecond (t : Instant) : Nat := if 1000000000 ≤ t.nano then t.second + 1 else t.second

/-- The nanoseconds that are written for an instant. -/
def writtenNano (t : Instant) : Nat :=
  if 1000000000 ≤ t.nano then t.nano - 1000000000 else t.nano

/-- What is written for an instant is in range. -/
lemma written_le (t : Instant) : t.writtenSecond ≤ 60 ∧ t.writtenNano < 1000000000 := by
  have hsecond := t.second_lt
  have hnano := t.nano_lt
  unfold writtenSecond writtenNano
  split at hnano <;> split_ifs <;> omega

/-- What is written for an instant tells its second and its nanoseconds. -/
lemma written_leap (t : Instant) :
    (if t.writtenSecond = 60 then (59, t.writtenNano + 1000000000)
      else (t.writtenSecond, t.writtenNano)) = (t.second, t.nano) := by
  have hsecond := t.second_lt
  have hnano := t.nano_lt
  unfold writtenSecond writtenNano
  by_cases hleap : 1000000000 ≤ t.nano
  · -- only the fifty-ninth second is as long
    have hlast : t.second = 59 := by
      by_contra hother
      rw [if_neg hother] at hnano
      omega
    rw [if_pos hleap, if_pos hleap, hlast, if_pos rfl]
    congr 1
    omega
  · rw [if_neg hleap, if_neg hleap, if_neg (by omega)]

/-- The characters of an instant, one part behind the other. -/
lemma toList_text (t : Instant) : t.text.toList = t.date.chars ++ ('T' ::
    (Date.paddedChars 2 (t.minute / 60) ++ (':' :: (Date.paddedChars 2 (t.minute % 60) ++ (':' ::
      (Date.paddedChars 2 t.writtenSecond ++ (fractionChars t.writtenNano ++ ['Z']))))))) := by
  simp only [text, chars, String.toList_ofList, writtenSecond, writtenNano, List.append_assoc,
    List.cons_append]

/-- An instant is the one with its parts, where universal time is local. -/
lemma ofLocal?_parts (t : Instant) :
    ofLocal? t.date t.minute t.second t.nano 0 = some t := by
  have hminute := t.minute_lt
  have hparts : ofParts? t.date t.minute t.second t.nano = some t :=
    dif_pos ⟨t.minute_lt, t.second_lt, t.nano_lt⟩
  unfold ofLocal?
  simp only [Int.sub_zero, Int.toNat_natCast, hparts]
  rw [if_neg (by omega), if_pos (by omega)]

/-- **The text of an instant is read as the instant.** -/
theorem parse_text (t : Instant) : parse t.text = .ok t := by
  have hminute := t.minute_lt
  obtain ⟨hsecond, hnano⟩ := t.written_le
  have hT : Digit.ofChar? 'T' = none := by decide
  have hdate : Calendar.dateParts t.text.toList = _ :=
    t.toList_text ▸ Calendar.dateParts_chars t.date (Calendar.noDigit_cons hT _)
  have hhour : t.minute / 60 ≤ 23 := by omega
  have hrest : t.minute % 60 ≤ 59 := by omega
  have htime := Calendar.timeParts_chars hhour hrest hsecond hnano
  have hoffset : Calendar.offset ['Z'] = .ok (0, []) := by decide
  have hwhole : 60 * (t.minute / 60) + t.minute % 60 = t.minute := Nat.div_add_mod ..
  unfold parse
  simp only [hdate, htime, hoffset, Calendar.ofParts?_parts, bind, Except.bind, pure, Except.pure,
    true_or, if_true, written_leap, hwhole, ofLocal?_parts]
  rfl

end Instant

end PenaltySettlement
