import Mathlib
import PowerProduct.Proofs.HexNumerals
import PowerProduct.Proofs.Trimming

/-!
# Reading hexadecimal text

The numeral of a text is what is left of it without the blanks at its ends and
then without the marks `0x` at its front (`numeral_eq_iff`). `Reading` says what
a text is read as: the buffer of its numeral if that consists of digits, and
otherwise a report of the first byte that is not a digit. The bytes are those of
the numeral in UTF-8, with a zero in front of an odd number of them, and the
position is counted among these.

`parse` yields exactly this (`parse_iff_reading`). It reads what `encode` has
written, also with capital letters, behind marks and between blanks
(`parse_of_encoded`). `parse_reads_numerals` states all of it.
-/

set_option autoImplicit false

namespace PowerProduct.Hex

open Buffer

/-! ## The numeral of a text -/

/-- The mark `0x`, `count` times. -/
def marks : Nat → List Char
  | 0 => []
  | count + 1 => '0' :: 'x' :: marks count

/-- `rest` is `text` without the marks at its front. -/
structure Unmarked (text rest : List Char) : Prop where
  split : ∃ count, text = marks count ++ rest
  not_marked : ¬ ['0', 'x'] <+: rest

/-- `digits` is the part of `text` that has to consist of digits. -/
def NumeralOf (text digits : List Char) : Prop :=
  ∃ core, Text.Trimmed text core ∧ Unmarked core digits

theorem dropMarks_marks_append (count : Nat) (rest : List Char) :
    dropMarks (marks count ++ rest) = dropMarks rest := by
  induction count with
  | zero => rfl
  | succ count ih => exact ih

theorem dropMarks_of_not_marked {rest : List Char} (h : ¬ ['0', 'x'] <+: rest) :
    dropMarks rest = rest := by
  fun_induction dropMarks rest with
  | case1 rest _ => exact absurd (List.prefix_append ['0', 'x'] rest) h
  | case2 rest _ => rfl

theorem unmarked_dropMarks (text : List Char) : Unmarked text (dropMarks text) := by
  fun_induction dropMarks text with
  | case1 rest ih =>
      obtain ⟨⟨count, hsplit⟩, hmark⟩ := ih
      refine ⟨⟨count + 1, ?_⟩, hmark⟩
      rw [marks, List.cons_append, List.cons_append, ← hsplit]
  | case2 text hmark =>
      refine ⟨⟨0, rfl⟩, ?_⟩
      rintro ⟨rest, hrest⟩
      exact hmark rest hrest.symm

/-- A text has one numeral, and it is what `numeral` yields. -/
theorem numeral_eq_iff {text digits : List Char} :
    numeral text = digits ↔ NumeralOf text digits := by
  constructor
  · rintro rfl
    exact ⟨Text.trim text, Text.trimmed_trim text, unmarked_dropMarks _⟩
  · rintro ⟨core, hcore, ⟨count, hsplit⟩, hmark⟩
    rw [numeral, Text.trim_of_trimmed hcore, hsplit, dropMarks_marks_append,
      dropMarks_of_not_marked hmark]

/-! ## The bytes of a numeral -/

/-- The bytes of a text in UTF-8. -/
def utf8Bytes (text : List Char) : List UInt8 := (String.ofList text).toUTF8.data.toList

/-- The text, behind a zero if its bytes are odd in number. -/
def evenText (text : List Char) : List Char :=
  if (utf8Bytes text).length % 2 = 1 then '0' :: text else text

/-- The byte is the code of a hexadecimal digit. -/
def IsDigitByte (byte : UInt8) : Prop := IsDigit (Char.ofNat byte.toNat)

theorem utf8Bytes_eq_flatMap (text : List Char) :
    utf8Bytes text = text.flatMap String.utf8EncodeChar := by
  simp [utf8Bytes, List.utf8Encode]

theorem evenBytes_eq_utf8Bytes (text : List Char) :
    evenBytes text = utf8Bytes (evenText text) := by
  have hzero : String.utf8EncodeChar '0' = [0x30] := by decide
  simp only [evenBytes, evenText, utf8Bytes_eq_flatMap]
  split
  · rw [List.flatMap_cons, hzero]
    rfl
  · rfl

theorem digitValue?_eq_none_iff {byte : UInt8} : digitValue? byte = none ↔ ¬ IsDigitByte byte := by
  rcases Nat.lt_or_ge byte.toNat 128 with hascii | hlarge
  · have hvalue := digitValue?_ofNat byte.toNat hascii
    rw [UInt8.ofNat_toNat] at hvalue
    rw [hvalue, IsDigitByte]
    split
    case isTrue hdigit => simp [hdigit]
    case isFalse hdigit => simp [hdigit]
  · -- a byte that is not ASCII is the code of no digit
    have hcode : (Char.ofNat byte.toNat).toNat = byte.toNat := by
      have hlt : byte.toNat < 256 := byte.toNat_lt
      rw [Char.toNat_ofNat, if_pos (Or.inl (by omega))]
    simp only [digitValue?_of_large hlarge, true_iff]
    intro hdigit
    have hsmall := toNat_lt_of_isDigit hdigit
    omega

theorem readDigit_of_digit {byte : UInt8} (h : IsDigitByte byte) (position : Nat) :
    ∃ value, readDigit position byte = .ok value := by
  cases hvalue : digitValue? byte with
  | none => exact absurd h (digitValue?_eq_none_iff.1 hvalue)
  | some value => exact ⟨value, by rw [readDigit, hvalue]⟩

theorem readDigit_of_not_digit {byte : UInt8} (h : ¬ IsDigitByte byte) (position : Nat) :
    readDigit position byte = .error (.invalidByte byte position) := by
  rw [readDigit, digitValue?_eq_none_iff.2 h]

/-- Reading pairs ends at the first byte that is not a digit, whether it is the
first of its pair or the second. -/
theorem readPairs_of_first_invalid {before after : List UInt8} {byte : UInt8} (position : Nat)
    (heven : (before ++ byte :: after).length % 2 = 0) (hbefore : ∀ b ∈ before, IsDigitByte b)
    (hbyte : ¬ IsDigitByte byte) :
    readPairs position (before ++ byte :: after) =
      .error (.invalidByte byte (position + before.length)) := by
  match before with
  | [] =>
      cases after with
      | nil => simp at heven
      | cons low rest =>
          rw [List.nil_append, readPairs, readDigit_of_not_digit hbyte]
          rfl
  | [high] =>
      obtain ⟨value, hhigh⟩ := readDigit_of_digit (hbefore high (by simp)) position
      rw [List.cons_append, List.nil_append, readPairs, hhigh, readDigit_of_not_digit hbyte]
      rfl
  | high :: low :: rest =>
      rw [List.forall_mem_cons, List.forall_mem_cons] at hbefore
      obtain ⟨hhigh, hlow, hrest⟩ := hbefore
      obtain ⟨highValue, hhigh⟩ := readDigit_of_digit hhigh position
      obtain ⟨lowValue, hlow⟩ := readDigit_of_digit hlow (position + 1)
      have htail : (rest ++ byte :: after).length % 2 = 0 := by
        simp only [List.cons_append, List.length_cons] at heven
        omega
      have hposition : position + 2 + rest.length = position + (high :: low :: rest).length := by
        simp only [List.length_cons]
        omega
      rw [List.cons_append, List.cons_append, readPairs, hhigh, hlow,
        readPairs_of_first_invalid (position + 2) htail hrest hbyte, hposition]
      rfl

theorem exists_first_invalid {bytes : List UInt8} (h : ¬ ∀ byte ∈ bytes, IsDigitByte byte) :
    ∃ before byte after, bytes = before ++ byte :: after ∧
      (∀ b ∈ before, IsDigitByte b) ∧ ¬ IsDigitByte byte := by
  induction bytes with
  | nil => simp at h
  | cons first rest ih =>
      by_cases hfirst : IsDigitByte first
      case neg => exact ⟨[], first, rest, rfl, by simp, hfirst⟩
      -- a first such byte of the rest is the first of all, since this one is a digit
      have hrest : ¬ ∀ byte ∈ rest, IsDigitByte byte := by
        intro hall
        exact h (List.forall_mem_cons.2 ⟨hfirst, hall⟩)
      obtain ⟨before, byte, after, rfl, hbefore, hbyte⟩ := ih hrest
      exact ⟨first :: before, byte, after, rfl, List.forall_mem_cons.2 ⟨hfirst, hbefore⟩, hbyte⟩

/-- A numeral whose bytes are digits consists of digits. -/
theorem isDigit_of_evenBytes {digits : List Char} (h : ∀ byte ∈ evenBytes digits, IsDigitByte byte) :
    ∀ c ∈ digits, IsDigit c := by
  intro c hc
  apply isDigit_of_bytes
  intro byte hbyte hnone
  have hmem : byte ∈ evenBytes digits := mem_evenBytes (List.mem_flatMap.2 ⟨c, hc, hbyte⟩)
  exact digitValue?_eq_none_iff.1 hnone (h byte hmem)

/-! ## Readings -/

/-- What a text is read as. -/
inductive Reading (text : String) : Except Invalid Buffer → Prop where
  /-- A numeral of digits is read as a buffer with a byte for every two digits,
  rounded up, that holds its number in base sixteen. -/
  | buffer {digits : List Char} {buffer : Buffer} (h : NumeralOf text.toList digits)
      (hdigits : ∀ c ∈ digits, IsDigit c) (hlen : buffer.length = (digits.length + 1) / 2)
      (hvalue : buffer.value = number digits) : Reading text (.ok buffer)
  /-- Any other numeral is reported with the first of its bytes that is not a
  digit. -/
  | invalid {numeral : List Char} {before after : List UInt8} {byte : UInt8}
      (h : NumeralOf text.toList numeral)
      (hbytes : utf8Bytes (evenText numeral) = before ++ byte :: after)
      (hbefore : ∀ b ∈ before, IsDigitByte b) (hbyte : ¬ IsDigitByte byte) :
      Reading text (.error ⟨numeral, .invalidByte byte before.length⟩)

section Readings

variable {text : String}

theorem parse_of_first_invalid {before after : List UInt8} {byte : UInt8}
    (hbytes : evenBytes (numeral text.toList) = before ++ byte :: after)
    (hbefore : ∀ b ∈ before, IsDigitByte b) (hbyte : ¬ IsDigitByte byte) :
    parse text = .error ⟨numeral text.toList, .invalidByte byte before.length⟩ := by
  have heven := length_evenBytes (numeral text.toList)
  rw [hbytes] at heven
  have hdecode : decode (evenBytes (numeral text.toList)) =
      .error (.invalidByte byte before.length) := by
    rw [decode_evenBytes, hbytes, readPairs_of_first_invalid 0 heven hbefore hbyte, Nat.zero_add]
  rw [parse, hdecode]

/-- A reading of a text is what the text is read as. -/
theorem Reading.eq {outcome : Except Invalid Buffer} (h : Reading text outcome) :
    parse text = outcome := by
  cases h with
  | buffer h hdigits hlen hvalue =>
      rw [← numeral_eq_iff] at h
      subst h
      exact parse_eq_ok_iff.2 ⟨hdigits, hlen, hvalue⟩
  | invalid h hbytes hbefore hbyte =>
      rw [← numeral_eq_iff] at h
      subst h
      rw [← evenBytes_eq_utf8Bytes] at hbytes
      exact parse_of_first_invalid hbytes hbefore hbyte

theorem reading_parse (text : String) : Reading text (parse text) := by
  have hnumeral : NumeralOf text.toList (numeral text.toList) := numeral_eq_iff.1 rfl
  by_cases hbytes : ∀ byte ∈ evenBytes (numeral text.toList), IsDigitByte byte
  · have hdigits := isDigit_of_evenBytes hbytes
    have hparse := parse_eq_ok_iff_decode.2 (decode_evenBytes_of_digits hdigits)
    obtain ⟨-, hlen, hvalue⟩ := parse_eq_ok_iff.1 hparse
    rw [hparse]
    exact .buffer hnumeral hdigits hlen hvalue
  · obtain ⟨before, byte, after, hsplit, hbefore, hbyte⟩ := exists_first_invalid hbytes
    rw [parse_of_first_invalid hsplit hbefore hbyte]
    rw [evenBytes_eq_utf8Bytes] at hsplit
    exact .invalid hnumeral hsplit hbefore hbyte

/-- A text is read as its reading says. -/
theorem parse_iff_reading {outcome : Except Invalid Buffer} :
    parse text = outcome ↔ Reading text outcome := by
  constructor
  · rintro rfl
    exact reading_parse text
  · exact Reading.eq

/-- A text is accepted exactly if its numeral consists of digits. -/
theorem exists_parse_eq_ok_iff {digits : List Char} (h : NumeralOf text.toList digits) :
    (∃ buffer, parse text = .ok buffer) ↔ ∀ c ∈ digits, IsDigit c := by
  rw [← numeral_eq_iff] at h
  subst h
  constructor
  · rintro ⟨buffer, hparse⟩
    exact (parse_eq_ok_iff.1 hparse).1
  · intro hdigits
    exact ⟨_, parse_eq_ok_iff_decode.2 (decode_evenBytes_of_digits hdigits)⟩

/-- A zero in front keeps the number of digits from being odd. -/
theorem parse_ne_oddLength (text : String) (numeral : List Char) :
    parse text ≠ .error ⟨numeral, .oddLength⟩ := by
  intro h
  cases parse_iff_reading.1 h

end Readings

/-! ## Written buffers -/

theorem isBlank_of_isDigit {c : Char} (h : IsDigit c) : Text.isBlank c = false :=
  forall_ascii (P := fun c => IsDigit c → Text.isBlank c = false) (by decide)
    (toNat_lt_of_isDigit h) h

theorem toNat_lt_of_toLower {c : Char} (h : c.toLower.toNat < 128) : c.toNat < 128 := by
  by_cases hcapital : c.val ≥ 'A'.val ∧ c.val ≤ 'Z'.val
  · exact lt_of_le_of_lt (UInt32.le_iff_toNat_le.1 hcapital.2) (by decide)
  · rwa [Char.toLower, dif_neg hcapital] at h

/-- A capital letter is the same digit as the small one. -/
theorem isDigit_of_toLower {c : Char} (h : IsLowerDigit c.toLower) :
    IsDigit c ∧ digitNumber c = digitNumber c.toLower :=
  forall_ascii
    (P := fun c => IsLowerDigit c.toLower → IsDigit c ∧ digitNumber c = digitNumber c.toLower)
    (by decide) (toNat_lt_of_toLower (toNat_lt_of_isDigit (Or.inl h))) h

theorem numberFrom_map_toLower {digits : List Char} (h : ∀ c ∈ digits, IsLowerDigit c.toLower)
    (front : Nat) : numberFrom front (digits.map Char.toLower) = numberFrom front digits := by
  induction digits generalizing front with
  | nil => rfl
  | cons c rest ih =>
      obtain ⟨hc, hrest⟩ := List.forall_mem_cons.1 h
      rw [List.map_cons, numberFrom_cons, numberFrom_cons, ih hrest, (isDigit_of_toLower hc).2]

theorem mem_marks {count : Nat} : ∀ c ∈ marks count, c = '0' ∨ c = 'x' := by
  induction count with
  | zero => simp [marks]
  | succ count ih => simpa [marks] using ih

section Framed

variable {front digits back : List Char} {count : Nat}

/-- Digits behind marks and between blanks are the numeral of their text. -/
theorem numeralOf_framed (hfront : ∀ c ∈ front, Text.isBlank c = true)
    (hback : ∀ c ∈ back, Text.isBlank c = true) (hdigits : ∀ c ∈ digits, IsDigit c) :
    NumeralOf (front ++ marks count ++ digits ++ back) digits := by
  have hcore : ∀ c ∈ marks count ++ digits, Text.isBlank c = false := by
    intro c hc
    rcases List.mem_append.1 hc with hmark | hdigit
    · rcases mem_marks c hmark with rfl | rfl
      · decide
      · decide
    · exact isBlank_of_isDigit (hdigits c hdigit)
  refine ⟨marks count ++ digits, ⟨⟨front, back, by simp, hfront, hback⟩, ?_, ?_⟩,
    ⟨count, rfl⟩, ?_⟩
  · intro c hc
    exact hcore c (List.mem_of_mem_head? hc)
  · intro c hc
    exact hcore c (List.mem_of_mem_getLast? hc)
  · -- the second letter of a mark is not a digit
    rintro ⟨rest, rfl⟩
    exact absurd (hdigits 'x' (by simp)) (by decide)

/-- What is written for a buffer is read as the buffer, also with capital
letters, behind marks and between blanks. -/
theorem parse_of_encoded {buffer : Buffer} (hfront : ∀ c ∈ front, Text.isBlank c = true)
    (hback : ∀ c ∈ back, Text.isBlank c = true)
    (hdigits : digits.map Char.toLower = (encode buffer).toList) :
    parse (String.ofList (front ++ marks count ++ digits ++ back)) = .ok buffer := by
  obtain ⟨hlen, hlower, hnumber⟩ := eq_encode_iff.1 (Eq.refl (encode buffer))
  rw [← String.length_toList, ← hdigits, List.length_map] at hlen
  rw [← hdigits, List.forall_mem_map] at hlower
  rw [← hdigits, number, numberFrom_map_toLower hlower] at hnumber
  have hall : ∀ c ∈ digits, IsDigit c := by
    intro c hc
    exact (isDigit_of_toLower (hlower c hc)).1
  apply Reading.eq
  refine .buffer ?_ hall (by omega) hnumber.symm
  rw [String.toList_ofList]
  exact numeralOf_framed hfront hback hall

end Framed

/-- Every text has one numeral. It is accepted exactly if the numeral consists of
digits, and read as its reading says; an odd number of digits is never
reported. What is written for a buffer is read as the buffer, also with capital
letters, behind marks and between blanks. -/
theorem parse_reads_numerals :
    (∀ text : String, ∃ digits, (∀ other, NumeralOf text.toList other ↔ other = digits) ∧
      ((∃ buffer, parse text = .ok buffer) ↔ ∀ c ∈ digits, IsDigit c)) ∧
    (∀ text outcome, parse text = outcome ↔ Reading text outcome) ∧
    (∀ text numeral, parse text ≠ .error ⟨numeral, .oddLength⟩) ∧
    ∀ (buffer : Buffer) (front digits back : List Char) (count : Nat),
      (∀ c ∈ front, Text.isBlank c = true) → (∀ c ∈ back, Text.isBlank c = true) →
      digits.map Char.toLower = (encode buffer).toList →
      parse (String.ofList (front ++ marks count ++ digits ++ back)) = .ok buffer := by
  refine ⟨?_, fun _ _ => parse_iff_reading, parse_ne_oddLength, ?_⟩
  · intro text
    refine ⟨numeral text.toList, ?_, exists_parse_eq_ok_iff (numeral_eq_iff.1 rfl)⟩
    intro other
    rw [← numeral_eq_iff]
    exact eq_comm
  · intro buffer front digits back count hfront hback hdigits
    exact parse_of_encoded hfront hback hdigits

/-- Capital and small letters behind two marks, with a no-break space in front
and a line feed behind. -/
theorem parse_reads_numerals_framed :
    (∀ c ∈ ['\u00a0', ' '], Text.isBlank c = true) ∧ (∀ c ∈ ['\n'], Text.isBlank c = true) ∧
      ['0', 'A', 'b', 'C'].map Char.toLower = (encode [0x0a, 0xbc]).toList ∧
      parse (String.ofList (['\u00a0', ' '] ++ marks 2 ++ ['0', 'A', 'b', 'C'] ++ ['\n'])) =
        .ok [0x0a, 0xbc] := by
  have hblank : Text.isBlank '\u00a0' = true ∧ Text.isBlank ' ' = true ∧
      Text.isBlank '\n' = true := by decide
  have hfront : ∀ c ∈ ['\u00a0', ' '], Text.isBlank c = true := by simp [hblank]
  have hback : ∀ c ∈ ['\n'], Text.isBlank c = true := by simp [hblank]
  have hdigits : ['0', 'A', 'b', 'C'].map Char.toLower = (encode [0x0a, 0xbc]).toList := by decide
  exact ⟨hfront, hback, hdigits, parse_reads_numerals.2.2.2 _ _ _ _ 2 hfront hback hdigits⟩

end PowerProduct.Hex
