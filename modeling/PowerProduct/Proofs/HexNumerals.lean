import Mathlib
import PowerProduct.Proofs.Encoding
import PowerProduct.Text.Hex

/-!
# Numerals in base sixteen

A buffer and its digits denote the same number. Reading a numeral accepts
exactly the sequences of hexadecimal digits, small or capital, in any number
(`parse_eq_ok_iff`); it works on bytes, and a character that is not ASCII has no
byte that is a digit. Writing a buffer yields two small digits for each byte
(`eq_encode_iff`).
-/

set_option autoImplicit false

namespace PowerProduct.Hex

open Buffer

/-! ## Digits as characters -/

/-- The character is a small hexadecimal digit. -/
def IsLowerDigit (c : Char) : Prop := ('0' ≤ c ∧ c ≤ '9') ∨ ('a' ≤ c ∧ c ≤ 'f')

/-- The character is a hexadecimal digit, small or capital. -/
def IsDigit (c : Char) : Prop := IsLowerDigit c ∨ ('A' ≤ c ∧ c ≤ 'F')

instance : DecidablePred IsLowerDigit := fun _ => inferInstanceAs (Decidable (_ ∨ _))

instance : DecidablePred IsDigit := fun _ => inferInstanceAs (Decidable (_ ∨ _))

/-- The value of a hexadecimal digit. -/
def digitNumber (c : Char) : Nat :=
  if c ≤ '9' then c.toNat - '0'.toNat
  else if c ≤ 'F' then c.toNat - 'A'.toNat + 10
  else c.toNat - 'a'.toNat + 10

/-- The number of digits in base sixteen, read after digits of value `front`. -/
def numberFrom (front : Nat) (digits : List Char) : Nat :=
  digits.foldl (fun value c => 16 * value + digitNumber c) front

/-- The number that digits denote in base sixteen. -/
def number (digits : List Char) : Nat := numberFrom 0 digits

@[simp] theorem numberFrom_nil (front : Nat) : numberFrom front [] = front := rfl

@[simp] theorem numberFrom_cons (front : Nat) (c : Char) (rest : List Char) :
    numberFrom front (c :: rest) = numberFrom (16 * front + digitNumber c) rest := rfl

theorem numberFrom_append (front : Nat) (a b : List Char) :
    numberFrom front (a ++ b) = numberFrom (numberFrom front a) b :=
  List.foldl_append

theorem toNat_lt_of_isDigit {c : Char} (h : IsDigit c) : c.toNat < 128 := by
  have hbound : c ≤ 'f' := by
    rcases h with (⟨-, h⟩ | ⟨-, h⟩) | ⟨-, h⟩
    · exact le_trans h (by decide)
    · exact h
    · exact le_trans h (by decide)
  exact lt_of_le_of_lt (Char.le_def.1 hbound) (by decide)

/-- What holds of the codes below 128 holds of the ASCII characters. -/
theorem forall_ascii {P : Char → Prop} (h : ∀ code < 128, P (Char.ofNat code)) {c : Char}
    (hc : c.toNat < 128) : P c := by
  have hcode := h c.toNat hc
  rwa [Char.ofNat_toNat] at hcode

/-! ## Digits as bytes -/

/-- The byte of an ASCII character. -/
def asciiByte (c : Char) : UInt8 := UInt8.ofNat c.toNat

/-- Below 128 the digits among the bytes are the digits among the characters. -/
theorem digitValue?_ofNat : ∀ code < 128, digitValue? (UInt8.ofNat code) =
    if IsDigit (Char.ofNat code) then some (UInt8.ofNat (digitNumber (Char.ofNat code)))
    else none := by
  decide

theorem digitNumber_lt {c : Char} (h : IsDigit c) : digitNumber c < 16 :=
  forall_ascii (P := fun c => IsDigit c → digitNumber c < 16) (by decide)
    (toNat_lt_of_isDigit h) h

theorem digitValue?_asciiByte {c : Char} (h : IsDigit c) :
    digitValue? (asciiByte c) = some (UInt8.ofNat (digitNumber c)) := by
  have hcode := digitValue?_ofNat c.toNat (toNat_lt_of_isDigit h)
  rwa [Char.ofNat_toNat, if_pos h] at hcode

theorem digitValue?_of_large {byte : UInt8} (h : 128 ≤ byte.toNat) : digitValue? byte = none := by
  have hlarge : ∀ bound : UInt8, bound.toNat < 128 → ¬ byte ≤ bound := by
    intro bound hbound hle
    exact absurd (UInt8.le_iff_toNat_le.1 hle) (by omega)
  rw [digitValue?, if_neg fun hrange => hlarge 0x39 (by decide) hrange.2,
    if_neg fun hrange => hlarge 0x46 (by decide) hrange.2,
    if_neg fun hrange => hlarge 0x66 (by decide) hrange.2]

theorem utf8EncodeChar_of_ascii {c : Char} (h : c.toNat < 128) :
    String.utf8EncodeChar c = [asciiByte c] :=
  if_pos (Nat.le_of_lt_succ h)

/-- A character that is not ASCII begins with a byte above all digits. -/
theorem exists_large_byte {c : Char} (h : ¬ c.toNat < 128) :
    ∃ byte ∈ String.utf8EncodeChar c, 128 ≤ byte.toNat := by
  have hascii : ¬ c.val.toNat ≤ 127 := by
    intro hle
    exact h (Nat.lt_succ_of_le hle)
  simp only [String.utf8EncodeChar, if_neg hascii]
  -- the first of two, three or four bytes has its high bit set
  split
  · refine ⟨_, List.mem_cons_self, ?_⟩
    simp only [UInt8.toNat_ofNat']
    omega
  · split
    · refine ⟨_, List.mem_cons_self, ?_⟩
      simp only [UInt8.toNat_ofNat']
      omega
    · refine ⟨_, List.mem_cons_self, ?_⟩
      simp only [UInt8.toNat_ofNat']
      omega

/-- A character is a digit if all its bytes are. -/
theorem isDigit_of_bytes {c : Char}
    (h : ∀ byte ∈ String.utf8EncodeChar c, digitValue? byte ≠ none) : IsDigit c := by
  by_cases hascii : c.toNat < 128
  · -- one byte, which the table decides
    rw [utf8EncodeChar_of_ascii hascii] at h
    have hvalue := h (asciiByte c) List.mem_cons_self
    by_contra hdigit
    have hcode := digitValue?_ofNat c.toNat hascii
    rw [Char.ofNat_toNat, if_neg hdigit] at hcode
    exact hvalue hcode
  · obtain ⟨byte, hmem, hlarge⟩ := exists_large_byte hascii
    exact absurd (digitValue?_of_large hlarge) (h byte hmem)

/-! ## Pairs of digits -/

/-- The bytes that pairs of digits denote. -/
def pairBytes : List Char → Buffer
  | high :: low :: rest => UInt8.ofNat (16 * digitNumber high + digitNumber low) :: pairBytes rest
  | _ => []

/-- A list that is not led by a pair has at most one entry. -/
theorem eq_nil_or_singleton {α : Type} {xs : List α}
    (hshort : ∀ a b rest, xs = a :: b :: rest → False) : xs = [] ∨ ∃ a, xs = [a] := by
  rcases xs with _ | ⟨a, _ | ⟨b, rest⟩⟩
  · exact Or.inl rfl
  · exact Or.inr ⟨a, rfl⟩
  · exact absurd rfl (hshort a b rest)

theorem readDigit_asciiByte {c : Char} (h : IsDigit c) (position : Nat) :
    readDigit position (asciiByte c) = .ok (UInt8.ofNat (digitNumber c)) := by
  rw [readDigit, digitValue?_asciiByte h]

/-- Bytes of digits are read two by two. -/
theorem readPairs_map {digits : List Char} (h : ∀ c ∈ digits, IsDigit c) (position : Nat) :
    readPairs position (digits.map asciiByte) = .ok (pairBytes digits) := by
  fun_induction pairBytes digits generalizing position with
  | case1 high low rest ih =>
      obtain ⟨hhigh, hlow, hrest⟩ : IsDigit high ∧ IsDigit low ∧ ∀ c ∈ rest, IsDigit c := by
        simpa using h
      rw [List.map_cons, List.map_cons, readPairs, readDigit_asciiByte hhigh,
        readDigit_asciiByte hlow, ih hrest]
      simp [bind, Except.bind, pure, Except.pure]
  | case2 digits hshort =>
      rcases eq_nil_or_singleton hshort with rfl | ⟨c, rfl⟩
      · rfl
      · rfl

/-- Bytes that are read two by two are all digits. -/
theorem digits_of_readPairs {position : Nat} {bytes : List UInt8} {buffer : Buffer}
    (heven : bytes.length % 2 = 0) (h : readPairs position bytes = .ok buffer) :
    ∀ byte ∈ bytes, digitValue? byte ≠ none := by
  fun_induction readPairs position bytes generalizing buffer with
  | case1 position high low rest ih =>
      simp only [List.length_cons] at heven
      -- a byte that is not a digit would have ended the reading here or further on
      cases hhigh : digitValue? high with
      | none =>
          simp [readDigit, hhigh, bind, Except.bind] at h
      | some highValue =>
          cases hlow : digitValue? low with
          | none => simp [readDigit, hhigh, hlow, bind, Except.bind] at h
          | some lowValue =>
              cases hrest : readPairs (position + 2) rest with
              | error e => simp [readDigit, hhigh, hlow, hrest, bind, Except.bind] at h
              | ok tail =>
                  have htail := ih (by omega) hrest
                  simpa [hhigh, hlow] using htail
  | case2 bytes position hshort =>
      rcases eq_nil_or_singleton hshort with rfl | ⟨byte, rfl⟩
      · simp
      · simp at heven

theorem length_pairBytes (digits : List Char) : (pairBytes digits).length = digits.length / 2 := by
  fun_induction pairBytes digits with
  | case1 high low rest ih =>
      simp only [List.length_cons, ih]
      omega
  | case2 digits hshort =>
      rcases eq_nil_or_singleton hshort with rfl | ⟨c, rfl⟩
      · rfl
      · simp

/-- The bytes of pairs of digits hold the number of the digits. -/
theorem valueFrom_pairBytes {digits : List Char} (h : ∀ c ∈ digits, IsDigit c)
    (heven : digits.length % 2 = 0) (front : Nat) :
    valueFrom front (pairBytes digits) = numberFrom front digits := by
  fun_induction pairBytes digits generalizing front with
  | case1 high low rest ih =>
      obtain ⟨hhigh, hlow, hrest⟩ : IsDigit high ∧ IsDigit low ∧ ∀ c ∈ rest, IsDigit c := by
        simpa using h
      simp only [List.length_cons] at heven
      have hbyte : (UInt8.ofNat (16 * digitNumber high + digitNumber low)).toNat =
          16 * digitNumber high + digitNumber low := by
        have hhigh' := digitNumber_lt hhigh
        have hlow' := digitNumber_lt hlow
        rw [UInt8.toNat_ofNat']
        omega
      have hfront : 256 * front + (16 * digitNumber high + digitNumber low) =
          16 * (16 * front + digitNumber high) + digitNumber low := by omega
      rw [valueFrom, ih hrest (by omega), hbyte, hfront, numberFrom_cons, numberFrom_cons]
  | case2 digits hshort =>
      rcases eq_nil_or_singleton hshort with rfl | ⟨c, rfl⟩
      · rfl
      · simp at heven

/-! ## Numerals -/

/-- The digits, made even in number by a zero in front. -/
def evenDigits (digits : List Char) : List Char :=
  if digits.length % 2 = 1 then '0' :: digits else digits

theorem length_evenDigits (digits : List Char) :
    (evenDigits digits).length = 2 * ((digits.length + 1) / 2) := by
  unfold evenDigits
  split
  · rw [List.length_cons]
    omega
  · omega

theorem isDigit_of_mem_evenDigits {digits : List Char} (h : ∀ c ∈ digits, IsDigit c) :
    ∀ c ∈ evenDigits digits, IsDigit c := by
  unfold evenDigits
  split
  · rw [List.forall_mem_cons]
    exact ⟨by decide, h⟩
  · exact h

/-- A zero in front does not change the number. -/
theorem number_evenDigits (digits : List Char) : number (evenDigits digits) = number digits := by
  unfold evenDigits
  split
  · rfl
  · rfl

theorem flatMap_utf8_of_digits {digits : List Char} (h : ∀ c ∈ digits, IsDigit c) :
    digits.flatMap String.utf8EncodeChar = digits.map asciiByte := by
  induction digits with
  | nil => rfl
  | cons c rest ih =>
      obtain ⟨hc, hrest⟩ := List.forall_mem_cons.1 h
      rw [List.flatMap_cons, utf8EncodeChar_of_ascii (toNat_lt_of_isDigit hc), ih hrest]
      rfl

theorem evenBytes_of_digits {digits : List Char} (h : ∀ c ∈ digits, IsDigit c) :
    evenBytes digits = (evenDigits digits).map asciiByte := by
  rw [evenBytes, flatMap_utf8_of_digits h, List.length_map, evenDigits]
  split
  · rfl
  · rfl

theorem length_evenBytes (numeral : List Char) : (evenBytes numeral).length % 2 = 0 := by
  simp only [evenBytes]
  split
  · rw [List.length_cons]
    omega
  · omega

theorem mem_evenBytes {numeral : List Char} {byte : UInt8}
    (h : byte ∈ numeral.flatMap String.utf8EncodeChar) : byte ∈ evenBytes numeral := by
  simp only [evenBytes]
  split
  · exact List.mem_cons_of_mem _ h
  · exact h

theorem parse_eq_ok_iff_decode {text : String} {buffer : Buffer} :
    parse text = .ok buffer ↔ decode (evenBytes (numeral text.toList)) = .ok buffer := by
  rw [parse]
  cases hdecode : decode (evenBytes (numeral text.toList)) with
  | ok found =>
      constructor
      · intro h
        cases h
        rfl
      · intro h
        cases h
        rfl
  | error reason =>
      constructor
      · intro h
        cases h
      · intro h
        cases h

theorem decode_evenBytes (numeral : List Char) :
    decode (evenBytes numeral) = readPairs 0 (evenBytes numeral) := by
  rw [decode, if_neg (by rw [length_evenBytes]; decide)]

theorem decode_evenBytes_of_digits {digits : List Char} (h : ∀ c ∈ digits, IsDigit c) :
    decode (evenBytes digits) = .ok (pairBytes (evenDigits digits)) := by
  rw [decode_evenBytes, evenBytes_of_digits h, readPairs_map (isDigit_of_mem_evenDigits h)]

/-- A text is accepted exactly if its numeral consists of digits. The buffer has
a byte for every two digits, rounded up, and holds the number of the digits. -/
theorem parse_eq_ok_iff {text : String} {buffer : Buffer} :
    parse text = .ok buffer ↔ (∀ c ∈ numeral text.toList, IsDigit c) ∧
      buffer.length = ((numeral text.toList).length + 1) / 2 ∧
      buffer.value = number (numeral text.toList) := by
  rw [parse_eq_ok_iff_decode]
  generalize numeral text.toList = digits
  -- what the digits of a numeral are read as
  have hread : (∀ c ∈ digits, IsDigit c) → ∃ found, decode (evenBytes digits) = .ok found ∧
      found.length = (digits.length + 1) / 2 ∧ found.value = number digits := by
    intro h
    refine ⟨pairBytes (evenDigits digits), decode_evenBytes_of_digits h, ?_, ?_⟩
    · rw [length_pairBytes, length_evenDigits, Nat.mul_div_cancel_left _ (by decide)]
    · rw [value, valueFrom_pairBytes (isDigit_of_mem_evenDigits h)
        (by rw [length_evenDigits]; omega), ← number, number_evenDigits]
  constructor
  · intro h
    have hdigits : ∀ c ∈ digits, IsDigit c := by
      intro c hc
      apply isDigit_of_bytes
      intro byte hbyte
      rw [decode_evenBytes] at h
      apply digits_of_readPairs (length_evenBytes digits) h
      exact mem_evenBytes (List.mem_flatMap.2 ⟨c, hc, hbyte⟩)
    obtain ⟨found, hfound, hlen, hvalue⟩ := hread hdigits
    rw [hfound, Except.ok.injEq] at h
    subst h
    exact ⟨hdigits, hlen, hvalue⟩
  · rintro ⟨hdigits, hlen, hvalue⟩
    obtain ⟨found, hfound, hlen', hvalue'⟩ := hread hdigits
    rw [hfound, eq_of_value_eq (hlen'.trans hlen.symm) (hvalue'.trans hvalue.symm)]

/-! ## Written buffers -/

theorem isLowerDigit_digit : ∀ value < 16, IsLowerDigit (digit value) := by decide

theorem digitNumber_digit : ∀ value < 16, digitNumber (digit value) = value := by decide

theorem length_encodeBytes (buffer : Buffer) :
    (buffer.flatMap encodeByte).length = 2 * buffer.length := by
  induction buffer with
  | nil => rfl
  | cons byte rest ih =>
      rw [List.flatMap_cons, List.length_append, ih, List.length_cons, encodeByte]
      simp only [List.length_cons, List.length_nil]
      omega

theorem isLowerDigit_of_mem_encodeBytes (buffer : Buffer) :
    ∀ c ∈ buffer.flatMap encodeByte, IsLowerDigit c := by
  intro c hc
  obtain ⟨byte, -, hbyte⟩ := List.mem_flatMap.1 hc
  have hlt : byte.toNat < 256 := byte.toNat_lt
  simp only [encodeByte, List.mem_cons, List.not_mem_nil, or_false] at hbyte
  rcases hbyte with rfl | rfl
  · exact isLowerDigit_digit _ (by omega)
  · exact isLowerDigit_digit _ (by omega)

/-- A buffer and its digits denote the same number, also after others. -/
theorem numberFrom_encodeBytes (front : Nat) (buffer : Buffer) :
    numberFrom front (buffer.flatMap encodeByte) = valueFrom front buffer := by
  induction buffer generalizing front with
  | nil => rfl
  | cons byte rest ih =>
      have hlt : byte.toNat < 256 := byte.toNat_lt
      have hfront : 16 * (16 * front + byte.toNat / 16) + byte.toNat % 16 =
          256 * front + byte.toNat := by omega
      rw [List.flatMap_cons, encodeByte, numberFrom_append, numberFrom_cons, numberFrom_cons,
        numberFrom_nil, digitNumber_digit _ (by omega), digitNumber_digit _ (by omega), hfront, ih,
        valueFrom]

/-- A small digit is the one that is written for its value. -/
theorem digit_digitNumber {c : Char} (h : IsLowerDigit c) : digit (digitNumber c) = c :=
  forall_ascii (P := fun c => IsLowerDigit c → digit (digitNumber c) = c) (by decide)
    (toNat_lt_of_isDigit (Or.inl h)) h

/-- Small digits of one number that denote the same are the same, also after
digits read before them. -/
theorem numberFrom_inj {front front' : Nat} {a b : List Char} (hlen : a.length = b.length)
    (ha : ∀ c ∈ a, IsLowerDigit c) (hb : ∀ c ∈ b, IsLowerDigit c)
    (h : numberFrom front a = numberFrom front' b) : front = front' ∧ a = b := by
  induction a generalizing front front' b with
  | nil =>
      obtain rfl : b = [] := List.length_eq_zero_iff.1 hlen.symm
      exact ⟨h, rfl⟩
  | cons c rest ih =>
      cases b with
      | nil => simp at hlen
      | cons c' rest' =>
          obtain ⟨hc, hrest⟩ := List.forall_mem_cons.1 ha
          obtain ⟨hc', hrest'⟩ := List.forall_mem_cons.1 hb
          rw [numberFrom_cons, numberFrom_cons] at h
          -- the rest fixes the number read so far, and its remainder by 16 is the digit
          obtain ⟨hfront, hsame⟩ := ih (Nat.succ.inj hlen) hrest hrest' h
          have hlt := digitNumber_lt (Or.inl hc)
          have hlt' := digitNumber_lt (Or.inl hc')
          have hvalue : digitNumber c = digitNumber c' := by omega
          refine ⟨by omega, ?_⟩
          rw [← digit_digitNumber hc, ← digit_digitNumber hc', hvalue, hsame]

/-- The text of a buffer is the one of two small digits for each byte that
denotes the number of the buffer. -/
theorem eq_encode_iff {text : String} {buffer : Buffer} :
    text = encode buffer ↔ text.length = 2 * buffer.length ∧
      (∀ c ∈ text.toList, IsLowerDigit c) ∧ number text.toList = buffer.value := by
  rw [← String.toList_inj, encode, String.toList_ofList, ← String.length_toList]
  constructor
  · intro h
    rw [h]
    exact ⟨length_encodeBytes buffer, isLowerDigit_of_mem_encodeBytes buffer,
      numberFrom_encodeBytes 0 buffer⟩
  · rintro ⟨hlen, hdigits, hnumber⟩
    have hsame := numberFrom_encodeBytes 0 buffer
    exact (numberFrom_inj (hlen.trans (length_encodeBytes buffer).symm) hdigits
      (isLowerDigit_of_mem_encodeBytes buffer) (hnumber.trans hsame.symm)).2

end PowerProduct.Hex
