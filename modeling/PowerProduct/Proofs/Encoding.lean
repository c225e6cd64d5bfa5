import Mathlib
import PowerProduct.Buffer

/-!
# Numbers that fit a buffer

A buffer of `width` bytes holds exactly the numbers below `256 ^ width`. The
bytes that a number needs, counted from its bits, are as many as it has digits
in base 256 (`length_ofNat`), so a number below the bound is written with zeros
in front (`encode_of_lt`) and reads back. Two buffers of one length that read
back the same are the same (`eq_of_value_eq`), so writing at a width and reading
are inverse to each other (`encode_decode_inverse`).
-/

set_option autoImplicit false

namespace PowerProduct

theorem bitLength_le_iff (x bits : Nat) : bitLength x ≤ bits ↔ x < 2 ^ bits := by
  unfold bitLength
  split
  case isTrue hx =>
    subst hx
    simp
  case isFalse hx => rw [Nat.succ_le_iff, Nat.log2_lt hx]

/-- A byte has eight bits. -/
theorem pow_bytes_eq (width : Nat) : (256 : Nat) ^ width = 2 ^ (8 * width) := by
  rw [pow_mul]
  norm_num

/-- A number needs at most `width` bytes exactly if it is below `256 ^ width`. -/
theorem byteCount_bitLength_le_iff (x width : Nat) :
    byteCount (bitLength x) ≤ width ↔ x < 256 ^ width := by
  have hbits : byteCount (bitLength x) ≤ width ↔ bitLength x ≤ 8 * width := by
    unfold byteCount
    omega
  rw [hbits, bitLength_le_iff, pow_bytes_eq]

/-- The lowest byte is one of the bytes of a positive number. -/
theorem byteCount_bitLength_of_pos {x : Nat} (hx : 0 < x) :
    byteCount (bitLength x) = byteCount (bitLength (x / 256)) + 1 := by
  -- both counts are the least width that holds the number
  have hle : ∀ width, byteCount (bitLength x) ≤ width + 1 ↔
      byteCount (bitLength (x / 256)) ≤ width := by
    intro width
    rw [byteCount_bitLength_le_iff, byteCount_bitLength_le_iff, pow_succ,
      Nat.div_lt_iff_lt_mul (by decide)]
  have hpos : ¬ byteCount (bitLength x) ≤ 0 := by
    rw [byteCount_bitLength_le_iff]
    simpa using hx.ne'
  have hupper := (hle _).2 (Nat.le_refl (byteCount (bitLength (x / 256))))
  have hlower := (hle (byteCount (bitLength x) - 1)).1 (by omega)
  omega

namespace Buffer

/-- The bytes read before a buffer stand in front of its own number. -/
theorem valueFrom_eq_add (front : Nat) (buffer : Buffer) :
    valueFrom front buffer = front * 256 ^ buffer.length + value buffer := by
  induction buffer generalizing front with
  | nil => simp [valueFrom, value]
  | cons byte rest ih =>
      rw [value, valueFrom, valueFrom, ih, ih (256 * 0 + byte.toNat), List.length_cons, pow_succ]
      ring

theorem value_cons (byte : UInt8) (rest : Buffer) :
    value (byte :: rest) = byte.toNat * 256 ^ rest.length + value rest := by
  rw [value, valueFrom, valueFrom_eq_add, Nat.mul_zero, Nat.zero_add]

/-- A buffer holds a number below the bound of its width. -/
theorem value_lt (buffer : Buffer) : value buffer < 256 ^ buffer.length := by
  induction buffer with
  | nil => simp [value, valueFrom]
  | cons byte rest ih =>
      have hbyte : byte.toNat + 1 ≤ 256 := byte.toNat_lt
      calc value (byte :: rest)
          = byte.toNat * 256 ^ rest.length + value rest := value_cons byte rest
        _ < (byte.toNat + 1) * 256 ^ rest.length := by
            rw [Nat.succ_mul]
            exact Nat.add_lt_add_left ih _
        _ ≤ 256 * 256 ^ rest.length := Nat.mul_le_mul_right _ hbyte
        _ = 256 ^ (byte :: rest).length := by rw [List.length_cons, pow_succ']

/-- Buffers of one length that hold the same number are the same, also after
bytes read before them. -/
theorem valueFrom_inj {front front' : Nat} {a b : Buffer} (hlen : a.length = b.length)
    (h : valueFrom front a = valueFrom front' b) : front = front' ∧ a = b := by
  induction a generalizing front front' b with
  | nil =>
      obtain rfl : b = [] := List.length_eq_zero_iff.1 hlen.symm
      exact ⟨h, rfl⟩
  | cons byte rest ih =>
      cases b with
      | nil => simp at hlen
      | cons byte' rest' =>
          -- the rest fixes the number read so far, and its remainder by 256 is the byte
          obtain ⟨hfront, hrest⟩ := ih (Nat.succ.inj hlen) h
          have hbyte : byte.toNat < 256 := byte.toNat_lt
          have hbyte' : byte'.toNat < 256 := byte'.toNat_lt
          have hsame : byte = byte' := UInt8.toNat_inj.1 (by omega)
          exact ⟨by omega, by rw [hsame, hrest]⟩

theorem eq_of_value_eq {a b : Buffer} (hlen : a.length = b.length) (h : value a = value b) :
    a = b :=
  (valueFrom_inj hlen h).2

theorem valueFrom_eq_zero_iff (front : Nat) (buffer : Buffer) :
    valueFrom front buffer = 0 ↔ front = 0 ∧ ∀ byte ∈ buffer, byte = 0 := by
  induction buffer generalizing front with
  | nil => simp [valueFrom]
  | cons byte rest ih =>
      have hfront : 256 * front + byte.toNat = 0 ↔ front = 0 ∧ byte = 0 := by
        rw [← UInt8.toNat_inj, UInt8.toNat_zero]
        omega
      rw [valueFrom, ih, hfront, List.forall_mem_cons, and_assoc]

/-- A buffer holds zero exactly if all its bytes are zero. -/
theorem value_eq_zero_iff (buffer : Buffer) : value buffer = 0 ↔ ∀ byte ∈ buffer, byte = 0 := by
  rw [value, valueFrom_eq_zero_iff]
  exact and_iff_right rfl

theorem value_pos_iff (buffer : Buffer) : 0 < value buffer ↔ ∃ byte ∈ buffer, byte ≠ 0 := by
  rw [Nat.pos_iff_ne_zero, ne_eq, value_eq_zero_iff]
  push Not
  rfl

theorem length_bytesOnto (x : Nat) (rest : Buffer) :
    (bytesOnto x rest).length = byteCount (bitLength x) + rest.length := by
  fun_induction bytesOnto x rest with
  | case1 rest => simp [bitLength, byteCount]
  | case2 x rest hx ih =>
      rw [ih, byteCount_bitLength_of_pos (Nat.pos_of_ne_zero hx), List.length_cons]
      omega

/-- The bytes of a number are as many as its bits need. -/
theorem length_ofNat (x : Nat) : (ofNat x).length = byteCount (bitLength x) :=
  length_bytesOnto x []

theorem length_padTo {width : Nat} {buffer : Buffer} (h : buffer.length ≤ width) :
    (padTo width buffer).length = width := by
  simp [padTo, h]

theorem digits_of_ne_zero {x : Nat} (h : x ≠ 0) : digits x = ofNat x := if_neg h

theorem copyOver_eq_ok {source target : Buffer} (h : source.length = target.length) :
    copyOver source target = .ok source :=
  if_pos h

/-- A number that fits is written over the whole buffer, with zeros in front. -/
theorem write_of_lt {x : Nat} {buffer : Buffer} (h : x < 256 ^ buffer.length) :
    write x buffer = ⟨.ok (), padTo buffer.length (ofNat x)⟩ := by
  have hneeded : byteCount (bitLength x) ≤ buffer.length :=
    (byteCount_bitLength_le_iff x _).2 h
  by_cases hx : x = 0
  · -- nothing is copied, and the padding is the whole buffer
    subst hx
    simp [write, padTo, bitLength, byteCount, ofNat, bytesOnto]
  · have hcopy : (digits x).length =
        (buffer.drop (buffer.length - byteCount (bitLength x))).length := by
      rw [digits_of_ne_zero hx, length_ofNat, List.length_drop]
      omega
    simp only [write, if_neg (Nat.not_lt.2 hneeded), if_neg hx, copyOver_eq_ok hcopy]
    rw [padTo, digits_of_ne_zero hx, length_ofNat]

theorem encode_of_lt {x width : Nat} (h : x < 256 ^ width) :
    encode x width = .ok (padTo width (ofNat x)) := by
  have hfits : x < 256 ^ (List.replicate width (0 : UInt8)).length := by simpa using h
  rw [encode, write_of_lt hfits, List.length_replicate]
  rfl

/-- The bytes that are written fill the width. -/
theorem length_encoding {x width : Nat} (h : x < 256 ^ width) :
    (padTo width (ofNat x)).length = width :=
  length_padTo (by rw [length_ofNat]; exact (byteCount_bitLength_le_iff x width).2 h)

/-! ## Reading and writing undo each other -/

/-- A number needs the least width that holds it. -/
theorem isLeast_byteCount (x : Nat) :
    IsLeast {width | x < 256 ^ width} (byteCount (bitLength x)) := by
  constructor
  · exact (byteCount_bitLength_le_iff x _).1 (Nat.le_refl _)
  · intro width hfits
    exact (byteCount_bitLength_le_iff x width).2 hfits

/-- A number that does not fit leaves the buffer as it was. -/
theorem write_of_not_lt {x : Nat} {buffer : Buffer} (h : ¬ x < 256 ^ buffer.length) :
    write x buffer = ⟨refuse (.overflow (byteCount (bitLength x)) buffer.length), buffer⟩ := by
  have hneeded : buffer.length < byteCount (bitLength x) := by
    rw [← Nat.not_le, byteCount_bitLength_le_iff]
    exact h
  simp only [write, if_pos hneeded]

theorem encode_of_not_lt {x width : Nat} (h : ¬ x < 256 ^ width) :
    encode x width = refuse (.overflow (byteCount (bitLength x)) width) := by
  have hlen : (List.replicate width (0 : UInt8)).length = width := List.length_replicate
  rw [encode, write_of_not_lt (by rw [hlen]; exact h), hlen]
  rfl

/-- The buffer written for a number is the one of its width that holds the number. -/
theorem encode_eq_ok_iff {x width : Nat} {out : Buffer} :
    encode x width = .ok out ↔ out.length = width ∧ value out = x := by
  constructor
  · intro h
    by_cases hfits : x < 256 ^ width
    · rw [encode_of_lt hfits] at h
      cases h
      exact ⟨length_encoding hfits, by rw [value_padTo, value_ofNat]⟩
    · rw [encode_of_not_lt hfits] at h
      cases h
  · rintro ⟨rfl, rfl⟩
    rw [encode_of_lt (value_lt out)]
    -- both buffers have the same length and hold the same number
    apply congrArg Except.ok
    apply eq_of_value_eq (length_encoding (value_lt out))
    rw [value_padTo, value_ofNat]

theorem encode_eq_error_iff {x width : Nat} {failure : Failure} :
    encode x width = .error failure ↔
      256 ^ width ≤ x ∧ failure = .error (.overflow (byteCount (bitLength x)) width) := by
  constructor
  · intro h
    by_cases hfits : x < 256 ^ width
    · rw [encode_of_lt hfits] at h
      cases h
    · rw [encode_of_not_lt hfits] at h
      cases h
      exact ⟨Nat.le_of_not_lt hfits, rfl⟩
  · rintro ⟨hlarge, rfl⟩
    exact encode_of_not_lt (Nat.not_lt.2 hlarge)

theorem exists_encode_eq_ok_iff {x width : Nat} :
    (∃ out, encode x width = .ok out) ↔ x < 256 ^ width := by
  constructor
  · rintro ⟨out, hout⟩
    obtain ⟨rfl, rfl⟩ := encode_eq_ok_iff.1 hout
    exact value_lt out
  · intro hfits
    exact ⟨_, encode_of_lt hfits⟩

/-- The buffers of a width hold each number below the bound once. -/
theorem value_bijOn (width : Nat) :
    Set.BijOn value {buffer | buffer.length = width} (Set.Iio (256 ^ width)) := by
  refine ⟨?_, ?_, ?_⟩
  · rintro buffer rfl
    exact value_lt buffer
  · intro a ha b hb hvalue
    exact eq_of_value_eq (Eq.trans ha (Eq.symm hb)) hvalue
  · intro x hfits
    obtain ⟨out, hout⟩ := exists_encode_eq_ok_iff.2 hfits
    exact ⟨out, encode_eq_ok_iff.1 hout⟩

/-- Writing at a width and reading are inverse to each other, between the
numbers below `256 ^ width` and the buffers of that width. Any other number is
refused with the least width that would hold it. -/
theorem encode_decode_inverse (width : Nat) :
    (∀ x, (∃ out, encode x width = .ok out) ↔ x < 256 ^ width) ∧
    (∀ x out declaredWidth, encode x width = .ok out ↔
      out.length = width ∧ decode out declaredWidth = x) ∧
    (∀ x failure, encode x width = .error failure ↔
      256 ^ width ≤ x ∧ ∃ needed, IsLeast {n | x < 256 ^ n} needed ∧
        failure = .error (.overflow needed width)) ∧
    (∀ (buffer : Buffer) declaredWidth,
      encode (decode buffer declaredWidth) buffer.length = .ok buffer) ∧
    ∀ declaredWidth, Set.BijOn (fun buffer => decode buffer declaredWidth)
      {buffer | buffer.length = width} (Set.Iio (256 ^ width)) := by
  refine ⟨fun x => exists_encode_eq_ok_iff, fun x out _ => encode_eq_ok_iff, ?_, ?_, ?_⟩
  · intro x failure
    rw [encode_eq_error_iff]
    constructor
    · rintro ⟨hlarge, hfailure⟩
      exact ⟨hlarge, _, isLeast_byteCount x, hfailure⟩
    · rintro ⟨hlarge, needed, hleast, hfailure⟩
      rw [hleast.unique (isLeast_byteCount x)] at hfailure
      exact ⟨hlarge, hfailure⟩
  · intro buffer _
    exact encode_eq_ok_iff.2 ⟨rfl, rfl⟩
  · intro _
    exact value_bijOn width

end Buffer

end PowerProduct
