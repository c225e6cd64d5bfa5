import Mathlib
import PowerProduct.Proofs.Encoding
import PowerProduct.Tape

/-!
# Numbers off a tape

A draw of `bits` bits takes the bytes that hold so many bits and clears the
surplus bits of the first one. In a big-endian number these are the highest
bits, so what is left is the remainder by `2 ^ bits` of all the bytes
(`value_cons_mod`, `draw_cases`). A run of draws takes consecutive stretches of
the tape (`drawAll_cases`), and a tape that begins with the right bytes yields
any numbers in the bounds of their bits (`exists_bytes_drawn`). The main
statement is `drawAll_consumes`.
-/

set_option autoImplicit false

namespace PowerProduct

theorem byteCount_eq_ceilDiv (bits : Nat) : byteCount bits = bits ⌈/⌉ 8 := by
  rw [byteCount, Nat.ceilDiv_eq_add_pred_div]
  rfl

/-- The bytes of `bits` bits hold every number below `2 ^ bits`. -/
theorem two_pow_le_byteCount (bits : Nat) : 2 ^ bits ≤ 256 ^ byteCount bits := by
  rw [pow_bytes_eq]
  apply Nat.pow_le_pow_right (by decide)
  unfold byteCount
  omega

namespace Buffer

/-- A first byte that keeps its lowest `bits` bits leaves the remainder of the
whole number. -/
theorem value_cons_mod {first kept : UInt8} {bits : Nat} (h : kept.toNat = first.toNat % 2 ^ bits)
    (rest : Buffer) :
    value (kept :: rest) = value (first :: rest) % 2 ^ (bits + 8 * rest.length) := by
  have hpow : 2 ^ (bits + 8 * rest.length) = 256 ^ rest.length * 2 ^ bits := by
    rw [pow_add, pow_bytes_eq, mul_comm]
  have hrest : value rest < 256 ^ rest.length := value_lt rest
  have hlow : value (first :: rest) % 256 ^ rest.length = value rest := by
    rw [value_cons, Nat.mul_add_mod_of_lt hrest]
  have hhigh : value (first :: rest) / 256 ^ rest.length = first.toNat := by
    rw [value_cons, Nat.mul_comm, Nat.mul_add_div (Nat.zero_lt_of_lt hrest),
      Nat.div_eq_of_lt hrest, Nat.add_zero]
  rw [hpow, Nat.mod_mul, hlow, hhigh, value_cons, h]
  ring

end Buffer

namespace Tape

open Buffer

/-! ## Bytes off a tape -/

@[simp] theorem advance_zero (tape : Tape) : tape.advance 0 = tape := rfl

theorem advance_advance (tape : Tape) (a b : Nat) :
    (tape.advance a).advance b = tape.advance (a + b) := by
  simp only [advance, Nat.add_assoc]

@[simp] theorem length_peek (tape : Tape) (count : Nat) : (tape.peek count).length = count := by
  simp [peek]

/-- The next bytes are followed by those after them. -/
theorem peek_add (tape : Tape) (a b : Nat) :
    tape.peek (a + b) = tape.peek a ++ (tape.advance a).peek b := by
  simp only [peek, advance, List.range_add, List.map_append, List.map_map, Nat.add_assoc]
  rfl

/-- A tape that repeats a pattern begins with it. -/
theorem peek_cycle (pattern : Buffer) : (cycle pattern).peek pattern.length = pattern := by
  apply List.ext_getElem (length_peek _ _)
  intro index hindex hindex'
  simp [peek, cycle, Nat.mod_eq_of_lt hindex', hindex']

/-! ## One draw -/

theorem toNat_and_mask (byte : UInt8) {bits : Nat} (h : bits < 8) :
    (byte &&& ((1 <<< UInt8.ofNat bits) - 1)).toNat = byte.toNat % 2 ^ bits := by
  have hmask : ∀ bits < 8, ((1 <<< UInt8.ofNat bits : UInt8) - 1).toNat = 2 ^ bits - 1 := by
    decide
  rw [UInt8.toNat_and, hmask bits h, Nat.and_two_pow_sub_one_eq_mod]

/-- A draw has a result, of as many bytes as the bits need. Its number is that
of the bytes taken, by the modulus `2 ^ bits`. -/
theorem draw_cases (tape : Tape) (bits : Nat) :
    ∃ buffer, tape.draw bits = .ok (buffer, tape.advance (byteCount bits)) ∧
      buffer.length = byteCount bits ∧
      value buffer = value (tape.peek (byteCount bits)) % 2 ^ bits := by
  have hbytes := value_lt (tape.peek (byteCount bits))
  rw [length_peek] at hbytes
  by_cases hwhole : bits % 8 = 0
  · -- whole bytes: nothing is cleared, and nothing is above the bound
    have hbits : bits = 8 * byteCount bits := by
      unfold byteCount
      omega
    have hpow : (256 : Nat) ^ byteCount bits = 2 ^ bits := by rw [pow_bytes_eq, ← hbits]
    refine ⟨tape.peek (byteCount bits), ?_, length_peek _ _, ?_⟩
    · simp only [draw, if_pos hwhole]
      rfl
    · rw [Nat.mod_eq_of_lt (hpow ▸ hbytes)]
  · -- there is a first byte, and it keeps the bits that are not whole bytes
    have hcount : byteCount bits = bits / 8 + 1 := by
      unfold byteCount
      omega
    cases hpeek : tape.peek (byteCount bits) with
    | nil =>
        have hlen := length_peek tape (byteCount bits)
        rw [hpeek, List.length_nil] at hlen
        omega
    | cons first rest =>
        have hlen : (first :: rest).length = byteCount bits := by rw [← hpeek, length_peek]
        have hrest : rest.length = bits / 8 := by
          rw [List.length_cons] at hlen
          omega
        have hbits : bits % 8 + 8 * rest.length = bits := by omega
        refine ⟨(first &&& ((1 <<< UInt8.ofNat (bits % 8)) - 1)) :: rest, ?_, hlen, ?_⟩
        · simp only [draw, if_neg hwhole, hpeek]
          rfl
        · rw [value_cons_mod (toNat_and_mask first (Nat.mod_lt bits (by decide))), hbits]

/-! ## Runs of draws -/

/-- The bytes that a run of draws takes off a tape. -/
def bytesDrawn (counts : List Nat) : Nat := (counts.map fun bits => bits ⌈/⌉ 8).sum

@[simp] theorem bytesDrawn_cons (bits : Nat) (counts : List Nat) :
    bytesDrawn (bits :: counts) = bits ⌈/⌉ 8 + bytesDrawn counts := by
  simp [bytesDrawn]

/-- The buffer is what a draw of `bits` bits gives after `start` bytes of a
tape. The draw takes the bytes that the bits need and no other, and the number
is theirs by the modulus `2 ^ bits`. -/
structure DrawnAt (tape : Tape) (start bits : Nat) (buffer : Buffer) : Prop where
  drawn : (tape.advance start).draw bits = .ok (buffer, tape.advance (start + bits ⌈/⌉ 8))
  length_eq : buffer.length = bits ⌈/⌉ 8
  value_eq : value buffer = value ((tape.advance start).peek (bits ⌈/⌉ 8)) % 2 ^ bits
  value_lt : value buffer < 2 ^ bits

theorem exists_drawnAt (tape : Tape) (start bits : Nat) :
    ∃ buffer, DrawnAt tape start bits buffer := by
  obtain ⟨buffer, hdraw, hlen, hvalue⟩ := draw_cases (tape.advance start) bits
  rw [advance_advance, byteCount_eq_ceilDiv] at hdraw
  rw [byteCount_eq_ceilDiv] at hlen hvalue
  refine ⟨buffer, hdraw, hlen, hvalue, ?_⟩
  rw [hvalue]
  exact Nat.mod_lt _ (Nat.two_pow_pos bits)

/-- What is drawn off the rest of a tape is drawn off the tape. -/
theorem DrawnAt.of_advance {tape : Tape} {count start bits : Nat} {buffer : Buffer}
    (h : DrawnAt (tape.advance count) start bits buffer) :
    DrawnAt tape (count + start) bits buffer := by
  obtain ⟨hdraw, hlen, hvalue, hlt⟩ := h
  rw [advance_advance] at hdraw hvalue
  rw [advance_advance, ← Nat.add_assoc] at hdraw
  exact ⟨hdraw, hlen, hvalue, hlt⟩

/-- Each draw of a run begins where the one before it has stopped. -/
theorem drawAll_cases (tape : Tape) (counts : List Nat) :
    ∃ buffers, drawAll tape counts = .ok (buffers, tape.advance (bytesDrawn counts)) ∧
      buffers.length = counts.length ∧
      ∀ i bits, counts[i]? = some bits →
        ∃ buffer, buffers[i]? = some buffer ∧
          DrawnAt tape (bytesDrawn (counts.take i)) bits buffer := by
  induction counts generalizing tape with
  | nil =>
      refine ⟨[], rfl, rfl, ?_⟩
      intro i bits h
      cases h
  | cons bits counts ih =>
      obtain ⟨buffer, hfirst⟩ := exists_drawnAt tape 0 bits
      obtain ⟨buffers, hrest, hlen, hdrawn⟩ := ih (tape.advance (bits ⌈/⌉ 8))
      have hdraw := hfirst.drawn
      rw [advance_zero, Nat.zero_add] at hdraw
      rw [advance_advance] at hrest
      refine ⟨buffer :: buffers, ?_, congrArg Nat.succ hlen, ?_⟩
      · simp only [drawAll, hdraw, hrest, ok_bind, bytesDrawn_cons]
        rfl
      · intro i count h
        cases i with
        | zero =>
            obtain rfl : bits = count := Option.some.inj h
            exact ⟨buffer, rfl, hfirst⟩
        | succ i =>
            obtain ⟨next, hnext, hat⟩ := hdrawn i count h
            rw [List.take_succ_cons, bytesDrawn_cons]
            exact ⟨next, hnext, hat.of_advance⟩

/-- Any numbers in the bounds of their bits are drawn off every tape that
begins with the right bytes. -/
theorem exists_bytes_drawn {values counts : List Nat}
    (h : List.Forall₂ (fun value bits => value < 2 ^ bits) values counts) :
    ∃ bytes : Buffer, ∀ tape : Tape, tape.peek bytes.length = bytes →
      ∃ buffers rest, drawAll tape counts = .ok (buffers, rest) ∧
        buffers.map value = values := by
  induction h with
  | nil => exact ⟨[], fun tape _ => ⟨[], tape, rfl, rfl⟩⟩
  | @cons x bits values counts hlt _ ih =>
      -- the bytes of the number at the width of its bits, in front of the others
      obtain ⟨rest, hrest⟩ := ih
      obtain ⟨chunk, hchunk⟩ :=
        exists_encode_eq_ok_iff.2 (Nat.lt_of_lt_of_le hlt (two_pow_le_byteCount bits))
      obtain ⟨hwidth, hx⟩ := encode_eq_ok_iff.1 hchunk
      refine ⟨chunk ++ rest, ?_⟩
      intro tape htape
      rw [List.length_append, peek_add] at htape
      obtain ⟨hfront, hback⟩ := List.append_inj htape (length_peek _ _)
      obtain ⟨buffer, hdraw, -, hvalue⟩ := draw_cases tape bits
      obtain ⟨buffers, last, hall, hvalues⟩ := hrest _ hback
      rw [← hwidth] at hdraw hvalue
      rw [hfront, hx, Nat.mod_eq_of_lt hlt] at hvalue
      refine ⟨buffer :: buffers, last, ?_, ?_⟩
      · simp only [drawAll, hdraw, hall, ok_bind]
        rfl
      · rw [List.map_cons, hvalue, hvalues]

/-- A run of draws has a result for every tape and all bit counts, zero
included. Draw `i` takes exactly the bytes that its bits need, from where the
draws before it have stopped, and gives a buffer of that many bytes. Its number
is that of the bytes taken by the modulus `2 ^ bits`. All numbers in the bounds
of their bits are drawn, together, off some tape. -/
theorem drawAll_consumes (counts : List Nat) :
    (∀ tape : Tape, ∃ buffers,
      drawAll tape counts = .ok (buffers, tape.advance (bytesDrawn counts)) ∧
      buffers.length = counts.length ∧
      ∀ i bits, counts[i]? = some bits →
        ∃ buffer, buffers[i]? = some buffer ∧
          DrawnAt tape (bytesDrawn (counts.take i)) bits buffer) ∧
    ∀ values, List.Forall₂ (fun value bits => value < 2 ^ bits) values counts →
      ∃ tape buffers rest, drawAll tape counts = .ok (buffers, rest) ∧
        buffers.map value = values := by
  refine ⟨fun tape => drawAll_cases tape counts, ?_⟩
  intro values hvalues
  obtain ⟨bytes, hbytes⟩ := exists_bytes_drawn hvalues
  exact ⟨cycle bytes, hbytes _ (peek_cycle bytes)⟩

/-- Twelve bits, none, and three off a tape of the bytes `0xab` and `0xcd`: the
last draw begins with the third byte, and its number is three. Off another tape
the same draws give the greatest number, zero and five. -/
theorem drawAll_consumes_three_draws :
    ∃ buffers, drawAll (cycle [0xab, 0xcd]) [12, 0, 3] =
        .ok (buffers, (cycle [0xab, 0xcd]).advance 3) ∧
      [12, 0, 3][2]? = some 3 ∧
      (∃ buffer, buffers[2]? = some buffer ∧ DrawnAt (cycle [0xab, 0xcd]) 2 3 buffer ∧
        value buffer = 3) ∧
      List.Forall₂ (fun value bits => value < 2 ^ bits) [4095, 0, 5] [12, 0, 3] ∧
      ∃ tape buffers rest, drawAll tape [12, 0, 3] = .ok (buffers, rest) ∧
        buffers.map value = [4095, 0, 5] := by
  obtain ⟨hruns, hreached⟩ := drawAll_consumes [12, 0, 3]
  obtain ⟨buffers, hrun, -, hdrawn⟩ := hruns (cycle [0xab, 0xcd])
  obtain ⟨buffer, hbuffer, hat⟩ := hdrawn 2 3 rfl
  have hvalues : List.Forall₂ (fun value bits => value < 2 ^ bits) [4095, 0, 5] [12, 0, 3] := by
    simp
  exact ⟨buffers, hrun, rfl, ⟨buffer, hbuffer, hat, hat.value_eq.trans (by decide)⟩, hvalues,
    hreached _ hvalues⟩

end Tape

end PowerProduct
