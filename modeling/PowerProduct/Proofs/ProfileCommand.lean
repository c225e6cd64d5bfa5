import Mathlib
import PowerProduct.Proofs.DrawnNumbers
import PowerProduct.Proofs.ProductCommand

/-!
# The command `profile`

The command generates a request and evaluates it by three strategies. Whatever
tape the numbers come off, the generated buffers are in order and the modulus is
positive (`exists_generate`), so every strategy gives the same value and none is
found to differ (`compareStrategies_of_evaluate`). The command ends as its shape
and its settings alone require (`runProfile_eq`), and the program ends in the
same way under all generators (`run_generator_eq`).
-/

set_option autoImplicit false

namespace PowerProduct.CommandLine

open Buffer Encoded

/-! ## Generated requests -/

/-- Draws of one bit count give buffers of one width. -/
theorem exists_drawAll_replicate (tape : Tape) (size bits : Nat) :
    ∃ buffers rest, tape.drawAll (List.replicate size bits) = .ok (buffers, rest) ∧
      buffers.length = size ∧ Uniform buffers := by
  obtain ⟨buffers, hdraw, hlen, hdrawn⟩ := tape.drawAll_cases (List.replicate size bits)
  rw [List.length_replicate] at hlen
  refine ⟨buffers, _, hdraw, hlen, ?_⟩
  apply Uniform.of_length
  intro buffer hmem
  obtain ⟨i, hi, rfl⟩ := List.getElem_of_mem hmem
  have hcount : (List.replicate size bits)[i]? = some bits :=
    List.getElem?_replicate_of_lt (hlen ▸ hi)
  obtain ⟨found, hfound, hat⟩ := hdrawn i bits hcount
  rw [List.getElem?_eq_getElem hi, Option.some.injEq] at hfound
  rw [hfound, hat.length_eq]

/-- A byte with its lowest bit set is not zero. -/
theorem or_one_ne_zero (byte : UInt8) : byte ||| 1 ≠ 0 := by
  intro hzero
  have hle : (1 : UInt8).toNat ≤ (byte ||| 1).toNat := by
    rw [UInt8.toNat_or]
    exact Nat.right_le_or
  rw [hzero] at hle
  exact absurd hle (by decide)

/-- A buffer that is made odd holds a positive number. -/
theorem exists_oddFullLength {buffer : Buffer} (h : buffer ≠ []) (bits : Nat) :
    ∃ modulus, oddFullLength bits buffer = .ok modulus ∧ 0 < modulus.value := by
  cases buffer with
  | nil => exact absurd rfl h
  | cons first rest =>
      refine ⟨_, rfl, ?_⟩
      -- the last byte, which is the first one if there is no other, is odd
      rw [value_pos_iff]
      refine ⟨_, List.getElem_mem (n := rest.length) (by simp), ?_⟩
      simp only [List.length_cons, Nat.add_sub_cancel, List.getElem_modify_eq]
      exact or_one_ne_zero _

/-- Off every tape a request is generated that has buffers in order and a
positive modulus. -/
theorem exists_generate {options : ProfileOptions} (hsize : options.size ≠ 0)
    (hbits : 2 ≤ options.modulusBits) (tape : Tape) :
    ∃ request, EncodedRequest.generate options tape = .ok request ∧
      WellShaped request.bases request.exponents ∧ 0 < request.modulus.value := by
  obtain ⟨drawn, hdrawn, hlen, -⟩ := tape.draw_cases options.modulusBits
  have hne : drawn ≠ [] := by
    apply List.ne_nil_of_length_pos
    rw [hlen, byteCount]
    omega
  obtain ⟨modulus, hmodulus, hpos⟩ := exists_oddFullLength hne options.modulusBits
  obtain ⟨bases, afterBases, hbases, hbaseCount, hbaseWidth⟩ :=
    exists_drawAll_replicate (tape.advance (byteCount options.modulusBits)) options.size
      (options.modulusBits - 1)
  obtain ⟨exponents, afterExponents, hexponents, hexponentCount, hexponentWidth⟩ :=
    exists_drawAll_replicate afterBases options.size options.exponentBits
  refine ⟨⟨bases, exponents, modulus⟩, ?_, ⟨?_, ?_, hbaseWidth, hexponentWidth⟩, hpos⟩
  · simp only [EncodedRequest.generate, hdrawn, hmodulus, hbases, hexponents, ok_bind]
    rfl
  · exact List.ne_nil_of_length_pos (hbaseCount ▸ Nat.pos_of_ne_zero hsize)
  · exact hbaseCount.trans hexponentCount.symm

/-! ## The comparison -/

/-- Strategies that all give the value of the reference are not found to differ. -/
theorem compareStrategies_of_evaluate {config : Config} {request : EncodedRequest}
    {value : Buffer} (h : ∀ strategy, request.evaluate { config with strategy } = .ok value)
    {reference : Option Buffer} (hreference : ∀ expected ∈ reference, expected = value)
    (strategies : List Strategy) :
    compareStrategies config request reference strategies = .ok () := by
  induction strategies generalizing reference with
  | nil => rfl
  | cons strategy rest ih =>
      have hrest : compareStrategies config request (some value) rest = .ok () := ih (by simp)
      cases reference with
      | none =>
          -- the first value becomes the reference
          rw [compareStrategies, h strategy]
          exact hrest
      | some expected =>
          obtain rfl : expected = value := hreference expected rfl
          rw [compareStrategies, h strategy]
          simpa [bind, Except.bind] using hrest

/-! ## The run -/

section Run

variable (generator : Nat → Tape) (options : ProfileOptions) (environment : Environment)

/-- Once the shape and the settings have passed their checks nothing can fail,
whatever the generator draws. -/
theorem profile_eq_ok {config : Config} (hsize : options.size ≠ 0) (hbits : 2 ≤ options.modulusBits)
    (hconfig : effectiveConfig options.engine environment = .ok config) :
    profile generator options environment = .ok () := by
  obtain ⟨request, hrequest, hwell, hm⟩ :=
    exists_generate hsize hbits (generator options.seed)
  have hwidth := supported_of_effectiveConfig hconfig
  have hvalue : ∀ strategy, request.evaluate { config with strategy } = .ok request.answer :=
    fun strategy => evaluate_of_wellShaped hwell hm hwidth
  have hequal : compareStrategies config request none profiledStrategies = .ok () :=
    compareStrategies_of_evaluate hvalue (by simp) profiledStrategies
  have hshape : ¬ (options.size = 0 ∨ options.modulusBits < 2) := by omega
  rw [profile, if_neg hshape, hconfig, hrequest]
  exact hequal

/-- The shape is checked before the settings, and only these two decide how the
command ends. -/
theorem runProfile_eq :
    runProfile generator options environment =
      if options.size = 0 ∨ options.modulusBits < 2 then
        .stopped "" (.report
          ⟨"profile needs at least one pair and a modulus of at least 2 bits", none⟩)
      else
        match effectiveConfig options.engine environment with
        | .ok _ => .success ""
        | .error stop => .stopped "" stop := by
  by_cases hshape : options.size = 0 ∨ options.modulusBits < 2
  · rw [runProfile, profile, if_pos hshape, if_pos hshape]
    rfl
  · rw [if_neg hshape]
    cases hconfig : effectiveConfig options.engine environment with
    | error stop =>
        rw [runProfile, profile, if_neg hshape, hconfig]
        rfl
    | ok config =>
        rw [not_or, Nat.not_lt] at hshape
        rw [runProfile, profile_eq_ok generator options environment hshape.1 hshape.2 hconfig]

/-- The program ends in the same way under all generators. -/
theorem run_generator_eq (words : List String) (other : Nat → Tape) :
    run words environment generator = run words environment other := by
  have hcommand : ∀ command : Command,
      command.run generator environment = command.run other environment := by
    intro command
    cases command with
    | prodPow => rfl
    | check => rfl
    | profile options =>
        rw [Command.run, Command.run, runProfile_eq, runProfile_eq]
  simp only [run, hcommand]

end Run

end PowerProduct.CommandLine
