import Mathlib
import PowerProduct.Proofs.CommandInputs

/-!
# The command `prod-pow`

Under usable settings the command ends in one of three ways, which
`ProductEnding` lists: a report of the first text that cannot be read, a report
of a modulus that is zero, or the product of powers in two digits for each byte
of the modulus. The texts need not be equally long, since each side is padded to
one width before it is evaluated. `runProdPow_iff_ending` states that the
command ends exactly as it should.
-/

set_option autoImplicit false

namespace PowerProduct.CommandLine

open Buffer Encoded

/-! ## The evaluation of a request -/

section Evaluation

variable {request : EncodedRequest}

theorem evaluate_of_refusal {e : Error}
    (h : Refusal request.bases request.exponents request.modulus e) (config : Config) :
    request.evaluate config = .error (.report ⟨e.message, none⟩) := by
  rw [EncodedRequest.evaluate, powerProductWith_of_refusal h]
  rfl

/-- The value of a request with buffers in order. -/
def EncodedRequest.answer (request : EncodedRequest) : Buffer :=
  padTo request.modulus.length
    (ofNat (productOfPowers (numberPairs request.bases request.exponents) % request.modulus.value))

theorem evaluate_of_wellShaped (h : WellShaped request.bases request.exponents)
    (hm : 0 < request.modulus.value) {config : Config}
    (hwidth : 1 ≤ config.windowWidth ∧ config.windowWidth ≤ Window.maxWidth) :
    request.evaluate config = .ok request.answer := by
  rw [EncodedRequest.evaluate, powerProductWith_of_wellShaped h hm, if_pos hwidth]
  rfl

theorem length_answer (hm : 0 < request.modulus.value) :
    request.answer.length = request.modulus.length :=
  length_padTo_mod_value hm _

theorem value_answer (request : EncodedRequest) :
    request.answer.value =
      productOfPowers (numberPairs request.bases request.exponents) % request.modulus.value := by
  rw [EncodedRequest.answer, value_padTo, value_ofNat]

end Evaluation

/-! ## The run -/

section Run

variable {options : RequestOptions} {environment : Environment} {config : Config}
  {request : EncodedRequest} {stop : Stop}

theorem prepare_of_config (hconfig : effectiveConfig options.engine environment = .ok config) :
    prepare options environment =
      (EncodedRequest.ofOptions options).map fun request => (config, request) := by
  rw [prepare, hconfig]
  cases EncodedRequest.ofOptions options with
  | error stop => rfl
  | ok request => rfl

theorem runProdPow_of_prepare_error (h : prepare options environment = .error stop) :
    runProdPow options environment = .stopped "" stop := by
  rw [runProdPow, prodPowLine, h]
  rfl

theorem prodPowLine_of_prepare (h : prepare options environment = .ok (config, request)) :
    prodPowLine options environment = do
      return Hex.encode (← request.evaluate config) ++ "\n" := by
  rw [prodPowLine, h]
  rfl

theorem runProdPow_of_evaluate_error (h : prepare options environment = .ok (config, request))
    (hvalue : request.evaluate config = .error stop) :
    runProdPow options environment = .stopped "" stop := by
  rw [runProdPow, prodPowLine_of_prepare h, hvalue]
  rfl

theorem runProdPow_of_evaluate_ok {out : Buffer}
    (h : prepare options environment = .ok (config, request))
    (hvalue : request.evaluate config = .ok out) :
    runProdPow options environment = .success (Hex.encode out ++ "\n") := by
  rw [runProdPow, prodPowLine_of_prepare h, hvalue]
  rfl

end Run

/-! ## The endings -/

/-- How `prod-pow` ends under usable settings: with the report of a text that is
not what it should be, with the report of a modulus that is zero, or with the
product of powers in small digits, two for each byte of the modulus. -/
inductive ProductEnding (options : RequestOptions) : Completion → Prop where
  | malformed {report : Report} (h : BadRequest options report) :
      ProductEnding options (.stopped "" (.report report))
  | zeroModulus {pairs : List (Nat × Nat)} {modulus : Buffer}
      (h : DenotesRequest options pairs modulus)
      (hzero : Hex.number (Hex.numeral options.modulus.toList) = 0) :
      ProductEnding options (.stopped "" (.report ⟨Error.zeroModulus.message, none⟩))
  | product {pairs : List (Nat × Nat)} {modulus : Buffer} {digits : String}
      (h : DenotesRequest options pairs modulus)
      (hpos : 0 < Hex.number (Hex.numeral options.modulus.toList))
      (hlen : digits.length = 2 * modulus.length)
      (hdigits : ∀ c ∈ digits.toList, Hex.IsLowerDigit c)
      (hnumber : Hex.number digits.toList =
        productOfPowers pairs % Hex.number (Hex.numeral options.modulus.toList)) :
      ProductEnding options (.success (digits ++ "\n"))

section Endings

variable {options : RequestOptions} {environment : Environment} {config : Config}
  {pairs : List (Nat × Nat)} {modulus : Buffer}

theorem DenotesRequest.value_modulus (h : DenotesRequest options pairs modulus) :
    modulus.value = Hex.number (Hex.numeral options.modulus.toList) :=
  (Hex.parse_eq_ok_iff.1 h.modulus_parses).2.2

variable (hconfig : effectiveConfig options.engine environment = .ok config)
include hconfig

theorem runProdPow_of_bad {report : Report} (h : BadRequest options report) :
    runProdPow options environment = .stopped "" (.report report) := by
  apply runProdPow_of_prepare_error
  rw [prepare_of_config hconfig, ofOptions_of_bad h]
  rfl

theorem runProdPow_of_zero (h : DenotesRequest options pairs modulus) (hne : options.pairs ≠ [])
    (hzero : modulus.value = 0) :
    runProdPow options environment = .stopped "" (.report ⟨Error.zeroModulus.message, none⟩) := by
  obtain ⟨bases, exponents, hrequest, hshape, -⟩ := ofOptions_of_denotes h hne
  have hprepare : prepare options environment = .ok (config, ⟨bases, exponents, modulus⟩) := by
    rw [prepare_of_config hconfig, hrequest]
    rfl
  apply runProdPow_of_evaluate_error hprepare
  exact evaluate_of_refusal (.zeroModulus hshape ((value_eq_zero_iff modulus).1 hzero)) config

/-- Texts that denote numbers are evaluated, whatever their lengths. -/
theorem runProdPow_of_pos (h : DenotesRequest options pairs modulus) (hne : options.pairs ≠ [])
    (hm : 0 < modulus.value) :
    ∃ answer : Buffer, answer.length = modulus.length ∧
      answer.value = productOfPowers pairs % modulus.value ∧
      runProdPow options environment = .success (Hex.encode answer ++ "\n") := by
  obtain ⟨bases, exponents, hrequest, hshape, hpairs⟩ := ofOptions_of_denotes h hne
  have hprepare : prepare options environment = .ok (config, ⟨bases, exponents, modulus⟩) := by
    rw [prepare_of_config hconfig, hrequest]
    rfl
  refine ⟨EncodedRequest.answer ⟨bases, exponents, modulus⟩, length_answer hm, ?_, ?_⟩
  · rw [value_answer, hpairs]
  · apply runProdPow_of_evaluate_ok hprepare
    exact evaluate_of_wellShaped hshape hm (supported_of_effectiveConfig hconfig)

/-- An ending is how the command ends. -/
theorem ProductEnding.eq {completion : Completion} (hne : options.pairs ≠ [])
    (h : ProductEnding options completion) : runProdPow options environment = completion := by
  cases h with
  | malformed h => exact runProdPow_of_bad hconfig h
  | zeroModulus h hzero => exact runProdPow_of_zero hconfig h hne (h.value_modulus.trans hzero)
  | @product pairs modulus digits h hpos hlen hdigits hnumber =>
      rw [← h.value_modulus] at hpos hnumber
      obtain ⟨answer, hlength, hvalue, hrun⟩ := runProdPow_of_pos hconfig h hne hpos
      -- the digits are those of the answer
      have hsame : digits = Hex.encode answer :=
        Hex.eq_encode_iff.2 ⟨by rw [hlen, hlength], hdigits, hnumber.trans hvalue.symm⟩
      rw [hrun, hsame]

theorem exists_productEnding (hne : options.pairs ≠ []) :
    ∃ completion, ProductEnding options completion := by
  rcases badRequest_or_denotes options with ⟨report, h⟩ | ⟨pairs, modulus, h⟩
  · exact ⟨_, .malformed h⟩
  rcases Nat.eq_zero_or_pos modulus.value with hzero | hm
  · exact ⟨_, .zeroModulus h (h.value_modulus.symm.trans hzero)⟩
  · obtain ⟨answer, hlength, hvalue, -⟩ := runProdPow_of_pos hconfig h hne hm
    obtain ⟨hlen, hdigits, hnumber⟩ := Hex.eq_encode_iff.1 (Eq.refl (Hex.encode answer))
    rw [h.value_modulus] at hm hvalue
    exact ⟨_, .product h hm (by rw [hlen, hlength]) hdigits (hnumber.trans hvalue)⟩

end Endings

/-- Under usable settings, and with at least one pair, the command ends exactly
as the texts of its request require. -/
theorem runProdPow_iff_ending {options : RequestOptions} {environment : Environment}
    {config : Config} (hne : options.pairs ≠ [])
    (hconfig : effectiveConfig options.engine environment = .ok config) (completion : Completion) :
    runProdPow options environment = completion ↔ ProductEnding options completion := by
  obtain ⟨due, hdue⟩ := exists_productEnding hconfig hne
  constructor
  · rintro rfl
    rw [hdue.eq hconfig hne]
    exact hdue
  · exact ProductEnding.eq hconfig hne

/-- Numerals of different lengths, and a modulus of three digits: the result has
the four digits of two bytes. -/
theorem runProdPow_mixed_widths :
    ["3:00A", "10A:2"] ≠ [] ∧
      effectiveConfig { strategy := some .batched }
        (Environment.ofList [(Config.widthVariable, [0x33])]) =
          .ok { strategy := .batched, windowWidth := 3 } ∧
      runProdPow ⟨" 0x1F1", ["3:00A", "10A:2"], { strategy := some .batched }⟩
        (Environment.ofList [(Config.widthVariable, [0x33])]) = .success ("011f" ++ "\n") := by
  have hne : ["3:00A", "10A:2"] ≠ [] := by decide
  have hconfig : effectiveConfig { strategy := some .batched }
      (Environment.ofList [(Config.widthVariable, [0x33])]) =
        .ok { strategy := .batched, windowWidth := 3 } := by decide +kernel
  have hfirst : DenotesPair "3:00A" (3, 10) := by
    have hsplit : "3:00A".toList = ['3'] ++ ':' :: ['0', '0', 'A'] := by decide
    have hbase : Hex.parse (String.ofList ['3']) = .ok [0x03] := by decide +kernel
    have hexponent : Hex.parse (String.ofList ['0', '0', 'A']) = .ok [0x00, 0x0a] := by
      decide +kernel
    exact .numerals hsplit (by decide) hbase hexponent
  have hsecond : DenotesPair "10A:2" (266, 2) := by
    have hsplit : "10A:2".toList = ['1', '0', 'A'] ++ ':' :: ['2'] := by decide
    have hbase : Hex.parse (String.ofList ['1', '0', 'A']) = .ok [0x01, 0x0a] := by decide +kernel
    have hexponent : Hex.parse (String.ofList ['2']) = .ok [0x02] := by decide +kernel
    exact .numerals hsplit (by decide) hbase hexponent
  have hmodulus : Hex.parse " 0x1F1" = .ok [0x01, 0xf1] := by decide +kernel
  have hrequest : DenotesRequest ⟨" 0x1F1", ["3:00A", "10A:2"], { strategy := some .batched }⟩
      [(3, 10), (266, 2)] [0x01, 0xf1] := ⟨.cons hfirst (.cons hsecond .nil), hmodulus⟩
  have htext : "011f" = Hex.encode [0x01, 0x1f] := by decide
  obtain ⟨hlen, hdigits, hnumber⟩ := Hex.eq_encode_iff.1 htext
  have hvalue : Buffer.value [0x01, 0x1f] =
      productOfPowers [(3, 10), (266, 2)] % Hex.number (Hex.numeral " 0x1F1".toList) := by
    decide +kernel
  refine ⟨hne, hconfig, (runProdPow_iff_ending hne hconfig _).2 ?_⟩
  exact .product hrequest (by decide) hlen hdigits (hnumber.trans hvalue)

end PowerProduct.CommandLine
