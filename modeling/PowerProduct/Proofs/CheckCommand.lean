import Mathlib
import PowerProduct.Proofs.ElementwiseProducts
import PowerProduct.Proofs.ProductCommand

/-!
# The command `check`

The command evaluates a request by four methods, two of which do not use its
settings. The first method refuses what `prod-pow` refuses, with the same error
(`allResults_of_refusal`), and all give the same buffer for every other request
(`allResults_of_wellShaped`). So `check` stops when `prod-pow` stops, with the
same report, and otherwise prints its result four times (`runCheck_agrees`).
What can be wrong with settings, texts and buffers is never reported in the
words for methods that disagree, which begin with another letter
(`prepare_cases`).
-/

set_option autoImplicit false

namespace PowerProduct

/-! ## How messages begin -/

/-- A letter in front stays there, whatever is written behind. -/
theorem head?_append {front : String} {c : Char} (h : front.toList.head? = some c)
    (back : String) : (front ++ back).toList.head? = some c := by
  rw [String.toList_append, List.head?_append, h]
  rfl

theorem ne_of_head? {text other : String} {c : Char} (h : text.toList.head? = some c)
    (hother : other.toList.head? ≠ some c) : text ≠ other := by
  rintro rfl
  exact hother h

/-- Every message of an error begins with a capital letter. -/
theorem Error.message_head (e : Error) :
    ∃ c, e.message.toList.head? = some c ∧ c.isUpper = true := by
  -- what a message says of its own values stands behind its first words
  cases e with
  | noPairs => exact ⟨'E', by decide, by decide⟩
  | lengthMismatch expected actual =>
      refine ⟨'I', ?_, by decide⟩
      repeat apply head?_append
      decide
  | raggedWidth array index expected actual =>
      refine ⟨'N', ?_, by decide⟩
      repeat apply head?_append
      decide
  | zeroModulus => exact ⟨'M', by decide, by decide⟩
  | windowOutOfRange width max =>
      refine ⟨'I', ?_, by decide⟩
      repeat apply head?_append
      decide
  | badSetting key value =>
      refine ⟨'I', ?_, by decide⟩
      repeat apply head?_append
      decide
  | overflow needed width =>
      refine ⟨'E', ?_, by decide⟩
      repeat apply head?_append
      decide
  | outOfStorage what count =>
      refine ⟨'F', ?_, by decide⟩
      repeat apply head?_append
      decide

namespace CommandLine

open Buffer Encoded

/-! ## What is reported before the evaluation -/

theorem message_ne_disagree (e : Error) : e.message ≠ "strategies disagree" := by
  obtain ⟨c, hhead, hupper⟩ := e.message_head
  apply ne_of_head? hhead
  intro hother
  have hc : c = 's' := by simpa using hother.symm
  rw [hc] at hupper
  exact absurd hupper (by decide)

theorem ofInvalidHex_ne_disagree (invalid : Hex.Invalid) :
    (Report.ofInvalidHex invalid).message ≠ "strategies disagree" := by
  have hhead : (Report.ofInvalidHex invalid).message.toList.head? = some 'i' :=
    head?_append (by decide) _
  exact ne_of_head? hhead (by decide)

theorem BadPair.ne_disagree {text : String} {report : Report} (h : BadPair text report) :
    report.message ≠ "strategies disagree" := by
  cases h with
  | noColon h =>
      have hhead : ("expected BASE:EXP, got " ++ Text.quote text).toList.head? = some 'e' :=
        head?_append (by decide) _
      exact ne_of_head? hhead (by decide)
  | base => exact ofInvalidHex_ne_disagree _
  | exponent => exact ofInvalidHex_ne_disagree _

theorem BadRequest.ne_disagree {options : RequestOptions} {report : Report}
    (h : BadRequest options report) : report.message ≠ "strategies disagree" := by
  cases h with
  | pair hpairs hbefore hbad => exact hbad.ne_disagree
  | modulus => exact ofInvalidHex_ne_disagree _

/-- Texts that denote numbers are read, also if there are none. -/
theorem exists_ofOptions {options : RequestOptions} {pairs : List (Nat × Nat)} {modulus : Buffer}
    (h : DenotesRequest options pairs modulus) :
    ∃ request, EncodedRequest.ofOptions options = .ok request := by
  obtain ⟨buffers, hbuffers, -⟩ := mapM_parsePair_of_denotes h.pairs_denote
  rw [EncodedRequest.ofOptions, hbuffers, parseNumeral, h.modulus_parses]
  exact ⟨_, rfl⟩

/-- A command has its settings, of a supported width, and its request, or a
report about these, which does not speak of methods that disagree. -/
theorem prepare_cases (options : RequestOptions) (environment : Environment) :
    (∃ config request, prepare options environment = .ok (config, request) ∧
        1 ≤ config.windowWidth ∧ config.windowWidth ≤ Window.maxWidth) ∨
      ∃ report : Report, prepare options environment = .error (.report report) ∧
        report.message ≠ "strategies disagree" := by
  rcases effectiveConfig_cases options.engine environment with
    ⟨config, hconfig, hwidth⟩ | ⟨e, he⟩ | ⟨width, hrefused⟩
  · rw [prepare_of_config hconfig]
    rcases badRequest_or_denotes options with ⟨report, hbad⟩ | ⟨pairs, modulus, hdenotes⟩
    · rw [ofOptions_of_bad hbad]
      exact Or.inr ⟨report, rfl, hbad.ne_disagree⟩
    · obtain ⟨request, hrequest⟩ := exists_ofOptions hdenotes
      rw [hrequest]
      exact Or.inl ⟨config, request, rfl, hwidth⟩
  · have hmessage : "reading SPOWM_* environment" ≠ "strategies disagree" := by decide
    rw [prepare, he]
    exact Or.inr ⟨_, rfl, hmessage⟩
  · have hmessage := message_ne_disagree (.windowOutOfRange width Window.maxWidth)
    rw [prepare, hrefused]
    exact Or.inr ⟨_, rfl, hmessage⟩

/-! ## The methods -/

section Methods

variable {request : EncodedRequest}

/-- A method with the default settings is an evaluation under these. -/
theorem evaluateBy_eq (request : EncodedRequest) (strategy : Strategy) :
    request.evaluateBy strategy = request.evaluate { strategy } := rfl

theorem elementwise_of_wellShaped (h : WellShaped request.bases request.exponents)
    (hm : 0 < request.modulus.value) : request.elementwise = .ok request.answer := by
  have hne := numberPairs_ne_nil h.nonempty h.length_eq
  rw [EncodedRequest.elementwise, powers_of_wellShaped h hm, ok_bind,
    productAll_encodedPower hne hm]
  rfl

/-- The first method already refuses what all of them refuse. -/
theorem allResults_of_refusal {e : Error}
    (h : Refusal request.bases request.exponents request.modulus e) (config : Config) :
    allResults config request = .error (.report ⟨e.message, none⟩) := by
  rw [allResults, evaluate_of_refusal h]
  rfl

/-- All methods give the same buffer. The two that take the settings need a
supported width, which the default of the others is. -/
theorem allResults_of_wellShaped (h : WellShaped request.bases request.exponents)
    (hm : 0 < request.modulus.value) {config : Config}
    (hwidth : 1 ≤ config.windowWidth ∧ config.windowWidth ≤ Window.maxWidth) :
    allResults config request = .ok [("single-shot", request.answer), ("batched", request.answer),
      ("naive", request.answer), ("elementwise", request.answer)] := by
  have hsingle : request.evaluate { config with strategy := .singleShot } = .ok request.answer :=
    evaluate_of_wellShaped h hm hwidth
  have hbatched : request.evaluate { config with strategy := .batched } = .ok request.answer :=
    evaluate_of_wellShaped h hm hwidth
  have hnaive : request.evaluateBy .naive = .ok request.answer := by
    rw [evaluateBy_eq]
    exact evaluate_of_wellShaped h hm (by decide)
  rw [allResults, hsingle, hbatched, hnaive, elementwise_of_wellShaped h hm]
  rfl

end Methods

/-! ## The run -/

/-- What `check` prints when the result of each method has the digits
`digits`. -/
def methodLines (digits : String) : String :=
  String.join [
    " single-shot: " ++ digits ++ "\n",
    "     batched: " ++ digits ++ "\n",
    "       naive: " ++ digits ++ "\n",
    " elementwise: " ++ digits ++ "\n"]

section Run

variable {options : RequestOptions} {environment : Environment} {config : Config}
  {request : EncodedRequest}

theorem runCheck_of_prepare_error {stop : Stop} (h : prepare options environment = .error stop) :
    runCheck options environment = .stopped "" stop := by
  rw [runCheck, checkResults, h]
  rfl

theorem checkResults_of_prepare (h : prepare options environment = .ok (config, request)) :
    checkResults options environment = allResults config request := by
  rw [checkResults, h]
  rfl

theorem runCheck_of_refusal {e : Error} (h : prepare options environment = .ok (config, request))
    (hrefusal : Refusal request.bases request.exponents request.modulus e) :
    runCheck options environment = .stopped "" (.report ⟨e.message, none⟩) := by
  rw [runCheck, checkResults_of_prepare h, allResults_of_refusal hrefusal]

theorem resultLine_eq {name label : String} (h : alignRight 12 name ++ ": " = label)
    (out : Buffer) : resultLine (name, out) = label ++ Hex.encode out ++ "\n" := by
  rw [resultLine, h]

theorem join_resultLine (out : Buffer) :
    String.join ([("single-shot", out), ("batched", out), ("naive", out),
      ("elementwise", out)].map resultLine) = methodLines (Hex.encode out) := by
  have hsingle : alignRight 12 "single-shot" ++ ": " = " single-shot: " := by decide
  have hbatched : alignRight 12 "batched" ++ ": " = "     batched: " := by decide
  have hnaive : alignRight 12 "naive" ++ ": " = "       naive: " := by decide
  have helementwise : alignRight 12 "elementwise" ++ ": " = " elementwise: " := by decide
  rw [List.map_cons, List.map_cons, List.map_cons, List.map_cons, List.map_nil,
    resultLine_eq hsingle, resultLine_eq hbatched, resultLine_eq hnaive,
    resultLine_eq helementwise, methodLines]

theorem runCheck_of_wellShaped (h : prepare options environment = .ok (config, request))
    (hshape : WellShaped request.bases request.exponents) (hm : 0 < request.modulus.value)
    (hwidth : 1 ≤ config.windowWidth ∧ config.windowWidth ≤ Window.maxWidth) :
    runCheck options environment = .success (methodLines (Hex.encode request.answer)) := by
  rw [runCheck, checkResults_of_prepare h, allResults_of_wellShaped hshape hm hwidth]
  have hequal : allEqual [("single-shot", request.answer), ("batched", request.answer),
      ("naive", request.answer), ("elementwise", request.answer)] = true := by
    simp [allEqual]
  simp only [hequal, if_true, join_resultLine]

end Run

/-- On the same arguments, `check` and `prod-pow` stop with the same report, or
both succeed, and then each of the four lines of `check` carries the digits that
`prod-pow` prints. The methods never disagree. -/
theorem runCheck_agrees (options : RequestOptions) (environment : Environment) :
    (∃ report : Report, report.message ≠ "strategies disagree" ∧
        runProdPow options environment = .stopped "" (.report report) ∧
        runCheck options environment = .stopped "" (.report report)) ∨
      ∃ digits : String, (∀ c ∈ digits.toList, Hex.IsLowerDigit c) ∧
        runProdPow options environment = .success (digits ++ "\n") ∧
        runCheck options environment = .success (methodLines digits) := by
  rcases prepare_cases options environment with
    ⟨config, request, hprepare, hwidth⟩ | ⟨report, hprepare, hmessage⟩
  · -- the settings are usable, so the buffers alone decide about both commands
    rcases refusal_or_wellShaped request.bases request.exponents request.modulus with
      ⟨e, hrefusal⟩ | ⟨hshape, hm⟩
    · have hvalue := evaluate_of_refusal hrefusal config
      exact Or.inl ⟨_, message_ne_disagree e, runProdPow_of_evaluate_error hprepare hvalue,
        runCheck_of_refusal hprepare hrefusal⟩
    · have hvalue := evaluate_of_wellShaped hshape hm hwidth
      have hdigits := (Hex.eq_encode_iff.1 (Eq.refl (Hex.encode request.answer))).2.1
      exact Or.inr ⟨_, hdigits, runProdPow_of_evaluate_ok hprepare hvalue,
        runCheck_of_wellShaped hprepare hshape hm hwidth⟩
  · exact Or.inl ⟨report, hmessage, runProdPow_of_prepare_error hprepare,
      runCheck_of_prepare_error hprepare⟩

end CommandLine

end PowerProduct
