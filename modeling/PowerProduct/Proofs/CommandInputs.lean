import Mathlib
import PowerProduct.CommandLine.Run
import PowerProduct.Proofs.BufferRequests
import PowerProduct.Proofs.HexNumerals

/-!
# What a command takes in

A command takes settings from its environment and its options, and a request
from its texts. The settings are usable or there is a report about them
(`effectiveConfig_cases`). A text is a pair when two numerals stand around its
first colon. The texts of a request are read in order, and `BadRequest` says
which of them is reported (`ofOptions_of_bad`); otherwise the request holds the
numbers that the texts denote, each side padded to one width
(`ofOptions_of_denotes`).
-/

set_option autoImplicit false

namespace PowerProduct

/-! ## Steps over a list -/

section Steps

variable {ε α β : Type} {step : α → Except ε β}

/-- The first step that fails ends the run over a list. -/
theorem mapM_of_first_error {before after : List α} {x : α} {e : ε}
    (hbefore : ∀ earlier ∈ before, ∃ y, step earlier = .ok y) (hx : step x = .error e) :
    (before ++ x :: after).mapM step = .error e := by
  induction before with
  | nil =>
      rw [List.nil_append, List.mapM_cons, hx]
      rfl
  | cons first rest ih =>
      obtain ⟨⟨y, hy⟩, hrest⟩ := List.forall_mem_cons.1 hbefore
      rw [List.cons_append, List.mapM_cons, hy, ih hrest]
      rfl

end Steps

/-! ## Buffers of one width -/

namespace Buffer

theorem le_foldl_max (buffers : List Buffer) (width : Nat) :
    width ≤ buffers.foldl (fun width b => max width b.length) width ∧
      ∀ b ∈ buffers, b.length ≤ buffers.foldl (fun width b => max width b.length) width := by
  induction buffers generalizing width with
  | nil => simp
  | cons first rest ih =>
      obtain ⟨hwidth, hrest⟩ := ih (max width first.length)
      rw [List.foldl_cons, List.forall_mem_cons]
      exact ⟨(le_max_left _ _).trans hwidth, (le_max_right _ _).trans hwidth, hrest⟩

theorem length_le_maxWidth {buffers : List Buffer} {b : Buffer} (h : b ∈ buffers) :
    b.length ≤ maxWidth buffers :=
  (le_foldl_max buffers 0).2 b h

/-- Padded to the longest of them, buffers have one width. -/
theorem uniform_align (buffers : List Buffer) : Uniform (align buffers) := by
  apply Uniform.of_length
  intro b hb
  obtain ⟨original, hmem, rfl⟩ := List.mem_map.1 hb
  exact length_padTo (length_le_maxWidth hmem)

/-- Padding does not change the numbers. -/
theorem map_value_align (buffers : List Buffer) :
    (align buffers).map value = buffers.map value := by
  rw [align, List.map_map]
  apply List.map_congr_left
  intro b _
  exact value_padTo _ b

end Buffer

namespace CommandLine

open Buffer

/-! ## Settings -/

theorem faultless_readWidth (default : Nat) (value : Option String) :
    Faultless (Config.readWidth default value) := by
  unfold Config.readWidth
  split
  · exact Faultless.of_ok _
  · split
    · exact Faultless.of_ok _
    · exact Faultless.of_refuse _

theorem faultless_readStrategy (default : Strategy) (value : Option String) :
    Faultless (Config.readStrategy default value) := by
  unfold Config.readStrategy
  split
  · exact Faultless.of_ok _
  · split
    · exact Faultless.of_ok _
    · exact Faultless.of_refuse _

theorem faultless_check (config : Config) : Faultless config.check := by
  unfold Config.check Window.requireWidth
  split
  · exact Faultless.of_refuse _
  · exact Faultless.of_ok _

theorem faultless_ofLookup (lookup : String → Option String) :
    Faultless (Config.ofLookup lookup) := by
  apply (faultless_readWidth _ _).bind
  intro width
  apply (faultless_readStrategy _ _).bind
  intro strategy
  apply (faultless_check _).bind
  intro _
  exact Faultless.of_ok _

/-- The settings `base` with the options given in their place. -/
def EngineOptions.appliedTo (options : EngineOptions) (base : Config) : Config :=
  { base with
    strategy := options.strategy.getD base.strategy
    windowWidth := options.windowWidth.getD base.windowWidth }

theorem effectiveConfig_of_ok {options : EngineOptions} {environment : Environment} {base : Config}
    (h : Config.ofEnvironment environment = .ok base) :
    effectiveConfig options environment = do
      attempt (options.appliedTo base).check
      return options.appliedTo base := by
  rw [effectiveConfig, h]
  rfl

theorem effectiveConfig_of_refuse {options : EngineOptions} {environment : Environment} {e : Error}
    (h : Config.ofEnvironment environment = refuse e) :
    effectiveConfig options environment =
      .error (.report ⟨"reading SPOWM_* environment", some e.message⟩) := by
  rw [effectiveConfig, h]
  rfl

/-- The settings have a supported width, or the report is about the environment,
or about the width. -/
theorem effectiveConfig_cases (options : EngineOptions) (environment : Environment) :
    (∃ config, effectiveConfig options environment = .ok config ∧
        1 ≤ config.windowWidth ∧ config.windowWidth ≤ Window.maxWidth) ∨
      (∃ e : Error, effectiveConfig options environment =
        .error (.report ⟨"reading SPOWM_* environment", some e.message⟩)) ∨
      ∃ width, effectiveConfig options environment =
        .error (.report ⟨(Error.windowOutOfRange width Window.maxWidth).message, none⟩) := by
  rcases (faultless_ofLookup environment.text?).ok_or_refuse with ⟨base, hbase⟩ | ⟨e, he⟩
  · rw [effectiveConfig_of_ok hbase, Config.check, Window.requireWidth_eq]
    by_cases hwidth : 1 ≤ (options.appliedTo base).windowWidth ∧
        (options.appliedTo base).windowWidth ≤ Window.maxWidth
    · rw [if_pos hwidth]
      exact Or.inl ⟨_, rfl, hwidth⟩
    · rw [if_neg hwidth]
      exact Or.inr (Or.inr ⟨_, rfl⟩)
  · exact Or.inr (Or.inl ⟨e, effectiveConfig_of_refuse he⟩)

theorem supported_of_effectiveConfig {options : EngineOptions} {environment : Environment}
    {config : Config} (h : effectiveConfig options environment = .ok config) :
    1 ≤ config.windowWidth ∧ config.windowWidth ≤ Window.maxWidth := by
  rcases effectiveConfig_cases options environment with ⟨found, hfound, hwidth⟩ | ⟨e, he⟩ | ⟨w, hw⟩
  · rw [hfound, Except.ok.injEq] at h
    rw [← h]
    exact hwidth
  · rw [he] at h
    cases h
  · rw [hw] at h
    cases h

/-! ## Texts of pairs -/

theorem splitPair?_of_split {text front back : List Char} (hsplit : text = front ++ ':' :: back)
    (hfirst : ':' ∉ front) : splitPair? text = some (front, back) := by
  have hfront : ∀ c ∈ front, decide (c ≠ ':') = true := by
    intro c hc
    rw [decide_eq_true_eq]
    rintro rfl
    exact hfirst hc
  rw [splitPair?, hsplit, List.dropWhile_append_of_pos hfront, List.takeWhile_append_of_pos hfront]
  simp

theorem splitPair?_of_notMem {text : List Char} (h : ':' ∉ text) : splitPair? text = none := by
  have hdrop : text.dropWhile (· ≠ ':') = [] := by
    rw [List.dropWhile_eq_nil_iff]
    intro c hc
    rw [decide_eq_true_eq]
    rintro rfl
    exact h hc
  rw [splitPair?, hdrop]

/-- Two numerals around the first colon of a text denote a base and an exponent,
read in base sixteen. -/
inductive DenotesPair (text : String) : Nat × Nat → Prop where
  | numerals {front back : List Char} {base exponent : Buffer}
      (hsplit : text.toList = front ++ ':' :: back) (hfirst : ':' ∉ front)
      (hbase : Hex.parse (String.ofList front) = .ok base)
      (hexponent : Hex.parse (String.ofList back) = .ok exponent) :
      DenotesPair text (Hex.number (Hex.numeral front), Hex.number (Hex.numeral back))

/-- Why a text is not a pair: it has no colon, or the part in front of the first
colon is not a numeral, or only the part after it is not. -/
inductive BadPair (text : String) : Report → Prop where
  | noColon (h : ':' ∉ text.toList) :
      BadPair text ⟨"expected BASE:EXP, got " ++ Text.quote text, none⟩
  | base {front back : List Char} {invalid : Hex.Invalid}
      (hsplit : text.toList = front ++ ':' :: back) (hfirst : ':' ∉ front)
      (hbase : Hex.parse (String.ofList front) = .error invalid) :
      BadPair text (.ofInvalidHex invalid)
  | exponent {front back : List Char} {base : Buffer} {invalid : Hex.Invalid}
      (hsplit : text.toList = front ++ ':' :: back) (hfirst : ':' ∉ front)
      (hbase : Hex.parse (String.ofList front) = .ok base)
      (hexponent : Hex.parse (String.ofList back) = .error invalid) :
      BadPair text (.ofInvalidHex invalid)

section Pairs

variable {text : String} {front back : List Char}

theorem parsePair_of_split (hsplit : text.toList = front ++ ':' :: back) (hfirst : ':' ∉ front) :
    parsePair text = do
      return (← parseNumeral (String.ofList front), ← parseNumeral (String.ofList back)) := by
  rw [parsePair, splitPair?_of_split hsplit hfirst]

theorem value_of_parse {buffer : Buffer} (h : Hex.parse (String.ofList front) = .ok buffer) :
    buffer.value = Hex.number (Hex.numeral front) := by
  have hvalue := (Hex.parse_eq_ok_iff.1 h).2.2
  rwa [String.toList_ofList] at hvalue

/-- A text that denotes a pair is read as two buffers that hold it. -/
theorem parsePair_of_denotes {pair : Nat × Nat} (h : DenotesPair text pair) :
    ∃ buffers, parsePair text = .ok buffers ∧ (buffers.1.value, buffers.2.value) = pair := by
  cases h with
  | @numerals front back base exponent hsplit hfirst hbase hexponent =>
      refine ⟨(base, exponent), ?_, ?_⟩
      · rw [parsePair_of_split hsplit hfirst, parseNumeral, parseNumeral, hbase, hexponent]
        rfl
      · rw [value_of_parse hbase, value_of_parse hexponent]

theorem parsePair_of_bad {report : Report} (h : BadPair text report) :
    parsePair text = .error (.report report) := by
  cases h with
  | noColon h =>
      rw [parsePair, splitPair?_of_notMem h]
      rfl
  | base hsplit hfirst hbase =>
      rw [parsePair_of_split hsplit hfirst, parseNumeral, hbase]
      rfl
  | exponent hsplit hfirst hbase hexponent =>
      rw [parsePair_of_split hsplit hfirst, parseNumeral, parseNumeral, hbase, hexponent]
      rfl

theorem denotesPair_or_bad (text : String) :
    (∃ pair, DenotesPair text pair) ∨ ∃ report, BadPair text report := by
  by_cases hcolon : ':' ∈ text.toList
  case neg => exact Or.inr ⟨_, .noColon hcolon⟩
  obtain ⟨front, back, hsplit, hfirst⟩ := List.eq_append_cons_of_mem hcolon
  cases hbase : Hex.parse (String.ofList front) with
  | error invalid => exact Or.inr ⟨_, .base hsplit hfirst hbase⟩
  | ok base =>
      cases hexponent : Hex.parse (String.ofList back) with
      | error invalid => exact Or.inr ⟨_, .exponent hsplit hfirst hbase hexponent⟩
      | ok exponent => exact Or.inl ⟨_, .numerals hsplit hfirst hbase hexponent⟩

end Pairs

/-! ## Texts of requests -/

/-- The texts of a request denote pairs of numbers, and a modulus in a buffer. -/
structure DenotesRequest (options : RequestOptions) (pairs : List (Nat × Nat))
    (modulus : Buffer) : Prop where
  pairs_denote : List.Forall₂ DenotesPair options.pairs pairs
  modulus_parses : Hex.parse options.modulus = .ok modulus

/-- Why the texts of a request are refused: the first text that is not a pair,
or, if all are, the modulus. -/
inductive BadRequest (options : RequestOptions) : Report → Prop where
  | pair {before after : List String} {text : String} {report : Report}
      (hpairs : options.pairs = before ++ text :: after)
      (hbefore : ∀ earlier ∈ before, ∃ pair, DenotesPair earlier pair)
      (hbad : BadPair text report) : BadRequest options report
  | modulus {pairs : List (Nat × Nat)} {invalid : Hex.Invalid}
      (hpairs : List.Forall₂ DenotesPair options.pairs pairs)
      (hmodulus : Hex.parse options.modulus = .error invalid) :
      BadRequest options (.ofInvalidHex invalid)

section Requests

variable {options : RequestOptions}

/-- Texts that denote pairs are read as buffers that hold them. -/
theorem mapM_parsePair_of_denotes {texts : List String} {pairs : List (Nat × Nat)}
    (h : List.Forall₂ DenotesPair texts pairs) :
    ∃ buffers, texts.mapM parsePair = .ok buffers ∧
      buffers.map (fun pair => (pair.1.value, pair.2.value)) = pairs := by
  induction h with
  | nil => exact ⟨[], rfl, rfl⟩
  | cons hpair _ ih =>
      obtain ⟨first, hfirst, hvalue⟩ := parsePair_of_denotes hpair
      obtain ⟨rest, hrest, hvalues⟩ := ih
      refine ⟨first :: rest, ?_, ?_⟩
      · rw [List.mapM_cons, hfirst, hrest]
        rfl
      · rw [List.map_cons, hvalue, hvalues]

/-- Either all texts denote pairs, or there is a first that does not. -/
theorem denotes_or_firstBad (texts : List String) :
    (∃ pairs, List.Forall₂ DenotesPair texts pairs) ∨
      ∃ before text after report, texts = before ++ text :: after ∧
        (∀ earlier ∈ before, ∃ pair, DenotesPair earlier pair) ∧ BadPair text report := by
  induction texts with
  | nil => exact Or.inl ⟨[], .nil⟩
  | cons first rest ih =>
      rcases denotesPair_or_bad first with ⟨pair, hpair⟩ | ⟨report, hbad⟩
      case inr => exact Or.inr ⟨[], first, rest, report, rfl, by simp, hbad⟩
      -- a first bad text of the rest is the first of all, since this one is a pair
      rcases ih with ⟨pairs, hpairs⟩ | ⟨before, text, after, report, hrest, hbefore, hbad⟩
      · exact Or.inl ⟨pair :: pairs, .cons hpair hpairs⟩
      · refine Or.inr ⟨first :: before, text, after, report, by rw [hrest]; rfl, ?_, hbad⟩
        rw [List.forall_mem_cons]
        exact ⟨⟨pair, hpair⟩, hbefore⟩

theorem ofOptions_of_bad {report : Report} (h : BadRequest options report) :
    EncodedRequest.ofOptions options = .error (.report report) := by
  cases h with
  | @pair before after text report hpairs hbefore hbad =>
      have hread : ∀ earlier ∈ before, ∃ buffers, parsePair earlier = .ok buffers := by
        intro earlier hmem
        obtain ⟨pair, hpair⟩ := hbefore earlier hmem
        obtain ⟨buffers, hbuffers, -⟩ := parsePair_of_denotes hpair
        exact ⟨buffers, hbuffers⟩
      rw [EncodedRequest.ofOptions, hpairs, mapM_of_first_error hread (parsePair_of_bad hbad)]
      rfl
  | modulus hpairs hmodulus =>
      obtain ⟨buffers, hbuffers, -⟩ := mapM_parsePair_of_denotes hpairs
      rw [EncodedRequest.ofOptions, hbuffers, parseNumeral, hmodulus]
      rfl

/-- Texts without a reason to be refused denote a request. -/
theorem badRequest_or_denotes (options : RequestOptions) :
    (∃ report, BadRequest options report) ∨
      ∃ pairs modulus, DenotesRequest options pairs modulus := by
  rcases denotes_or_firstBad options.pairs with
    ⟨pairs, hpairs⟩ | ⟨before, text, after, report, hpairs, hbefore, hbad⟩
  · cases hmodulus : Hex.parse options.modulus with
    | error invalid => exact Or.inl ⟨_, .modulus hpairs hmodulus⟩
    | ok modulus => exact Or.inr ⟨pairs, modulus, hpairs, hmodulus⟩
  · exact Or.inl ⟨report, .pair hpairs hbefore hbad⟩

/-- Read from texts, both sides of a request have one width and hold the numbers
that the texts denote. -/
theorem ofOptions_of_denotes {pairs : List (Nat × Nat)} {modulus : Buffer}
    (h : DenotesRequest options pairs modulus) (hne : options.pairs ≠ []) :
    ∃ bases exponents, EncodedRequest.ofOptions options = .ok ⟨bases, exponents, modulus⟩ ∧
      Encoded.WellShaped bases exponents ∧ numberPairs bases exponents = pairs := by
  obtain ⟨buffers, hbuffers, hvalues⟩ := mapM_parsePair_of_denotes h.pairs_denote
  -- as many buffers as texts are read
  have hne' : buffers ≠ [] := by
    rintro rfl
    have hlen := h.pairs_denote.length_eq
    rw [← hvalues] at hlen
    exact hne (List.length_eq_zero_iff.1 hlen)
  refine ⟨align (buffers.map (·.1)), align (buffers.map (·.2)), ?_, ⟨?_, ?_, ?_, ?_⟩, ?_⟩
  · rw [EncodedRequest.ofOptions, hbuffers, parseNumeral, h.modulus_parses]
    rfl
  · simpa [align] using hne'
  · simp [align]
  · exact uniform_align _
  · exact uniform_align _
  · rw [numberPairs, map_value_align, map_value_align, List.map_map, List.map_map, List.zip_map',
      ← hvalues]
    rfl

end Requests

end CommandLine

end PowerProduct
