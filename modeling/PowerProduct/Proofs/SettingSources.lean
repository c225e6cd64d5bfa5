import Mathlib
import PowerProduct.Proofs.CommandInputs
import PowerProduct.Proofs.DecimalWords
import PowerProduct.Proofs.Trimming

/-!
# Where settings come from

The environment sets the window width by a decimal numeral and the strategy by
its name, each between blanks. `LookupAnswer` lists what the two variables lead
to: a report of the width that cannot be read, then of the strategy, then of a
width out of range, or the settings (`ofLookup_iff_answer`).

A command takes each setting from its option, else from the environment, else
from the defaults. `EngineAnswer` lists what its options lead to: a report about
the environment, which comes first whatever the options are, a report of a width
option out of range, or the settings (`effectiveConfig_iff_answer`).
`settings_from_sources` states both.
-/

set_option autoImplicit false

namespace PowerProduct

/-- A result is the one that a relation allows, if the relation allows one and
only the result. -/
theorem eq_iff_of_unique {α : Type} {result : α} {answer : α → Prop} (hexists : ∃ due, answer due)
    (heq : ∀ due, answer due → result = due) (a : α) : result = a ↔ answer a := by
  obtain ⟨due, hdue⟩ := hexists
  constructor
  · rintro rfl
    rw [heq due hdue]
    exact hdue
  · exact heq a

/-! ## The settings of the environment -/

namespace Config

/-- The width that the value of its variable stands for. -/
inductive WidthSetting : Option String → Nat → Prop where
  | unset : WidthSetting none Window.defaultWidth
  | decimal {text : String} {core : List Char} {width : Nat}
      (htrim : Text.Trimmed text.toList core) (h : Text.Decimal core width)
      (hword : width < 2 ^ 64) : WidthSetting (some text) width

/-- The strategy that the value of its variable stands for. -/
inductive StrategySetting : Option String → Strategy → Prop where
  | unset : StrategySetting none Strategy.default
  | name {text : String} {strategy : Strategy}
      (htrim : Text.Trimmed text.toList strategy.name.toList) :
      StrategySetting (some text) strategy

/-- What the values of the two variables lead to. A value that cannot be read is
reported as it was given. -/
inductive LookupAnswer (widthValue strategyValue : Option String) : Outcome Config → Prop where
  | badWidth {text : String} (hset : widthValue = some text)
      (hbad : ∀ width, ¬ WidthSetting widthValue width) :
      LookupAnswer widthValue strategyValue (refuse (.badSetting widthVariable text))
  | badStrategy {width : Nat} {text : String} (hwidth : WidthSetting widthValue width)
      (hset : strategyValue = some text)
      (hbad : ∀ strategy, ¬ StrategySetting strategyValue strategy) :
      LookupAnswer widthValue strategyValue (refuse (.badSetting strategyVariable text))
  | outOfRange {width : Nat} {strategy : Strategy} (hwidth : WidthSetting widthValue width)
      (hstrategy : StrategySetting strategyValue strategy)
      (hrange : ¬ (1 ≤ width ∧ width ≤ Window.maxWidth)) :
      LookupAnswer widthValue strategyValue (refuse (.windowOutOfRange width Window.maxWidth))
  | settings {width : Nat} {strategy : Strategy} (hwidth : WidthSetting widthValue width)
      (hstrategy : StrategySetting strategyValue strategy)
      (hrange : 1 ≤ width ∧ width ≤ Window.maxWidth) :
      LookupAnswer widthValue strategyValue (.ok { windowWidth := width, strategy })

section Lookups

variable {lookup : String → Option String} {text : String}

/-- A variable that may be unset stands for something, or it is set to a text
that stands for nothing. -/
theorem setting_or_bad {α : Type} {stands : Option String → α → Prop} {default : α}
    (hunset : stands none default) (value : Option String) :
    (∃ a, stands value a) ∨ ∃ text, value = some text ∧ ∀ a, ¬ stands value a := by
  cases value with
  | none => exact Or.inl ⟨default, hunset⟩
  | some text =>
      by_cases hstands : ∃ a, stands (some text) a
      · exact Or.inl hstands
      · exact Or.inr ⟨text, rfl, not_exists.1 hstands⟩

theorem readWidth_of_setting {value : Option String} {width : Nat} (h : WidthSetting value width) :
    readWidth Window.defaultWidth value = .ok width := by
  cases h with
  | unset => rfl
  | decimal htrim hdecimal hword =>
      rw [readWidth, Text.trim_of_trimmed htrim, Text.parseWord?_eq_some_iff.2 ⟨hdecimal, hword⟩]

theorem readStrategy_of_setting {value : Option String} {strategy : Strategy}
    (h : StrategySetting value strategy) :
    readStrategy Strategy.default value = .ok strategy := by
  cases h with
  | unset => rfl
  | name htrim =>
      rw [readStrategy, Text.trim_of_trimmed htrim, String.ofList_toList, Strategy.ofName?_name]

theorem readWidth_of_bad (h : ∀ width, ¬ WidthSetting (some text) width) :
    readWidth Window.defaultWidth (some text) = refuse (.badSetting widthVariable text) := by
  rw [readWidth]
  cases hread : Text.parseWord? (Text.trim text.toList) with
  | none => rfl
  | some width =>
      -- what is read is a numeral between the blanks
      obtain ⟨hdecimal, hword⟩ := Text.parseWord?_eq_some_iff.1 hread
      exact absurd (.decimal (Text.trimmed_trim _) hdecimal hword) (h width)

theorem readStrategy_of_bad (h : ∀ strategy, ¬ StrategySetting (some text) strategy) :
    readStrategy Strategy.default (some text) = refuse (.badSetting strategyVariable text) := by
  rw [readStrategy]
  cases hread : Strategy.ofName? (String.ofList (Text.trim text.toList)) with
  | none => rfl
  | some strategy =>
      -- what is read is a name between the blanks
      rw [Strategy.ofName?_eq_some_iff, ← String.toList_inj, String.toList_ofList] at hread
      exact absurd (.name (Text.trim_eq_iff.1 hread)) (h strategy)

theorem ofLookup_eq_bind (lookup : String → Option String) :
    ofLookup lookup = do
      let width ← readWidth Window.defaultWidth (lookup widthVariable)
      let strategy ← readStrategy Strategy.default (lookup strategyVariable)
      Window.requireWidth width
      return { windowWidth := width, strategy } := rfl

/-- What the variables lead to is what the look-up yields. -/
theorem LookupAnswer.eq {outcome : Outcome Config}
    (h : LookupAnswer (lookup widthVariable) (lookup strategyVariable) outcome) :
    ofLookup lookup = outcome := by
  rw [ofLookup_eq_bind]
  cases h with
  | badWidth hset hbad =>
      rw [hset] at hbad ⊢
      rw [readWidth_of_bad hbad, refuse_bind]
  | badStrategy hwidth hset hbad =>
      rw [hset] at hbad ⊢
      rw [readWidth_of_setting hwidth, ok_bind, readStrategy_of_bad hbad, refuse_bind]
  | outOfRange hwidth hstrategy hrange =>
      rw [readWidth_of_setting hwidth, ok_bind, readStrategy_of_setting hstrategy, ok_bind,
        Window.requireWidth_eq, if_neg hrange, refuse_bind]
  | settings hwidth hstrategy hrange =>
      rw [readWidth_of_setting hwidth, ok_bind, readStrategy_of_setting hstrategy, ok_bind,
        Window.requireWidth_eq, if_pos hrange]
      rfl

theorem exists_lookupAnswer (widthValue strategyValue : Option String) :
    ∃ outcome, LookupAnswer widthValue strategyValue outcome := by
  rcases setting_or_bad WidthSetting.unset widthValue with ⟨width, hwidth⟩ | ⟨text, hset, hbad⟩
  case inr => exact ⟨_, .badWidth hset hbad⟩
  rcases setting_or_bad StrategySetting.unset strategyValue with
    ⟨strategy, hstrategy⟩ | ⟨text, hset, hbad⟩
  case inr => exact ⟨_, .badStrategy hwidth hset hbad⟩
  by_cases hrange : 1 ≤ width ∧ width ≤ Window.maxWidth
  · exact ⟨_, .settings hwidth hstrategy hrange⟩
  · exact ⟨_, .outOfRange hwidth hstrategy hrange⟩

theorem ofLookup_iff_answer {outcome : Outcome Config} : ofLookup lookup = outcome ↔
    LookupAnswer (lookup widthVariable) (lookup strategyVariable) outcome :=
  eq_iff_of_unique (exists_lookupAnswer _ _) (fun _ => LookupAnswer.eq) outcome

/-- The environment is accepted exactly if the width is one in range and the
strategy has a name. -/
theorem exists_ofLookup_eq_ok_iff : (∃ config, ofLookup lookup = .ok config) ↔
    (∃ width, WidthSetting (lookup widthVariable) width ∧ 1 ≤ width ∧ width ≤ Window.maxWidth) ∧
      ∃ strategy, StrategySetting (lookup strategyVariable) strategy := by
  constructor
  · rintro ⟨config, hconfig⟩
    cases ofLookup_iff_answer.1 hconfig with
    | settings hwidth hstrategy hrange => exact ⟨⟨_, hwidth, hrange⟩, _, hstrategy⟩
  · rintro ⟨⟨width, hwidth, hrange⟩, strategy, hstrategy⟩
    exact ⟨_, ofLookup_iff_answer.2 (.settings hwidth hstrategy hrange)⟩

end Lookups

end Config

/-! ## The settings of a command -/

namespace CommandLine

open Config

/-- What the options of a command and its environment lead to. The environment
has to be accepted also where an option replaces what it sets. -/
inductive EngineAnswer (options : EngineOptions) (environment : Environment) :
    Except Stop Config → Prop where
  | environment {e : Error} (h : Config.ofLookup environment.text? = refuse e) :
      EngineAnswer options environment
        (.error (.report ⟨"reading SPOWM_* environment", some e.message⟩))
  | outOfRange {base : Config} {width : Nat} (h : Config.ofLookup environment.text? = .ok base)
      (hoption : options.windowWidth = some width)
      (hrange : ¬ (1 ≤ width ∧ width ≤ Window.maxWidth)) :
      EngineAnswer options environment
        (.error (.report ⟨(Error.windowOutOfRange width Window.maxWidth).message, none⟩))
  | settings {base : Config} (h : Config.ofLookup environment.text? = .ok base)
      (hoption : ∀ width, options.windowWidth = some width →
        1 ≤ width ∧ width ≤ Window.maxWidth) :
      EngineAnswer options environment
        (.ok { windowWidth := options.windowWidth.getD base.windowWidth,
               strategy := options.strategy.getD base.strategy })

section Options

variable {options : EngineOptions} {environment : Environment}

/-- The environment sets no more than a supported width and a strategy. -/
theorem supported_of_ofLookup {lookup : String → Option String} {base : Config}
    (h : Config.ofLookup lookup = .ok base) :
    (1 ≤ base.windowWidth ∧ base.windowWidth ≤ Window.maxWidth) ∧
      base = { windowWidth := base.windowWidth, strategy := base.strategy } := by
  cases Config.ofLookup_iff_answer.1 h with
  | settings _ _ hrange => exact ⟨hrange, rfl⟩

theorem check_of_supported {config : Config}
    (h : 1 ≤ config.windowWidth ∧ config.windowWidth ≤ Window.maxWidth) :
    config.check = .ok () :=
  Window.requireWidth_eq_ok.2 h

/-- What options and environment lead to are the settings of the command. -/
theorem EngineAnswer.eq {result : Except Stop Config} (h : EngineAnswer options environment result) :
    effectiveConfig options environment = result := by
  cases h with
  | environment h => exact effectiveConfig_of_refuse h
  | @outOfRange base width h hoption hrange =>
      have happlied : (options.appliedTo base).windowWidth = width := by
        rw [EngineOptions.appliedTo, hoption]
        rfl
      rw [effectiveConfig_of_ok h, Config.check, happlied, Window.requireWidth_eq, if_neg hrange]
      rfl
  | @settings base h hoption =>
      obtain ⟨hbase, hdefaults⟩ := supported_of_ofLookup h
      have hrange : 1 ≤ (options.appliedTo base).windowWidth ∧
          (options.appliedTo base).windowWidth ≤ Window.maxWidth := by
        rw [EngineOptions.appliedTo]
        cases hwidth : options.windowWidth with
        | none => exact hbase
        | some width => exact hoption width hwidth
      rw [effectiveConfig_of_ok h, check_of_supported hrange, EngineOptions.appliedTo, hdefaults]
      rfl

theorem exists_engineAnswer (options : EngineOptions) (environment : Environment) :
    ∃ result, EngineAnswer options environment result := by
  rcases (faultless_ofLookup environment.text?).ok_or_refuse with ⟨base, hbase⟩ | ⟨e, he⟩
  case inr => exact ⟨_, .environment he⟩
  by_cases hoption : ∀ width, options.windowWidth = some width →
      1 ≤ width ∧ width ≤ Window.maxWidth
  · exact ⟨_, .settings hbase hoption⟩
  · push Not at hoption
    obtain ⟨width, hwidth, hrange⟩ := hoption
    exact ⟨_, .outOfRange hbase hwidth (by omega)⟩

theorem effectiveConfig_iff_answer {result : Except Stop Config} :
    effectiveConfig options environment = result ↔ EngineAnswer options environment result :=
  eq_iff_of_unique (exists_engineAnswer _ _) (fun _ => EngineAnswer.eq) result

/-- The settings are refused exactly if the environment is, or if the width
option is out of range. -/
theorem effectiveConfig_eq_error_iff :
    (∃ stop, effectiveConfig options environment = .error stop) ↔
      (∃ e, Config.ofLookup environment.text? = refuse e) ∨
        ∃ width, options.windowWidth = some width ∧ ¬ (1 ≤ width ∧ width ≤ Window.maxWidth) := by
  obtain ⟨due, hdue⟩ := exists_engineAnswer options environment
  rw [hdue.eq]
  cases hdue with
  | environment h => exact iff_of_true ⟨_, rfl⟩ (Or.inl ⟨_, h⟩)
  | outOfRange _ hoption hrange => exact iff_of_true ⟨_, rfl⟩ (Or.inr ⟨_, hoption, hrange⟩)
  | settings h hoption =>
      apply iff_of_false
      · rintro ⟨stop, hstop⟩
        cases hstop
      · rintro (⟨e, he⟩ | ⟨width, hwidth, hrange⟩)
        · rw [h] at he
          cases he
        · exact hrange (hoption width hwidth)

end Options

/-- The environment leads to what its two variables say, and is accepted exactly
if the width is one in range and the strategy has a name. A command's settings
are what its options and its environment say; they are refused exactly if the
environment is or if the width option is out of range, and otherwise they pass
the check. -/
theorem settings_from_sources :
    (∀ lookup outcome, Config.ofLookup lookup = outcome ↔
      LookupAnswer (lookup widthVariable) (lookup strategyVariable) outcome) ∧
    (∀ lookup, (∃ config, Config.ofLookup lookup = .ok config) ↔
      (∃ width, WidthSetting (lookup widthVariable) width ∧
        1 ≤ width ∧ width ≤ Window.maxWidth) ∧
      ∃ strategy, StrategySetting (lookup strategyVariable) strategy) ∧
    (∀ options environment result, effectiveConfig options environment = result ↔
      EngineAnswer options environment result) ∧
    (∀ options environment, (∃ stop, effectiveConfig options environment = .error stop) ↔
      (∃ e, Config.ofLookup environment.text? = refuse e) ∨
        ∃ width, options.windowWidth = some width ∧ ¬ (1 ≤ width ∧ width ≤ Window.maxWidth)) ∧
    ∀ options environment config, effectiveConfig options environment = .ok config →
      config.check = .ok () := by
  refine ⟨fun _ _ => ofLookup_iff_answer, fun _ => exists_ofLookup_eq_ok_iff,
    fun _ _ _ => effectiveConfig_iff_answer, fun _ _ => effectiveConfig_eq_error_iff, ?_⟩
  intro options environment config hconfig
  exact check_of_supported (supported_of_effectiveConfig hconfig)

/-- A width with a sign and leading zeros between blanks, and a strategy from an
option. -/
theorem settings_from_sources_signed_width :
    effectiveConfig { strategy := some .naive }
        (Environment.ofList [(widthVariable, [0xc2, 0xa0, 0x2b, 0x30, 0x30, 0x39, 0x20])]) =
      .ok { windowWidth := 9, strategy := .naive } ∧
    Config.check { windowWidth := 9, strategy := .naive } = .ok () := by
  have hwidth : (Environment.ofList
      [(widthVariable, [0xc2, 0xa0, 0x2b, 0x30, 0x30, 0x39, 0x20])]).text? widthVariable =
        some "\u00a0+009 " := by decide +kernel
  have hstrategy : (Environment.ofList
      [(widthVariable, [0xc2, 0xa0, 0x2b, 0x30, 0x30, 0x39, 0x20])]).text? strategyVariable =
        none := by decide +kernel
  have htrim : Text.Trimmed "\u00a0+009 ".toList ['+', '0', '0', '9'] :=
    Text.trim_eq_iff.1 (by decide)
  have hdecimal : Text.Decimal ['+', '0', '0', '9'] 9 :=
    ⟨['0', '0', '9'], Or.inr rfl, by simp, by simp, by decide⟩
  have hbase : Config.ofLookup (Environment.ofList
      [(widthVariable, [0xc2, 0xa0, 0x2b, 0x30, 0x30, 0x39, 0x20])]).text? =
        .ok { windowWidth := 9, strategy := Strategy.default } := by
    rw [settings_from_sources.1, hwidth, hstrategy]
    exact .settings (.decimal htrim hdecimal (by decide)) .unset (by decide)
  have hconfig := (settings_from_sources.2.2.1 { strategy := some .naive } _ _).2
    (.settings hbase (by simp))
  exact ⟨hconfig, settings_from_sources.2.2.2.2 _ _ _ hconfig⟩

end CommandLine

end PowerProduct
