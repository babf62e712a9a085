import DtoGen.Command.Generate
import DtoGen.Proofs.OptionBag

namespace DtoGen

theorem bind_eq_error {ε α β : Type} {x : Except ε α} {f : α → Except ε β} {e : ε} :
    (x >>= f) = .error e ↔ x = .error e ∨ ∃ a, x = .ok a ∧ f a = .error e := by
  cases x with
  | error other =>
    change Except.error other = Except.error e ↔ _
    constructor
    · intro h
      exact .inl (congrArg Except.error (Except.error.inj h))
    · rintro (h | ⟨_, h, _⟩)
      · exact congrArg Except.error (Except.error.inj h)
      · cases h
  | ok a =>
    change f a = Except.error e ↔ _
    constructor
    · exact fun h => .inr ⟨a, rfl, h⟩
    · rintro (h | ⟨_, h, hf⟩)
      · cases h
      · exact Except.ok.inj h ▸ hf

namespace RawOptions

/-- The naming style is set to a text that is the name of none. -/
def NoSuchStyle (raw : RawOptions) (text : String) : Prop :=
  raw.get? "fileNamingStyle" = some text ∧ text ∉ ["kebab", "camel", "pascal", "snake"]

/-- The bags hold the same under the keys of settings. -/
def SameSettings (raw other : RawOptions) : Prop :=
  ∀ key ∈ Setting.all.map Setting.key, raw.get? key = other.get? key

theorem SameSettings.value? {raw other : RawOptions} (h : raw.SameSettings other)
    (setting : Setting) : raw.value? setting = other.value? setting :=
  h setting.key (List.mem_map_of_mem (Setting.mem_all setting))

/-- A key that is read nowhere does not change what is read. -/
theorem sameSettings_insert (raw : RawOptions) {key : String}
    (h : key ∉ Setting.all.map Setting.key) (value : String) :
    (raw.insert key value).SameSettings raw := by
  intro other hother
  rw [get?_insert, if_neg]
  rintro rfl
  exact h hother

theorem isKnown_eq_false {key : String} : isKnown key = false ↔
    key ∉ Setting.all.map Setting.key ∧ key ∉ reserved := by
  simp only [isKnown, Bool.or_eq_false_iff, List.contains_eq_mem, decide_eq_false_iff_not]

theorem unknownKeys_insert {raw : RawOptions} {key : String} (hunset : raw.get? key = none)
    (hunknown : isKnown key = false) (value : String) :
    (raw.insert key value).unknownKeys = raw.unknownKeys ++ [key] := by
  rw [unknownKeys, keys_insert_of_unset hunset, List.filter_append, List.filter_singleton, hunknown]
  rfl

end RawOptions

theorem NamingStyle.ofName?_eq_none {text : String} :
    ofName? text = none ↔ text ∉ ["kebab", "camel", "pascal", "snake"] := by
  have hnames : all.map name = ["kebab", "camel", "pascal", "snake"] := rfl
  rw [← hnames, List.mem_map, ofName?, List.find?_eq_none]
  simp only [beq_iff_eq, not_exists, not_and]

namespace Options

open RawOptions

variable {raw : RawOptions} {env : Environment} {output : String} {error : ConfigError}

/-- A style that is set is known by its name, or refused. -/
theorem namingStyle_cases (raw : RawOptions) :
    (∃ style, namingStyle raw = .ok style ∧ ∀ text, ¬ raw.NoSuchStyle text) ∨
      ∃ text, namingStyle raw = .error (.badNamingStyle text) ∧ raw.NoSuchStyle text := by
  have hkey : raw.value? .fileNamingStyle = raw.get? "fileNamingStyle" := rfl
  unfold namingStyle NoSuchStyle
  rw [hkey]
  cases raw.get? "fileNamingStyle" with
  | none => exact .inl ⟨default, rfl, fun _ h => nomatch h.1⟩
  | some text =>
    dsimp only
    cases hstyle : NamingStyle.ofName? text with
    | some style =>
      refine .inl ⟨style, rfl, ?_⟩
      rintro other ⟨hset, hnone⟩
      obtain rfl := Option.some.inj hset
      rw [NamingStyle.ofName?_eq_none.mpr hnone] at hstyle
      cases hstyle
    | none => exact .inr ⟨text, rfl, rfl, NamingStyle.ofName?_eq_none.mp hstyle⟩

theorem NoSuchStyle.unique {text other : String} (h : raw.NoSuchStyle text)
    (h' : raw.NoSuchStyle other) : text = other :=
  Option.some.inj (h.1.symm.trans h'.1)

/-- The naming style comes first, and then only the output location can fail. -/
theorem normalize_eq_error : normalize env raw output = .error error ↔
    (∃ text, raw.NoSuchStyle text ∧ error = .badNamingStyle text) ∨
      ((∀ text, ¬ raw.NoSuchStyle text) ∧ OutputLocation.resolve env output = .error error) := by
  unfold normalize
  rcases namingStyle_cases raw with ⟨style, hstyle, hgood⟩ | ⟨text, hstyle, hbad⟩
  · rw [hstyle]
    constructor
    · intro h
      rcases bind_eq_error.mp h with h | ⟨_, _, h⟩
      · cases h
      rcases bind_eq_error.mp h with h | ⟨_, _, h⟩
      · exact .inr ⟨hgood, h⟩
      · cases h
    · rintro (⟨text, hbad, _⟩ | ⟨_, h⟩)
      · exact absurd hbad (hgood text)
      · exact bind_eq_error.mpr (.inr ⟨style, rfl, bind_eq_error.mpr (.inl h)⟩)
  · rw [hstyle]
    constructor
    · intro h
      rcases bind_eq_error.mp h with h | ⟨_, h, _⟩
      · exact .inl ⟨text, hbad, (Except.error.inj h).symm⟩
      · cases h
    · rintro (⟨other, hother, rfl⟩ | ⟨hgood, _⟩)
      · exact bind_eq_error.mpr (.inl (by rw [NoSuchStyle.unique hbad hother]))
      · exact absurd hbad (hgood text)

end Options

namespace GenerationSummary

/-- The summary with one more warning. -/
def warned (summary : GenerationSummary) (key : String) : GenerationSummary :=
  { summary with warnings := summary.warnings ++ [unknownOptionWarning key] }

end GenerationSummary

namespace GenerationInput

/-- The input with one more option. -/
def insert (input : GenerationInput) (key value : String) : GenerationInput :=
  { input with raw := input.raw.insert key value }

variable {input : GenerationInput} {key : String}

theorem request_insert (h : key ∉ Setting.all.map Setting.key) (env : Environment)
    (value : String) : (input.insert key value).request env = input.request env := by
  have hsame := input.raw.sameSettings_insert h value
  unfold request normalized Request.normalize insert
  dsimp only
  rw [Options.normalize_of_settings hsame.value?]

theorem warnings_insert (hunset : input.raw.get? key = none)
    (hunknown : RawOptions.isKnown key = false) (value : String) :
    (input.insert key value).warnings = input.warnings ++ [unknownOptionWarning key] := by
  unfold warnings insert
  rw [RawOptions.unknownKeys_insert hunset hunknown, List.map_append]
  rfl

theorem log_insert (input : GenerationInput) (hunset : input.raw.get? key = none)
    (hunknown : RawOptions.isKnown key = false) (env : Environment) (value : String) :
    (input.insert key value).log env = input.log env ++ [.ignoredOption key] := by
  unfold log normalized Request.normalize insert
  dsimp only
  rw [RawOptions.unknownKeys_insert hunset hunknown, List.map_append]
  rfl

end GenerationInput

namespace Pipeline

variable {m : Type → Type} [Monad m] [LawfulMonad m]

/-- A key that nobody knows makes for a warning behind all others. -/
theorem generate_insert (pipeline : Pipeline m) (env : Environment) (schedule : List Nat)
    (input : GenerationInput) {key : String} (value : String) (hunset : input.raw.get? key = none)
    (hsetting : key ∉ Setting.all.map Setting.key) (hreserved : key ∉ RawOptions.reserved) :
    pipeline.generate env schedule (input.insert key value)
      = (fun answer => answer.map (·.warned key)) <$> pipeline.generate env schedule input := by
  have hunknown := RawOptions.isKnown_eq_false.mpr ⟨hsetting, hreserved⟩
  unfold generate
  rw [GenerationInput.request_insert hsetting, GenerationInput.warnings_insert hunset hunknown]
  cases input.request env with
  | error error => rw [map_pure]; rfl
  | ok request =>
    dsimp only
    rw [map_bind]
    refine bind_congr fun answer => ?_
    cases answer with
    | error error => rw [map_pure]; rfl
    | ok result => rw [map_pure]; rfl

end Pipeline

/-- What there is to know about the options that come from a bag. -/
structure RawOptions.Normalizes (raw : RawOptions) (env : Environment) (output : String) : Prop where
  fails_iff : ∀ error, Options.normalize env raw output = .error error ↔
    (∃ text, raw.NoSuchStyle text ∧ error = .badNamingStyle text) ∨
      ((∀ text, ¬ raw.NoSuchStyle text) ∧ OutputLocation.resolve env output = .error error)
  /-- Neither the order of the keys counts, nor what other keys there are. -/
  readsSettings : ∀ other : RawOptions, raw.SameSettings other →
    Options.normalize env raw output = Options.normalize env other output
  /-- A key that nobody knows makes for a warning in the summary, and for a line in the log. The parts
  of the pipeline do what they did. -/
  warnsOnly : ∀ key value, raw.get? key = none → key ∉ Setting.all.map Setting.key →
    key ∉ RawOptions.reserved → ∀ {m : Type → Type} [Monad m] [LawfulMonad m]
    (pipeline : Pipeline m) (schedule : List Nat) (schema : Schema) (isDryRun : Bool),
    pipeline.generate env schedule ⟨raw.insert key value, output, schema, isDryRun⟩
      = (fun answer => answer.map (·.warned key)) <$>
        pipeline.generate env schedule ⟨raw, output, schema, isDryRun⟩
  logs : ∀ key value, raw.get? key = none → key ∉ Setting.all.map Setting.key →
    key ∉ RawOptions.reserved → ∀ (schema : Schema) (isDryRun : Bool),
    GenerationInput.log env ⟨raw.insert key value, output, schema, isDryRun⟩
      = GenerationInput.log env ⟨raw, output, schema, isDryRun⟩ ++ [.ignoredOption key]

/-- Options fail only for a wrong naming style or output location, and depend on settings alone. -/
theorem RawOptions.normalizes (raw : RawOptions) (env : Environment) (output : String) :
    raw.Normalizes env output where
  fails_iff _ := Options.normalize_eq_error
  readsSettings _ h := Options.normalize_of_settings h.value? env output
  warnsOnly _ value hunset hsetting hreserved _ _ _ pipeline schedule schema isDryRun :=
    pipeline.generate_insert env schedule ⟨raw, output, schema, isDryRun⟩ value hunset hsetting
      hreserved
  logs _ value hunset hsetting hreserved schema isDryRun :=
    have hunknown := RawOptions.isKnown_eq_false.mpr ⟨hsetting, hreserved⟩
    GenerationInput.log_insert ⟨raw, output, schema, isDryRun⟩ hunset hunknown env value

end DtoGen
