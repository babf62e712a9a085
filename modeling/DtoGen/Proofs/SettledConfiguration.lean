import DtoGen.CommandLine.Run
import DtoGen.Proofs.TomlTables
import Mathlib.Logic.Function.Basic

namespace DtoGen

theorem bind_eq_ok {ε α β : Type} {x : Except ε α} {f : α → Except ε β} {b : β} :
    (x >>= f) = .ok b ↔ ∃ a, x = .ok a ∧ f a = .ok b := by
  cases x with
  | error e => exact ⟨nofun, nofun⟩
  | ok a => exact ⟨fun h => ⟨a, rfl, h⟩, fun ⟨_, h, hf⟩ => Except.ok.inj h ▸ hf⟩

namespace CommandLine

open ConfigFile

/-- What is loaded if the file is there and every override is one. -/
theorem load_eq {texts : Texts} {arguments : ConfigArguments} {content : String}
    {table : List (String × Toml)} {raw : RawOptions}
    (hcontent : texts arguments.config = some content) (htable : table? content = some table)
    (hraw : (optionsOf table).applyOverrides arguments.overrides = .ok raw) :
    arguments.load texts = .ok (ofTable content arguments.config.text table, raw) := by
  have hread : texts.read arguments.config = .ok content := by
    unfold Texts.read
    rw [hcontent]
  have hconfig : texts.config arguments.config
      = .ok (ofTable content arguments.config.text table) :=
    bind_eq_ok.mpr ⟨content, hread, parse_eq htable _⟩
  exact bind_eq_ok.mpr ⟨_, hconfig, bind_eq_ok.mpr ⟨raw, hraw, rfl⟩⟩

/-- Everything that the arguments ask for, found. -/
structure Settled (env : Environment) (texts : Texts) (arguments : ConfigArguments) where
  file : ConfigFile
  raw : RawOptions
  output : String
  options : Options
  schemaPath : Path
  schema : Schema
  loaded : arguments.load texts = .ok (file, raw)
  located : file.outputOr arguments.output = .ok output
  normalized : Options.normalize env raw output = .ok options
  schemaLocated : file.schemaOr arguments.schema = .ok schemaPath
  schemaRead : texts.schema schemaPath = .ok schema

namespace Settled

variable {env : Environment} {texts : Texts} {arguments : ConfigArguments}

def report (settled : Settled env texts arguments) : CheckReport where
  configPath := settled.file.path
  unknownKeys := settled.raw.unknownKeys
  models := settled.schema.models.length
  enums := settled.schema.enums.length
  options := settled.options

def input (settled : Settled env texts arguments) (isDryRun : Bool) : GenerationInput :=
  ⟨settled.raw, settled.output, settled.schema, isDryRun⟩

def request (settled : Settled env texts arguments) : Request :=
  ⟨settled.options, settled.schema⟩

/-- There is one way at most in which a configuration is settled. -/
instance : Subsingleton (Settled env texts arguments) where
  allEq
    | ⟨file, raw, output, options, path, schema, hload, houtput, hoptions, hpath, hschema⟩,
      ⟨file', raw', output', options', path', schema', hload', houtput', hoptions', hpath',
        hschema'⟩ => by
      obtain ⟨rfl, rfl⟩ := Prod.mk.inj (Except.ok.inj (hload.symm.trans hload'))
      obtain rfl := Except.ok.inj (houtput.symm.trans houtput')
      obtain rfl := Except.ok.inj (hoptions.symm.trans hoptions')
      obtain rfl := Except.ok.inj (hpath.symm.trans hpath')
      obtain rfl := Except.ok.inj (hschema.symm.trans hschema')
      rfl

/-- The options come before the schema. -/
theorem check_eq_ok {report : CheckReport} :
    arguments.check env texts = .ok report ↔
      ∃ settled : Settled env texts arguments, report = settled.report := by
  unfold ConfigArguments.check ConfigFile.check
  constructor
  · intro h
    obtain ⟨⟨file, raw⟩, hload, h⟩ := bind_eq_ok.mp h
    obtain ⟨output, houtput, h⟩ := bind_eq_ok.mp h
    obtain ⟨options, hoptions, h⟩ := bind_eq_ok.mp h
    obtain ⟨path, hpath, h⟩ := bind_eq_ok.mp h
    obtain ⟨schema, hschema, h⟩ := bind_eq_ok.mp h
    exact ⟨⟨file, raw, output, options, path, schema, hload, houtput, hoptions, hpath, hschema⟩,
      (Except.ok.inj h).symm⟩
  · rintro ⟨settled, rfl⟩
    refine bind_eq_ok.mpr ⟨_, settled.loaded, ?_⟩
    refine bind_eq_ok.mpr ⟨_, settled.located, ?_⟩
    refine bind_eq_ok.mpr ⟨_, settled.normalized, ?_⟩
    refine bind_eq_ok.mpr ⟨_, settled.schemaLocated, ?_⟩
    exact bind_eq_ok.mpr ⟨_, settled.schemaRead, rfl⟩

theorem request_eq_ok {input : GenerationInput} {request : Request} :
    input.request env = .ok request ↔ ∃ options,
      Options.normalize env input.raw input.output = .ok options ∧
        request = ⟨options, input.schema⟩ := by
  unfold GenerationInput.request GenerationInput.normalized Request.normalize
  dsimp only
  cases Options.normalize env input.raw input.output with
  | error e => simp
  | ok options => simp [eq_comm]

/-- The schema comes before the options. -/
theorem generation_eq_ok {isDryRun : Bool} {input : GenerationInput} {request : Request} :
    (arguments.generationInput texts isDryRun = .ok input ∧ input.request env = .ok request) ↔
      ∃ settled : Settled env texts arguments,
        input = settled.input isDryRun ∧ request = settled.request := by
  rw [request_eq_ok]
  unfold ConfigArguments.generationInput
  constructor
  · rintro ⟨h, options, hoptions, rfl⟩
    obtain ⟨⟨file, raw⟩, hload, h⟩ := bind_eq_ok.mp h
    obtain ⟨path, hpath, h⟩ := bind_eq_ok.mp h
    obtain ⟨schema, hschema, h⟩ := bind_eq_ok.mp h
    obtain ⟨output, houtput, h⟩ := bind_eq_ok.mp h
    obtain rfl := Except.ok.inj h
    exact ⟨⟨file, raw, output, options, path, schema, hload, houtput, hoptions, hpath, hschema⟩,
      rfl, rfl⟩
  · rintro ⟨settled, rfl, rfl⟩
    refine ⟨?_, settled.options, settled.normalized, rfl⟩
    refine bind_eq_ok.mpr ⟨_, settled.loaded, ?_⟩
    refine bind_eq_ok.mpr ⟨_, settled.schemaLocated, ?_⟩
    refine bind_eq_ok.mpr ⟨_, settled.schemaRead, ?_⟩
    exact bind_eq_ok.mpr ⟨_, settled.located, rfl⟩

end Settled

end CommandLine

namespace ConfigFile

variable {content : String} {table : List (String × Toml)}

theorem get?_optionsOf (h : (table.map Prod.fst).Nodup) (key : String) :
    (optionsOf table).get? key
      = ((table.lookup key).filter fun value => !value.isCompound).map Toml.scalarText := by
  have hsub : ((table.filter fun entry => !entry.2.isCompound).map Prod.fst).Nodup :=
    h.sublist (List.filter_sublist.map _)
  have hpairs : (((table.filter fun entry => !entry.2.isCompound).map fun entry =>
      (entry.1, entry.2.scalarText)).map Prod.fst).Nodup := by
    rwa [List.map_map]
  unfold optionsOf
  rw [RawOptions.get?_ofPairs, ← lookup_of_perm hpairs (List.reverse_perm _).symm]
  refine Option.ext fun text => ?_
  rw [lookup_eq_some_iff_mem hpairs, List.mem_map]
  simp only [Option.map_eq_some_iff, Option.filter_eq_some_iff, lookup_eq_some_iff_mem h,
    List.mem_filter]
  constructor
  · rintro ⟨⟨other, value⟩, hmem, heq⟩
    obtain ⟨rfl, rfl⟩ := Prod.mk.inj heq
    exact ⟨value, hmem, rfl⟩
  · rintro ⟨value, hmem, rfl⟩
    exact ⟨(key, value), hmem, rfl⟩

/-- The schema's path, if the file gave it as this text. -/
def schemaAt? (file : ConfigFile) (text : String) : Option Path :=
  if text = "" then none else some (file.path.parentOrEmpty / ⟨text⟩)

theorem outputOr_none_inj {file other : ConfigFile} :
    file.outputOr none = other.outputOr none ↔ file.output = other.output := by
  unfold outputOr
  cases file.output <;> cases other.output <;> simp

theorem schemaOr_none_inj {file other : ConfigFile} :
    file.schemaOr none = other.schemaOr none ↔ file.schemaPath? = other.schemaPath? := by
  unfold schemaOr
  cases file.schemaPath? <;> cases other.schemaPath? <;> simp

end ConfigFile

namespace CommandLine

open RawOptions ConfigFile

/-- In the edited table every overridden key holds the text of its last override. -/
def Edits (overrides : List String) (table edited : List (String × Toml)) : Prop :=
  ∀ key, edited.lookup key
    = ((lastOverride? overrides key).map Toml.text).or (table.lookup key)

section

variable {overrides : List String} {table edited : List (String × Toml)} {raw : RawOptions}

theorem Edits.get? (h : Edits overrides table edited) (htable : (table.map Prod.fst).Nodup)
    (hedited : (edited.map Prod.fst).Nodup)
    (hwell : ∀ pair ∈ overrides, (override? pair).isSome = true)
    (hraw : (optionsOf table).applyOverrides overrides = .ok raw) (key : String) :
    raw.get? key = (optionsOf edited).get? key := by
  rw [get?_of_applyOverrides hwell hraw, get?_optionsOf htable, get?_optionsOf hedited, h key]
  cases lastOverride? overrides key with
  | none => rfl
  | some text => rfl

theorem Edits.text (h : Edits overrides table edited) (key : String) :
    (edited.lookup key).map Toml.scalarText
      = (lastOverride? overrides key).or ((table.lookup key).map Toml.scalarText) := by
  rw [h key]
  cases lastOverride? overrides key with
  | none => rfl
  | some text => rfl

theorem Edits.output (h : Edits overrides table edited) (content content' name : String) :
    (ofTable content' name edited).output
      = (lastOverride? overrides "output").or (ofTable content name table).output :=
  h.text "output"

theorem Edits.schemaPath? (h : Edits overrides table edited) (content content' name : String) :
    (ofTable content' name edited).schemaPath? =
      match lastOverride? overrides "schema" with
      | none => (ofTable content name table).schemaPath?
      | some text => (ofTable content name table).schemaAt? text := by
  have htext := h.text "schema"
  unfold ConfigFile.schemaPath?
  change ((((edited.lookup "schema").map Toml.scalarText).filter (· != "")).map Path.mk).map _ = _
  rw [htext]
  cases lastOverride? overrides "schema" with
  | none => rfl
  | some text =>
    simp only [Option.some_or, Option.filter_some, schemaAt?]
    by_cases hempty : text = ""
    · simp [hempty]
    · simp [hempty, ofTable]

end

/-- Options after overrides, beside a file that was edited instead. The bag is the same; the output
location and the path of the schema are the same only where the file said so before. -/
structure BesideEdit (overrides : List String) (file : ConfigFile) (raw : RawOptions)
    (edited : ConfigFile) : Prop where
  bag : ∀ env output,
    Options.normalize env raw output = Options.normalize env edited.options output
  output : file.outputOr none = edited.outputOr none ↔
    ∀ text, lastOverride? overrides "output" = some text → file.output = some text
  schema : file.schemaOr none = edited.schemaOr none ↔
    ∀ text, lastOverride? overrides "schema" = some text → file.schemaPath? = file.schemaAt? text
  silent : ∀ key ∈ reserved, key ∉ raw.unknownKeys

theorem Edits.besideEdit {overrides : List String} {content content' : String}
    {table edited : List (String × Toml)} {raw : RawOptions}
    (h : Edits overrides table edited) (htable : table? content = some table)
    (hedited : table? content' = some edited)
    (hwell : ∀ pair ∈ overrides, (override? pair).isSome = true) (name : String)
    (hraw : (optionsOf table).applyOverrides overrides = .ok raw) :
    BesideEdit overrides (ofTable content name table) raw (ofTable content' name edited) where
  bag env output :=
    Options.normalize_congr (h.get? (nodup_table htable) (nodup_table hedited) hwell hraw) env
      output
  output := by
    rw [outputOr_none_inj, h.output content content' name]
    cases lastOverride? overrides "output" <;> simp
  schema := by
    rw [schemaOr_none_inj, h.schemaPath? content content' name]
    cases lastOverride? overrides "schema" <;> simp
  silent key hkey := reserved_not_mem_unknownKeys raw hkey

/-- Both commands take the options of the edited file, and the output location and the schema of the
file as it is. The two agree with the edited file exactly if no override gives them another text. -/
theorem overrides_beside_edit {texts : Texts} {arguments : ConfigArguments}
    {content content' : String} {table edited : List (String × Toml)}
    (hcontent : texts arguments.config = some content) (htable : table? content = some table)
    (hedited : table? content' = some edited) (hedits : Edits arguments.overrides table edited)
    (hwell : ∀ pair ∈ arguments.overrides, (override? pair).isSome = true)
    (houtput : arguments.output = none) (hschema : arguments.schema = none) :
    ∃ file raw other,
      arguments.load texts = .ok (file, raw) ∧
      ConfigArguments.load (Function.update texts arguments.config (some content'))
        { arguments with overrides := [] } = .ok (other, other.options) ∧
      BesideEdit arguments.overrides file raw other ∧
      (∀ env report, arguments.check env texts = .ok report →
        ∃ output, file.outputOr none = .ok output ∧
          Options.normalize env other.options output = .ok report.options) ∧
      (∀ env isDryRun input request, arguments.generationInput texts isDryRun = .ok input →
        input.request env = .ok request →
        file.outputOr none = .ok input.output ∧
        Options.normalize env other.options input.output = .ok request.options ∧
        ∃ path, file.schemaOr none = .ok path ∧ texts.schema path = .ok request.schema) := by
  have hraw := applyOverrides_eq hwell (optionsOf table)
  have hload := load_eq hcontent htable hraw
  have hother : ConfigArguments.load (Function.update texts arguments.config (some content'))
      { arguments with overrides := [] } = .ok (ofTable content' arguments.config.text edited, _) :=
    load_eq (Function.update_self ..) hedited rfl
  have hbeside := hedits.besideEdit htable hedited hwell arguments.config.text hraw
  have hsettled : ∀ env (settled : Settled env texts arguments),
      (ofTable content arguments.config.text table).outputOr none = .ok settled.output ∧
      Options.normalize env (ofTable content' arguments.config.text edited).options settled.output
        = .ok settled.options ∧
      (ofTable content arguments.config.text table).schemaOr none = .ok settled.schemaPath := by
    intro env settled
    obtain ⟨hfile, hbag⟩ := Prod.mk.inj (Except.ok.inj (settled.loaded.symm.trans hload))
    have hlocated := settled.located
    have hnormalized := settled.normalized
    have hschemaLocated := settled.schemaLocated
    rw [hfile, houtput] at hlocated
    rw [hbag, hbeside.bag] at hnormalized
    rw [hfile, hschema] at hschemaLocated
    exact ⟨hlocated, hnormalized, hschemaLocated⟩
  refine ⟨_, _, _, hload, hother, hbeside, fun env report hreport => ?_,
    fun env isDryRun input request hinput hrequest => ?_⟩
  · obtain ⟨settled, rfl⟩ := Settled.check_eq_ok.mp hreport
    obtain ⟨hlocated, hnormalized, _⟩ := hsettled env settled
    exact ⟨settled.output, hlocated, hnormalized⟩
  · obtain ⟨settled, rfl, rfl⟩ := Settled.generation_eq_ok.mp ⟨hinput, hrequest⟩
    obtain ⟨hlocated, hnormalized, hschemaLocated⟩ := hsettled env settled
    exact ⟨hlocated, hnormalized, settled.schemaPath, hschemaLocated, settled.schemaRead⟩

/-- A file that says where the output goes. -/
def namedOutput (output : String) : String :=
  "[generator]\noutput = \"" ++ output ++ "\"\nschema = \"schema.json\"\n"

def configTexts : Texts := fun path =>
  if path = ConfigFile.defaultPath then some (namedOutput "a") else none

/-- The command line gives the file another output location, by the name of its key. -/
def redirected : ConfigArguments :=
  ⟨ConfigFile.defaultPath, ["output=b"], none, none⟩

theorem table?_namedOutput_a :
    table? (namedOutput "a") = some (ofTexts [("output", "a"), ("schema", "schema.json")]) :=
  table?_of_texts (by decide +kernel) (by decide)

theorem table?_namedOutput_b :
    table? (namedOutput "b") = some (ofTexts [("output", "b"), ("schema", "schema.json")]) :=
  table?_of_texts (by decide +kernel) (by decide)

theorem redirected_edits : Edits redirected.overrides
    (ofTexts [("output", "a"), ("schema", "schema.json")])
    (ofTexts [("output", "b"), ("schema", "schema.json")]) := by
  intro key
  have hlast : lastOverride? redirected.overrides key = [("output", "b")].lookup key := rfl
  rw [hlast, lookup_ofTexts, lookup_ofTexts]
  simp only [lookup_cons_ite, List.lookup_nil]
  by_cases hkey : key = "output"
  · simp [hkey]
  · simp [hkey]

theorem redirected_beside_edit : ∃ file raw other,
    redirected.load configTexts = .ok (file, raw) ∧
    ConfigArguments.load (Function.update configTexts redirected.config (some (namedOutput "b")))
      { redirected with overrides := [] } = .ok (other, other.options) ∧
    BesideEdit redirected.overrides file raw other := by
  have hcontent : configTexts redirected.config = some (namedOutput "a") := rfl
  obtain ⟨file, raw, other, hload, hother, hbeside, _⟩ := overrides_beside_edit hcontent
    table?_namedOutput_a table?_namedOutput_b redirected_edits (by decide) rfl rfl
  exact ⟨file, raw, other, hload, hother, hbeside⟩

/-- The text is in the bag, the location is still that of the file, and no warning is given. -/
theorem redirected_passed_over : ∃ file raw other,
    redirected.load configTexts = .ok (file, raw) ∧
    ConfigArguments.load (Function.update configTexts redirected.config (some (namedOutput "b")))
      { redirected with overrides := [] } = .ok (other, other.options) ∧
    raw.get? "output" = some "b" ∧ raw.unknownKeys = [] ∧
    file.outputOr redirected.output = .ok "a" ∧ other.outputOr redirected.output = .ok "b" := by
  have hcontent : configTexts redirected.config = some (namedOutput "a") := rfl
  have hload := load_eq hcontent table?_namedOutput_a rfl
  have hother : ConfigArguments.load
      (Function.update configTexts redirected.config (some (namedOutput "b")))
      { redirected with overrides := [] } = .ok (_, _) :=
    load_eq (Function.update_self ..) table?_namedOutput_b rfl
  exact ⟨_, _, _, hload, hother, by decide, by decide, rfl, rfl⟩

end CommandLine

end DtoGen
