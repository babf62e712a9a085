import DtoGen.Proofs.Destinations
import DtoGen.Proofs.CanonicalForms
import DtoGen.Proofs.StableClasses

namespace DtoGen

theorem words_eq_nil {s : String} : words s = [] ↔ Words.split s.toList = [] := by
  rw [words, List.map_eq_nil_iff]

/-- A blank keeps the words on both sides apart. -/
theorem words_append_space (a b : String) : words (a ++ " " ++ b) = words a ++ words b := by
  have hjoined : (a ++ " " ++ b).toList = a.toList ++ ' ' :: b.toList := by
    rw [String.append_assoc, String.toList_append, String.toList_append]
    rfl
  rw [words, hjoined, Words.split_append (by decide) (by decide), List.map_append]
  rfl

namespace NamingStyle

open Words

/-- A text behind a word, where the two are spelled one by one. -/
def behind : NamingStyle → String → String → String
  | kebab, word, text => if words text = [] then word else word ++ "-" ++ kebabCase text
  | snake, word, text => if words text = [] then word else word ++ "_" ++ snakeCase text
  | camel, word, text => word ++ pascalCase text
  | pascal, word, text => pascalCase word ++ pascalCase text

theorem pascal_of_split {word : List Char} (h : split word = [word]) :
    Words.pascal word = capitalize word := by
  rw [Words.pascal, h, List.flatMap_singleton]

theorem toList_behind_mark (mark : Char) (word text : String) :
    (if words text = [] then word
      else word ++ String.singleton mark ++ String.ofList (joined mark text.toList)).toList
      = word.toList
        ++ if split text.toList = [] then [] else mark :: joined mark text.toList := by
  by_cases h : split text.toList = []
  · rw [if_pos (words_eq_nil.mpr h), if_pos h, List.append_nil]
  · rw [if_neg (mt words_eq_nil.mp h), if_neg h, String.toList_append, String.toList_append,
      String.toList_singleton, String.toList_ofList, List.append_assoc, List.singleton_append]

/-- Spelling a text behind a word of small letters spells the two one by one. -/
theorem apply_behind (style : NamingStyle) {word : String}
    (hword : split word.toList = [word.toList])
    (hsmall : Text.lowerAll [] word.toList = word.toList) (text : String) :
    style.apply (word ++ " " ++ text) = style.behind word text := by
  have hjoined : (word ++ " " ++ text).toList = word.toList ++ ' ' :: text.toList := by
    rw [String.append_assoc, String.toList_append, String.toList_append]
    rfl
  rw [← String.toList_inj, toList_apply, hjoined, spell_behind style hword]
  cases style with
  | kebab =>
    change Text.lowerAll [] word.toList ++ _ = _
    rw [hsmall]
    exact (toList_behind_mark '-' word text).symm
  | snake =>
    change Text.lowerAll [] word.toList ++ _ = _
    rw [hsmall]
    exact (toList_behind_mark '_' word text).symm
  | camel =>
    change Text.lowerAll [] word.toList ++ _ = _
    rw [hsmall, behind, pascalCase, String.toList_append, String.toList_ofList]
    rfl
  | pascal =>
    rw [behind, pascalCase, pascalCase, String.toList_append, String.toList_ofList,
      String.toList_ofList, pascal_of_split hword]
    rfl

end NamingStyle

namespace DtoKind

theorem lowerAll_verb (kind : DtoKind) :
    Text.lowerAll [] kind.verb.toList = kind.verb.toList := by
  cases kind <;> decide

theorem words_verb (kind : DtoKind) : words kind.verb = [kind.verb] := by
  rw [words, kind.split_verb, List.map_singleton, String.ofList_toList]

end DtoKind

namespace Options

/-- The verb is a word of its own in front of the words of the model, whatever the model is called,
and the module is named for the two one by one. -/
theorem dtoModule_behind_verb (options : Options) (kind : DtoKind) (model : String) :
    words (kind.verb ++ " " ++ model) = kind.verb :: words model ∧
      options.dtoModule kind model
        = options.fileNamingStyle.behind kind.verb model ++ ".dto" := by
  constructor
  · rw [words_append_space, kind.words_verb, List.singleton_append]
  · rw [dtoModule, NamingStyle.apply_behind _ kind.split_verb kind.lowerAll_verb]

example : { (default : Options) with fileNamingStyle := .kebab }.dtoModule .create "HTTPServer"
    = "create-http-server.dto" := by decide

end Options

namespace Words

open Text

theorem upper_eq_iff {c d : Char} (hc : isAscii c = true) (hd : isAscii d = true) :
    c.toUpper = d.toUpper ↔ c.toLower = d.toLower := by
  constructor <;> intro h
  · rw [← (changesCase hc).lowerUpper, ← (changesCase hd).lowerUpper, h]
  · rw [← (changesCase hc).upperLower, ← (changesCase hd).upperLower, h]

/-- Pascal and camel case tell the first letter in different cases, and go on alike. -/
theorem pascal_beside_camel {cs : List Char} (h : ∀ c ∈ cs, isAscii c = true)
    (hwords : split cs ≠ []) : ∃ c rest, isAscii c = true ∧ pascal cs = c.toUpper :: rest ∧
      camel cs = c.toLower :: rest := by
  obtain ⟨word, words, hsplit⟩ := List.exists_cons_of_ne_nil hwords
  have hword : word ∈ split cs := hsplit ▸ List.mem_cons_self
  obtain ⟨c, letters, rfl⟩ := List.exists_cons_of_ne_nil (ne_nil_of_mem_split hword)
  have hascii := ascii_of_mem_split h hword
  refine ⟨c, letters.map Char.toLower ++ words.flatMap capitalize, hascii c List.mem_cons_self,
    ?_, ?_⟩
  · rw [pascal, hsplit, List.flatMap_cons, capitalize_of_ascii hascii]
    rfl
  · rw [camel, hsplit]
    dsimp only
    rw [lowerAll_of_ascii hascii]
    rfl

theorem pascal_eq_iff {cs ds : List Char} (hc : ∀ c ∈ cs, isAscii c = true)
    (hd : ∀ d ∈ ds, isAscii d = true) (hcs : split cs ≠ []) (hds : split ds ≠ []) :
    pascal cs = pascal ds ↔ camel cs = camel ds := by
  obtain ⟨c, rest, hascii, hpascal, hcamel⟩ := pascal_beside_camel hc hcs
  obtain ⟨d, other, hascii', hpascal', hcamel'⟩ := pascal_beside_camel hd hds
  rw [hpascal, hpascal', hcamel, hcamel', List.cons.injEq, List.cons.injEq,
    upper_eq_iff hascii hascii']

end Words

namespace NamingStyle

open Text Words

variable {style : NamingStyle} {cs ds : List Char}

theorem remainder_split_eq_nil : style.remainder (split cs) = [] ↔ style.spell cs = [] := by
  rw [spell_eq_nil, remainder_eq_nil fun _ hw => ne_nil_of_mem_split hw]

/-- Behind a first word, words are told apart exactly as they are without it. -/
theorem remainder_split_eq_iff (hc : ∀ c ∈ cs, isAscii c = true) (hd : ∀ d ∈ ds, isAscii d = true) :
    style.remainder (split cs) = style.remainder (split ds) ↔ style.spell cs = style.spell ds := by
  by_cases hcs : split cs = []
  · have hspelled : style.spell cs = [] := spell_wordless hcs
    rw [hspelled, remainder_split_eq_nil.mpr hspelled, eq_comm, remainder_split_eq_nil, eq_comm]
  by_cases hds : split ds = []
  · have hspelled : style.spell ds = [] := spell_wordless hds
    rw [hspelled, remainder_split_eq_nil.mpr hspelled, remainder_split_eq_nil]
  cases style with
  | kebab =>
    simp only [remainder, if_neg hcs, if_neg hds, List.cons.injEq, true_and]
    rfl
  | snake =>
    simp only [remainder, if_neg hcs, if_neg hds, List.cons.injEq, true_and]
    rfl
  | pascal => rfl
  | camel => exact pascal_eq_iff hc hd hcs hds

end NamingStyle

/-- A name of ASCII letters without a slash, as identifiers are. -/
def IsPlainName (name : String) : Prop :=
  ∀ c ∈ name.toList, Text.isAscii c = true ∧ c ≠ '/'

instance (name : String) : Decidable (IsPlainName name) :=
  List.decidableBAll _ name.toList

namespace IsPlainName

variable {name : String}

theorem ascii (h : IsPlainName name) : ∀ c ∈ name.toList, Text.isAscii c = true :=
  fun c hc => (h c hc).1

theorem noSlash (h : IsPlainName name) : '/' ∉ name.toList :=
  fun hslash => (h '/' hslash).2 rfl

end IsPlainName

namespace Options

variable {options : Options} {model other : String}

/-- The verb in front changes nothing about which models are told apart. -/
theorem dtoModule_eq_iff (hm : IsPlainName model) (ho : IsPlainName other) (kind : DtoKind) :
    options.dtoModule kind model = options.dtoModule kind other ↔
      options.modelDirectory model = options.modelDirectory other := by
  rw [← String.toList_inj, toList_dtoModule, toList_dtoModule, List.append_left_inj,
    NamingStyle.spell_behind _ kind.split_verb, NamingStyle.spell_behind _ kind.split_verb,
    List.append_right_inj, NamingStyle.remainder_split_eq_iff hm.ascii ho.ascii, modelDirectory,
    modelDirectory, ← String.toList_inj, NamingStyle.toList_apply, NamingStyle.toList_apply]

end Options

namespace ModelScope

open Options

variable {options : Options} {model other : Model}

/-- Models that are spelled alike have all their files at the same paths. -/
theorem fileOf_path_congr (hm : IsPlainName model.name) (ho : IsPlainName other.name)
    (h : options.modelDirectory model.name = options.modelDirectory other.name) (base : Path)
    (kind : FileKind) :
    (fileOf ⟨options, model⟩ base kind).path = (fileOf ⟨options, other⟩ base kind).path := by
  cases kind with
  | input kind =>
    have hmodule := (dtoModule_eq_iff hm ho kind).mpr h
    simp only [fileOf, dtoFile_path, dtoPath, dtoDirectory, subdirectory, h, hmodule]
  | entity =>
    simp only [fileOf, entityFile, entityPath, entityDirectory, subdirectory, entityModule, h]

/-- Files at one place are of one kind, and their models are spelled alike. -/
theorem of_fileOf_components (hm : IsPlainName model.name) (ho : IsPlainName other.name)
    {base : Path} {kind kind' : FileKind}
    (h : (fileOf ⟨options, model⟩ base kind).path.components
      = (fileOf ⟨options, other⟩ base kind').path.components) :
    kind = kind' ∧ options.modelDirectory model.name = options.modelDirectory other.name := by
  cases kind with
  | input kind =>
    cases kind' with
    | input kind' =>
      simp only [fileOf, dtoFile_path] at h
      obtain ⟨rfl, hmodule, _⟩ := of_dtoPath_components hm.noSlash ho.noSlash h
      exact ⟨rfl, (dtoModule_eq_iff hm ho kind).mp hmodule⟩
    | entity => exact absurd h (dto_entity_apart kind)
  | entity =>
    cases kind' with
    | input kind' => exact absurd h.symm (dto_entity_apart kind')
    | entity => exact ⟨rfl, of_entityPath_components hm.noSlash ho.noSlash h⟩

/-- When files of two models meet: as places, and no less as texts. -/
structure MeetExactly (options : Options) (model other : Model) : Prop where
  places : ∀ kind kind', (fileOf ⟨options, model⟩ options.output kind).path.components
      = (fileOf ⟨options, other⟩ options.output kind').path.components ↔
    kind = kind' ∧
      options.fileNamingStyle.apply model.name = options.fileNamingStyle.apply other.name
  paths : ∀ kind kind', (fileOf ⟨options, model⟩ options.output kind).path
      = (fileOf ⟨options, other⟩ options.output kind').path ↔
    kind = kind' ∧
      options.fileNamingStyle.apply model.name = options.fileNamingStyle.apply other.name
  /-- Files of two kinds never meet. -/
  kinds : ∀ kind kind', kind ≠ kind' →
    (fileOf ⟨options, model⟩ options.output kind).path.components
      ≠ (fileOf ⟨options, other⟩ options.output kind').path.components
  /-- Where files of one kind meet, those of every kind do. -/
  together : ∀ kind kind', (fileOf ⟨options, model⟩ options.output kind).path.components
      = (fileOf ⟨options, other⟩ options.output kind).path.components →
    (fileOf ⟨options, model⟩ options.output kind').path
      = (fileOf ⟨options, other⟩ options.output kind').path

theorem meetExactly (hm : IsPlainName model.name) (ho : IsPlainName other.name) :
    MeetExactly options model other := by
  have hcongr : ∀ kind, options.modelDirectory model.name = options.modelDirectory other.name →
      (fileOf ⟨options, model⟩ options.output kind).path
        = (fileOf ⟨options, other⟩ options.output kind).path :=
    fun kind h => fileOf_path_congr hm ho h options.output kind
  refine ⟨fun kind kind' => ⟨of_fileOf_components hm ho, ?_⟩, fun kind kind' => ⟨fun h => ?_, ?_⟩,
    fun kind kind' hne h => hne (of_fileOf_components hm ho h).1, fun kind kind' h => ?_⟩
  · rintro ⟨rfl, h⟩
    exact congrArg Path.components (hcongr kind h)
  · exact of_fileOf_components hm ho (congrArg Path.components h)
  · rintro ⟨rfl, h⟩
    exact hcongr kind h
  · exact hcongr kind' (of_fileOf_components hm ho h).2

end ModelScope

namespace Schema

variable {options : Options} {schema : Schema} {files : List DtoFile}

/-- The files of a run are those of the models and kinds, and two of them meet exactly if they are
of one kind and the style spells their models alike. -/
theorem files_meet_iff (hfiles : schema.dtoFiles options = .ok files)
    (hnames : ∀ model ∈ schema.models, IsPlainName model.name) :
    (∀ file, file ∈ files ↔ ∃ model ∈ schema.models, ∃ kind, options.makes kind = true ∧
      file = ModelScope.fileOf ⟨options, model⟩ options.output kind) ∧
    ∀ model ∈ schema.models, ∀ other ∈ schema.models,
      ModelScope.MeetExactly options model other := by
  obtain ⟨_, rfl⟩ := dtoFiles_eq_ok.mp hfiles
  refine ⟨fun file => ?_, fun model hm other ho =>
    ModelScope.meetExactly (hnames model hm) (hnames other ho)⟩
  rw [List.mem_flatMap]
  exact exists_congr fun model => and_congr_right fun _ => ModelScope.mem_files_iff_fileOf

/-- Three spellings of a name, two of which have the same words. -/
def profiles : Schema :=
  ⟨[⟨"UserProfile", none, [], none⟩, ⟨"user_profile", none, [], none⟩,
    ⟨"Userprofile", none, [], none⟩], []⟩

theorem profiles_meet : ∃ files, profiles.dtoFiles default = .ok files ∧
    (∀ model ∈ profiles.models, IsPlainName model.name) ∧
    (∀ file, file ∈ files ↔ ∃ model ∈ profiles.models, ∃ kind,
      (default : Options).makes kind = true ∧ file = ModelScope.fileOf ⟨default, model⟩ ⟨""⟩ kind) ∧
    ModelScope.MeetExactly default ⟨"UserProfile", none, [], none⟩
      ⟨"user_profile", none, [], none⟩ ∧
    ModelScope.MeetExactly default ⟨"UserProfile", none, [], none⟩
      ⟨"Userprofile", none, [], none⟩ := by
  have hnames : ∀ model ∈ profiles.models, IsPlainName model.name := by
    decide +kernel
  obtain ⟨hfiles, hmeet⟩ := files_meet_iff (show profiles.dtoFiles default = _ from rfl) hnames
  exact ⟨_, rfl, hnames, hfiles, hmeet _ (by decide) _ (by decide),
    hmeet _ (by decide) _ (by decide)⟩

end Schema

end DtoGen
