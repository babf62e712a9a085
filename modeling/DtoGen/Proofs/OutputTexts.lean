import DtoGen.Proofs.BarrelLinks
import DtoGen.Proofs.SettledConfiguration
import DtoGen.Proofs.Texts

namespace DtoGen

/-- A text that has nothing but blanks, if anything. -/
def IsBlankText (s : String) : Prop :=
  ∀ c ∈ s.toList, Text.isBlank c = true

instance (s : String) : Decidable (IsBlankText s) :=
  List.decidableBAll _ s.toList

namespace OutputLocation

open Text

/-- A text that stands for a variable: `env(`, its name and `)`. Blanks may be around each, and
quotes around the name. -/
def StandsFor (text name : String) : Prop :=
  ∃ inner quoted, IsCore ("env(".toList ++ inner ++ [')']) text.toList ∧ IsCore quoted inner ∧
    IsStripped (· == '"') name.toList quoted

/-- A text that is a path itself. -/
def IsLiteral (text : String) (path : Path) : Prop :=
  (∀ name, ¬StandsFor text name) ∧ IsCore path.text.toList text.toList ∧ path.text ≠ ""

theorem variableText?_append (rest : List Char) : variableText? ("env(".toList ++ rest)
    = if rest.getLast? = some ')' then some rest.dropLast else none := by
  have hstart : "env(".toList.isPrefixOf ("env(".toList ++ rest) = true :=
    List.isPrefixOf_iff_prefix.mpr (List.prefix_append _ _)
  rw [variableText?, hstart]
  rfl

theorem variableText?_eq_some_iff {cs inner : List Char} :
    variableText? cs = some inner ↔ cs = "env(".toList ++ inner ++ [')'] := by
  constructor
  · intro h
    cases hstart : "env(".toList.isPrefixOf cs with
    | false =>
      rw [variableText?, hstart] at h
      cases h
    | true =>
      obtain ⟨rest, rfl⟩ := List.isPrefixOf_iff_prefix.mp hstart
      rw [variableText?_append] at h
      split at h
      · rename_i hend
        obtain ⟨front, rfl⟩ := List.getLast?_eq_some_iff.mp hend
        rw [List.dropLast_concat] at h
        rw [← Option.some.inj h, List.append_assoc]
      · cases h
  · rintro rfl
    rw [List.append_assoc, variableText?_append, if_pos List.getLast?_concat,
      List.dropLast_concat]

/-- The name that a trimmed text stands for, if it stands for one. -/
theorem standsFor_iff {text name : String} : StandsFor text name ↔
    ∃ inner, variableText? (trim text.toList) = some inner ∧
      name.toList = trimQuotes (trim inner) := by
  constructor
  · rintro ⟨inner, quoted, htext, hinner, hname⟩
    refine ⟨inner, variableText?_eq_some_iff.mpr htext.trim_eq, ?_⟩
    rw [hinner.trim_eq]
    exact hname.strip_eq.symm
  · rintro ⟨inner, htext, hname⟩
    refine ⟨inner, trim inner, trim_eq_iff.mp (variableText?_eq_some_iff.mp htext),
      isCore_trim inner, ?_⟩
    rw [hname]
    exact isStripped_strip _ _

/-- A text is blank, or stands for a variable, or is a path itself. -/
theorem ofText?_cases (text : String) :
    (IsBlankText text ∧ ofText? text = none) ∨
      (∃ name, StandsFor text name ∧ ofText? text = some (.variable name)) ∨
        ∃ path, IsLiteral text path ∧ ofText? text = some (.literal path) := by
  unfold ofText?
  split
  · rename_i hblank
    exact .inl ⟨trim_eq_nil_iff.mp hblank, rfl⟩
  · rename_i hne
    refine .inr ?_
    split
    · rename_i inner hinner
      refine .inl ⟨_, standsFor_iff.mpr ⟨inner, hinner, String.toList_ofList⟩, rfl⟩
    · rename_i hnone
      refine .inr ⟨_, ⟨fun name h => ?_, ?_, fun h => ?_⟩, rfl⟩
      · obtain ⟨inner, hinner, _⟩ := standsFor_iff.mp h
        rw [hnone] at hinner
        cases hinner
      · rw [String.toList_ofList]
        exact isCore_trim _
      · have hnil : (String.ofList (trim text.toList)).toList = [] := congrArg String.toList h
        exact hne (String.toList_ofList.symm.trans hnil)

theorem not_blank_of_core {core cs : List Char} (h : IsCore core cs) (hne : core ≠ []) :
    ∃ c ∈ core, isBlank c = false := by
  obtain ⟨c, rest, rfl⟩ := List.exists_cons_of_ne_nil hne
  exact ⟨c, List.mem_cons_self, h.starts c rfl⟩

/-- A path that was not read from a variable is not blank. -/
theorem IsLiteral.not_blank {text : String} {path : Path} (h : IsLiteral text path) :
    ¬IsBlankText path.text := by
  intro hblank
  obtain ⟨c, hc, hletter⟩ := not_blank_of_core h.2.1 fun hnil => h.2.2 (String.toList_inj.mp hnil)
  rw [hblank c hc] at hletter
  cases hletter

theorem StandsFor.unique {text name other : String} (h : StandsFor text name)
    (h' : StandsFor text other) : name = other := by
  obtain ⟨inner, hinner, hname⟩ := standsFor_iff.mp h
  obtain ⟨inner', hinner', hother⟩ := standsFor_iff.mp h'
  rw [hinner] at hinner'
  rw [← String.toList_inj, hname, hother, Option.some.inj hinner']

/-- A location is what a variable holds, or what the text itself says. -/
theorem resolve_cases (env : Environment) (text : String) :
    (IsBlankText text ∧ resolve env text = .error .noOutput) ∨
      (∃ name, StandsFor text name ∧ env name = none ∧
        resolve env text = .error (.unsetVariable name)) ∨
      (∃ name value, StandsFor text name ∧ env name = some value ∧
        resolve env text = .ok ⟨value⟩) ∨
      ∃ path, IsLiteral text path ∧ resolve env text = .ok path := by
  unfold resolve
  rcases ofText?_cases text with ⟨hblank, hnone⟩ | ⟨name, hname, hvariable⟩ | ⟨path, hpath, hown⟩
  · rw [hnone]
    exact .inl ⟨hblank, rfl⟩
  · rw [hvariable]
    cases hvalue : env name with
    | none => exact .inr (.inl ⟨name, hname, hvalue, by simp [hvalue]⟩)
    | some value => exact .inr (.inr (.inl ⟨name, value, hname, hvalue, by simp [hvalue]⟩))
  · rw [hown]
    exact .inr (.inr (.inr ⟨path, hpath, rfl⟩))

/-- A location is blank exactly if a variable that the text stands for holds nothing but blanks. -/
theorem blank_iff {env : Environment} {text : String} {path : Path}
    (h : resolve env text = .ok path) : IsBlankText path.text ↔
      ∃ name value, StandsFor text name ∧ env name = some value ∧ IsBlankText value := by
  rcases resolve_cases env text with ⟨_, hrefused⟩ | ⟨_, _, _, hunset⟩ |
    ⟨name, value, hname, hvalue, hread⟩ | ⟨own, hown, hliteral⟩
  · rw [h] at hrefused
    cases hrefused
  · rw [h] at hunset
    cases hunset
  · rw [h] at hread
    obtain rfl := Except.ok.inj hread
    constructor
    · exact fun hblank => ⟨name, value, hname, hvalue, hblank⟩
    · rintro ⟨other, held, hother, hheld, hblank⟩
      rw [hother.unique hname, hvalue] at hheld
      exact Option.some.inj hheld ▸ hblank
  · rw [h] at hliteral
    obtain rfl := Except.ok.inj hliteral
    constructor
    · exact fun hblank => absurd hblank hown.not_blank
    · rintro ⟨name, _, hname, _⟩
      exact absurd hname (hown.1 name)

end OutputLocation

namespace Options

theorem resolve_of_normalize {env : Environment} {raw : RawOptions} {output : String}
    {options : Options} (h : normalize env raw output = .ok options) :
    OutputLocation.resolve env output = .ok options.output := by
  obtain ⟨style, _, h⟩ := bind_eq_ok.mp h
  obtain ⟨path, hpath, h⟩ := bind_eq_ok.mp h
  rw [hpath, ← Except.ok.inj h]

/-- Options that are accepted have a blank output location exactly if it is read from a variable
that holds nothing but blanks. -/
theorem output_blank_iff {env : Environment} {raw : RawOptions} {output : String}
    {options : Options} (h : normalize env raw output = .ok options) :
    IsBlankText options.output.text ↔ ∃ name value,
      OutputLocation.StandsFor output name ∧ env name = some value ∧ IsBlankText value :=
  OutputLocation.blank_iff (resolve_of_normalize h)

/-- A variable that is set to nothing, and one that is set to blanks. -/
def hollowEnvironment : Environment :=
  .ofEntries [("NOTHING", ""), ("BLANKS", " \t")]

def entitiesOnlyBag : RawOptions :=
  .ofPairs [("entitiesOnly", "true")]

/-- Blanks and quotes around the name do not count, and the blanks that the variable holds are the
location. -/
theorem hollow_location : ∃ options,
    normalize hollowEnvironment entitiesOnlyBag " env( \"BLANKS\" ) " = .ok options ∧
      IsBlankText options.output.text := by
  have hname : OutputLocation.StandsFor " env( \"BLANKS\" ) " "BLANKS" :=
    OutputLocation.standsFor_iff.mpr ⟨" \"BLANKS\" ".toList, by decide, by decide⟩
  obtain ⟨options, hnormal⟩ : ∃ options,
      normalize hollowEnvironment entitiesOnlyBag " env( \"BLANKS\" ) " = .ok options := ⟨_, rfl⟩
  exact ⟨options, hnormal,
    (output_blank_iff hnormal).mpr ⟨"BLANKS", " \t", hname, by decide, by decide⟩⟩

/-- The options are accepted, and the files of a model go to where the program runs. -/
theorem hollow_accepted : ∃ options plan,
    normalize hollowEnvironment entitiesOnlyBag "env(\"NOTHING\")" = .ok options ∧
      options.output.text = "" ∧
      Pipeline.plainPipeline.plan ⟨options, ⟨[⟨"User", none, [], none⟩], []⟩⟩ = pure (.ok plan) ∧
      plan.files.map FileSpec.path = [⟨"user.entity.ts"⟩] :=
  ⟨_, _, rfl, rfl, rfl, rfl⟩

end Options

end DtoGen
