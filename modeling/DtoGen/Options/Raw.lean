import DtoGen.Config.Error
import DtoGen.Upsert

namespace DtoGen

/-- The options that a generation reads. -/
inductive Setting
  | connectDtoPrefix
  | createDtoPrefix
  | updateDtoPrefix
  | dtoSuffix
  | entityPrefix
  | entitySuffix
  | fileNamingStyle
  | prettierConfig
  | exportRelationModifierClasses
  | outputToNestJsResourceStructure
  | entitiesOnly
  | usePrettier
  | reExport
deriving DecidableEq, Repr

namespace Setting

def all : List Setting :=
  [connectDtoPrefix, createDtoPrefix, updateDtoPrefix, dtoSuffix, entityPrefix, entitySuffix,
    fileNamingStyle, prettierConfig, exportRelationModifierClasses,
    outputToNestJsResourceStructure, entitiesOnly, usePrettier, reExport]

def key : Setting → String
  | connectDtoPrefix => "connectDtoPrefix"
  | createDtoPrefix => "createDtoPrefix"
  | updateDtoPrefix => "updateDtoPrefix"
  | dtoSuffix => "dtoSuffix"
  | entityPrefix => "entityPrefix"
  | entitySuffix => "entitySuffix"
  | fileNamingStyle => "fileNamingStyle"
  | prettierConfig => "prettierConfig"
  | exportRelationModifierClasses => "exportRelationModifierClasses"
  | outputToNestJsResourceStructure => "outputToNestJsResourceStructure"
  | entitiesOnly => "entitiesOnly"
  | usePrettier => "usePrettier"
  | reExport => "reExport"

theorem mem_all (setting : Setting) : setting ∈ all := by
  cases setting <;> decide

end Setting

structure RawOptions where
  entries : List (String × String)
deriving DecidableEq, Repr, Inhabited

namespace RawOptions

/-- Keys of the configuration table that are no options. -/
def reserved : List String :=
  ["output", "schema"]

def empty : RawOptions :=
  ⟨[]⟩

def insert (raw : RawOptions) (key value : String) : RawOptions :=
  ⟨upsert (·.1 == key) (fun entry => (entry.1, value)) (key, value) raw.entries⟩

def ofPairs (pairs : List (String × String)) : RawOptions :=
  pairs.foldl (fun raw pair => raw.insert pair.1 pair.2) empty

def get? (raw : RawOptions) (key : String) : Option String :=
  (raw.entries.find? (·.1 == key)).map (·.2)

def value? (raw : RawOptions) (setting : Setting) : Option String :=
  raw.get? setting.key

def keys (raw : RawOptions) : List String :=
  raw.entries.map (·.1)

def size (raw : RawOptions) : Nat :=
  raw.entries.length

def isKnown (key : String) : Bool :=
  (Setting.all.map Setting.key).contains key || reserved.contains key

def unknownKeys (raw : RawOptions) : List String :=
  raw.keys.filter fun key => !isKnown key

/-- The trimmed sides of the first equals sign. The left side must not be blank. -/
def splitPair? (pair : List Char) : Option (List Char × List Char) :=
  let key := Text.trim (pair.takeWhile (· != '='))
  match pair.dropWhile (· != '=') with
  | [] => none
  | _ :: value => if key = [] then none else some (key, Text.trim value)

def applyOverride (raw : RawOptions) (pair : String) : Except ConfigError RawOptions :=
  match splitPair? pair.toList with
  | some (key, value) => .ok (raw.insert (String.ofList key) (String.ofList value))
  | none => .error (.badOverride pair)

/-- Stops at the first pair that is no override. -/
def applyOverrides (raw : RawOptions) : List String → Except ConfigError RawOptions
  | [] => .ok raw
  | pair :: pairs => do (← raw.applyOverride pair).applyOverrides pairs

end RawOptions

end DtoGen
