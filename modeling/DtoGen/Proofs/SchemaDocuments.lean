import DtoGen.Schema.Reader
import DtoGen.Proofs.JsonPrinting

namespace DtoGen

namespace Json

/-- A reader and a writer agree on the phrases that describe the values of a type. -/
structure Codec {α : Type} (describes : α → Phrase → Prop) (valueOf : α → Value) (read : Reader)
    (of? : Value → Option α) (toJson : α → Json) : Prop where
  isRead : ∀ item phrase, describes item phrase → IsRead read phrase (valueOf item)
  returns : ∀ item, of? (valueOf item) = some item
  isPrinted : ∀ item, ∃ phrase, describes item phrase ∧ Prints (toJson item).print phrase

theorem text_codec : Codec IsText .text Reader.text Value.text? .string where
  isRead _ _ h := text_isRead h
  returns _ := rfl
  isPrinted s := ⟨_, rfl, quote_prints s⟩

theorem optionalText?_optionalValue (s : Option String) :
    (Served.optionalValue s).optionalText? = some s := by
  cases s <;> rfl

theorem list?_map {α : Type} {of? : Value → Option α} {valueOf : α → Value}
    (h : ∀ item, of? (valueOf item) = some item) (items : List α) :
    Value.list? of? (.list (items.map valueOf)) = some items := by
  have hreturns : of? ∘ valueOf = some := funext h
  rw [Value.list?, List.mapM_map, hreturns]
  induction items with
  | nil => rfl
  | cons item items ih =>
    rw [List.mapM_cons, ih]
    rfl

end Json

open Json

namespace EnumValue

def entries (value : EnumValue) : List Json.Entry :=
  [.text "name" value.name, .optionalText "dbName" value.dbName]

/-- The phrase describes the value. -/
def Described (value : EnumValue) : Phrase → Prop :=
  IsRecord value.entries

def toValue (value : EnumValue) : Json.Value :=
  .list [.text value.name, Served.optionalValue value.dbName]

theorem codec : Codec Described toValue reader ofValue? toJson where
  isRead value _ h := Served.record_isRead
    [.text "name" value.name, .optionalText "dbName" value.dbName]
    (by decide : ["name", "dbName"].Nodup) h
  returns value := by simp [ofValue?, toValue, optionalText?_optionalValue]
  isPrinted value := Emits.isRecord
    ((Emits.text "name" value.name).append (.optionalText "dbName" value.dbName))
    (by decide : ["name", "dbName"].Nodup)

end EnumValue

namespace Enumeration

def entries (enum : Enumeration) : List Json.Entry :=
  [.text "name" enum.name, .list "values" EnumValue.Described enum.values]

def Described (enum : Enumeration) : Phrase → Prop :=
  IsRecord enum.entries

def toValue (enum : Enumeration) : Json.Value :=
  .list [.text enum.name, .list (enum.values.map EnumValue.toValue)]

theorem codec : Codec Described toValue reader ofValue? toJson where
  isRead enum _ h := Served.record_isRead
    [.text "name" enum.name, .list "values" EnumValue.codec.isRead enum.values]
    (by decide : ["name", "values"].Nodup) h
  returns enum := by simp [ofValue?, toValue, list?_map EnumValue.codec.returns]
  isPrinted enum := Emits.isRecord
    ((Emits.text "name" enum.name).append (.list "values" EnumValue.codec.isPrinted enum.values))
    (by decide : ["name", "values"].Nodup)

end Enumeration

theorem FieldKind.name_mem (kind : FieldKind) : kind.name ∈ all.map name := by
  cases kind <;> decide

namespace Field

def entries (field : Field) : List Json.Entry :=
  [ .text "name" field.name,
    .text "kind" field.kind.name,
    .text "type" field.typeName,
    .flag "isList" field.isList,
    .flag "isRequired" field.isRequired,
    .flag "isUnique" field.isUnique,
    .flag "isId" field.isId,
    .flag "isReadOnly" field.isReadOnly,
    .flag "hasDefaultValue" field.hasDefaultValue,
    .flag "isUpdatedAt" field.isUpdatedAt,
    .optionalText "relationName" field.relationName,
    .list "relationFromFields" IsText field.relationFromFields,
    .optionalText "documentation" field.documentation ]

def Described (field : Field) : Phrase → Prop :=
  IsRecord field.entries

def toValue (field : Field) : Json.Value :=
  .list
    [ .text field.name, .text field.kind.name, .text field.typeName, .flag field.isList,
      .flag field.isRequired, .flag field.isUnique, .flag field.isId, .flag field.isReadOnly,
      .flag field.hasDefaultValue, .flag field.isUpdatedAt,
      Served.optionalValue field.relationName, .list (field.relationFromFields.map .text),
      Served.optionalValue field.documentation ]

def served (field : Field) : List Served :=
  [ .text "name" field.name,
    .choice "kind" field.kind.name_mem,
    .text "type" field.typeName,
    .flag "isList" field.isList,
    .flag "isRequired" field.isRequired,
    .flag "isUnique" field.isUnique,
    .flag "isId" field.isId,
    .flag "isReadOnly" field.isReadOnly,
    .flag "hasDefaultValue" field.hasDefaultValue,
    .flag "isUpdatedAt" field.isUpdatedAt,
    .optionalText "relationName" field.relationName,
    .list "relationFromFields" text_codec.isRead field.relationFromFields,
    .optionalText "documentation" field.documentation ]

theorem names_nodup (field : Field) : (field.entries.map Json.Entry.name).Nodup := by
  have hnames : ["name", "kind", "type", "isList", "isRequired", "isUnique", "isId", "isReadOnly",
    "hasDefaultValue", "isUpdatedAt", "relationName", "relationFromFields",
    "documentation"].Nodup := by decide
  exact hnames

/-- The members that are always written. -/
theorem emits_scalars (field : Field) : Emits (field.entries.take 10)
    [ ("name", .string field.name), ("kind", .string field.kind.name),
      ("type", .string field.typeName), ("isList", .bool field.isList),
      ("isRequired", .bool field.isRequired), ("isUnique", .bool field.isUnique),
      ("isId", .bool field.isId), ("isReadOnly", .bool field.isReadOnly),
      ("hasDefaultValue", .bool field.hasDefaultValue),
      ("isUpdatedAt", .bool field.isUpdatedAt) ] :=
  (Emits.text _ _).append <| (Emits.text _ _).append <| (Emits.text _ _).append <|
    (Emits.flag _ _).append <| (Emits.flag _ _).append <| (Emits.flag _ _).append <|
    (Emits.flag _ _).append <| (Emits.flag _ _).append <| (Emits.flag _ _).append <|
    Emits.flag _ _

theorem codec : Codec Described toValue reader ofValue? toJson where
  isRead field _ h := Served.record_isRead field.served field.names_nodup h
  returns field := by
    simp [ofValue?, toValue, FieldKind.ofName?_name, optionalText?_optionalValue,
      list?_map text_codec.returns]
  isPrinted field := Emits.isRecord
    (((field.emits_scalars.append (.optionalText "relationName" field.relationName)).append
      (.nonEmptyList "relationFromFields" text_codec.isPrinted field.relationFromFields)).append
      (.optionalText "documentation" field.documentation))
    field.names_nodup

end Field

namespace Model

def entries (model : Model) : List Json.Entry :=
  [ .text "name" model.name,
    .optionalText "dbName" model.dbName,
    .list "fields" Field.Described model.fields,
    .optionalText "documentation" model.documentation ]

def Described (model : Model) : Phrase → Prop :=
  IsRecord model.entries

def toValue (model : Model) : Json.Value :=
  .list
    [ .text model.name, Served.optionalValue model.dbName, .list (model.fields.map Field.toValue),
      Served.optionalValue model.documentation ]

theorem names_nodup (model : Model) : (model.entries.map Json.Entry.name).Nodup := by
  have hnames : ["name", "dbName", "fields", "documentation"].Nodup := by decide
  exact hnames

theorem codec : Codec Described toValue reader ofValue? toJson where
  isRead model _ h := Served.record_isRead
    [ .text "name" model.name, .optionalText "dbName" model.dbName,
      .list "fields" Field.codec.isRead model.fields,
      .optionalText "documentation" model.documentation ]
    model.names_nodup h
  returns model := by
    simp [ofValue?, toValue, optionalText?_optionalValue, list?_map Field.codec.returns]
  isPrinted model := Emits.isRecord
    ((((Emits.text "name" model.name).append (.optionalText "dbName" model.dbName)).append
      (.list "fields" Field.codec.isPrinted model.fields)).append
      (.optionalText "documentation" model.documentation))
    model.names_nodup

end Model

namespace Schema

def entries (schema : Schema) : List Json.Entry :=
  [.list "models" Model.Described schema.models, .list "enums" Enumeration.Described schema.enums]

def Described (schema : Schema) : Phrase → Prop :=
  IsRecord schema.entries

def toValue (schema : Schema) : Json.Value :=
  .list
    [ .list (schema.models.map Model.toValue), .list (schema.enums.map Enumeration.toValue) ]

theorem codec : Codec Described toValue reader ofValue? toJson where
  isRead schema _ h := Served.record_isRead
    [ .list "models" Model.codec.isRead schema.models,
      .list "enums" Enumeration.codec.isRead schema.enums ]
    (by decide : ["models", "enums"].Nodup) h
  returns schema := by
    simp [ofValue?, toValue, list?_map Model.codec.returns, list?_map Enumeration.codec.returns]
  isPrinted schema := Emits.isRecord
    ((Emits.list "models" Model.codec.isPrinted schema.models).append
      (.list "enums" Enumeration.codec.isPrinted schema.enums))
    (by decide : ["models", "enums"].Nodup)

/-- The text describes the schema. -/
def IsDocument (schema : Schema) (text : String) : Prop :=
  ∃ phrase, schema.Described phrase ∧ Written phrase text.toList

theorem own_document (schema : Schema) :
    schema.IsDocument (String.ofList schema.toJson.print) := by
  obtain ⟨phrase, hdescribed, hprints⟩ := codec.isPrinted schema
  refine ⟨phrase, hdescribed, ?_⟩
  rw [String.toList_ofList]
  exact hprints.written

theorem parse_document {schema : Schema} {text : String} (h : schema.IsDocument text)
    (fileName : String) : parse text fileName = .ok schema := by
  obtain ⟨phrase, hdescribed, hwritten⟩ := h
  obtain ⟨_, hreads⟩ := codec.isRead schema phrase hdescribed
  have hvalue := hreads (lex text) (lex_of_written hwritten) [] text.utf8ByteSize
  rw [List.append_nil] at hvalue
  have hread : readText reader text = .ok schema.toValue := by
    simp only [readText, Stream.ofText, bind, Except.bind, hvalue]
    rfl
  simp only [parse, read, hread, bind, Except.bind, codec.returns schema]

/-- A schema is read back from its own document, and from every other document that describes it. -/
theorem parse_any_spelling (schema : Schema) (fileName : String) :
    parse (String.ofList schema.toJson.print) fileName = .ok schema ∧
      ∀ text, schema.IsDocument text → parse text fileName = .ok schema := by
  constructor
  · exact parse_document schema.own_document fileName
  · intro text hdocument
    exact parse_document hdocument fileName

def oneUser : Schema :=
  ⟨[⟨"User", none, [], none⟩], []⟩

def oneUserText : String :=
  "\x7b \"m\\u006fdels\":[\x7b\"dbName\":null,\"name\":\"User\"\x7d]"
    ++ ",\"note\":[-1.5e3,\"\\ud800\"]\x7d"

def oneUserPhrase : Phrase :=
  recordOf
    [ ("models", arrayOf [recordOf [("dbName", [.null]), ("name", [.string (some "User")])]]),
      ("note", arrayOf [[.number], [.string none]]) ]

theorem oneUser_described : oneUser.Described oneUserPhrase := by
  have hmodel : Model.Described ⟨"User", none, [], none⟩
      (recordOf [("dbName", [.null]), ("name", [.string (some "User")])]) := by
    refine ⟨_, rfl, ⟨?_, ?_, ?_, ?_⟩⟩ <;>
      simp [Model.entries, Json.Entry.text, Json.Entry.optionalText, Json.Entry.list, IsText]
  have hnote : IsValue (arrayOf [[.number], [.string none]]) := by
    refine .array fun item hitem => ?_
    simp only [List.mem_cons, List.not_mem_nil, or_false] at hitem
    rcases hitem with rfl | rfl
    · exact .number
    · exact .string none
  have hmodels : (Json.Entry.list "models" Model.Described oneUser.models).admits
      (arrayOf [recordOf [("dbName", [.null]), ("name", [.string (some "User")])]]) :=
    ⟨_, rfl, .cons hmodel .nil⟩
  refine ⟨_, rfl, ⟨?once, ?written, ?present, ?unknown⟩⟩
  case once => simp [entries, Json.Entry.list]
  case written =>
    intro entry hentry phrase hmember
    simp only [entries, List.mem_cons, List.not_mem_nil, or_false] at hentry
    rcases hentry with rfl | rfl
    · obtain rfl : phrase = _ := by simpa [Json.Entry.list] using hmember
      exact hmodels
    · simp [Json.Entry.list] at hmember
  case present => simp [entries, Json.Entry.list, oneUser]
  case unknown => simpa [entries, Json.Entry.list] using hnote

theorem oneUser_written : Written oneUserPhrase oneUserText.toList := by
  have hzero : HexDigit '0' 0 := hexDigit_spells (by decide)
  have hkey : Prints "\"m\\u006fdels\"".toList [.string (some "models")] := by
    obtain ⟨parts, hmeans, hparts⟩ := escapes_spell "dels".toList
    have hfirst : SpellsPart (.char 'm') ['m'] := .plain (by decide) (by decide) (by decide)
    have hescape : SpellsPart (.unit 'o'.toNat) "\\u006f".toList :=
      .unit hzero hzero (hexDigit_spells (by decide : 6 < 16))
        (hexDigit_spells (by decide : 15 < 16))
    exact .symbol (.text (.char 'm' (.unit (by decide) hmeans))
      (.cons hfirst (.cons hescape hparts))) (by simp)
  have hmodels : Prints (print (.array [.object [("dbName", .null), ("name", .string "User")]]))
      (arrayOf [recordOf [("dbName", [.null]), ("name", [.string (some "User")])]]) :=
    array_prints (.cons (object_prints
      (.cons ⟨rfl, .symbol .null (by simp)⟩ (.cons ⟨rfl, quote_prints "User"⟩ .nil))) .nil)
  have hnumber : Spells .number "-1.5e3".toList := by
    have hdigit : ∀ d : Char, d.isDigit = true → IsDigits [d] :=
      fun d hd => ⟨List.cons_ne_nil d [], List.forall_mem_singleton.mpr hd⟩
    have hwhole : IsWhole ['1'] := .digits (hdigit '1' rfl) (by decide)
    have hfraction : IsFraction ['.', '5'] := .digits (hdigit '5' rfl)
    have hexponent : IsExponent ['e', '3'] := .digits (.inl rfl) (.inl rfl) (hdigit '3' rfl)
    exact .number (.mk (.inr rfl) hwhole hfraction hexponent)
  have hsurrogate : Prints "\"\\ud800\"".toList [.string none] := by
    have hunit : SpellsPart (.unit 0xD800) "\\ud800".toList :=
      .unit (hexDigit_spells (by decide : 13 < 16)) (hexDigit_spells (by decide : 8 < 16))
        hzero hzero
    exact .symbol (.loose (.cons hunit .nil)) (by simp)
  have hend : Prints "]\x7d".toList [.closeBracket, .closeBrace] :=
    (Prints.symbol .closeBracket (by simp)).append (.symbol .closeBrace (by simp))
  have hlast : Written [.number, .comma, .string none, .closeBracket, .closeBrace]
      "-1.5e3,\"\\ud800\"]\x7d".toList :=
    .symbol hnumber ((Prints.symbol .comma (by simp)).append (hsurrogate.append hend)).written
      (fun _ c hc => by cases hc; rfl)
  have hnote : Prints ",\"note\":[".toList [.comma, .string (some "note"), .colon, .openBracket] :=
    (Prints.symbol .comma (by simp)).append ((quote_prints "note").append
      ((Prints.symbol .colon (by simp)).append (.symbol .openBracket (by simp))))
  have hcolon : Prints ":".toList [.colon] := .symbol .colon (by simp)
  have hmembers := (hkey.append (hcolon.append (hmodels.append hnote))) _ _ hlast
  exact .symbol .openBrace (.blank rfl hmembers) (by simp)

theorem oneUser_parsed : oneUser.IsDocument oneUserText ∧
    parse oneUserText "schema.json" = .ok oneUser := by
  have h : oneUser.IsDocument oneUserText := ⟨oneUserPhrase, oneUser_described, oneUser_written⟩
  exact ⟨h, (parse_any_spelling oneUser "schema.json").2 _ h⟩

end Schema

end DtoGen
