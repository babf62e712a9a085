import DtoGen.Proofs.AcceptedSchema
import DtoGen.Proofs.RenderedLines
import Mathlib.Data.List.Basic
import Mathlib.Data.List.Infix

namespace DtoGen

namespace Text

/-- How a text comes to stand on one line. Blanks go, and a space stands between two letters where
some of them were. -/
inductive Folds : List Char → List Char → Prop
  | nil : Folds [] []
  | blank {c : Char} {cs line : List Char} (hc : isBlank c = true) (h : Folds cs line) :
    Folds (c :: cs) line
  | last {c : Char} {cs : List Char} (hc : isBlank c = false)
    (hcs : ∀ d, cs.head? = some d → isBlank d = true) (h : Folds cs []) : Folds (c :: cs) [c]
  | space {c : Char} {cs line : List Char} (hc : isBlank c = false)
    (hcs : ∀ d, cs.head? = some d → isBlank d = true) (h : Folds cs line) :
    Folds (c :: cs) (c :: ' ' :: line)
  | letter {c d : Char} {cs line : List Char} (hc : isBlank c = false)
    (h : Folds (d :: cs) (d :: line)) : Folds (c :: d :: cs) (c :: d :: line)

theorem fields_blank {c : Char} (hc : isBlank c = true) (cs : List Char) :
    fields (c :: cs) = fields cs := by
  cases cs <;> simp [fields, hc]

theorem fields_break {c : Char} {cs : List Char} (hc : isBlank c = false)
    (hcs : ∀ d, cs.head? = some d → isBlank d = true) : fields (c :: cs) = [c] :: fields cs := by
  cases cs with
  | nil => simp [fields, hc]
  | cons d cs => simp [fields, hc, hcs d rfl]

/-- A letter opens a word. -/
theorem fields_letter {c : Char} (hc : isBlank c = false) (cs : List Char) :
    ∃ word words, fields (c :: cs) = (c :: word) :: words := by
  cases cs with
  | nil => exact ⟨[], [], by simp [fields, hc]⟩
  | cons d cs =>
    cases hd : isBlank d with
    | true => exact ⟨[], fields (d :: cs), by simp [fields, hc, hd]⟩
    | false =>
      cases hrest : fields (d :: cs) with
      | nil => exact ⟨[], [], by rw [fields]; simp [hc, hd, hrest]⟩
      | cons word words => exact ⟨word, words, by rw [fields]; simp [hc, hd, hrest]⟩

/-- A letter behind a letter goes on with its word. -/
theorem fields_letter_letter {c d : Char} {cs word : List Char} {words : List (List Char)}
    (hc : isBlank c = false) (hd : isBlank d = false)
    (h : fields (d :: cs) = (d :: word) :: words) :
    fields (c :: d :: cs) = (c :: d :: word) :: words := by
  rw [fields]
  simp [hc, hd, h]

theorem folds_fields (cs : List Char) : Folds cs ([' '].intercalate (fields cs)) := by
  induction cs with
  | nil => exact .nil
  | cons c cs ih =>
    cases hc : isBlank c with
    | true =>
      rw [fields_blank hc]
      exact .blank hc ih
    | false =>
      by_cases hcs : ∀ d, cs.head? = some d → isBlank d = true
      · rw [fields_break hc hcs]
        cases hwords : fields cs with
        | nil =>
          rw [hwords] at ih
          exact .last hc hcs ih
        | cons word words =>
          rw [hwords] at ih
          rw [List.intercalate_cons_cons]
          exact .space hc hcs ih
      · obtain ⟨d, hhead, hd⟩ : ∃ d, cs.head? = some d ∧ isBlank d = false := by simpa using hcs
        obtain ⟨rest, rfl⟩ := List.head?_eq_some_iff.mp hhead
        obtain ⟨word, words, hword⟩ := fields_letter hd rest
        rw [hword, List.intercalate_cons_cons_left] at ih
        rw [fields_letter_letter hc hd hword, List.intercalate_cons_cons_left,
          List.intercalate_cons_cons_left]
        exact .letter hc ih

theorem folds_oneLine (s : String) : Folds s.toList (oneLine s).toList := by
  have hwords : String.toList ∘ String.ofList = id := by
    funext cs
    exact String.toList_ofList
  rw [oneLine, String.toList_intercalate, List.map_map, hwords, List.map_id]
  exact folds_fields s.toList

theorem ne_of_isBlank {c d : Char} (hc : isBlank c = false) (hd : isBlank d = true) : c ≠ d := by
  rintro rfl
  rw [hc] at hd
  cases hd

/-- The only blanks of a line are its spaces. -/
theorem Folds.eq_space {cs line : List Char} (h : Folds cs line) :
    ∀ x ∈ line, isBlank x = true → x = ' ' := by
  induction h with
  | nil => simp
  | blank hc h ih => exact ih
  | last hc hcs h ih =>
    intro x hx hblank
    exact absurd (List.mem_singleton.mp hx).symm (ne_of_isBlank hc hblank)
  | space hc hcs h ih =>
    intro x hx hblank
    rcases List.mem_cons.mp hx with rfl | hx
    · exact absurd rfl (ne_of_isBlank hc hblank)
    · exact (List.mem_cons.mp hx).elim id fun hx => ih x hx hblank
  | letter hc h ih =>
    intro x hx hblank
    rcases List.mem_cons.mp hx with rfl | hx
    · exact absurd rfl (ne_of_isBlank hc hblank)
    · exact ih x hx hblank

theorem pair_infix_cons {a b c : Char} {cs : List Char} :
    [a, b] <:+: c :: cs ↔ (a = c ∧ cs.head? = some b) ∨ [a, b] <:+: cs := by
  rw [List.infix_cons_iff, List.cons_prefix_cons, List.singleton_prefix_iff_head?_eq_some]

theorem pair_infix_blank {a b c : Char} {cs : List Char} (ha : isBlank a = false)
    (hc : isBlank c = true) : [a, b] <:+: c :: cs ↔ [a, b] <:+: cs := by
  rw [pair_infix_cons, or_iff_right fun h => ne_of_isBlank ha hc h.1]

theorem pair_infix_break {a b c : Char} {cs : List Char} (hb : isBlank b = false)
    (hcs : ∀ d, cs.head? = some d → isBlank d = true) : [a, b] <:+: c :: cs ↔ [a, b] <:+: cs := by
  rw [pair_infix_cons, or_iff_right fun h => ne_of_isBlank hb (hcs b h.2) rfl]

/-- Folding neither makes nor breaks a pair of letters. -/
theorem Folds.pair_infix_iff {a b : Char} {cs line : List Char} (ha : isBlank a = false)
    (hb : isBlank b = false) (h : Folds cs line) : [a, b] <:+: line ↔ [a, b] <:+: cs := by
  induction h with
  | nil => exact Iff.rfl
  | blank hc h ih => rw [ih, pair_infix_blank ha hc]
  | last hc hcs h ih => rw [pair_infix_break hb (by simp), ih, pair_infix_break hb hcs]
  | @space c cs line hc hcs h ih =>
    have hspace : isBlank ' ' = true := by decide
    have hline : ∀ d, (' ' :: line).head? = some d → isBlank d = true := by
      rintro d ⟨⟩
      exact hspace
    rw [pair_infix_break hb hline, pair_infix_blank ha hspace, ih, pair_infix_break hb hcs]
  | @letter c d cs line hc h ih =>
    have hline : [a, b] <:+: c :: d :: line ↔ (a = c ∧ some d = some b) ∨ [a, b] <:+: d :: line :=
      pair_infix_cons
    have hcs : [a, b] <:+: c :: d :: cs ↔ (a = c ∧ some d = some b) ∨ [a, b] <:+: d :: cs :=
      pair_infix_cons
    rw [hline, hcs, ih]

end Text

def commentEnd : List Char :=
  ['*', '/']

/-- Where a reader of code goes on who is in a comment. -/
def leaveComment? : List Char → Option (List Char)
  | [] => none
  | c :: cs => if c = '*' ∧ cs.head? = some '/' then some cs.tail else leaveComment? cs

/-- Where a reader of code goes on who comes to a comment. -/
def passComment? : List Char → Option (List Char)
  | '/' :: '*' :: cs => leaveComment? cs
  | _ => none

theorem leaveComment?_eq_none {cs : List Char} :
    leaveComment? cs = none ↔ ¬commentEnd <:+: cs := by
  induction cs with
  | nil => simp [leaveComment?, commentEnd]
  | cons c cs ih =>
    rw [leaveComment?, commentEnd, Text.pair_infix_cons, not_or, ← commentEnd, ← ih,
      eq_comm (b := c)]
    split
    · rename_i h
      simp [h]
    · rename_i h
      exact (and_iff_right h).symm

/-- A comment cannot end across a space. -/
theorem leaveComment?_append_space (cs rest : List Char) :
    leaveComment? (cs ++ ' ' :: rest)
      = ((leaveComment? cs).map (· ++ ' ' :: rest)).or (leaveComment? rest) := by
  induction cs with
  | nil => simp [leaveComment?]
  | cons c cs ih =>
    have hhead : (cs ++ ' ' :: rest).head? = some '/' ↔ cs.head? = some '/' := by
      cases cs <;> simp
    rw [List.cons_append, leaveComment?, leaveComment?]
    simp only [hhead]
    split
    · rename_i h
      cases cs with
      | nil => simp at h
      | cons d cs => rfl
    · exact ih

/-- What a reader takes for code when a line stands in a comment. -/
def spilled (line : String) : List Char :=
  ((leaveComment? line.toList).map (· ++ ' ' :: commentEnd)).getD []

theorem passComment?_docComment (line : String) (rest : List Char) :
    passComment? ((docComment line).toList ++ rest) = some (spilled line ++ rest) := by
  have hletters : (docComment line).toList ++ rest
      = '/' :: '*' :: ('*' :: [] ++ ' ' :: (line.toList ++ ' ' :: ('*' :: '/' :: rest))) := by
    simp [docComment]
  have hopening : leaveComment? ['*'] = none := rfl
  rw [hletters, passComment?, leaveComment?_append_space, hopening, leaveComment?_append_space,
    spilled]
  cases leaveComment? line.toList with
  | none => rfl
  | some behind => simp [commentEnd]

theorem spilled_eq_nil {line : String} :
    spilled line = [] ↔ ¬commentEnd <:+: line.toList := by
  rw [← leaveComment?_eq_none, spilled]
  cases leaveComment? line.toList <;> simp

/-- A documentation in a file, and the line of code that it is about. -/
structure Note where
  text : String
  code : String
deriving DecidableEq, Repr

namespace Note

def comment (note : Note) : String :=
  docComment (Text.oneLine note.text)

def lines (note : Note) (level : Nat) : List PrintedLine :=
  [.written level note.comment, .written level note.code]

/-- The comment has a line to itself, with spaces in front, and the code is the next line. -/
def StandsIn (note : Note) (content : String) : Prop :=
  ∃ before margin after,
    content = before ++ (margin ++ note.comment ++ "\n" ++ (margin ++ note.code ++ "\n")) ++ after ∧
      (before = "" ∨ ∃ lines, before = lines ++ "\n") ∧ ∀ c ∈ margin.toList, c = ' '

/-- Whatever stands behind the comment, a reader who comes to it goes on there. -/
def Sealed (note : Note) : Prop :=
  ∀ rest, passComment? (note.comment.toList ++ rest) = some rest

theorem sealed_iff {note : Note} : note.Sealed ↔ ¬commentEnd <:+: note.text.toList := by
  rw [commentEnd, ← (Text.folds_oneLine note.text).pair_infix_iff (by decide) (by decide),
    ← commentEnd, ← spilled_eq_nil]
  constructor
  · intro h
    have hnothing := h []
    rw [comment, passComment?_docComment, List.append_nil] at hnothing
    exact Option.some.inj hnothing
  · intro h rest
    rw [comment, passComment?_docComment, h, List.nil_append]

/-- A comment does not go on over the end of a line, of whatever kind that may be. -/
theorem eq_space_of_mem_comment {note : Note} :
    ∀ c ∈ note.comment.toList, Text.isBlank c = true → c = ' ' := by
  intro c hc hblank
  rw [comment, docComment, String.toList_append, String.toList_append, List.mem_append,
    List.mem_append] at hc
  have hopening : "/** ".toList.filter Text.isBlank = [' '] := by decide
  have hend : " */".toList.filter Text.isBlank = [' '] := by decide
  rcases hc with (hc | hc) | hc
  · exact List.mem_singleton.mp (hopening ▸ List.mem_filter.mpr ⟨hc, hblank⟩)
  · exact (Text.folds_oneLine note.text).eq_space c hc hblank
  · exact List.mem_singleton.mp (hend ▸ List.mem_filter.mpr ⟨hc, hblank⟩)

theorem eq_space_of_mem_margin (level : Nat) :
    ∀ c ∈ (String.join (List.replicate level (default : Indent).text)).toList, c = ' ' := by
  have hspaces : (default : Indent).text.toList = List.replicate 2 ' ' := String.toList_ofList
  induction level with
  | zero => simp
  | succ level ih =>
    intro c hc
    rw [List.replicate_succ, String.join_cons, String.toList_append, hspaces] at hc
    exact (List.mem_append.mp hc).elim List.eq_of_mem_replicate (ih c)

theorem standsIn_printAll {note : Note} {level : Nat} {lines : List PrintedLine}
    (h : note.lines level <:+: lines) : note.StandsIn (PrintedLine.printAll default lines) := by
  obtain ⟨front, back, rfl⟩ := h
  refine ⟨PrintedLine.printAll default front,
    String.join (List.replicate level (default : Indent).text),
    PrintedLine.printAll default back, ?_, PrintedLine.printAll_ends default front,
    eq_space_of_mem_margin level⟩
  rw [PrintedLine.printAll_append, PrintedLine.printAll_append]
  simp [PrintedLine.printAll, PrintedLine.print, lines, String.append_assoc]

end Note

namespace Class

/-- The line that a class begins with. -/
def opening (c : Class) : String :=
  if c.properties.isEmpty then c.header ++ "\x7d" else c.header

def notes (c : Class) : List Note :=
  (c.documentation.toList.map fun text => ⟨text, c.opening⟩)
    ++ c.properties.flatMap fun p => p.documentation.toList.map fun text => ⟨text, p.declaration⟩

theorem notes_text (c : Class) : c.notes.map Note.text
    = c.documentation.toList ++ c.properties.flatMap fun p => p.documentation.toList := by
  simp [notes, List.map_flatMap, Function.comp_def]

theorem linesAll_docFragments (level : Nat) (documentation : Option String) :
    Fragment.linesAll level (docFragments documentation)
      = documentation.toList.map fun text => .written level (docComment (Text.oneLine text)) := by
  cases documentation <;> rfl

theorem lines_of_property {p : Property} {text : String} (h : p.documentation = some text) :
    Fragment.linesAll 1 p.fragments = Note.lines ⟨text, p.declaration⟩ 1 := by
  rw [Property.fragments, h]
  rfl

theorem lines_of_notes {c : Class} {note : Note} (h : note ∈ c.notes) :
    ∃ level, note.lines level <:+: Fragment.linesAll 0 c.fragments := by
  rw [fragments, Fragment.linesAll_eq, List.flatMap_append, ← Fragment.linesAll_eq,
    ← Fragment.linesAll_eq, linesAll_docFragments]
  rcases List.mem_append.mp h with h | h
  · obtain ⟨text, htext, rfl⟩ := List.mem_map.mp h
    rw [Option.mem_toList.mp htext]
    refine ⟨0, List.IsPrefix.isInfix ?_⟩
    cases hempty : c.properties.isEmpty with
    | true => simp [Note.lines, Note.comment, opening, hempty, Fragment.linesAll, Fragment.lines]
    | false => simp [Note.lines, Note.comment, opening, hempty, Fragment.linesAll, Fragment.lines]
  · obtain ⟨p, hp, h⟩ := List.mem_flatMap.mp h
    obtain ⟨text, htext, rfl⟩ := List.mem_map.mp h
    have hne : ¬c.properties.isEmpty = true := by
      intro hempty
      rw [List.isEmpty_iff.mp hempty] at hp
      cases hp
    have hlines : Fragment.linesAll 1 p.fragments
        <:+: Fragment.linesAll 1 (c.properties.flatMap Property.fragments) := by
      rw [Fragment.linesAll_eq, Fragment.linesAll_eq, List.flatMap_assoc, List.flatMap_def]
      exact List.infix_of_mem_flatten (List.mem_map_of_mem hp)
    rw [lines_of_property (Option.mem_toList.mp htext)] at hlines
    refine ⟨1, hlines.trans ?_⟩
    rw [if_neg hne]
    refine List.IsInfix.trans ?_ (List.suffix_append _ _).isInfix
    exact ⟨[.written 0 c.header], [.written 0 "\x7d"],
      by simp [Fragment.linesAll, Fragment.lines]⟩

end Class

namespace DtoFile

def notes (file : DtoFile) : List Note :=
  file.classes.flatMap Class.notes

/-- Every documentation of a file stands in its text. -/
theorem standsIn_content {file : DtoFile} {note : Note} (h : note ∈ file.notes) :
    note.StandsIn file.content := by
  obtain ⟨c, hc, h⟩ := List.mem_flatMap.mp h
  obtain ⟨level, hlines⟩ := Class.lines_of_notes h
  rw [content, CodeModule.render_eq]
  refine Note.standsIn_printAll (hlines.trans ?_)
  refine List.IsInfix.trans ?_ (List.suffix_append _ _).isInfix
  exact CodeModule.infix_bodyLines (List.mem_map_of_mem hc)

end DtoFile

def Model.documentations (model : Model) : List String :=
  model.documentation.toList ++ model.fields.flatMap fun field => field.documentation.toList

namespace ModelScope

variable {scope : ModelScope} {base : Path} {fields : List Field}

theorem notes_text_mainClass (name : String) (documentation : Option String)
    (members : List Member) : (mainClass name documentation members).notes.map Note.text
      = documentation.toList ++ members.flatMap fun m => m.property.documentation.toList := by
  rw [Class.notes_text, mainClass, List.flatMap_map]

/-- Members are documented as the fields that they are made from. -/
theorem documentation_members {make : Field → Member}
    (hmake : ∀ field ∈ fields, (make field).property.documentation = field.documentation) :
    ((fields.map make).flatMap fun m => m.property.documentation.toList)
      = fields.flatMap fun field => field.documentation.toList := by
  rw [List.flatMap_map]
  exact List.flatMap_congr fun field hfield => congrArg Option.toList (hmake field hfield)

theorem notes_text_connectFile : (scope.connectFile base).notes.map Note.text
    = (scope.model.identifying.filter Field.isColumn).flatMap
      fun field => field.documentation.toList := by
  rw [DtoFile.notes, connectFile, List.flatMap_singleton, notes_text_mainClass,
    documentation_members fun _ _ => rfl]
  rfl

/-- Helper classes are not documented. -/
theorem notes_text_inputFile (kind : DtoKind) (isOptionalColumn isOptionalRelation : Field → Bool) :
    (scope.inputFile base kind isOptionalColumn isOptionalRelation).notes.map Note.text
      = (scope.model.writable ++ scope.model.relations).flatMap
        fun field => field.documentation.toList := by
  have hhelpers : ((scope.model.relations.map (scope.relationInput kind isOptionalRelation)).map
      RelationInput.helper).flatMap Class.notes = [] := by
    rw [List.flatMap_map, List.flatMap_map]
    exact List.flatMap_eq_nil_iff.mpr fun _ _ => rfl
  rw [DtoFile.notes, inputFile, List.flatMap_append, hhelpers, List.nil_append,
    List.flatMap_singleton, notes_text_mainClass, List.flatMap_append, List.map_map,
    documentation_members fun _ _ => rfl, documentation_members fun _ _ => rfl,
    ← List.flatMap_append]
  rfl

theorem notes_text_entityFile :
    (scope.entityFile base).notes.map Note.text = scope.model.documentations := by
  have hmake : ∀ field ∈ scope.model.fields,
      (scope.entityMember field).property.documentation = field.documentation := by
    intro field _
    unfold entityMember
    split <;> rfl
  rw [DtoFile.notes, entityFile, List.flatMap_singleton, notes_text_mainClass,
    documentation_members hmake]
  rfl

/-- What the files of a model are documented with comes from the model. -/
theorem text_mem_documentations {file : DtoFile} (hfile : file ∈ scope.files base) {note : Note}
    (hnote : note ∈ file.notes) : note.text ∈ scope.model.documentations := by
  have hfields : ∀ fields : List Field, fields ⊆ scope.model.fields →
      note.text ∈ (fields.flatMap fun field => field.documentation.toList) →
      note.text ∈ scope.model.documentations := by
    intro fields hsub htext
    obtain ⟨field, hfield, htext⟩ := List.mem_flatMap.mp htext
    exact List.mem_append_right _ (List.mem_flatMap.mpr ⟨field, hsub hfield, htext⟩)
  have hwritten : scope.model.writable ++ scope.model.relations ⊆ scope.model.fields :=
    List.append_subset.mpr ⟨List.filter_subset_self _, List.filter_subset_self _⟩
  have htext : note.text ∈ file.notes.map Note.text := List.mem_map_of_mem hnote
  rcases mem_files.mp hfile with ⟨_, kind, rfl⟩ | rfl
  · cases kind with
    | connect =>
      rw [dtoFile, notes_text_connectFile] at htext
      exact hfields _ (List.Subset.trans (List.filter_subset_self _) (List.filter_subset_self _))
        htext
    | create => exact hfields _ hwritten (notes_text_inputFile .create _ _ ▸ htext)
    | update => exact hfields _ hwritten (notes_text_inputFile .update _ _ ▸ htext)
  · rwa [notes_text_entityFile] at htext

end ModelScope

namespace Schema

variable {options : Options} {schema : Schema} {files : List DtoFile}

def documentations (schema : Schema) : List String :=
  schema.models.flatMap Model.documentations

/-- A text documents a class or a property in the files of a schema exactly if it documents a model
or a field in the schema. -/
theorem documented_iff (hfiles : schema.dtoFiles options = .ok files) {text : String} :
    (∃ file ∈ files, ∃ note ∈ file.notes, note.text = text) ↔ text ∈ schema.documentations := by
  obtain ⟨_, rfl⟩ := dtoFiles_eq_ok.mp hfiles
  constructor
  · rintro ⟨file, hfile, note, hnote, rfl⟩
    obtain ⟨model, hmodel, hfile⟩ := List.mem_flatMap.mp hfile
    exact List.mem_flatMap.mpr ⟨model, hmodel, ModelScope.text_mem_documentations hfile hnote⟩
  · intro htext
    obtain ⟨model, hmodel, htext⟩ := List.mem_flatMap.mp htext
    have hentity : text ∈ (ModelScope.entityFile ⟨options, model⟩ options.output).notes.map
        Note.text := by
      rwa [ModelScope.notes_text_entityFile]
    obtain ⟨note, hnote, rfl⟩ := List.mem_map.mp hentity
    exact ⟨_, List.mem_flatMap.mpr ⟨model, hmodel, ModelScope.mem_files.mpr (.inr rfl)⟩,
      note, hnote, rfl⟩

/-- In every file each documentation stands in a comment on a line of its own, in front of the line
that it is about. Whoever reads past the comment finds what the text spills, and then what stands
behind the comment. Nothing is spilled exactly if the text does not hold the mark that closes a
comment, and so the comments of all files are sealed exactly if no documentation of the schema holds
this mark. -/
theorem comments_sealed_iff (hfiles : schema.dtoFiles options = .ok files) :
    (∀ file ∈ files, ∀ note ∈ file.notes, note.text ∈ schema.documentations ∧
      note.StandsIn file.content ∧
      (∀ c ∈ note.comment.toList, Text.isBlank c = true → c = ' ') ∧
      (∀ rest, passComment? (note.comment.toList ++ rest)
        = some (spilled (Text.oneLine note.text) ++ rest)) ∧
      (note.Sealed ↔ ¬commentEnd <:+: note.text.toList)) ∧
    ((∀ file ∈ files, ∀ note ∈ file.notes, note.Sealed) ↔
      ∀ text ∈ schema.documentations, ¬commentEnd <:+: text.toList) := by
  refine ⟨fun file hfile note hnote => ?_, ?_⟩
  · exact ⟨(documented_iff hfiles).mp ⟨file, hfile, note, hnote, rfl⟩,
      DtoFile.standsIn_content hnote, Note.eq_space_of_mem_comment,
      passComment?_docComment _, Note.sealed_iff⟩
  · constructor
    · intro h text htext
      obtain ⟨file, hfile, note, hnote, rfl⟩ := (documented_iff hfiles).mpr htext
      exact Note.sealed_iff.mp (h file hfile note hnote)
    · intro h file hfile note hnote
      exact Note.sealed_iff.mpr
        (h _ ((documented_iff hfiles).mp ⟨file, hfile, note, hnote, rfl⟩))

/-- A documentation of two lines, and one with marks that close nothing. -/
def profile : Schema :=
  let bio : Field := { (default : Field) with
    name := "bio", kind := .scalar, typeName := "String",
    documentation := some "Free text\n  shown on the profile" }
  ⟨[⟨"User", none, [bio], some "A user / an * account"⟩], []⟩

theorem profile_comments_sealed : ∃ files, profile.dtoFiles default = .ok files ∧
    ∀ file ∈ files, ∀ note ∈ file.notes, note.Sealed := by
  have hmarks : ∀ text ∈ profile.documentations, ¬commentEnd <:+: text.toList := by decide
  refine ⟨_, rfl, ?_⟩
  exact (comments_sealed_iff (show profile.dtoFiles default = _ from rfl)).2.mpr hmarks

/-- A documentation that closes its comment. -/
def outspokenUser : Model :=
  ⟨"User", none, [], some "a */ b"⟩

def outspoken : Schema :=
  ⟨[outspokenUser], []⟩

/-- What is left of the documentation is read as code. -/
theorem outspoken_spills : ∃ files, outspoken.dtoFiles default = .ok files ∧
    ∃ file ∈ files, file.content = "/** a */ b */\nexport class User \x7b\x7d\n" ∧
      passComment? file.content.toList
        = some " b */\nexport class User \x7b\x7d\n".toList ∧
      ∃ note ∈ file.notes, ¬note.Sealed := by
  have hfile : ModelScope.entityFile ⟨default, outspokenUser⟩ (default : Options).output ∈
      outspoken.models.flatMap fun model =>
        ModelScope.files ⟨default, model⟩ (default : Options).output :=
    List.mem_flatMap.mpr
      ⟨outspokenUser, List.mem_singleton_self _, ModelScope.mem_files.mpr (.inr rfl)⟩
  refine ⟨_, rfl, _, hfile, by decide, by decide, ⟨"a */ b", "export class User \x7b\x7d"⟩,
    by decide, ?_⟩
  intro h
  exact absurd (h []) (by decide)

end Schema

end DtoGen
