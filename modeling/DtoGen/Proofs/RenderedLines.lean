import DtoGen.Dto.File

namespace DtoGen

/-- A blank line has no margin, whatever the level. -/
inductive PrintedLine
  | blank
  | written (level : Nat) (text : String)
deriving DecidableEq, Repr

namespace PrintedLine

def print (indent : Indent) : PrintedLine → String
  | blank => "\n"
  | written level text => String.join (List.replicate level indent.text) ++ text ++ "\n"

def printAll (indent : Indent) (lines : List PrintedLine) : String :=
  String.join (lines.map (print indent))

theorem printAll_append (indent : Indent) (lines more : List PrintedLine) :
    printAll indent (lines ++ more) = printAll indent lines ++ printAll indent more := by
  rw [printAll, List.map_append, String.join_append]
  rfl

theorem print_ends (indent : Indent) (line : PrintedLine) :
    ∃ front, print indent line = front ++ "\n" := by
  cases line with
  | blank => exact ⟨"", rfl⟩
  | written level text => exact ⟨_, rfl⟩

/-- What is printed is either nothing or whole lines. -/
theorem printAll_ends (indent : Indent) (lines : List PrintedLine) :
    printAll indent lines = "" ∨ ∃ front, printAll indent lines = front ++ "\n" := by
  rcases List.eq_nil_or_concat lines with rfl | ⟨lines, line, rfl⟩
  · exact .inl rfl
  · obtain ⟨front, hline⟩ := print_ends indent line
    refine .inr ⟨printAll indent lines ++ front, ?_⟩
    rw [List.concat_eq_append, printAll_append, String.append_assoc, ← hline]
    simp [printAll]

end PrintedLine

/-- A documentation comment around a text. -/
def docComment (text : String) : String :=
  "/** " ++ text ++ " */"

namespace Fragment

mutual

/-- The lines of a fragment as they follow each other. A body is one level deeper than what it
stands in, which its header and its close are not. -/
def lines (level : Nat) : Fragment → List PrintedLine
  | .line text => [.written level text]
  | .blank => [.blank]
  | .block header body close =>
    .written level header :: (linesAll (level + 1) body ++ close.toList.map (.written level))
  | .indent body => linesAll (level + 1) body
  | .doc text => [.written level (docComment text)]

def linesAll (level : Nat) : List Fragment → List PrintedLine
  | [] => []
  | fragment :: fragments => lines level fragment ++ linesAll level fragments

end

theorem linesAll_eq (level : Nat) (fragments : List Fragment) :
    linesAll level fragments = fragments.flatMap (lines level) := by
  induction fragments with
  | nil => rfl
  | cons fragment fragments ih => rw [linesAll, ih, List.flatMap_cons]

end Fragment

namespace Builder

open PrintedLine

/-- The builder after some lines, at the level where it was. -/
def write (b : Builder) (lines : List PrintedLine) : Builder :=
  { b with text := b.text ++ printAll b.indent lines }

theorem write_nil (b : Builder) : b.write [] = b := by
  obtain ⟨indent, level, text⟩ := b
  simp [write, printAll]

theorem write_append (b : Builder) (lines more : List PrintedLine) :
    (b.write lines).write more = b.write (lines ++ more) := by
  simp [write, printAll_append, String.append_assoc]

theorem line_eq (b : Builder) (text : String) : b.line text = b.write [.written b.level text] := by
  simp [Builder.line, write, printAll, print, margin]

theorem blank_eq (b : Builder) : b.blank = b.write [.blank] := by
  simp [Builder.blank, write, printAll, print]

theorem shallower_write (b : Builder) (lines : List PrintedLine) :
    (b.deeper.write lines).shallower = b.write lines := by
  simp [deeper, shallower, write]

mutual

/-- A fragment is written as its lines, below the level where the builder stands. -/
theorem apply_eq (b : Builder) (fragment : Fragment) :
    b.apply fragment = b.write (fragment.lines b.level) := by
  cases fragment with
  | line text => exact line_eq b text
  | blank => exact blank_eq b
  | doc text => exact line_eq b (docComment text)
  | indent body =>
    rw [apply, applyAll_eq b.deeper body, shallower_write, Fragment.lines]
    rfl
  | block header body close =>
    have hinside : (applyAll (b.line header).deeper body).shallower
        = b.write (.written b.level header :: Fragment.linesAll (b.level + 1) body) := by
      rw [applyAll_eq (b.line header).deeper body, shallower_write, line_eq, write_append]
      rfl
    cases close with
    | none => simp [apply, hinside, Fragment.lines]
    | some close =>
      simp only [apply, hinside, Fragment.lines]
      rw [line_eq, write_append]
      rfl

theorem applyAll_eq (b : Builder) (fragments : List Fragment) :
    b.applyAll fragments = b.write (Fragment.linesAll b.level fragments) := by
  cases fragments with
  | nil => exact (write_nil b).symm
  | cons fragment fragments =>
    rw [applyAll, apply_eq b fragment, applyAll_eq (b.write _) fragments, write_append,
      Fragment.linesAll]
    rfl

end

end Builder

namespace Fragment

/-- The text that some fragments make on their own, in a new builder. -/
def render (indent : Indent) (fragments : List Fragment) : String :=
  ((Builder.start indent).applyAll fragments).text

theorem render_eq (indent : Indent) (fragments : List Fragment) :
    render indent fragments = PrintedLine.printAll indent (linesAll 0 fragments) := by
  rw [render, Builder.applyAll_eq]
  exact String.empty_append

end Fragment

/-- A statement is a line of its own, whatever the indentation. -/
theorem Import.render_fragments (indent : Indent) (i : Import) :
    Fragment.render indent i.fragments = i.statement ++ "\n" := by
  rw [Fragment.render_eq]
  simp [Import.fragments, Fragment.linesAll, Fragment.lines, PrintedLine.printAll,
    PrintedLine.print]

namespace CodeModule

open PrintedLine

def importLines (imports : List Import) : List PrintedLine :=
  imports.map fun i => .written 0 i.statement

/-- The blank line between imports and body, if there are both. -/
def gapLines (m : CodeModule) : List PrintedLine :=
  if m.imports.isEmpty || m.body.isEmpty then [] else [.blank]

def bodyLines (body : List (List Fragment)) : List PrintedLine :=
  [PrintedLine.blank].intercalate (body.map (Fragment.linesAll 0))

theorem infix_bodyLines {body : List (List Fragment)} {element : List Fragment}
    (h : element ∈ body) : Fragment.linesAll 0 element <:+: bodyLines body := by
  induction body with
  | nil => cases h
  | cons first rest ih =>
    cases rest with
    | nil =>
      obtain rfl := List.mem_singleton.mp h
      simp [bodyLines]
    | cons next rest =>
      rw [bodyLines, List.map_cons, List.map_cons, List.intercalate_cons_cons]
      rcases List.mem_cons.mp h with rfl | h
      · rw [List.append_assoc]
        exact (List.prefix_append _ _).isInfix
      · exact (ih h).trans (List.suffix_append _ _).isInfix

theorem writeImports_eq (b : Builder) (hb : b.level = 0) (imports : List Import) :
    writeImports b imports = b.write (importLines imports) := by
  induction imports generalizing b with
  | nil => exact (b.write_nil).symm
  | cons i imports ih =>
    have hstatement : b.applyAll i.fragments = b.write [.written 0 i.statement] := by
      rw [Builder.applyAll_eq, hb]
      rfl
    rw [writeImports, List.foldl_cons, hstatement]
    exact (ih (b.write _) hb).trans (b.write_append _ _)

theorem writeBody_eq (b : Builder) (hb : b.level = 0) (body : List (List Fragment)) :
    writeBody b body = b.write (bodyLines body) := by
  induction body generalizing b with
  | nil => exact (b.write_nil).symm
  | cons element body ih =>
    have helement : b.applyAll element = b.write (Fragment.linesAll 0 element) := by
      rw [Builder.applyAll_eq, hb]
    cases body with
    | nil =>
      rw [writeBody, helement]
      simp [bodyLines]
    | cons next body =>
      have hrest := ih ((b.write (Fragment.linesAll 0 element)).write [.blank]) hb
      rw [writeBody, helement, Builder.blank_eq, hrest, Builder.write_append,
        Builder.write_append]
      · simp [bodyLines]
      · exact List.cons_ne_nil _ _

theorem render_eq (indent : Indent) (m : CodeModule) :
    m.render indent = printAll indent (importLines m.imports ++ m.gapLines ++ bodyLines m.body) := by
  have hgap : ∀ b : Builder,
      (if m.imports.isEmpty || m.body.isEmpty then b else b.blank) = b.write m.gapLines := by
    intro b
    unfold gapLines
    split
    · exact b.write_nil.symm
    · exact b.blank_eq
  simp only [render]
  rw [writeImports_eq _ rfl, hgap, writeBody_eq _ rfl, Builder.write_append,
    Builder.write_append, ← List.append_assoc]
  simp [Builder.write, Builder.start]

theorem printAll_importLines (indent : Indent) (imports : List Import) :
    printAll indent (importLines imports)
      = String.join (imports.map fun i => Fragment.render indent i.fragments) := by
  simp only [Import.render_fragments]
  rw [printAll, importLines, List.map_map]
  simp [Function.comp_def, print]

theorem printAll_gapLines (indent : Indent) (m : CodeModule) :
    printAll indent m.gapLines = if m.imports ≠ [] ∧ m.body ≠ [] then "\n" else "" := by
  rw [gapLines]
  cases m.imports <;> cases m.body <;> simp [printAll, print]

theorem printAll_bodyLines (indent : Indent) (body : List (List Fragment)) :
    printAll indent (bodyLines body) = "\n".intercalate (body.map (Fragment.render indent)) := by
  induction body with
  | nil => simp [bodyLines, printAll]
  | cons element body ih =>
    cases body with
    | nil => simp [bodyLines, Fragment.render_eq]
    | cons next body =>
      rw [List.map_cons, List.map_cons, String.intercalate_cons_cons, ← List.map_cons, ← ih,
        bodyLines, List.map_cons, List.map_cons, List.intercalate_cons_cons, printAll_append,
        printAll_append, Fragment.render_eq]
      simp [bodyLines, printAll, print]

/-- A part of a joined text can be replaced where it stands. -/
theorem intercalate_around (separator : String) (front back : List String) :
    ∃ before behind, ∀ part,
      separator.intercalate (front ++ part :: back) = before ++ part ++ behind := by
  obtain ⟨behind, hbehind⟩ : ∃ behind, ∀ part,
      separator.intercalate (part :: back) = part ++ behind := by
    cases back with
    | nil => exact ⟨"", fun part => by simp⟩
    | cons next back =>
      refine ⟨separator ++ separator.intercalate (next :: back), fun part => ?_⟩
      rw [String.intercalate_cons_cons, String.append_assoc]
  cases front with
  | nil => exact ⟨"", behind, fun part => by simpa using hbehind part⟩
  | cons first front =>
    refine ⟨separator.intercalate (first :: front) ++ separator, behind, fun part => ?_⟩
    rw [String.intercalate_append_of_ne_nil (List.cons_ne_nil _ _) (List.cons_ne_nil _ _),
      hbehind, ← String.append_assoc]

/-- A file is what its parts are on their own. -/
structure Composed (indent : Indent) (m : CodeModule) : Prop where
  text : m.render indent
    = String.join (m.imports.map fun i => Fragment.render indent i.fragments)
      ++ (if m.imports ≠ [] ∧ m.body ≠ [] then "\n" else "")
      ++ "\n".intercalate (m.body.map (Fragment.render indent))
  statements : ∀ i ∈ m.imports, Fragment.render indent i.fragments = i.statement ++ "\n"
  /-- So the line end between two elements makes one blank line. -/
  wholeLines : ∀ element ∈ m.body, Fragment.render indent element = "" ∨
    ∃ front, Fragment.render indent element = front ++ "\n"
  /-- What stands around an element does not depend on it. -/
  replaced : ∀ front back, ∃ before behind, ∀ element,
    CodeModule.render indent ⟨m.imports, front ++ element :: back⟩
      = before ++ Fragment.render indent element ++ behind

theorem render_text (indent : Indent) (m : CodeModule) : m.render indent
    = String.join (m.imports.map fun i => Fragment.render indent i.fragments)
      ++ (if m.imports ≠ [] ∧ m.body ≠ [] then "\n" else "")
      ++ "\n".intercalate (m.body.map (Fragment.render indent)) := by
  rw [render_eq, printAll_append, printAll_append, printAll_importLines, printAll_gapLines,
    printAll_bodyLines]

theorem render_parts (indent : Indent) (m : CodeModule) : m.Composed indent where
  text := render_text indent m
  statements i _ := i.render_fragments indent
  wholeLines element _ := by
    rw [Fragment.render_eq]
    exact printAll_ends indent _
  replaced front back := by
    obtain ⟨before, behind, haround⟩ := intercalate_around "\n"
      (front.map (Fragment.render indent)) (back.map (Fragment.render indent))
    refine ⟨String.join (m.imports.map fun i => Fragment.render indent i.fragments)
      ++ (if m.imports ≠ [] then "\n" else "") ++ before, behind, fun element => ?_⟩
    rw [render_text, List.map_append, List.map_cons, haround]
    simp [String.append_assoc]

end CodeModule

namespace DtoFile

/-- The import statements of the file, a line each. -/
def importText (file : DtoFile) : String :=
  PrintedLine.printAll default (CodeModule.importLines file.imports)

/-- What stands behind the import statements. -/
def classText (file : DtoFile) : String :=
  PrintedLine.printAll default
    (CodeModule.gapLines ⟨file.imports, file.classes.map Class.fragments⟩
      ++ CodeModule.bodyLines (file.classes.map Class.fragments))

theorem content_eq (file : DtoFile) : file.content = file.importText ++ file.classText := by
  rw [content, CodeModule.render_eq, List.append_assoc, PrintedLine.printAll_append]
  rfl

end DtoFile

namespace PrintedLine

/-- The line in a text that stands so many levels deep itself. -/
def below (level : Nat) : PrintedLine → PrintedLine
  | blank => blank
  | written depth text => written (level + depth) text

end PrintedLine

namespace Fragment

open PrintedLine

mutual

/-- The lines of a fragment keep their depth to each other, however deep it stands. -/
theorem lines_add (level depth : Nat) (fragment : Fragment) :
    fragment.lines (level + depth) = (fragment.lines depth).map (below level) := by
  cases fragment with
  | line text => rfl
  | blank => rfl
  | doc text => rfl
  | indent body =>
    rw [lines, lines, Nat.add_assoc, linesAll_add level (depth + 1) body]
  | block header body close =>
    rw [lines, lines, Nat.add_assoc, linesAll_add level (depth + 1) body, List.map_cons,
      List.map_append, List.map_map]
    rfl

theorem linesAll_add (level depth : Nat) (fragments : List Fragment) :
    linesAll (level + depth) fragments = (linesAll depth fragments).map (below level) := by
  cases fragments with
  | nil => rfl
  | cons fragment fragments =>
    rw [linesAll, linesAll, lines_add level depth fragment, linesAll_add level depth fragments,
      List.map_append]

end

end Fragment

namespace Builder

open PrintedLine

/-- What a builder does with a fragment: the lines of the fragment, from the header of a block to its
close, come behind the text, each one as deep as it stands in the fragment and the builder does. -/
structure Writes (b : Builder) (fragment : Fragment) : Prop where
  level : (b.apply fragment).level = b.level
  indent : (b.apply fragment).indent = b.indent
  text : (b.apply fragment).text
    = b.text ++ String.join ((fragment.lines 0).map fun line => (line.below b.level).print b.indent)

theorem writes (b : Builder) (fragment : Fragment) : b.Writes fragment := by
  have hlines := fragment.lines_add b.level 0
  refine ⟨?_, ?_, ?_⟩
  · rw [apply_eq]
    rfl
  · rw [apply_eq]
    rfl
  · rw [apply_eq, ← Nat.add_zero b.level, hlines, write, printAll, List.map_map]
    rfl

/-- A change of the level. -/
inductive Move
  | deeper
  | shallower
deriving DecidableEq, Repr

namespace Move

def run (b : Builder) : Move → Builder
  | deeper => b.deeper
  | shallower => b.shallower

/-- The level after a move. It stops at zero. -/
def next (level : Nat) : Move → Nat
  | deeper => level + 1
  | shallower => level - 1

/-- How far moves lead if nothing stops them. -/
def rise (moves : List Move) : Int :=
  moves.count .deeper - moves.count .shallower

theorem rise_deeper (moves : List Move) : rise (deeper :: moves) = rise moves + 1 := by
  simp only [rise, List.count_cons_self, List.count_cons_of_ne (by decide : deeper ≠ shallower)]
  omega

theorem rise_shallower (moves : List Move) : rise (shallower :: moves) = rise moves - 1 := by
  simp only [rise, List.count_cons_self, List.count_cons_of_ne (by decide : shallower ≠ deeper)]
  omega

/-- A level counts moves and stops at zero: no move is lost but one that would lead below, and after
the last such move all moves count from zero. -/
structure Counts (level : Nat) (moves : List Move) (reached : Nat) : Prop where
  fromStart : level + rise moves ≤ reached
  fromZero : ∀ last, last <:+ moves → rise last ≤ reached
  attained : reached = level + rise moves ∨ ∃ last, last <:+ moves ∧ reached = rise last

theorem Counts.deeper {level reached : Nat} {moves : List Move}
    (h : Counts (level + 1) moves reached) : Counts level (.deeper :: moves) reached := by
  have hrise := rise_deeper moves
  have hstart := h.fromStart
  refine ⟨by omega, fun last hlast => ?_, ?_⟩
  · rcases List.suffix_cons_iff.mp hlast with rfl | hlast
    · omega
    · exact h.fromZero last hlast
  · rcases h.attained with heq | ⟨last, hlast, heq⟩
    · exact .inl (by omega)
    · exact .inr ⟨last, hlast.trans (List.suffix_cons _ _), heq⟩

theorem Counts.shallower {level reached : Nat} {moves : List Move}
    (h : Counts (level - 1) moves reached) : Counts level (.shallower :: moves) reached := by
  have hrise := rise_shallower moves
  have hstart := h.fromStart
  have hwhole := h.fromZero moves List.suffix_rfl
  refine ⟨by omega, fun last hlast => ?_, ?_⟩
  · rcases List.suffix_cons_iff.mp hlast with rfl | hlast
    · omega
    · exact h.fromZero last hlast
  · rcases h.attained with heq | ⟨last, hlast, heq⟩
    · -- At level zero the move is lost, and the others start from there.
      by_cases hzero : level = 0
      · exact .inr ⟨moves, List.suffix_cons _ _, by omega⟩
      · exact .inl (by omega)
    · exact .inr ⟨last, hlast.trans (List.suffix_cons _ _), heq⟩

theorem counts_foldl (level : Nat) (moves : List Move) :
    Counts level moves (moves.foldl next level) := by
  induction moves generalizing level with
  | nil =>
    refine ⟨by simp [rise], fun last hlast => ?_, .inl (by simp [rise])⟩
    obtain rfl := List.suffix_nil.mp hlast
    simp [rise]
  | cons move moves ih =>
    cases move with
    | deeper => exact (ih (level + 1)).deeper
    | shallower => exact (ih (level - 1)).shallower

end Move

def moveAll (b : Builder) (moves : List Move) : Builder :=
  moves.foldl Move.run b

/-- Moves do nothing but change the level. -/
theorem moveAll_eq (b : Builder) (moves : List Move) :
    b.moveAll moves = { b with level := moves.foldl Move.next b.level } := by
  induction moves generalizing b with
  | nil => rfl
  | cons move moves ih =>
    rw [moveAll, List.foldl_cons]
    cases move with
    | deeper => exact ih b.deeper
    | shallower => exact ih b.shallower

/-- Wherever moves have led a builder, it writes a fragment there and stays there. -/
theorem writes_after_moves (b : Builder) (moves : List Move) (fragment : Fragment) :
    (b.moveAll moves).Writes fragment ∧
      b.moveAll moves = { b with level := moves.foldl Move.next b.level } ∧
      Move.Counts b.level moves (b.moveAll moves).level := by
  refine ⟨writes _ fragment, moveAll_eq b moves, ?_⟩
  rw [moveAll_eq]
  exact Move.counts_foldl b.level moves

/-- The first move is lost, and the second one counts. -/
example : (((start (.spaces 2)).moveAll [.shallower, .deeper]).apply
    (.block "a" [.doc "b", .blank, .indent [.line "c"]] none)).text
      = "  a\n    /** b */\n\n      c\n" := by
  decide +kernel

end Builder

end DtoGen
