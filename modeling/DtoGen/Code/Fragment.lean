namespace DtoGen

/-- The text of one level of indentation. -/
inductive Indent
  | spaces (width : Nat)
  | tab
deriving DecidableEq, Repr

namespace Indent

instance : Inhabited Indent := ⟨spaces 2⟩

def text : Indent → String
  | spaces width => String.ofList (List.replicate width ' ')
  | tab => "\t"

end Indent

inductive Fragment
  | line (text : String)
  | blank
  | block (header : String) (body : List Fragment) (close : Option String)
  | indent (body : List Fragment)
  /-- A documentation comment of one line. -/
  | doc (text : String)
deriving Repr, Inhabited

structure Builder where
  indent : Indent
  level : Nat
  text : String
deriving Repr

namespace Builder

def start (indent : Indent) : Builder :=
  ⟨indent, 0, ""⟩

def isEmpty (b : Builder) : Bool :=
  b.text.isEmpty

def margin (b : Builder) : String :=
  String.join (List.replicate b.level b.indent.text)

def line (b : Builder) (text : String) : Builder :=
  { b with text := b.text ++ (b.margin ++ text ++ "\n") }

/-- A blank line has no margin. -/
def blank (b : Builder) : Builder :=
  { b with text := b.text ++ "\n" }

def doc (b : Builder) (text : String) : Builder :=
  b.line ("/** " ++ text ++ " */")

def deeper (b : Builder) : Builder :=
  { b with level := b.level + 1 }

/-- The outermost level stays where it is. -/
def shallower (b : Builder) : Builder :=
  { b with level := b.level - 1 }

mutual

def apply (b : Builder) : Fragment → Builder
  | .line text => b.line text
  | .blank => b.blank
  | .block header body close =>
    let b := (applyAll (b.line header).deeper body).shallower
    match close with
    | some text => b.line text
    | none => b
  | .indent body => (applyAll b.deeper body).shallower
  | .doc text => b.doc text

def applyAll (b : Builder) : List Fragment → Builder
  | [] => b
  | fragment :: fragments => applyAll (apply b fragment) fragments

end

end Builder

end DtoGen
