import DtoGen.Text.Letter

namespace DtoGen.Words

open Text

def isSeparator (c : Char) : Bool :=
  c == '_' || c == '-' || isBlank c

/-- Whether `c` opens a new word right after `prev`, with `next` the letter that follows it. -/
def opensWord (prev c : Char) (next : Option Char) : Bool :=
  isUpper c && (isLower prev || prev.isDigit || (isUpper prev && next.any isLower))

/-- Whether the word that `c` belongs to goes on with the first letter of `rest`. -/
def goesOn (c : Char) : List Char → Bool
  | [] => false
  | d :: rest => !isSeparator d && !opensWord c d rest.head?

def consWord (c : Char) : List (List Char) → List (List Char)
  | [] => [[c]]
  | word :: words => (c :: word) :: words

def split : List Char → List (List Char)
  | [] => []
  | c :: cs =>
    if isSeparator c then split cs
    else if goesOn c cs then consWord c (split cs)
    else [c] :: split cs

def capitalize : List Char → List Char
  | [] => []
  | c :: cs => upper c ++ cs.flatMap lower

/-- Words put side by side, each with a capital first letter. -/
def pascal (cs : List Char) : List Char :=
  (split cs).flatMap capitalize

def camel (cs : List Char) : List Char :=
  match split cs with
  | [] => []
  | word :: words => lowerAll [] word ++ words.flatMap capitalize

/-- Lower-case words with `mark` between them. -/
def joined (mark : Char) (cs : List Char) : List Char :=
  [mark].intercalate ((split cs).map (lowerAll []))

end DtoGen.Words

namespace DtoGen

def words (s : String) : List String :=
  (Words.split s.toList).map String.ofList

def pascalCase (s : String) : String :=
  String.ofList (Words.pascal s.toList)

def camelCase (s : String) : String :=
  String.ofList (Words.camel s.toList)

def snakeCase (s : String) : String :=
  String.ofList (Words.joined '_' s.toList)

def kebabCase (s : String) : String :=
  String.ofList (Words.joined '-' s.toList)

end DtoGen
