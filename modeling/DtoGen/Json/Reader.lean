import DtoGen.Json.Token

namespace DtoGen.Json

structure Stream where
  lexemes : List Lexeme
  size : Nat

namespace Stream

def ofText (text : String) : Stream :=
  ⟨lex text, text.utf8ByteSize⟩

/-- Bytes before the next token. -/
def position (s : Stream) : Nat :=
  match s.lexemes with
  | [] => s.size
  | lexeme :: _ => lexeme.start

/-- Bytes seen when the first byte of the next token is unwelcome. -/
def unwelcome (s : Stream) : Nat :=
  match s.lexemes with
  | [] => s.size
  | lexeme :: _ => lexeme.start + 1

/-- Bytes seen when the next value is of the wrong kind: scalars are read first, and brackets are
not. -/
def wrongKind (s : Stream) : Nat :=
  match s.lexemes with
  | [] => s.size
  | lexeme :: _ =>
    match lexeme.token with
    | .null | .bool _ => lexeme.stop
    | .number stop => stop
    | .string (.ok _) => lexeme.stop
    | .string (.error fault) => fault
    | .badString fault _ => fault
    | .bad fault => fault
    | .openBrace | .openBracket => lexeme.start
    | .closeBrace | .closeBracket | .comma | .colon => lexeme.start + 1

def colon (s : Stream) : Except Nat Stream :=
  match s.lexemes with
  | ⟨.colon, _, _⟩ :: rest => .ok { s with lexemes := rest }
  | _ => .error s.unwelcome

/-- The stream at the next element, or `none` at the closing bracket. -/
def nextElement (isFirst : Bool) (s : Stream) : Except Nat (Option Stream) :=
  match isFirst, s.lexemes with
  | _, [] => .error s.size
  | _, ⟨.closeBracket, _, _⟩ :: _ => .ok none
  | true, _ => .ok (some s)
  | false, ⟨.comma, _, _⟩ :: rest =>
    let s : Stream := { s with lexemes := rest }
    match rest with
    | [] => .error s.size
    | ⟨.closeBracket, _, _⟩ :: _ => .error s.unwelcome
    | _ => .ok (some s)
  | false, _ => .error s.unwelcome

def key (s : Stream) : Except Nat (String × Stream) :=
  match s.lexemes with
  | ⟨.string (.ok text), _, _⟩ :: rest => .ok (text, { s with lexemes := rest })
  | ⟨.string (.error fault), _, _⟩ :: _ => .error fault
  | ⟨.badString fault _, _, _⟩ :: _ => .error fault
  | _ => .error s.unwelcome

/-- The next key and the stream behind it, or `none` at the closing brace. -/
def nextKey (isFirst : Bool) (s : Stream) : Except Nat (Option (String × Stream)) :=
  match isFirst, s.lexemes with
  | _, ⟨.closeBrace, _, _⟩ :: _ => .ok none
  | true, _ => s.key.map some
  | false, ⟨.comma, _, _⟩ :: rest => (Stream.key { s with lexemes := rest }).map some
  | false, _ => .error s.unwelcome

end Stream

inductive Bracket
  | array
  | object
deriving DecidableEq

/-- What may stand next while a value is skipped, inside the brackets that are still open. -/
inductive Expected
  | value
  /-- Right behind an opening bracket. -/
  | opened
  /-- Behind a complete element. -/
  | comma
  | key
  | colon

/-- One token of a skipped value: the brackets open behind it and what may come next, `none` when
the value is complete. -/
def skipToken (inside : List Bracket) (expected : Expected) (lexeme : Lexeme) :
    Except Nat (Option (List Bracket × Expected)) :=
  let unwelcome : Except Nat (Option (List Bracket × Expected)) := .error (lexeme.start + 1)
  let complete : List Bracket → Option (List Bracket × Expected)
    | [] => none
    | outer => some (outer, .comma)
  let value : Except Nat (Option (List Bracket × Expected)) :=
    match lexeme.token with
    | .null | .bool _ | .number _ | .string _ => .ok (complete inside)
    | .openBracket => .ok (some (.array :: inside, .opened))
    | .openBrace => .ok (some (.object :: inside, .opened))
    | .badString _ fault => .error fault
    | .bad fault => .error fault
    | .closeBrace | .closeBracket | .comma | .colon => unwelcome
  let key : Except Nat (Option (List Bracket × Expected)) :=
    match lexeme.token with
    | .string _ => .ok (some (inside, .colon))
    | .badString _ fault => .error fault
    | _ => unwelcome
  match expected, lexeme.token, inside with
  | .value, _, _ => value
  | .key, _, _ => key
  | .colon, .colon, _ => .ok (some (inside, .value))
  | .colon, _, _ => unwelcome
  | .opened, .closeBracket, .array :: outer => .ok (complete outer)
  | .opened, .closeBrace, .object :: outer => .ok (complete outer)
  | .opened, _, .object :: _ => key
  | .opened, _, _ => value
  | .comma, .closeBracket, .array :: outer => .ok (complete outer)
  | .comma, .closeBrace, .object :: outer => .ok (complete outer)
  | .comma, .comma, .array :: _ => .ok (some (inside, .value))
  | .comma, .comma, .object :: _ => .ok (some (inside, .key))
  | .comma, _, _ => unwelcome

def skipFrom (size : Nat) (inside : List Bracket) (expected : Expected) :
    List Lexeme → Except Nat (List Lexeme)
  | [] => .error size
  | lexeme :: rest =>
    match skipToken inside expected lexeme with
    | .error fault => .error fault
    | .ok none => .ok rest
    | .ok (some (inside, expected)) => skipFrom size inside expected rest

/-- The stream behind the next value, whatever it is. -/
def Stream.skip (s : Stream) : Except Nat Stream :=
  (skipFrom s.size [] .value s.lexemes).map fun rest => { s with lexemes := rest }

/-- What readers read. A record is the list of its members in their declared order. -/
inductive Value
  | absent
  | flag (b : Bool)
  | text (s : String)
  | list (values : List Value)
deriving Repr, Inhabited

namespace Value

def text? : Value → Option String
  | .text s => some s
  | _ => none

def optionalText? : Value → Option (Option String)
  | .absent => some none
  | .text s => some (some s)
  | _ => none

def list? {α : Type} (of? : Value → Option α) : Value → Option (List α)
  | .list values => values.mapM of?
  | _ => none

end Value

abbrev Reader := Stream → Except Nat (Value × Stream)

namespace Reader

def text : Reader := fun s =>
  match s.lexemes with
  | ⟨.string (.ok text), _, _⟩ :: rest => .ok (.text text, { s with lexemes := rest })
  | _ => .error s.wrongKind

def flag : Reader := fun s =>
  match s.lexemes with
  | ⟨.bool b, _, _⟩ :: rest => .ok (.flag b, { s with lexemes := rest })
  | _ => .error s.wrongKind

/-- The value, or `null` for its absence. -/
def optional (read : Reader) : Reader := fun s =>
  match s.lexemes with
  | ⟨.null, _, _⟩ :: rest => .ok (.absent, { s with lexemes := rest })
  | _ => read s

/-- A text among `names`. -/
def nameAmong (names : List String) : Reader := fun s =>
  match s.lexemes with
  | ⟨.string (.ok name), _, stop⟩ :: rest =>
    if names.contains name then .ok (.text name, { s with lexemes := rest }) else .error stop
  | _ => .error s.wrongKind

/-- A key that is a text among `names`. -/
def nameKey (names : List String) : Reader := fun s =>
  match s.lexemes with
  | ⟨.string _, _, _⟩ :: _ | ⟨.badString _ _, _, _⟩ :: _ => nameAmong names s
  | _ => .error s.unwelcome

/-- A choice is a name, or an object whose only member has the name and the value `null`. -/
def choice (names : List String) : Reader := fun s =>
  match s.lexemes with
  | ⟨.string _, _, _⟩ :: _ => nameAmong names s
  | ⟨.badString fault _, _, _⟩ :: _ => .error fault
  | ⟨.openBrace, _, _⟩ :: rest => do
    let (name, s) ← nameKey names { s with lexemes := rest }
    let s ← s.colon
    match s.lexemes with
    | ⟨.null, _, _⟩ :: ⟨.closeBrace, _, _⟩ :: rest => .ok (name, { s with lexemes := rest })
    | ⟨.null, _, _⟩ :: rest => .error (Stream.position { s with lexemes := rest })
    | _ => .error s.wrongKind
  | _ => .error s.unwelcome

/-- The elements up to the closing bracket. An element takes at least one token, so `fuel` tokens
are enough. -/
def elements (read : Reader) : Nat → Bool → Stream → Except Nat (List Value × Stream)
  | 0, _, s => .error s.position
  | fuel + 1, isFirst, s => do
    match ← s.nextElement isFirst with
    | none => .ok ([], { s with lexemes := s.lexemes.tail })
    | some s =>
      let (value, s) ← read s
      let (values, s) ← elements read fuel false s
      .ok (value :: values, s)

def list (read : Reader) : Reader := fun s =>
  match s.lexemes with
  | ⟨.openBracket, _, _⟩ :: rest => do
    let (values, s) ← elements read s.lexemes.length true { s with lexemes := rest }
    .ok (.list values, s)
  | _ => .error s.wrongKind

/-- A member of a record. Without a default it has to be there. -/
structure Slot where
  name : String
  default : Option Value
  read : Reader

namespace Slot

def required (name : String) (read : Reader) : Slot :=
  ⟨name, none, read⟩

def flag (name : String) : Slot :=
  ⟨name, some (.flag false), Reader.flag⟩

def optionalText (name : String) : Slot :=
  ⟨name, some .absent, Reader.optional Reader.text⟩

def list (name : String) (read : Reader) : Slot :=
  ⟨name, some (.list []), Reader.list read⟩

end Slot

/-- The closing bracket behind the last slot. -/
def closeArray (s : Stream) : Except Nat Stream :=
  match s.lexemes with
  | ⟨.closeBracket, _, _⟩ :: rest => .ok { s with lexemes := rest }
  | ⟨.comma, _, _⟩ :: rest => .error (Stream.unwelcome { s with lexemes := rest })
  | _ => .error s.unwelcome

/-- A record written as an array of its members. -/
def positional : List Slot → Bool → Stream → Except Nat (List Value × Stream)
  | [], _, s => (closeArray s).map fun s => ([], s)
  | slot :: slots, isFirst, s => do
    match ← s.nextElement isFirst, slot.default with
    | none, none => .error s.unwelcome
    | none, some value =>
      let (values, s) ← positional slots isFirst s
      .ok (value :: values, s)
    | some s, _ =>
      let (value, s) ← slot.read s
      let (values, s) ← positional slots false s
      .ok (value :: values, s)

/-- The members that were found, then the defaults of the others. -/
def complete? (slots : List Slot) (found : List (String × Value)) : Option (List Value) :=
  slots.mapM fun slot => found.lookup slot.name <|> slot.default

/-- A key that comes twice shows when the reader looks behind it. -/
def repeated (s : Stream) : Nat :=
  match s.lexemes with
  | ⟨.closeBrace, _, stop⟩ :: _ => stop
  | _ => s.position

/-- The members of an object up to the closing brace; members that no slot names are skipped. -/
def members (slots : List Slot) :
    Nat → Bool → List (String × Value) → Stream → Except Nat (List Value × Stream)
  | 0, _, _, s => .error s.position
  | fuel + 1, isFirst, found, s => do
    match ← s.nextKey isFirst with
    | none =>
      match complete? slots found with
      | some values => .ok (values, { s with lexemes := s.lexemes.tail })
      | none => .error s.unwelcome
    | some (key, s) =>
      match slots.find? (·.name == key) with
      | none =>
        let s ← (← s.colon).skip
        members slots fuel false found s
      | some slot =>
        if (found.lookup key).isSome then .error (repeated s)
        else
          let (value, s) ← slot.read (← s.colon)
          members slots fuel false ((key, value) :: found) s

def record (slots : List Slot) : Reader := fun s =>
  match s.lexemes with
  | ⟨.openBracket, _, _⟩ :: rest => do
    let (values, s) ← positional slots true { s with lexemes := rest }
    .ok (.list values, s)
  | ⟨.openBrace, _, _⟩ :: rest => do
    let (values, s) ← members slots s.lexemes.length true [] { s with lexemes := rest }
    .ok (.list values, s)
  | _ => .error s.wrongKind

end Reader

def readText (read : Reader) (text : String) : Except Nat Value := do
  let (value, s) ← read (Stream.ofText text)
  if s.lexemes.isEmpty then .ok value else .error s.unwelcome

end DtoGen.Json
