namespace DtoGen

structure ByteRange where
  first : UInt8
  last : UInt8
deriving DecidableEq, Repr

/-- A place between bytes, by the words next to it. -/
inductive WordEdge
  | either
  | neither
  | start
  | stop
deriving DecidableEq, Repr

inductive Regex
  | empty
  | set (isNegated : Bool) (ranges : List ByteRange)
  | lineStart
  | lineEnd
  /-- The start and the end of each line in a text of several. -/
  | rowStart
  | rowEnd
  | textStart
  | textEnd
  | wordEdge (edge : WordEdge)
  | sequence (first second : Regex)
  | either (first second : Regex)
  | repeated (body : Regex) (least : Nat) (most : Option Nat)
  | group (number : Nat) (body : Regex)
  | again (number : Nat)
  /-- A repetition that rather takes less. -/
  | sparing (body : Regex) (least : Nat) (most : Option Nat)
  /-- What follows, or what stands in front, without being taken. -/
  | ahead (isNegated : Bool) (body : Regex)
  | back (isNegated : Bool) (body : Regex)
  /-- The first match of the body, and no other one. -/
  | settled (body : Regex)
deriving Repr

namespace Regex

/-- A place in a line: the bytes behind it, nearest first, those ahead, and what the groups have
taken. -/
structure Place where
  behind : List UInt8
  ahead : List UInt8
  groups : List (Nat × List UInt8)

namespace Place

def position (p : Place) : Nat :=
  p.behind.length

def advance (count : Nat) (p : Place) : Place :=
  { p with behind := (p.ahead.take count).reverse ++ p.behind, ahead := p.ahead.drop count }

/-- The bytes between an earlier place and this one. -/
def since (start p : Place) : List UInt8 :=
  (p.behind.take (p.position - start.position)).reverse

end Place

def contains (isNegated : Bool) (ranges : List ByteRange) (b : UInt8) : Bool :=
  (ranges.any fun r => r.first ≤ b && b ≤ r.last) != isNegated

def wordRanges : List ByteRange :=
  [⟨48, 57⟩, ⟨65, 90⟩, ⟨95, 95⟩, ⟨97, 122⟩]

def isWordByte (b : UInt8) : Bool :=
  contains false wordRanges b

def isAt (edge : WordEdge) (p : Place) : Bool :=
  let before := p.behind.head?.any isWordByte
  let after := p.ahead.head?.any isWordByte
  match edge with
  | .either => before != after
  | .neither => before == after
  | .start => !before && after
  | .stop => before && !after

/-- Where repetitions of a step can end, longer ones first. A repetition that takes nothing is not
repeated. The first argument bounds the repetitions. -/
def repeatEnds (step : Place → List Place) : Nat → Nat → Option Nat → Place → List Place
  | 0, _, _, p => [p]
  | bound + 1, least, most, p =>
    let further :=
      if most = some 0 then []
      else (step p).flatMap fun q =>
        if q.position = p.position then (if least = 0 then [] else [q])
        else repeatEnds step bound (least - 1) (most.map (· - 1)) q
    if least = 0 then further ++ [p] else further

/-- Where repetitions of a step can end, shorter ones first. -/
def sparingEnds (step : Place → List Place) : Nat → Nat → Option Nat → Place → List Place
  | 0, _, _, p => [p]
  | bound + 1, least, most, p =>
    let further :=
      if most = some 0 then []
      else (step p).flatMap fun q =>
        if q.position = p.position then []
        else sparingEnds step bound (least - 1) (most.map (· - 1)) q
    if least = 0 then p :: further else further

/-- The place so many bytes before. -/
def Place.retreat (count : Nat) (p : Place) : Place :=
  { p with behind := p.behind.drop count, ahead := (p.behind.take count).reverse ++ p.ahead }

/-- Where a match that starts at a place can end. -/
def ends : Regex → Place → List Place
  | empty, p => [p]
  | set isNegated ranges, p =>
    if p.ahead.head?.any (contains isNegated ranges) then [p.advance 1] else []
  | lineStart, p | textStart, p => if p.behind.isEmpty then [p] else []
  | lineEnd, p | textEnd, p => if p.ahead.isEmpty then [p] else []
  | rowStart, p => if p.behind.head?.all (· == 10) then [p] else []
  | rowEnd, p => if p.ahead.head?.all (· == 10) then [p] else []
  | wordEdge edge, p => if isAt edge p then [p] else []
  | sequence first second, p => (ends first p).flatMap (ends second)
  | either first second, p => ends first p ++ ends second p
  | repeated body least most, p => repeatEnds (ends body) (p.ahead.length + 1 + least) least most p
  | group number body, p =>
    (ends body p).map fun q =>
      { q with groups := (number, p.since q) :: q.groups.filter fun g => g.1 != number }
  | again number, p =>
    let taken := (p.groups.lookup number).getD []
    if taken.isPrefixOf p.ahead then [p.advance taken.length] else []
  | sparing body least most, p => sparingEnds (ends body) (p.ahead.length + 1 + least) least most p
  | ahead isNegated body, p =>
    match ends body p with
    | q :: _ => if isNegated then [] else [{ p with groups := q.groups }]
    | [] => if isNegated then [p] else []
  | back isNegated body, p =>
    let isBehind := (List.range (p.position + 1)).any fun count =>
      (ends body (p.retreat count)).any fun q => q.position == p.position
    if isBehind != isNegated then [p] else []
  | settled body, p => (ends body p).take 1

def longest (r : Regex) (p : Place) : Option Place :=
  (ends r p).foldl
    (fun best q =>
      match best with
      | some b => if b.position < q.position then some q else some b
      | none => some q)
    none

/-- The first place from here on where something matches, and the end of the match as it is chosen.
The second argument bounds the search. -/
def search (choose : Place → Option Place) : Nat → Place → Option (Place × Place)
  | 0, _ => none
  | bound + 1, p =>
    match choose p with
    | some q => some (p, q)
    | none => if p.ahead.isEmpty then none else search choose bound (p.advance 1)

def find (r : Regex) (p : Place) : Option (Place × Place) :=
  search (longest r) (p.ahead.length + 1) p

/-- The first match in the order of the expression. -/
def findFirst (r : Regex) (p : Place) : Option (Place × Place) :=
  search (fun p => (ends r p).head?) (p.ahead.length + 1) p

def matchesLine (r : Regex) (line : List UInt8) : Bool :=
  (find r ⟨[], line, []⟩).isSome

/-- The part of a range among the bytes of another, moved by a distance. -/
def moved (first last distance : UInt8) (r : ByteRange) : List ByteRange :=
  let low := max r.first first
  let high := min r.last last
  if low ≤ high then [⟨low + distance, high + distance⟩] else []

/-- The ranges together with the letters in the other case. -/
def bothCases (ranges : List ByteRange) : List ByteRange :=
  ranges ++ ranges.flatMap (moved 65 90 32) ++ ranges.flatMap (moved 97 122 224)

def ignoringCase : Regex → Regex
  | set isNegated ranges => set isNegated (bothCases ranges)
  | sequence first second => sequence first.ignoringCase second.ignoringCase
  | either first second => either first.ignoringCase second.ignoringCase
  | repeated body least most => repeated body.ignoringCase least most
  | group number body => group number body.ignoringCase
  | sparing body least most => sparing body.ignoringCase least most
  | ahead isNegated body => ahead isNegated body.ignoringCase
  | back isNegated body => back isNegated body.ignoringCase
  | settled body => settled body.ignoringCase
  | r => r

/-- The expression with line starts and ends at every line of a text. -/
def rowWise : Regex → Regex
  | lineStart => rowStart
  | lineEnd => rowEnd
  | sequence first second => sequence first.rowWise second.rowWise
  | either first second => either first.rowWise second.rowWise
  | repeated body least most => repeated body.rowWise least most
  | group number body => group number body.rowWise
  | r => r

/-- How many groups there are. -/
def groupCount : Regex → Nat
  | sequence first second | either first second => first.groupCount + second.groupCount
  | repeated body _ _ | sparing body _ _ | ahead _ body | back _ body | settled body =>
    body.groupCount
  | group _ body => body.groupCount + 1
  | _ => 0

/-- The groups that are named outside of their own number. -/
def references : Regex → List Nat
  | again number => [number]
  | sequence first second | either first second => first.references ++ second.references
  | repeated body _ _ | sparing body _ _ | group _ body => body.references
  | _ => []

end Regex

end DtoGen
