namespace DtoGen

structure Moment where
  year : Int
  /-- Counted from one. -/
  month : Nat
  day : Nat
  hour : Nat
  minute : Nat
  second : Nat
  /-- Sunday is zero. -/
  weekday : Nat
  /-- The first day of the year is zero. -/
  dayOfYear : Nat
  /-- The seconds since the start of 1970. -/
  stamp : Int
deriving DecidableEq, Repr

namespace Calendar

def isLeap (year : Int) : Bool :=
  year % 4 == 0 && (year % 100 != 0 || year % 400 == 0)

def monthLengths (year : Int) : List Nat :=
  [31, if isLeap year then 29 else 28, 31, 30, 31, 30, 31, 31, 30, 31, 30, 31]

def daysBefore (year : Int) : Int :=
  let y := year - 1
  let leaps (y : Int) : Int := Int.fdiv y 4 - Int.fdiv y 100 + Int.fdiv y 400
  365 * (year - 1970) + leaps y - leaps 1969

def daysTo (year : Int) (month day : Nat) : Int :=
  let months : Nat := ((monthLengths year).take (month - 1)).foldl (· + ·) 0
  daysBefore year + months + day - 1

/-- The month and the day in it, by what is left of a year. -/
def monthOf : Nat → List Nat → Nat → Nat × Nat
  | month, length :: lengths, days =>
    if days < length then (month, days + 1) else monthOf (month + 1) lengths (days - length)
  | month, [], days => (month, days + 1)

/-- The year that a day is in. The average length of a year gives a guess that is off by one at
most. -/
def yearOf (days : Int) : Int :=
  let guess := 1970 + Int.fdiv (days * 400) 146097
  if days < daysBefore guess then guess - 1
  else if daysBefore (guess + 1) ≤ days then guess + 1
  else guess

def ofStamp (stamp : Int) : Moment :=
  let days := Int.fdiv stamp 86400
  let seconds := (stamp - days * 86400).toNat
  let year := yearOf days
  let dayOfYear := (days - daysBefore year).toNat
  let (month, day) := monthOf 1 (monthLengths year) dayOfYear
  { year, month, day
    hour := seconds / 3600
    minute := seconds / 60 % 60
    second := seconds % 60
    weekday := ((days + 4) % 7).toNat
    dayOfYear
    stamp }

def stampOf (year : Int) (month day hour minute second : Nat) : Int :=
  daysTo year month day * 86400 + (hour * 3600 + minute * 60 + second : Nat)

def dayNames : List String :=
  ["Sunday", "Monday", "Tuesday", "Wednesday", "Thursday", "Friday", "Saturday"]

def monthNames : List String :=
  [ "January", "February", "March", "April", "May", "June", "July", "August", "September",
    "October", "November", "December" ]

def shortName (name : String) : String :=
  String.ofList (name.toList.take 3)

def padded (fill : Char) (width : Nat) (i : Int) : String :=
  let digits := toString i.natAbs
  let sign := if i < 0 then "-" else ""
  sign ++ String.ofList (List.replicate (width - sign.length - digits.length) fill) ++ digits

def zeros (width : Nat) (i : Nat) : String :=
  padded '0' width i

def dialHour (m : Moment) : Nat :=
  if m.hour % 12 = 0 then 12 else m.hour % 12

def weekFrom (first : Nat) (m : Moment) : Nat :=
  (m.dayOfYear + 7 - (m.weekday + 7 - first) % 7) / 7

/-- The week in which a year has most of its days, and that year. -/
def longWeek (m : Moment) : Int × Nat :=
  let weekday := (m.weekday + 6) % 7
  let thursday := ofStamp (m.stamp + (3 - (weekday : Int)) * 86400)
  (thursday.year, thursday.dayOfYear / 7 + 1)

def dateText (m : Moment) : String :=
  zeros 2 m.month ++ "/" ++ zeros 2 m.day ++ "/" ++ zeros 2 (m.year % 100).toNat

def timeText (m : Moment) : String :=
  ":".intercalate [zeros 2 m.hour, zeros 2 m.minute, zeros 2 m.second]

def name (names : List String) (n : Nat) : String :=
  names.getD n "?"

def halfOfDay (m : Moment) : String :=
  if m.hour < 12 then "AM" else "PM"

/-- What a letter behind a percent sign stands for, and the width and the fill of its number. -/
def field? (m : Moment) (letter : Char) : Option (String ⊕ (Int × Nat × Char)) :=
  let number (i : Int) (width : Nat) (fill : Char) : Option (String ⊕ (Int × Nat × Char)) :=
    some (.inr (i, width, fill))
  match letter with
  | 'Y' => number m.year 1 '0'
  | 'C' => number (Int.fdiv m.year 100) 2 '0'
  | 'y' => number (m.year % 100) 2 '0'
  | 'm' => number m.month 2 '0'
  | 'd' => number m.day 2 '0'
  | 'e' => number m.day 2 ' '
  | 'H' => number m.hour 2 '0'
  | 'k' => number m.hour 2 ' '
  | 'I' => number (dialHour m) 2 '0'
  | 'l' => number (dialHour m) 2 ' '
  | 'M' => number m.minute 2 '0'
  | 'S' => number m.second 2 '0'
  | 'N' => number 0 9 '0'
  | 'j' => number (m.dayOfYear + 1) 3 '0'
  | 's' => number m.stamp 1 '0'
  | 'u' => number (if m.weekday = 0 then 7 else m.weekday) 1 '0'
  | 'w' => number m.weekday 1 '0'
  | 'q' => number ((m.month + 2) / 3) 1 '0'
  | 'U' => number (weekFrom 0 m) 2 '0'
  | 'W' => number (weekFrom 1 m) 2 '0'
  | 'V' => number (longWeek m).2 2 '0'
  | 'G' => number (longWeek m).1 1 '0'
  | 'g' => number ((longWeek m).1 % 100) 2 '0'
  | 'A' => some (.inl (name dayNames m.weekday))
  | 'a' => some (.inl (shortName (name dayNames m.weekday)))
  | 'B' => some (.inl (name monthNames (m.month - 1)))
  | 'b' | 'h' => some (.inl (shortName (name monthNames (m.month - 1))))
  | 'p' => some (.inl (halfOfDay m))
  | 'P' => some (.inl (halfOfDay m).toLower)
  | 'D' | 'x' => some (.inl (dateText m))
  | 'T' | 'X' => some (.inl (timeText m))
  | 'R' => some (.inl (zeros 2 m.hour ++ ":" ++ zeros 2 m.minute))
  | 'r' =>
    some (.inl (":".intercalate [zeros 2 (dialHour m), zeros 2 m.minute, zeros 2 m.second] ++ " "
      ++ halfOfDay m))
  | 'F' => some (.inl ("-".intercalate [toString m.year, zeros 2 m.month, zeros 2 m.day]))
  | 'c' =>
    some (.inl (" ".intercalate
      [shortName (name dayNames m.weekday), shortName (name monthNames (m.month - 1)),
        padded ' ' 2 m.day, timeText m, toString m.year]))
  | 'z' => some (.inl "+0000")
  | 'Z' => some (.inl "UTC")
  | 'n' => some (.inl "\n")
  | 't' => some (.inl "\t")
  | '%' => some (.inl "%")
  | _ => none

/-- A field with the flags and the width that stand in front of its letter. -/
def fieldText (flags : List Char) (width : Nat) : String ⊕ (Int × Nat × Char) → String
  | .inl text =>
    let text := if flags.contains '^' then text.toUpper else text
    let fill := if flags.contains '0' then '0' else ' '
    String.ofList (List.replicate (width - text.length) fill) ++ text
  | .inr (i, least, fill) =>
    if flags.contains '-' then toString i
    else
      let fill := if flags.contains '_' then ' ' else if flags.contains '0' then '0' else fill
      padded fill (max least width) i

/-- A moment in the words of a format. The first argument bounds the length of the format. -/
def formatFrom (m : Moment) : Nat → List Char → List Char
  | 0, _ | _, [] => []
  | bound + 1, '%' :: cs =>
    let flags := cs.takeWhile ['-', '_', '0', '^', '#'].contains
    let digits := (cs.drop flags.length).takeWhile Char.isDigit
    let rest := cs.drop (flags.length + digits.length)
    let rest := if rest.head?.any ['E', 'O'].contains && rest.length > 1 then rest.tail else rest
    let zone := rest.takeWhile (· == ':')
    match rest.drop zone.length with
    | letter :: behind =>
      match field? m letter with
      | some field =>
        let text :=
          if letter = 'z' && zone.length = 1 then "+00:00"
          else if letter = 'z' && zone.length = 2 then "+00:00:00"
          else fieldText flags ((String.ofList digits).toNat?.getD 0) field
        text.toList ++ formatFrom m bound behind
      | none => '%' :: formatFrom m bound cs
    | [] => '%' :: formatFrom m bound cs
  | bound + 1, c :: cs => c :: formatFrom m bound cs

def format (text : String) (m : Moment) : String :=
  String.ofList (formatFrom m (text.length + 1) text.toList)

end Calendar

end DtoGen
