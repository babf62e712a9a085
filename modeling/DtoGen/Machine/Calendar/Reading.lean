import DtoGen.Machine.Calendar

namespace DtoGen.Calendar

/-- What has been read of a point in time. -/
structure Wording where
  date : Option (Int × Nat × Nat)
  time : Option (Nat × Nat × Nat)
  /-- Minutes east of Greenwich. -/
  zone : Option Int
  weekday : Option Nat
  months : Int
  days : Int
  seconds : Int
  /-- Whether the time of the day of the present counts where none is given. -/
  keepsTime : Bool
deriving DecidableEq, Repr

namespace Wording

def start : Wording :=
  ⟨none, none, none, none, 0, 0, 0, true⟩

/-- The point in time, given the present. Months that are too short run over. -/
def stamp (now : Int) (w : Wording) : Int :=
  let here := ofStamp now
  let (year, month, day) := w.date.getD (here.year, here.month, here.day)
  let (hour, minute, second) :=
    match w.time with
    | some time => time
    | none =>
      if w.date.isSome || w.weekday.isSome || !w.keepsTime then (0, 0, 0)
      else (here.hour, here.minute, here.second)
  let total := year * 12 + (month : Int) - 1 + w.months
  let year := Int.fdiv total 12
  let month := (total - year * 12).toNat + 1
  let midnight := daysTo year month 1 * 86400 + ((day : Int) - 1) * 86400
  let weekday := (ofStamp midnight).weekday
  let ahead : Int :=
    match w.weekday, w.date with
    | some wanted, none => ((wanted + 7 - weekday) % 7 : Nat)
    | _, _ => 0
  midnight + (ahead + w.days) * 86400 + (hour * 3600 + minute * 60 + second : Nat)
    - w.zone.getD 0 * 60 + w.seconds

end Wording

def natural? (cs : List Char) : Option Nat :=
  if cs.isEmpty then none else (String.ofList cs).toNat?

def validDate? (year : Int) (month day : Nat) : Option (Int × Nat × Nat) :=
  let length := (monthLengths year)[month - 1]?
  if month = 0 || day = 0 || length.all (· < day) then none else some (year, month, day)

/-- A year of two digits belongs to the years around now. -/
def fullYear (text : String) (n : Nat) : Int :=
  if 2 < text.length then n else if n < 69 then n + 2000 else n + 1900

/-- A date such as `2020-01-31` or `1/31/2020` or `20200131`. -/
def date? (text : String) : Option (Int × Nat × Nat) :=
  match text.splitOn "-", text.splitOn "/" with
  | [y, m, d], _ => do
    validDate? (fullYear y (← natural? y.toList)) (← natural? m.toList) (← natural? d.toList)
  | _, [a, b, c] => do
    if 2 < a.length then
      validDate? (← natural? a.toList) (← natural? b.toList) (← natural? c.toList)
    else validDate? (fullYear c (← natural? c.toList)) (← natural? a.toList) (← natural? b.toList)
  | _, _ =>
    if text.length = 8 && text.toList.all Char.isDigit then do
      validDate? (← natural? (text.toList.take 4)) (← natural? ((text.toList.drop 4).take 2))
        (← natural? (text.toList.drop 6))
    else none

def isMonthWord (text : String) : Option Nat :=
  let text := text.toLower
  let fits (name : String) : Bool :=
    text == name.toLower || text == (shortName name).toLower
      || (text == "sept" && name == "September")
  (monthNames.findIdx? fits).map (· + 1)

def isDayWord (text : String) : Option Nat :=
  let text := text.toLower
  dayNames.findIdx? fun name => text == name.toLower || text == (shortName name).toLower

/-- A zone such as `Z`, `UTC` or `+0200`. -/
def zone? (text : String) : Option Int :=
  let names : List (String × Int) :=
    [ ("z", 0), ("utc", 0), ("gmt", 0), ("ut", 0), ("est", -300), ("edt", -240), ("cst", -360),
      ("cdt", -300), ("mst", -420), ("mdt", -360), ("pst", -480), ("pdt", -420), ("cet", 60),
      ("cest", 120) ]
  match names.lookup text.toLower, text.toList with
  | some minutes, _ => some minutes
  | none, sign :: cs =>
    if sign = '+' || sign = '-' then
      let ds := cs.filter (· != ':')
      let minutes : Option Nat :=
        match ds.length with
        | 1 | 2 => (natural? ds).map (· * 60)
        | 4 => do return (← natural? (ds.take 2)) * 60 + (← natural? (ds.drop 2))
        | _ => none
      minutes.map fun n => if sign = '-' then -(n : Int) else n
    else none
  | none, [] => none

/-- A time such as `12:30:05`, with a half of the day or a zone behind it perhaps. -/
def time? (text : String) : Option ((Nat × Nat × Nat) × Option Int) :=
  let cs := text.toList
  let own := cs.takeWhile fun c => c.isDigit || c == ':' || c == '.'
  let rest := String.ofList (cs.drop own.length)
  let half : Option Nat :=
    match rest.toLower with
    | "am" | "a.m." => some 0
    | "pm" | "p.m." => some 12
    | _ => none
  let parts := (String.ofList own).splitOn ":"
  let second? (text : String) : Option Nat := natural? (text.toList.takeWhile Char.isDigit)
  let read : Option (Nat × Nat × Nat) :=
    match parts with
    | [h] => if half.isSome then (natural? h.toList).map fun h => (h, 0, 0) else none
    | [h, m] => do return (← natural? h.toList, ← natural? m.toList, 0)
    | [h, m, s] => do return (← natural? h.toList, ← natural? m.toList, ← second? s)
    | _ => none
  match read with
  | none => none
  | some (h, m, s) =>
    let h := half.elim h fun n => h % 12 + n
    let zone := if half.isSome || rest = "" then none else zone? rest
    if 23 < h || 59 < m || 60 < s || (half.isNone && rest != "" && zone.isNone) then none
    else some ((h, m, s), zone)

def ordinals : List (String × Int) :=
  [ ("last", -1), ("this", 0), ("next", 1), ("first", 1), ("third", 3), ("fourth", 4), ("fifth", 5),
    ("sixth", 6), ("seventh", 7), ("eighth", 8), ("ninth", 9), ("tenth", 10), ("eleventh", 11),
    ("twelfth", 12) ]

def addUnits? (count : Int) (unit : String) (w : Wording) : Option Wording :=
  let unit := unit.toLower
  let unit := if unit.endsWith "s" then (unit.dropEnd 1).toString else unit
  match unit with
  | "year" => some { w with months := w.months + 12 * count }
  | "month" => some { w with months := w.months + count }
  | "fortnight" => some { w with days := w.days + 14 * count }
  | "week" => some { w with days := w.days + 7 * count }
  | "day" => some { w with days := w.days + count }
  | "hour" => some { w with seconds := w.seconds + 3600 * count }
  | "minute" | "min" => some { w with seconds := w.seconds + 60 * count }
  | "second" | "sec" => some { w with seconds := w.seconds + count }
  | _ => none

def count? (text : String) : Option Int :=
  match text.toList with
  | '+' :: ds => (natural? ds).map fun n => (n : Int)
  | '-' :: ds => (natural? ds).map fun n => -(n : Int)
  | ds => (natural? ds).map fun n => (n : Int)

/-- Reads one word, or several that belong together. -/
def step? (w : Wording) : List String → Option (Wording × List String)
  | [] => none
  | word :: rest =>
    let lower := word.toLower
    let relative (count : Int) (unit : String) (rest : List String) :
        Option (Wording × List String) :=
      match rest with
      | "ago" :: rest => (addUnits? (-count) unit w).map fun w => (w, rest)
      | rest => (addUnits? count unit w).map fun w => (w, rest)
    let byUnit : Option (Wording × List String) :=
      match (count? word).or (ordinals.lookup lower), rest with
      | some count, unit :: rest => relative count unit rest
      | _, _ => none
    let bySign : Option (Wording × List String) :=
      match word, rest with
      | "+", n :: unit :: rest => (count? n).bind fun count => relative count unit rest
      | "-", n :: unit :: rest => (count? n).bind fun count => relative (-count) unit rest
      | _, _ => none
    let byMonth : Option (Wording × List String) :=
      match isMonthWord word, rest with
      | some month, day :: year :: rest =>
        match natural? day.toList, natural? year.toList with
        | some d, some y => (validDate? (fullYear year y) month d).map fun date =>
          ({ w with date := some date }, rest)
        | some d, none => some ({ w with date := some (1970, month, d) }, year :: rest)
        | none, _ => none
      | _, _ => none
    let byDay : Option (Wording × List String) :=
      match natural? word.toList, rest with
      | some d, month :: year :: rest => do
        let month ← isMonthWord month
        let date ← validDate? (fullYear year (← natural? year.toList)) month d
        return ({ w with date := some date }, rest)
      | _, _ => none
    let plain : Option Wording :=
      match lower with
      | "now" | "today" => some w
      | "tomorrow" => some { w with days := w.days + 1 }
      | "yesterday" => some { w with days := w.days - 1 }
      | "midnight" => some { w with time := some (0, 0, 0) }
      | "noon" => some { w with time := some (12, 0, 0) }
      | _ =>
        match date? word, time? word, zone? word, isDayWord word with
        | some date, _, _, _ => some { w with date := some date }
        | none, some (time, zone), _, _ => some { w with time := some time, zone := zone.or w.zone }
        | none, none, some zone, _ => some { w with zone := some zone }
        | none, none, none, some day => some { w with weekday := some day }
        | none, none, none, none => none
    match byUnit, bySign, byMonth, byDay, plain with
    | some result, _, _, _, _ | none, some result, _, _, _ | none, none, some result, _, _
    | none, none, none, some result, _ => some result
    | none, none, none, none, some w => some (w, rest)
    | none, none, none, none, none => none

/-- The first argument bounds the number of words. -/
def wordingFrom? : Nat → Wording → List String → Option Wording
  | 0, w, _ | _, w, [] => some w
  | bound + 1, w, words => do
    let (w, rest) ← step? w words
    wordingFrom? bound w rest

/-- A date and a time with a letter between them as two words. -/
def parted (word : String) : List String :=
  match word.splitOn "T" with
  | [date, time] =>
    if (date? date).isSome && time.toList.head?.any Char.isDigit then [date, time] else [word]
  | _ => [word]

def joinHalves : List String → List String
  | time :: half :: rest =>
    if ["am", "pm", "a.m.", "p.m."].contains half.toLower then (time ++ half) :: joinHalves rest
    else time :: joinHalves (half :: rest)
  | words => words

/-- The point in time that a text means, given the present. -/
def stamp? (now : Int) (text : String) : Option Int :=
  match text.toList with
  | '@' :: cs =>
    let whole := cs.takeWhile (· != '.')
    count? (String.ofList whole)
  | cs =>
    let words := ((String.ofList (cs.map fun c => if c = ',' then ' ' else c)).splitOn " ").filter
      (· != "")
    let words := joinHalves (words.flatMap parted)
    (wordingFrom? (words.length + 1) .start words).map fun w =>
      ({ w with keepsTime := !words.isEmpty }).stamp now

end DtoGen.Calendar
