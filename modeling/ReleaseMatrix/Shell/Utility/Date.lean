import ReleaseMatrix.Shell.Utility.Calendar
import ReleaseMatrix.Text
import ReleaseMatrix.Shell.Utility.Basic

namespace ReleaseMatrix.Shell.Utility.Calendar

/-- What a text that tells a moment is made of. -/
inductive Mark
  | digits (cs : List Char)
  | word (name : String)
  | sign (c : Char)
deriving DecidableEq, Repr

namespace Mark

/-- The marks of a text of at most `n` characters. What stands in parentheses is left out. -/
def ofChars : Nat → List Char → List Mark
  | 0, _ | _, [] => []
  | n + 1, c :: cs =>
    if c = ' ' || c = '\t' || c = '\n' || c = ',' then ofChars n cs
    else if c = '(' then ofChars n ((cs.dropWhile (· ≠ ')')).drop 1)
    else if c.isDigit then
      let more := cs.takeWhile Char.isDigit
      digits (c :: more) :: ofChars n (cs.drop more.length)
    else if c.isAlpha then
      let more := cs.takeWhile Char.isAlpha
      let after := cs.drop more.length
      word (String.ofList (c :: more)).toLower :: ofChars n (if after.head? = some '.' then after.tail else after)
    else sign c :: ofChars n cs

end Mark

/-- What a text asks for. Months and years are counted apart, because they are not equally long. -/
structure Asked where
  date? : Option (Int × Nat × Nat)
  /-- Seconds and billionths of a second since the start of the day. -/
  time? : Option (Nat × Nat)
  /-- How many seconds the zone is ahead. -/
  zone? : Option Int
  /-- A day of the week, and how many weeks on. -/
  weekday? : Option (Nat × Int)
  years : Int
  months : Int
  days : Int
  seconds : Int

namespace Asked

def nothing : Asked := ⟨none, none, none, none, 0, 0, 0, 0⟩

/-- The year that digits stand for. Two digits leave the century out. -/
def yearOf (digits : List Char) : Int :=
  let n := Text.numberOf 10 digits
  if digits.length > 2 then n else if n < 69 then 2000 + n else 1900 + n

/-- Whether a word is a name, or its start. -/
def isShort (name : String) (word : String) : Bool :=
  let whole := name.toLower
  word = whole || word = shortName whole || (word = "sept" && whole = "september") ||
    (word = "tues" && whole = "tuesday") || (word = "wednes" && whole = "wednesday") ||
    ((word = "thur" || word = "thurs") && whole = "thursday")

def month? (word : String) : Option Nat :=
  (monthNames.findIdx? (isShort · word)).map (· + 1)

def weekdayOf? (word : String) : Option Nat :=
  weekdayNames.findIdx? (isShort · word)

/-- The request with some units more, if a word is the name of a unit. -/
def addUnits? (a : Asked) (count : Int) (word : String) : Option Asked :=
  let unit := if word.length > 3 && word.back = 's' then String.ofList word.toList.dropLast else word
  match unit with
  | "year" => some { a with years := a.years + count }
  | "month" => some { a with months := a.months + count }
  | "fortnight" => some { a with days := a.days + 14 * count }
  | "week" => some { a with days := a.days + 7 * count }
  | "day" => some { a with days := a.days + count }
  | "hour" => some { a with seconds := a.seconds + 3600 * count }
  | "minute" | "min" => some { a with seconds := a.seconds + 60 * count }
  | "second" | "sec" => some { a with seconds := a.seconds + count }
  | _ => none

/-- The request with all units turned around. -/
def ago (a : Asked) : Asked :=
  { a with years := -a.years, months := -a.months, days := -a.days, seconds := -a.seconds }

/-- The request with a date, of which there may be one only. -/
def withDate (a : Asked) (year : Int) (month day : Nat) : Option Asked :=
  if a.date?.isSome || month < 1 || month > 12 || day < 1 || day > daysIn year month then none
  else some { a with date? := some (year, month, day) }

/-- The request with a time. -/
def withTime (a : Asked) (hour minute second fraction : Nat) : Option Asked :=
  if a.time?.isSome || hour > 23 || minute > 59 || second > 60 then none
  else some { a with time? := some (hour * 3600 + minute * 60 + second, fraction) }

/-- How far ahead a zone is that digits tell. -/
def zoneOf (isBehind : Bool) (digits : List Char) : Int :=
  let n := Text.numberOf 10 digits
  let minutes : Int := if digits.length ≤ 2 then n * 60 else n / 100 * 60 + n % 100
  if isBehind then -60 * minutes else 60 * minutes

/-- Words that stand for numbers of units. -/
def ordinal? (word : String) : Option Int :=
  match word with
  | "last" => some (-1)
  | "this" => some 0
  | "next" | "first" => some 1
  | word =>
    let names := ["third", "fourth", "fifth", "sixth", "seventh", "eighth", "ninth", "tenth", "eleventh", "twelfth"]
    (names.idxOf? word).map fun k => (k : Int) + 3

/-- Billionths of a second after a point. -/
def fractionOf (digits : List Char) : Nat :=
  Text.numberOf 10 ((digits ++ List.replicate 9 '0').take 9)

/-- Turns the hour of a time to the half of the day that a word names. -/
def hourOn? (hour : Nat) (half : String) : Option Nat :=
  if hour < 1 || hour > 12 then none
  else match half with
    | "am" => some (hour % 12)
    | "pm" => some (hour % 12 + 12)
    | _ => none

/-- Reads the marks of a moment. -/
def read (today : Int) : Nat → Asked → List Mark → Option Asked
  | _, a, [] => some a
  | 0, _, _ => none
  | n + 1, a, marks =>
    let num (cs : List Char) : Nat := Text.numberOf 10 cs
    match marks with
    | .digits y :: .sign '-' :: .digits m :: .sign '-' :: .digits d :: .word "t" :: rest
    | .digits y :: .sign '-' :: .digits m :: .sign '-' :: .digits d :: rest => do
      read today n (← a.withDate (yearOf y) (num m) (num d)) rest
    | .digits d :: .sign '-' :: .word m :: .sign '-' :: .digits y :: rest => do
      read today n (← a.withDate (yearOf y) (← month? m) (num d)) rest
    | .digits m :: .sign '/' :: .digits d :: .sign '/' :: .digits y :: rest => do
      let a ← if m.length > 2 then a.withDate (yearOf m) (num d) (num y) else a.withDate (yearOf y) (num m) (num d)
      read today n a rest
    | .digits m :: .sign '/' :: .digits d :: rest => do
      read today n (← a.withDate today (num m) (num d)) rest
    | .digits h :: .sign ':' :: .digits m :: .sign ':' :: .digits s :: .sign '.' :: .digits f :: rest => do
      readZone today n (← a.withTime (num h) (num m) (num s) (fractionOf f)) rest
    | .digits h :: .sign ':' :: .digits m :: .sign ':' :: .digits s :: .word "pm" :: rest => do
      readZone today n (← a.withTime (← hourOn? (num h) "pm") (num m) (num s) 0) rest
    | .digits h :: .sign ':' :: .digits m :: .sign ':' :: .digits s :: .word "am" :: rest => do
      readZone today n (← a.withTime (← hourOn? (num h) "am") (num m) (num s) 0) rest
    | .digits h :: .sign ':' :: .digits m :: .sign ':' :: .digits s :: rest => do
      readZone today n (← a.withTime (num h) (num m) (num s) 0) rest
    | .digits h :: .sign ':' :: .digits m :: .word "pm" :: rest => do
      readZone today n (← a.withTime (← hourOn? (num h) "pm") (num m) 0 0) rest
    | .digits h :: .sign ':' :: .digits m :: .word "am" :: rest => do
      readZone today n (← a.withTime (← hourOn? (num h) "am") (num m) 0 0) rest
    | .digits h :: .sign ':' :: .digits m :: rest => do
      readZone today n (← a.withTime (num h) (num m) 0 0) rest
    | .digits h :: .word "pm" :: rest => do
      readZone today n (← a.withTime (← hourOn? (num h) "pm") 0 0 0) rest
    | .digits h :: .word "am" :: rest => do
      readZone today n (← a.withTime (← hourOn? (num h) "am") 0 0 0) rest
    | .sign sign :: .digits count :: .word unit :: rest => do
      let count : Int := if sign = '-' then -(num count : Int) else num count
      if sign ≠ '-' && sign ≠ '+' then none
      else read today n (← a.addUnits? count unit) rest
    | .digits d :: .word name :: rest =>
      match month? name, rest with
      | some month, .digits y :: rest' => do
        if y.length > 2 && rest'.head? ≠ some (.sign ':') then
          read today n (← a.withDate (yearOf y) month (num d)) rest'
        else read today n (← a.withDate today month (num d)) rest
      | some month, rest => do read today n (← a.withDate today month (num d)) rest
      | none, rest =>
        match a.addUnits? (num d) name with
        | some a => read today n a rest
        | none => readNumber today n a d (.word name :: rest)
    | .digits d :: rest => readNumber today n a d rest
    | .word name :: rest =>
      match name with
      | "now" | "today" => read today n a rest
      | "yesterday" => read today n { a with days := a.days - 1 } rest
      | "tomorrow" => read today n { a with days := a.days + 1 } rest
      | "ago" => read today n a.ago rest
      | "z" | "utc" | "gmt" | "ut" => read today n { a with zone? := some 0 } rest
      | "t" => read today n a rest
      | name =>
        match month? name, rest with
        | some month, .digits d :: .digits y :: rest' =>
          if y.length > 2 && rest'.head? ≠ some (.sign ':') then do
            read today n (← a.withDate (yearOf y) month (num d)) rest'
          else do read today n (← a.withDate today month (num d)) (.digits y :: rest')
        | some month, .digits d :: rest => do read today n (← a.withDate today month (num d)) rest
        | some _, _ => none
        | none, rest =>
          match weekdayOf? name, ordinal? name, rest with
          | some day, _, rest =>
            if a.weekday?.isSome then none else read today n { a with weekday? := some (day, 0) } rest
          | none, some count, .word unit :: rest =>
            match weekdayOf? unit with
            | some day => read today n { a with weekday? := some (day, count) } rest
            | none => do read today n (← a.addUnits? count unit) rest
          | none, _, rest => do read today n (← a.addUnits? 1 name) rest
    | _ => none
where
  /-- Reads the zone after a time, if there is one. -/
  readZone (today : Int) : Nat → Asked → List Mark → Option Asked
    | _, a, [] => some a
    | 0, _, _ => none
    | n + 1, a, marks =>
      match marks with
      | .sign _ :: .digits _ :: .word _ :: _ => read today n a marks
      | .sign '+' :: .digits h :: .sign ':' :: .digits m :: rest =>
        read today n { a with zone? := some (zoneOf false (h ++ m)) } rest
      | .sign '-' :: .digits h :: .sign ':' :: .digits m :: rest =>
        read today n { a with zone? := some (zoneOf true (h ++ m)) } rest
      | .sign '+' :: .digits h :: rest => read today n { a with zone? := some (zoneOf false h) } rest
      | .sign '-' :: .digits h :: rest => read today n { a with zone? := some (zoneOf true h) } rest
      | marks => read today n a marks
  /-- Reads digits that nothing belongs to: a date, a year or a time. -/
  readNumber (today : Int) : Nat → Asked → List Char → List Mark → Option Asked
    | 0, _, _, _ => none
    | n + 1, a, d, rest => do
      let value := Text.numberOf 10 d
      if d.length > 4 then
        let (early, late) := (d.take (d.length - 4), d.drop (d.length - 4))
        let a ← a.withDate (yearOf early) (Text.numberOf 10 (late.take 2)) (Text.numberOf 10 (late.drop 2))
        match rest with
        | .word "t" :: .digits time :: rest => readNumber today n a time rest
        | rest => read today n a rest
      else match a.date? with
        | some (_, month, day) =>
          if a.time?.isSome then
            read today n { a with date? := some (yearOf d, month, day) } rest
          else readZone today n (← time? a d value) rest
        | none => readZone today n (← time? a d value) rest
  time? (a : Asked) (d : List Char) (value : Nat) : Option Asked :=
    if d.length ≤ 2 then a.withTime value 0 0 0 else a.withTime (value / 100) (value % 100) 0 0

/-- The seconds since the start of 1970 that a request asks for, from a moment on. -/
def resolve (a : Asked) (now : Calendar) : Int × Nat :=
  let (year, month, day) := a.date?.getD (now.year, now.month, now.day)
  let isFixed := a.date?.isSome || a.weekday?.isSome || a.time?.isSome
  let (seconds, fraction) := a.time?.getD (if isFixed then (0, 0) else (now.seconds, now.fraction))
  let monthsAll := (year + a.years) * 12 + (month - 1) + a.months
  let (year, month) := (monthsAll.fdiv 12, (monthsAll.fmod 12).toNat + 1)
  let days := daysSince1970 year month 1 + (day - 1) + a.days
  let days := match a.weekday?, a.date? with
    | some (wanted, weeks), none =>
      let today := (days + 4).fmod 7
      let ahead := ((wanted : Int) - today).fmod 7
      days + ahead + 7 * (if weeks > 0 && ahead ≠ 0 then weeks - 1 else weeks)
    | _, _ => days
  (days * secondsPerDay + seconds + a.seconds - a.zone?.getD 0, fraction)

end Asked

/-- The moment that a text tells. -/
def ofText? (now : Calendar) (text : String) : Option Calendar :=
  let trimmed := (text.toList.dropWhile (· = ' ')).reverse.dropWhile (· = ' ') |>.reverse
  match trimmed with
  | '@' :: rest =>
    let (isNegative, rest) := match rest with
      | '-' :: rest => (true, rest)
      | '+' :: rest => (false, rest)
      | rest => (false, rest)
    let digits := rest.takeWhile Char.isDigit
    let seconds : Int := Text.numberOf 10 digits
    if digits.isEmpty then none
    else match rest.drop digits.length with
      | [] => some (ofSeconds (if isNegative then -seconds else seconds) 0)
      | point :: fraction =>
        if (point = '.' || point = ',') && !fraction.isEmpty && fraction.all Char.isDigit then
          let billionths := Asked.fractionOf fraction
          some (if isNegative && billionths > 0 then ofSeconds (-seconds - 1) (1000000000 - billionths)
            else ofSeconds (if isNegative then -seconds else seconds) billionths)
        else none
  | cs =>
    let marks := Mark.ofChars (cs.length + 1) cs
    (Asked.read now.year (2 * marks.length + 2) .nothing marks).map fun a =>
      let (seconds, fraction) := a.resolve now
      ofSeconds seconds fraction

end ReleaseMatrix.Shell.Utility.Calendar

namespace ReleaseMatrix.Shell.Utility

namespace Date

def forms : List OptionForm :=
  Utility.forms "d:f:I::r:Rs:u" [('d', "date"), ('f', "file"), ('r', "reference"), ('R', "rfc-email"), ('s', "set"),
    ('u', "utc"), ('υ', "universal"), ('I', "iso-8601"), ('ρ', "rfc-3339="), ('δ', "debug")]

/-- The precisions of a moment, and how it is laid out to each. -/
def precisions (separator zone : String) : List (Octets × String) :=
  let day := "%Y-%m-%d"
  [("date", day), ("seconds", day ++ separator ++ "%H:%M:%S" ++ zone),
    ("ns", day ++ separator ++ "%H:%M:%S.%N" ++ zone)]

def finePrecisions : List (Octets × String) :=
  [("hours", "%Y-%m-%dT%H%:z"), ("minutes", "%Y-%m-%dT%H:%M%:z")] ++
    (precisions "T" "%:z").map fun (name, layout) => (name, layout.replace ".%N" ",%N")

/-- The layout that options ask for, or what is wrong with them. -/
def layoutOf (g : Given) : Except Octets (Option String) := do
  let asked ← g.options.filterMapM fun (letter, text) => do
    let chosen (name : Octets) (all : List (Octets × String)) (order : List Octets) : Except Octets (Option String) :=
      match choiceOf? (all.map (·.1)) text with
      | some choice => pure ((all.find? (·.1 = choice)).map (·.2))
      | none => throw (noChoice name (order.map fun n => [n]) text)
    match letter with
    | 'R' => pure (some "%a, %d %b %Y %H:%M:%S %z")
    | 'I' =>
      if text.isEmpty then pure (some "%Y-%m-%d")
      else chosen "iso-8601" finePrecisions ["hours", "minutes", "date", "seconds", "ns"]
    | 'ρ' => chosen "rfc-3339" (precisions " " "%:z") ["date", "seconds", "ns"]
    | _ => pure none
  match asked with
  | [] => pure none
  | [layout] => pure (some layout)
  | _ => throw "multiple output formats specified"

end Date

/-- Prints a moment. -/
def date : Work := fun words =>
  withGiven 1 Date.forms words fun g => do
    let refuse (message : Octets) : ShellM Nat := do
      warn message
      pure 1
    match Date.layoutOf g with
    | .error message => if message = "multiple output formats specified" then refuse message else misuse message 1
    | .ok asked? =>
      let sources := g.options.filter fun o => o.1 = 'd' || o.1 = 'r' || o.1 = 'f'
      let kinds := (sources.map (·.1)).eraseDups
      if kinds.length > 1 then
        misuse "the options to specify dates for printing are mutually exclusive" 1
      else match g.operands with
      | _ :: extra :: _ => misuse ("extra operand " ++ quoted extra) 1
      | operands =>
        let operand? := operands.head?
        let layout? := operand?.bind fun text => if text.toList.head? = some '+' then some text.toList.tail else none
        if operand?.isSome && layout?.isNone && !sources.isEmpty then
          misuse ("the argument " ++ quoted (operand?.getD "") ++ " lacks a leading '+';\n" ++
            "when using an option to specify date(s), any non-option\n" ++
            "argument must be a format string beginning with '+'") 1
        else if operand?.isSome && layout?.isNone then
          refuse ("invalid date " ++ quoted (operand?.getD ""))
        else if asked?.isSome && layout?.isSome then refuse "multiple output formats specified"
        else
          let layout := (layout?.map String.ofList <|> asked?).getD "%a %b %e %H:%M:%S %Z %Y"
          match sources.getLast? with
          | some ('r', path) =>
            match ← look path with
            | .ok _ => print (Calendar.present.inLayout layout ++ "\n")
            | .error fault => refuse (quotedIfOdd path ++ ": " ++ fault.text)
          | some ('d', text) =>
            match Calendar.ofText? .present text with
            | some c => print (c.inLayout layout ++ "\n")
            | none => refuse ("invalid date " ++ quoted text)
          | _ => print (Calendar.present.inLayout layout ++ "\n")

end ReleaseMatrix.Shell.Utility
