namespace ReleaseMatrix.Shell.Utility

/-- A day and a time of it, in the calendar that is in use everywhere and the time that has no zone. Months and
days count from one. -/
structure Calendar where
  year : Int
  month : Nat
  day : Nat
  /-- The seconds since the start of the day. -/
  seconds : Nat
  /-- Billionths of a second. -/
  fraction : Nat
deriving DecidableEq, Repr

namespace Calendar

def secondsPerDay : Nat := 86400

/-- How many days a day lies after the first one of 1970. Years are counted from March here, so that a leap day
ends one. -/
def daysSince1970 (year : Int) (month day : Nat) : Int :=
  let y := if month ≤ 2 then year - 1 else year
  let era := y.fdiv 400
  let yearOfEra := y - era * 400
  let shifted : Int := if month > 2 then month - 3 else month + 9
  let dayOfYear := (153 * shifted + 2).fdiv 5 + day - 1
  let dayOfEra := yearOfEra * 365 + yearOfEra.fdiv 4 - yearOfEra.fdiv 100 + dayOfYear
  era * 146097 + dayOfEra - 719468

/-- The year, the month and the day of the month of a day that lies some days after the first one of 1970. -/
def dateOfDays (days : Int) : Int × Nat × Nat :=
  let z := days + 719468
  let era := z.fdiv 146097
  let dayOfEra := z - era * 146097
  let yearOfEra := (dayOfEra - dayOfEra.fdiv 1460 + dayOfEra.fdiv 36524 - dayOfEra.fdiv 146096).fdiv 365
  let dayOfYear := dayOfEra - (365 * yearOfEra + yearOfEra.fdiv 4 - yearOfEra.fdiv 100)
  let shifted := (5 * dayOfYear + 2).fdiv 153
  let day := dayOfYear - (153 * shifted + 2).fdiv 5 + 1
  let month := if shifted < 10 then shifted + 3 else shifted - 9
  (yearOfEra + era * 400 + (if month ≤ 2 then 1 else 0), month.toNat, day.toNat)

/-- The moment some seconds after the start of 1970. -/
def ofSeconds (seconds : Int) (fraction : Nat) : Calendar :=
  let days := seconds.fdiv secondsPerDay
  let (year, month, day) := dateOfDays days
  ⟨year, month, day, (seconds - days * secondsPerDay).toNat, fraction⟩

/-- The moment at which all programs run. -/
def present : Calendar :=
  ofSeconds 1700000000 0

def days (c : Calendar) : Int :=
  daysSince1970 c.year c.month c.day

/-- The seconds since the start of 1970. -/
def toSeconds (c : Calendar) : Int :=
  c.days * secondsPerDay + c.seconds

def hour (c : Calendar) : Nat := c.seconds / 3600

def minute (c : Calendar) : Nat := c.seconds / 60 % 60

def second (c : Calendar) : Nat := c.seconds % 60

/-- The day of the week, of which Sunday is zero. -/
def weekday (c : Calendar) : Nat :=
  ((c.days + 4).fmod 7).toNat

/-- The day of the year, counted from zero. -/
def yearDay (c : Calendar) : Nat :=
  (c.days - daysSince1970 c.year 1 1).toNat

/-- The number of the week in its year, if weeks start on a day and those before the first such day are none. -/
def weekOfYear (c : Calendar) (firstWeekday : Nat) : Nat :=
  (c.yearDay + 7 - (c.weekday + 7 - firstWeekday) % 7) / 7

def isLeap (year : Int) : Bool :=
  year.fmod 4 = 0 && (year.fmod 100 ≠ 0 || year.fmod 400 = 0)

/-- How many days a month has. -/
def daysIn (year : Int) (month : Nat) : Nat :=
  match month with
  | 2 => if isLeap year then 29 else 28
  | 4 | 6 | 9 | 11 => 30
  | _ => 31

/-- The year and the number of the week that starts on Monday and belongs to the year that has most of it. -/
def standardWeek (c : Calendar) : Int × Nat :=
  let monday := (c.weekday + 6) % 7
  let thursday := c.days - monday + 3
  let (year, _, _) := dateOfDays thursday
  (year, ((thursday - daysSince1970 year 1 1).fdiv 7).toNat + 1)

def weekdayNames : List String :=
  ["Sunday", "Monday", "Tuesday", "Wednesday", "Thursday", "Friday", "Saturday"]

def monthNames : List String :=
  ["January", "February", "March", "April", "May", "June", "July", "August", "September", "October", "November",
    "December"]

def shortName (name : String) : String :=
  String.ofList (name.toList.take 3)

end Calendar

end ReleaseMatrix.Shell.Utility

namespace ReleaseMatrix.Shell.Utility.Calendar

/-- How one piece of a moment is laid out: the sign that fills it up, the width that is asked for, and whether
its letters are made large, or of the other size. -/
structure Style where
  fill? : Option Char
  width? : Option Nat
  isUpper : Bool
  isSwapped : Bool

namespace Style

def plain : Style := ⟨none, none, false, false⟩

/-- Fills a text up at its start. -/
def widen (fill : Char) (width : Nat) (text : String) : String :=
  String.ofList (List.replicate (width - text.length) fill) ++ text

/-- A number with a usual fill and width. -/
def number (s : Style) (fill : Char) (width : Nat) (n : Int) : String :=
  let fill := s.fill?.getD fill
  let width := s.width?.getD width
  let digits := toString n.natAbs
  if fill = '-' then toString n
  else if n < 0 then
    if fill = '0' then "-" ++ widen '0' (width - 1) digits else widen ' ' width ("-" ++ digits)
  else widen (if fill = '0' || fill = '+' then '0' else ' ') width digits

/-- A text of letters. -/
def text (s : Style) (letters : String) : String :=
  let letters := if s.isUpper then letters.toUpper else letters
  match s.width?, s.fill? with
  | some width, some '0' => widen '0' width letters
  | some _, some '-' => letters
  | some width, _ => widen ' ' width letters
  | none, _ => letters

end Style

/-- The hour on a dial. -/
def dialHour (c : Calendar) : Nat :=
  let hour := c.hour % 12
  if hour = 0 then 12 else hour

/-- A piece that a letter stands for, in a style. -/
def piece? (c : Calendar) (s : Style) (letter : Char) : Option String :=
  let name (all : List String) (k : Nat) : String := all[k]?.getD ""
  let named (text : String) : String := { s with isUpper := s.isUpper || s.isSwapped }.text text
  match letter with
  | '%' => some (s.text "%")
  | 'n' => some (s.text "\n")
  | 't' => some (s.text "\t")
  | 'a' => some (named (shortName (name weekdayNames c.weekday)))
  | 'A' => some (named (name weekdayNames c.weekday))
  | 'b' | 'h' => some (named (shortName (name monthNames (c.month - 1))))
  | 'B' => some (named (name monthNames (c.month - 1)))
  | 'C' => some (s.number '0' 2 (c.year.fdiv 100))
  | 'd' => some (s.number '0' 2 c.day)
  | 'e' => some (s.number ' ' 2 c.day)
  | 'g' => some (s.number '0' 2 (c.standardWeek.1.fmod 100))
  | 'G' => some (s.number '0' 4 c.standardWeek.1)
  | 'H' => some (s.number '0' 2 c.hour)
  | 'I' => some (s.number '0' 2 c.dialHour)
  | 'j' => some (s.number '0' 3 (c.yearDay + 1))
  | 'k' => some (s.number ' ' 2 c.hour)
  | 'l' => some (s.number ' ' 2 c.dialHour)
  | 'm' => some (s.number '0' 2 c.month)
  | 'M' => some (s.number '0' 2 c.minute)
  | 'N' =>
    let digits := Style.widen '0' 9 (toString c.fraction)
    some (match s.width? with
      | some width => String.ofList ((digits.toList ++ List.replicate width '0').take width)
      | none => digits)
  | 'p' =>
    let text := if c.hour < 12 then "AM" else "PM"
    some (if s.isSwapped then s.text text.toLower else s.text text)
  | 'P' => some (s.text (if c.hour < 12 then "am" else "pm"))
  | 'q' => some (s.number '0' 1 ((c.month + 2) / 3))
  | 's' => some (s.number '0' 1 c.toSeconds)
  | 'S' => some (s.number '0' 2 c.second)
  | 'u' => some (s.number '0' 1 (if c.weekday = 0 then 7 else c.weekday))
  | 'U' => some (s.number '0' 2 (c.weekOfYear 0))
  | 'V' => some (s.number '0' 2 c.standardWeek.2)
  | 'w' => some (s.number '0' 1 c.weekday)
  | 'W' => some (s.number '0' 2 (c.weekOfYear 1))
  | 'y' => some (s.number '0' 2 (c.year.fmod 100))
  | 'Y' => some (s.number '0' 4 c.year)
  | 'z' => some (match s.fill?, s.width? with
    | some '-', _ => "+000"
    | some '_', width? => Style.widen ' ' (width?.getD 5) "+000"
    | _, width? => "+" ++ Style.widen '0' ((width?.getD 5) - 1) "0")
  | 'Z' => some (if s.isSwapped then s.text "utc" else s.text "UTC")
  | _ => none

/-- The layout that a letter stands for. -/
def layout? (letter : Char) : Option String :=
  match letter with
  | 'c' => some "%a %b %e %H:%M:%S %Y"
  | 'D' | 'x' => some "%m/%d/%y"
  | 'F' => some "%Y-%m-%d"
  | 'r' => some "%I:%M:%S %p"
  | 'R' => some "%H:%M"
  | 'T' | 'X' => some "%H:%M:%S"
  | _ => none

/-- Reads the flags after a percent sign. -/
def readFlags (s : Style) : List Char → Style × List Char
  | '^' :: cs => readFlags { s with isUpper := true } cs
  | '#' :: cs => readFlags { s with isSwapped := true } cs
  | '-' :: cs => readFlags { s with fill? := some '-' } cs
  | '_' :: cs => readFlags { s with fill? := some '_' } cs
  | '0' :: cs => readFlags { s with fill? := some '0' } cs
  | '+' :: cs => readFlags { s with fill? := some '+' } cs
  | cs => (s, cs)

/-- Lays a moment out. Layouts within layouts are at most `depth` deep, and there are at most `n` characters. -/
def layOut (c : Calendar) : Nat → Nat → List Char → String
  | _, 0, _ | _, _, [] => ""
  | depth, n + 1, '%' :: cs =>
    let (s, afterFlags) := readFlags .plain cs
    let digits := afterFlags.takeWhile Char.isDigit
    let width? := if digits.isEmpty then none else (String.ofList digits).toNat?
    let s := { s with width? }
    let rest := (afterFlags.drop digits.length).dropWhile fun c => c = 'E' || c = 'O'
    let colons := rest.takeWhile (· = ':')
    match rest.drop colons.length with
    | [] => "%" ++ String.ofList cs
    | letter :: more =>
      let zone? := if colons.isEmpty || letter ≠ 'z' then none
        else if colons.length = 1 then some "+00:00"
        else if colons.length = 2 then some "+00:00:00"
        else if colons.length = 3 then some "+00"
        else none
      let found? : Option String :=
        if !colons.isEmpty then zone?
        else match depth, layout? letter with
          | depth + 1, some inner => some (s.text (layOut c depth (inner.length + 1) inner.toList))
          | _, _ => c.piece? s letter
      match found? with
      | some text => text ++ layOut c depth n more
      | none => "%" ++ layOut c depth n cs
  | depth, n + 1, char :: cs => String.singleton char ++ layOut c depth n cs

/-- A moment in a layout. -/
def inLayout (c : Calendar) (layout : String) : String :=
  layOut c 2 (layout.length + 1) layout.toList

end ReleaseMatrix.Shell.Utility.Calendar
