import ServiceStack.Text.Numeral

/-!
Days and hours as they are written. Days are counted from the first of January 1970 in the calendar
that leaves out three leap days in four hundred years; a day has so many seconds always, and the
place where they are counted is the one that the hours of the world are counted from.
-/

namespace ServiceStack

/-- A point of time as a calendar and a clock show it. -/
structure Moment where
  year : Int
  month : Nat
  day : Nat
  hour : Nat := 0
  minute : Nat := 0
  second : Nat := 0
  nano : Nat := 0
deriving DecidableEq, Repr

namespace Calendar

def secondsOfDay : Nat := 86400

/-- The days of four hundred years. -/
def daysOfCycle : Nat := 146097

/-- The days before the first one, counted from the first of March of the year 0. -/
def origin : Nat := 719468

/-- The number of a day. The year is taken from March on, so that a leap day is its last one. -/
def dayNumber (year : Int) (month day : Nat) : Int :=
  let y := if month ≤ 2 then year - 1 else year
  let cycle := y.fdiv 400
  let rest := (y - cycle * 400).toNat
  let inYear := (153 * ((month + 9) % 12) + 2) / 5 + day - 1
  let inCycle := rest * 365 + rest / 4 - rest / 100 + inYear
  cycle * daysOfCycle + inCycle - origin

/-- The year, the month and the day of a number. -/
def ofDayNumber (n : Int) : Int × Nat × Nat :=
  let n := n + origin
  let cycle := n.fdiv daysOfCycle
  let inCycle := (n - cycle * daysOfCycle).toNat
  let years := (inCycle - inCycle / 1460 + inCycle / 36524 - inCycle / 146096) / 365
  let inYear := inCycle - (365 * years + years / 4 - years / 100)
  let m := (5 * inYear + 2) / 153
  let day := inYear - (153 * m + 2) / 5 + 1
  let month := if m < 10 then m + 3 else m - 9
  (years + cycle * 400 + (if month ≤ 2 then 1 else 0), month, day)

end Calendar

namespace Moment

open Calendar

def ofSeconds (seconds : Int) (nano : Nat) : Moment :=
  let day := seconds.fdiv secondsOfDay
  let rest := (seconds - day * secondsOfDay).toNat
  let d := ofDayNumber day
  { year := d.1, month := d.2.1, day := d.2.2, hour := rest / 3600, minute := rest / 60 % 60
    second := rest % 60, nano }

def dayNumber (m : Moment) : Int := Calendar.dayNumber m.year m.month m.day

def seconds (m : Moment) : Int :=
  m.dayNumber * secondsOfDay + (m.hour * 3600 + m.minute * 60 + m.second : Nat)

/-- The day of the week, from Sunday. -/
def weekday (m : Moment) : Nat := ((m.dayNumber + 4) % 7).toNat

/-- How many days of the year have passed. -/
def yearday (m : Moment) : Nat := (m.dayNumber - Calendar.dayNumber m.year 1 1).toNat

/-- The year and the number of a week that begins on Monday and belongs to the year of its
Thursday. -/
def week (m : Moment) : Int × Nat :=
  let thursday := m.dayNumber + 3 - (m.weekday + 6) % 7
  let year := (ofDayNumber thursday).1
  (year, ((thursday - Calendar.dayNumber year 1 1) / 7).toNat + 1)

end Moment

namespace Calendar

def months : List String := [
  "January", "February", "March", "April", "May", "June", "July", "August", "September",
  "October", "November", "December"]

def weekdays : List String := [
  "Sunday", "Monday", "Tuesday", "Wednesday", "Thursday", "Friday", "Saturday"]

/-! ### Formats -/

/-- What a letter of a format stands for: a number of a width that is filled by some byte, a text, a
text of other letters, or the distance from the place where the hours are counted. -/
inductive Field where
  | number (width : Nat) (filler : Char) (n : Int)
  /-- the first digits of a fraction of a second -/
  | fraction
  | text (t : String)
  | letters (f : String)
  | zone

def nameAt (names : List String) (n : Nat) : String := (names[n]?).getD ""

def half (hour : Nat) : String := if hour < 12 then "AM" else "PM"

def field? (m : Moment) (c : Char) : Option Field :=
  let number := fun (width : Nat) (n : Nat) => some (Field.number width '0' n)
  let hour := if m.hour % 12 = 0 then 12 else m.hour % 12
  let month := nameAt months (m.month - 1)
  let weekday := nameAt weekdays m.weekday
  match c with
  | 'a' => some (.text (weekday.take 3).toString)
  | 'A' => some (.text weekday)
  | 'b' | 'h' => some (.text (month.take 3).toString)
  | 'B' => some (.text month)
  | 'c' => some (.letters "%a %b %e %H:%M:%S %Y")
  | 'C' => some (.number 2 '0' (m.year.fdiv 100))
  | 'd' => number 2 m.day
  | 'D' | 'x' => some (.letters "%m/%d/%y")
  | 'e' => some (.number 2 ' ' m.day)
  | 'F' => some (.letters "%Y-%m-%d")
  | 'g' => some (.number 2 '0' (m.week.1 % 100))
  | 'G' => some (.number 4 '0' m.week.1)
  | 'H' => number 2 m.hour
  | 'I' => number 2 hour
  | 'j' => number 3 (m.yearday + 1)
  | 'k' => some (.number 2 ' ' m.hour)
  | 'l' => some (.number 2 ' ' hour)
  | 'm' => number 2 m.month
  | 'M' => number 2 m.minute
  | 'n' => some (.text "\n")
  | 'N' => some .fraction
  | 'p' => some (.text (half m.hour))
  | 'P' => some (.text (half m.hour).toLower)
  | 'q' => number 1 ((m.month + 2) / 3)
  | 'r' => some (.letters "%I:%M:%S %p")
  | 'R' => some (.letters "%H:%M")
  | 's' => some (.number 1 '0' m.seconds)
  | 'S' => number 2 m.second
  | 't' => some (.text "\t")
  | 'T' | 'X' => some (.letters "%H:%M:%S")
  | 'u' => number 1 (if m.weekday = 0 then 7 else m.weekday)
  | 'U' => number 2 ((m.yearday + 7 - m.weekday) / 7)
  | 'V' => number 2 m.week.2
  | 'w' => number 1 m.weekday
  | 'W' => number 2 ((m.yearday + 7 - (m.weekday + 6) % 7) / 7)
  | 'y' => some (.number 2 '0' (m.year % 100))
  | 'Y' => some (.number 4 '0' m.year)
  | 'z' => some .zone
  | 'Z' => some (.text "UTC")
  | '%' => some (.text "%")
  | _ => none

/-- How a field is written. -/
structure Style where
  flags : Raw := []
  width : Option Nat := none
  colons : Nat := 0

def Style.upper (y : Style) (t : Raw) : Raw :=
  if y.flags.contains '^' then t.map Char.toUpper
  else if y.flags.contains '#' then
    if t.all fun c => !c.isLower then t.map Char.toLower else t.map Char.toUpper
  else t

/-- What fills a field, if it is to be filled. -/
def Style.filler (y : Style) (usual : Char) : Option Char :=
  match y.flags.reverse.find? fun c => "-_0+".contains c with
  | some '-' => none
  | some '_' => some ' '
  | some _ => some '0'
  | none => some usual

def filled (c : Char) (width : Nat) (t : Raw) : Raw := List.replicate (width - t.length) c ++ t

/-- A number with its sign before zeros, but behind blanks. -/
def Style.number (y : Style) (width : Nat) (usual : Char) (n : Int) : Raw :=
  let ds := Numeral.natText 10 n.natAbs
  let sign := if n < 0 then ['-'] else []
  match y.filler usual with
  | none => sign ++ ds
  | some '0' => sign ++ filled '0' (y.width.getD width - sign.length) ds
  | some c => filled c (y.width.getD width) (sign ++ ds)

def Style.text (y : Style) (t : Raw) : Raw :=
  let fill := if y.flags.contains '0' then '0' else ' '
  y.upper (filled fill (y.width.getD 0) t)

/-- The zone, which never differs, with so many colons. -/
def Style.zone (y : Style) : Raw :=
  (match y.colons with
    | 0 => "+0000"
    | 1 => "+00:00"
    | 2 => "+00:00:00"
    | _ => "+00").toList

/-- The flags, the width and the letter behind a percent sign, and what follows. -/
def style? (cs : Raw) : Option (Style × Char × Raw) :=
  let flags := cs.takeWhile fun c => "-_0^#+".contains c
  let row := Numeral.digits 10 (cs.drop flags.length)
  let colons := row.2.takeWhile (· = ':')
  let rest := row.2.drop colons.length
  let rest := if rest.head?.any fun c => c = 'E' || c = 'O' then rest.tail else rest
  let width := if row.1 = [] then none else some (Numeral.ofDigits 10 row.1)
  match rest with
  | c :: rest =>
    if (colons = [] || c = 'z') then some (⟨flags, width, colons.length⟩, c, rest) else none
  | [] => none

/-- A moment in a format. Other texts are kept. -/
def format (m : Moment) : Nat → Raw → Raw
  | 0, _ => []
  | n + 1, cs =>
    match cs with
    | [] => []
    | '%' :: rest =>
      match style? rest with
      | none => '%' :: format m n rest
      | some (y, c, after) =>
        match field? m c with
        | none => '%' :: format m n rest
        | some f =>
          let text := match f with
            | .number width filler k => y.number width filler k
            | .fraction =>
              let ds := filled '0' 9 (Numeral.natText 10 m.nano)
              match y.width with
              | some w => ds.take w ++ List.replicate (w - 9) '0'
              | none => ds
            | .text t => y.text t.toList
            | .letters f => y.text (format m n f.toList)
            | .zone => y.zone
          text ++ format m n after
    | c :: rest => c :: format m n rest

end Calendar

/-- A moment in a format. -/
def Moment.text (m : Moment) (f : Raw) : Raw := Calendar.format m (f.length + 30) f

end ServiceStack
