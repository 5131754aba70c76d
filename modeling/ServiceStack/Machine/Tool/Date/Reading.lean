import ServiceStack.Text.Calendar

/-!
Points of time as they are told: dates, clock times, zones, days of the week and distances from now,
in any order. What is not told is taken from now, except that a date alone means its start.
-/

namespace ServiceStack.Date

/-! ### Words -/

inductive Span where
  | year
  | month
  | day
  | hour
  | minute
  | second
deriving DecidableEq, Repr

/-- What a word means. -/
inductive Meaning where
  | month (n : Nat)
  | weekday (n : Nat)
  /-- so many of a unit -/
  | unit (u : Span) (n : Int)
  /-- so many days from today -/
  | shift (days : Int)
  | ordinal (n : Int)
  | ago
  /-- minutes to the east -/
  | zone (minutes : Int)
  | half (late : Bool)
  /-- the letter between a date and a time -/
  | divider

inductive Token where
  /-- digits, with a sign or without, and how many they are -/
  | number (signed : Bool) (n : Int) (digits : Nat)
  /-- a number with places behind a point, as parts of a thousand million -/
  | fraction (signed : Bool) (n : Int) (nano : Nat)
  | word (m : Meaning)
  | sign (c : Char)

def units : List (String × Span × Int) := [
  ("year", .year, 1), ("month", .month, 1), ("fortnight", .day, 14), ("week", .day, 7),
  ("day", .day, 1), ("hour", .hour, 1), ("minute", .minute, 1), ("min", .minute, 1),
  ("second", .second, 1), ("sec", .second, 1)]

def others : List (String × Meaning) := [
  ("tomorrow", .shift 1), ("yesterday", .shift (-1)), ("today", .shift 0), ("now", .shift 0),
  ("last", .ordinal (-1)), ("this", .ordinal 0), ("next", .ordinal 1), ("first", .ordinal 1),
  ("third", .ordinal 3), ("fourth", .ordinal 4), ("fifth", .ordinal 5), ("sixth", .ordinal 6),
  ("seventh", .ordinal 7), ("eighth", .ordinal 8), ("ninth", .ordinal 9), ("tenth", .ordinal 10),
  ("eleventh", .ordinal 11), ("twelfth", .ordinal 12), ("ago", .ago), ("hence", .shift 0),
  ("am", .half false), ("a.m.", .half false), ("pm", .half true), ("p.m.", .half true),
  ("sept", .month 9), ("tues", .weekday 2), ("wednes", .weekday 3), ("thur", .weekday 4),
  ("thurs", .weekday 4)]

/-- Zones by the hours that they are to the east. -/
def zones : List (String × Int) := [
  ("gmt", 0), ("ut", 0), ("utc", 0), ("wet", 0), ("west", 1), ("bst", 1), ("art", -3),
  ("brt", -3), ("brst", -2), ("ast", -4), ("adt", -3), ("clt", -4), ("clst", -3), ("est", -5),
  ("edt", -4), ("cst", -6), ("cdt", -5), ("mst", -7), ("mdt", -6), ("pst", -8), ("pdt", -7),
  ("akst", -9), ("akdt", -8), ("hst", -10), ("cet", 1), ("cest", 2), ("met", 1), ("mest", 2),
  ("eet", 2), ("eest", 3), ("cat", 2), ("sast", 2), ("eat", 3), ("msk", 3), ("msd", 4),
  ("sgt", 8), ("jst", 9), ("nzst", 12), ("nzdt", 13)]

/-- Zones by a letter. -/
def letterZone? (c : Char) : Option Int :=
  if c = 'z' then some 0
  else if 'a' ≤ c && c ≤ 'i' then some (c.toNat - 96)
  else if 'k' ≤ c && c ≤ 'm' then some (c.toNat - 97)
  else if 'n' ≤ c && c ≤ 'y' then some (109 - (c.toNat : Int))
  else none

/-- A name in full, or its first three letters with a point or without. -/
def nameIndex? (names : List String) (w : Raw) : Option Nat :=
  let short := if w.getLast? = some '.' && w.length = 4 then w.dropLast else w
  names.findIdx? fun x =>
    x.toLower.toList = w || short.length = 3 && (x.toLower.toList.take 3) = short

def meaning? (w : Raw) : Option Meaning :=
  let w := w.map Char.toLower
  let find := fun {α : Type} (table : List (String × α)) (w : Raw) =>
    (table.find? fun p => p.1.toList = w).map Prod.snd
  let bare := if w.getLast? = some 's' then w.dropLast else w
  if w = ['t'] then some .divider
  else match nameIndex? Calendar.months w, nameIndex? Calendar.weekdays w, find others w with
    | some n, _, _ => some (.month (n + 1))
    | _, some n, _ => some (.weekday n)
    | _, _, some m => some m
    | none, none, none =>
      match find units w <|> find units bare, find zones w, w with
      | some (u, n), _, _ => some (.unit u n)
      | _, some h, _ => some (.zone (h * 60))
      | _, _, [c] => (letterZone? c).map fun h => .zone (h * 60)
      | _, _, _ => none

/-- The tokens of a text. A sign belongs to the digits behind it. -/
def tokens : Nat → Raw → Option (List Token)
  | 0, _ => none
  | n + 1, cs =>
    let number (negative signed : Bool) (cs : Raw) : Option (List Token) :=
      let row := Numeral.digits 10 cs
      let k : Int := Numeral.ofDigits 10 row.1
      let value := if negative then -k else k
      match row.2 with
      | p :: d :: rest =>
        if (p = '.' || p = ',') && d.isDigit then
          let places := Numeral.digits 10 (d :: rest)
          let nano := Numeral.ofDigits 10 ((places.1 ++ List.replicate 9 '0').take 9)
          (tokens n places.2).map (.fraction signed value nano :: ·)
        else (tokens n row.2).map (.number signed value row.1.length :: ·)
      | _ => (tokens n row.2).map (.number signed value row.1.length :: ·)
    match cs with
    | [] => some []
    | '(' :: rest => tokens n (rest.dropWhile (· ≠ ')')).tail
    | c :: rest =>
      if Raw.isBlank c then tokens n rest
      else if c.isDigit then number false false cs
      else if (c = '-' || c = '+') && (rest.dropWhile Raw.isBlank).head?.any Char.isDigit then
        number (c = '-') true (rest.dropWhile Raw.isBlank)
      else if c.isAlpha then
        let w := cs.takeWhile fun c => c.isAlpha || c = '.'
        match meaning? w with
        | some m => (tokens n (cs.drop w.length)).map (.word m :: ·)
        | none => none
      else (tokens n rest).map (.sign c :: ·)

/-! ### Parts -/

/-- What was told so far. -/
structure Told where
  date : Option (Option Int × Nat × Nat) := none
  /-- hours, minutes, seconds and parts of a second -/
  clock : Option (Nat × Nat × Nat × Nat) := none
  /-- minutes to the east -/
  zone : Option Int := none
  weekday : Option (Int × Nat) := none
  /-- the distance in years, months, days and in seconds -/
  away : Option (Int × Int × Int × Int) := none

/-- A year of two digits is near the year 2000. -/
def fullYear (n : Int) (digits : Nat) : Int :=
  if digits = 2 then (if n < 69 then n + 2000 else n + 1900) else n

/-- The hour of a clock with two halves. -/
def hourOf (late : Bool) (h : Int) : Option Nat :=
  if h < 1 || 12 < h then none else some ((h % 12).toNat + if late then 12 else 0)

namespace Told

def withDate (t : Told) (year : Option Int) (month day : Int) : Option Told :=
  if t.date.isSome || month < 1 || 12 < month || day < 1 || 31 < day then none
  else some { t with date := some (year, month.toNat, day.toNat) }

def withClock (t : Told) (h m s : Int) (nano : Nat) : Option Told :=
  if t.clock.isSome || h < 0 || 23 < h || m < 0 || 59 < m || s < 0 || 60 < s then none
  else some { t with clock := some (h.toNat, m.toNat, s.toNat, nano) }

def withZone (t : Told) (minutes : Int) : Option Told :=
  if t.zone.isSome || 24 * 60 < minutes.natAbs then none else some { t with zone := some minutes }

def withWeekday (t : Told) (ordinal : Int) (n : Nat) : Option Told :=
  if t.weekday.isSome then none else some { t with weekday := some (ordinal, n) }

def move (t : Told) (u : Span) (n : Int) : Told :=
  let (y, m, d, s) := t.away.getD (0, 0, 0, 0)
  { t with away := some (match u with
    | .year => (y + n, m, d, s)
    | .month => (y, m + n, d, s)
    | .day => (y, m, d + n, s)
    | .hour => (y, m, d, s + 3600 * n)
    | .minute => (y, m, d, s + 60 * n)
    | .second => (y, m, d, s + n)) }

end Told

/-- The minutes of a zone that is told by a signed number, with or without a colon. -/
def offset (n : Int) (digits : Nat) (minutes : Option Int) : Int :=
  match minutes with
  | some m => n * 60 + (if n < 0 then -m else m)
  | none => if digits ≤ 2 then n * 60 else n.tdiv 100 * 60 + n.tmod 100

/-- A zone behind a clock time, if there is one. -/
def zoneAfter (t : Told) : List Token → Option (Told × List Token)
  | .number true n d :: .sign ':' :: .number false m _ :: rest =>
    (t.withZone (offset n d (some m))).map (·, rest)
  | .number true n d :: .word (.unit u k) :: rest =>
    some (t, .number true n d :: .word (.unit u k) :: rest)
  | .number true n d :: rest => (t.withZone (offset n d none)).map (·, rest)
  | rest => some (t, rest)

/-- A distance, which may lie back. -/
def distance (t : Told) (u : Span) (n : Int) : List Token → Told × List Token
  | .word .ago :: rest => (t.move u (-n), rest)
  | rest => (t.move u n, rest)

/-- A number alone: a year behind a date, a date without signs, or a clock time. -/
def alone (t : Told) (n : Int) (digits : Nat) : Option Told :=
  match t.date with
  | some (none, m, d) =>
    if t.away.isNone && (t.clock.isSome || 2 < digits) then
      some { t with date := some (some (fullYear n digits), m, d) }
    else clockAlone
  | _ =>
    if 4 < digits then
      t.withDate (some (fullYear (n / 10000) (digits - 4))) (n / 100 % 100) (n % 100)
    else clockAlone
where
  clockAlone : Option Told :=
    if digits ≤ 2 then t.withClock n 0 0 0 else t.withClock (n / 100) (n % 100) 0 0

/-- What the first of some tokens tell, and the tokens that are left. -/
def part (t : Told) (ts : List Token) : Option (Told × List Token) :=
  let and (r : Option Told) (rest : List Token) := r.map (·, rest)
  match ts with
  | .number false h _ :: .word (.half late) :: rest =>
    (hourOf late h).bind fun h => and (t.withClock h 0 0 0) rest
  | .number false h _ :: .sign ':' :: .number false m _ :: .word (.half late) :: rest =>
    (hourOf late h).bind fun h => and (t.withClock h m 0 0) rest
  | .number false h _ :: .sign ':' :: .number false m _ :: .sign ':' :: .number false s _ ::
      .word (.half late) :: rest =>
    (hourOf late h).bind fun h => and (t.withClock h m s 0) rest
  | .number false h _ :: .sign ':' :: .number false m _ :: .sign ':' :: .number false s _ ::
      rest => (t.withClock h m s 0).bind fun t => zoneAfter t rest
  | .number false h _ :: .sign ':' :: .number false m _ :: .sign ':' :: .fraction false s nano ::
      rest => (t.withClock h m s nano).bind fun t => zoneAfter t rest
  | .number false h _ :: .sign ':' :: .number false m _ :: rest =>
    (t.withClock h m 0 0).bind fun t => zoneAfter t rest
  | .number false a _ :: .sign '/' :: .number false b _ :: .sign '/' :: .number false c d :: rest =>
    if 31 < a then and (t.withDate (some a) b c) rest
    else and (t.withDate (some (fullYear c d)) a b) rest
  | .number false a _ :: .sign '/' :: .number false b _ :: rest =>
    and (t.withDate none a b) rest
  | .number false y d :: .number true m _ :: .number true day _ :: rest =>
    match (t.withDate (some (fullYear y d)) (-m) (-day)), rest with
    | some t, .word .divider :: rest => some (t, rest)
    | r, rest => and r rest
  | .number false day _ :: .word (.month m) :: .number true y d :: rest =>
    and (t.withDate (some (fullYear (-y) d)) m day) rest
  | .number false day _ :: .word (.month m) :: .number false y d :: .sign ':' :: rest =>
    and (t.withDate none m day) (.number false y d :: .sign ':' :: rest)
  | .number false day _ :: .word (.month m) :: .number false y d :: rest =>
    and (t.withDate (some (fullYear y d)) m day) rest
  | .number false day _ :: .word (.month m) :: rest => and (t.withDate none m day) rest
  | .word (.month m) :: .number true day _ :: .number true y d :: rest =>
    and (t.withDate (some (fullYear (-y) d)) m (-day)) rest
  | .word (.month m) :: .number false day _ :: .sign ',' :: .number false y d :: rest =>
    and (t.withDate (some (fullYear y d)) m day) rest
  | .word (.month m) :: .number false day _ :: rest => and (t.withDate none m day) rest
  | .word (.weekday n) :: .sign ',' :: rest => and (t.withWeekday 0 n) rest
  | .word (.weekday n) :: rest => and (t.withWeekday 0 n) rest
  | .word (.ordinal k) :: .word (.weekday n) :: rest => and (t.withWeekday k n) rest
  | .number false k _ :: .word (.weekday n) :: rest => and (t.withWeekday k n) rest
  | .word (.ordinal k) :: .word (.unit u n) :: rest => some (distance t u (k * n) rest)
  | .number _ k _ :: .word (.unit u n) :: rest => some (distance t u (k * n) rest)
  | .word (.unit u n) :: rest => some (distance t u n rest)
  | .word (.shift n) :: rest => some (t.move .day n, rest)
  | .word (.zone z) :: .number true n d :: .word (.unit u k) :: rest =>
    and (t.withZone z) (.number true n d :: .word (.unit u k) :: rest)
  | .word (.zone z) :: .number true n d :: rest => and (t.withZone (z + offset n d none)) rest
  | .word (.zone z) :: rest => and (t.withZone z) rest
  | .number false n d :: rest => and (alone t n d) rest
  | _ => none

def parts : Nat → Told → List Token → Option Told
  | 0, _, _ => none
  | n + 1, t, ts =>
    if ts.isEmpty then some t
    else (part t ts).bind fun r => parts n r.1 r.2

/-- The day that was told, or the one that is now, and the days of the week counted from it. -/
def dayOf (now : Moment) (t : Told) : Option Int :=
  match t.date with
  | some (year, month, day) =>
    let n := Calendar.dayNumber (year.getD now.year) month day
    if (Calendar.ofDayNumber n).2 = (month, day) then some n else none
  | none =>
    match t.weekday with
    | some (ordinal, n) =>
      let today := now.weekday
      let weeks := ordinal - if 0 < ordinal && today ≠ n then 1 else 0
      some (now.dayNumber + ((n + 7 - today) % 7 : Nat) + 7 * weeks)
    | none => some now.dayNumber

/-- A day so many years, months and days away. -/
def away (day : Int) (years months days : Int) : Int :=
  let d := Calendar.ofDayNumber day
  let m := (d.2.1 : Int) - 1 + months
  let first := Calendar.dayNumber (d.1 + years + m.fdiv 12) ((m.fmod 12).toNat + 1) 1
  first + d.2.2 - 1 + days

/-- The seconds and the parts of a second that a text tells. -/
def read? (now : Moment) (text : Raw) : Option (Int × Nat) := do
  let ts ← tokens (text.length + 1) text
  match ts with
  | [.sign '@', .number _ n _] => return (n, 0)
  | [.sign '@', .fraction _ n nano] =>
    return if n < 0 && nano ≠ 0 then (n - 1, 1000000000 - nano) else (n, nano)
  | .sign '@' :: _ => none
  | ts =>
    let t ← parts (ts.length + 1) {} ts
    let day ← dayOf now t
    let keeps := t.away.isSome && t.date.isNone && t.weekday.isNone
    let (h, m, s, nano) := match t.clock with
      | some c => c
      | none => if keeps then (now.hour, now.minute, now.second, now.nano) else (0, 0, 0, 0)
    let (years, months, days, seconds) := t.away.getD (0, 0, 0, 0)
    let day := away day years months days
    return (day * Calendar.secondsOfDay + (h * 3600 + m * 60 + s : Nat) + seconds -
      t.zone.getD 0 * 60, nano)

end ServiceStack.Date
