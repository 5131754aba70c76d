import ServiceStack.Machine.Scenery
import ServiceStack.Machine.Tool.Date.Reading
import ServiceStack.Machine.Tool.PathName

/-!
The program that tells a point of time: the one that is now, or one that it is told.
-/

namespace ServiceStack.Date

/-- The usual format. -/
def usual : String := "%a %b %e %H:%M:%S %Z %Y"

def mailFormat : String := "%a, %d %b %Y %H:%M:%S %z"

def isoFormats : List (String × String) := [
  ("hours", "%Y-%m-%dT%H%:z"), ("minutes", "%Y-%m-%dT%H:%M%:z"), ("date", "%Y-%m-%d"),
  ("seconds", "%Y-%m-%dT%H:%M:%S%:z"), ("ns", "%Y-%m-%dT%H:%M:%S,%N%:z")]

def recordFormats : List (String × String) := [
  ("date", "%Y-%m-%d"), ("seconds", "%Y-%m-%d %H:%M:%S%:z"),
  ("ns", "%Y-%m-%d %H:%M:%S.%N%:z")]

def grammar : Letter.Grammar where
  plain := "Ru="
  valued := "dfrs3"
  optional := "I"
  long := [("date", 'd'), ("file", 'f'), ("iso-8601", 'I'), ("reference", 'r'),
    ("rfc-email", 'R'), ("rfc-2822", 'R'), ("rfc-822", 'R'), ("rfc-3339", '3'), ("set", 's'),
    ("utc", 'u'), ("uct", 'u'), ("universal", 'u'), ("debug", '='), ("resolution", '=')]

/-- The formats that the options ask for, or what is told of a word among them. -/
def formatsOf : List (Char × Raw) → Except Raw (List Raw)
  | [] => .ok []
  | (c, v) :: os => do
    let rest ← formatsOf os
    let among := fun (option : String) (words : List (String × String)) =>
      match Letter.choose? words v with
      | some f => Except.ok (f.toList :: rest)
      | none => .error (Letter.refusedChoice option v (words.map Prod.fst))
    match c with
    | 'R' => return mailFormat.toList :: rest
    | 'I' => if v = [] then return "%Y-%m-%d".toList :: rest else among "--iso-8601" isoFormats
    | '3' => among "--rfc-3339" recordFormats
    | _ => return rest

/-- A point of time in twelve digits at most: month, day, hour, minute, year. -/
def fromDigits? (now : Moment) (a : Raw) : Option Int := do
  let (ds, tail) := (a.takeWhile (· ≠ '.'), a.dropWhile (· ≠ '.'))
  let second ← match tail with
    | [] => some 0
    | _ :: s => if s.length = 2 then Numeral.natural? s else none
  let _ ← Numeral.natural? ds
  let pair := fun (n : Nat) => Numeral.ofDigits 10 ((ds.drop n).take 2)
  let year ← match ds.length with
    | 8 => some now.year
    | 10 => some (fullYear (pair 8) 2)
    | 12 => some ((pair 8 * 100 + pair 10 : Nat) : Int)
    | _ => none
  let day := Calendar.dayNumber year (pair 0) (pair 2)
  if (Calendar.ofDayNumber day).2 ≠ (pair 0, pair 2) || 23 < pair 4 || 59 < pair 6 then none
  else some (day * Calendar.secondsOfDay + (pair 4 * 3600 + pair 6 * 60 + second : Nat))

def invalid (self : String) (a : Raw) : Notice :=
  .complain (self.toList ++ ": invalid date ".toList ++ Quotation.text a) 1

/-- Tells each line of a file as a point of time. -/
def tellLines (self : String) (now : Moment) (f : Raw) : List Raw → List (Nat × Raw) × Nat
  | [] => ([], 0)
  | l :: ls =>
    let rest := tellLines self now f ls
    match read? now l with
    | some (s, nano) => ((1, (Moment.ofSeconds s nano).text f ++ ['\n']) :: rest.1, rest.2)
    | none => ((invalid self l).writes ++ rest.1, 1)

def date (self : String) (args : List Raw) : Act Nat := do
  let told (r : Notice) : Act Nat := r.act self 1
  let refuse (t : Raw) : Act Nat := told (Letter.usage self t 1)
  match Letter.split grammar args with
  | .error f => told (f.report self 1)
  | .ok (os, words) =>
    let (s, nano) ← Act.clock
    let now := Moment.ofSeconds s nano
    let kinds := (["d", "f", "r"].filter fun c => os.any fun o => c.toList = [o.1]).length
    match formatsOf os with
    | .error t => refuse t
    | .ok fs =>
      if 1 < kinds then
        refuse "the options to specify dates for printing are mutually exclusive".toList
      else match words with
        | _ :: b :: _ => told (PathName.extraOperand self b 1)
        | words =>
          let given := words.filterMap fun
            | '+' :: f => some f
            | _ => none
          match fs ++ given with
          | _ :: _ :: _ =>
            told (.complain (self.toList ++ ": multiple output formats specified".toList) 1)
          | fs =>
            let f := fs.headD usual.toList
            let tell (s : Int) (nano : Nat) (code : Nat) : Notice :=
              ⟨[(1, (Moment.ofSeconds s nano).text f ++ ['\n'])], code⟩
            match words.filter (·.head? ≠ some '+'), Letter.value? 'd' os with
            | a :: _, some _ =>
              refuse ("the argument ".toList ++ Quotation.text a ++ " lacks a leading '+';\n".toList
                ++ ("when using an option to specify date(s), any non-option\n" ++
                  "argument must be a format string beginning with '+'").toList)
            | a :: _, none =>
              match fromDigits? now a with
              | some s => denied (tell s 0 1)
              | none => told (invalid self a)
            | [], some d =>
              match read? now d with
              | some (s, nano) => told (tell s nano 0)
              | none => told (invalid self d)
            | [], none =>
              if let some r := Letter.value? 'r' os then
                match (← Act.look).state? true r with
                | .ok _ => told (tell s 0 0)
                | .error e => told (.complain (Notice.faultLine self.toList (Quotation.name r) e) 1)
              else if let some name := Letter.value? 'f' os then
                match ← if name = ['-'] then Act.readAll 0 else Act.readFile name with
                | .ok text =>
                  let r := tellLines self now f (Raw.lines text)
                  told ⟨r.1, r.2⟩
                | .error e =>
                  told (.complain (Notice.faultLine self.toList (Quotation.name name) e) 1)
              else if let some d := Letter.value? 's' os then
                match read? now d with
                | some (s, nano) => denied (tell s nano 1)
                | none => told (invalid self d)
              else told (tell s nano 0)
where
  /-- Nobody may set the clock. -/
  denied (r : Notice) : Act Nat := do
    Notice.warn (self.toList ++ ": cannot set date: Operation not permitted".toList)
    r.act self 1

end ServiceStack.Date
