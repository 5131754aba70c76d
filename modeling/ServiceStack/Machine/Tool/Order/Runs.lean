import ServiceStack.Machine.Tool.Order.Basic

/-!
The program that looks at lines that follow each other and are equal.
-/

namespace ServiceStack.Order

def uniqGrammar : Letter.Grammar where
  plain := "cduizD0123456789"
  valued := "fsw"
  optional := "ag"
  long := [("count", 'c'), ("repeated", 'd'), ("all-repeated", 'a'), ("group", 'g'),
    ("skip-fields", 'f'), ("ignore-case", 'i'), ("skip-chars", 's'), ("unique", 'u'),
    ("check-chars", 'w'), ("zero-terminated", 'z')]

/-- What of a line is compared. -/
def uniqKey (os : List (Char × Raw)) (l : Raw) : Raw :=
  let number := fun (c : Char) => (Letter.value? c os).bind Numeral.natural?
  let digits := (os.map Prod.fst).filter Char.isDigit
  let fields := if digits ≠ [] then Numeral.ofDigits 10 digits else (number 'f').getD 0
  let l := (afterFields none fields l).drop ((number 's').getD 0)
  let l := match number 'w' with
    | some n => l.take n
    | none => l
  if Letter.has 'i' os then l.map Char.toUpper else l

/-- Each run of lines, as it is written. -/
def uniqText (os : List (Char × Raw)) (stop : Char) (runs : List (List Raw)) : Raw :=
  let has := fun c => Letter.has c os
  let put := fun (l : Raw) => l ++ [stop]
  match Letter.value? 'g' os with
  | some how =>
    let how := String.ofList how
    let inner := (runs.map fun r => r.flatMap put)
    let text := [stop].intercalate inner
    if runs = [] then []
    else (if how = "both" || how = "prepend" then [stop] else []) ++ text ++
      (if how = "both" || how = "append" then [stop] else [])
  | none =>
    match Letter.value? 'a' os <|> (if has 'D' then some "none".toList else none) with
    | some how =>
      let how := String.ofList how
      let kept := if has 'u' then (runs.filter (1 < ·.length)).map List.dropLast
        else runs.filter (1 < ·.length)
      if how = "separate" then [stop].intercalate (kept.map fun r => r.flatMap put)
      else kept.flatMap fun r => (if how = "prepend" then [stop] else []) ++ r.flatMap put
    | none =>
      let kept := runs.filter fun r => !(has 'd' && r.length = 1) && !(has 'u' && 1 < r.length)
      kept.flatMap fun r =>
        let ds := Numeral.natText 10 r.length
        (if has 'c' then List.replicate (7 - ds.length) ' ' ++ ds ++ [' '] else []) ++
          put (r.headD [])

/-- Older spellings of how much is skipped. -/
def uniqWords (args : List Raw) : List Raw :=
  match args with
  | ('+' :: d :: ds) :: rest =>
    if (d :: ds).all Char.isDigit then ('-' :: 's' :: d :: ds) :: rest else args
  | _ => args

def uniq (self : String) (args : List Raw) : Act Nat := do
  let told (r : Notice) : Act Nat := r.act self 1
  let refuse (t : String) : Act Nat := told (Letter.usage self t.toList 1)
  let has (os : List (Char × Raw)) (c : Char) : Bool := Letter.has c os
  match Letter.split uniqGrammar (uniqWords args) with
  | .error f => told (f.report self 1)
  | .ok (os, names) =>
    match os.find? fun o => "fsw".contains o.1 && (Numeral.natural? o.2).isNone with
    | some o =>
      told (.complain (self.toList ++ ": ".toList ++ o.2 ++ (if o.1 = 'f' then
        ": invalid number of fields to skip" else if o.1 = 's' then
        ": invalid number of bytes to skip" else ": invalid number of bytes to compare").toList) 1)
    | none =>
      let choices : Char → List String → String → Option Raw := fun c vs word =>
        match Letter.value? c os with
        | some v =>
          if v = [] || vs.any (fun w => v.isPrefixOf w.toList) then none
          else some ("invalid argument ".toList ++ Quotation.text v ++ " for '--".toList ++
            word.toList ++ ['\''])
        | none => none
      match choices 'a' ["none", "prepend", "separate"] "all-repeated" <|>
          choices 'g' ["prepend", "append", "separate", "both"] "group" with
      | some t => told (Letter.usage self t 1)
      | none =>
        match names with
        | _ :: _ :: c :: _ =>
          told (Letter.usage self ("extra operand ".toList ++ Quotation.text c) 1)
        | _ =>
          if has os 'g' && os.any fun o => "cdDua".contains o.1 then
            refuse "--group is mutually exclusive with -c/-d/-D/-u"
          else if has os 'c' && (has os 'D' || has os 'a') then
            refuse "printing all duplicated lines and repeat counts is meaningless"
          else
            let stop := if has os 'z' then '\x00' else '\n'
            let output := (names[1]?).filter (· ≠ ['-'])
            let stream : Except Errno Nat ← match output with
              | some name => Act.ask (.open name
                  { writes := true, creates := true, truncates := true })
              | none => pure (.ok 1)
            match stream with
            | .error e => told (.complain (Quotation.faultLine self.toList (output.getD []) e) 1)
            | .ok n =>
              if n ≠ 1 then
                let _ ← Act.ask (.copy n 1)
              Reading.act {
                program := self, names := names.take 1
                complaint := fun name e =>
                  if e = .EISDIR then self.toList ++ ": error reading ".toList ++
                    Quotation.always name ++ ": ".toList ++ e.text.toList
                  else Quotation.faultLine self.toList name e
                write := fun sources =>
                  let lines := (sources.flatMap fun s => unitsOf stop s.text).map fun l =>
                    (uniqKey os l, l)
                  let runs := (lines.splitBy fun a b => a.1 = b.1).map (·.map Prod.snd)
                  (Reading.atEnd sources (uniqText os stop runs), 0) }

end ServiceStack.Order
