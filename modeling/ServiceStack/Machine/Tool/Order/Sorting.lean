import ServiceStack.Machine.Tool.Order.Basic

/-!
The program that puts lines in order, or tells whether they are, and how its keys are written.
-/

namespace ServiceStack.Order

/-! ### Keys from words -/

def kinds : List (Char × Kind) :=
  [('n', .number), ('g', .general), ('h', .human), ('M', .month), ('V', .version), ('R', .text)]

/-- What a letter asks for. -/
def Manner.adding (m : Manner) (c : Char) : Manner :=
  let m := { m with letters := m.letters ++ [c] }
  match kinds.lookup c with
  | some k => { m with kind := k }
  | none =>
    match c with
    | 'd' => { m with dictionary := true }
    | 'f' => { m with fold := true }
    | 'i' => { m with visible := true }
    | 'r' => { m with reversed := true }
    | _ => m

/-- The letters of two readings that do not go together. -/
def Manner.clash? (m : Manner) : Option Raw :=
  let has := fun (c : Char) => m.letters.contains c
  let numeric := ['g', 'h', 'n', 'M'].filter has
  let bytes := has 'd' || has 'i'
  if 1 < numeric.length + (if bytes || has 'R' || has 'V' then 1 else 0) ||
      has 'R' && (bytes || has 'V') || has 'V' && bytes then
    some ("MRVdghin".toList.filter has |>.mergeSort fun a b => rank a ≤ rank b)
  else none
where
  rank (c : Char) : Nat := ("dfghiMnRV".toList.idxOf? c).getD 0

def orderLetters : String := "bdfghiMnRrV"

/-- A number at the start of a text, and what follows; or what is told of a text without one. -/
def count? (what : String) (all : Raw) (t : Raw) : Except Raw (Nat × Raw) :=
  let ds := Numeral.digits 10 t
  if ds.1 = [] then
    .error (what.toList ++ ": invalid count at start of ".toList ++ Quotation.text t)
  else if Numeral.ofDigits 10 ds.1 = 0 && what ≠ "invalid number after '.'" then
    .error ("field number is zero: invalid field specification ".toList ++ Quotation.text all)
  else .ok (Numeral.ofDigits 10 ds.1, ds.2)

/-- A key as it is written: a field with a byte and letters, and perhaps another one behind a comma.
-/
def key? (a : Raw) : Except Raw (Key × Manner) := do
  let (word, rest) ← count? "invalid number at field start" a a
  let (byte, rest) ← match rest with
    | '.' :: rest =>
      let (n, rest) ← count? "invalid number after '.'" a rest
      if n = 0 then
        throw ("character offset is zero: invalid field specification ".toList ++ Quotation.text a)
      pure (n - 1, rest)
    | rest => pure (0, rest)
  let isLetter := fun (c : Char) => orderLetters.contains c
  let first := rest.takeWhile isLetter
  match rest.drop first.length with
  | [] =>
    let m := first.foldl Manner.adding {}
    return ({ word := word - 1, byte, skipsFirst := first.contains 'b', manner := m }, m)
  | ',' :: rest =>
    let (last, rest) ← count? "invalid number after ','" a rest
    let (stop, rest) ← match rest with
      | '.' :: rest => count? "invalid number after '.'" a rest
      | rest => pure (0, rest)
    let second := rest.takeWhile isLetter
    if rest.length ≠ second.length then throw (stray a)
    let m := (first ++ second).foldl Manner.adding {}
    return ({ word := word - 1, byte, till := some (last - 1, stop)
              skipsFirst := first.contains 'b', skipsLast := second.contains 'b'
              manner := m }, m)
  | _ => throw (stray a)
where
  stray (a : Raw) : Raw :=
    "stray character in field spec: invalid field specification ".toList ++ Quotation.text a

/-- An older spelling of keys: a plus and a number before the first field, a minus and a number
before the one behind the last. -/
def oldKey? (a : Raw) (next : Option Raw) : Option (Raw × Bool) := do
  let (first, rest) ← side '+' a
  let from_ := Numeral.natText 10 (first.1 + 1) ++
    (if first.2 = 0 then [] else '.' :: Numeral.natText 10 (first.2 + 1)) ++ rest
  match next.bind (side '-') with
  | some (last, rest) =>
    let till := if last.2 = 0 then Numeral.natText 10 last.1
      else Numeral.natText 10 (last.1 + 1) ++ '.' :: Numeral.natText 10 last.2
    return (from_ ++ ',' :: till ++ rest, true)
  | none => return (from_, false)
where
  side (sign : Char) (a : Raw) : Option ((Nat × Nat) × Raw) := do
    let ds := Numeral.digits 10 (a.drop 1)
    if a.head? ≠ some sign || ds.1 = [] then none
    else
      let (byte, rest) := match ds.2 with
        | '.' :: cs => Numeral.digits 10 cs
        | cs => ([], cs)
      if rest.all (orderLetters.contains ·) then
        some ((Numeral.ofDigits 10 ds.1, Numeral.ofDigits 10 byte), rest)
      else none

/-- The words with older spellings put into newer ones. -/
def newer : List Raw → List Raw
  | [] => []
  | a :: rest =>
    if a = ['-', '-'] then a :: rest
    else match oldKey? a rest.head? with
      | some (k, true) => ('-' :: 'k' :: k) :: newer rest.tail
      | some (k, false) => ('-' :: 'k' :: k) :: newer rest
      | none => a :: newer rest
termination_by ws => ws.length
decreasing_by all_goals (simp only [List.length_cons, List.length_tail]; omega)

def sortGrammar : Letter.Grammar where
  plain := "bdfghiMnRrVcCmsuz"
  valued := "koStTABDEF"
  optional := "=~"
  long := [("ignore-leading-blanks", 'b'), ("dictionary-order", 'd'), ("ignore-case", 'f'),
    ("general-numeric-sort", 'g'), ("human-numeric-sort", 'h'), ("ignore-nonprinting", 'i'),
    ("month-sort", 'M'), ("numeric-sort", 'n'), ("random-sort", 'R'), ("reverse", 'r'),
    ("version-sort", 'V'), ("check", '='), ("merge", 'm'), ("stable", 's'), ("unique", 'u'),
    ("zero-terminated", 'z'), ("key", 'k'), ("output", 'o'), ("buffer-size", 'S'),
    ("field-separator", 't'), ("temporary-directory", 'T'), ("sort", '~'), ("parallel", 'A'),
    ("batch-size", 'B'), ("compress-program", 'D'), ("random-source", 'E'),
    ("files0-from", 'F')]

/-- A letter for the value of a word that chooses an order or a check. -/
def chosen? (o : Char × Raw) : Except Notice (Char × Raw) :=
  let among := fun (word : String) (values : List (String × Char)) =>
    let near := values.filter fun v => o.2.isPrefixOf v.1.toList
    let only := if near.length = 1 then near.head? else none
    match values.find? (fun v => v.1.toList = o.2) <|> only with
    | some v => Except.ok (v.2, [])
    | none => .error (Letter.usage "sort" ("invalid argument ".toList ++ Quotation.text o.2 ++
        " for '".toList ++ word.toList ++ ['\'']) 1)
  if o.1 = '~' then
    among "--sort" [("general-numeric", 'g'), ("human-numeric", 'h'), ("month", 'M'),
      ("numeric", 'n'), ("random", 'R'), ("version", 'V')]
  else if o.1 = '=' && o.2 = [] then .ok ('c', [])
  else if o.1 = '=' then
    among "--check" [("quiet", 'C'), ("silent", 'C'), ("diagnose-first", 'c')]
  else .ok o

/-- The byte between fields. -/
def separator? (values : List Raw) : Except Raw (Option Char) := do
  let one := fun (v : Raw) => match v with
    | [] => Except.error "empty tab".toList
    | [c] => .ok c
    | ['\\', '0'] => .ok '\x00'
    | v => .error ("multi-character tab ".toList ++ Quotation.text v)
  match ← values.mapM one with
  | [] => return none
  | c :: cs => if cs.all (· = c) then return some c else throw "incompatible tabs".toList

/-- The order that options ask for. -/
def rule? (os : List (Char × Raw)) : Except Raw Rule := do
  let has := fun c => Letter.has c os
  let whole := ((os.map Prod.fst).filter (orderLetters.contains ·)).foldl Manner.adding {}
  let given ← ((os.filter (·.1 = 'k')).map Prod.snd).mapM key?
  let separator ← separator? ((os.filter (·.1 = 't')).map Prod.snd)
  let keys := given.map fun k =>
    if k.2.isUsual && !k.1.skipsFirst && !k.1.skipsLast then
      { k.1 with manner := whole, skipsFirst := has 'b', skipsLast := has 'b' }
    else k.1
  let keys := if keys = [] && (!{ whole with reversed := false }.isUsual || has 'b') then
      [{ manner := whole, skipsFirst := has 'b', skipsLast := has 'b' }]
    else keys
  match (keys.map Key.manner).findSome? Manner.clash? with
  | some cs => throw ("options '-".toList ++ cs ++ "' are incompatible".toList)
  | none =>
    return { separator, keys, reversed := has 'r', stable := has 's', unique := has 'u' }

def sort (self : String) (args : List Raw) : Act Nat := do
  let me := self.toList
  let told (r : Notice) : Act Nat := r.act self 2
  let refuse (t : Raw) : Act Nat := told (.complain (me ++ ": ".toList ++ t) 2)
  match Letter.split sortGrammar (newer args) with
  | .error f => told (f.report self 2)
  | .ok (os, names) =>
    match os.mapM chosen? with
    | .error r => told r
    | .ok os =>
      match rule? os with
      | .error t => refuse t
      | .ok r =>
        let checks := Letter.last? "cC" os
        let stop := if Letter.has 'z' os then '\x00' else '\n'
        let outputs := (os.filter (·.1 = 'o')).map Prod.snd
        if checks.isSome && 1 < names.length then
          refuse ("extra operand ".toList ++ Quotation.text ((names[1]?).getD []) ++
            " not allowed with -".toList ++ [checks.getD 'c'])
        else if outputs.eraseDups.length > 1 then refuse "multiple output files specified".toList
        else
          let reading : Reading := {
            program := self, fatal := true, write := fun _ => ([], 0)
            complaint := fun name e =>
              let what := if e = .EISDIR then ": read failed: "
                else if name = ['-'] then ": stat failed: "
                else if checks.isSome then ": open failed: " else ": cannot read: "
              me ++ what.toList ++ Quotation.name name ++ ": ".toList ++ e.text.toList }
          let items ← reading.readEach (if names = [] then [['-']] else names)
          match items.findSome? fun i => match i with
              | .error x => some x
              | .ok _ => none with
          | some (name, e) =>
            told (.complain (reading.complaint name e) 2)
          | none =>
            let texts := (items.filterMap Except.toOption).map fun s =>
              (unitsOf stop s.text).map r.item
            if let some c := checks then
              match r.disorder 1 texts.flatten with
              | none => return 0
              | some (n, line) =>
                if c = 'c' then
                  Notice.warn (me ++ ": ".toList ++ (names.headD ['-']) ++ [':'] ++
                    Numeral.natText 10 n ++ ": disorder: ".toList ++ line)
                return 1
            else
              let lines := if Letter.has 'm' os then r.merge texts else r.sort texts.flatten
              let text := lines.flatMap fun i => i.line ++ [stop]
              match outputs with
              | [] => told (.say text 0)
              | name :: _ =>
                match ← Act.ask (.open name
                    { writes := true, creates := true, truncates := true }) with
                | .error e =>
                  refuse ("open failed: ".toList ++ Quotation.name name ++ ": ".toList ++
                    e.text.toList)
                | .ok stream =>
                  let _ ← Act.write stream text
                  return 0

end ServiceStack.Order
