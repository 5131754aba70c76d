import ServiceStack.Machine.Tool.Quotation
import ServiceStack.Machine.Tool.Order.Basic

/-!
Programs that take columns out of lines and put lines beside each other.
-/

namespace ServiceStack.Column

open ServiceStack.Order (unitsOf)

/-! ### Columns that are kept -/

/-- From one column to another, or to the end. -/
structure Span where
  first : Nat
  last : Option Nat

def Span.has (s : Span) (n : Nat) : Bool := s.first ≤ n && s.last.all (n ≤ ·)

/-- One member of a list of columns. `fields` tells what is counted. -/
def span? (fields : Bool) (a : Raw) : Except Raw Span := do
  let number := fun (ds : Raw) =>
    match Numeral.natural? ds with
    | some n =>
      if n = 0 then Except.error zero
      else if Numeral.wordSize ≤ n + 1 then .error ((if fields then "field number "
        else "byte/character offset ").toList ++ Quotation.text ds ++ " is too large".toList)
      else .ok n
    | none => .error (if ds.all fun c => c.isDigit || c = '-' then broken
        else (if fields then "invalid field value " else "invalid byte/character position ").toList
          ++ Quotation.text ds)
  match a.splitOn '-' with
  | [[]] => throw zero
  | [n] =>
    let n ← number n
    return ⟨n, some n⟩
  | [[], []] => throw "invalid range with no endpoint: -".toList
  | [lo, hi] =>
    let lo ← if lo = [] then .ok 1 else number lo
    let hi ← if hi = [] then .ok none else (number hi).map some
    if hi.any (· < lo) then throw "invalid decreasing range".toList
    return ⟨lo, hi⟩
  | _ => throw broken
where
  zero : Raw := (if fields then "fields are numbered from 1"
    else "byte/character positions are numbered from 1").toList
  broken : Raw :=
    (if fields then "invalid field range" else "invalid byte or character range").toList

/-- What is kept of each line. -/
structure Choice where
  fields : Bool
  spans : List Span
  inverted : Bool
  delimiter : Char
  separator : Option Raw
  onlyDelimited : Bool
  stop : Char

def Choice.has (y : Choice) (n : Nat) : Bool := (y.spans.any (·.has n)) != y.inverted

/-- Runs of bytes that are kept, where a gap or the beginning of a range stands between them. -/
def Choice.bytes (y : Choice) (l : Raw) : Raw :=
  match y.separator with
  | none => go 1 l
  | some s => s.intercalate (runs 1 none [] l)
where
  go (n : Nat) : Raw → Raw
    | [] => []
    | c :: cs => if y.has n then c :: go (n + 1) cs else go (n + 1) cs
  /-- each run, with the number of the last byte taken -/
  runs (n : Nat) (last : Option Nat) (run : Raw) : Raw → List Raw
    | [] => if run = [] then [] else [run.reverse]
    | c :: cs =>
      if !y.has n then runs (n + 1) last run cs
      else if run ≠ [] && (last ≠ some (n - 1) || begins n) then
        run.reverse :: runs (n + 1) (some n) [c] cs
      else runs (n + 1) (some n) (c :: run) cs
  /-- whether a range begins here, and none goes on from before -/
  begins (n : Nat) : Bool :=
    !y.inverted && !(y.spans.any fun s => s.first < n && s.has n)

def Choice.line (y : Choice) (l : Raw) : Option Raw :=
  if !y.fields then some (y.bytes l)
  else if !l.contains y.delimiter then (if y.onlyDelimited then none else some l)
  else
    let parts := (l.splitOn y.delimiter).zipIdx 1
    some ((y.separator.getD [y.delimiter]).intercalate
      ((parts.filter fun p => y.has p.2).map Prod.fst))

/-- A text whose lines are separated by line breaks themselves: its lines are its fields. -/
def Choice.wholeText (y : Choice) (text : Raw) : Raw :=
  let bare := if text.getLast? = some '\n' then text.dropLast else text
  let parts := (bare.splitOn '\n').zipIdx 1
  let kept := (parts.filter fun p => y.has p.2).map Prod.fst
  if text = [] then []
  else if parts.length = 1 then (if y.onlyDelimited then [] else bare ++ [y.stop])
  else (y.separator.getD ['\n']).intercalate kept ++ [y.stop]

def cutGrammar : Letter.Grammar where
  plain := "snzC"
  valued := "bcdfO"
  long := [("bytes", 'b'), ("characters", 'c'), ("delimiter", 'd'), ("fields", 'f'),
    ("only-delimited", 's'), ("zero-terminated", 'z'), ("complement", 'C'),
    ("output-delimiter", 'O')]

def choice? (os : List (Char × Raw)) : Except Raw Choice := do
  let delimiter := match Letter.value? 'd' os with
    | none => some '\t'
    | some [] => some '\x00'
    | some [c] => some c
    | some _ => none
  let some delimiter := delimiter | throw "the delimiter must be a single character".toList
  match os.filter fun o => "bcf".contains o.1 with
  | [] => throw "you must specify a list of bytes, characters, or fields".toList
  | _ :: _ :: _ => throw "only one list may be specified".toList
  | [(unit, v)] =>
    let fields := unit = 'f'
    if !fields && Letter.has 'd' os then
      throw "an input delimiter may be specified only when operating on fields".toList
    if !fields && Letter.has 's' os then
      throw "suppressing non-delimited lines makes sense\n\tonly when operating on fields".toList
    let spans ← (v.splitOnP fun c => c = ',' || c = ' ' || c = '\t').mapM (span? fields)
    return {
      fields, spans, inverted := Letter.has 'C' os, delimiter
      separator := Letter.value? 'O' os, onlyDelimited := Letter.has 's' os
      stop := if Letter.has 'z' os then '\x00' else '\n' }

def cut (self : String) (args : List Raw) : Act Nat :=
  match Letter.split cutGrammar args with
  | .error f => (f.report self 1).act self 1
  | .ok (os, names) =>
    match choice? os with
    | .error t => (Letter.usage self t 1).act self 1
    | .ok y => Reading.act {
        program := self, names := names
        complaint := Quotation.faultLine self.toList
        write := fun sources => (sources.map fun s =>
          if y.fields && y.delimiter = '\n' && y.stop = '\n' then y.wholeText s.text
          else ((unitsOf y.stop s.text).filterMap y.line).flatMap (· ++ [y.stop]), 0) }

/-! ### Lines beside each other -/

/-- What stands between lines, in turn. An empty one stands for nothing. -/
def separators : Raw → List Raw
  | '\\' :: c :: cs =>
    (match [('0', []), ('n', ['\n']), ('t', ['\t']), ('b', ['\x08']), ('f', ['\x0c']),
        ('r', ['\r']), ('v', ['\x0b']), ('\\', ['\\'])].lookup c with
      | some t => t
      | none => [c]) :: separators cs
  | c :: cs => [c] :: separators cs
  | [] => []

/-- Lines with separators in turn between them. -/
def laced (ds : List Raw) : Nat → List Raw → Raw
  | _, [] => []
  | _, [l] => l
  | i, l :: ls => l ++ ((ds[i % ds.length]?).getD []) ++ laced ds (i + 1) ls

/-- Rows of one line of each text, as long as any of them has one. -/
def beside (ds : List Raw) (stop : Char) : Nat → List (List Raw) → Raw
  | 0, _ => []
  | n + 1, texts =>
    if texts.all (· = []) then []
    else laced ds 0 (texts.map fun t => t.headD []) ++ [stop] ++
      beside ds stop n (texts.map List.tail)

/-- The lines that each dash gets when several take lines of the input in turn. -/
def dealt (names : List Raw) (sources : List Source) (stop : Char) : List (List Raw) :=
  let count := (names.filter (· = ['-'])).length
  let input := match sources.find? fun s => s.name = ['-'] with
    | some s => unitsOf stop s.text
    | none => []
  let every := fun (k : Nat) => (input.zipIdx.filter fun l => l.2 % count = k).map Prod.fst
  go every 0 sources
where
  go (every : Nat → List Raw) : Nat → List Source → List (List Raw)
    | _, [] => []
    | k, s :: ss =>
      if s.name = ['-'] then every k :: go every (k + 1) ss
      else unitsOf stop s.text :: go every k ss

def paste (self : String) (args : List Raw) : Act Nat := do
  let g : Letter.Grammar := {
    plain := "sz", valued := "d"
    long := [("delimiters", 'd'), ("serial", 's'), ("zero-terminated", 'z')] }
  match Letter.split g args with
  | .error f => (f.report self 1).act self 1
  | .ok (os, names) =>
    let given := (Letter.value? 'd' os).getD ['\t']
    let slashes := (given.reverse.takeWhile (· = '\\')).length
    if slashes % 2 = 1 then
      (Notice.complain (self.toList ++
        ": delimiter list ends with an unescaped backslash: ".toList ++ given) 1).act self 1
    else
      let ds := if given = [] then [[]] else separators given
      let stop := if Letter.has 'z' os then '\x00' else '\n'
      let names := if names = [] then [['-']] else names
      let reading : Reading := {
        program := self, names, complaint := Quotation.faultLine self.toList
        fatal := !Letter.has 's' os
        write := fun sources =>
          if Letter.has 's' os then
            (sources.map fun s => laced ds 0 (unitsOf stop s.text) ++ [stop], 0)
          else
            let texts := dealt names sources stop
            let most := (texts.map List.length).foldl max 0
            (Reading.atEnd sources (beside ds stop (most + 1) texts), 0) }
      reading.act

end ServiceStack.Column
