import ServiceStack.Machine.Tool.Reading
import ServiceStack.Machine.Tool.Regex.Grammar

/-!
The program that keeps the lines in which something is found. Options tell what counts as found and
what is written of a line: all of it, the parts that match, its number, or only how many there are.
-/

namespace ServiceStack.Search

/-- What lines are looked through for; nothing is found if there is no expression. -/
structure Query where
  regex : Option Regex
  mode : Regex.Mode
  whole : Bool
  word : Bool
  inverted : Bool

/-- The expression of some texts, each of them an alternative. -/
def regex? (os : List (Char × Raw)) (texts : List Raw) : Except Regex.Fault (Option Regex) := do
  let kind := Letter.last? "EFGP" os
  let s := Regex.Spelling.ofLines (kind = some 'E' || kind = some 'P')
  let rs ← texts.mapM fun t =>
    if kind = some 'F' then Except.ok (Regex.ofWords t) else (Regex.read s t).map Prod.fst
  return rs.reverse.foldl (fun r a => some (match r with
    | none => a
    | some b => .either a b)) none

/-- Whether a match may end at some place. -/
def Query.admits (q : Query) (s t : Regex.Spot) : Bool :=
  let edge := fun (c : Option Char) => !c.any Regex.isWordChar
  (!q.whole || s.before = 0 && t.rest = []) &&
    (!q.word || edge s.previous && edge t.rest.head?)

/-- The first match from a place on, and what follows it. -/
def Query.find (q : Query) (r : Regex) (s : Regex.Spot) : Option (Regex.Spot × Regex.Spot) :=
  if q.whole || q.word then go r s.rest s else Regex.search q.mode r s
where
  go (r : Regex) : Raw → Regex.Spot → Option (Regex.Spot × Regex.Spot)
    | rest, s =>
      let ends := (Regex.ways q.mode (!r.asks) r s).filter (q.admits s)
      match Regex.farthest ends, rest with
      | some t, _ => some (s, t)
      | none, [] => none
      | none, _ :: cs => go r cs (s.skip 1)

def Query.holds (q : Query) (line : Raw) : Bool :=
  (q.regex.any fun r => (q.find r (.start line)).isSome) != q.inverted

/-- The parts of a line that match and what stands between them. -/
def Query.parts (q : Query) (line : Raw) : List (Bool × Nat × Raw) :=
  match q.regex with
  | none => [(false, 0, line)]
  | some r => go r (line.length + 1) (.start line) (.start line)
where
  go (r : Regex) : Nat → Regex.Spot → Regex.Spot → List (Bool × Nat × Raw)
    | 0, _, _ => []
    | n + 1, past, s =>
      match q.find r s with
      | none => [(false, past.before, past.rest)]
      | some (a, b) =>
        if a.before = b.before then
          if b.rest = [] then [(false, past.before, past.rest)] else go r n past (b.skip 1)
        else (false, past.before, past.upTo a) :: (true, a.before, a.upTo b) :: go r n b b

/-! ### What is written -/

structure Line where
  text : Raw
  number : Nat
  offset : Nat
  chosen : Bool

/-- What is written of the lines that are kept. -/
structure Style where
  named : Bool
  label : Raw
  options : List (Char × Raw)
  /-- how many lines before and behind a line are shown with it -/
  before : Nat := 0
  behind : Nat := 0
  /-- what stands between lines that do not follow each other -/
  separator : Option Raw := none
  painted : Bool := false
  stop : Char := '\n'
  most : Option Nat := none

namespace Style

variable (y : Style)

def has (c : Char) : Bool := Letter.has c y.options

/-- Whether only something about the lines is told. -/
def isBrief : Bool := y.has 'q' || y.has 'l' || y.has 'L' || y.has 'c'

def paint (code : String) (t : Raw) : Raw :=
  if y.painted && t ≠ [] then
    "\x1b[".toList ++ code.toList ++ "m\x1b[K".toList ++ t ++ "\x1b[m\x1b[K".toList
  else t

def shownName (name : Raw) : Raw := if name = ['-'] then y.label else name

/-- What stands before a line or a part of it. -/
def front (name : Raw) (l : Line) (shift : Nat) : Raw :=
  let sign := y.paint "36" [if l.chosen then ':' else '-']
  let wide := fun (n : Nat) =>
    let ds := Numeral.natText 10 n
    (if y.has 'T' then List.replicate (19 - ds.length) ' ' else []) ++ ds
  let title := if y.named then
      y.paint "35" (y.shownName name) ++ (if y.has 'Z' then ['\x00'] else sign)
    else []
  let numbers := (if y.has 'n' then y.paint "32" (wide l.number) ++ sign else []) ++
    (if y.has 'b' then y.paint "32" (wide (l.offset + shift)) ++ sign else [])
  title ++ numbers ++ (if y.has 'T' && (title ≠ [] || numbers ≠ []) then ['\t'] else [])

/-- A line, or the parts of it that match. -/
def shown (q : Query) (name : Raw) (l : Line) : Raw :=
  if y.has 'o' then
    if !l.chosen || q.inverted then []
    else ((q.parts l.text).filter Prod.fst).flatMap fun p =>
      y.front name l p.2.1 ++ y.paint "01;31" p.2.2 ++ [y.stop]
  else
    let text := if y.painted && l.chosen && !q.inverted then
        (q.parts l.text).flatMap fun p => if p.1 then y.paint "01;31" p.2.2 else p.2.2
      else l.text
    y.front name l 0 ++ text ++ [y.stop]

end Style

/-- The lines of a text with their numbers and places. -/
def linesOf (q : Query) (stop : Char) (text : Raw) : List Line :=
  let parts := text.splitOn stop
  let parts := if parts.getLast? = some [] then parts.dropLast else parts
  go 1 0 parts
where
  go (number offset : Nat) : List Raw → List Line
    | [] => []
    | l :: ls => ⟨l, number, offset, q.holds l⟩ :: go (number + 1) (offset + l.length + 1) ls

/-- Lines up to the last one that is chosen, if only some may be, and so many behind it. -/
def Style.cut (y : Style) : Nat → List Line → List Line
  | _, [] => []
  | 0, ls => (ls.take y.behind).map fun l => { l with chosen := false }
  | n + 1, l :: ls => l :: y.cut (if l.chosen then n else n + 1) ls

/-- The lines that are shown: those chosen and those near them. -/
def Style.near (y : Style) (ls : List Line) : List Line :=
  let ahead := (mark y.before ls.reverse).reverse
  let behind := mark y.behind ls
  ((ls.zip (ahead.zip behind)).filter fun r => r.2.1 || r.2.2).map Prod.fst
where
  /-- Whether a chosen line stands at most so far before each line. -/
  mark (reach : Nat) (ls : List Line) : List Bool := go reach 0 ls
  go (reach room : Nat) : List Line → List Bool
    | [] => []
    | l :: ls => if l.chosen then true :: go reach reach ls
      else decide (0 < room) :: go reach (room - 1) ls

/-- What is written of the lines shown of one text, whether anything was written before, and whether
anything was written at the end. -/
def Style.rows (y : Style) (q : Query) (name : Raw) (used : Bool) (ls : List Line) : Raw :=
  go used none ls
where
  go (used : Bool) (last : Option Nat) : List Line → Raw
    | [] => []
    | l :: ls =>
      let gap := used && last.all (· + 1 ≠ l.number)
      (match gap, y.separator with
        | true, some s => y.paint "36" s ++ ['\n']
        | _, _ => []) ++ y.shown q name l ++ go true (some l.number) ls

/-- What is written of one text, and whether lines of it were chosen. -/
def Style.report (y : Style) (q : Query) (used : Bool) (s : Source) : Raw × Bool :=
  let ls := linesOf q y.stop s.text
  let ls := match y.most with
    | some m => y.cut m ls
    | none => ls
  let chosen := ls.any Line.chosen
  let binary := s.text.contains '\x00' && y.stop = '\n' && !y.has 'a'
  let hit := chosen && !(binary && y.has 'I')
  let title := y.paint "35" (y.shownName s.name) ++ [if y.has 'Z' then '\x00' else '\n']
  let text :=
    if y.has 'q' then []
    else if y.has 'l' then (if hit then title else [])
    else if y.has 'L' then (if hit then [] else title)
    else if y.has 'c' then
      let n := if hit then (ls.filter Line.chosen).length else 0
      (if y.named then
        y.paint "35" (y.shownName s.name) ++ (if y.has 'Z' then ['\x00'] else y.paint "36" [':'])
        else []) ++ Numeral.natText 10 n ++ ['\n']
    else if binary then []
    else y.rows q s.name used (y.near ls)
  (text, hit)

/-- What is told of a text that is not shown because it holds more than letters. -/
def Style.remark (y : Style) (self : String) (q : Query) (s : Source) : Raw :=
  if s.text.contains '\x00' && y.stop = '\n' && !y.has 'a' && !y.has 'I' && !y.isBrief &&
      (linesOf q y.stop s.text).any Line.chosen then
    self.toList ++ ": ".toList ++ y.shownName s.name ++ ": binary file matches\n".toList
  else []

/-! ### Words of the program -/

def grammar : Letter.Grammar where
  plain := "EFGPivcqnoxhHslLwayrRIbTZzUK0123456789"
  valued := "efmABCdDNSOW"
  optional := "="
  long := [("extended-regexp", 'E'), ("fixed-regexp", 'F'), ("fixed-strings", 'F'),
    ("basic-regexp", 'G'), ("perl-regexp", 'P'), ("ignore-case", 'i'), ("no-ignore-case", 'K'),
    ("invert-match", 'v'), ("count", 'c'), ("quiet", 'q'), ("silent", 'q'), ("line-number", 'n'),
    ("only-matching", 'o'), ("line-regexp", 'x'), ("no-filename", 'h'), ("with-filename", 'H'),
    ("no-messages", 's'), ("files-with-matches", 'l'), ("files-without-match", 'L'),
    ("word-regexp", 'w'), ("text", 'a'), ("regexp", 'e'), ("file", 'f'), ("max-count", 'm'),
    ("after-context", 'A'), ("before-context", 'B'), ("context", 'C'), ("byte-offset", 'b'),
    ("initial-tab", 'T'), ("null", 'Z'), ("null-data", 'z'), ("recursive", 'r'),
    ("dereference-recursive", 'R'), ("binary", 'U'), ("binary-files", 'D'),
    ("directories", 'd'), ("devices", 'W'), ("label", 'N'), ("group-separator", 'S'),
    ("no-group-separator", 'O'), ("color", '='), ("colour", '='), ("line-buffered", 'U'),
    ("include", 'W'), ("exclude", 'W'), ("exclude-dir", 'W')]

def about : Raw :=
  "Usage: grep [OPTION]... PATTERNS [FILE]...\nTry 'grep --help' for more information.".toList

/-- The letter for the value of a choice. -/
def settle (o : Char × Raw) : Char × Raw :=
  match o.1, String.ofList o.2 with
  | 'D', "text" => ('a', [])
  | 'D', "without-match" => ('I', [])
  | 'd', "recurse" => ('r', [])
  | _, _ => o

/-- The style that the options ask for. -/
def styleOf (os : List (Char × Raw)) (named : Bool) : Style :=
  let number := fun (c : Char) => (Letter.value? c os).bind Numeral.natural?
  let digits := (os.map Prod.fst).filter Char.isDigit
  let around := if digits ≠ [] then some (Numeral.ofDigits 10 digits) else number 'C'
  let spaced := digits ≠ [] || os.any fun o => "ABC".contains o.1
  { named, label := (Letter.value? 'N' os).getD "(standard input)".toList, options := os
    before := (number 'B' <|> around).getD 0
    behind := (number 'A' <|> around).getD 0
    separator := if !spaced || Letter.has 'O' os then none
      else some ((Letter.value? 'S' os).getD ['-', '-'])
    painted := Letter.value? '=' os = some "always".toList
    stop := if Letter.has 'z' os then '\x00' else '\n'
    most := number 'm' }

/-- The files below a directory. -/
def filesBelow (d : Disk) : Nat → Nat → Raw → List Raw
  | 0, _, _ => []
  | fuel + 1, n, path =>
    (d.entries n).flatMap fun e =>
      let name := path ++ Raw.ofOctets e.1
      match d.content? e.2 with
      | some (.directory _ _) => filesBelow d fuel e.2 (name ++ ['/'])
      | some (.plain _) => [name]
      | _ => []

/-- The files that are read, where directories stand for what is below them. -/
def expand (s : Scene) (names : List Raw) : List Raw :=
  if names = [] then filesBelow s.disk 100 s.place []
  else names.flatMap fun name =>
    match s.disk.resolve s.place (Raw.toOctets name) with
    | .ok (.inode n) =>
      if s.disk.isDirectory n then
        filesBelow s.disk 100 n (if name.getLast? = some '/' then name else name ++ ['/'])
      else [name]
    | _ => [name]

/-- The expressions that the options give, one on each line. -/
def givenTexts : List (Char × Raw) → Act (Except (Raw × Errno) (List Raw))
  | [] => return .ok []
  | (c, v) :: os => do
    let mine : Except (Raw × Errno) (List Raw) ←
      if c = 'e' then pure (.ok (v.splitOn '\n'))
      else if c = 'f' then do
        match ← if v = ['-'] then Act.readAll 0 else Act.readFile v with
        | .ok t => pure (.ok (Raw.lines t))
        | .error e => pure (.error (v, e))
      else pure (.ok [])
    match mine, ← givenTexts os with
    | .ok a, .ok b => return .ok (a ++ b)
    | .error e, _ | _, .error e => return .error e

/-- Keeps the lines that match. It ends with 1 if there are none. -/
def grep (self : String) (args : List Raw) : Act Nat := do
  let refuse (t : Raw) : Act Nat :=
    (Notice.complain (self.toList ++ ": ".toList ++ t) 2).act self 2
  match Letter.split grammar args with
  | .error f => refuse (f.text ++ '\n' :: about)
  | .ok (os, names) =>
    let os := os.map settle
    let isNumber := fun (o : Char × Raw) => (Numeral.natural? o.2).isSome
    if let some o := os.find? fun o => "ABC".contains o.1 && !isNumber o then
      refuse (o.2 ++ ": invalid context length argument".toList)
    else if os.any fun o => o.1 = 'm' && !isNumber o && o.2.head? ≠ some '-' then
      refuse "invalid max count".toList
    else
      let hasTexts := os.any fun o => o.1 = 'e' || o.1 = 'f'
      if !hasTexts && names = [] then (Notice.complain about 2).act self 2
      else match ← givenTexts os with
        | .error (name, e) => refuse (name ++ ": ".toList ++ e.text.toList)
        | .ok texts =>
          let texts := if hasTexts then texts else (names.headD []).splitOn '\n'
          match regex? os texts with
          | .error f => refuse f.text
          | .ok r =>
            let files := if hasTexts then names else names.tail
            let deep := Letter.has 'r' os || Letter.has 'R' os
            let named : Bool := match Letter.last? "hH" os with
              | some c => c = 'H'
              | none => 1 < files.length || deep
            let scene ← Act.look
            let files := if deep then expand scene files else files
            let y := styleOf os named
            let q : Query := {
              regex := r, mode := { fold := (Letter.last? "iyK" os).any (· ≠ 'K') }
              whole := Letter.has 'x' os, word := Letter.has 'w' os
              inverted := Letter.has 'v' os }
            if y.most = some 0 || deep && files = [] then return 1
            else Reading.act {
              program := self, names := files, failed := 2, mute := Letter.has 's' os
              enough := fun text => text ≠ [] && (y.has 'q' || y.most.isSome) &&
                (let n := ((linesOf q y.stop text).filter Line.chosen).length
                 y.has 'q' && 0 < n || y.most.any (· + y.behind ≤ n))
              write := fun sources =>
                let rows := sources.foldl (fun rows s =>
                  let r := y.report q (rows.any fun r => r.1 ≠ []) s
                  rows ++ [r]) []
                (rows.map Prod.fst, if rows.any Prod.snd then 0 else 1)
              remarks := fun sources => sources.flatMap (y.remark self q)
              settles := fun code => code = 0 && Letter.has 'q' os }

end ServiceStack.Search
