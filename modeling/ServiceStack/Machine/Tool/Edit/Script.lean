import ServiceStack.Machine.Tool.Regex.Grammar

/-!
Scripts that change lines. A script is a row of commands, each with the lines that it is for; braces
make one command of several. Jumps lead to places in the row.
-/

namespace ServiceStack.Edit

/-- An expression, or the one that was used last. -/
abbrev Pattern := Option (Regex × Regex.Mode)

/-- A line that a command looks for. -/
inductive Address where
  | line (n : Nat)
  | step (first distance : Nat)
  | last
  | regex (r : Pattern)

/-- Where a range ends. -/
inductive Closing where
  | line (n : Nat)
  | last
  | regex (r : Pattern)
  /-- so many lines further on -/
  | further (n : Nat)
  /-- at the next multiple -/
  | multiple (n : Nat)

/-- Which lines a command is for. -/
inductive Range where
  | all
  | one (a : Address)
  | span (opening : Address) (closing : Closing)
  /-- from the beginning; the first line can already be the end -/
  | head (r : Pattern)

/-- A part of what is put for a match. -/
inductive Part where
  | text (t : Raw)
  | group (n : Nat)
  /-- from here on, or for the next letter, another case -/
  | letters (c : Char)

structure Exchange where
  regex : Pattern
  parts : List Part
  /-- the first match that is replaced -/
  which : Nat := 1
  every : Bool := false
  prints : Bool := false
  file : Option Raw := none

inductive Action where
  /-- the end of a block or a label -/
  | mark
  /-- passes over a block unless the line is meant -/
  | block (behind : Nat)
  | number
  | after (text : Raw)
  | before (text : Raw)
  | instead (text : Raw)
  | jump (place : Nat)
  /-- jumps if something was replaced since the line was read, or if nothing was -/
  | jumpIf (replaced : Bool) (place : Nat)
  | delete
  | deleteFirst
  | name
  /-- from the store to the line, or the other way; behind what is there, or in its place -/
  | load (adds : Bool)
  | store (adds : Bool)
  | swap
  | list (width : Option Nat)
  | next
  | append
  | print
  | printFirst
  | quit (code : Nat) (silent : Bool)
  | readFile (name : Raw)
  | readLine (name : Raw)
  | write (name : Raw)
  | writeFirst (name : Raw)
  | exchange (x : Exchange)
  | translate (old new : Raw)
  | clear
  | none

structure Command where
  range : Range
  inverted : Bool
  action : Action

/-- What is wrong with a script, and how much of it lies behind the place. -/
structure Fault where
  text : Raw
  left : Option Nat

def fail {α : Type} (text : String) (rest : Raw) : Except Fault (α × Raw) :=
  .error ⟨text.toList, some rest.length⟩

def isGap (c : Char) : Bool := c = ' ' || c = '\t'

def skipGap (cs : Raw) : Raw := cs.dropWhile isGap

/-! ### Texts between separators -/

/-- Where a place in an expression is: outside of sets, right behind the opening bracket of a set or
the sign that inverts it, further on in it, or in the name of a class. -/
inductive Place where
  | outside
  | opened
  | fresh
  | filled
  | naming
  | named (sign : Char)
  | leaving

/-- Where a byte leads from some place, with the byte behind it. -/
def Place.step (p : Place) (c : Char) (next : Option Char) : Place :=
  let isNamed := c = '[' && next.any fun d => d = ':' || d = '.' || d = '='
  let inside := if isNamed then naming else filled
  match p with
  | .outside => if c = '[' then .opened else .outside
  | .opened => if c = '^' then .fresh else inside
  | .fresh => inside
  | .filled => if c = ']' then .outside else inside
  | .naming => .named c
  | .named k => if c = k && next = some ']' then .leaving else .named k
  | .leaving => .filled

/-- The text up to a separator, and what follows it. A line break must be hidden, and in an
expression a set in brackets hides the separator. -/
def delimited? (d : Char) (regex : Bool) (cs : Raw) : Option (Raw × Raw) :=
  go .outside [] cs
where
  go (p : Place) (found : Raw) : Raw → Option (Raw × Raw)
    | [] => none
    | '\\' :: c :: cs =>
      let next : Place := match p with
        | .outside => .outside
        | p => if c = ']' then .outside else p.step c none
      if regex && c = 'n' && d ≠ 'n' then go next ('\n' :: found) cs
      else if p matches .outside && c = d && (regex || c ≠ '&') then go next (c :: found) cs
      else go next (c :: '\\' :: found) cs
    | c :: cs =>
      if c = '\n' then none
      else if p matches .outside && c = d then some (found.reverse, cs)
      else go (if regex then p.step c cs.head? else .outside) (c :: found) cs

/-- The number behind a letter that names a base, and how many digits it has. -/
def coded? (c : Char) (cs : Raw) : Option (Nat × Nat) :=
  let number := fun (base most : Nat) =>
    let ds := (cs.take most).takeWhile (Numeral.isDigit base)
    if ds = [] then none else some (Numeral.ofDigits base ds, ds.length)
  match c with
  | 'd' => number 10 3
  | 'o' => number 8 3
  | 'x' => number 16 2
  | 'c' => cs.head?.map fun k => (k.toUpper.toNat ^^^ 64, 1)
  | _ => none

/-- Bytes for the letters behind a backslash; `hide` tells which bytes keep a backslash. -/
def decoded (hide : Char → Bool) : Nat → Raw → Raw
  | _, [] => []
  | n + 1, _ :: cs => decoded hide n cs
  | 0, '\\' :: c :: cs =>
    match [('a', '\x07'), ('f', '\x0c'), ('r', '\r'), ('t', '\t'), ('v', '\x0b')].lookup c with
    | some b => b :: decoded hide 1 (c :: cs)
    | none =>
      match coded? c cs with
      | some (n, used) =>
        let b := Raw.byte n
        (if hide b then ['\\', b] else [b]) ++ decoded hide (used + 1) (c :: cs)
      | none => '\\' :: c :: decoded hide 1 (c :: cs)
  | 0, c :: cs => c :: decoded hide 0 cs

/-- How expressions are read in a script. -/
structure Spelling where
  extended : Bool

/-- An expression from its text; an empty one is the one used last. -/
def pattern? (y : Spelling) (text : Raw) (fold lines : Bool) (rest : Raw) :
    Except Fault (Pattern × Nat) :=
  if text = [] then .ok (none, 9)
  else
    let hide := fun (c : Char) =>
      "^$.*[]\\".contains c || y.extended && "+?()\x7b\x7d|".contains c
    let spelling := { Regex.Spelling.ofEdits y.extended with lines }
    match Regex.read spelling (decoded hide 0 text) with
    | .ok r => .ok (some (r.1, { fold, lines }), r.2)
    | .error .classSpelling => .error ⟨Regex.Fault.classSpelling.text, none⟩
    | .error f => .error ⟨f.text, some rest.length⟩

/-! ### Addresses -/

/-- The letters behind an expression: either case, and lines within the text. -/
def flags (cs : Raw) : Bool × Bool × Raw :=
  let fs := cs.takeWhile fun c => c = 'I' || c = 'M'
  (fs.contains 'I', fs.contains 'M', cs.drop fs.length)

def regexAddress (y : Spelling) (d : Char) (cs : Raw) : Except Fault (Pattern × Raw) :=
  match delimited? d true cs with
  | none => fail "unterminated address regex" []
  | some (text, rest) => do
    let (fold, lines, rest) := flags rest
    return ((← pattern? y text fold lines rest).1, rest)

def number (cs : Raw) : Nat × Raw :=
  let row := Numeral.digits 10 cs
  (Numeral.ofDigits 10 row.1, row.2)

def address? (y : Spelling) (cs : Raw) : Except Fault (Option Address × Raw) :=
  match cs with
  | '$' :: rest => .ok (some .last, rest)
  | '/' :: rest => (regexAddress y '/' rest).map fun r => (some (.regex r.1), r.2)
  | '\\' :: d :: rest => (regexAddress y d rest).map fun r => (some (.regex r.1), r.2)
  | c :: rest =>
    if c.isDigit then
      let n := number cs
      match skipGap n.2 with
      | '~' :: rest =>
        let d := number (skipGap rest)
        .ok (some (if d.1 = 0 then .line n.1 else .step n.1 d.1), d.2)
      | _ => .ok (some (.line n.1), n.2)
    else if c = '+' || c = '~' then
      fail "invalid usage of +N or ~N as first address" rest
    else .ok (none, cs)
  | [] => .ok (none, cs)

def closing? (y : Spelling) (cs : Raw) : Except Fault (Closing × Raw) := do
  match cs with
  | '+' :: rest => return (.further (number rest).1, (number rest).2)
  | '~' :: rest => return (.multiple (number rest).1, (number rest).2)
  | _ =>
    match ← address? y cs with
    | (some (.line n), rest) => return (.line n, rest)
    | (some (.step n _), rest) => return (.line n, rest)
    | (some .last, rest) => return (.last, rest)
    | (some (.regex r), rest) => return (.regex r, rest)
    | (none, rest) => fail "unexpected \x60,'" rest.tail

def range? (y : Spelling) (cs : Raw) : Except Fault (Range × Raw) := do
  match ← address? y cs with
  | (none, rest) => return (.all, rest)
  | (some a, rest) =>
    match a, skipGap rest with
    | a, ',' :: rest =>
      let (b, rest) ← closing? y (skipGap rest)
      match a, b with
      | .line 0, .regex r => return (.head r, rest)
      | .line 0, _ => fail "invalid usage of line address 0" rest
      | a, b => return (.span a b, rest)
    | .line 0, _ => fail "invalid usage of line address 0" rest
    | a, _ => return (.one a, rest)

/-! ### Commands -/

/-- The text of a command that puts lines, and what follows it. -/
def lineText (cs : Raw) : Raw × Raw :=
  let cs := match skipGap cs with
    | '\\' :: rest =>
      match skipGap rest with
      | '\n' :: rest => rest
      | _ => rest
    | rest => rest
  let r := go [] cs
  let bare := plain (decoded (· = '\\') 0 r.1)
  (if r.1 = [] && r.2.isNone then [] else bare ++ ['\n'], r.2.getD [])
where
  /-- up to a line break that is not hidden -/
  go (found : Raw) : Raw → Raw × Option Raw
    | [] => (found.reverse, none)
    | '\\' :: c :: cs => go (c :: '\\' :: found) cs
    | c :: cs => if c = '\n' then (found.reverse, some cs) else go (c :: found) cs
  plain : Raw → Raw
    | '\\' :: c :: cs => (if c = 'n' then '\n' else c) :: plain cs
    | c :: cs => c :: plain cs
    | [] => []

/-- What is put for a match, and the highest group in it. -/
def parts (text : Raw) : List Part × Nat :=
  let rs := go 0 (decoded (fun c => c = '\\' || c = '&') 0 text)
  (rs, rs.foldl (fun n p => match p with
    | .group m => max n m
    | _ => n) 0)
where
  go : Nat → Raw → List Part
    | _, [] => []
    | n + 1, _ :: cs => go n cs
    | 0, '&' :: cs => .group 0 :: go 0 cs
    | 0, '\\' :: c :: cs =>
      (if c.isDigit then .group (c.toNat - 48)
      else if "LUElu".contains c then .letters c
      else .text [if c = 'n' then '\n' else c]) :: go 1 (c :: cs)
    | 0, c :: cs =>
      let more := cs.takeWhile fun c => c ≠ '&' && c ≠ '\\'
      .text (c :: more) :: go more.length cs

/-- What may follow a command. -/
def ended (cs : Raw) : Except Fault (Unit × Raw) :=
  match skipGap cs with
  | [] => .ok ((), [])
  | c :: rest =>
    if c = '\n' || c = ';' then .ok ((), rest)
    else if c = '\x7d' || c = '#' then .ok ((), c :: rest)
    else fail "extra characters after command" rest

/-- The rest of a line, which names a file. -/
def fileName? (cs : Raw) : Except Fault (Raw × Raw) :=
  let cs := skipGap cs
  let name := cs.takeWhile (· ≠ '\n')
  if name = [] then fail "missing filename in r/R/w/W commands" cs.tail
  else .ok (name, (cs.drop name.length).tail)

/-- A label, up to a blank or a semicolon. -/
def label (cs : Raw) : Raw × Raw :=
  let cs := skipGap cs
  let name := cs.takeWhile fun c => !Raw.isBlank c && c ≠ ';'
  (name, cs.drop name.length)

/-- What was asked for behind an exchange. -/
structure Wishes where
  every : Bool := false
  prints : Bool := false
  fold : Bool := false
  lines : Bool := false
  which : Option Nat := none
  file : Option Raw := none

def wishes : Nat → Wishes → Raw → Except Fault (Wishes × Raw)
  | 0, w, cs => .ok (w, cs)
  | n + 1, w, cs =>
    match cs with
    | [] => .ok (w, [])
    | c :: rest =>
      if c = 'i' || c = 'I' then wishes n { w with fold := true } rest
      else if c = 'm' || c = 'M' then wishes n { w with lines := true } rest
      else if c = 'e' then wishes n w rest
      else if c = 'p' then
        if w.prints then fail "multiple \x60p' options to \x60s' command" rest
        else wishes n { w with prints := true } rest
      else if c = 'g' then
        if w.every then fail "multiple \x60g' options to \x60s' command" rest
        else wishes n { w with every := true } rest
      else if c.isDigit then
        let m := number cs
        if w.which.isSome then fail "multiple number options to \x60s' command" m.2
        else if m.1 = 0 then fail "number option to \x60s' command may not be zero" m.2
        else wishes n { w with which := some m.1 } m.2
      else if c = 'w' then do
        let (name, rest) ← fileName? rest
        return ({ w with file := some name }, rest)
      else if c = '\n' || c = ';' then .ok (w, rest)
      else if c = '\x7d' || c = '#' then .ok (w, cs)
      else if isGap c then wishes n w rest
      else fail "unknown option to \x60s' command" rest

def exchange? (y : Spelling) (d : Char) (cs : Raw) : Except Fault (Exchange × Raw) := do
  let torn := fun (cs : Raw) => fail "unterminated \x60s' command" cs
  match delimited? d true cs with
  | none => torn (torn? d cs)
  | some (text, rest) =>
    match delimited? d false rest with
    | none => torn (torn? d rest)
    | some (put, rest) =>
      let (w, rest) ← wishes (rest.length + 1) {} rest
      let (r, groups) ← pattern? y text w.fold w.lines rest
      let (ps, highest) := parts put
      if groups < highest then
        .error ⟨"invalid reference \\".toList ++ Numeral.natText 10 highest ++
          " on \x60s' command's RHS".toList, some rest.length⟩
      else return (⟨r, ps, w.which.getD 1, w.every, w.prints, w.file⟩, rest)
where
  /-- what lies behind the place where the text breaks off -/
  torn? (d : Char) (cs : Raw) : Raw := cs.dropWhile fun c => c ≠ '\n' && c ≠ d

/-- The bytes of one side of a change. -/
def bytes? : Raw → Raw
  | '\\' :: '\\' :: cs => '\\' :: bytes? cs
  | '\\' :: 'n' :: cs => '\n' :: bytes? cs
  | c :: cs => c :: bytes? cs
  | [] => []

def translate? (d : Char) (cs : Raw) : Except Fault (Action × Raw) := do
  match delimited? d false cs with
  | none => fail "unterminated \x60y' command" []
  | some (old, rest) =>
    match delimited? d false rest with
    | none => fail "unterminated \x60y' command" []
    | some (new, rest) =>
      let side := fun (t : Raw) => bytes? (decoded (· = '\\') 0 t)
      if (side old).length = (side new).length then
        let (_, rest) ← ended rest
        return (.translate (side old) (side new), rest)
      else fail "strings for \x60y' command are different lengths" rest

/-- A command as it is read; a jump names its goal. -/
inductive Item where
  | action (a : Action)
  | opening
  | closing
  | label (name : Raw)
  | branch (kind : Char) (name : Raw)

/-- The commands that are one letter. -/
def letters : List (Char × Action) := [
  ('=', .number), ('d', .delete), ('D', .deleteFirst), ('F', .name), ('g', .load false),
  ('G', .load true), ('h', .store false), ('H', .store true), ('n', .next), ('N', .append),
  ('p', .print), ('P', .printFirst), ('x', .swap), ('z', .clear)]

def item? (y : Spelling) (range : Range) (cs : Raw) : Except Fault (Item × Raw) := do
  let simple := fun (a : Action) (rest : Raw) => do
    let (_, rest) ← ended rest
    return (Item.action a, rest)
  match cs with
  | [] => fail "missing command" []
  | c :: rest =>
    match letters.lookup c with
    | some a => simple a rest
    | none =>
      if c = '\x7b' then return (.opening, rest)
      else if c = '\x7d' then
        match range with
        | .all =>
          let (_, rest) ← ended rest
          return (.closing, rest)
        | _ => fail "\x7d doesn't want any addresses" rest
      else if c = 'a' || c = 'i' || c = 'c' then
        if skipGap rest = [] then fail "expected \\ after \x60a', \x60c' or \x60i'" rest
        else
          let (text, rest) := lineText rest
          return (.action (if c = 'a' then .after text else if c = 'i' then .before text
            else .instead text), rest)
      else if c = ':' then
        match range with
        | .all =>
          let (name, rest) := label rest
          if name = [] then fail "\":\" lacks a label" rest else return (.label name, rest)
        | _ => fail ": doesn't want any addresses" rest
      else if c = 'b' || c = 't' || c = 'T' then
        let (name, rest) := label rest
        return (.branch c name, rest)
      else if c = 'q' || c = 'Q' then
        match range with
        | .all | .one _ =>
          let n := number (skipGap rest)
          simple (.quit n.1 (c = 'Q')) n.2
        | _ => fail "command only uses one address" rest
      else if c = 'l' || c = 'L' then
        let ds := Numeral.digits 10 (skipGap rest)
        simple (.list (if ds.1 = [] then none else some (Numeral.ofDigits 10 ds.1))) ds.2
      else if c = 'r' || c = 'R' || c = 'w' || c = 'W' then
        let (name, rest) ← fileName? rest
        return (.action (if c = 'r' then .readFile name else if c = 'R' then .readLine name
          else if c = 'w' then .write name else .writeFirst name), rest)
      else if c = 's' then
        match rest with
        | d :: rest =>
          let (x, rest) ← exchange? y d rest
          return (.action (.exchange x), rest)
        | [] => fail "unterminated \x60s' command" []
      else if c = 'y' then
        match rest with
        | d :: rest =>
          let (a, rest) ← translate? d rest
          return (.action a, rest)
        | [] => fail "unterminated \x60y' command" []
      else if c = 'v' then return (.action .none, (label rest).2)
      else .error ⟨"unknown command: \x60".toList ++ [c, '\''], some rest.length⟩

/-- The commands of a script in their order, where braces stand as they are. -/
def items (y : Spelling) : Nat → Raw → Except Fault (List (Range × Bool × Item))
  | 0, _ => .ok []
  | n + 1, cs =>
    match cs.dropWhile fun c => Raw.isBlank c || c = ';' with
    | [] => .ok []
    | '#' :: cs => items y n (cs.dropWhile (· ≠ '\n'))
    | cs => do
      let (range, rest) ← range? y cs
      let rest := skipGap rest
      let inverted := rest.head? = some '!'
      let rest := if inverted then skipGap rest.tail else rest
      if inverted && rest.head? = some '!' then
        .error ⟨"multiple \x60!'s".toList, some rest.tail.length⟩
      else
        let (i, rest) ← item? y range rest
        return (range, inverted, i) :: (← items y n rest)

/-- Where each label stands. -/
def labels (is : List (Range × Bool × Item)) : List (Raw × Nat) :=
  (is.zipIdx).filterMap fun i => match i.1.2.2 with
    | .label name => some (name, i.2)
    | _ => none

/-- Where the block ends that is open at some place. -/
def blockEnd : Nat → Nat → List (Range × Bool × Item) → Option Nat
  | _, _, [] => none
  | depth, i, (_, _, .opening) :: is => blockEnd (depth + 1) (i + 1) is
  | depth, i, (_, _, .closing) :: is =>
    match depth with
    | 0 => some (i + 1)
    | depth + 1 => blockEnd depth (i + 1) is
  | depth, i, _ :: is => blockEnd depth (i + 1) is

/-- The commands with places in the row for what they lead to. -/
def resolve (all : List (Range × Bool × Item)) :
    Nat → Nat → List (Range × Bool × Item) → Except Fault (List Command)
  | _, 0, [] => .ok []
  | _, _ + 1, [] => .error ⟨"unmatched \x60\x7b'".toList, none⟩
  | i, depth, (range, inverted, item) :: is => do
    let more := fun (depth : Nat) (a : Action) => do
      return (⟨range, inverted, a⟩ : Command) :: (← resolve all (i + 1) depth is)
    match item with
    | .action a => more depth a
    | .label _ => more depth .mark
    | .opening => more (depth + 1) (.block ((blockEnd 0 (i + 1) is).getD 0))
    | .closing => if depth = 0 then .ok [] else more (depth - 1) .mark
    | .branch c name =>
      let goal := if name = [] then some all.length else (labels all).lookup name
      match goal with
      | none => .error ⟨"can't find label for jump to \x60".toList ++ name ++ ['\''], none⟩
      | some n =>
        more depth (if c = 'b' then .jump n else .jumpIf (c = 't') n)

/-- The commands of a script. -/
def read (y : Spelling) (script : Raw) : Except Fault (List Command) := do
  let is ← items y (script.length + 1) script
  resolve is 0 0 is

end ServiceStack.Edit
