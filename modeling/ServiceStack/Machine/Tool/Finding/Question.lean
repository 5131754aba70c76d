import ServiceStack.Machine.Scenery
import ServiceStack.Machine.Shell.Pattern
import ServiceStack.Machine.Tool.Quotation
import ServiceStack.Machine.Tool.Regex.Grammar
import ServiceStack.Text.Rights

/-!
Questions about files, put together from words: tests, actions that answer too, and signs between
them. Two questions side by side are both to be answered with yes; a sign can ask for either, for
the opposite, or for the second whatever the first says.
-/

namespace ServiceStack.Finding

/-- A number, and how something compares with it. -/
structure Bound where
  order : Ordering := .eq
  number : Nat
deriving DecidableEq, Repr

def Bound.holds (b : Bound) (n : Nat) : Bool := compare n b.number = b.order

/-- What a test of rights wants: just these, all of these, or any of these. -/
inductive Share where
  | exactly
  | all
  | any
deriving DecidableEq, Repr

/-- A command with the mark in whose place a path is put, and whether it runs in the directory of
the file. -/
structure Errand where
  words : List Raw
  there : Bool
  asks : Bool := false
deriving DecidableEq, Repr

/-- What is asked about a file, or done with it. -/
inductive Question where
  | fixed (answer : Bool)
  | name (fold : Bool) (pattern : Raw)
  | path (fold : Bool) (pattern : Raw)
  /-- where a link leads -/
  | target (fold : Bool) (pattern : Raw)
  /-- the whole path matches an expression -/
  | spelt (fold : Bool) (r : Regex)
  /-- one of some kinds, perhaps of what a link leads to -/
  | kind (through : Bool) (letters : Raw)
  | empty
  | size (unit : Nat) (b : Bound)
  | rights (share : Share) (bits : Nat)
  | names (b : Bound)
  | number (b : Bound)
  | runs
  | same (file : Target)
  | tell (stop : Char)
  | format (text : Raw)
  | listing
  | prune
  | quit
  | delete
  | run (o : Errand)
  /-- gathers paths for one command at the end -/
  | gather (n : Nat)
  | no (q : Question)
  | both (a b : Question)
  | either (a b : Question)
  | after (a b : Question)

/-- What is known when all words are read. -/
structure Plan where
  deepest : Option Nat := none
  shallowest : Nat := 0
  /-- what is below a directory comes before it -/
  upward : Bool := false
  /-- there is an action besides those that only end the search -/
  acts : Bool := false
  /-- the commands for which paths are gathered -/
  errands : List Errand := []
  /-- expressions are written in the extended spelling -/
  extended : Bool := false

/-- Reading words, with the plan so far; a fault is told. -/
abbrev Reader (α : Type) : Type := StateT Plan (Except Raw) α

def refuse {α : Type} (t : Raw) : Reader α := fun _ => .error t

/-! ### Values -/

def bound? (a : Raw) : Option Bound :=
  let (order, ds) : Ordering × Raw := match a with
    | '+' :: ds => (.gt, ds)
    | '-' :: ds => (.lt, ds)
    | ds => (.eq, ds)
  (Numeral.natural? ds).map (⟨order, ·⟩)

/-- The units of sizes; a size without one counts blocks. -/
def units : List (Char × Nat) := [
  ('c', 1), ('w', 2), ('b', 512), ('k', 1024), ('M', 1048576), ('G', 1073741824)]

def size? (a : Raw) : Option (Nat × Bound) :=
  match a.getLast?.bind (units.lookup ·) with
  | some unit => (bound? a.dropLast).map (unit, ·)
  | none => (bound? a).map (512, ·)

def rights? (a : Raw) : Option (Share × Nat) :=
  let (share, mode) : Share × Raw := match a with
    | '-' :: m => (.all, m)
    | '/' :: m => (.any, m)
    | m => (.exactly, m)
  (Rights.changed? 0 false 0 mode).map (share, ·)

/-- The kinds that letters between commas name. -/
def kinds? (a : Raw) : Option Raw :=
  (a.splitOn ',').mapM fun w => match w with
    | [c] => if "bcdpflsD".contains c then some c else none
    | _ => none

/-- An expression in which groups stand behind backslashes, in the spelling in which they stand
alone. -/
def respell : Nat → Raw → Raw
  | 0, cs => cs
  | _, [] => []
  | n + 1, '\\' :: c :: cs =>
    if "()|".contains c then c :: respell n cs
    else if "\x7b\x7d".contains c then '\\' :: c :: respell n cs
    else '\\' :: c :: respell n cs
  | n + 1, c :: cs =>
    if c = '[' then
      let inside := match cs with
        | '^' :: ']' :: _ => 2
        | ']' :: _ | '^' :: _ => 1
        | _ => 0
      let size := inside + ((cs.drop inside).takeWhile (· ≠ ']')).length + 1
      c :: cs.take size ++ respell n (cs.drop size)
    else if "()|\x7b\x7d".contains c then '\\' :: c :: respell n cs
    else c :: respell n cs

def regex? (extended : Bool) (a : Raw) : Option Regex :=
  Regex.ofText? Regex.Spelling.extendedRefusing (if extended then a else respell a.length a)

/-! ### Words -/

def missing {α : Type} (w : Raw) : Reader α :=
  refuse ("missing argument to \x60".toList ++ w ++ ['\''])

def invalid {α : Type} (w a : Raw) : Reader α :=
  refuse ("invalid argument \x60".toList ++ a ++ "' to \x60".toList ++ w ++ ['\''])

/-- The words of a command up to its end, and what follows. A plus behind the mark ends it too. -/
def commandOf? (seen : List Raw) : List Raw → Option (List Raw × Bool × List Raw)
  | [] => none
  | [';'] :: rest => if seen = [] then none else some (seen.reverse, false, rest)
  | w :: rest =>
    if w = ['+'] && seen.head? = some ['\x7b', '\x7d'] && 1 < seen.length then
      some (seen.tail.reverse, true, rest)
    else commandOf? (w :: seen) rest

/-- Notes that something is done. -/
def acting (q : Question) : Reader Question := do
  modify fun p => { p with acts := true }
  return q

/-- Tests and actions that stand alone. -/
def alone : List (String × Question) := [
  ("-true", .fixed true), ("-false", .fixed false), ("-empty", .empty), ("-executable", .runs),
  ("-readable", .fixed true), ("-writable", .fixed true), ("-nouser", .fixed false),
  ("-nogroup", .fixed false), ("-daystart", .fixed true), ("-noleaf", .fixed true),
  ("-xdev", .fixed true), ("-mount", .fixed true), ("-warn", .fixed true),
  ("-nowarn", .fixed true), ("-follow", .fixed true), ("-ignore_readdir_race", .fixed true),
  ("-prune", .prune)]

def aloneActing : List (String × Question) := [
  ("-print", .tell '\n'), ("-print0", .tell '\x00'), ("-ls", .listing), ("-quit", .quit)]

/-- Tests of a number that is the same for all files, as all are as old as the machine and belong to
one user. -/
def uniform : List String := [
  "-mtime", "-atime", "-ctime", "-mmin", "-amin", "-cmin", "-uid", "-gid", "-used"]

/-- A question that wants a value. -/
def valued (s : Scene) (w v : Raw) : Reader Question := do
  let orInvalid := fun (q : Option Question) => match q with
    | some q => (pure q : Reader Question)
    | none => invalid w v
  match String.ofList w with
  | "-name" => return .name false v
  | "-iname" => return .name true v
  | "-path" | "-wholename" => return .path false v
  | "-ipath" | "-iwholename" => return .path true v
  | "-lname" => return .target false v
  | "-ilname" => return .target true v
  | "-regex" => orInvalid ((regex? (← get).extended v).map (.spelt false))
  | "-iregex" => orInvalid ((regex? (← get).extended v).map (.spelt true))
  | "-regextype" =>
    modify fun p => { p with extended := "posix-extended".toList = v || "egrep".toList = v }
    return .fixed true
  | "-type" | "-xtype" =>
    match kinds? v with
    | some letters => return .kind (w = "-xtype".toList) letters
    | none => refuse ("Unknown argument to ".toList ++ w ++ ": ".toList ++ v)
  | "-size" =>
    match size? v with
    | some r => return .size r.1 r.2
    | none => refuse ("invalid -size type \x60".toList ++ v ++ ['\''])
  | "-perm" => orInvalid ((rights? v).map fun r => .rights r.1 r.2)
  | "-links" => orInvalid ((bound? v).map .names)
  | "-inum" => orInvalid ((bound? v).map .number)
  | "-user" | "-group" => orInvalid (if v = "root".toList then some (.fixed true)
      else (Numeral.natural? v).map fun n => .fixed (n = 0))
  | "-fstype" => return .fixed false
  | "-maxdepth" | "-mindepth" =>
    match Numeral.natural? v with
    | some n =>
      modify fun p => if w = "-maxdepth".toList then { p with deepest := some n }
        else { p with shallowest := n }
      return .fixed true
    | none => refuse ("Expected a positive decimal integer argument to ".toList ++ w ++
        ", but got ".toList ++ Quotation.always v)
  | "-printf" => acting (.format v)
  | "-samefile" | "-newer" | "-anewer" | "-cnewer" =>
    match s.state? true v with
    | .ok f => return if w = "-samefile".toList then .same f.target else .fixed false
    | .error e => refuse (Quotation.always v ++ ": ".toList ++ e.text.toList)
  | _ => return .fixed true

def takesValue (w : String) : Bool :=
  uniform.contains w || "-newer".toList.isPrefixOf w.toList || [
    "-name", "-iname", "-path", "-wholename", "-ipath", "-iwholename", "-lname", "-ilname",
    "-regex", "-iregex", "-regextype", "-type", "-xtype", "-size", "-perm", "-links", "-inum",
    "-user", "-group", "-fstype", "-maxdepth", "-mindepth", "-printf", "-samefile", "-anewer",
    "-cnewer"].contains w

/-- The command behind a word. -/
def command (w : Raw) (rest : List Raw) : Reader (Question × List Raw) :=
  match commandOf? [] rest with
  | none => missing w
  | some (words, gathers, rest) => do
    let o : Errand := {
      words, there := w = "-execdir".toList || w = "-okdir".toList
      asks := "-ok".toList.isPrefixOf w }
    modify fun p => { p with acts := true }
    if gathers && !o.there then
      let n := (← get).errands.length
      modify fun p => { p with errands := p.errands ++ [o] }
      return (.gather n, rest)
    else
      let words := if gathers then words ++ [['\x7b', '\x7d']] else words
      return (.run { o with words }, rest)

/-- One question without signs. -/
def simple (s : Scene) (w : Raw) (rest : List Raw) : Reader (Question × List Raw) := do
  let name := String.ofList w
  if let some q := alone.lookup name then return (q, rest)
  if let some q := aloneActing.lookup name then return (← acting q, rest)
  if name = "-depth" || name = "-d" then
    modify fun p => { p with upward := true }
    return (.fixed true, rest)
  if name = "-delete" then
    modify fun p => { p with upward := true }
    return (← acting .delete, rest)
  if ["-exec", "-execdir", "-ok", "-okdir"].contains name then command w rest
  else if takesValue name then
    match rest with
    | [] => missing w
    | v :: rest =>
      if uniform.contains name then
        match bound? v with
        | some b => return (.fixed (b.holds 0), rest)
        | none => invalid w v
      else return (← valued s w v, rest)
  else if w.head? = some '-' then refuse ("unknown predicate \x60".toList ++ w ++ ['\''])
  else refuse ("paths must precede expression: \x60".toList ++ w ++ ['\''])

/-! ### Signs -/

/-- What is read next: questions behind commas, either of two, both of two, or one. -/
inductive Rank where
  | row | either | both | one
deriving DecidableEq, Repr

def isOr (w : Raw) : Bool := w = "-o".toList || w = "-or".toList

def isAnd (w : Raw) : Bool := w = "-a".toList || w = "-and".toList

def isNot (w : Raw) : Bool := w = ['!'] || w = "-not".toList

/-- Reads questions and tells which words are left. -/
def read (s : Scene) : Nat → Rank → List Raw → Reader (Question × List Raw)
  | 0, _, _ => refuse "invalid expression".toList
  | n + 1, .row, ws => do
    let (a, rest) ← read s n .either ws
    match rest with
    | [','] :: rest =>
      let (b, rest) ← read s n .row rest
      return (.after a b, rest)
    | rest => return (a, rest)
  | n + 1, .either, ws => do
    let (a, rest) ← read s n .both ws
    match rest with
    | w :: more =>
      if isOr w then
        let (b, rest) ← read s n .either more
        return (.either a b, rest)
      else return (a, rest)
    | [] => return (a, [])
  | n + 1, .both, ws => do
    let (a, rest) ← read s n .one ws
    match rest with
    | w :: more =>
      if isOr w || w = [','] || w = [')'] then return (a, rest)
      else
        let (b, rest) ← read s n .both (if isAnd w then more else rest)
        return (.both a b, rest)
    | [] => return (a, [])
  | _ + 1, .one, [] => refuse "invalid expression; expected an expression".toList
  | n + 1, .one, w :: rest => do
    let unclosed : Reader (Question × List Raw) :=
      refuse ("invalid expression; expected to find a ')' but didn't see one. " ++
        "Perhaps you need an extra predicate after '('").toList
    if isNot w then
      if rest = [] then refuse ("expected an expression after ".toList ++ Quotation.always w)
      else
        let (q, rest) ← read s n .one rest
        return (.no q, rest)
    else if w = ['('] then
      if rest = [] then unclosed
      else if rest.head? = some [')'] then
        refuse "invalid expression; empty parentheses are not allowed.".toList
      else
        let (q, rest) ← read s n .row rest
        match rest with
        | [')'] :: rest => return (q, rest)
        | _ => unclosed
    else if isOr w || isAnd w || w = [','] then
      refuse ("invalid expression; you have used a binary operator '".toList ++ w ++
        "' with nothing before it.".toList)
    else if w = [')'] then refuse "you have too many ')'".toList
    else simple s w rest

/-- The question that all words ask. Without an action the paths are told. -/
def ofWords (s : Scene) (ws : List Raw) : Except Raw (Question × Plan) := do
  if ws = [] then return (.tell '\n', {})
  let ((q, rest), p) ← (read s (8 * ws.length + 8) .row ws).run {}
  if rest ≠ [] then throw "you have too many ')'".toList
  return (if p.acts then q else .both q (.tell '\n'), p)

end ServiceStack.Finding
