import ServiceStack.Machine.Tool.Filing.Moving
import ServiceStack.Machine.Tool.Finding.Question
import ServiceStack.Machine.Tool.Launch.Basic
import ServiceStack.Machine.Tool.Status

/-!
The search for files: every file below some paths is looked at, and a question is asked about it.
-/

namespace ServiceStack.Finding

/-- A file that is looked at. -/
structure Entry where
  path : Raw
  /-- the path with which the search began, and how far below it the file lies -/
  start : Raw
  depth : Nat
  state : FileState

/-- Where the search stands. -/
structure Progress where
  code : Nat := 0
  ended : Bool := false
  /-- what is below this file is not looked at -/
  pruned : Bool := false
  /-- paths that were gathered for commands, the latest first -/
  gathered : List (Nat × Raw) := []

/-- Which links are followed: none, those with which the search begins, or all. -/
inductive Follow where
  | none | first | all
deriving DecidableEq, Repr

/-! ### Tests -/

def kindLetter (f : FileState) : Char :=
  match f.kind with
  | .directory => 'd'
  | .regular => 'f'
  | .device => 'c'
  | .pipe => 'p'
  | .link => 'l'

def lower (t : Raw) : Raw := t.map Char.toLower

def fits (fold : Bool) (pattern text : Raw) : Bool :=
  let (pattern, text) := if fold then (lower pattern, lower text) else (pattern, text)
  Shell.Pattern.isMatch { caret := true } (pattern.map (·, false)) text

def Entry.name (e : Entry) : Raw := PathName.last e.path []

/-- The path from the one with which the search began. -/
def Entry.below (e : Entry) : Raw :=
  let rest := e.path.drop e.start.length
  if rest.head? = some '/' then rest.tail else rest

/-- The directory of the file, as its path tells it. -/
def Entry.home (e : Entry) : Raw :=
  if e.path.contains '/' then
    let name := (e.path.reverse.takeWhile (· ≠ '/')).reverse
    e.path.take (e.path.length - name.length - 1)
  else ['.']

def Entry.isEmpty (e : Entry) (s : Scene) : Bool :=
  match e.state.kind, e.state.target with
  | .regular, _ => e.state.size = 0
  | .directory, .inode n => s.disk.entries n = []
  | _, _ => false

/-! ### Formats -/

/-- What a letter of a format tells of a file. -/
def Entry.value (e : Entry) (s : Scene) (c : Char) : Status.Value :=
  let facts := Status.Facts.of s e.path e.state
  match c with
  | 'p' => .text e.path
  | 'f' => .text e.name
  | 'h' => .text e.home
  | 'P' => .text e.below
  | 'H' => .text e.start
  | 'd' => .number 'd' e.depth
  | 's' => .number 'd' e.state.size
  | 'm' => .number 'o' facts.rights
  | 'M' => .text facts.rightsText
  | 'y' => .text [kindLetter e.state]
  | 'Y' => .text [match s.state? true e.path with
      | .ok f => kindLetter f
      | .error .ELOOP => 'L'
      | .error _ => 'N']
  | 'u' | 'g' => .text "root".toList
  | 'U' | 'G' => .number 'd' 0
  | 'n' => .number 'd' facts.names
  | 'i' => .number 'd' facts.number
  | 'l' => .text (facts.target.getD [])
  | 'b' => .number 'd' facts.blocks
  | 'k' => .number 'd' (facts.blocks / 2)
  | 'D' => .number 'd' (facts.home.1 * 256 + facts.home.2)
  | 't' | 'a' | 'c' => .text (Status.Facts.time.text "%a %b %e %H:%M:%S.%N0 %Y".toList)
  | 'F' => .text "ext4".toList
  | _ => .missing

/-- The escapes of a format. -/
def escapes : EscapeStyle where
  letters := EscapeStyle.commonLetters.filter (·.1 ≠ 'e')
  zero := false
  cut := true

/-- The text of a format for a file. -/
def Entry.written (e : Entry) (s : Scene) : Nat → Raw → Raw
  | 0, _ | _, [] => []
  | _ + 1, ['%'] => ['%']
  | n + 1, '%' :: '%' :: cs => '%' :: e.written s n cs
  | n + 1, '%' :: cs =>
    let (d, size) := Status.directive cs
    let rest := cs.drop (size + 1)
    if "ACTB".contains d.letter then
      let k := rest.headD '+'
      let t := if k = '@' then Numeral.natText 10 Act.firstSecond ++ ".0000000000".toList
        else if k = '+' then Status.Facts.time.text "%Y-%m-%d+%H:%M:%S.%N0".toList
        else Status.Facts.time.text ['%', k]
      (Status.Value.text t).written d ++ e.written s n rest.tail
    else match e.value s d.letter with
      | .missing => '%' :: cs.take (size + 1) ++ e.written s n rest
      | v => v.written d ++ e.written s n rest
  | n + 1, '\\' :: cs =>
    match escapes.read cs with
    | (.text t, size) => t ++ e.written s n (cs.drop size)
    | _ => []
  | n + 1, c :: cs => c :: e.written s n cs

/-- A row with all that is known of a file. -/
def Entry.row (e : Entry) (s : Scene) : Raw :=
  let facts := Status.Facts.of s e.path e.state
  let right := fun (n : Nat) (t : Raw) => Printf.pad [] n t ++ [' ']
  let number := fun (n w : Nat) => right w (Numeral.natText 10 n)
  let left := fun (n : Nat) (t : Raw) => Printf.pad ['-'] n t ++ [' ']
  number facts.number 9 ++ number (facts.blocks / 2) 6 ++ facts.rightsText ++ [' '] ++
    number facts.names 3 ++ left 8 "root".toList ++ left 8 "root".toList ++
    number e.state.size 8 ++ Status.Facts.time.text "%b %e %H:%M".toList ++ ' ' ::
    facts.shown id ++ ['\n']

/-! ### Commands -/

/-- A text with a path in the place of each mark. -/
def fill (path : Raw) : Raw → Raw
  | '\x7b' :: '\x7d' :: cs => path ++ fill path cs
  | c :: cs => c :: fill path cs
  | [] => []

variable (perform : Launch.Performer) (c : Call)

def self : String := String.ofList c.program

/-- Runs a command, perhaps in another directory, and tells whether it ended well. -/
def runWords (place : Option Raw) (words : List Raw) : Act Bool := do
  let child ← Act.fork do
    if let some directory := place then
      let _ ← Act.ask (.enter directory)
    let e ← Launch.exec perform c.environment (words.headD []) words.tail
    let name := Quotation.always (words.headD [])
    let _ ← Filing.failed (self c) (name ++ ": ".toList ++ e.text.toList)
    return 1
  return (← Launch.awaitChild child Act.patience) = some (.exit 0)

def runErrand (o : Errand) (e : Entry) : Act Bool := do
  let path := if o.there then "./".toList ++ e.name else e.path
  let words := o.words.map (fill path)
  let goes ← if o.asks then do
      let shown := [' '].intercalate o.words
      let _ ← Act.write 2 ("< ".toList ++ shown ++ " ... ".toList ++ e.path ++ " > ? ".toList)
      let answer ← Filing.readAnswer Act.patience []
      pure (answer.head?.any fun (a : Char) => a = 'y' || a = 'Y')
    else pure true
  if goes then runWords perform c (if o.there then some e.home else none) words
  else return false

/-- Runs the commands for which paths were gathered. -/
def runGathered (p : Progress) : List (Errand × Nat) → Act Progress
  | [] => return p
  | (o, n) :: more => do
    let paths := (p.gathered.reverse.filter (·.1 = n)).map Prod.snd
    let good ← if paths = [] then pure true else runWords perform c none (o.words ++ paths)
    runGathered (if good then p else { p with code := 1 }) more

/-! ### Answers -/

/-- Tells something of a file. -/
def say (t : Raw) (p : Progress) : Act (Bool × Progress) := do
  match ← Act.write 1 t with
  | .ok () => return (true, p)
  | .error e =>
    Notice.warn (Notice.faultLine (self c).toList "'standard output'".toList e)
    return (true, { p with code := 1, ended := true })

def remove (e : Entry) (p : Progress) : Act (Bool × Progress) := do
  if e.path = ['.'] then return (true, p)
  let gone ← Filing.change (if e.state.kind = .directory then .removeDirectory e.path
    else .remove e.path)
  match gone with
  | .ok () => return (true, p)
  | .error f =>
    let good ← Filing.cannot (self c) "cannot delete" e.path f
    return (good, { p with code := 1 })

/-- Answers a question about a file, and does what it asks for. -/
def answer (s : Scene) (e : Entry) : Question → Progress → Act (Bool × Progress)
  | .fixed a, p => return (a, p)
  | .name fold pattern, p => return (fits fold pattern e.name, p)
  | .path fold pattern, p => return (fits fold pattern e.path, p)
  | .target fold pattern, p =>
    return ((Status.Facts.of s e.path e.state).target.any (fits fold pattern), p)
  | .spelt fold r, p =>
    return ((Regex.ways { fold } false r (Regex.Spot.start e.path)).any (·.rest = []), p)
  | .kind through letters, p =>
    let state := if through then (s.state? true e.path).toOption.getD e.state else e.state
    return (letters.contains (kindLetter state), p)
  | .empty, p => return (e.isEmpty s, p)
  | .size unit b, p => return (b.holds ((e.state.size + unit - 1) / unit), p)
  | .rights share bits, p =>
    let rights := (Status.Facts.of s e.path e.state).rights
    let good : Bool := match share with
      | .exactly => rights = bits
      | .all => rights &&& bits = bits
      | .any => bits = 0 || rights &&& bits ≠ 0
    return (good, p)
  | .names b, p => return (b.holds (Status.Facts.of s e.path e.state).names, p)
  | .number b, p => return (b.holds (Status.Facts.of s e.path e.state).number, p)
  | .runs, p => return (e.state.runs, p)
  | .same file, p => return (e.state.target = file, p)
  | .tell stop, p => say c (e.path ++ [stop]) p
  | .format text, p => say c (e.written s (text.length + 1) text) p
  | .listing, p => say c (e.row s) p
  | .prune, p => return (true, { p with pruned := true })
  | .quit, p => return (true, { p with ended := true })
  | .delete, p => remove c e p
  | .run o, p => return (← runErrand perform c o e, p)
  | .gather n, p => return (true, { p with gathered := (n, e.path) :: p.gathered })
  | .no q, p => do
    let (a, p) ← answer s e q p
    return (!a, p)
  | .both a b, p => do
    let (x, p) ← answer s e a p
    if x && !p.ended then answer s e b p else return (x, p)
  | .either a b, p => do
    let (x, p) ← answer s e a p
    if x || p.ended then return (x, p) else answer s e b p
  | .after a b, p => do
    let (x, p) ← answer s e a p
    if p.ended then return (x, p) else answer s e b p

/-! ### The walk -/

variable (follow : Follow) (plan : Plan) (q : Question)

/-- The file at a path, through a link or not. A link that leads nowhere is itself a file. -/
def look (s : Scene) (depth : Nat) (path : Raw) : Except Errno FileState :=
  if follow = .all || follow = .first && depth = 0 then
    match s.state? true path with
    | .ok f => .ok f
    | .error _ => s.state? false path
  else s.state? false path

def ask (e : Entry) (p : Progress) : Act Progress := do
  if e.depth < plan.shallowest || plan.deepest.any (· < e.depth) then return p
  else return (← answer perform c (← Act.look) e q p).2

/-- Looks at a file and all that is below it. -/
def visit : Nat → Raw → Nat → Raw → Progress → Act Progress
  | 0, _, _, _, p => return p
  | fuel + 1, start, depth, path, p => do
    if p.ended then return p
    let s ← Act.look
    match look follow s depth path with
    | .error f =>
      let _ ← Filing.failed (self c) (Quotation.always path ++ ": ".toList ++ f.text.toList)
      return { p with code := 1 }
    | .ok state =>
      let e : Entry := { path, start, depth, state }
      let p ← if plan.upward then pure p else ask perform c plan q e p
      let descends : Bool := state.kind = .directory && (plan.upward || !p.pruned) &&
        plan.deepest.all (depth < ·)
      let names ← if descends then Filing.namesIn state else pure []
      let p ← names.foldlM (fun p name =>
        visit fuel start (depth + 1) (PathName.join path name) p) { p with pruned := false }
      if plan.upward && !p.ended then ask perform c plan q e p else return p

/-! ### The program -/

/-- The options before the paths. -/
def options : Follow → List Raw → Follow × List Raw
  | f, [] => (f, [])
  | f, w :: ws =>
    match String.ofList w with
    | "-P" => options .none ws
    | "-H" => options .first ws
    | "-L" => options .all ws
    | "-O0" | "-O1" | "-O2" | "-O3" => options f ws
    | _ => (f, w :: ws)

/-- Whether a word is no path. -/
def isQuestion (w : Raw) : Bool :=
  w.head? = some '-' && w ≠ ['-'] || w = ['('] || w = [')'] || w = [','] || w = ['!']

def find : Act Nat := do
  let (follow, rest) := options .none c.args
  let paths := rest.takeWhile (!isQuestion ·)
  match ofWords (← Act.look) (rest.drop paths.length) with
  | .error t =>
    Notice.warn ((self c).toList ++ ": ".toList ++ t)
    return 1
  | .ok (q, plan) =>
    let paths := if paths = [] then [['.']] else paths
    let p ← paths.foldlM (fun p path =>
      visit perform c follow plan q Disk.pathLimit path 0 path p) {}
    let p ← runGathered perform c p plan.errands.zipIdx
    return p.code

end ServiceStack.Finding
