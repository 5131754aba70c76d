import ServiceStack.Machine.Tool.Regex.Grammar

/-!
Expressions for texts as programs for records write them, what separates fields, and texts in the
place of what matches. A backslash may hide any byte, and may name one by a letter or by its number.
-/

namespace ServiceStack.Record

/-- What letters behind a backslash stand for. -/
def escapes : List (Char × Char) :=
  [('a', '\x07'), ('b', '\x08'), ('f', '\x0c'), ('n', '\n'), ('r', '\r'), ('t', '\t'),
    ('v', '\x0b')]

/-- The byte that the text behind a backslash names, and what follows, if it names one. -/
def named? (cs : Raw) : Option (Char × Raw) :=
  match cs with
  | [] => none
  | c :: rest =>
    match escapes.lookup c with
    | some d => some (d, rest)
    | none =>
      let octal := ((c :: rest).take 3).takeWhile (Numeral.isDigit 8)
      let hex := (rest.take 2).takeWhile (Numeral.isDigit 16)
      if octal ≠ [] then
        some (Raw.byte (Numeral.ofDigits 8 octal), (c :: rest).drop octal.length)
      else if c = 'x' && hex ≠ [] then
        some (Raw.byte (Numeral.ofDigits 16 hex), rest.drop hex.length)
      else none

/-- Whether a byte means something in an expression. -/
def isSpecial (c : Char) : Bool := "^$.[]|()*+?\x7b\x7d\\".contains c

def hidden (c : Char) : Raw := if isSpecial c then ['\\', c] else [c]

/-- An expression in the common spelling. In brackets a hidden byte gets a name of its own. -/
def spelled : Nat → Bool → Raw → Raw
  | 0, _, _ => []
  | n + 1, inside, cs =>
    let put := fun (c : Char) => if inside then ['[', '.', c, '.', ']'] else hidden c
    match cs with
    | [] => []
    | ['\\'] => put '\\'
    | '\\' :: c :: rest =>
      match named? (c :: rest) with
      | some (d, rest) => put d ++ spelled n inside rest
      | none => put c ++ spelled n inside rest
    | '[' :: ':' :: rest =>
      if inside then
        let name := rest.takeWhile (· ≠ ':')
        match rest.drop name.length with
        | ':' :: ']' :: rest => "[:".toList ++ name ++ ":]".toList ++ spelled n true rest
        | _ => '[' :: spelled n true (':' :: rest)
      else '[' :: spelled n true (':' :: rest)
    | '[' :: rest =>
      if inside then '[' :: spelled n true rest
      else
        let front := if rest.head? = some '^' then ['^'] else []
        let rest := rest.drop front.length
        let first := if rest.head? = some ']' then [']'] else []
        '[' :: front ++ first ++ spelled n true (rest.drop first.length)
    | ']' :: rest => ']' :: spelled n false rest
    | c :: rest => c :: spelled n inside rest

/-- Whether an alternative is empty at the start or at the end of a text, or next to another one. -/
def hasGap (t : Raw) : Bool :=
  let ends := match t.reverse with
    | '|' :: c :: _ => c ≠ '\\'
    | _ => false
  ["|", "()", "(|"].any (·.toList.isPrefixOf t) || ends || (t.zip t.tail).contains ('|', '|')

/-- The expression of a text. -/
def regex? (t : Raw) : Except Regex.Fault Regex :=
  let s := spelled (t.length + 1) false t
  if hasGap s then .error .repetition else (Regex.read Regex.Spelling.ofRecords s).map Prod.fst

/-- What is told of an expression that is none. -/
def faultText : Regex.Fault → Raw
  | .paren => "missing ')'".toList
  | .bracket | .className | .collation | .range => "bad class -- [], [^] or [".toList
  | .bounds => "bad interval expression".toList
  | .repetition => "missing operand".toList
  | f => f.text

/-! ### Places -/

/-- Where an expression first matches: how much lies before it, and how much it takes. -/
def find? (r : Regex) (t : Raw) : Option (Nat × Nat) :=
  (r.search {} (Regex.Spot.start t)).map fun m => (m.1.before, m.2.before - m.1.before)

/-- The first match that takes something, from a place on. -/
def findSome? (r : Regex) : Nat → Regex.Spot → Option (Regex.Spot × Regex.Spot)
  | 0, _ => none
  | n + 1, s =>
    match r.search {} s with
    | none => none
    | some (a, b) =>
      if a.before < b.before then some (a, b)
      else if a.rest = [] then none
      else findSome? r n (a.skip 1)

/-! ### Fields -/

/-- What separates fields. -/
inductive Splitter where
  | blanks
  /-- each byte is a field -/
  | bytes
  | regex (r : Regex)

namespace Splitter

def ofText? (t : Raw) : Except Regex.Fault Splitter :=
  match t with
  | [] => .ok .bytes
  | [' '] => .ok .blanks
  | [c] => .ok (.regex (.one (· = c)))
  | _ => (regex? t).map .regex

def isBlank (c : Char) : Bool := c = ' ' || c = '\t' || c = '\n'

def words : Nat → Raw → List Raw
  | 0, _ => []
  | n + 1, cs =>
    let cs := cs.dropWhile isBlank
    if cs = [] then []
    else
      let word := cs.takeWhile fun c => !isBlank c
      word :: words n (cs.drop word.length)

def parts (r : Regex) : Nat → Regex.Spot → List Raw
  | 0, s => [s.rest]
  | n + 1, s =>
    match findSome? r (s.rest.length + 1) s with
    | none => [s.rest]
    | some (a, b) => s.upTo a :: parts r n b

def split (s : Splitter) (t : Raw) : List Raw :=
  if t = [] then []
  else match s with
    | .blanks => words (t.length + 1) t
    | .bytes => t.map ([·])
    | .regex r => parts r (t.length + 1) (Regex.Spot.start t)

end Splitter

/-! ### Texts in the place of others -/

/-- A part of what is put in place: some text, or what matched. -/
inductive Piece where
  | text (t : Raw)
  | matched

/-- The pieces of a text in which `&` stands for what matched. Backslashes before it hide each other
and then it; all others are kept. -/
def pieces (t : Raw) : List Piece := go 0 t
where
  go (slashes : Nat) : Raw → List Piece
    | '\\' :: cs => go (slashes + 1) cs
    | '&' :: cs =>
      .text (List.replicate (slashes / 2) '\\') ::
        (if slashes % 2 = 1 then .text ['&'] else .matched) :: go 0 cs
    | c :: cs => .text (List.replicate slashes '\\' ++ [c]) :: go 0 cs
    | [] => [.text (List.replicate slashes '\\')]

def fill (ps : List Piece) (matched : Raw) : Raw :=
  ps.flatMap fun
    | .text t => t
    | .matched => matched

/-- Puts pieces in the place of one match, or of all: the text, its latest part first, and how many
matches there were. An empty match right behind another one does not count. -/
def replaceFrom (r : Regex) (all : Bool) (ps : List Piece) :
    Nat → Bool → Regex.Spot → List Raw → Nat → List Raw × Nat
  | 0, _, s, done, count => (s.rest :: done, count)
  | n + 1, fresh, s, done, count =>
    match r.search {} s with
    | none => (s.rest :: done, count)
    | some (a, b) =>
      let done := s.upTo a :: done
      let isEmpty := a.before = b.before
      let counts := !(isEmpty && !fresh && a.before = s.before)
      let done := if counts then fill ps (a.upTo b) :: done else done
      let count := if counts then count + 1 else count
      if !all then (b.rest :: done, count)
      else if isEmpty then
        match a.rest with
        | [] => (done, count)
        | c :: _ => replaceFrom r all ps n true (a.skip 1) ([c] :: done) count
      else replaceFrom r all ps n false b done count

def replace (r : Regex) (all : Bool) (replacement t : Raw) : Raw × Nat :=
  let x := replaceFrom r all (pieces replacement) (2 * t.length + 2) true (Regex.Spot.start t) [] 0
  (x.1.reverse.flatten, x.2)

end ServiceStack.Record
