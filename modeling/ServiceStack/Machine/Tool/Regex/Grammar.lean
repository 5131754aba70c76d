import ServiceStack.Machine.Tool.Regex.Basic
import ServiceStack.Text.Numeral

/-!
How regular expressions are written. In the basic spelling the signs of the language but a few are
characters behind a backslash, in the extended one they stand alone. Programs differ in what they
make of a repetition that has nothing before it, and in what they refuse.
-/

namespace ServiceStack.Regex

/-- Why a text is no expression. -/
inductive Fault where
  | invalid
  | collation
  | className
  | backslash
  | reference
  | bracket
  | paren
  | brace
  | bounds
  | range
  | repetition
  | size
  | closing
  | classSpelling
deriving DecidableEq, Repr

def Fault.text : Fault → Raw
  | .invalid => "Invalid regular expression".toList
  | .collation => "Invalid collation character".toList
  | .className => "Invalid character class name".toList
  | .backslash => "Trailing backslash".toList
  | .reference => "Invalid back reference".toList
  | .bracket => "Unmatched [, [^, [:, [., or [=".toList
  | .paren => "Unmatched ( or \\(".toList
  | .brace => "Unmatched \\\x7b".toList
  | .bounds => "Invalid content of \\\x7b\\\x7d".toList
  | .range => "Invalid range end".toList
  | .repetition => "Invalid preceding regular expression".toList
  | .size => "Regular expression too big".toList
  | .closing => "Unmatched ) or \\)".toList
  | .classSpelling => "character class syntax is [[:space:]], not [:space:]".toList

/-- What a repetition is that has nothing before it. -/
inductive Bare where
  | literal
  | dropped
  | refused
deriving DecidableEq, Repr

/-- A spelling of expressions. -/
structure Spelling where
  /-- the signs of the language stand alone -/
  extended : Bool
  bare : Bare
  /-- signs without sense stand for themselves -/
  lenient : Bool := false
  /-- a repetition must not be repeated by a star or by bounds -/
  single : Bool := false
  /-- an expression can ask what a group took -/
  asks : Bool := true
  /-- a class outside of brackets is refused -/
  strictClass : Bool := false
  /-- what takes any byte takes no line break -/
  lines : Bool := false

namespace Spelling

def basic : Spelling := { extended := false, bare := .literal, single := true }

def extendedRefusing : Spelling := { extended := true, bare := .refused }

/-- The spellings in which lines are looked for. -/
def ofLines (extended : Bool) : Spelling where
  extended := extended
  bare := if extended then .dropped else .literal
  lenient := extended
  strictClass := true

/-- The spellings in which lines are changed. -/
def ofEdits (extended : Bool) : Spelling where
  extended := extended
  bare := if extended then .refused else .literal
  single := !extended
  strictClass := true

/-- A spelling in which a group is never asked for again. -/
def ofRecords : Spelling := { extended := true, bare := .refused, lenient := true, asks := false }

/-- Whether a sign comes next, and what follows it. -/
def take? (s : Spelling) (c : Char) (cs : Raw) : Option Raw :=
  match s.extended, cs with
  | true, d :: rest => if d = c then some rest else none
  | false, '\\' :: d :: rest => if d = c then some rest else none
  | _, _ => none

end Spelling

/-! ### Sets in brackets -/

def classes : List (String × (Char → Bool)) := [
  ("alnum", Char.isAlphanum), ("alpha", Char.isAlpha), ("blank", fun c => c = ' ' || c = '\t'),
  ("cntrl", fun c => c < ' ' || c = '\x7f'), ("digit", Char.isDigit),
  ("graph", fun c => '!' ≤ c && c ≤ '~'), ("lower", Char.isLower),
  ("print", fun c => ' ' ≤ c && c ≤ '~'),
  ("punct", fun c => '!' ≤ c && c ≤ '~' && !c.isAlphanum), ("space", Raw.isBlank),
  ("upper", Char.isUpper), ("xdigit", Numeral.isDigit 16)]

/-- What stands in brackets: a byte, or a class. -/
inductive Member where
  | byte (c : Char)
  | among (p : Char → Bool)

/-- The name between a sign and the same sign before a closing bracket, and what follows. -/
def named? (sign : Char) : Raw → Option (Raw × Raw)
  | [] => none
  | c :: cs =>
    if c = sign && cs.head? = some ']' then some ([], cs.tail)
    else (named? sign cs).map fun r => (c :: r.1, r.2)

/-- One member, and what follows it. -/
def member? : Raw → Except Fault (Member × Raw)
  | '[' :: d :: cs =>
    if d = ':' || d = '=' || d = '.' then
      match named? d cs with
      | none => .error .bracket
      | some (name, rest) =>
        if d = ':' then
          match classes.lookup (String.ofList name) with
          | some p => .ok (.among p, rest)
          | none => .error .className
        else match name with
          | [c] => .ok (if d = '.' then .byte c else .among (· = c), rest)
          | _ => .error .collation
    else .ok (.byte '[', d :: cs)
  | c :: cs => .ok (.byte c, cs)
  | [] => .error .bracket

/-- The members up to the closing bracket, and what follows it. -/
def members? : Nat → Bool → Raw → Except Fault (List (Char → Bool) × Raw)
  | 0, _, _ => .error .bracket
  | n + 1, isFirst, cs =>
    match cs with
    | [] => .error .bracket
    | ']' :: rest => if isFirst then single n cs else .ok ([], rest)
    | '-' :: d :: _ => if isFirst || d = ']' then single n cs else .error .range
    | _ => single n cs
where
  single (n : Nat) (cs : Raw) : Except Fault (List (Char → Bool) × Raw) := do
    let (a, rest) ← member? cs
    match rest with
    | '-' :: ']' :: _ => more n a rest
    | '-' :: rest =>
      let (b, rest) ← member? rest
      match a, b with
      | .byte lo, .byte hi =>
        if hi < lo then throw .range else more n (.among fun c => lo ≤ c && c ≤ hi) rest
      | _, _ => throw .range
    | _ => more n a rest
  more (n : Nat) (a : Member) (rest : Raw) : Except Fault (List (Char → Bool) × Raw) := do
    let (ps, rest) ← members? n false rest
    return ((match a with
      | .byte c => (· = c)
      | .among p => p) :: ps, rest)

/-- Whether a set spells a class without the brackets around it. -/
def isMisspelt (cs : Raw) : Bool :=
  cs.head? = some ':' && (cs.tail.takeWhile (· ≠ ']')).getLast? = some ':'

/-- A set behind its opening bracket, and what follows it. -/
def set? (s : Spelling) (cs : Raw) : Except Fault (Regex × Raw) := do
  let inverted := cs.head? = some '^'
  let inside := if inverted then cs.tail else cs
  if s.strictClass && isMisspelt cs then throw .classSpelling
  let (ps, rest) ← members? (inside.length + 1) true inside
  return (.one fun c => (ps.any (· c)) != inverted && !(inverted && s.lines && c = '\n'), rest)

/-! ### Repetitions -/

/-- The most times that bounds can name. -/
def boundLimit : Nat := 32767

/-- The bounds behind an opening brace, and what follows the closing one. -/
def bounds? (s : Spelling) (cs : Raw) : Except Fault (Nat × Option Nat × Raw) := do
  let closes := fun (rest : Raw) =>
    match s.take? '\x7d' rest with
    | some rest => Except.ok rest
    | none => .error (if rest = [] then Fault.brace else Fault.bounds)
  let low := Numeral.digits 10 cs
  let least := Numeral.ofDigits 10 low.1
  match low.2 with
  | ',' :: rest =>
    let high := Numeral.digits 10 rest
    let rest ← closes high.2
    let most := if high.1 = [] then none else some (Numeral.ofDigits 10 high.1)
    if most.any (· < least) then throw .bounds
    if boundLimit < most.getD least then throw .size
    return (least, most, rest)
  | rest =>
    let rest ← closes rest
    if low.1 = [] then throw .bounds
    if boundLimit < least then throw .size
    return (least, some least, rest)

/-- Whether a fault of bounds only makes them stand for themselves. -/
def Fault.isLoose (s : Spelling) (f : Fault) (cs : Raw) : Bool :=
  s.lenient && (f = .brace || f = .bounds && !(wellFormed cs))
where
  wellFormed (cs : Raw) : Bool :=
    let rest := (Numeral.digits 10 cs).2
    let rest := if rest.head? = some ',' then (Numeral.digits 10 rest.tail).2 else rest
    cs ≠ rest && (s.take? '\x7d' rest).isSome

/-- A repetition, and what follows it; none if there is no repetition here. -/
def repetition? (s : Spelling) (cs : Raw) : Except Fault (Option (Nat × Option Nat × Raw)) :=
  match cs with
  | '*' :: rest => .ok (some (0, none, rest))
  | _ =>
    match s.take? '+' cs, s.take? '?' cs, s.take? '\x7b' cs with
    | some rest, _, _ => .ok (some (1, none, rest))
    | _, some rest, _ => .ok (some (0, some 1, rest))
    | _, _, some inside =>
      match bounds? s inside with
      | .ok b => .ok (some b)
      | .error f => if f.isLoose s inside then .ok none else .error f
    | _, _, _ => .ok none

/-- The repetitions behind a piece, and what follows. -/
def repeated (s : Spelling) : Nat → Regex → Raw → Except Fault (Regex × Raw)
  | 0, r, cs => .ok (r, cs)
  | n + 1, r, cs => do
    match ← repetition? s cs with
    | none => return (r, cs)
    | some (least, most, rest) =>
      if s.single && (rest.head? = some '*' || (s.take? '\x7b' rest).isSome) then throw .repetition
      repeated s n (.times r least most) rest

/-! ### Rows and alternatives -/

/-- What is read next: alternatives, a row of pieces, one piece. -/
inductive Goal where
  | whole
  | row (start : Bool)
  | piece (start : Bool)

/-- How many groups were opened, which were closed, and how many are open around a place. -/
structure Count where
  opened : Nat := 0
  closed : List Nat := []
  depth : Nat := 0

/-- What a letter behind a backslash stands for. -/
def escaped? : Char → Option Regex
  | 'w' => some (.one isWordChar)
  | 'W' => some (.one fun c => !isWordChar c)
  | 's' => some (.one Raw.isBlank)
  | 'S' => some (.one fun c => !Raw.isBlank c)
  | _ => none

def anchor? : Char → Option Anchor
  | '<' => some .wordStart
  | '>' => some .wordEnd
  | 'b' => some .wordEdge
  | 'B' => some .notEdge
  | '\x60' => some .textStart
  | '\'' => some .textEnd
  | _ => none

/-- The longest expression of some kind, the groups so far, and what follows. -/
def parse (s : Spelling) : Nat → Goal → Count → Raw → Except Fault (Regex × Count × Raw)
  | 0, _, _, _ => .error .invalid
  | n + 1, .whole, g, cs => do
    let (a, g, rest) ← parse s n (.row true) g cs
    match s.take? '|' rest with
    | some rest => do
      let (b, g, rest) ← parse s n .whole g rest
      return (.either a b, g, rest)
    | none => return (a, g, rest)
  | n + 1, .row start, g, cs =>
    if cs = [] || (s.take? '|' cs).isSome || g.depth ≠ 0 && (s.take? ')' cs).isSome then
      .ok (.empty, g, cs)
    else do
      let (a, g, rest) ← parse s n (.piece start) g cs
      let (b, g, rest) ← parse s n (.row false) g rest
      return (match b with
        | .empty => a
        | b => .both a b, g, rest)
  | n + 1, .piece start, g, cs => do
    let more := fun (r : Regex) (g : Count) (rest : Raw) => do
      let q ← repeated s (rest.length + 1) r rest
      Except.ok (q.1, g, q.2)
    if let some rest := s.take? '(' cs then
      let (r, h, rest) ← parse s n .whole
        { g with opened := g.opened + 1, depth := g.depth + 1 } rest
      match s.take? ')' rest with
      | some rest =>
        more (.group (g.opened + 1) r)
          { h with closed := (g.opened + 1) :: h.closed, depth := g.depth } rest
      | none => throw .paren
    else if (s.take? ')' cs).isSome && !s.lenient then throw .closing
    else match ← repetition? s cs with
      | some _ =>
        if s.bare = .refused || s.single && (s.take? '\x7b' cs).isSome then throw .repetition
        else if s.bare = .dropped && s.extended then parse s n (.piece start) g cs.tail
        else match cs with
          | '\\' :: c :: rest => more (.one (· = c)) g rest
          | c :: rest => more (.one (· = c)) g rest
          | [] => return (.empty, g, [])
      | none =>
        match cs with
        | '^' :: rest =>
          if start || s.extended then return (.anchor .lineStart, g, rest)
          else more (.one (· = '^')) g rest
        | '$' :: rest =>
          if rest = [] || s.extended || (s.take? ')' rest).isSome || (s.take? '|' rest).isSome then
            return (.anchor .lineEnd, g, rest)
          else more (.one (· = '$')) g rest
        | '.' :: rest => more (.one fun c => !(s.lines && c = '\n')) g rest
        | '[' :: rest =>
          let r ← set? s rest
          more r.1 g r.2
        | ['\\'] => throw .backslash
        | '\\' :: c :: rest =>
          if s.asks && '1' ≤ c && c ≤ '9' then
            if g.closed.contains (c.toNat - 48) then more (.again (c.toNat - 48)) g rest
            else throw .reference
          else match anchor? c, escaped? c with
            | some a, _ => return (.anchor a, g, rest)
            | none, some r => more r g rest
            | none, none => more (.one (· = c)) g rest
        | c :: rest => more (.one (· = c)) g rest
        | [] => return (.empty, g, [])

/-- The expression of a text, and how many groups it has. -/
def read (s : Spelling) (text : Raw) : Except Fault (Regex × Nat) := do
  let (r, g, rest) ← parse s (4 * text.length + 8) .whole {} text
  if rest = [] then return (r, g.opened) else throw .closing

def ofText? (s : Spelling) (text : Raw) : Option Regex :=
  match read s text with
  | .ok r => some r.1
  | .error _ => none

end ServiceStack.Regex
