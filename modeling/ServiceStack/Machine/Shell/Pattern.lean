import ServiceStack.Text.Raw

/-!
Patterns: a star stands for any text, a question mark for one character, brackets for one of a set.
A quoted character stands for itself, and so does one behind a backslash that came from a value.
-/

namespace ServiceStack.Shell

/-- A character of a word, and whether it was quoted. -/
abbrev Glyph := Char × Bool

namespace Pattern

/-- A member of a set. -/
inductive Member where
  | range (lo hi : Char)
  | named (p : Char → Bool)

def Member.has (c : Char) : Member → Bool
  | .range lo hi => lo ≤ c && c ≤ hi
  | .named p => p c

inductive Piece where
  | glyph (c : Char)
  | one
  | many
  | set (inverted : Bool) (members : List Member)
  /-- one of some choices, several of them, or none of them -/
  | group (op : Char) (choices : List (List Piece))

/-- How patterns are read. -/
structure Style where
  /-- a set may begin with a caret instead of an exclamation mark -/
  caret : Bool := false
  /-- there may be groups -/
  groups : Bool := false
deriving DecidableEq, Repr

def Piece.accepts (c : Char) : Piece → Bool
  | .glyph d => c = d
  | .one => true
  | .many | .group _ _ => false
  | .set inverted ms => (ms.any (·.has c)) != inverted

def classes : List (String × (Char → Bool)) := [
  ("alpha", Char.isAlpha), ("digit", Char.isDigit), ("alnum", Char.isAlphanum),
  ("upper", Char.isUpper), ("lower", Char.isLower), ("space", Raw.isBlank),
  ("blank", fun c => c = ' ' || c = '\t'),
  ("punct", fun c => '!' ≤ c && c ≤ '~' && !c.isAlphanum),
  ("xdigit", fun c => c.isDigit || "abcdefABCDEF".contains c),
  ("print", fun c => ' ' ≤ c && c ≤ '~'), ("graph", fun c => '!' ≤ c && c ≤ '~'),
  ("cntrl", fun c => c < ' ' || c = '\x7f')]

/-- The members of a set up to its closing bracket, which may be the first member, and how much
of the text they take. -/
def members : Nat → Bool → List Glyph → Option (List Member × Nat)
  | 0, _, _ | _, _, [] => none
  | n + 1, first, (c, q) :: gs =>
    let plain := fun (lo : Glyph) (rest : List Glyph) (used : Nat) =>
      match rest with
      | ('-', false) :: (hi, q) :: rest' =>
        if hi = ']' && !q then
          (members n false rest).map fun r => (.range lo.1 lo.1 :: r.1, used + r.2)
        else (members n false rest').map fun r => (.range lo.1 hi :: r.1, used + 2 + r.2)
      | _ => (members n false rest).map fun r => (.range lo.1 lo.1 :: r.1, used + r.2)
    if c = ']' && !q && !first then some ([], 1)
    else if c = '[' && !q && gs.head? = some (':', false) then
      let name := (gs.tail.takeWhile fun g => g.1 ≠ ':').map Prod.fst
      let rest := gs.drop (name.length + 1)
      match classes.lookup (String.ofList name), rest with
      | some p, (':', _) :: (']', _) :: rest =>
        (members n false rest).map fun r => (.named p :: r.1, name.length + 4 + r.2)
      | _, _ => plain (c, q) gs 1
    else plain (c, q) gs 1

/-- The first piece of a pattern, and how much of the pattern it takes. -/
def first (y : Style) : List Glyph → Piece × Nat
  | [] => (.many, 1)
  | (c, quoted) :: gs =>
    if quoted then (.glyph c, 1)
    else if c = '*' then (.many, 1)
    else if c = '?' then (.one, 1)
    else if c = '\\' then
      match gs with
      | (d, _) :: _ => (.glyph d, 2)
      | [] => (.glyph c, 1)
    else if c = '[' then
      let inverted := gs.head? = some ('!', false) || y.caret && gs.head? = some ('^', false)
      let inside := if inverted then gs.tail else gs
      match members (inside.length + 1) true inside with
      | some (ms, used) => (.set inverted ms, 1 + used + if inverted then 1 else 0)
      | none => (.glyph c, 1)
    else (.glyph c, 1)

/-- The choices of a group up to its closing parenthesis, and how much of the text they take. -/
def choices? : Nat → List Glyph → Option (List (List Glyph) × Nat)
  | _, [] => none
  | depth, g :: gs =>
    let add := fun (r : List (List Glyph) × Nat) => match r.1 with
      | c :: cs => ((g :: c) :: cs, r.2 + 1)
      | [] => ([[g]], r.2 + 1)
    if g = (')', false) then
      if depth = 0 then some ([[]], 1) else (choices? (depth - 1) gs).map add
    else if g = ('|', false) && depth = 0 then
      (choices? 0 gs).map fun r => ([] :: r.1, r.2 + 1)
    else (choices? (if g = ('(', false) then depth + 1 else depth) gs).map add

/-- The group at the start of a pattern. -/
def group? (y : Style) : List Glyph → Option (Char × List (List Glyph) × Nat)
  | (c, false) :: ('(', false) :: gs =>
    if y.groups && "?*+@!".contains c then
      (choices? 0 gs).map fun r => (c, r.1, r.2 + 2)
    else none
  | _ => none

def piecesFrom (y : Style) : Nat → List Glyph → List Piece
  | 0, _ | _, [] => []
  | n + 1, gs =>
    match group? y gs with
    | some (op, choices, used) =>
      .group op (choices.map (piecesFrom y n)) :: piecesFrom y n (gs.drop used)
    | none =>
      let r := first y gs
      r.1 :: piecesFrom y n (gs.drop r.2)

/-- The pieces of a pattern. -/
def pieces (y : Style) (gs : List Glyph) : List Piece := piecesFrom y (gs.length + 1) gs

def fits : List Piece → Raw → Bool
  | [], cs => cs.isEmpty
  | .many :: ps, [] => fits ps []
  | .many :: ps, c :: cs => fits ps (c :: cs) || fits (.many :: ps) cs
  | _ :: _, [] => false
  | p :: ps, c :: cs => p.accepts c && fits ps cs
termination_by ps cs => ps.length + cs.length

/-- The lengths that something can take again and again. -/
def closure (once : Raw → List Nat) (text : Raw) : Nat → List Nat → List Nat
  | 0, found => found
  | n + 1, found =>
    let more := found.flatMap fun m => (once (text.drop m)).map (m + ·)
    let next := (found ++ more).eraseDups
    if next.length = found.length then found else closure once text n next

/-- How much at the start of a text some pieces can take. -/
def spans : Nat → List Piece → Raw → List Nat
  | 0, _, _ => []
  | _, [], _ => [0]
  | n + 1, p :: ps, text =>
    let all := List.range (text.length + 1)
    let firsts := match p with
      | .many => all
      | .group op choices =>
        let once := fun (t : Raw) => (choices.flatMap fun c => spans n c t).eraseDups
        match op with
        | '@' => once text
        | '?' => (0 :: once text).eraseDups
        | '*' => closure once text (text.length + 1) [0]
        | '+' =>
          (once text).flatMap (fun m => (closure once (text.drop m) text.length [0]).map (m + ·))
            |>.eraseDups
        | _ =>
          let taken := once text
          all.filter (!taken.contains ·)
      | p => match text with
        | c :: _ => if p.accepts c then [1] else []
        | [] => []
    (firsts.flatMap fun m => (spans n ps (text.drop m)).map (m + ·)).eraseDups

def Piece.isGroup : Piece → Bool
  | .group _ _ => true
  | _ => false

/-- More pieces than a pattern has. -/
def spanDepth : Nat := 1000000

/-- Whether pieces take a whole text. -/
def holds (ps : List Piece) (text : Raw) : Bool :=
  if ps.any Piece.isGroup then (spans spanDepth ps text).contains text.length else fits ps text

/-- Whether a text is one that a pattern stands for. -/
def isMatch (y : Style) (pattern : List Glyph) (text : Raw) : Bool := holds (pieces y pattern) text

/-- A text without a part at its start or its end that a pattern stands for, if there is one. -/
def trim? (y : Style) (atEnd longest : Bool) (pattern : List Glyph) (text : Raw) : Option Raw :=
  let ps := pieces y pattern
  let cuts := List.range (text.length + 1)
  if atEnd then
    ((if longest then cuts else cuts.reverse).find? fun n => holds ps (text.drop n)).map text.take
  else
    ((if longest then cuts.reverse else cuts).find? fun n => holds ps (text.take n)).map text.drop

def trim (y : Style) (atEnd longest : Bool) (pattern : List Glyph) (text : Raw) : Raw :=
  (trim? y atEnd longest pattern text).getD text

/-- Several texts, of which one is trimmed: the first, or the last one that can be if it is trimmed
at its end and as little as possible. Nothing is left behind a trimmed end, nor if all of the first
is taken as the longest part. -/
def trimAll (atEnd longest : Bool) (pattern : List Glyph) (texts : List Raw) : List Raw :=
  match texts with
  | [] => []
  | first :: rest =>
    if atEnd && !longest then lastEnd texts
    else match trim? {} atEnd longest pattern first with
      | none => texts
      | some t => if atEnd || longest && t = [] && first ≠ [] then [t] else t :: rest
where
  lastEnd : List Raw → List Raw
    | [] => []
    | t :: ts =>
      if (ts.any fun u => (trim? {} true false pattern u).isSome) then t :: lastEnd ts
      else match trim? {} true false pattern t with
        | some u => [u]
        | none => t :: ts

end Pattern

end ServiceStack.Shell
