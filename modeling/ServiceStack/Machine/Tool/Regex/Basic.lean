import ServiceStack.Text.Raw

/-!
Regular expressions and where they match. Of all places the first one counts, and there the longest
match. The groups are those of the way that takes as much as it can, and the earlier alternative,
among the ways to that match.

The ways are kept in the order in which they are preferred. What comes behind a place depends on the
place alone, so one way to each place is enough, unless a later part asks what a group took.
-/

namespace ServiceStack

/-- A condition on a place that takes nothing. -/
inductive Regex.Anchor where
  | lineStart
  | lineEnd
  | textStart
  | textEnd
  | wordStart
  | wordEnd
  /-- between a word and what is none -/
  | wordEdge
  | notEdge
deriving DecidableEq, Repr

inductive Regex where
  | empty
  | one (p : Char → Bool)
  | anchor (a : Regex.Anchor)
  | both (a b : Regex)
  | either (a b : Regex)
  | times (r : Regex) (least : Nat) (most : Option Nat)
  | group (n : Nat) (r : Regex)
  /-- what a group took before -/
  | again (n : Nat)

namespace Regex

/-- How expressions are matched. -/
structure Mode where
  /-- letters match in either case -/
  fold : Bool := false
  /-- lines within the text begin and end like the text -/
  lines : Bool := false

/-- A place in a text: how much lies before it and what is its end, what follows, and what the
groups took, the latest first. -/
structure Spot where
  before : Nat
  previous : Option Char
  rest : Raw
  groups : List (Nat × Raw) := []

namespace Spot

def start (text : Raw) : Spot := { before := 0, previous := none, rest := text }

/-- The place behind so many bytes. -/
def skip : Nat → Spot → Spot
  | 0, s => s
  | n + 1, s =>
    match s.rest with
    | [] => s
    | c :: cs => skip n { s with before := s.before + 1, previous := some c, rest := cs }

/-- The text from one place to a later one. -/
def upTo (s t : Spot) : Raw := s.rest.take (t.before - s.before)

end Spot

def isWordChar (c : Char) : Bool := c.isAlphanum || c = '_'

def Anchor.holds (m : Mode) (a : Anchor) (s : Spot) : Bool :=
  let left := s.previous.any isWordChar
  let right := s.rest.head?.any isWordChar
  match a with
  | .lineStart => s.previous.isNone || m.lines && s.previous = some '\n'
  | .lineEnd => s.rest = [] || m.lines && s.rest.head? = some '\n'
  | .textStart => s.previous.isNone
  | .textEnd => s.rest = []
  | .wordStart => !left && right
  | .wordEnd => left && !right
  | .wordEdge => left != right
  | .notEdge => left = right

/-- Whether a byte is taken. -/
def takes (m : Mode) (p : Char → Bool) (c : Char) : Bool :=
  p c || m.fold && (p c.toLower || p c.toUpper)

/-- Whether some part asks what a group took. -/
def asks : Regex → Bool
  | .both a b | .either a b => a.asks || b.asks
  | .times r _ _ | .group _ r => r.asks
  | .again _ => true
  | _ => false

/-- The first way to each place. -/
def distinct (seen : Nat) : List Spot → List Spot
  | [] => []
  | s :: ss =>
    if seen.testBit s.before then distinct seen ss
    else s :: distinct (seen ||| 1 <<< s.before) ss

/-- Of each two ways to one place the first one, if one is enough. -/
def thin (unique : Bool) (ss : List Spot) : List Spot :=
  if unique && ss.length ≠ 1 then distinct 0 ss else ss

/-- The places behind single bytes in a row, the farthest first. -/
def runOf (m : Mode) (p : Char → Bool) (least : Nat) (bound : Nat) (s : Spot) : List Spot :=
  go bound 0 s [] s.rest
where
  go : Nat → Nat → Spot → List Spot → Raw → List Spot
    | room, n, s, found, rest =>
      let found := if least ≤ n then s :: found else found
      match room, rest with
      | room + 1, c :: cs =>
        if takes m p c then
          go room (n + 1) { s with before := s.before + 1, previous := some c, rest := cs } found cs
        else found
      | _, _ => found

/-- Goes on from a place, deeper ways first, and puts the places before those found so far. A place
that was seen with as many steps left is not gone on from. -/
def climb (step : Spot → List Spot) (unique : Bool) (bound : Nat) :
    Nat → Option Nat → Spot → List Spot × Nat → List Spot × Nat
  | 0, _, s, (found, seen) => (s :: found, seen)
  | n + 1, most, s, (found, seen) =>
    if most = some 0 then (s :: found, seen)
    else
      let next := (step s).filter fun t => t.before ≠ s.before
      let left := most.map (· - 1)
      let r := next.foldl (fun r t =>
        let key := t.before * (bound + 1) + left.getD 0
        if unique && r.2.testBit key then r
        else climb step unique bound n left t (r.1, r.2 ||| 1 <<< key)) (found, seen)
      (s :: r.1, r.2)

/-- The ways that lead from a place, those preferred first. -/
def ways (m : Mode) (unique : Bool) : Regex → Spot → List Spot
  | .empty, s => [s]
  | .one p, s =>
    match s.rest with
    | c :: cs =>
      if takes m p c then
        [{ s with before := s.before + 1, previous := some c, rest := cs }]
      else []
    | [] => []
  | .anchor a, s => if a.holds m s then [s] else []
  | .both a b, s => thin unique ((ways m unique a s).flatMap (ways m unique b))
  | .either a b, s => thin unique (ways m unique a s ++ ways m unique b s)
  | .times (.one p) least most, s => runOf m p least (most.getD s.rest.length) s
  | .times r least most, s =>
    let starts := (List.range least).foldl
      (fun ss _ => thin unique (ss.flatMap (ways m unique r))) [s]
    let most := most.map (· - least)
    let r := starts.foldl
      (fun found t => climb (ways m unique r) unique (most.getD 0) (t.rest.length + 1) most t found)
      ([], 0)
    thin unique r.1.reverse
  | .group n r, s => (ways m unique r s).map fun t => { t with groups := (n, s.upTo t) :: t.groups }
  | .again n, s =>
    match s.groups.lookup n with
    | none => []
    | some g =>
      let same := fun (a b : Raw) =>
        if m.fold then a.map Char.toLower = b.map Char.toLower else a = b
      if same (s.rest.take g.length) g then [s.skip g.length] else []

/-- Of several places the first of the farthest ones. -/
def farthest : List Spot → Option Spot
  | [] => none
  | s :: ss => some (ss.foldl (fun a b => if a.before < b.before then b else a) s)

/-- The end of the longest match at a place. -/
def matchAt (m : Mode) (r : Regex) (s : Spot) : Option Spot := farthest (ways m (!r.asks) r s)

/-- The first place from which an expression matches, and the end of the longest match there. -/
def search (m : Mode) (r : Regex) (s : Spot) : Option (Spot × Spot) := go s.rest s
where
  go : Raw → Spot → Option (Spot × Spot)
    | [], s => (matchAt m r s).map (s, ·)
    | c :: cs, s =>
      match matchAt m r s with
      | some t => some (s, t)
      | none => go cs { s with before := s.before + 1, previous := some c, rest := cs }

/-- Some words as an expression. -/
def ofWords (t : Raw) : Regex := t.foldr (fun c r => .both (.one (· = c)) r) .empty

end Regex

end ServiceStack
