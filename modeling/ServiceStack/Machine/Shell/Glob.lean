import ServiceStack.Machine.Scenery
import ServiceStack.Machine.Shell.Pattern

/-!
Patterns that name files. A pattern is cut at its slashes; a part that stands for more than itself
is looked for in the directory that the parts before it lead to. A dot at the start of a name has to
be written out.
-/

namespace ServiceStack.Shell.Glob

/-- The parts between slashes. -/
def parts (gs : List Glyph) : List (List Glyph) := gs.splitOnP fun g => g.1 = '/'

/-- How names are looked for. -/
structure Rules where
  style : Pattern.Style := {}
  /-- whether a dot and two dots are never named -/
  skipsSelf : Bool := false
  /-- whether a dot at the start may be left out -/
  dots : Bool := false
  /-- whether a pattern that names nothing stands for nothing -/
  drops : Bool := false
deriving DecidableEq, Repr

variable (y : Rules)

def isWild (part : List Glyph) : Bool :=
  (Pattern.pieces y.style part).any fun
    | .glyph _ => false
    | _ => true

/-- The text that a part stands for if it stands for itself. -/
def plainText (part : List Glyph) : Raw :=
  (Pattern.pieces y.style part).filterMap fun
    | .glyph c => some c
    | _ => none

/-- The names in a directory. -/
def names (s : Scene) (path : Raw) : List Raw :=
  let path := if path = [] then ['.'] else path
  match s.disk.resolve s.place (Raw.toOctets path) with
  | .ok (.inode n) =>
    match s.disk.content? n with
    | some (.directory _ es) =>
      [['.'], ['.', '.']] ++ es.map fun e => Raw.ofOctets e.1
    | some .streams =>
      [['.'], ['.', '.']] ++ s.streams.map fun e => Numeral.natText 10 e.1
    | _ => []
  | _ => []

/-- The names that a part stands for. -/
def hits (s : Scene) (part : List Glyph) (path : Raw) : List Raw :=
  let first := part.dropWhile fun g => g.1 = '\\' && !g.2
  (names s path).filter fun name =>
    let isSelf := name = ['.'] || name = ['.', '.']
    let shows := y.dots || (first.head?.map Prod.fst) = some '.'
    (name.head? ≠ some '.' || shows) && !(isSelf && y.skipsSelf) &&
      Pattern.isMatch y.style part name

/-- The paths that begin with one that is known and go on as the parts say. -/
def paths (s : Scene) : List (List Glyph) → Raw → List Raw
  | [], path => if (s.state? false path).toBool then [path] else []
  | [part], path =>
    if isWild y part then (hits y s part path).map (path ++ ·)
    else if (s.state? false (path ++ plainText y part)).toBool then [path ++ plainText y part]
    else []
  | part :: more, path =>
    let next := if isWild y part then hits y s part path else [plainText y part]
    next.flatMap fun name => paths s more (path ++ name ++ ['/'])

/-- What a pattern names, in the order of bytes; itself if that is nothing. -/
def expand (s : Scene) (gs : List Glyph) : List Raw :=
  match (paths y s (parts gs) []).mergeSort fun a b => !(b < a) with
  | [] => if y.drops then [] else [gs.map Prod.fst]
  | found => found

/-- Whether a field may name files. -/
def isPattern (gs : List Glyph) : Bool := (parts gs).any (isWild y)

end ServiceStack.Shell.Glob
