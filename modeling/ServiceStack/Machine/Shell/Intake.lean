import ServiceStack.Machine.Shell.Declaration

/-!
Builtins of the rich dialect that take texts in: a line for some variables, or lines for a table.
-/

namespace ServiceStack.Shell

/-- How a text is taken in. -/
structure Taking where
  stream : Nat := 0
  /-- a backslash hides nothing -/
  raw : Bool := false
  stop : Char := '\n'
  /-- so many characters are enough -/
  most : Option Nat := none
  /-- nothing but the number of characters ends it -/
  exact : Bool := false

/-- Takes a text: whether it ended as it should, and its characters, those behind a backslash as
quoted. -/
def takeText (t : Taking) : Nat → Nat → Bool → List Glyph → Sh (Bool × List Glyph)
  | 0, _, _, gs => return (false, gs.reverse)
  | n + 1, count, hidden, gs => do
    if t.most = some count then return (true, gs.reverse)
    match ← ask (.read t.stream 1) with
    | .ok (c :: _) =>
      let isNul := c = '\x00'
      if hidden then
        if c = '\n' then takeText t n count false gs
        else takeText t n (count + 1) false ((c, true) :: gs)
      else if c = '\\' && !t.raw then takeText t n count true gs
      else if c = t.stop && !t.exact then return (true, gs.reverse)
      else if isNul then takeText t n count false gs
      else takeText t n (count + 1) false ((c, false) :: gs)
    | .error .EINTR =>
      notice
      if (← get).pending.isSome then return (false, gs.reverse) else takeText t n count hidden gs
    | _ => return (false, gs.reverse)

/-- Blanks that separate are taken from the start of a line. -/
def skipBlanks (separators : Raw) (gs : List Glyph) : List Glyph :=
  gs.dropWhile fun g => !g.2 && blanks.contains g.1 && separators.contains g.1

/-- Gives each name one field of a line, and the last name all that is left. A separator behind the
last field is not part of it. -/
def fieldsFor (separators : Raw) : List Raw → List Glyph → List (Raw × Raw)
  | [], _ => []
  | [x], gs =>
    let isEnd := fun (g : Glyph) => !g.2 && separators.contains g.1
    let rest := skipBlanks separators gs
    let bare := (skipBlanks separators rest.reverse).reverse
    let field := rest.takeWhile fun g => !isEnd g
    let after := skipBlanks separators (rest.drop field.length)
    let single := match after with
      | g :: more => isEnd g && skipBlanks separators more = []
      | [] => false
    [(x, (if single then field else bare).map Prod.fst)]
  | x :: xs, gs =>
    let isEnd := fun (g : Glyph) => !g.2 && separators.contains g.1
    let rest := skipBlanks separators gs
    let field := rest.takeWhile fun g => !isEnd g
    let after := skipBlanks separators (rest.drop field.length)
    let after := match after with
      | g :: gs => if isEnd g then gs else g :: gs
      | [] => []
    (x, field.map Prod.fst) :: fieldsFor separators xs after

/-- Gives a value to what an argument names. -/
def giveNamed (a value : Raw) : Sh Unit := do
  let g := giftOf a
  if !isName g.name || g.value.isSome then notName a
  takeGift { g with value := some value }

def valueFor (os : List Picked) (c : Char) : Option Raw :=
  (os.filter (·.letter = c)).getLast?.map Picked.value

def streamFor (os : List Picked) : Sh Nat := do
  match valueFor os 'u' with
  | none => return 0
  | some v =>
    match Numeral.natural? v with
    | some n => return n
    | none => refuse 1 (v ++ ": invalid file descriptor specification".toList)

/-- A number that an option asks for. -/
def countFor (os : List Picked) (c : Char) (what : String) : Sh (Option Nat) := do
  match valueFor os c with
  | none => return none
  | some v =>
    match Numeral.natural? v with
    | some n => return some n
    | none => refuse 1 (v ++ ": ".toList ++ what.toList)

def readRich (args : List Raw) : Sh Nat := do
  let (os, names) ← pickOptions false "ers" "adiNnptu" args
  let most ← countFor os 'n' "invalid number"
  let exactly ← countFor os 'N' "invalid number"
  let stream ← streamFor os
  for a in names do
    let g := giftOf a
    if !isName g.name || g.value.isSome then notName a
  if valueFor os 't' = some ['0'] then return 0
  let t : Taking := {
    stream, raw := chosen os 'r', exact := exactly.isSome, most := exactly <|> most
    stop := match valueFor os 'd' with
      | some d => d.headD '\x00'
      | none => '\n' }
  let r ← takeText t Act.patience 0 false []
  let whole := r.2.map Prod.fst
  let separators := separators (← get)
  match valueFor os 'a' with
  | some x =>
    if !isName x then notName x
    let fields := Item.fields separators (r.2.map fun g => .glyph g.1 g.2 (!g.2))
    modify fun s =>
      let old := (variableOf? x s).getD {}
      let table := some (Table.ofValues (fields.map fun f => f.map Prod.fst))
      replace x (some { old with value := none, table }) s
  | none =>
    if t.exact then
      giveNamed (names.headD "REPLY".toList) whole
      for a in names.drop 1 do
        giveNamed a []
    else if names = [] then giveCell { name := "REPLY".toList } whole
    else
      for (x, v) in fieldsFor separators names r.2 do
        giveNamed x v
  return if r.1 then 0 else 1

/-- Takes so many lines, each with what ends it. -/
def takeLines (t : Taking) : Nat → Option Nat → Sh (List Raw)
  | 0, _ | _, some 0 => return []
  | n + 1, left => do
    match ← takeText t Act.patience 0 false [] with
    | (false, []) => return []
    | (ended, gs) =>
      let line := gs.map Prod.fst ++ if ended then [t.stop] else []
      return line :: (← if ended then takeLines t n (left.map (· - 1)) else return [])

def mapLines (args : List Raw) : Sh Nat := do
  let (os, names) ← pickOptions false "t" "dnOsuCc" args
  let most ← countFor os 'n' "invalid line count"
  let skipped ← countFor os 's' "invalid line count"
  let first ← countFor os 'O' "invalid array origin"
  let stream ← streamFor os
  let x := names.headD "MAPFILE".toList
  if !isName x then notName x
  let stop := match valueFor os 'd' with
    | some d => d.headD '\x00'
    | none => '\n'
  let most := match most with
    | some 0 => none
    | most => most
  let skip := skipped.getD 0
  let lines ← takeLines { stream, raw := true, stop } Act.patience (most.map (· + skip))
  let bare := fun (l : Raw) => if chosen os 't' && l.getLast? = some stop then l.dropLast else l
  let kept := (lines.drop skip).map bare
  modify fun s =>
    let old := ((variableOf? x s).getD {}).asTable false
    let start := if first.isSome then old.table.getD {} else {}
    let put := kept.zipIdx.foldl (fun (t : Table) l =>
      t.put (Numeral.natText 10 (l.2 + first.getD 0)) l.1) start
    replace x (some { old with value := none, table := some put }) s
  return 0

end ServiceStack.Shell
