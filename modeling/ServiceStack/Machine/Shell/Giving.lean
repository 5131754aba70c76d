import ServiceStack.Machine.Shell.Expansion

/-!
Giving values. The rich dialect gives them to places of tables too, puts them behind old ones, and
gives a table several values at once.
-/

namespace ServiceStack.Shell

variable (k : Hooks Item)

/-- The texts of a list, each with its place if one was named. -/
def listTexts : List (Word × Word) → Sh (List (Option Raw × Raw))
  | [] => return []
  | ([], w) :: rest => do
    let texts ← expandFields k w
    return texts.map (none, ·) ++ (← listTexts rest)
  | (i, w) :: rest => do
    let place ← expandText k i
    let text ← expandValue k w
    return (some place, text) :: (← listTexts rest)

/-- Puts texts into a table. Without a place of its own a text comes behind the last one, or is a
key and its value in turn. -/
def fillTable (x : Raw) : Nat → Table → List (Option Raw × Raw) → Sh Table
  | _, t, [] => return t
  | n, t, (place, text) :: rest => do
    if t.keyed then
      match place, rest with
      | some key, rest => fillTable x n (t.put key (← fitted x text)) rest
      | none, (none, v) :: rest => fillTable x n (t.put text (← fitted x v)) rest
      | none, rest => fillTable x n (t.put text []) rest
    else
      let key ← match place with
        | some i => do
          match ← keyFor x i with
          | some key => pure key
          | none => dropLine (['['] ++ i ++ "]=".toList ++ text ++ ": bad array subscript".toList)
        | none => pure (Numeral.natText 10 n)
      fillTable x (((Numeral.natural? key).getD 0) + 1) (t.put key (← fitted x text)) rest

/-- Gives a table several values, which come behind the old ones if it keeps them. -/
def giveTable (x : Raw) (appends : Bool) (items : List (Word × Word)) : Sh Raw := do
  let x := trueName (← get) nameLevels x
  let texts ← listTexts k items
  let v := (variableOf? x (← get)).getD {}
  if v.locked then refuseLocked x
  let v := v.asTable false
  let old := v.table.getD {}
  let start := if appends then old else { old with items := [] }
  let shaped := texts.map fun t => (t.1, v.shape t.2)
  let t ← fillTable x start.next start shaped
  modify fun s => heed x (t.get? Variable.front) (replace x (some { v with table := some t }) s)
  let shown := texts.map fun t => match t.1 with
    | some i => ['['] ++ i ++ "]=".toList ++ Spelling.shortest t.2
    | none => if t.2 = [] then ['\'', '\''] else Spelling.shortest t.2
  return x ++ (if appends then "+=(" else "=(").toList ++ [' '].intercalate shown ++ [')']

/-- Puts a text behind the value of a place, or adds a sum to it. -/
def addTo (c : Cell) (text : Raw) : Sh Unit := do
  let s ← get
  let old := (cell? c s).getD []
  if (meant? c.name s).any (·.traits.contains 'i') then
    let n ← sumOf old
    giveCell c (Numeral.intText (Arithmetic.wrap (n + (← sumOf text))))
  else giveCell c (old ++ text)

/-- Gives a value as a word says, and tells it as it is traced. -/
def giveRich (x : Raw) (w : Word) : Sh Raw := do
  let shown := fun (front text : Raw) => front ++ if text = [] then [] else Spelling.shortest text
  match w with
  | [.list items] => giveTable k x false items
  | [.given [] true [.list items]] => giveTable k x true items
  | [.given [] _ v] =>
    let text ← expandValue k v
    addTo { name := x } text
    return shown (x ++ ['+', '=']) text
  | [.given index appends v] =>
    let i ← expandText k index
    let text ← expandValue k v
    let front := x ++ '[' :: i ++ [']']
    match ← keyFor x i with
    | none => dropLine (front ++ ": bad array subscript".toList)
    | some key =>
      if appends then addTo ⟨x, some key⟩ text else giveCell ⟨x, some key⟩ text
      return shown (front ++ if appends then ['+', '='] else ['=']) text
  | w =>
    let text ← expandValue k w
    giveCell { name := x } text
    return shown (x ++ ['=']) text

end ServiceStack.Shell
