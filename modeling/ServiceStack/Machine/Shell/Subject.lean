import ServiceStack.Machine.Shell.Glob
import ServiceStack.Machine.Shell.Item
import ServiceStack.Machine.Shell.Spelling
import ServiceStack.Machine.Shell.Sum
import ServiceStack.Machine.Shell.Tilde
import ServiceStack.Machine.Tool.Escape

/-!
What parameters of the rich dialect stand for: one value, or several that stay apart or are joined,
and what is made of each.
-/

namespace ServiceStack.Shell

variable (k : Hooks Item)

/-! ### Sums -/

/-- A mistake after which the shell ends. -/
def abandon {α : Type} (code : Nat) (text : Raw) : Sh α := do
  setStatus code
  complain text
  throw .finish

/-- Works out a sum. -/
def workOut (text : Raw) : Sh (Except Sum.Fault Int) := do
  let r := Sum.evaluate (text.filter (· ≠ '"')) (← get)
  set r.2
  return r.1

def refuseSum {α : Type} (f : Sum.Fault) : Sh α :=
  match f with
  | .unset _ => abandon 127 f.message
  | f => dropLine f.message

def sumOf (text : Raw) : Sh Int := do
  match ← workOut text with
  | .ok n => return n
  | .error f => refuseSum f

/-- A value as the traits of its variable want it: it may be a sum. -/
def fitted (x value : Raw) : Sh Raw := do
  if (meant? x (← get)).any (·.traits.contains 'i') then
    return Numeral.intText (← sumOf value)
  else return value

/-! ### Places -/

/-- The key that an index means. -/
def keyFor (x index : Raw) : Sh (Option Raw) := do
  let r := Sum.key x index (← get)
  set r.2
  match r.1 with
  | .ok key => return key
  | .error f => do
    if f matches .told _ "bad array subscript" _ then
      complain f.message
      return none
    else refuseSum f

/-- Gives a value to a place of a variable, which must not be locked. -/
def giveCell (c : Cell) (value : Raw) : Sh Unit := do
  let x := trueName (← get) nameLevels c.name
  if (variableOf? x (← get)).any Variable.locked then refuseLocked x
  let value ← fitted x value
  modify fun s => putCell c value s
  let n := (Numeral.natural? value).getD 0
  if x = "RANDOM".toList then modify fun s => { s with seed := n }
  if x = "SECONDS".toList then
    let now ← act Act.time
    modify fun s => { s with since := now - n * 1000000000 }

/-! ### Subjects -/

/-- What a parameter stands for. -/
structure Subject where
  values : List Raw
  isSet : Bool
  /-- if it is several values, whether they are joined -/
  joins : Option Bool := none
  /-- what it is called, and its place in a table -/
  name : Raw
  key : Option Raw := none
  label : Raw

def Subject.ofOption (name : Raw) (key : Option Raw) (label : Raw) (v : Option Raw) : Subject :=
  { values := v.toList, isSet := v.isSome, name, key, label }

def Subject.ofSeveral (name : Raw) (joins : Bool) (vs : List Raw) : Subject :=
  { values := vs, isSet := vs ≠ [], joins := some joins, name, label := name }

/-- What stands between arguments where they become one text. -/
def between (s : State) : Raw :=
  match valueOf? "IFS".toList s with
  | none => [' ']
  | some v => v.take 1

/-- The value of a parameter that is not several arguments. -/
def parameter? (name : Raw) (s : State) : Option Raw :=
  match name with
  | ['?'] => some (Numeral.natText 10 s.status)
  | ['#'] => some (Numeral.natText 10 s.args.length)
  | ['$'] => some (Numeral.natText 10 s.main)
  | ['!'] => s.lastBackground.map (Numeral.natText 10)
  | ['-'] => some (optionText s)
  | ['@'] | ['*'] => some ((between s).intercalate s.args)
  | _ =>
    match Numeral.natural? name with
    | some 0 => some s.name
    | some n => s.args[n - 1]?
    | none => if s.rich then cell? { name } s else valueOf? name s

def isSeveral (name : Raw) : Bool := name = ['@'] || name = ['*']

def textOf (items : List Item) : Sh Raw := return Item.text (between (← get)) items

/-- A word as one text. -/
def wordText (w : Word) : Sh Raw := do textOf (← k.expand false (← expandTilde w))

/-- A word as a pattern. -/
def wordPattern (w : Word) : Sh (List Glyph) := do
  return Item.flat (between (← get)) (← k.expand false (← expandTilde w))

/-- Values that are known only to the system. -/
def refresh (name : Raw) : Sh Unit := do
  if name = "RANDOM".toList then modify fun s => { s with seed := nextSeed s.seed }
  let now : Bool := name = "SECONDS".toList || name = "EPOCHSECONDS".toList
  if now then
    let t ← act Act.time
    modify fun s =>
      let seconds := if name = "SECONDS".toList then (t - s.since) / 1000000000
        else t / 1000000000
      putCell { name } (Numeral.natText 10 seconds) s

def subjectOf (name : Raw) (index : Option Word) : Sh Subject := do
  refresh name
  match index with
  | none =>
    let s ← get
    if isSeveral name then return .ofSeveral name (name = ['*']) s.args
    else return .ofOption name none name (parameter? name s)
  | some w =>
    match Word.bare? w with
    | some ['@'] => return .ofSeveral name false ((rows name (← get)).map Prod.snd)
    | some ['*'] => return .ofSeveral name true ((rows name (← get)).map Prod.snd)
    | _ =>
      let text ← wordText k w
      let label := name ++ '[' :: text ++ [']']
      match ← keyFor name text with
      | none => return .ofOption name none label none
      | some key => return .ofOption name (some key) label (cell? ⟨name, key⟩ (← get))

/-- The items of the values, each as something makes it. -/
def Subject.items (u : Subject) (quoted : Bool) (f : Raw → Raw) : Sh (List Item) := do
  let vs := u.values.map f
  match u.joins with
  | none => return Item.ofValue quoted (vs.headD [])
  | some joins =>
    if joins && quoted then return Item.ofValue quoted ((between (← get)).intercalate vs)
    else return Item.ofArguments quoted vs

/-- Several values are joined by blanks where nothing is split, unless they are asked for as one. -/
def Subject.flatten (u : Subject) (splits : Bool) (items : List Item) : List Item :=
  if splits || u.joins ≠ some false then items
  else items.map fun
    | .cut => .glyph ' ' true false
    | i => i

/-- Whether a value counts as given. -/
def Subject.isGiven (u : Subject) (colon : Bool) : Bool :=
  u.isSet && (!colon || u.values.any (· ≠ []))

/-! ### Values anew -/

/-- The longest part at the start of a text that a pattern stands for. -/
def longest? (ps : List Pattern.Piece) (text : Raw) : Option Nat :=
  ((List.range (text.length + 1)).reverse).find? fun n => Pattern.holds ps (text.take n)

/-- The text that is put in the place of a part: an ampersand that is not quoted is the part. -/
def filled (new : List Glyph) (part : Raw) : Raw :=
  new.flatMap fun g => if g = ('&', false) then part else [g.1]

/-- Replaces what a pattern stands for, from the left. -/
def replaceParts (all : Bool) (ps : List Pattern.Piece) (new : List Glyph) : Nat → Raw → Raw
  | 0, text => text
  | n + 1, text =>
    match text with
    | [] => []
    | c :: cs =>
      match longest? ps text with
      | some m =>
        if m = 0 then c :: replaceParts all ps new n cs
        else
          let rest := text.drop m
          filled new (text.take m) ++ if all then replaceParts all ps new n rest else rest
      | none => c :: replaceParts all ps new n cs

def replaced (y : Pattern.Style) (scope : Scope) (pattern new : List Glyph) (text : Raw) : Raw :=
  let ps := Pattern.pieces y pattern
  match scope with
  | .start =>
    match longest? ps text with
    | some m => filled new (text.take m) ++ text.drop m
    | none => text
  | .stop =>
    match (List.range (text.length + 1)).find? fun n => Pattern.holds ps (text.drop n) with
    | some n => text.take n ++ filled new (text.drop n)
    | none => text
  | scope =>
    if pattern = [] then text
    else if text = [] then (if Pattern.holds ps [] then filled new [] else [])
    else replaceParts (scope matches .all) ps new text.length text

/-- Other letters for those that a pattern stands for. -/
def relettered (y : Pattern.Style) (sign : Char) (all : Bool) (pattern : List Glyph) (text : Raw) :
    Raw :=
  let ps := if pattern = [] then [.one] else Pattern.pieces y pattern
  let change := fun (c : Char) =>
    if !Pattern.holds ps [c] then c
    else match sign with
      | '^' => c.toUpper
      | ',' => c.toLower
      | _ => if c.isUpper then c.toLower else c.toUpper
  if all then text.map change
  else match text with
    | c :: cs => change c :: cs
    | [] => []

/-- The letters of what a variable is. -/
def traitText (v : Variable) : Raw :=
  let table := match v.table with
    | some t => if t.keyed then ['A'] else ['a']
    | none => []
  let has := fun (c : Char) => if v.traits.contains c then [c] else []
  table ++ has 'i' ++ has 'n' ++ (if v.locked then ['r'] else []) ++
    (if v.exported then ['x'] else []) ++ has 'l' ++ has 'u'

/-- The rows of a table as they are given to one. -/
def tableText (t : Table) : Raw :=
  let key := fun (key : Raw) => if t.keyed then Spelling.bareKey key else key
  let row := fun (i : Raw × Raw) => ['['] ++ key i.1 ++ "]=".toList ++ Spelling.double i.2
  ['('] ++ [' '].intercalate (t.items.map row) ++
    (if t.keyed && t.items ≠ [] then [' ', ')'] else [')'])

/-- The command that makes a variable what it is. -/
def declaration (x : Raw) (v : Variable) : Raw :=
  let traits := traitText v
  let front := "declare -".toList ++ (if traits = [] then ['-'] else traits) ++ ' ' :: x
  match v.table with
  | some t => if t.items = [] then front else front ++ '=' :: tableText t
  | none =>
    match v.value with
    | some w => front ++ '=' :: Spelling.double w
    | none => front

/-! ### Parts of values -/

/-- A number that a word stands for. -/
def numberOf (w : Word) : Sh Int := do sumOf (← wordText k w)

/-- Some of several values, from a place on: rows of a table by their numbers, arguments from the
name of the script on. -/
def sliceSeveral (u : Subject) (start : Int) (size : Option Int) : Sh (List Raw) := do
  let s ← get
  let rows : List (Nat × Raw) :=
    if isSeveral u.name then (s.name :: s.args).zipIdx.map fun v => (v.2, v.1)
    else match tableOf? u.name s with
      | some t =>
        if t.keyed then t.values.zipIdx.map fun v => (v.2, v.1)
        else t.items.map fun i => ((Numeral.natural? i.1).getD 0, i.2)
      | none => u.values.zipIdx.map fun v => (v.2, v.1)
  let stop : Int := ((rows.getLast?.map (·.1 + 1)).getD 0 : Nat)
  let start := if start < 0 then start + stop else start
  if start < 0 then return []
  let found := (rows.filter fun r => start ≤ r.1).map Prod.snd
  match size with
  | none => return found
  | some n =>
    if n < 0 then dropLine (Numeral.intText n ++ ": substring expression < 0".toList)
    return found.take n.toNat

def sliceText (text : Raw) (start : Int) (size : Option Int) : Sh Raw := do
  let length : Int := text.length
  let start := if start < 0 then start + length else start
  if start < 0 || length < start then return []
  let rest := text.drop start.toNat
  match size with
  | none => return rest
  | some n =>
    if n < 0 then
      let stop := length + n
      if stop < start then dropLine (Numeral.intText n ++ ": substring expression < 0".toList)
      return rest.take (stop - start).toNat
    else return rest.take n.toNat

/-! ### Uses -/

def badUse {α : Type} (u : Subject) : Sh α :=
  dropLine ("$\x7b".toList ++ u.label ++ "\x7d: bad substitution".toList)

/-- What is offered in the place of a value. -/
def expandOffer (splits quoted : Bool) (w : Word) : Sh (List Item) := do
  if quoted then
    let items ← k.expand splits w
    return if (← get).rich then .mark :: items else items
  else return (← k.expand splits (← expandTilde w)).map Item.loosen

def patternStyle (s : State) : Pattern.Style :=
  { caret := s.rich, groups := s.extras.contains "extglob" }

/-- The name and the index that a text spells. -/
def spelled (text : Raw) : Raw × Option Word :=
  match text.takeWhile (· ≠ '['), text.dropWhile (· ≠ '[') with
  | x, _ :: rest => (x, some [.text false rest.dropLast])
  | x, [] => (x, none)

/-- A subject that has to be given under the option `u`. -/
def Subject.guard (u : Subject) : Sh Unit := do
  if !u.isSet && u.joins.isNone && (← get).options.contains 'u' then
    abandon 127 (u.label ++ ": unbound variable".toList)

/-- The items of one value or several, as a use makes them of the subject. -/
def expandSubject (splits quoted : Bool) (u : Subject) : Use → Sh (List Item)
  | .value => do
    u.guard
    return u.flatten splits (← u.items quoted id)
  | .length => do
    u.guard
    let n := if u.joins.isSome then u.values.length else (u.values.headD []).length
    return Item.ofValue quoted (Numeral.natText 10 n)
  | .offer sign colon word => do
    let given := u.isGiven colon
    if sign = '+' then
      if given then expandOffer k splits quoted word
      else return if u.joins = some false then [] else Item.ofValue quoted []
    else if given then return u.flatten splits (← u.items quoted id)
    else if sign = '-' then expandOffer k splits quoted word
    else
      let text ← wordText k word
      if sign = '=' then
        if !isName u.name then
          dropLine ("$".toList ++ u.name ++ ": cannot assign in this way".toList)
        giveCell ⟨u.name, u.key⟩ text
        return Item.ofValue quoted text
      else
        let usual := if colon then "parameter null or not set" else "parameter not set"
        abandon 127 (u.label ++ ": ".toList ++ if word = [] then usual.toList else text)
  | .trim atEnd longest pattern => do
    u.guard
    let p ← wordPattern k pattern
    let y := patternStyle (← get)
    return u.flatten splits (← u.items quoted (Pattern.trim y atEnd longest p))
  | .replace scope pattern new => do
    u.guard
    let p ← wordPattern k pattern
    let n ← wordPattern k new
    let y := patternStyle (← get)
    let n := if (← get).extras.contains "patsub_replacement" then n else n.map fun g => (g.1, true)
    return u.flatten splits (← u.items quoted (replaced y scope p n))
  | .letters sign all pattern => do
    u.guard
    let p ← wordPattern k pattern
    let y := patternStyle (← get)
    return u.flatten splits (← u.items quoted (relettered y sign all p))
  | .slice start size => do
    u.guard
    let start ← numberOf k start
    let size ← match size with
      | some w => some <$> numberOf k w
      | none => pure none
    if u.joins.isSome then
      let u := { u with values := ← sliceSeveral u start size }
      return u.flatten splits (← u.items quoted id)
    else return Item.ofValue quoted (← sliceText (u.values.headD []) start size)
  | .transform op => do
    u.guard
    let s ← get
    let v := (meant? u.name s).getD {}
    match op with
    | 'Q' =>
      if u.joins.isNone && !u.isSet then return Item.ofValue quoted []
      else return u.flatten splits (← u.items quoted Spelling.single)
    | 'U' => return u.flatten splits (← u.items quoted fun t => t.map Char.toUpper)
    | 'L' => return u.flatten splits (← u.items quoted fun t => t.map Char.toLower)
    | 'u' => return u.flatten splits (← u.items quoted (relettered {} '^' false []))
    | 'E' =>
      return u.flatten splits (← u.items quoted fun t => (EscapeStyle.richFormat.decode 0 t).1)
    | 'P' => return u.flatten splits (← u.items quoted id)
    | 'a' => return Item.ofValue quoted (traitText v)
    | 'A' =>
      if u.joins.isSome && v.table.isSome then
        return Item.ofValue quoted (declaration u.name v)
      else if !u.isSet then return Item.ofValue quoted []
      else
        let plain := u.name ++ '=' :: Spelling.single (u.values.headD [])
        let traits := traitText v
        return Item.ofValue quoted
          (if traits = [] then plain else "declare -".toList ++ traits ++ ' ' :: plain)
    | 'K' | 'k' =>
      if u.joins.isNone then return u.flatten splits (← u.items quoted Spelling.single)
      else
        let rows := (rows u.name s).map fun r => Spelling.bareKey r.1 ++ ' ' :: Spelling.double r.2
        return Item.ofValue quoted ([' '].intercalate rows)
    | _ => badUse u
  | .keys => do
    let keys := (rows u.name (← get)).map Prod.fst
    let u := { u with values := keys, isSet := keys ≠ [] }
    return u.flatten splits (← u.items quoted id)
  | .names joined => do
    let s ← get
    let found := (s.vars.filter fun v => u.name.isPrefixOf v.1 && v.2.text?.isSome).map Prod.fst
    let u := Subject.ofSeveral u.name joined (found.mergeSort (· ≤ ·))
    return u.flatten splits (← u.items quoted id)
  | .indirect use => do
    let s ← get
    match variableOf? u.name s with
    | some v =>
      if v.traits.contains 'n' && u.key.isNone then
        return Item.ofValue quoted (trueName s nameLevels u.name)
    | none => pure ()
    let text := u.values.headD []
    if text = [] then
      if u.isSet || !use matches .value then dropLine (text ++ ": invalid variable name".toList)
      else dropLine (u.name ++ ": invalid indirect expansion".toList)
    let (name, index) := spelled text
    let isPlain : Bool := isName name || (Numeral.natural? name).isSome ||
      ["@", "*", "#", "?", "$", "!", "-"].contains (String.ofList name)
    if !isPlain then dropLine (text ++ ": invalid variable name".toList)
    expandSubject splits quoted (← subjectOf k name index) use
  | .unknown => badUse u

end ServiceStack.Shell
