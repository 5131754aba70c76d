import ServiceStack.Machine.Tool.Quotation
import ServiceStack.Machine.Tool.Reading

/-!
Paragraphs of even lines. The words of a paragraph are put into lines so that the costs of all lines
are least: a line costs the more the farther its length is from a goal and from the length of the
next one, and a break costs less behind a sentence than within one.
-/

namespace ServiceStack.Paragraph

/-- How paragraphs are recognized and written. -/
structure Style where
  width : Nat := 75
  goal : Nat := 70
  /-- the first line keeps an indent of its own -/
  crown : Bool := false
  tagged : Bool := false
  /-- short lines are not joined -/
  splits : Bool := false
  uniform : Bool := false
  /-- only lines with this text are changed; the spaces before it, and its length with those behind
  it -/
  mark : Raw := []
  markLead : Nat := 0
  markLength : Nat := 0

structure Word where
  text : Raw
  /-- the blanks behind it -/
  space : Nat
  opens : Bool
  /-- it ends with a sign, or as a sentence does, or is the last of a sentence -/
  sign : Bool
  stops : Bool
  final : Bool
deriving Inhabited

def Word.length (w : Word) : Nat := w.text.length

/-! ### Lines that are read -/

/-- A line: how far its mark and its text stand from the left, and the text. -/
structure Line where
  lead : Nat
  column : Nat
  text : Raw
  /-- whether it ends with a line break -/
  ended : Bool
  /-- whether there are tabs before the text -/
  tabs : Bool

/-- The column behind blanks, whether there are tabs among them, and what follows. -/
def pastBlanks (column : Nat) : Raw → Nat × Bool × Raw
  | ' ' :: cs => pastBlanks (column + 1) cs
  | '\t' :: cs =>
    let r := pastBlanks ((column / 8 + 1) * 8) cs
    (r.1, true, r.2.2)
  | cs => (column, false, cs)

/-- How much of a mark stands at the start of a text, and what follows. -/
def pastMark : Raw → Raw → Nat × Bool × Raw
  | [], cs => (0, true, cs)
  | m :: ms, c :: cs =>
    if m = c then
      let r := pastMark ms cs
      (r.1 + 1, r.2)
    else (0, false, c :: cs)
  | _, [] => (0, false, [])

def Style.line (y : Style) (text : Raw) (ended : Bool) : Line :=
  let (column, tabs, rest) := pastBlanks 0 text
  if y.mark = [] then ⟨Nat.min y.markLead column, column, rest, ended, tabs⟩
  else
    let (size, whole, rest) := pastMark y.mark rest
    if whole then
      let r := pastBlanks (column + size) rest
      ⟨column, r.1, r.2.2, ended, tabs || r.2.1⟩
    else ⟨column, column + size, rest, ended, tabs⟩

/-- Whether a line has text behind its mark. -/
def Style.marks (y : Style) (l : Line) : Bool :=
  l.text ≠ [] && l.lead + y.markLength ≤ l.column

/-- The words of a line from a column on, with the column of each, and whether there are tabs
between them. -/
def Style.words (y : Style) (ended : Bool) : Nat → Nat → Raw → List (Word × Nat) × Bool
  | 0, _, _ | _, _, [] => ([], false)
  | n + 1, column, c :: cs =>
    let text := c :: cs.takeWhile (!Raw.isBlank ·)
    let start := column + text.length
    let (column', tabs, rest) := pastBlanks start ((c :: cs).drop text.length)
    let bare := (text.reverse.dropWhile (")]'\"".contains ·)).reverse
    let stops := ".?!".contains (bare.getLast?.getD (text.headD ' '))
    let space := column' - start
    let final := rest = [] && !ended || stops && (rest = [] || 1 < space)
    let w : Word := {
      text, stops, final
      space := if rest = [] || y.uniform then (if final then 2 else 1) else space
      opens := "(['\x60\"".contains c
      sign := text.getLast?.any fun d => '!' ≤ d && d ≤ '~' && !d.isAlphanum }
    let more := y.words ended n column' rest
    ((w, column) :: more.1, tabs || more.2)

/-! ### Costs -/

def square (n : Int) : Int := n * n

/-- The cost of a line that is too short or too long by so much. -/
def shortCost (n : Int) : Int := square (n * 10)

/-- The cost of two neighbours whose lengths differ by so much. -/
def raggedCost (n : Int) : Int := shortCost n / 2

def sentenceBonus : Int := square 50

def signBonus : Int := square 40

def breakCost : Int := square 600

/-- The cost of a line that begins with a word: it is well put behind the end of a sentence or a
sign, and badly behind the first word of a sentence; a last word should not stand alone. -/
def baseCost (ws : Array Word) (k : Nat) : Int :=
  let word := fun (i : Nat) => ws.getD i default
  let before : Int :=
    if k = 0 then 0
    else if (word (k - 1)).stops then
      if (word (k - 1)).final then -sentenceBonus else breakCost
    else if (word (k - 1)).sign then -signBonus
    else if 1 < k && (word (k - 2)).final then square 200 / ((word (k - 1)).length + 2)
    else 0
  let here : Int :=
    if (word k).opens then -signBonus
    else if (word k).final then square 150 / ((word k).length + 2)
    else 0
  square 70 + before + here

/-- The best lines from a word on: their cost, where the next line begins, and the length of this
one. -/
structure Rest where
  cost : Int := 0
  next : Nat := 0
  length : Nat := 0
deriving Inhabited

/-- The cost of a line of some length before another line. -/
def Style.lineCost (y : Style) (count : Nat) (rests : Array Rest) (next length : Nat) : Int :=
  if next = count then 0
  else
    let r := rests.getD next default
    shortCost (y.goal - length) +
      if r.next = count then 0 else raggedCost (length - r.length)

/-- The best place to break a line that begins with a word. -/
def Style.bestBreak (y : Style) (ws : Array Word) (rests : Array Rest) (extra : Nat → Int) :
    Nat → Nat → Nat → Option Rest → Rest
  | 0, _, _, best => best.getD default
  | n + 1, next, length, best =>
    let cost := y.lineCost ws.size rests next length + (rests.getD next default).cost + extra length
    let best := match best with
      | some b => if cost < b.cost then ⟨cost, next, length⟩ else b
      | none => ⟨cost, next, length⟩
    if next = ws.size then best
    else
      let length := length + (ws.getD (next - 1) default).space + (ws.getD next default).length
      if length < y.width then y.bestBreak ws rests extra n (next + 1) length (some best) else best

/-- The best lines from each word on. `last` is the length of the line before the first one. -/
def Style.arrange (y : Style) (first other last : Nat) (ws : Array Word) : Array Rest :=
  (List.range ws.size).reverse.foldl (fun rests k =>
    let indent := if k = 0 then first else other
    let extra := fun (length : Nat) =>
      if k = 0 && last ≠ 0 then raggedCost ((length : Int) - last) else 0
    let r := y.bestBreak ws rests extra (ws.size + 1) (k + 1)
      (indent + (ws.getD k default).length) none
    rests.setIfInBounds k { r with cost := r.cost + baseCost ws k })
    (Array.replicate (ws.size + 1) default)

/-! ### Writing -/

/-- Blanks from a column on: tabs as far as they go, if there may be any. -/
def blanks (tabs : Bool) (column size : Nat) : Raw :=
  let stop := (column + size) / 8 * 8
  if tabs && column + 1 < stop then
    List.replicate (stop / 8 - column / 8) '\t' ++ List.replicate (column + size - stop) ' '
  else List.replicate size ' '

/-- A paragraph that is gathered, and what was written. -/
structure Flow where
  tabs : Bool := false
  other : Nat := 0
  first : Nat := 0
  lead : Nat := 0
  /-- the length of the line that was written last in this paragraph -/
  last : Nat := 0
  words : Array Word := #[]
  /-- the lines that were written, the latest first -/
  written : List Raw := []

def Flow.put (f : Flow) (t : Raw) : Flow := { f with written := t :: f.written }

/-- Writes the words of one line. -/
def Style.putLine (y : Style) (f : Flow) (indent : Nat) (ws : List Word) : Flow :=
  let front := blanks f.tabs 0 f.lead ++ y.mark
  let column := f.lead + y.mark.length
  let front := front ++ blanks f.tabs column (indent - column)
  let column := column + (indent - column)
  let r := ws.dropLast.foldl (fun (r : List Raw × Nat) w =>
    let column := r.2 + w.length
    (blanks f.tabs column w.space :: w.text :: r.1, column + w.space)) ([front], column)
  let last := (ws.getLast?.map Word.text).getD []
  { f.put (((last ++ ['\n']) :: r.1).reverse.flatten) with last := r.2 + last.length }

/-- Writes lines from one word to another. -/
def Style.putLines (y : Style) (rests : Array Rest) (stop : Nat) : Nat → Nat → Flow → Flow
  | 0, _, f => f
  | n + 1, k, f =>
    if stop ≤ k then f
    else
      let next := (rests.getD k default).next
      let ws := (f.words.extract k next).toList
      y.putLines rests stop n next (y.putLine f (if k = 0 then f.first else f.other) ws)

/-- The last cheap break before the end. A later one may cost a bit more. -/
def splitPoint (count : Nat) (rests : Array Rest) : Nat → Nat → Option (Int × Nat) → Nat
  | 0, _, best => (best.map Prod.snd).getD count
  | n + 1, k, best =>
    if k = count then (best.map Prod.snd).getD count
    else
      let r := rests.getD k default
      let cost := r.cost - (rests.getD r.next default).cost
      let (c, p) : Int × Nat := match best with
        | some (c, p) => if cost < c then (cost, k) else (c, p)
        | none => (cost, k)
      splitPoint count rests n r.next (some (c + square 3, p))

/-- Writes the start of a paragraph that is too long to be held. -/
def Style.spill (y : Style) (f : Flow) : Flow :=
  let rests := y.arrange f.first f.other f.last f.words
  let count := f.words.size
  let stop := splitPoint count rests (count + 1) (rests.getD 0 default).next none
  let f := y.putLines rests stop (count + 1) 0 f
  { f with words := f.words.extract stop count }

/-- Writes a whole paragraph. -/
def Style.close (y : Style) (f : Flow) : Flow :=
  let count := f.words.size
  let ws := f.words.modify (count - 1) fun w => { w with stops := true, final := true }
  let rests := y.arrange f.first f.other f.last ws
  { y.putLines rests count (count + 1) 0 { f with words := ws } with words := #[] }

/-! ### Gathering -/

/-- The most bytes and words of a paragraph that are held. -/
def byteLimit : Nat := 5000

def wordLimit : Nat := 998

/-- The indent of all lines but the first, where `next` is the column of the second line, if it
belongs to the paragraph. -/
def Style.otherIndent (y : Style) (f : Flow) (next : Option Nat) : Nat :=
  if y.splits then f.first
  else if y.crown then next.getD f.first
  else if y.tagged then
    match next with
    | some n => if n ≠ f.first then n else tagged
    | none => tagged
  else f.first
where
  tagged : Nat := if f.other ≠ f.first then f.other else if f.first = 0 then 3 else 0

def Flow.bytes (f : Flow) : Nat := f.words.foldl (fun n w => n + w.length) 0

/-- Adds a word, for which room is made. -/
def Style.addWord (y : Style) (column : Nat) (w : Word) : Nat → Flow → Flow
  | 0, f => f
  | n + 1, f =>
    let room := byteLimit - f.bytes
    if room < w.length then
      if f.words.isEmpty then
        y.addWord column { w with text := w.text.drop room } n (f.put (w.text.take room))
      else y.addWord column w n (y.spill { f with other := y.otherIndent f (some column) })
    else if f.words.size = wordLimit then
      let f := y.spill { f with other := y.otherIndent f (some column) }
      { f with words := f.words.push w }
    else { f with words := f.words.push w }

def Style.addLine (y : Style) (f : Flow) (l : Line) : Flow :=
  let (ws, tabs) := y.words l.ended (l.text.length + 1) l.column l.text
  ws.foldl (fun f w => y.addWord w.2 w.1 (w.1.length + byteLimit) f)
    { f with tabs := f.tabs || tabs }

/-- Whether a line goes on with a paragraph. -/
def Style.continues (y : Style) (f : Flow) (l : Line) : Bool := l.lead = f.lead && y.marks l

/-- A line that belongs to no paragraph, as it is written. -/
def Style.copied (y : Style) (f : Flow) (l : Line) : Raw :=
  let atEnd := l.text = [] && !l.ended
  let front :=
    if l.lead < l.column || l.text ≠ [] then
      let mark := y.mark.take (l.column - l.lead)
      blanks f.tabs 0 l.lead ++ mark ++
        (if l.text ≠ [] then
          blanks f.tabs (l.lead + mark.length) (l.column - l.lead - mark.length)
        else []) ++
        if atEnd && l.lead + y.mark.length ≤ l.column then ['\n'] else []
    else []
  front ++ l.text ++ if l.ended then ['\n'] else []

/-- Gathers the rest of a paragraph, and tells which lines are left. -/
def Style.gather (y : Style) (joins : Line → Bool) : Flow → List Line → Flow × List Line
  | f, [] => (f, [])
  | f, l :: ls =>
    let f := { f with tabs := f.tabs || l.tabs }
    if joins l then y.gather joins (y.addLine f l) ls else (f, l :: ls)

def Style.run (y : Style) : Nat → Flow → List Line → Flow
  | 0, f, _ | _, f, [] => f
  | n + 1, f, l :: ls =>
    let f := { f with tabs := f.tabs || l.tabs }
    if !y.marks l || l.lead < y.markLead then y.run n (f.put (y.copied f l)) ls
    else
      let f := y.addLine { f with lead := l.lead, first := l.column, last := 0 } l
      let second := ls.head?.filter (y.continues f)
      let f := { f with
        other := y.otherIndent f (second.map Line.column)
        tabs := f.tabs || ls.head?.any Line.tabs }
      let starts := !y.splits && (!y.tagged || y.crown || second.any fun l => l.column ≠ f.first)
      let joins := fun (l : Line) => starts && y.continues f l && l.column = f.other
      let (f, rest) := y.gather joins f ls
      y.run n (y.close f) rest

/-- The lines of a text. Behind the last line break there is one more, which may be empty. -/
def Style.linesOf (y : Style) (text : Raw) : List Line :=
  let parts := text.splitOn '\n'
  parts.dropLast.map (y.line · true) ++ [y.line (parts.getLast?.getD []) false]

def Style.text (y : Style) (text : Raw) : Raw :=
  let lines := y.linesOf text
  (y.run (lines.length + 1) {} lines).written.reverse.flatten

/-! ### The program -/

def grammar : Letter.Grammar where
  plain := "cstu"
  valued := "wpg"
  long := [("crown-margin", 'c'), ("prefix", 'p'), ("split-only", 's'), ("tagged-paragraph", 't'),
    ("uniform-spacing", 'u'), ("width", 'w'), ("goal", 'g')]

def widthLimit : Nat := 2500

/-- A width of at most so much. -/
def widthOf (most : Nat) (v : Raw) : Except Raw Nat :=
  let bad := "invalid width: ".toList ++ Quotation.text v
  match Numeral.natural? v with
  | none => .error bad
  | some n =>
    if most < n then .error (bad ++ ": Numerical result out of range".toList) else .ok n

def styleOf (os : List (Char × Raw)) : Except Raw Style := do
  let asked ← (Letter.value? 'w' os).mapM (widthOf widthLimit)
  let goal ← (Letter.value? 'g' os).mapM (widthOf (asked.getD 75))
  let width := match asked, goal with
    | some w, _ => w
    | none, some g => g + 10
    | none, none => 75
  let text := (Letter.value? 'p' os).getD []
  let bare := text.dropWhile (· = ' ')
  return {
    width, goal := goal.getD (width * 187 / 200)
    crown := Letter.has 'c' os, tagged := Letter.has 't' os, splits := Letter.has 's' os
    uniform := Letter.has 'u' os
    mark := (bare.reverse.dropWhile (· = ' ')).reverse
    markLead := text.length - bare.length
    markLength := bare.length }

/-- A number behind a dash in the place of the first option is a width. -/
def separated (args : List Raw) : List Raw :=
  match args with
  | ('-' :: d :: ds) :: rest => if d.isDigit then ['-', 'w'] :: (d :: ds) :: rest else args
  | args => args

def fmt (self : String) (args : List Raw) : Act Nat := do
  match Letter.split grammar (separated args) with
  | .error f => (f.report self 1).act self 1
  | .ok (os, names) =>
    match styleOf os with
    | .error t => (Notice.complain (self.toList ++ ": ".toList ++ t) 1).act self 1
    | .ok y => Reading.act {
        program := self, names
        complaint := fun name e => self.toList ++ ": cannot open ".toList ++
          Quotation.always name ++ " for reading: ".toList ++ e.text.toList
        write := fun sources => (sources.map fun s => y.text s.text, 0) }

end ServiceStack.Paragraph
