import ServiceStack.Machine.Tool.Quotation
import ServiceStack.Machine.Tool.Order.Basic
import ServiceStack.Machine.Tool.Regex.Grammar

/-!
Programs that look at the columns of letters in lines: they fold long lines, put blanks for tabs or
tabs for blanks, and number lines.
-/

namespace ServiceStack.Column

def isGap (c : Char) : Bool := c = ' ' || c = '\t'

/-- A number, or what is told of it. -/
def numeral (what : String) (least : Nat) (a : Raw) : Except Raw Nat :=
  match Numeral.natural? a with
  | some n =>
    if n < least then .error (what.toList ++ ": ".toList ++ Quotation.text a ++
      ": Numerical result out of range".toList) else .ok n
  | none => .error (what.toList ++ ": ".toList ++ Quotation.text a)

/-- The digits among options, as one number. -/
def digitsOf (os : List (Char × Raw)) : Option Nat :=
  let ds := (os.map Prod.fst).filter Char.isDigit
  if ds = [] then none else some (Numeral.ofDigits 10 ds)

/-! ### Lines of some width -/

/-- How far a byte leads. -/
def advance (bytes : Bool) (column : Nat) (c : Char) : Nat :=
  if bytes then column + 1
  else if c = '\x08' then column - 1
  else if c = '\r' then 0
  else if c = '\t' then column + 8 - column % 8
  else column + 1

def widthOf (bytes : Bool) (t : Raw) : Nat := t.foldl (advance bytes) 0

/-- Breaks a line where it grows too wide, behind the last blank if it may. `held` is what was
taken, the latest first. -/
def folded (bytes spaces : Bool) (width : Nat) : Nat → Nat → Raw → Raw → Raw
  | 0, _, held, cs => held.reverse ++ cs
  | _, _, held, [] => held.reverse
  | n + 1, column, held, c :: cs =>
    let next := advance bytes column c
    if next ≤ width then folded bytes spaces width n next (c :: held) cs
    else
      let behind := held.takeWhile (!isGap ·)
      if spaces && behind.length < held.length then
        (held.drop behind.length).reverse ++ '\n' ::
          folded bytes spaces width n (widthOf bytes behind.reverse) behind (c :: cs)
      else if held = [] then folded bytes spaces width n next [c] cs
      else held.reverse ++ '\n' :: folded bytes spaces width n 0 [] (c :: cs)

def fold (self : String) (args : List Raw) : Act Nat :=
  let g : Letter.Grammar := {
    plain := "bs0123456789", valued := "w"
    long := [("bytes", 'b'), ("spaces", 's'), ("width", 'w')] }
  match Letter.split g args with
  | .error f => (f.report self 1).act self 1
  | .ok (os, names) =>
    let width := match Letter.value? 'w' os with
      | some v => numeral "invalid number of columns" 1 v
      | none => .ok ((digitsOf os).getD 80)
    match width with
    | .error t => (Notice.complain (self.toList ++ ": ".toList ++ t) 1).act self 1
    | .ok width =>
      let turn := fun (l : Raw) =>
        folded (Letter.has 'b' os) (Letter.has 's' os) width (3 * l.length + 3) 0 [] l
      Reading.act {
        program := self, names, complaint := Quotation.faultLine self.toList
        write := fun sources =>
          (sources.map fun s => ['\n'].intercalate ((s.text.splitOn '\n').map turn), 0) }

/-! ### Tabs and blanks -/

/-- Where tabs lead: some places, and behind them to multiples, or from the last place on in steps.
-/
structure Tabs where
  places : List Nat := []
  multiple : Option Nat := none
  step : Option Nat := none

/-- The place to which a tab leads from a column, if there is one. -/
def Tabs.next? (t : Tabs) (column : Nat) : Option Nat :=
  match t.places.find? (column < ·), t.multiple, t.step with
  | some n, _, _ => some n
  | none, some m, _ => some (column + m - column % m)
  | none, none, some s => some (column + s - (column - t.places.getLast?.getD 0) % s)
  | none, none, none => none

/-- The tabs that a list of numbers names. -/
def tabs? (lists : List Raw) : Except Raw Tabs := do
  let words := (lists.flatMap fun l => l.splitOnP fun c => c = ',' || isGap c).filter (· ≠ [])
  let number := fun (a : Raw) =>
    match Numeral.natural? a with
    | some n => Except.ok n
    | none => .error ("tab size contains invalid character(s): ".toList ++
        Quotation.text (a.dropWhile Char.isDigit))
  let t ← words.foldlM (fun (t : Tabs) w => do
    match w with
    | '/' :: ds => return { t with multiple := some (← number ds) }
    | '+' :: ds => return { t with step := some (← number ds) }
    | ds => return { t with places := t.places ++ [← number ds] }) {}
  if t.places.any (· = 0) then throw "tab size cannot be 0".toList
  if t.places.zip t.places.tail |>.any fun p => p.2 ≤ p.1 then
    throw "tab sizes must be ascending".toList
  match t.places, t.multiple, t.step with
  | [], none, none => return { multiple := some 8 }
  | [n], none, none => return { multiple := some n }
  | _, some 0, s => return { t with multiple := none, step := s }
  | _, _, _ => return t

/-- A line with blanks for its tabs; `initial` if only those before other letters count. -/
def expandLine (t : Tabs) (initial : Bool) : Nat → Bool → Raw → Raw
  | _, _, [] => []
  | column, turns, c :: cs =>
    if !turns then c :: expandLine t initial column turns cs
    else if c = '\t' then
      let next := (t.next? column).getD (column + 1)
      List.replicate (next - column) ' ' ++ expandLine t initial next turns cs
    else
      let next := if c = '\x08' then column - 1 else column + 1
      c :: expandLine t initial next (turns && (!initial || isGap c)) cs

def expand (self : String) (args : List Raw) : Act Nat :=
  let g : Letter.Grammar := {
    plain := "i0123456789", valued := "t", long := [("initial", 'i'), ("tabs", 't')] }
  match Letter.split g args with
  | .error f => (f.report self 1).act self 1
  | .ok (os, names) =>
    let lists := (os.filter (·.1 = 't')).map Prod.snd
    match tabs? (lists ++ ((digitsOf os).map (Numeral.natText 10)).toList) with
    | .error t => (Notice.complain (self.toList ++ ": ".toList ++ t) 1).act self 1
    | .ok t => Reading.act {
        program := self, names, complaint := Quotation.faultLine self.toList
        write := fun sources => (sources.map fun s => ['\n'].intercalate
          ((s.text.splitOn '\n').map (expandLine t (Letter.has 'i' os) 0 true)), 0) }

/-- Where the change of blanks to tabs stands in a line. -/
structure Blanks where
  column : Nat := 0
  turns : Bool := true
  wasBlank : Bool := true
  /-- the blanks that may become a tab -/
  held : Raw := []
  /-- one blank stood right before the place of a tab -/
  single : Bool := false

/-- A line with tabs for blanks; `entire` if also behind other letters. -/
def unexpandLine (t : Tabs) (entire : Bool) : Blanks → Raw → Raw
  | b, [] => b.held
  | b, c :: cs =>
    if !b.turns then c :: unexpandLine t entire b cs
    else
      let release := fun (held : Raw) (single : Bool) =>
        if 1 < held.length && single then '\t' :: held.tail else held
      if isGap c then
        match t.next? b.column with
        | none => release b.held b.single ++ c :: unexpandLine t entire { b with turns := false } cs
        | some next =>
          let firstTab := fun (held : Raw) => if held = [] then [] else '\t' :: held.tail
          let done := fun (column : Nat) (held : Raw) =>
            let held := if b.single then held.take 1 else []
            release held b.single ++ '\t' ::
              unexpandLine t entire { column, wasBlank := true } cs
          if c = '\t' then done next (firstTab b.held)
          else
            let column := b.column + 1
            if b.wasBlank && column = next then done column (firstTab b.held)
            else unexpandLine t entire { b with
              column, wasBlank := true, held := b.held ++ [c]
              single := b.single || column = next } cs
      else
        let column := if c = '\x08' then b.column - 1 else b.column + 1
        release b.held b.single ++ c ::
          unexpandLine t entire { column, turns := entire, wasBlank := false } cs

def unexpand (self : String) (args : List Raw) : Act Nat :=
  let g : Letter.Grammar := {
    plain := "af0123456789", valued := "t"
    long := [("all", 'a'), ("first-only", 'f'), ("tabs", 't')] }
  match Letter.split g args with
  | .error f => (f.report self 1).act self 1
  | .ok (os, names) =>
    let lists := (os.filter (·.1 = 't')).map Prod.snd
    let entire := (Letter.has 'a' os || lists ≠ []) && !Letter.has 'f' os
    match tabs? (lists ++ ((digitsOf os).map (Numeral.natText 10)).toList) with
    | .error t => (Notice.complain (self.toList ++ ": ".toList ++ t) 1).act self 1
    | .ok t => Reading.act {
        program := self, names, complaint := Quotation.faultLine self.toList
        write := fun sources => (sources.map fun s => ['\n'].intercalate
          ((s.text.splitOn '\n').map (unexpandLine t entire {})), 0) }

/-! ### Numbers before lines -/

/-- Which lines are numbered. -/
inductive Numbering where
  | all
  | filled
  | none
  | matching (r : Regex)

structure NumberStyle where
  header : Numbering := .none
  body : Numbering := .filled
  footer : Numbering := .none
  delimiter : Raw := ['\\', ':']
  width : Nat := 6
  separator : Raw := ['\t']
  /-- the left side, the right side, or the right side with zeros -/
  format : Raw := "rn".toList
  start : Int := 1
  step : Int := 1
  /-- of so many empty lines one is numbered -/
  joined : Nat := 1
  goesOn : Bool := false

structure NumberState where
  number : Int
  style : Numbering
  empty : Nat := 0

def NumberStyle.text (y : NumberStyle) (n : Int) : Raw :=
  let ds := Numeral.intText n
  let blanks := List.replicate (y.width - ds.length) ' '
  if y.format = "ln".toList then ds ++ blanks
  else if y.format = "rz".toList then
    if n < 0 then '-' :: Numeral.padZeros (y.width - 1) ds.tail else Numeral.padZeros y.width ds
  else blanks ++ ds

/-- The numbered lines of a text. -/
def NumberStyle.lines (y : NumberStyle) : NumberState → List Raw → List Raw
  | _, [] => []
  | s, l :: ls =>
    let bare := if l.getLast? = some '\n' then l.dropLast else l
    let section? : Option Numbering :=
      if y.delimiter = [] then none
      else if bare = y.delimiter ++ y.delimiter ++ y.delimiter then some y.header
      else if bare = y.delimiter ++ y.delimiter then some y.body
      else if bare = y.delimiter then some y.footer
      else none
    match section? with
    | some style =>
      ['\n'] :: y.lines { s with style, number := if y.goesOn then s.number else y.start } ls
    | none =>
      let empty := if bare = [] then s.empty + 1 else 0
      let counts := match s.style with
        | .all => bare ≠ [] || y.joined ≤ empty
        | .filled => bare ≠ []
        | .none => false
        | .matching r => (Regex.search {} r (.start bare)).isSome
      let front := if counts then y.text s.number ++ y.separator
        else List.replicate (y.width + y.separator.length) ' '
      (front ++ bare ++ ['\n']) :: y.lines { s with
        number := if counts then s.number + y.step else s.number
        empty := if counts then 0 else empty } ls

def numbering? (what : String) (v : Raw) : Except Raw Numbering :=
  match v with
  | ['a'] => .ok .all
  | ['t'] => .ok .filled
  | ['n'] => .ok .none
  | 'p' :: text =>
    match Regex.read .basic text with
    | .ok r => .ok (.matching r.1)
    | .error f => .error f.text
  | v => .error
      ("invalid ".toList ++ what.toList ++ " numbering style: ".toList ++ Quotation.text v)

def numberGrammar : Letter.Grammar where
  plain := "p"
  valued := "bdfhilnsvw"
  long := [("body-numbering", 'b'), ("section-delimiter", 'd'), ("footer-numbering", 'f'),
    ("header-numbering", 'h'), ("line-increment", 'i'), ("join-blank-lines", 'l'),
    ("number-format", 'n'), ("no-renumber", 'p'), ("number-separator", 's'),
    ("starting-line-number", 'v'), ("number-width", 'w')]

/-- The style that options ask for, or what is told and whether help is named. -/
def numberStyle? (os : List (Char × Raw)) : Except (Raw × Bool) NumberStyle :=
  os.foldlM (fun (y : NumberStyle) o => do
    let plainly := fun {α : Type} (r : Except Raw α) => r.mapError fun t => (t, false)
    let helped := fun {α : Type} (r : Except Raw α) => r.mapError fun t => (t, true)
    let whole := fun (what : String) => match Numeral.decimal? o.2 with
      | some n => Except.ok n
      | none =>
        .error ("invalid ".toList ++ what.toList ++ ": ".toList ++ Quotation.text o.2, false)
    match o.1 with
    | 'b' => return { y with body := ← helped (numbering? "body" o.2) }
    | 'h' => return { y with header := ← helped (numbering? "header" o.2) }
    | 'f' => return { y with footer := ← helped (numbering? "footer" o.2) }
    | 'd' => return { y with delimiter := if o.2.length = 1 then o.2 ++ [':'] else o.2 }
    | 'i' => return { y with step := ← whole "line number increment" }
    | 'v' => return { y with start := ← whole "starting line number" }
    | 'l' => return { y with
        joined := ← plainly (numeral "invalid line number of blank lines" 1 o.2) }
    | 'w' => return { y with width := ← plainly (numeral "invalid line number field width" 1 o.2) }
    | 's' => return { y with separator := o.2 }
    | 'p' => return { y with goesOn := true }
    | 'n' =>
      if ["ln", "rn", "rz"].contains (String.ofList o.2) then return { y with format := o.2 }
      else throw ("invalid line numbering format: ".toList ++ Quotation.text o.2, true)
    | _ => return y) {}

def nl (self : String) (args : List Raw) : Act Nat :=
  match Letter.split numberGrammar args with
  | .error f => (f.report self 1).act self 1
  | .ok (os, names) =>
    match numberStyle? os with
    | .error (t, true) => (Letter.usage self t 1).act self 1
    | .error (t, false) => (Notice.complain (self.toList ++ ": ".toList ++ t) 1).act self 1
    | .ok y => Reading.act {
        program := self, names, complaint := Quotation.faultLine self.toList
        write := fun sources =>
          let ls := sources.flatMap fun s => Order.unitsOf '\n' s.text
          (Reading.atEnd sources
            (y.lines { number := y.start, style := y.body } ls).flatten, 0) }

end ServiceStack.Column
