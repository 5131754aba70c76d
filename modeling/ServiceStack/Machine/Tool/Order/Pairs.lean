import ServiceStack.Machine.Tool.Order.Basic

/-!
Programs for lines of two texts that are in order: what both have, and lines put together by a
field; and a program that brings words into an order that pairs of them ask for.
-/

namespace ServiceStack.Order

def extraWord (self : String) (a : Raw) : Notice :=
  Letter.usage self ("extra operand ".toList ++ Quotation.text a) 1

/-- The names of two texts. -/
def twoNames (self : String) : List Raw → Except Notice (Raw × Raw)
  | [] => .error (Letter.usage self "missing operand".toList 1)
  | [a] => .error (Letter.usage self ("missing operand after ".toList ++ Quotation.text a) 1)
  | [a, b] => .ok (a, b)
  | _ :: _ :: c :: _ => .error (extraWord self c)

/-- Reads two texts, or tells which of them cannot be read. -/
def readTwo (self : String) (names : Raw × Raw) : Act (Except Notice (Raw × Raw)) := do
  let r : Reading := { program := self, fatal := true, write := fun _ => ([], 0) }
  let items ← r.readEach [names.1, names.2]
  match items with
  | [.ok a, .ok b] => return .ok (a.text, b.text)
  | items => return .error (match items.getLast? with
      | some (.error (name, e)) => .complain (Quotation.faultLine self.toList name e) 1
      | _ => .silent 1)

/-! ### What both have -/

/-- Whether and when lines out of order are told. -/
inductive Check where
  | never
  /-- once a line was found that the other text does not have -/
  | late
  | always
deriving DecidableEq, Repr

/-- Where a comparison of two texts stands. -/
structure Walk where
  writes : List (Nat × Raw) := []
  /-- which texts were found out of order -/
  told : List Nat := []
  counts : Nat × Nat × Nat := (0, 0, 0)
  ended : Bool := false

/-- Notes that a line follows one that it should not follow. -/
def Walk.order (w : Walk) (c : Check) (single : Bool) (n : Nat) (told : Raw) : Walk :=
  if c = .never || c = .late && !single || w.told.contains n then w
  else { w with writes := (2, told ++ ['\n']) :: w.writes, told := n :: w.told
                ended := c = .always }

structure CommStyle where
  self : Raw
  check : Check
  /-- which columns are written -/
  first : Bool
  second : Bool
  both : Bool
  separator : Raw
  stop : Char

/-- Compares the lines of two texts. `single` tells that one was found that stands alone. -/
def comm (y : CommStyle) (single : Bool) (a b : List Raw) (w : Walk) : Walk :=
  let put := fun (w : Walk) (shown : Bool) (front l : Raw) =>
    if shown then { w with writes := (1, front ++ l ++ [y.stop]) :: w.writes } else w
  let gap := fun (c : Bool) => if c then y.separator else []
  let step := fun (w : Walk) (n : Nat) (single : Bool) (l : Raw) (ls : List Raw) =>
    match ls with
    | m :: _ => if m < l then w.order y.check single n (y.self ++ ": file ".toList ++
        Numeral.natText 10 n ++ " is not in sorted order".toList) else w
    | [] => w
  if w.ended then w
  else match a, b with
    | [], [] => w
    | l :: ls, [] =>
      let w := put { w with counts := (w.counts.1 + 1, w.counts.2) } y.first [] l
      comm y true ls [] (step w 1 true l ls)
    | [], m :: ms =>
      let w := put { w with counts := (w.counts.1, w.counts.2.1 + 1, w.counts.2.2) } y.second
        (gap y.first) m
      comm y true [] ms (step w 2 true m ms)
    | l :: ls, m :: ms =>
      if l = m then
        let w := put { w with counts := (w.counts.1, w.counts.2.1, w.counts.2.2 + 1) } y.both
          (gap y.first ++ gap y.second) l
        comm y single ls ms (step (step w 1 single l ls) 2 single m ms)
      else if l < m then
        let w := put { w with counts := (w.counts.1 + 1, w.counts.2) } y.first [] l
        comm y true ls (m :: ms) (step w 1 true l ls)
      else
        let w := put { w with counts := (w.counts.1, w.counts.2.1 + 1, w.counts.2.2) } y.second
          (gap y.first) m
        comm y true (l :: ls) ms (step w 2 true m ms)
termination_by a.length + b.length

def commGrammar : Letter.Grammar where
  plain := "123znct"
  valued := "o"
  long := [("check-order", 'c'), ("nocheck-order", 'n'), ("output-delimiter", 'o'),
    ("total", 't'), ("zero-terminated", 'z')]

def runComm (self : String) (args : List Raw) : Act Nat := do
  match Letter.split commGrammar args with
  | .error f => (f.report self 1).act self 1
  | .ok (os, names) =>
    match twoNames self names with
    | .error r => r.act self 1
    | .ok names =>
      match ← readTwo self names with
      | .error r => r.act self 1
      | .ok (a, b) =>
        let has := fun c => Letter.has c os
        let stop := if has 'z' then '\x00' else '\n'
        let separator := match Letter.value? 'o' os with
          | some [] => ['\x00']
          | some s => s
          | none => ['\t']
        let check := match Letter.last? "nc" os with
          | some 'c' => Check.always
          | some _ => .never
          | none => .late
        let w := comm ⟨self.toList, check, !has '1', !has '2', !has '3', separator, stop⟩ false
          (unitsOf stop a) (unitsOf stop b) {}
        let total := if has 't' && !w.ended then
            let counts := [w.counts.1, w.counts.2.1, w.counts.2.2].map (Numeral.natText 10)
            [separator.intercalate (counts ++ ["total".toList]) ++ [stop]]
          else []
        let late := if w.told ≠ [] && check = .late then
            [(2, self.toList ++ ": input is not in sorted order\n".toList)]
          else []
        Notice.act self ⟨w.writes.reverse ++ total.map (1, ·) ++ late,
          if w.told = [] then 0 else 1⟩ 1

/-! ### Lines put together -/

/-- A field of the output: the common one, or one of a text. -/
inductive Slot where
  | common
  | field (file field : Nat)
deriving DecidableEq, Repr

structure JoinStyle where
  self : Raw
  names : Raw × Raw
  check : Check
  fold : Bool
  fields : Nat × Nat
  separator : Option Char
  filler : Raw
  slots : Option (List Slot)
  /-- which lines are written: those without a partner of each text, and those with one -/
  first : Bool
  second : Bool
  both : Bool
  stop : Char

/-- The fields of a line. -/
def JoinStyle.split (y : JoinStyle) (l : Raw) : List Raw :=
  match y.separator with
  | some d => l.splitOn d
  | none => (l.splitOnP isGap).filter (· ≠ [])

def JoinStyle.key (y : JoinStyle) (n : Nat) (l : List Raw) : Raw :=
  let k := (l[n]?).getD []
  if y.fold then k.map Char.toUpper else k

/-- A line of the output, of two lines or of one. -/
def JoinStyle.row (y : JoinStyle) (a b : Option (List Raw)) : Raw :=
  let shown := fun (f : Option Raw) =>
    match f with
    | some [] | none => y.filler
    | some t => t
  let others := fun (n : Nat) (l : Option (List Raw)) => (l.getD []).eraseIdx n
  let common := match a, b with
    | some l, _ => l[y.fields.1]?
    | none, some l => l[y.fields.2]?
    | none, none => none
  let cells := match y.slots with
    | none =>
      shown common :: (others y.fields.1 a ++ others y.fields.2 b).map fun t => shown (some t)
    | some slots => slots.map fun s => match s with
        | .common => shown common
        | .field file n => shown (((if file = 1 then a else b).getD [])[n]?)
  [y.separator.getD ' '].intercalate cells ++ [y.stop]

/-- A line with its number, its text and its fields. -/
structure JoinLine where
  number : Nat
  text : Raw
  fields : List Raw

def JoinStyle.lines (y : JoinStyle) (text : Raw) : List JoinLine :=
  ((unitsOf y.stop text).zipIdx 1).map fun l => ⟨l.2, l.1, y.split l.1⟩

def JoinStyle.keyOf (y : JoinStyle) (file : Nat) (l : JoinLine) : Raw :=
  y.key (if file = 1 then y.fields.1 else y.fields.2) l.fields

/-- Notes where a line does not follow the one before it. -/
def JoinStyle.step (y : JoinStyle) (single : Bool) (file : Nat) (l : JoinLine) (ls : List JoinLine)
    (w : Walk) : Walk :=
  match ls with
  | m :: _ =>
    if y.keyOf file m < y.keyOf file l then
      let name := if file = 1 then y.names.1 else y.names.2
      w.order y.check single file (y.self ++ ": ".toList ++ name ++ [':'] ++
        Numeral.natText 10 m.number ++ ": is not sorted: ".toList ++ m.text)
    else w
  | [] => w

def Walk.put (w : Walk) (shown : Bool) (t : Raw) : Walk :=
  if shown then { w with writes := (1, t) :: w.writes } else w

/-- Takes lines with the same key as the first one from a text. -/
def JoinStyle.same (y : JoinStyle) (single : Bool) (file : Nat) (k : Raw) :
    List JoinLine → Walk → List JoinLine × List JoinLine × Walk
  | [], w => ([], [], w)
  | l :: ls, w =>
    if y.keyOf file l = k then
      let r := same y single file k ls (y.step single file l ls w)
      (l :: r.1, r.2)
    else ([], l :: ls, w)

/-- Puts lines of two texts together. -/
def join (y : JoinStyle) : Nat → Bool → List JoinLine → List JoinLine → Walk → Walk
  | 0, _, _, _, w => w
  | n + 1, single, a, b, w =>
    if w.ended then w
    else match a, b with
      | [], [] => w
      | l :: ls, [] =>
        join y n true ls [] (y.step true 1 l ls (w.put y.first (y.row (some l.fields) none)))
      | [], m :: ms =>
        join y n true [] ms (y.step true 2 m ms (w.put y.second (y.row none (some m.fields))))
      | l :: ls, m :: ms =>
        let k := y.keyOf 1 l
        if k < y.keyOf 2 m then
          join y n true ls (m :: ms)
            (y.step single 1 l ls (w.put y.first (y.row (some l.fields) none)))
        else if y.keyOf 2 m < k then
          join y n true (l :: ls) ms
            (y.step single 2 m ms (w.put y.second (y.row none (some m.fields))))
        else
          let (xs, a, w) := y.same single 1 k (l :: ls) w
          let (zs, b, w) := y.same single 2 k (m :: ms) w
          let rows := xs.flatMap fun x => zs.map fun z => y.row (some x.fields) (some z.fields)
          join y n single a b (rows.foldl (fun w t => w.put y.both t) w)

def joinGrammar : Letter.Grammar where
  plain := "iznch"
  valued := "aejotv12"
  long := [("ignore-case", 'i'), ("header", 'h'), ("check-order", 'c'), ("nocheck-order", 'n'),
    ("zero-terminated", 'z')]

/-- A number of a field, from zero on. -/
def field? (v : Raw) : Except Raw Nat :=
  match Numeral.natural? v with
  | some n =>
    if n = 0 then .error ("invalid field number: ".toList ++ Quotation.text v) else .ok (n - 1)
  | none => .error ("invalid field number: ".toList ++ Quotation.text v)

def slot? (v : Raw) : Except Raw Slot :=
  match v with
  | ['0'] => .ok .common
  | f :: '.' :: n =>
    if f = '1' || f = '2' then (field? n).map (Slot.field (f.toNat - 48))
    else .error ("invalid file number in field spec: ".toList ++ Quotation.text v)
  | _ => .error ("invalid field specifier: ".toList ++ Quotation.text v)

def joinStyle? (self : Raw) (names : Raw × Raw) (os : List (Char × Raw)) :
    Except Raw JoinStyle := do
  let has := fun c => Letter.has c os
  let field := fun (c : Char) => match (Letter.value? c os <|> Letter.value? 'j' os) with
    | some v => field? v
    | none => .ok 0
  let files := (os.filter fun o => o.1 = 'a' || o.1 = 'v').map Prod.snd
  if let some v := files.find? fun v => v ≠ ['1'] && v ≠ ['2'] then
    throw ("invalid field number: ".toList ++ Quotation.text v)
  let separator ← match Letter.value? 't' os with
    | none => pure none
    | some [] => pure (some '\n')
    | some [c] => pure (some c)
    | some ['\\', '0'] => pure (some '\x00')
    | some v => throw ("multi-character tab ".toList ++ Quotation.text v)
  let given := (os.filter (·.1 = 'o')).map Prod.snd
  let texts := (given.flatMap fun v => v.splitOnP fun c => c = ',' || c = ' ' || c = '\t').filter
    (· ≠ [])
  let slots ← if given = [] || given = ["auto".toList] then pure none
    else (texts.mapM slot?).map some
  let first ← field '1'
  let second ← field '2'
  return {
    self, names, separator, slots, fold := has 'i', fields := (first, second)
    check := match Letter.last? "nc" os with
      | some 'c' => Check.always
      | some _ => .never
      | none => .late
    filler := (Letter.value? 'e' os).getD []
    first := files.contains ['1'], second := files.contains ['2'], both := !has 'v'
    stop := if has 'z' then '\x00' else '\n' }

/-- The fields of the first lines, if they are to be those of all lines. -/
def JoinStyle.auto (y : JoinStyle) (a b : List JoinLine) : JoinStyle :=
  let fields := fun (file skipped : Nat) (ls : List JoinLine) =>
    ((List.range ((ls.head?.map fun l => l.fields.length).getD 0)).filter (· ≠ skipped)).map
      (Slot.field file)
  { y with slots := some (.common :: fields 1 y.fields.1 a ++ fields 2 y.fields.2 b) }

def runJoin (self : String) (args : List Raw) : Act Nat := do
  match Letter.split joinGrammar args with
  | .error f => (f.report self 1).act self 1
  | .ok (os, names) =>
    match twoNames self names with
    | .error r => r.act self 1
    | .ok names =>
      match joinStyle? self.toList names os with
      | .error t => (Notice.complain (self.toList ++ ": ".toList ++ t) 1).act self 1
      | .ok y =>
        match ← readTwo self names with
        | .error r => r.act self 1
        | .ok (ta, tb) =>
          let a := y.lines ta
          let b := y.lines tb
          let y := if Letter.value? 'o' os = some "auto".toList then y.auto a b else y
          let w : Walk := {}
          let (a, b, w) := if Letter.has 'h' os && (a ≠ [] || b ≠ []) then
              (a.tail, b.tail, w.put true
                (y.row (a.head?.map JoinLine.fields) (b.head?.map JoinLine.fields)))
            else (a, b, w)
          let w := join y (a.length + b.length + 1) false a b w
          let late := if w.told ≠ [] && y.check = .late then
              [(2, self.toList ++ ": input is not in sorted order\n".toList)]
            else []
          Notice.act self ⟨w.writes.reverse ++ late, if w.told = [] then 0 else 1⟩ 1

/-! ### Words that stand before others -/

/-- A word, how many words still have to come before it, and which words come behind it. -/
structure Node where
  word : Raw
  count : Nat := 0
  behind : List Raw := []

def addWord (ns : List Node) (w : Raw) : List Node :=
  if ns.any (·.word = w) then ns else ns ++ [{ word := w }]

/-- The words of some pairs, in the order of their bytes. -/
def nodesOf : List Raw → List Node → List Node
  | a :: b :: ws, ns =>
    let ns := addWord (addWord ns a) b
    nodesOf ws (if a = b then ns else ns.map fun n =>
      if n.word = a then { n with behind := b :: n.behind }
      else if n.word = b then { n with count := n.count + 1 } else n)
  | _, ns => ns.mergeSort fun a b => a.word ≤ b.word

def lower (ns : List Node) (w : Raw) : List Node :=
  ns.map fun n => if n.word = w then { n with count := n.count - 1 } else n

/-- Takes words that nothing has to come before, and those that this frees. -/
def release : Nat → List Raw → List Node → List Raw → List Raw × List Node
  | 0, _, ns, out => (out, ns)
  | _, [], ns, out => (out, ns)
  | n + 1, w :: queue, ns, out =>
    let behind := ((ns.find? (·.word = w)).map Node.behind).getD []
    let r := behind.foldl (fun (r : List Node × List Raw) b =>
      let ns := lower r.1 b
      (ns, if ns.any fun m => m.word = b && m.count = 0 then r.2 ++ [b] else r.2)) (ns, [])
    release n (queue ++ r.2) (r.1.filter (·.word ≠ w)) (w :: out)

/-- Looks for a way round: each word on it comes before the one found before it. -/
def findLoop : Nat → List Node → List Raw → Option (List Raw × Raw)
  | 0, _, _ => none
  | n + 1, ns, path =>
    let r := ns.foldl (fun (r : List Raw × Option (List Raw × Raw)) k =>
      if r.2.isSome || k.count = 0 then r
      else match r.1 with
        | [] => ([k.word], none)
        | goal :: _ =>
          if k.behind.contains goal then
            if r.1.contains k.word then
              (r.1, some (r.1.takeWhile (· ≠ k.word) ++ [k.word], goal))
            else (k.word :: r.1, none)
          else r) (path, none)
    match r.2 with
    | some loop => some loop
    | none => findLoop n ns r.1

/-- Brings words into an order, where one pair of each way round is passed over. -/
def sortWords (self name : Raw) : Nat → List Node → List (Nat × Raw) → List (Nat × Raw)
  | 0, _, writes => writes
  | n + 1, ns, writes =>
    let free := (ns.filter (·.count = 0)).map Node.word
    let r := release (ns.length + 1) free ns []
    let writes := r.1.map (fun w => (1, w ++ ['\n'])) ++ writes
    if r.2 = [] then writes
    else
      let complaint := self ++ ": ".toList ++ name ++ ": input contains a loop:\n".toList
      let writes := (2, complaint) :: writes
      match findLoop (2 * r.2.length + 2) r.2 [] with
      | none => writes
      | some (loop, goal) =>
        let last := loop.getLast?.getD []
        let ns := lower (r.2.map fun k =>
          if k.word = last then { k with behind := k.behind.erase goal } else k) goal
        sortWords self name n ns
          ((loop.map fun w => (2, self ++ ": ".toList ++ w ++ ['\n'])).reverse ++ writes)

def tsort (self : String) (args : List Raw) : Act Nat := do
  match Letter.split {} args with
  | .error f => (f.report self 1).act self 1
  | .ok (_, _ :: b :: _) => (extraWord self b).act self 1
  | .ok (_, names) =>
    let r : Reading := { program := self, write := fun _ => ([], 0) }
    let name := names.headD ['-']
    match ← r.readNamed name with
    | .error e => (Notice.complain (Quotation.faultLine self.toList name e) 1).act self 1
    | .ok s =>
      let ws := (s.text.splitOnP isGap).filter (· ≠ [])
      if ws.length % 2 = 1 then
        (Notice.complain (self.toList ++ ": ".toList ++ name ++
          ": input contains an odd number of tokens".toList) 1).act self 1
      else
        let ns := nodesOf ws []
        let writes := (sortWords self.toList name (ws.length + 1) ns []).reverse
        Notice.act self ⟨writes, if writes.all (·.1 = 1) then 0 else 1⟩ 1

end ServiceStack.Order
