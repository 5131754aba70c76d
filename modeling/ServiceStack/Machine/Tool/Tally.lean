import ServiceStack.Machine.Scenery
import ServiceStack.Machine.Tool.Letter
import ServiceStack.Machine.Tool.Quotation

/-!
How many lines, words and bytes texts have, and how long their longest lines are.
-/

namespace ServiceStack.Tally

/-- The counts of a text. -/
structure Counts where
  lines : Nat := 0
  words : Nat := 0
  bytes : Nat := 0
  widest : Nat := 0
deriving DecidableEq, Repr

/-- Where the counting of a text stands: in a word or not, and in which column. -/
structure Place where
  counts : Counts := {}
  inWord : Bool := false
  column : Nat := 0

def isShown (c : Char) : Bool := ' ' ≤ c && c ≤ '~'

/-- A word begins with a byte that can be seen. -/
def Place.step (p : Place) (c : Char) : Place :=
  let k := { p.counts with bytes := p.counts.bytes + 1 }
  let widest := max k.widest p.column
  if c = '\n' then
    { counts := { k with lines := k.lines + 1, widest }, inWord := false, column := 0 }
  else if c = '\r' || c = '\x0c' then
    { counts := { k with widest }, inWord := false, column := 0 }
  else if c = '\t' then { counts := k, inWord := false, column := p.column + 8 - p.column % 8 }
  else if c = ' ' then { counts := k, inWord := false, column := p.column + 1 }
  else if c = '\x0b' then { counts := k, inWord := false, column := p.column }
  else if isShown c then
    { counts := if p.inWord then k else { k with words := k.words + 1 }
      inWord := true, column := p.column + 1 }
  else { p with counts := k }

def countsOf (text : Raw) : Counts :=
  let p := text.foldl Place.step {}
  { p.counts with widest := max p.counts.widest p.column }

def Counts.add (a b : Counts) : Counts :=
  ⟨a.lines + b.lines, a.words + b.words, a.bytes + b.bytes, max a.widest b.widest⟩

/-- When the counts of all texts are told. -/
inductive Total where
  | auto | always | only | never
deriving DecidableEq, Repr

def totals : List (String × Total) :=
  [("auto", .auto), ("always", .always), ("only", .only), ("never", .never)]

/-- The counts that the options ask for: lines, words and bytes without any. -/
def asked (os : List (Char × Raw)) (k : Counts) : List Nat :=
  let bare := !os.any fun o => "lwcmL".contains o.1
  let wants := fun (c : Char) => Letter.has c os
  (if bare || wants 'l' then [k.lines] else []) ++
  (if bare || wants 'w' then [k.words] else []) ++
  (if wants 'm' then [k.bytes] else []) ++
  (if bare || wants 'c' then [k.bytes] else []) ++
  (if wants 'L' then [k.widest] else [])

def row (width : Nat) (ns : List Nat) (name : Option Raw) : Raw :=
  let cell := fun (n : Nat) =>
    let ds := Numeral.natText 10 n
    List.replicate (width - ds.length) ' ' ++ ds
  let shown := fun (x : Raw) => ' ' :: if x.contains '\n' then Quotation.name x else x
  [' '].intercalate (ns.map cell) ++ (name.map shown).getD [] ++ ['\n']

/-- The file that a name stands for, if there is one. -/
def state? (s : Scene) (name : Raw) : Option FileState :=
  s.file? (if name = ['-'] then "/dev/stdin".toList else name)

/-- The least width of a number: that of the size of all files, unless a size cannot be known. -/
def widthOf (s : Scene) (single : Bool) (names : List Raw) : Nat :=
  if names.length = 1 && single then 1
  else
    let files := names.filterMap (state? s)
    let sizes := files.map fun f => if f.kind = .regular then f.size else 0
    let least := if files.all (·.kind = .regular) then 1 else 7
    max least (Numeral.natText 10 (sizes.foldl (· + ·) 0)).length

/-- Counts each file and tells the counts. Tells the code and the sum. -/
def tellEach (self : String) (tell : Counts → Raw → Raw) :
    Counts → Nat → List Raw → Act (Except Errno (Nat × Counts))
  | sum, code, [] => return .ok (code, sum)
  | sum, code, name :: names => do
    let opened : Except Errno Nat ← if name = ['-'] then pure (.ok 0) else Act.openToRead name
    let shown := if name = ['-'] then "'standard input'".toList else Quotation.name name
    match opened with
    | .error e =>
      Notice.warn (Notice.faultLine self.toList shown e)
      tellEach self tell sum 1 names
    | .ok stream =>
      let r ← Act.readAll stream
      if stream ≠ 0 then Act.close stream
      let text := match r with
        | .ok text => text
        | .error _ => []
      if let .error e := r then Notice.warn (Notice.faultLine self.toList shown e)
      let k := countsOf text
      match ← Act.write 1 (tell k name) with
      | .error e => return .error e
      | .ok () =>
        let rest ← tellEach self tell (sum.add k) (if r.toBool then code else 1) names
        if let .error .EBADF := r then
          if name = ['-'] then Notice.warn (Notice.faultLine self.toList name .EBADF)
        return rest

def grammar : Letter.Grammar where
  plain := "lwcmL"
  valued := "=,"
  long := [("lines", 'l'), ("words", 'w'), ("bytes", 'c'), ("chars", 'm'),
    ("max-line-length", 'L'), ("total", '='), ("files0-from", ',')]

/-- The names that a file lists, each ended by a byte of zero. -/
def listed (self : String) (list : Raw) : Act (Except Raw (List Raw)) := do
  let front := self.toList ++ ": ".toList
  let read ← if list = ['-'] then Act.readAll 0 else Act.readFile list
  match read with
  | .error e =>
    return .error (front ++ "cannot open ".toList ++ Quotation.always list ++
      " for reading: ".toList ++ e.text.toList)
  | .ok text =>
    let names := text.splitOn '\x00'
    return .ok (if names.getLast? = some [] then names.dropLast else names)

def wc (self : String) (args : List Raw) : Act Nat := do
  let front := self.toList ++ ": ".toList
  match Letter.split grammar args with
  | .error f => (f.report self 1).act self 1
  | .ok (os, words) =>
    let mode := match Letter.value? '=' os with
      | none => some Total.auto
      | some w => Letter.choose? totals w
    let list := Letter.value? ',' os
    match mode, list, words with
    | none, _, _ =>
      let w := (Letter.value? '=' os).getD []
      (Letter.usage self (Letter.refusedChoice "--total" w (totals.map Prod.fst)) 1).act self 1
    | _, some _, a :: _ =>
      (Letter.usage self ("extra operand ".toList ++ Quotation.text a ++
        "\nfile operands cannot be combined with --files0-from".toList) 1).act self 1
    | some mode, _, _ => do
      let names : Except Raw (List Raw) ← match list with
        | some list => listed self list
        | none => pure (.ok words)
      match names with
      | .error t =>
        Notice.warn t
        return 1
      | .ok names =>
        let unnamed := list.isNone && words = []
        let (bad, names) := names.partition (· = [])
        for _ in bad do
          Notice.warn (front ++ "invalid zero-length file name".toList)
        let all := if unnamed then [['-']] else names
        let single := (asked os {}).length = 1
        let scene ← Act.look
        let width := if mode = .only then 1 else widthOf scene single all
        let tell := fun (k : Counts) (name : Raw) =>
          if mode = .only then []
          else row width (asked os k) (if unnamed then none else some name)
        match ← tellEach self tell {} (if bad = [] then 0 else 1) all with
        | .error e =>
          let why := if e = .EBADF then ": ".toList ++ e.text.toList else []
          Notice.warn (front ++ "write error".toList ++ why)
          return 1
        | .ok (code, sum) =>
          let sums : Bool := match mode with
            | .auto => 1 < all.length
            | .never => false
            | _ => true
          let last := row width (asked os sum) (if mode = .only then none else some "total".toList)
          (Notice.say (if sums then last else []) code).act self 1

end ServiceStack.Tally
