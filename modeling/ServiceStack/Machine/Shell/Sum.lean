import ServiceStack.Machine.Shell.Arithmetic
import ServiceStack.Machine.Shell.Cell

/-!
Sums of the rich dialect. The value of a name is a sum of its own. Places are given values while the
sum is worked out, and what is not needed is only read.
-/

namespace ServiceStack.Shell.Sum

/-- Why a sum has no value. -/
inductive Fault where
  /-- the sum, what is wrong, and the text from there on -/
  | told (text : Raw) (why : String) (token : Raw)
  | unset (name : Raw)
  | locked (name : Raw)
deriving DecidableEq, Repr

inductive Token where
  | number (n : Int)
  | cell (name : Raw) (index : Option Raw)
  | sign (s : String)
  /-- one of a pair of signs before or behind a name -/
  | step (behind up : Bool)
  | bad (why : String)
deriving DecidableEq, Repr

/-! ### Tokens -/

def digit? (base : Nat) (c : Char) : Option Nat :=
  if c.isDigit then some (c.toNat - 48)
  else if c.isLower then some (c.toNat - 87)
  else if c.isUpper then some (if base ≤ 36 then c.toNat - 55 else c.toNat - 29)
  else if c = '@' then some 62
  else if c = '_' then some 63
  else none

/-- A number in some base, which wraps around. -/
def ofDigits (base : Nat) : Raw → Nat → Token
  | [], n => .number (Arithmetic.wrap n)
  | c :: cs, n =>
    match digit? base c with
    | some d =>
      if d < base then ofDigits base cs (n * base + d) else .bad "value too great for base"
    | none => .bad "invalid number"

/-- A number: a base may stand before it. -/
def numeral (t : Raw) : Token :=
  match t.takeWhile (· ≠ '#'), t.dropWhile (· ≠ '#') with
  | '0' :: x :: ds, [] => if x = 'x' || x = 'X' then ofDigits 16 ds 0 else ofDigits 8 (x :: ds) 0
  | ds, [] => ofDigits 10 ds 0
  | ds, _ :: rest =>
    match ofDigits 10 ds 0 with
    | .number b =>
      if b < 2 || 64 < b then .bad "invalid arithmetic base"
      else if rest = [] then .bad "invalid integer constant"
      else ofDigits b.toNat rest 0
    | t => t

def signs : List String := [
  "<<=", ">>=", "<<", ">>", "<=", ">=", "==", "!=", "&&", "||", "**", "*=", "/=", "%=", "+=",
  "-=", "&=", "^=", "|=", "<", ">", "=", "!", "~", "&", "|", "^", "+", "-", "*", "/", "%", "(",
  ")", "?", ":", ","]

/-- The text of an index up to its bracket, and what follows. -/
def index : Nat → Raw → Raw × Raw
  | _, [] => ([], [])
  | depth, c :: cs =>
    if c = ']' && depth = 0 then ([], cs)
    else
      let r := index (if c = '[' then depth + 1 else if c = ']' then depth - 1 else depth) cs
      (c :: r.1, r.2)

/-- The tokens of a text, each with the text from it on. -/
def tokens : Nat → Option Token → Raw → List (Token × Raw)
  | 0, _, _ => []
  | _, _, [] => []
  | n + 1, last, c :: cs =>
    let text := c :: cs
    let put := fun (t : Token) (rest : Raw) => (t, text) :: tokens n (some t) rest
    let isNumeral := fun (c : Char) => c.isAlphanum || c = '#' || c = '@' || c = '_'
    let isCell : Bool := match last with
      | some (.cell _ _) => true
      | _ => false
    if Raw.isBlank c then tokens n last cs
    else if c.isDigit then put (numeral (text.takeWhile isNumeral)) (text.dropWhile isNumeral)
    else if isNameStart c then
      let name := text.takeWhile isNameChar
      match text.drop name.length with
      | '[' :: more =>
        let r := index 0 more
        put (.cell name (some r.1)) r.2
      | rest => put (.cell name none) rest
    else if (c = '+' || c = '-') && cs.head? = some c then
      if isCell then put (.step true (c = '+')) cs.tail
      else if (cs.tail.dropWhile Raw.isBlank).head?.any isNameStart then
        put (.step false (c = '+')) cs.tail
      else put (.sign (String.singleton c)) cs
    else match signs.find? fun s => s.toList.isPrefixOf text with
      | some s => put (.sign s) (text.drop s.length)
      | none => [(.bad (match last with
        | some (.cell _ _) | some (.number _) => "syntax error: invalid arithmetic operator"
        | _ => "syntax error: operand expected"), text)]

/-! ### Reading -/

/-- What is known while a sum is read: the shell, the sum, the tokens that are left, and the last
one that was taken with the text from it on. -/
structure World where
  shell : State
  text : Raw := []
  rest : List (Token × Raw) := []
  last : Option Token := none
  seen : Raw := []

abbrev Reading := ExceptT Fault (StateM World)

def fail {α : Type} (why : String) : Reading α := do
  let w ← get
  throw (.told w.text why (match w.rest with
    | t :: _ => t.2
    | [] => w.seen))

/-- The next token, which is not taken. -/
def current : Reading (Option Token) := do
  match (← get).rest with
  | (.bad why, _) :: _ => fail why
  | t :: _ => return some t.1
  | [] => return none

def advance : Reading Unit := modify fun w =>
  match w.rest with
  | t :: rest => { w with rest, last := some t.1, seen := t.2 }
  | [] => w

/-- Takes a sign if it comes next. -/
def accept (s : String) : Reading Bool := do
  if (← current) = some (.sign s) then
    advance
    return true
  else return false

/-- A number to some power, which wraps around. -/
def power (a : Int) : Nat → Int → Nat → Int
  | 0, r, _ => r
  | n + 1, r, e =>
    if e = 0 then r
    else
      let r := if e % 2 = 1 then Arithmetic.wrap (r * a) else r
      power (Arithmetic.wrap (a * a)) n r (e / 2)

/-- The value of an operator, whose second side begins with some text. -/
def binary (op : String) (a b : Int) (side : Raw) : Reading Int := do
  match Arithmetic.binaryValue op a b with
  | .ok n => return n
  | .error .overflow => return if op = "/" then a else 0
  | .error _ => throw (.told (← get).text "division by 0" side)

inductive Goal where
  | commas
  | whole
  | choice
  | either
  | both
  | rank (ops : List (List String))
  | power
  | unary
  | operand

def put (c : Cell) (n : Int) : Reading Unit := do
  let w ← get
  if (meant? c.name w.shell).any Variable.locked then throw (.locked c.name)
  set { w with shell := putCell c (Numeral.intText n) w.shell }

mutual

/-- The value of the longest sum of some kind, which is needed or not. -/
def read (levels : Nat) : Nat → Bool → Goal → Reading Int
  | 0, _, _ => fail "expression recursion level exceeded"
  | n + 1, needed, .commas => do
    let a ← read levels n needed .whole
    if ← accept "," then read levels n needed .commas else return a
  | n + 1, needed, .whole => do
    let a ← read levels n needed .choice
    match ← current with
    | some (.sign op) =>
      match Arithmetic.assignments.lookup op with
      | none => return a
      | some op =>
        match (← get).last with
        | some (.cell x i) =>
          advance
          let side := ((← get).rest.head?.map Prod.snd).getD []
          let b ← read levels n needed .whole
          if !needed then return b
          let b ← match op with
            | none => pure b
            | some op => binary op a b side
          put ⟨x, ← keyOf levels n x i⟩ b
          return b
        | _ => fail "attempted assignment to non-variable"
    | _ => return a
  | n + 1, needed, .choice => do
    let c ← read levels n needed .either
    if ← accept "?" then
      if (← current).isNone then fail "expression expected"
      let a ← read levels n (needed && c ≠ 0) .commas
      if !(← accept ":") then fail "\x60:' expected for conditional expression"
      if (← current).isNone then fail "expression expected"
      let b ← read levels n (needed && c = 0) .choice
      return if c ≠ 0 then a else b
    else return c
  | n + 1, needed, .either => do
    let a ← read levels n needed .both
    if ← accept "||" then
      let b ← read levels n (needed && a = 0) .either
      return Arithmetic.truth (a ≠ 0 || b ≠ 0)
    else return a
  | n + 1, needed, .both => do
    let a ← read levels n needed (.rank Arithmetic.ranks)
    if ← accept "&&" then
      let b ← read levels n (needed && a ≠ 0) .both
      return Arithmetic.truth (a ≠ 0 && b ≠ 0)
    else return a
  | n + 1, needed, .rank [] => read levels n needed .power
  | n + 1, needed, .rank (ops :: tighter) => do
    operators levels n needed ops tighter (← read levels n needed (.rank tighter))
  | n + 1, needed, .power => do
    let a ← read levels n needed .unary
    if ← accept "**" then
      let b ← read levels n needed .power
      if needed && b < 0 then fail "exponent less than 0"
      return power a 64 1 b.toNat
    else return a
  | n + 1, needed, .unary => do
    match ← current with
    | some (.sign op) =>
      if ["+", "-", "!", "~"].contains op then
        advance
        return Arithmetic.unaryValue op (← read levels n needed .unary)
      else read levels n needed .operand
    | _ => read levels n needed .operand
  | n + 1, needed, .operand => do
    match ← current with
    | some (.number m) =>
      advance
      return m
    | some (.step false up) =>
      advance
      match ← current with
      | some (.cell x i) =>
        advance
        if !needed then return 0
        let key ← keyOf levels n x i
        let a := Arithmetic.wrap ((← lookUp levels n ⟨x, key⟩) + if up then 1 else -1)
        put ⟨x, key⟩ a
        return a
      | _ => fail "syntax error: operand expected"
    | some (.cell x i) =>
      advance
      if !needed || (← current) = some (.sign "=") then return 0
      let key ← keyOf levels n x i
      let a ← lookUp levels n ⟨x, key⟩
      match ← current with
      | some (.step true up) =>
        advance
        put ⟨x, key⟩ (Arithmetic.wrap (a + if up then 1 else -1))
      | _ => pure ()
      return a
    | some (.sign "(") =>
      advance
      let a ← read levels n needed .commas
      if ← accept ")" then return a else fail "missing \x60)'"
    | _ => fail "syntax error: operand expected"

/-- Operators of one rank are taken from the left. -/
def operators (levels : Nat) :
    Nat → Bool → List String → List (List String) → Int → Reading Int
  | 0, _, _, _, _ => fail "expression recursion level exceeded"
  | n + 1, needed, ops, tighter, a => do
    match ← current with
    | some (.sign op) =>
      if !ops.contains op then return a
      advance
      let side := ((← get).rest.head?.map Prod.snd).getD []
      let b ← read levels n needed (.rank tighter)
      operators levels n needed ops tighter (← if needed then binary op a b side else pure b)
    | _ => return a

/-- The key of a place. The number of a row may be counted from the end. -/
def keyOf (levels : Nat) : Nat → Raw → Option Raw → Reading (Option Raw)
  | _, _, none => return none
  | 0, _, _ => fail "expression recursion level exceeded"
  | n + 1, x, some i => do
    let s := (← get).shell
    if isKeyed x s then return some i
    let m ← text levels n i
    let m := if m < 0 then m + ((tableOf? x s).map Table.next).getD 1 else m
    if m < 0 then throw (.told x "bad array subscript" [])
    return some (Numeral.intText m)

/-- The value of a place, which is a sum. -/
def lookUp (levels : Nat) : Nat → Cell → Reading Int
  | 0, _ => fail "expression recursion level exceeded"
  | n + 1, c => do
    let s := (← get).shell
    modify fun w => { w with shell := { s with seed := nextSeed s.seed } }
    match cell? c s with
    | none =>
      if s.options.contains 'u' then throw (.unset c.name)
      return 0
    | some v =>
      match levels with
      | 0 => throw (.told v "expression recursion level exceeded" v)
      | levels + 1 => text levels n v

/-- The value of a text. -/
def text (levels : Nat) : Nat → Raw → Reading Int
  | 0, _ => fail "expression recursion level exceeded"
  | n + 1, t => do
    let w ← get
    let t := t.dropWhile Raw.isBlank
    let ts := tokens (t.length + 1) none t
    if ts = [] then return 0
    set { w with text := t, rest := ts, last := none, seen := [] }
    let a ← read levels n true .commas
    if (← current).isSome then fail "syntax error in expression"
    modify fun v => { v with text := w.text, rest := w.rest, last := w.last, seen := w.seen }
    return a

end

/-- How deep the values of names are worked out. -/
def levels : Nat := 1024

/-- The value of a text, and the shell with the values that it gives. -/
def evaluate (t : Raw) (s : State) : Except Fault Int × State :=
  let r := (text levels Act.patience t).run { shell := s }
  (r.1, r.2.shell)

/-- The row of a table that an index means. -/
def key (x i : Raw) (s : State) : Except Fault (Option Raw) × State :=
  let r := (keyOf levels Act.patience x (some i)).run { shell := s }
  (r.1, r.2.shell)

def Fault.message : Fault → Raw
  | .told text why token =>
    if token = [] && why = "bad array subscript" then text ++ ": bad array subscript".toList
    else text ++ ": ".toList ++ why.toList ++ " (error token is \"".toList ++ token ++ "\")".toList
  | .unset x => x ++ ": unbound variable".toList
  | .locked x => x ++ ": readonly variable".toList

end ServiceStack.Shell.Sum
