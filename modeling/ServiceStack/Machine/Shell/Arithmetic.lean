import ServiceStack.Text.Numeral

/-!
Arithmetic on whole numbers of 64 bits, which wrap around. Names stand for the numbers in their
values, and can be given new ones. An expression is worked out while it is read, so that of several
mistakes the first one counts; what stands on a side that is not needed is read, but it is neither
looked up nor divided nor given.
-/

namespace ServiceStack.Shell.Arithmetic

/-- Why an expression has no value. -/
inductive Fault where
  | divisionByZero
  | expected (what : String)
  /-- the value of a name is no number -/
  | badNumber (value : Raw)
  /-- a quotient that 64 bits do not hold, at which a process breaks down -/
  | overflow
deriving DecidableEq, Repr

inductive Token where
  | number (n : Int)
  | name (x : Raw)
  | sign (s : String)
  | bad
deriving DecidableEq, Repr

def isNameStart (c : Char) : Bool := c.isAlpha || c = '_'

def isNameChar (c : Char) : Bool := c.isAlphanum || c = '_'

/-- The signs, the longer ones first. -/
def signs : List String := [
  "<<=", ">>=", "<=", ">=", "==", "!=", "&&", "||", "<<", ">>", "*=", "/=", "%=", "+=", "-=",
  "&=", "^=", "|=", "<", ">", "=", "!", "~", "&", "|", "^", "+", "-", "*", "/", "%", "(", ")",
  "?", ":"]

def tokens : Nat → Raw → List Token
  | 0, _ => []
  | _, [] => []
  | n + 1, c :: cs =>
    if Raw.isBlank c then tokens n cs
    else if c.isDigit then
      let named := Numeral.base (c :: cs)
      let row := Numeral.digits named.1 named.2
      let value := min (Numeral.ofDigits named.1 row.1) (Numeral.halfWord - 1)
      .number value :: tokens n row.2
    else if isNameStart c then
      .name ((c :: cs).takeWhile isNameChar) :: tokens n ((c :: cs).dropWhile isNameChar)
    else match signs.find? fun s => s.toList.isPrefixOf (c :: cs) with
      | some s => .sign s :: tokens n ((c :: cs).drop s.length)
      | none => [.bad]

/-- The operators of two sides, from the loosest to the tightest. -/
def ranks : List (List String) := [
  ["|"], ["^"], ["&"], ["==", "!="], ["<", ">", "<=", ">="], ["<<", ">>"], ["+", "-"],
  ["*", "/", "%"]]

def assignments : List (String × Option String) := [
  ("=", none), ("*=", some "*"), ("/=", some "/"), ("%=", some "%"), ("+=", some "+"),
  ("-=", some "-"), ("<<=", some "<<"), (">>=", some ">>"), ("&=", some "&"), ("^=", some "^"),
  ("|=", some "|")]

/-! ### Values -/

/-- A number brought into 64 bits. -/
def wrap (n : Int) : Int := n.bmod Numeral.wordSize

def truth (b : Bool) : Int := if b then 1 else 0

/-- A number as a row of 64 bits. -/
def bits (n : Int) : Nat := (n % Numeral.wordSize).toNat

def unaryValue (op : String) (a : Int) : Int :=
  match op with
  | "-" => wrap (-a)
  | "!" => truth (a = 0)
  | "~" => -a - 1
  | _ => a

def quotient (f : Int → Int → Int) (a b : Int) : Except Fault Int :=
  if b = 0 then .error .divisionByZero
  else if a = -Numeral.halfWord && b = -1 then .error .overflow
  else .ok (f a b)

/-- The value of an operator. A shift counts only six bits. -/
def binaryValue (op : String) (a b : Int) : Except Fault Int :=
  match op with
  | "|" => .ok (wrap (bits a ||| bits b : Nat))
  | "^" => .ok (wrap (bits a ^^^ bits b : Nat))
  | "&" => .ok (wrap (bits a &&& bits b : Nat))
  | "==" => .ok (truth (a = b))
  | "!=" => .ok (truth (a ≠ b))
  | "<" => .ok (truth (a < b))
  | ">" => .ok (truth (b < a))
  | "<=" => .ok (truth (a ≤ b))
  | ">=" => .ok (truth (b ≤ a))
  | "<<" => .ok (wrap (a * Nat.pow 2 (bits b % 64)))
  | ">>" => .ok (a / Nat.pow 2 (bits b % 64))
  | "+" => .ok (wrap (a + b))
  | "-" => .ok (wrap (a - b))
  | "*" => .ok (wrap (a * b))
  | "/" => quotient Int.tdiv a b
  | _ => quotient Int.tmod a b

/-- The number that a value holds. -/
def number (value : Raw) : Except Fault Int :=
  if value.all Raw.isBlank then .ok 0
  else match Numeral.integer? value with
    | some (n, rest) =>
      if rest.all Raw.isBlank && -Numeral.halfWord ≤ n && n < Numeral.halfWord then .ok n
      else .error (.badNumber value)
    | none => .error (.badNumber value)

/-! ### Reading -/

/-- The tokens that are left, and the names that were given numbers, the last first. -/
structure State where
  rest : List Token
  given : List (Raw × Int) := []

abbrev Reading := ExceptT Fault (StateM State)

/-- What is read next: a whole expression, a choice, an alternative, a conjunction, operators of
some ranks, one operand. -/
inductive Goal where
  | whole
  | choice
  | either
  | both
  | rank (ops : List (List String))
  | operand

/-- Takes a sign if it comes next. -/
def accept (s : String) : Reading Bool := do
  let t ← get
  match t.rest with
  | .sign u :: rest =>
    if s = u then
      set { t with rest }
      return true
    else return false
  | _ => return false

variable (look : Raw → Option Raw)

def lookUp (x : Raw) : Reading Int := do
  match (← get).given.lookup x with
  | some n => return n
  | none => match number ((look x).getD []) with
    | .ok n => return n
    | .error f => throw f

def binary (op : String) (a b : Int) : Reading Int :=
  match binaryValue op a b with
  | .ok n => return n
  | .error f => throw f

mutual

/-- The value of the longest expression of some kind, which is needed or not. -/
def read (needed : Bool) : Nat → Goal → Reading Int
  | 0, _ => throw (.expected "primary")
  | n + 1, .whole => do
    let s ← get
    match s.rest with
    | .name x :: .sign op :: rest =>
      match assignments.lookup op with
      | none => read needed n .choice
      | some op =>
        set { s with rest }
        let a ← read needed n .whole
        if !needed then return a
        let a ← match op with
          | none => pure a
          | some op => binary op (← lookUp look x) a
        modify fun s => { s with given := (x, a) :: s.given }
        return a
    | _ => read needed n .choice
  | n + 1, .choice => do
    let c ← read needed n .either
    if ← accept "?" then
      let a ← read (needed && c ≠ 0) n .whole
      if !(← accept ":") then throw (.expected "':'")
      let b ← read (needed && c = 0) n .choice
      return if c ≠ 0 then a else b
    else return c
  | n + 1, .either => do
    let a ← read needed n .both
    if ← accept "||" then
      let b ← read (needed && a = 0) n .either
      return truth (a ≠ 0 || b ≠ 0)
    else return a
  | n + 1, .both => do
    let a ← read needed n (.rank ranks)
    if ← accept "&&" then
      let b ← read (needed && a ≠ 0) n .both
      return truth (a ≠ 0 && b ≠ 0)
    else return a
  | n + 1, .rank [] => read needed n .operand
  | n + 1, .rank (ops :: tighter) => do
    operators needed n ops tighter (← read needed n (.rank tighter))
  | n + 1, .operand => do
    let s ← get
    match s.rest with
    | .number m :: rest =>
      set { s with rest }
      return m
    | .name x :: rest =>
      set { s with rest }
      if needed then lookUp look x else return 0
    | .sign "(" :: rest =>
      set { s with rest }
      let a ← read needed n .whole
      if ← accept ")" then return a else throw (.expected "')'")
    | .sign op :: rest =>
      if op ∉ ["+", "-", "!", "~"] then throw (.expected "primary")
      set { s with rest }
      return unaryValue op (← read needed n .operand)
    | _ => throw (.expected "primary")

/-- Operators of one rank are taken from the left. -/
def operators (needed : Bool) :
    Nat → List String → List (List String) → Int → Reading Int
  | 0, _, _, _ => throw (.expected "primary")
  | n + 1, ops, tighter, a => do
    let s ← get
    match s.rest with
    | .sign op :: rest =>
      if !ops.contains op then return a
      set { s with rest }
      let b ← read needed n (.rank tighter)
      operators needed n ops tighter (← if needed then binary op a b else pure b)
    | _ => return a

end

/-- The value of a text, and the names that it gives numbers, the first first. -/
def evaluate (text : Raw) : Except Fault Int × List (Raw × Int) :=
  let ts := tokens (text.length + 1) text
  let body : Reading Int := do
    let a ← read look true (16 * ts.length + 16) .whole
    if (← get).rest = [] then return a else throw (.expected "EOF")
  let r := body.run { rest := ts }
  (r.1, r.2.given.reverse)

end ServiceStack.Shell.Arithmetic
