import ServiceStack.Machine.Tool.Record.Token

/-!
How programs for records are read. An operator takes its operands from the rank below it; texts that
stand side by side are joined. A value can be given wherever its target stands.
-/

namespace ServiceStack.Record

/-- What is known while a program is read. -/
structure Reader where
  rest : List (Token × Nat)
  /-- the line of the token taken last -/
  line : Nat := 1
  functions : List Raw := []
  /-- the parameters of the function that is read -/
  params : List Raw := []
  /-- whether lines are written here, so that a greater sign names a file -/
  writes : Bool := false
  inLoop : Bool := false
  inFunction : Bool := false
  /-- whether an action for records is read -/
  inRule : Bool := false
  /-- names of variables with one value, and names of tables -/
  scalars : List Raw := []
  tables : List Raw := []
  /-- functions that are called, and with how many arguments -/
  calls : List (Raw × Nat) := []

abbrev Read := StateT Reader (Except (Fault × Nat))

namespace Read

def fail {α : Type} (f : Fault) : Read α := do throw (f, (← get).line)

def tell {α : Type} (text : String) : Read α := fail (.told text)

def peek : Read (Option Token) := return (← get).rest.head?.map Prod.fst

def skip : Read Unit := modify fun r => match r.rest with
  | (_, line) :: rest => { r with rest, line }
  | [] => r

/-- A token as it is told. -/
def shown : Option Token → Raw
  | none => "end of file".toList
  | some (.number x) => match Double.whole? x with
    | some n => Numeral.intText n
    | none => "number".toList
  | some (.text t) => t
  | some (.pattern t) => t
  | some (.name x) | some (.caller x) => x
  | some (.builtin b) =>
    ((Token.builtins.find? fun (p : String × Builtin) => p.2 = b).map fun p => p.1.toList).getD []
  | some (.word w) => w.toList
  | some (.sign s) => s.toList
  | some .line => "end of line".toList

/-- No program goes on like this. -/
def refuse {α : Type} : Read α := do
  let t ← peek
  match (← get).rest with
  | (_, line) :: _ => throw (.near (shown t), line)
  | [] => fail (.near (shown t))

def isSign (s : String) : Option Token → Bool
  | some (.sign t) => s = t
  | _ => false

def isWord (w : String) : Option Token → Bool
  | some (.word v) => w = v
  | _ => false

/-- Takes a sign if it comes next. -/
def accept (s : String) : Read Bool := do
  if isSign s (← peek) then
    skip
    return true
  else return false

def expect (s : String) : Read Unit := do
  if !(← accept s) then refuse

def acceptWord (w : String) : Read Bool := do
  if isWord w (← peek) then
    skip
    return true
  else return false

def isLine : Option Token → Bool
  | some .line => true
  | _ => false

def skipLines : Read Unit :=
  modify fun r => { r with rest := r.rest.dropWhile fun t => isLine (some t.1) }

/-- Takes what ends a statement. A closing brace ends one too and is left. -/
def endStatement : Read Unit := do
  let t ← peek
  if isLine t || isSign ";" t then skip
  else if !isSign "\x7d" t then refuse

/-- Reads with other rules about signs that write. -/
def within {α : Type} (writes : Bool) (body : Read α) : Read α := do
  let old := (← get).writes
  modify ({ · with writes })
  let a ← body
  modify ({ · with writes := old })
  return a

/-! ### Names -/

/-- The variable of a name. -/
def reference? (x : Raw) : Read Expr := do
  match (← get).params.findIdx? (· = x) with
  | some n => return .own n
  | none => return if x = "NF".toList then .count else .shared x

def useAsTable (x : Raw) : Read Expr := do
  let e ← reference? x
  if let .shared x := e then
    modify fun r => { r with tables := if r.tables.contains x then r.tables else x :: r.tables }
  return e

def useAsScalar (x : Raw) : Read Expr := do
  let e ← reference? x
  if let .shared x := e then
    modify fun r => { r with scalars := if r.scalars.contains x then r.scalars else x :: r.scalars }
  return e

/-- A name that must come next. -/
def tableName : Read Expr := do
  match ← peek with
  | some (.name x) =>
    skip
    useAsTable x
  | _ => refuse

def pattern (t : Raw) : Read Expr := do
  match regex? t with
  | .ok r => return .pattern r
  | .error f => fail (.pattern f t)

end Read

/-! ### Expressions -/

/-- The ranks of operators, from those that hold most loosely. -/
inductive Rank where
  | choice
  | either
  | both
  | member
  | fits
  | comparison
  | joined
  | sum
  | product
  | sign
  | reading
  | power
  | step
  | operand
deriving DecidableEq, Repr

open Read

/-- Operators of one rank, taken from the left. -/
def chain (next : Read Expr) (op? : Read (Option (Expr → Expr → Expr))) :
    Nat → Expr → Read Expr
  | 0, e => return e
  | n + 1, e => do
    match ← op? with
    | none => return e
    | some f => chain next op? n (f e (← next))

/-- Takes one of some signs, and tells what it means. -/
def oneOf {α : Type} (table : List (String × α)) : Read (Option α) := do
  match ← peek with
  | some (.sign s) =>
    match table.lookup s with
    | some a =>
      skip
      return some a
    | none => return none
  | _ => return none

def giving : List (String × Option Arithmetic) := [
  ("=", none), ("+=", some .add), ("-=", some .subtract), ("*=", some .multiply),
  ("/=", some .divide), ("%=", some .remainder), ("^=", some .power)]

/-- Whether an operand begins here that is joined to the one before it. -/
def beginsOperand : Option Token → Bool
  | some (.number _) | some (.text _) | some (.pattern _) | some (.name _) | some (.caller _)
  | some (.builtin _) => true
  | some (.sign s) => ["(", "$", "!", "++", "--"].contains s
  | _ => false

/-- How many arguments a builtin takes. -/
def Builtin.arity : Builtin → Nat × Nat
  | .length => (0, 1)
  | .substr => (2, 3)
  | .index | .matchAt | .atan2 => (2, 2)
  | .split | .sub | .gsub => (2, 3)
  | .sprintf => (1, 1000)
  | .rand | .systime => (0, 0)
  | .srand | .flush => (0, 1)
  | _ => (1, 1)

/-- The expressions up to a closing sign, divided by commas. -/
def listOf (next : Read Expr) (closing : String) : Nat → Read (List Expr)
  | 0 => refuse
  | n + 1 => do
    let e ← next
    if ← accept closing then return [e]
    expect ","
    skipLines
    return e :: (← listOf next closing n)

/-- The arguments behind an opening parenthesis. A name alone may be that of a table. -/
def argumentsOf (next : Read Expr) (n : Nat) : Read (List Expr) := do
  if ← accept ")" then return []
  let bare : Read Expr := do
    let old := (← get).scalars
    let e ← next
    if e matches .shared _ then modify ({ · with scalars := old })
    return e
  within false (listOf bare ")" n)

/-- What a record is given to that is read. -/
def targetOf (operand : Read Expr) : Read (Option Expr) := do
  match ← peek with
  | some (.name _) | some (.sign "$") =>
    let e ← operand
    if e.isTarget then return some e else refuse
  | _ => return none

/-- A text that is written out where an expression for texts is wanted. -/
def asPattern (e : Expr) : Read Expr := do
  match e with
  | .text t => pattern t
  | e => return e

/-- A table takes its second argument whole, and the last one of a change must be a target. -/
def builtinCall (b : Builtin) (args : List Expr) : Read Expr := do
  if args.length < b.arity.1 || b.arity.2 < args.length then
    tell "wrong number of arguments in call"
  match b, args with
  | .split, _ :: .shared x :: _ =>
    let _ ← useAsTable x
    return .builtin b args
  | .split, _ :: .own _ :: _ => return .builtin b args
  | .split, _ => refuse
  | .sub, p :: more | .gsub, p :: more =>
    if (more.drop 1).all Expr.isTarget then return .builtin b ((← asPattern p) :: more) else refuse
  | .matchAt, [t, p] => return .builtin b [t, ← asPattern p]
  | _, _ => return .builtin b args

/-- The longest expression of a rank. -/
def expr : Nat → Rank → Read Expr
  | 0, _ => refuse
  | n + 1, .choice => do
    let c ← expr n .either
    if ← accept "?" then
      skipLines
      let a ← expr n .choice
      skipLines
      expect ":"
      skipLines
      return .choice c a (← expr n .choice)
    else return c
  | n + 1, .either => do
    let op : Read (Option (Expr → Expr → Expr)) := do
      let f ← oneOf [("||", Expr.either)]
      if f.isSome then skipLines
      return f
    chain (expr n .both) op n (← expr n .both)
  | n + 1, .both => do
    let op : Read (Option (Expr → Expr → Expr)) := do
      let f ← oneOf [("&&", Expr.both)]
      if f.isSome then skipLines
      return f
    chain (expr n .member) op n (← expr n .member)
  | n + 1, .member => do
    let e ← expr n .fits
    members n e
  | n + 1, .fits => do
    let op := oneOf [("~", Expr.fits), ("!~", fun a b => .not (.fits a b))]
    let right : Read Expr := do asPattern (← expr n .comparison)
    chain right op n (← expr n .comparison)
  | n + 1, .comparison => do
    let c := Expr.comparison
    let op : Read (Option (Expr → Expr → Expr)) := do
      let more := if (← get).writes then [] else [(">", c .greater)]
      oneOf ([("<", c .less), ("<=", c .atMost), ("==", c .equal), ("!=", c .unequal),
        (">=", c .atLeast)] ++ more)
    chain (expr n .joined) op n (← expr n .joined)
  | n + 1, .joined => do
    let op : Read (Option (Expr → Expr → Expr)) := do
      return if beginsOperand (← peek) then some .joined else none
    chain (expr n .sum) op n (← expr n .sum)
  | n + 1, .sum => do
    let a := Expr.arithmetic
    chain (expr n .product) (oneOf [("+", a .add), ("-", a .subtract)]) n (← expr n .product)
  | n + 1, .product => do
    let a := Expr.arithmetic
    let op := oneOf [("*", a .multiply), ("/", a .divide), ("%", a .remainder)]
    chain (expr n .sign) op n (← expr n .sign)
  | n + 1, .sign => do
    match ← oneOf [("!", Expr.not), ("-", Expr.negative), ("+", Expr.positive)] with
    | some f => return f (← expr n .sign)
    | none => expr n .reading
  | n + 1, .reading => do
    let e ← expr n .power
    commands n e
  | n + 1, .power => do
    let e ← expr n .step
    if ← accept "^" then
      let isSigned := match ← peek with
        | some (.sign s) => ["-", "+", "!"].contains s
        | _ => false
      return .arithmetic .power e (← expr n (if isSigned then .sign else .power))
    else return e
  | n + 1, .step => do
    match ← oneOf [("++", (1 : Float)), ("--", -1)] with
    | some size =>
      let e ← expr n .operand
      if e.isTarget then return .step e size true else refuse
    | none =>
      let e ← expr n .operand
      if !e.isTarget then return e
      match ← oneOf giving with
      | some op => return .give e op (← expr n .choice)
      | none =>
        match ← oneOf [("++", (1 : Float)), ("--", -1)] with
        | some size => return .step e size false
        | none => return e
  | n + 1, .operand => do
    match ← peek with
    | some (.number x) =>
      skip
      return .number x
    | some (.text t) =>
      skip
      return .text t
    | some (.pattern t) =>
      skip
      pattern t
    | some (.name x) =>
      skip
      if ← accept "[" then
        let table ← useAsTable x
        return .item table (← within false (listOf (expr n .choice) "]" n))
      else if (← get).functions.contains x && isSign "(" (← peek) then
        skip
        called n x
      else useAsScalar x
    | some (.caller x) =>
      skip
      skip
      called n x
    | some (.builtin b) =>
      skip
      if ← accept "(" then builtinCall b (← argumentsOf (expr n .choice) n)
      else if b = .length then return .builtin b []
      else refuse
    | some (.word "getline") =>
      skip
      let target ← targetOf (expr n .operand)
      if ← accept "<" then return .readFile target (← expr n .power) else return .read target
    | some (.sign "$") =>
      skip
      let isSigned := match ← peek with
        | some (.sign s) => ["-", "+", "!", "++", "--"].contains s
        | _ => false
      return .field (← expr n (if isSigned then .sign else .operand))
    | some (.sign "(") =>
      skip
      let es ← within false (listOf (expr n .choice) ")" n)
      match es with
      | [.field e] => return .field e
      | [e] => return .enclosed e
      | es => if ← acceptWord "in" then return .holds (← tableName) es else refuse
    | _ => refuse
where
  members : Nat → Expr → Read Expr
    | 0, e => return e
    | n + 1, e => do
      if ← acceptWord "in" then members n (.holds (← tableName) [e]) else return e
  /-- Records of commands. -/
  commands : Nat → Expr → Read Expr
    | 0, e => return e
    | n + 1, e => do
      match (← get).rest with
      | (.sign "|", _) :: (.word "getline", _) :: _ =>
        skip
        skip
        let target ← targetOf (expr n .operand)
        commands n (.readCommand target e)
      | _ => return e
  called (n : Nat) (f : Raw) : Read Expr := do
    let args ← argumentsOf (expr n .choice) n
    modify fun r => { r with calls := (f, args.length) :: r.calls }
    return .call f args

/-! ### Statements -/

/-- Whether the parentheses that open here hold all that a line is made of. -/
def enclosesAll (ts : List (Token × Nat)) : Bool := go 0 ts
where
  ends (t : Option Token) : Bool :=
    isLine t || [";", "\x7d", ">", ">>", "|"].any (isSign · t) || t.isNone
  go (depth : Nat) : List (Token × Nat) → Bool
    | [] => false
    | (.sign "(", _) :: ts => go (depth + 1) ts
    | (.sign ")", _) :: ts => if depth = 1 then ends (ts.head?.map Prod.fst) else go (depth - 1) ts
    | _ :: ts => go depth ts

/-- Expressions divided by commas. -/
def row (next : Read Expr) : Nat → Read (List Expr)
  | 0 => refuse
  | n + 1 => do
    let e ← next
    if ← accept "," then
      skipLines
      return e :: (← row next n)
    else return [e]

/-- What is written and where. -/
def writing (n : Nat) : Read (List Expr × Outlet) := do
  let t ← peek
  let es ← if enclosesAll.ends t then pure []
    else if isSign "(" t && enclosesAll (← get).rest then do
      skip
      within false (listOf (expr n .choice) ")" n)
    else within true (row (expr n .choice) n)
  match ← oneOf [(">", Way.file), (">>", .append), ("|", .command)] with
  | some way => return (es, some (way, ← within true (expr n .choice)))
  | none => return (es, none)

/-- Whether a statement may be without the expression that comes next. -/
def isBare : Read Bool := do
  let t ← peek
  return isLine t || isSign ";" t || isSign "\x7d" t || t.isNone

def optional (n : Nat) : Read (Option Expr) := do
  if ← isBare then return none else return some (← expr n .choice)

def condition (n : Nat) : Read Expr := do
  expect "("
  let c ← within false (expr n .choice)
  expect ")"
  return c

/-- Reads the body of a loop. -/
def looped {α : Type} (body : Read α) : Read α := do
  let old := (← get).inLoop
  modify ({ · with inLoop := true })
  let a ← body
  modify ({ · with inLoop := old })
  return a

def must (holds : Reader → Bool) (text : String) : Read Unit := do
  if !holds (← get) then tell text

/-- A statement that is an expression, or changes tables. -/
def simple (n : Nat) : Read Statement := do
  if ← acceptWord "delete" then
    let table ← tableName
    if ← accept "[" then
      return .delete table (some (← within false (listOf (expr n .choice) "]" n)))
    else return .delete table none
  else return .expr (← expr n .choice)

def statement : Nat → Read Statement
  | 0 => refuse
  | n + 1 => do
    match ← peek with
    | some (.sign "\x7b") =>
      skip
      let body ← blockFrom n
      return .block body
    | some (.sign ";") =>
      skip
      return .block []
    | some (.word "if") =>
      skip
      let c ← condition n
      skipLines
      let a ← statement n
      let old := (← get).rest
      skipLines
      if ← acceptWord "else" then
        skipLines
        return .branch c a (some (← statement n))
      modify ({ · with rest := old })
      return .branch c a none
    | some (.word "while") =>
      skip
      let c ← condition n
      let body ← body n
      return .loop (some c) none body false
    | some (.word "do") =>
      skip
      skipLines
      let body ← looped (statement n)
      skipLines
      if !(← acceptWord "while") then refuse
      let c ← condition n
      endStatement
      return .loop (some c) none body true
    | some (.word "for") =>
      skip
      expect "("
      match (← get).rest with
      | (.name x, _) :: (.word "in", _) :: (.name table, _) :: (.sign ")", _) :: rest =>
        modify ({ · with rest })
        let target ← useAsScalar x
        let table ← useAsTable table
        return .each target table (← body n)
      | _ =>
        let first ← if isSign ";" (← peek) then pure none else some <$> simple n
        expect ";"
        skipLines
        let c ← if isSign ";" (← peek) then pure none else some <$> expr n .choice
        expect ";"
        skipLines
        let next ← if isSign ")" (← peek) then pure none else some <$> simple n
        expect ")"
        let body ← body n
        return .block (first.toList ++ [.loop c next body false])
    | _ =>
      let s ← line n
      endStatement
      return s
where
  /-- A body behind a condition. -/
  body (n : Nat) : Read Statement := do
    if ← accept ";" then return .block []
    skipLines
    looped (statement n)
  blockFrom (n : Nat) : Read (List Statement) := do
    let rec go : Nat → Read (List Statement)
      | 0 => refuse
      | k + 1 => do
        skipLines
        if ← accept "\x7d" then return []
        let s ← statement n
        return s :: (← go k)
    go ((← get).rest.length + 1)
  line (n : Nat) : Read Statement := do
    match ← peek with
    | some (.word "print") =>
      skip
      let (es, out) ← writing n
      return .print es out
    | some (.word "printf") =>
      skip
      let (es, out) ← writing n
      if es.isEmpty then tell "no arguments in call to printf"
      return .printf es out
    | some (.word "break") =>
      skip
      must Reader.inLoop "break statement outside of loop"
      return .stop
    | some (.word "continue") =>
      skip
      must Reader.inLoop "continue statement outside of loop"
      return .goOn
    | some (.word "next") =>
      skip
      must Reader.inRule "improper use of next"
      return .next
    | some (.word "nextfile") =>
      skip
      must Reader.inRule "improper use of nextfile"
      return .nextFile
    | some (.word "exit") =>
      skip
      return .quit (← optional n)
    | some (.word "return") =>
      skip
      must Reader.inFunction "return outside function body"
      return .result (← optional n)
    | _ => simple n

/-! ### Programs -/

/-- A block behind a pattern. -/
def action (n : Nat) : Read Statement := do
  if isSign "\x7b" (← peek) then statement n else refuse

def ruleBody (n : Nat) : Read Statement := do
  modify ({ · with inRule := true })
  let s ← action n
  modify ({ · with inRule := false })
  return s

def function (n : Nat) : Read Function := do
  match ← peek with
  | some (.name f) | some (.caller f) =>
    skip
    expect "("
    let params ← names n f
    skipLines
    modify ({ · with params, inFunction := true })
    let body ← action n
    modify ({ · with params := [], inFunction := false })
    return ⟨f, params, body⟩
  | _ => refuse
where
  names (n : Nat) (f : Raw) : Read (List Raw) := do
    if ← accept ")" then return []
    let rec go : Nat → List Raw → Read (List Raw)
      | 0, _ => refuse
      | k + 1, done => do
        match ← peek with
        | some (.name x) =>
          skip
          if x = f then tell "function parameter cannot be the function"
          if done.contains x then tell "duplicated in argument list"
          if ← accept ")" then return (x :: done).reverse
          expect ","
          skipLines
          go k (x :: done)
        | _ => refuse
    go n []

/-- The rule or function that comes next. -/
def item (n : Nat) (p : Program) : Read Program := do
  let rule (pattern : Pattern) (action : Option Statement) : Program :=
    { p with rules := p.rules ++ [⟨pattern, action⟩] }
  if ← acceptWord "function" then
    let f ← function n
    if p.functions.any (·.name = f.name) then tell "redefinition of a function"
    return { p with functions := p.functions ++ [f] }
  else if ← acceptWord "BEGIN" then return rule .start (some (← action n))
  else if ← acceptWord "END" then return rule .finish (some (← action n))
  else if isSign "\x7b" (← peek) then return rule .always (some (← ruleBody n))
  else
    let a ← expr n .choice
    let pattern ← if ← accept "," then do
        skipLines
        pure (Pattern.range a (← expr n .choice))
      else pure (Pattern.expr a)
    if isSign "\x7b" (← peek) then return rule pattern (some (← ruleBody n))
    let t ← peek
    if isLine t || isSign ";" t then skip
    else if t.isSome then refuse
    return rule pattern none

def items (n : Nat) : Nat → Program → Read Program
  | 0, _ => refuse
  | k + 1, p => do
    let t ← peek
    if isLine t || isSign ";" t then
      skip
      items n k p
    else if t.isNone then return p
    else items n k (← item n p)

/-- What is wrong with the names of a program that was read. -/
def misuse? (p : Program) (r : Reader) : Option String :=
  let wrong := r.calls.findSome? fun (f, count) =>
    match p.functions.find? (·.name = f) with
    | none => some "function never defined"
    | some g => if g.params.length < count then some "too many arguments in call" else none
  match wrong with
  | some text => some text
  | none => if r.tables.any r.scalars.contains then some "illegal reference to a table" else none

/-- The names behind the word for functions. -/
def functionNames : List (Token × Nat) → List Raw
  | (.word "function", _) :: (.name f, _) :: ts => f :: functionNames ts
  | (.word "function", _) :: (.caller f, _) :: ts => f :: functionNames ts
  | _ :: ts => functionNames ts
  | [] => []

/-- The program of a text. -/
def Program.ofText (t : Raw) : Except (Fault × Nat) Program := do
  let tokens ← Token.ofText t
  let n := 20 * (tokens.length + 1)
  let (p, r) ← items n (tokens.length + 1) {} { rest := tokens, functions := functionNames tokens }
  match misuse? p r with
  | some text => throw (.told text, r.line)
  | none => return p

end ServiceStack.Record
