import ServiceStack.Machine.Notice
import ServiceStack.Machine.Scenery
import ServiceStack.Text.Numeral

/-!
Conditions on words, numbers and files. A condition holds or not, or it is malformed: the report
ends with 0, 1 or 2.

Two readers of conditions are here. Both count the words first; behind that the shell reads on from
the left, and the program goes by rank.
-/

namespace ServiceStack.Condition

/-- What is wrong with a condition. -/
inductive Fault where
  | missingBracket
  | missing
  | argumentExpected (op : Raw)
  | unexpected (word : Raw)
  | badNumber (word : Raw)
  | unclosed
  | found (word : Raw)
  | unaryExpected (word : Raw)
  | binaryExpected (word : Raw)
deriving DecidableEq, Repr

variable (s : Scene)

/-! ### Single conditions -/

def isUnary (op : String) : Bool :=
  ["-n", "-z", "-e", "-f", "-d", "-r", "-w", "-x", "-s", "-b", "-c", "-g", "-h", "-k", "-L", "-p",
    "-u", "-t", "-O", "-G", "-S"].contains op

def unary (op : String) (a : Raw) : Except Fault Bool :=
  let file := s.file? a
  let isKind := fun (k : FileKind) => Except.ok (file.any (·.kind = k))
  let hasRight := fun (bit : Nat) => Except.ok (file.any fun f => f.rights &&& bit ≠ 0)
  match op with
  | "-n" => .ok (a ≠ [])
  | "-z" => .ok (a = [])
  | "-t" => if (Numeral.decimal? a).isSome then .ok false else .error (.badNumber a)
  | "-f" => isKind .regular
  | "-d" => isKind .directory
  | "-c" => isKind .device
  | "-p" => isKind .pipe
  | "-h" | "-L" => .ok (((s.state? false a).toOption).any (·.kind = .link))
  | "-x" => .ok (file.any FileState.runs)
  | "-s" => .ok (file.any (·.size ≠ 0))
  | "-u" => hasRight 0o4000
  | "-g" => hasRight 0o2000
  | "-k" => hasRight 0o1000
  | "-b" | "-S" => .ok false
  | _ => .ok file.isSome

def isBinary (op : String) : Bool :=
  ["=", "!=", "-eq", "-ne", "-gt", "-ge", "-lt", "-le", "-nt", "-ot", "-ef"].contains op

/-- A number, which may be of any size if `wide`. -/
def number (wide : Bool) (a : Raw) : Except Fault Int :=
  match Numeral.decimal? a with
  | some n =>
    if wide || (-Numeral.halfWord ≤ n && n < Numeral.halfWord) then .ok n
    else .error (.badNumber a)
  | none => .error (.badNumber a)

/-- A file is newer than one that is missing only if `wide`. -/
def binary (wide : Bool) (a : Raw) (op : String) (b : Raw) : Except Fault Bool :=
  let compare := fun (p : Int → Int → Bool) => do return p (← number wide a) (← number wide b)
  let file := s.file? a
  let other := s.file? b
  match op with
  | "=" | "==" => .ok (a = b)
  | "!=" => .ok (a ≠ b)
  | "<" => .ok (a < b)
  | ">" => .ok (b < a)
  | "-eq" => compare (· = ·)
  | "-ne" => compare (· ≠ ·)
  | "-gt" => compare (· > ·)
  | "-ge" => compare (· ≥ ·)
  | "-lt" => compare (· < ·)
  | "-le" => compare (· ≤ ·)
  | "-ef" => .ok (file.isSome && file.map FileState.target = other.map FileState.target)
  | "-nt" => .ok (wide && file.isSome && other.isNone)
  | _ => .ok (wide && other.isSome && file.isNone)

/-! ### The program -/

/-- What is looked for: a condition of so many words, or what binds looser and looser. -/
inductive Goal where
  | counted (n : Nat)
  | single
  | conjunction
  | disjunction

/-- The conditions that a reader knows. -/
structure Terms where
  isUnary : Raw → Bool
  isBinary : Raw → Bool
  unary : Raw → Raw → Except Fault Bool
  binary : Raw → Raw → Raw → Except Fault Bool
  /-- what is wrong with two words of which the first is no operator -/
  pairFault : Raw → Fault

/-- The conditions of the program. -/
def programTerms : Terms where
  isUnary op := isUnary (String.ofList op) || op = ['-', 'N']
  isBinary op := isBinary (String.ofList op) || op = ['=', '=']
  unary op a := if op = ['-', 'N'] then .ok false else unary s (String.ofList op) a
  binary a op b := binary s true a (String.ofList op) b
  pairFault _ := .missing

variable (t : Terms)

/-- A condition of an operator and the word behind it. -/
def programUnary : List Raw → Except Fault (Bool × List Raw)
  | op :: rest =>
    if !t.isUnary op then .error (.unaryExpected op)
    else match rest with
      | a :: rest => (t.unary op a).map (·, rest)
      | [] => .error .missing
  | [] => .error .missing

/-- How many words stand between parentheses, as far as they are counted. -/
def inner (ws : List Raw) : Nat :=
  let n := 1 + (ws.tail.takeWhile (· ≠ [')'])).length
  if n ≤ 4 then n else ws.length

/-- The longest condition of a kind at the start of some words, and the words behind it. -/
def parse : Nat → Goal → List Raw → Except Fault (Bool × List Raw)
  | 0, _, _ | _, _, [] => .error .missing
  | n + 1, .counted 0, ws => parse n .disjunction ws
  | _ + 1, .counted 1, a :: rest => .ok (a ≠ [], rest)
  | _ + 1, .counted 2, ws =>
    match ws with
    | ['!'] :: a :: rest => .ok (a = [], rest)
    | ['-', _] :: _ => programUnary t ws
    | a :: _ => .error (t.pairFault a)
    | [] => .error .missing
  | n + 1, .counted 3, ws =>
    match ws with
    | a :: op :: b :: rest =>
      if t.isBinary op then (t.binary a op b).map (·, rest)
      else if a = ['!'] then (parse n (.counted 2) (op :: b :: rest)).map fun r => (!r.1, r.2)
      else if a = ['('] && b = [')'] then .ok (op ≠ [], rest)
      else if op = ['-', 'a'] || op = ['-', 'o'] then parse n .disjunction ws
      else .error (.binaryExpected op)
    | _ => .error .missing
  | n + 1, .counted 4, ws =>
    match ws with
    | ['!'] :: rest => (parse n (.counted 3) rest).map fun r => (!r.1, r.2)
    | ['('] :: a :: b :: [')'] :: rest =>
      (parse n (.counted 2) (a :: b :: [')'] :: rest)).map fun r => (r.1, r.2.tail)
    | _ => parse n .disjunction ws
  | n + 1, .counted _, ws => parse n .disjunction ws
  | n + 1, .disjunction, ws => do
    let (a, rest) ← parse n .conjunction ws
    match rest with
    | ['-', 'o'] :: rest =>
      let (b, rest) ← parse n .disjunction rest
      return (a || b, rest)
    | _ => return (a, rest)
  | n + 1, .conjunction, ws => do
    let (a, rest) ← parse n .single ws
    match rest with
    | ['-', 'a'] :: rest =>
      let (b, rest) ← parse n .conjunction rest
      return (a && b, rest)
    | _ => return (a, rest)
  | n + 1, .single, a :: rest =>
    if a = ['!'] then (parse n .single rest).map fun r => (!r.1, r.2)
    else if a = ['('] then do
      let (b, rest) ← parse n (.counted (inner rest)) rest
      match rest with
      | [')'] :: rest => return (b, rest)
      | w :: _ => throw (.found w)
      | [] => throw .unclosed
    else match rest with
      | op :: b :: after =>
        if t.isBinary op then (t.binary a op b).map (·, after)
        else alone a rest
      | _ => alone a rest
where
  alone (a : Raw) (rest : List Raw) : Except Fault (Bool × List Raw) :=
    match a with
    | ['-', _] => programUnary t (a :: rest)
    | _ => .ok (a ≠ [], rest)

/-- Up to four words are told apart by their number first. -/
def holds (ws : List Raw) : Except Fault Bool :=
  if ws = [] then .ok false
  else match parse t (8 * ws.length + 8) (.counted ws.length) ws with
    | .ok (r, []) => .ok r
    | .ok (_, a :: _) => .error (.unexpected a)
    | .error .missing => .error (.argumentExpected (ws.getLast?.getD []))
    | .error f => .error f

def Fault.programText (f : Fault) : Raw :=
  let quoted := fun (a : Raw) => '\'' :: a ++ ['\'']
  match f with
  | .missingBracket => "missing ']'".toList
  | .missing => "missing argument".toList
  | .argumentExpected op => "missing argument after ".toList ++ quoted op
  | .unexpected a => "extra argument ".toList ++ quoted a
  | .badNumber a => "invalid integer ".toList ++ quoted a
  | .unclosed => "')' expected".toList
  | .found a => "')' expected, found ".toList ++ quoted a
  | .unaryExpected a => quoted a ++ ": unary operator expected".toList
  | .binaryExpected a => quoted a ++ ": binary operator expected".toList

def report (name : String) (r : Except Fault Bool) : Notice :=
  match r with
  | .ok b => .silent (if b then 0 else 1)
  | .error f => .complain (name.toList ++ ": ".toList ++ f.programText) 2

/-- The program, which under one of its names asks for a closing bracket. -/
def program (self : String) (bracket : Bool) (ws : List Raw) : Notice :=
  if !bracket then report self (holds (programTerms s) ws)
  else if ws.getLast? = some [']'] then report self (holds (programTerms s) ws.dropLast)
  else report self (.error .missingBracket)

/-! ### The shell -/

/-- What a word is where a condition goes on. -/
inductive Sign where
  | nothing
  | not
  | and
  | or
  | opening
  | closing
  | unary
  | binary
  | operand
deriving DecidableEq, Repr

def isShellBinary (a : Raw) : Bool :=
  isBinary (String.ofList a) || a = ['<'] || a = ['>']

/-- A word with a meaning of its own may be an operand by its place. -/
def sign : List Raw → Sign
  | [] => .nothing
  | a :: rest =>
    if a = ['!'] then .not
    else if a = ['-', 'a'] then .and
    else if a = ['-', 'o'] then .or
    else if a = ['('] then (if rest = [] then .operand else .opening)
    else if a = [')'] then .closing
    else if isShellBinary a then .binary
    else if isUnary (String.ofList a) then
      match rest with
      | [] => .operand
      | [_] => .unary
      | op :: _ => if isShellBinary op then .operand else .unary
    else .operand

/-- What binds tighter: a negation, a conjunction, a disjunction. -/
inductive Rank where
  | negation
  | conjunction
  | disjunction

/-- Reads from the left. The first word counts as what its sign says; the words from the last one
that was read on are left. -/
def read : Nat → Rank → Sign → List Raw → Except Fault (Bool × List Raw)
  | 0, _, _, _ => .error .unclosed
  | n + 1, .disjunction, k, ws => do
    let (a, rest) ← read n .conjunction k ws
    if sign rest.tail = .or then
      let rest := rest.drop 2
      let (b, rest) ← read n .disjunction (sign rest) rest
      return (a || b, rest)
    else return (a, rest)
  | n + 1, .conjunction, k, ws => do
    let (a, rest) ← read n .negation k ws
    if sign rest.tail = .and then
      let rest := rest.drop 2
      let (b, rest) ← read n .conjunction (sign rest) rest
      return (a && b, rest)
    else return (a, rest)
  | n + 1, .negation, k, ws =>
    match k with
    | .not => do
      let next := if ws.tail = [] then ws else ws.tail
      let (a, rest) ← read n .negation (sign ws.tail) next
      return (!a, rest)
    | .nothing => .ok (false, ws)
    | .opening =>
      let inner := ws.tail
      if sign inner = .closing then .ok (false, inner)
      else do
        let (a, rest) ← read n .disjunction (sign inner) inner
        if sign rest.tail = .closing then return (a, rest.tail) else throw .unclosed
    | .unary =>
      match ws with
      | op :: a :: rest => do return (← unary s (String.ofList op) a, a :: rest)
      | op :: [] => .error (.argumentExpected op)
      | [] => .ok (false, [])
    | _ =>
      match ws with
      | a :: op :: rest =>
        if sign (op :: rest) = .binary then
          match rest with
          | b :: _ => do return (← binary s false a (String.ofList op) b, rest)
          | [] => .error (.argumentExpected op)
        else .ok (a ≠ [], ws)
      | [a] => .ok (a ≠ [], ws)
      | [] => .ok (false, [])

/-- Up to four words may stand between parentheses, or behind a negation. -/
def test (negated : Bool) : List Raw → Except Fault Bool
  | [] => .ok negated
  | a :: rest =>
    let ws := a :: rest
    let middle := ws.length = 3 && isShellBinary (rest.headD [])
    let few := ws.length = 3 || ws.length = 4
    if !middle && few && a = ['!'] then test (!negated) rest
    else
      let ws := if !middle && few && a = ['('] && rest.getLast? = some [')'] then rest.dropLast
        else ws
      do
        let k := if middle then .operand else sign ws
        let (r, left) ← read s (4 * ws.length + 4) .disjunction k ws
        match left with
        | b :: _ :: _ => throw (.unexpected b)
        | _ => return r != negated

/-- What the shell says of a fault. -/
def Fault.shellText : Fault → Raw
  | .missingBracket => "missing ]".toList
  | .missing => "argument expected".toList
  | .argumentExpected op => op ++ ": argument expected".toList
  | .unexpected a | .found a | .unaryExpected a | .binaryExpected a =>
    (if a = [] then [] else a ++ ": ".toList) ++ "unexpected operator".toList
  | .badNumber a => "Illegal number: ".toList ++ a
  | .unclosed => "closing paren expected".toList

end ServiceStack.Condition
