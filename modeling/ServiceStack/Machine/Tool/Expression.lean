import ServiceStack.Machine.Tool.Letter
import ServiceStack.Machine.Tool.Regex.Grammar

/-!
Expressions from words: numbers of any size, texts, comparisons and parts of texts. What stands
behind an alternative that is not needed is read, but its value is not asked for.
-/

namespace ServiceStack.Expression

/-- Why some words have no value. -/
inductive Fault where
  | missing (after : Raw)
  | unexpected (word : Raw)
  | closing
  | unclosed (after : Raw)
  | notClosed (word : Raw)
  | number
  | zero
  | regex (f : Regex.Fault)
deriving DecidableEq, Repr

def Fault.text : Fault → Raw
  | .missing a => "syntax error: missing argument after '".toList ++ a ++ ['\'']
  | .unexpected a => "syntax error: unexpected argument '".toList ++ a ++ ['\'']
  | .closing => "syntax error: unexpected ')'".toList
  | .unclosed a => "syntax error: expecting ')' after '".toList ++ a ++ ['\'']
  | .notClosed a => "syntax error: expecting ')' instead of '".toList ++ a ++ ['\'']
  | .number => "non-integer argument".toList
  | .zero => "division by zero".toList
  | .regex f => f.text

/-- The operators, from the loosest to the tightest. -/
def operators : List (List String) :=
  [["|"], ["&"], ["<", "<=", "=", "==", "!=", ">=", ">"], ["+", "-"], ["*", "/", "%"], [":"]]

/-- Whether a value is nothing or zero. -/
def isNull (a : Raw) : Bool :=
  a = [] || (let ds := if a.head? = some '-' then a.tail else a
    ds ≠ [] && ds.all (· = '0'))

def truth (b : Bool) : Raw := if b then ['1'] else ['0']

/-- A whole number as it is written: digits, and a minus or none. -/
def whole? (a : Raw) : Option Int :=
  match a with
  | '-' :: ds => (Numeral.natural? ds).map fun n => -n
  | ds => (Numeral.natural? ds).map fun n => n

/-- How much of a word an expression matches at its start, or what its first group takes. -/
def measure (word pattern : Raw) : Except Fault Raw :=
  match Regex.read .basic pattern with
  | .error f => .error (.regex f)
  | .ok (r, groups) =>
    .ok (match Regex.matchAt {} r (.start word) with
      | some s => if groups ≠ 0 then (s.groups.lookup 1).getD [] else Numeral.natText 10 s.before
      | none => if groups ≠ 0 then [] else ['0'])

def apply (op : String) (a b : Raw) : Except Fault Raw :=
  let compared := match whole? a, whole? b with
    | some m, some n => compare m n
    | _, _ => compare a b
  let number := fun (f : Int → Int → Int) =>
    match whole? a, whole? b with
    | some m, some n => Except.ok (Numeral.intText (f m n))
    | _, _ => .error Fault.number
  let divided := fun (f : Int → Int → Int) =>
    match whole? a, whole? b with
    | some _, some 0 => .error Fault.zero
    | _, _ => number f
  match op with
  | "|" => .ok (if !isNull a then a else if isNull b then ['0'] else b)
  | "&" => .ok (if isNull a || isNull b then ['0'] else a)
  | "<" => .ok (truth (compared = .lt))
  | "<=" => .ok (truth (compared ≠ .gt))
  | "=" | "==" => .ok (truth (compared = .eq))
  | "!=" => .ok (truth (compared ≠ .eq))
  | ">=" => .ok (truth (compared ≠ .lt))
  | ">" => .ok (truth (compared = .gt))
  | "+" => number (· + ·)
  | "-" => number (· - ·)
  | "*" => number (· * ·)
  | "/" => divided Int.tdiv
  | "%" => divided Int.tmod
  | _ => measure a b

/-- Whether the right side of an operator is asked for its value. -/
def asks (op : String) (a : Raw) : Bool :=
  if op = "|" then isNull a else if op = "&" then !isNull a else true

/-- The word before those that are left. -/
def wordBefore (all rest : List Raw) : Raw := (all[all.length - rest.length - 1]?).getD []

/-- What some words ask of texts. -/
def words : List (String × Nat) := [("match", 2), ("length", 1), ("index", 2), ("substr", 3)]

/-- The value of a word that asks something of texts. -/
def answer (word : String) (vs : List Raw) : Except Fault Raw :=
  match word, vs with
  | "match", [v, p] => measure v p
  | "length", [v] => .ok (Numeral.natText 10 v.length)
  | "index", [v, set] =>
    let i := v.findIdx (set.contains ·)
    .ok (Numeral.natText 10 (if i < v.length then i + 1 else 0))
  | "substr", [v, start, size] =>
    match whole? start, whole? size with
    | some i, some k => .ok (if i < 1 then [] else (v.drop (i.toNat - 1)).take k.toNat)
    | _, _ => .ok []
  | _, _ => .ok []

/-- The value of the longest expression of some operators, and the words behind it. Without `live`
no operator is applied. -/
def value (all : List Raw) (live : Bool) : Nat → List (List String) → List Raw →
    Except Fault (Raw × List Raw)
  | 0, _, ws => .error (.missing (wordBefore all ws))
  | _, _, [] => .error (.missing (wordBefore all []))
  | n + 1, [], w :: rest => do
    match String.ofList w with
    | "(" =>
      let (v, rest) ← value all live n operators rest
      match rest with
      | [')'] :: rest => return (v, rest)
      | [] => throw (.unclosed (wordBefore all []))
      | w :: _ => throw (.notClosed w)
    | ")" => throw .closing
    | "+" =>
      match rest with
      | a :: rest => return (a, rest)
      | [] => throw (.missing w)
    | name =>
      match words.lookup name with
      | none => return (w, rest)
      | some count =>
        let (vs, rest) ← several n count rest
        return (← if live then answer name vs else .ok (vs.headD []), rest)
  | n + 1, ops :: tighter, ws => do
    let (v, rest) ← value all live n tighter ws
    more live n ops tighter v rest
where
  several : Nat → Nat → List Raw → Except Fault (List Raw × List Raw)
    | 0, _, ws | _, 0, ws => .ok ([], ws)
    | n + 1, k + 1, ws => do
      let (v, rest) ← value all live n [] ws
      let (vs, rest) ← several n k rest
      return (v :: vs, rest)
  /-- Operators of one rank are taken from the left. -/
  more (live : Bool) : Nat → List String → List (List String) → Raw → List Raw →
      Except Fault (Raw × List Raw)
    | 0, _, _, v, ws => .ok (v, ws)
    | n + 1, ops, tighter, v, ws =>
      match ws with
      | op :: rest =>
        if ops.contains (String.ofList op) then do
          let (u, rest) ← value all (live && asks (String.ofList op) v) n tighter rest
          let r ← if live then apply (String.ofList op) v u else .ok v
          more live n ops tighter r rest
        else .ok (v, ws)
      | [] => .ok (v, [])

/-- The value of the whole. It is told by 1 if it is nothing or zero. -/
def expr (self : String) (args : List Raw) : Notice :=
  let ws := if args.head? = some ['-', '-'] then args.tail else args
  if ws = [] then Letter.usage self "missing operand".toList 2
  else
    let refuse := fun (f : Fault) => Notice.complain (self.toList ++ ": ".toList ++ f.text) 2
    match value ws true (16 * ws.length + 16) operators ws with
    | .ok (v, []) => .say (v ++ ['\n']) (if isNull v then 1 else 0)
    | .ok (_, w :: _) => refuse (.unexpected w)
    | .error f => refuse f

end ServiceStack.Expression
