import ServiceStack.Machine.Tool.Record.Match
import ServiceStack.Machine.Tool.Record.Syntax
import ServiceStack.Text.Double

/-!
The words and signs of programs for records. A slash begins an expression for texts where no operand
has come before it.
-/

namespace ServiceStack.Record

inductive Token where
  | number (x : Float)
  | text (t : Raw)
  | pattern (t : Raw)
  | name (x : Raw)
  /-- a name right before a parenthesis -/
  | caller (x : Raw)
  | builtin (b : Builtin)
  | word (w : String)
  | sign (s : String)
  | line

/-- Why a text is no program. -/
inductive Fault where
  | runaway (what : String) (text : Raw)
  | near (text : Raw)
  | pattern (f : Regex.Fault) (text : Raw)
  | told (text : String)

namespace Token

def words : List String := [
  "BEGIN", "END", "function", "if", "else", "for", "while", "do", "break", "continue", "next",
  "nextfile", "exit", "return", "delete", "in", "getline", "print", "printf"]

def builtins : List (String × Builtin) := [
  ("length", .length), ("substr", .substr), ("index", .index), ("split", .split), ("sub", .sub),
  ("gsub", .gsub), ("match", .matchAt), ("sprintf", .sprintf), ("sin", .sin), ("cos", .cos),
  ("atan2", .atan2), ("exp", .exp), ("log", .log), ("sqrt", .sqrt), ("int", .int),
  ("rand", .rand), ("srand", .srand), ("tolower", .tolower), ("toupper", .toupper),
  ("system", .system), ("close", .close), ("fflush", .flush), ("systime", .systime)]

/-- The longer signs come before the shorter ones. -/
def signs : List String := [
  "&&", "||", "==", "!=", "<=", ">=", "++", "--", "+=", "-=", "*=", "/=", "%=", "^=", "!~", ">>",
  "\x7b", "\x7d", "(", ")", "[", "]", ";", ",", "+", "-", "*", "/", "%", "^", "!", "<", ">", "?",
  ":", "~", "$", "=", "|"]

/-- Whether an operand may end here, so that a slash divides it. -/
def endsOperand : Token → Bool
  | .number _ | .text _ | .pattern _ | .name _ => true
  | .sign s => [")", "]", "$", "++", "--"].contains s
  | _ => false

/-- A text up to its quote, and what follows it. -/
def quoted (done : Raw) : Nat → Raw → Except Fault (Raw × Raw)
  | 0, _ => .error (.runaway "string constant" done.reverse)
  | n + 1, cs =>
    match cs with
    | [] | '\n' :: _ => .error (.runaway "string constant" done.reverse)
    | '"' :: rest => .ok (done.reverse, rest)
    | '\\' :: '\n' :: rest => quoted done n rest
    | '\\' :: c :: rest =>
      match named? (c :: rest) with
      | some (d, rest) => quoted (d :: done) n rest
      | none =>
        if c = '"' || c = '\\' then quoted (c :: done) n rest
        else quoted (c :: '\\' :: done) n rest
    | c :: rest => quoted (c :: done) n rest

/-- An expression up to its slash, and what follows it. In brackets a slash ends nothing. -/
def slashed (done : Raw) (inside : Bool) : Nat → Raw → Except Fault (Raw × Raw)
  | 0, _ => .error (.runaway "regular expression" done.reverse)
  | n + 1, cs =>
    match cs with
    | [] | '\n' :: _ => .error (.runaway "regular expression" done.reverse)
    | '\\' :: c :: rest => slashed (c :: '\\' :: done) inside n rest
    | '[' :: rest =>
      if inside then
        match rest with
        | ':' :: more =>
          let name := more.takeWhile Char.isAlpha
          match more.drop name.length with
          | ':' :: ']' :: rest =>
            slashed ("]:".toList ++ name.reverse ++ ":[".toList ++ done) true n rest
          | _ => slashed ('[' :: done) true n rest
        | _ => slashed ('[' :: done) true n rest
      else
        let front := if rest.head? = some '^' then ['^'] else []
        let rest := rest.drop front.length
        let first := if rest.head? = some ']' then [']'] else []
        slashed (first ++ front ++ '[' :: done) true n (rest.drop first.length)
    | ']' :: rest => slashed (']' :: done) false n rest
    | '/' :: rest =>
      if inside then slashed ('/' :: done) inside n rest else .ok (done.reverse, rest)
    | c :: rest => slashed (c :: done) inside n rest

def isNameStart (c : Char) : Bool := c.isAlpha || c = '_'

def isNamePart (c : Char) : Bool := c.isAlphanum || c = '_'

/-- What a name is, with what follows it. -/
def ofName (x rest : Raw) : Token :=
  let s := String.ofList x
  if words.contains s then .word s
  else match builtins.lookup s with
    | some b => .builtin b
    | none => if rest.head? = some '(' then .caller x else .name x

/-- The tokens of a text, each with the number of its line. -/
def scan : Nat → Nat → Option Token → Raw → Except (Fault × Nat) (List (Token × Nat))
  | 0, _, _, _ => .ok []
  | n + 1, row, last, cs =>
    let put := fun (t : Token) (rest : Raw) =>
      (scan n row (some t) rest).map ((t, row) :: ·)
    match cs with
    | [] => .ok []
    | '\n' :: rest => (scan n (row + 1) (some .line) rest).map ((.line, row) :: ·)
    | '\\' :: '\n' :: rest => scan n (row + 1) last rest
    | '\\' :: '\r' :: '\n' :: rest => scan n (row + 1) last rest
    | '#' :: rest => scan n row last (rest.dropWhile (· ≠ '\n'))
    | '"' :: rest =>
      match quoted [] (rest.length + 1) rest with
      | .ok (t, rest) => put (.text t) rest
      | .error f => .error (f, row)
    | c :: rest =>
      if Raw.isBlank c then scan n row last rest
      else if isNameStart c then
        let x := cs.takeWhile isNamePart
        let rest := cs.drop x.length
        put (ofName x rest) rest
      else if c.isDigit || c = '.' && rest.head?.any Char.isDigit then
        match Numeral.pointed 10 10 1 'e' cs with
        | some (m, rest) => put (.number (Double.ofParts (false, m))) rest
        | none => .error (.near [c], row)
      else if c = '/' && !last.any endsOperand then
        match slashed [] false (rest.length + 1) rest with
        | .ok (t, rest) => put (.pattern t) rest
        | .error f => .error (f, row)
      else match signs.find? fun s => s.toList.isPrefixOf cs with
        | some s => put (.sign s) (cs.drop s.length)
        | none => .error (.near [c], row)

def ofText (t : Raw) : Except (Fault × Nat) (List (Token × Nat)) := scan (t.length + 1) 1 none t

end Token

end ServiceStack.Record
