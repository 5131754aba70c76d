import ServiceStack.Machine.Notice

/-!
Options of one letter. A word that begins with a dash holds options; a letter that wants a value
takes the rest of its word, or the next word. Two dashes end the options. Words with two dashes and
more are options of their own, which a program may know by other letters.
-/

namespace ServiceStack.Letter

/-- Why the words of a program are refused. -/
inductive Fault where
  | unknown (c : Char)
  | missing (c : Char)
  | unrecognized (word : Raw)
  | valueless (word : Raw)
  | excess (word : Raw)
  | ambiguous (word : Raw) (possible : List String)
deriving DecidableEq, Repr

def Fault.text : Fault → Raw
  | .unknown c => "invalid option -- '".toList ++ [c, '\'']
  | .missing c => "option requires an argument -- '".toList ++ [c, '\'']
  | .unrecognized w => "unrecognized option '".toList ++ w ++ ['\'']
  | .valueless w => "option '".toList ++ w ++ "' requires an argument".toList
  | .excess w => "option '".toList ++ w ++ "' doesn't allow an argument".toList
  | .ambiguous w ws => "option '".toList ++ w ++ "' is ambiguous; possibilities:".toList ++
      ws.flatMap fun w => " '--".toList ++ w.toList ++ ['\'']

/-- A complaint, and where to find help. -/
def usage (program : String) (text : Raw) (code : Nat) : Notice :=
  let p := program.toList
  .complain (p ++ ": ".toList ++ text ++ "\nTry '".toList ++ p ++
    " --help' for more information.".toList) code

def Fault.report (program : String) (code : Nat) (f : Fault) : Notice :=
  usage program f.text code

/-- A complaint about a word that is none of some words. -/
def refusedChoice (option : String) (a : Raw) (words : List String) : Raw :=
  "invalid argument '".toList ++ a ++ "' for '".toList ++ option.toList ++
    "'\nValid arguments are:".toList ++
    words.flatMap fun w => "\n  - '".toList ++ w.toList ++ ['\'']

/-- What one of some words means. It may be cut short as long as it can mean only one. -/
def choose? {α : Type} (words : List (String × α)) (a : Raw) : Option α :=
  match words.find? fun w => w.1.toList = a with
  | some w => some w.2
  | none =>
    match words.filter fun w => a.isPrefixOf w.1.toList with
    | [w] => some w.2
    | _ => none

/-- The options of a program: letters, letters with values, letters whose value can only stand in
the same word, and long words for letters. -/
structure Grammar where
  plain : String := ""
  valued : String := ""
  optional : String := ""
  long : List (String × Char) := []
  /-- the first operand ends the options -/
  strict : Bool := false

/-- A letter whose value is still to come, and what is wrong without one. -/
abbrev Wait := Char × Fault

variable (g : Grammar)

/-- The letters of one word, and a letter whose value is still to come. -/
def bundle : Raw → Except Fault (List (Char × Raw) × Option Wait)
  | [] => .ok ([], none)
  | c :: cs =>
    if g.plain.contains c then (bundle cs).map fun r => ((c, []) :: r.1, r.2)
    else if g.optional.contains c then .ok ([(c, cs)], none)
    else if g.valued.contains c then
      .ok (if cs = [] then ([], some (c, .missing c)) else ([(c, cs)], none))
    else .error (.unknown c)

/-- The letter of a long word, which may be cut short, and the value that it brings. -/
def longOption (word : Raw) : Except Fault (List (Char × Raw) × Option Wait) :=
  let name := (word.drop 2).takeWhile (· ≠ '=')
  let value := match (word.drop 2).dropWhile (· ≠ '=') with
    | '=' :: v => some v
    | _ => none
  let exact := g.long.find? fun l => l.1.toList = name
  let near := g.long.filter fun l => name.isPrefixOf l.1.toList
  let kinds := near.eraseDupsBy fun a b => a.2 == b.2
  if exact.isNone && 1 < kinds.length then .error (.ambiguous word (near.map Prod.fst))
  else match exact <|> near.head? with
    | none => .error (.unrecognized word)
    | some (full, c) =>
      let full := ['-', '-'] ++ full.toList
      if g.optional.contains c then .ok ([(c, value.getD [])], none)
      else match g.valued.contains c, value with
        | true, some v => .ok ([(c, v)], none)
        | true, none => .ok ([], some (c, .valueless full))
        | false, none => .ok ([(c, [])], none)
        | false, some _ => .error (.excess full)

/-- Options and operands, where a letter may be waiting for its value. -/
def splitFrom (wait : Option Wait) :
    List Raw → Except Fault (List (Char × Raw) × List Raw)
  | [] =>
    match wait with
    | none => .ok ([], [])
    | some w => .error w.2
  | a :: rest =>
    match wait with
    | some w => (splitFrom none rest).map fun r => ((w.1, a) :: r.1, r.2)
    | none =>
      match a with
      | ['-', '-'] => .ok ([], rest)
      | '-' :: '-' :: _ => do
        let (os, wait) ← longOption g a
        let r ← splitFrom wait rest
        return (os ++ r.1, r.2)
      | '-' :: c :: cs => do
        let (os, wait) ← bundle g (c :: cs)
        let r ← splitFrom wait rest
        return (os ++ r.1, r.2)
      | _ =>
        if g.strict then .ok ([], a :: rest)
        else (splitFrom none rest).map fun r => (r.1, a :: r.2)

def split (args : List Raw) : Except Fault (List (Char × Raw) × List Raw) :=
  splitFrom g none args

/-- The last value of a letter. -/
def value? (c : Char) (os : List (Char × Raw)) : Option Raw := os.reverse.lookup c

def has (c : Char) (os : List (Char × Raw)) : Bool := (value? c os).isSome

/-- The last of some letters. -/
def last? (cs : String) (os : List (Char × Raw)) : Option Char :=
  (os.reverse.find? fun o => cs.contains o.1).map Prod.fst

end ServiceStack.Letter
