import ServiceStack.Machine.Shell.Brace
import ServiceStack.Machine.Shell.Lexer
import ServiceStack.Machine.Shell.Spelling

/-!
How commands are put together. A script is read one line at a time, with all that belongs to it, so
that the lines before a mistake are run.
-/

namespace ServiceStack.Shell

/-- Names of functions that are refused, for the shell needs them. -/
def specialNames : List String := [
  ":", ".", "break", "continue", "eval", "exec", "exit", "export", "readonly", "return", "set",
  "shift", "times", "trap", "unset"]

namespace Grammar

open Lexer

/-! ### Lists -/

/-- How far a list of commands goes. -/
inductive Extent where
  /-- over one line of a script -/
  | line
  /-- up to a sign that ends it, with at least one command -/
  | filled
  | any
deriving DecidableEq, Repr

/-- The parsers that call each other: for any command, and for a list of them. -/
structure Knot where
  command : Parser Command
  list : Extent → Parser Command

/-- Commands inside a word. The texts between lines that they ask for are their own. -/
def nested (k : Knot) : Nested := fun closes => do
  let outer := (← get).pending
  modify fun r => { r with pending := [], again := false }
  let c ← k.list .any
  if closes then
    match ← token fun _ => k.list .any with
    | .sign ")" => pure ()
    | _ => unexpectedFor (.sign ")")
  readDocuments fun _ => k.list .any
  modify fun r => { r with pending := outer, again := false }
  return c

variable (k : Knot)

def token : Parser Token := Lexer.token (nested k)

def readDocuments : Parser Unit := Lexer.readDocuments (nested k)

/-- What may stand before a command on a new line. -/
def fresh : Check := { newlines := true, keywords := true, aliases := true }

def commandStart : Check := { keywords := true, aliases := true }

/-- Takes a token, which must be the one that is asked for. -/
def expect (t : Token) (isIt : Token → Bool) : Parser Unit := do
  if !isIt (← token k) then unexpectedFor t

def expectKeyword (s : String) : Parser Unit := expect k (.keyword s) (Token.isKeyword s)

def expectSign (s : String) : Parser Unit := expect k (.sign s) (Token.isSign s)

/-- Whether a token ends a list of commands. -/
def endsList : Token → Bool
  | .eof => true
  | .sign s => [")", ";;", ";&", ";;&"].contains s
  | .keyword s => ["\x7d", "do", "done", "elif", "else", "esac", "fi", "then"].contains s
  | _ => false

/-! ### Redirections and simple commands -/

/-- The redirection that a sign begins: the word behind it, or the text that it asks for. -/
def redirect (stream : Nat) (a : Arrow) : Parser (List Redirect) := do
  match a with
  | .here _ => expecting { stop := true }
  | _ => pure ()
  match ← token k, a with
  | .word w _, .plain mode => return [(⟨stream, mode, w⟩ : Redirect)]
  | .word w _, .both appends =>
    return [(⟨1, if appends then .append else .output, w⟩ : Redirect), mergeErrors]
  | .word w quoted, .here tabs =>
    let r ← get
    let pending : Pending := ⟨r.texts, w.plain, tabs, quoted⟩
    set { r with texts := r.texts + 1, pending := r.pending ++ [pending] }
    return [(⟨stream, .here, (r.known.lookup r.texts).getD []⟩ : Redirect)]
  | _, _ => unexpected
where
  mergeErrors : Redirect := ⟨2, .copy, [.text false ['1']]⟩

/-- Redirections behind a command. -/
def redirects : Nat → Parser (List Redirect)
  | 0 => return []
  | n + 1 => do
    match ← token k with
    | .redirect stream a =>
      let rs ← redirect k stream a
      return rs ++ (← redirects n)
    | _ =>
      giveBack
      return []

/-- The values of a table up to the closing parenthesis. -/
def tableItems : Nat → Parser (List (Word × Word))
  | 0 => unexpected
  | n + 1 => do
    match ← token k with
    | .newline => tableItems n
    | .sign ")" => return []
    | .word w _ =>
      let item := match w with
        | .text false ('[' :: cs) :: rest =>
          match Word.givenValue? (.text false ('x' :: '[' :: cs) :: rest) with
          | some (_, [.given index _ v]) => some (index, v)
          | _ => none
        | _ => none
      let more ← tableItems n
      match item with
      | some i => return i :: more
      | none => return (Brace.expand w).map (([], ·)) ++ more
    | _ => unexpectedFor (.sign ")")

/-- A word that gives a value, in the rich dialect perhaps a table of values. -/
def valueOf (w : Word) : Parser (Option (Raw × Word)) := do
  let r ← get
  if !r.rich then return w.assignment?
  else match w.givenValue? with
    | none => return none
    | some (x, v) =>
      let opens := r.rest.head? = some '('
      match v with
      | [] =>
        if !opens then return some (x, v)
        drop
        return some (x, [.list (← tableItems k (← size))])
      | [.given [] true []] =>
        if !opens then return some (x, v)
        drop
        return some (x, [.given [] true [.list (← tableItems k (← size))]])
      | v => return some (x, v)

/-- Words behind which tables of values may stand. -/
def isDeclaration (w : Word) : Bool :=
  (Word.bare? w).any fun name =>
    ["declare", "typeset", "local", "export", "readonly"].contains (String.ofList name)

/-- Values come first, then words; redirections may stand anywhere. -/
def simple (line : Nat) : Nat → List (Raw × Word) → List Word → List Redirect → Parser Command
  | 0, _, _, _ => unexpected
  | n + 1, values, words, rs => do
    if words.isEmpty then expecting { aliases := true }
    match ← token k with
    | .word w _ =>
      let rich := (← get).rich
      if words.isEmpty || rich && words.head?.any isDeclaration then
        match ← valueOf k w, words with
        | some v, [] => simple line n (values ++ [v]) [] rs
        | some (x, [.list items]), _ =>
          simple line n values (words ++ [[.text false (x ++ ['=']), .list items]]) rs
        | some (x, [.given i a [.list items]]), _ =>
          simple line n values (words ++ [[.text false (x ++ ['=']), .given i a [.list items]]]) rs
        | some _, _ => simple line n values (words ++ [w]) rs
        | none, _ => simple line n values (words ++ if rich then Brace.expand w else [w]) rs
      else simple line n values (words ++ if rich then Brace.expand w else [w]) rs
    | .redirect stream a => do
      simple line n values words (rs ++ (← redirect k stream a))
    | .sign "(" =>
      match words, values, rs with
      | [w], [], [] => do
        expectSign k ")"
        match w.bare? with
        | some name =>
          let isRefused := !isName name || specialNames.contains (String.ofList name)
          if !(← get).rich && isRefused then fault "Bad function name"
          expecting fresh
          let here := (← get).line
          return .function here name (← k.command)
        | none => fault "Bad function name"
      | _, _, _ => do
        giveBack
        return .simple line values words rs
    | _ => do
      giveBack
      return .simple line values words rs

/-! ### Compound commands -/

/-- Conditions behind the first. -/
def choice : Nat → Parser Command
  | 0 => unexpected
  | n + 1 => do
    let test ← k.list .filled
    expectKeyword k "then"
    let yes ← k.list .filled
    match ← token k with
    | .keyword "elif" => return .choice test yes (← choice n)
    | .keyword "else" => return .choice test yes (← k.list .filled)
    | _ => do
      giveBack
      return .choice test yes .skip

def loop (inverted : Bool) : Parser Command := do
  let test ← k.list .filled
  expectKeyword k "do"
  return .loop inverted test (← k.list .filled)

/-! ### Compound commands of the rich dialect -/

/-- The parts of a sum that semicolons keep apart. -/
def splitSum : Word → List Word
  | [] => [[]]
  | .text q s :: rest =>
    match s.splitOn ';', splitSum rest with
    | pieces, first :: more =>
      let words := pieces.map fun t => if t = [] then [] else [Part.text q t]
      words.dropLast ++ ((words.getLast?.getD []) ++ first) :: more
    | _, [] => []
  | p :: rest =>
    match splitSum rest with
    | first :: more => (p :: first) :: more
    | [] => [[p]]

/-- A sum between two pairs of parentheses, of which the first opening one was taken. -/
def sumText : Parser Word := do
  drop
  return (← parts (nested k) (2 * (← size)) (.sum 0)).1

/-- Whether the next character stands right behind the last token. -/
def isNext (c : Char) : Parser Bool := return (← get).rest.head? = some c

/-- Takes line breaks and semicolons. -/
def skipBreaks : Nat → Parser Unit
  | 0 => return
  | n + 1 => do
    match ← token k with
    | .newline | .sign ";" => skipBreaks n
    | _ => giveBack

def counted (line : Nat) : Parser Command := do
  let w ← sumText k
  match splitSum w with
  | [a, b, c] =>
    skipBreaks k (← size)
    expecting fresh
    match ← token k with
    | .keyword "do" =>
      let body ← k.list .filled
      expectKeyword k "done"
      return .counted line a b c body
    | .keyword "\x7b" =>
      let body ← k.list .filled
      expectKeyword k "\x7d"
      return .counted line a b c body
    | _ => unexpected
  | _ => fault "syntax error in arithmetic loop"

def trialUnary (op : Raw) : Bool :=
  match op with
  | ['-', c] => "abcdefghkpnorstuvwxzGLNORS".contains c
  | _ => false

def trialBinary (op : Raw) : Bool :=
  ["=", "==", "!=", "=~", "-eq", "-ne", "-lt", "-le", "-gt", "-ge", "-nt", "-ot", "-ef"].contains
    (String.ofList op)

/-- An expression that is looked for, whose signs stand as they are. -/
def regexWord : Parser Word := do
  modify fun r => { r with rest := r.rest.dropWhile fun c => c = ' ' || c = '\t' }
  return (← parts (nested k) (2 * (← size)) (.regex 0)).1

mutual

/-- Conditions of one word or two, in parentheses, or with the opposite sense. -/
def trialSingle : Nat → Parser Trial
  | 0 => unexpected
  | n + 1 => do
    match ← token k with
    | .newline => trialSingle n
    | .sign "(" =>
      let t ← trialEither n
      expectSign k ")"
      return t
    | .word w _ =>
      let text := Word.bare? w
      if text = some ['!'] then return .not (← trialSingle n)
      else
        let op := text.getD []
        match ← token k with
        | .word v _ =>
          let next := Word.bare? v
          if next = some [']', ']'] then
            giveBack
            return .word w
          else if trialUnary op && !(next.any trialBinary) then
            return .unary (String.ofList op) v
          else match next with
            | some b =>
              if !trialBinary b then fault "conditional binary operator expected"
              else if b = ['=', '~'] then return .binary "=~" w (← regexWord k)
              else match ← token k with
                | .word v _ => return .binary (String.ofList b) w v
                | _ => unexpected
            | none => fault "conditional binary operator expected"
        | .redirect _ (.plain mode) =>
          match ← token k with
          | .word v _ => return .binary (if mode = .input then "<" else ">") w v
          | _ => unexpected
        | _ =>
          giveBack
          return .word w
    | _ => unexpected

def trialBoth : Nat → Parser Trial
  | 0 => unexpected
  | n + 1 => do
    let a ← trialSingle n
    match ← trialSign n with
    | .sign "&&" => return .and a (← trialBoth n)
    | _ =>
      giveBack
      return a

def trialEither : Nat → Parser Trial
  | 0 => unexpected
  | n + 1 => do
    let a ← trialBoth n
    match ← trialSign n with
    | .sign "||" => return .or a (← trialEither n)
    | _ =>
      giveBack
      return a

/-- The next token that is no line break. -/
def trialSign : Nat → Parser Token
  | 0 => unexpected
  | n + 1 => do
    match ← token k with
    | .newline => trialSign n
    | t => return t

end

/-- A condition up to its closing brackets. -/
def trial (line : Nat) : Parser Command := do
  let old := (← get).groups
  modify fun r => { r with groups := true }
  let n ← size
  let t ← trialEither k (2 * n)
  match ← trialSign k n with
  | .word w _ =>
    if Word.bare? w ≠ some [']', ']'] then unexpected
  | _ => unexpected
  modify fun r => { r with groups := old }
  return .trial line t

/-- The words that are gone through, and the token behind them. -/
def eachWords : Nat → Parser (List Word)
  | 0 => return []
  | n + 1 => do
    match ← token k with
    | .word w _ =>
      let ws := if (← get).rich then Brace.expand w else [w]
      return ws ++ (← eachWords n)
    | .newline | .sign ";" => return []
    | _ => unexpected

def each (line : Nat) : Parser Command := do
  let name ← match ← token k with
    | .word w false =>
      match w.bare? with
      | some name => if isName name then pure name else fault "Bad for loop variable"
      | none => fault "Bad for loop variable"
    | _ => fault "Bad for loop variable"
  expecting fresh
  let words ← match ← token k with
    | .keyword "in" => some <$> eachWords k (← size)
    | .sign ";" => pure none
    | _ => do
      giveBack
      pure none
  expecting fresh
  expectKeyword k "do"
  return .each line name words (← k.list .filled)

/-- The patterns of an arm behind the first, up to the parenthesis. -/
def patterns : Nat → Parser (List Word)
  | 0 => unexpected
  | n + 1 => do
    match ← token k with
    | .sign "|" =>
      match ← token k with
      | .word w _ => return w :: (← patterns n)
      | _ => unexpected
    | .sign ")" => return []
    | _ => unexpectedFor (.sign ")")

def arms : Nat → Parser (List (List Word × Command))
  | 0 => unexpected
  | n + 1 => do
    expecting { newlines := true, keywords := true }
    let first ← match ← token k with
      | .keyword "esac" => return []
      | .sign "(" => token k
      | t => pure t
    let w ← match first with
      | .word w _ => pure w
      | .keyword s => pure [Part.text false s.toList]
      | _ => unexpectedFor (.sign ")")
    let ps ← patterns k (← size)
    let c ← k.list .any
    expecting { newlines := true, keywords := true }
    match ← token k with
    | .keyword "esac" => return [(w :: ps, c)]
    | .sign ";;" => return (w :: ps, c) :: (← arms n)
    | .sign ";&" => return (w :: ps, .falls false c) :: (← arms n)
    | .sign ";;&" => return (w :: ps, .falls true c) :: (← arms n)
    | _ => unexpectedFor (.sign ";;")

def cases (line : Nat) : Parser Command := do
  match ← token k with
  | .word w _ =>
    expecting fresh
    expectKeyword k "in"
    return .cases line w (← arms k (← size))
  | _ => unexpectedFor (.word [] false)

def withRedirects (line : Nat) (c : Command) : Parser Command := do
  expecting commandStart
  match ← redirects k (← size) with
  | [] => return c
  | rs =>
    match c with
    | .subshell line c _ => return .subshell line c rs
    | c => return .redirected line c rs

def command : Parser Command := do
  let line := (← get).line
  match ← token k with
  | .keyword "if" =>
    let c ← choice k (← size)
    expectKeyword k "fi"
    withRedirects k line c
  | .keyword "while" =>
    let c ← loop k false
    expectKeyword k "done"
    withRedirects k line c
  | .keyword "until" =>
    let c ← loop k true
    expectKeyword k "done"
    withRedirects k line c
  | .keyword "for" =>
    let isSum ← do
      if !(← get).rich then pure false
      else match ← token k with
        | .sign "(" => isNext '('
        | _ =>
          giveBack
          pure false
    if isSum then withRedirects k line (← counted k line)
    else
      let c ← each k line
      expectKeyword k "done"
      withRedirects k line c
  | .keyword "[[" => withRedirects k line (← trial k line)
  | .keyword "function" =>
    match ← token k with
    | .word w _ =>
      expecting fresh
      match ← token k with
      | .sign "(" =>
        expectSign k ")"
        expecting fresh
      | _ =>
        giveBack
        expecting fresh
      return .function line w.plain (← k.command)
    | _ => unexpected
  | .keyword "case" => withRedirects k line (← cases k line)
  | .sign "(" =>
    if (← get).rich && (← isNext '(') then
      let r ← get
      match (sumText k).run r with
      | .ok (w, s) =>
        set s
        withRedirects k line (.sum line w)
      | .error _ =>
        let c ← k.list .filled
        expectSign k ")"
        withRedirects k line (.subshell line c [])
    else
      let c ← k.list .filled
      expectSign k ")"
      withRedirects k line (.subshell line c [])
  | .keyword "\x7b" =>
    let c ← k.list .filled
    expectKeyword k "\x7d"
    withRedirects k line c
  | .word _ _ | .redirect _ _ =>
    giveBack
    simple k line (← size) [] [] []
  | _ => unexpected

/-! ### Pipelines and lists -/

/-- Stages of a pipeline behind the first. -/
def stages : Nat → Parser (List Command)
  | 0 => return []
  | n + 1 => do
    match ← token k with
    | .sign "|" =>
      expecting fresh
      let c ← k.command
      return c :: (← stages n)
    | .sign "|&" =>
      expecting fresh
      let c ← k.command
      return .skip :: c :: (← stages n)
    | _ =>
      giveBack
      return []

/-- A command that writes its errors where its output goes. -/
def merged : Command → Command
  | .simple line values words rs => .simple line values words (rs ++ [redirect.mergeErrors])
  | .subshell line c rs => .subshell line c (rs ++ [redirect.mergeErrors])
  | .redirected line c rs => .redirected line c (rs ++ [redirect.mergeErrors])
  | c => .redirected 0 c [redirect.mergeErrors]

/-- Stages with the errors of those before an empty one taken into the pipe. -/
def mergeStages : List Command → List Command
  | c :: .skip :: cs => merged c :: mergeStages cs
  | c :: cs => c :: mergeStages cs
  | [] => []

/-- Signs before a pipeline: whether it is taken in the opposite sense, and whether it is timed. -/
def pipelineSigns : Nat → Bool → Bool → Parser (Bool × Bool)
  | 0, negated, timed => return (negated, timed)
  | n + 1, negated, timed => do
    match ← token k with
    | .keyword "!" =>
      expecting commandStart
      if (← get).rich then pipelineSigns n (!negated) timed else return (true, timed)
    | .keyword "time" =>
      expecting commandStart
      pipelineSigns n negated true
    | .word w q =>
      giveBack
      if timed && !q && Word.bare? w = some ['-', 'p'] then
        let _ ← token k
        expecting commandStart
        pipelineSigns n negated timed
      else return (negated, timed)
    | _ =>
      giveBack
      return (negated, timed)

def pipeline : Parser Command := do
  let (negated, timed) ← pipelineSigns k (← size) false false
  let first ← k.command
  let c ← match ← stages k (← size) with
    | [] => pure first
    | more => pure (.pipe (mergeStages (first :: more)) true)
  let c := if timed then .timed c else c
  return if negated then .not c else c

/-- Pipelines behind the first that depend on how it ends. -/
def andOr : Nat → Command → Parser Command
  | 0, _ => unexpected
  | n + 1, a => do
    match ← token k with
    | .sign "&&" =>
      expecting fresh
      andOr n (.and a (← pipeline k))
    | .sign "||" =>
      expecting fresh
      andOr n (.or a (← pipeline k))
    | _ =>
      giveBack
      return a

/-- A command that is not waited for. -/
def inBackground (line : Nat) (c : Command) : Command :=
  match c with
  | .pipe stages _ => .pipe stages false
  | .redirected line c rs => .background line c rs
  | c => .background line c []

/-- A command in the background with the text from which it was read, up to its sign. -/
def labelled (before after : Raw) (c : Command) : Command :=
  let text := Spelling.tidy none (before.take (before.length - after.length - 1))
  if text = [] then c else .labelled text c

def put (front : Option Command) (c : Command) : Command :=
  match front with
  | none => c
  | some f => .sequence f c

/-- Ends at the end of a script, which is told again. -/
def atEof (front : Option Command) : Parser Command := do
  readDocuments k
  modify fun r => { r with again := true, last := .eof }
  return front.getD .skip

def list (e : Extent) : Nat → Option Command → Parser Command
  | 0, _ => unexpected
  | n + 1, front => do
    let check := if e = .line then commandStart else fresh
    expecting check
    let start ← get
    let before := if start.rich && !start.again then start.rest else []
    match ← token k with
    | .newline => do
      readDocuments k
      return front.getD .skip
    | .eof => atEof k front
    | t => do
      giveBack
      if endsList t && e ≠ .line && (front.isSome || e = .any) then return front.getD .skip
      else do
        let line := (← get).line
        let c ← andOr k (← size) (← pipeline k)
        match ← token k with
        | .sign "&" =>
          let after := (← get).rest
          list e n (some (put front (labelled before after (inBackground line c))))
        | .sign ";" => list e n (some (put front c))
        | .newline => do
          giveBack
          list e n (some (put front c))
        | .eof => atEof k (some (put front c))
        | _ =>
          if e = .line then unexpected
          else do
            giveBack
            return put front c

/-- The parsers for commands of some depth. -/
def knot : Nat → Knot
  | 0 => ⟨unexpected, fun _ => unexpected⟩
  | n + 1 => ⟨fun r => command (knot n) r, fun e r => list (knot n) e (r.rest.length + 2) none r⟩

/-- More commands within commands than a script has. -/
def depth : Nat := 1000000

/-! ### Lines -/

/-- What comes next in a script. -/
inductive Line where
  | done
  | mistake (f : Fault)
  /-- a command, and what follows it -/
  | command (c : Command) (rest : Raw) (line : Nat)

/-- Reads a line of a script as it is read from some start, the texts between lines being known as
far as they are told. -/
def read (start : Reader) (known : List (Nat × Word)) (line : Nat) (text : Raw) :
    Except Fault (Command × Reader) :=
  (list (knot depth) .line (text.length + 2) none).run { start with rest := text, line, known }

/-- The next line. Texts between lines are found by a first reading, and put by a second. -/
def next (start : Reader) (line : Nat) (text : Raw) : Line :=
  if text = [] then .done
  else
    match read start [] line text with
    | .error f => .mistake f
    | .ok (c, r) =>
      let c := match r.found with
        | [] => c
        | found => match read start found line text with
          | .ok (c, _) => c
          | .error _ => c
      .command c r.rest r.line

/-- A text in which parameters and commands stand for what they are, but nothing is split. -/
def textWord? (start : Reader) (text : Raw) : Option Word :=
  ((parts (nested (knot depth)) (2 * text.length + 4) .here).run
    { start with rest := text }).toOption.map fun r => r.1.1

end Grammar

end ServiceStack.Shell
