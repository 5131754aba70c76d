import ServiceStack.Machine.Shell.Syntax
import ServiceStack.Text.Numeral

/-!
The words and signs of a script. They are read when they are asked for, for what a word means
depends on its place, and a word may hold commands. A text between lines is read at the end of the
line that asks for it.
-/

namespace ServiceStack.Shell

/-- Why a script cannot be read, and the line where that was found. -/
structure Fault where
  line : Nat
  text : Raw
  /-- whether the line is shown -/
  shows : Bool := false
deriving DecidableEq, Repr

/-- The signs of redirections. -/
inductive Arrow where
  | plain (mode : Mode)
  /-- output and errors together -/
  | both (appends : Bool)
  /-- the word is the last line of a text to come, from whose lines tabs may be taken -/
  | here (tabs : Bool)
deriving DecidableEq, Repr

inductive Token where
  | eof
  | newline
  | sign (s : String)
  | redirect (stream : Nat) (a : Arrow)
  /-- a word, and whether any of it was quoted -/
  | word (w : Word) (quoted : Bool)
  | keyword (s : String)

namespace Token

/-- How a token is called in a complaint. -/
def name : Token → String
  | .eof => "end of file"
  | .newline => "newline"
  | .sign s | .keyword s => "\"" ++ s ++ "\""
  | .redirect _ _ => "redirection"
  | .word _ _ => "word"

/-- How a token is written. -/
def text : Token → Raw
  | .eof => []
  | .newline => "newline".toList
  | .sign s | .keyword s => s.toList
  | .redirect _ (.plain m) => match m with
    | .input => ['<']
    | .append => ['>', '>']
    | .line => "<<<".toList
    | .copy => ['>', '&']
    | _ => ['>']
  | .redirect _ (.both _) => ['&', '>']
  | .redirect _ (.here _) => ['<', '<']
  | .word w _ => w.plain

def isSign (s : String) : Token → Bool
  | .sign t => s = t
  | _ => false

def isKeyword (s : String) : Token → Bool
  | .keyword t => s = t
  | _ => false

end Token

/-- What is looked for in the next token. -/
structure Check where
  newlines : Bool := false
  keywords : Bool := false
  aliases : Bool := false
  /-- it is the last line of a text to come -/
  stop : Bool := false
deriving DecidableEq, Repr

/-- A text between lines that is still to come: its number, its last line, whether tabs are taken
from its lines, whether it is taken as it stands. -/
structure Pending where
  number : Nat
  stop : Raw
  tabs : Bool
  literal : Bool

/-- Where the reading of a script stands. -/
structure Reader where
  rest : Raw
  /-- whether the script is in the rich dialect -/
  rich : Bool := false
  /-- whether patterns may hold groups -/
  groups : Bool := false
  line : Nat := 1
  /-- the last token, and whether it is to be read again -/
  last : Token := .eof
  again : Bool := false
  check : Check := {}
  aliases : List (Raw × Raw) := []
  /-- the aliases whose text is being read, and how much is left behind each text -/
  inside : List (Raw × Nat) := []
  /-- how much is left behind each text of an alias that ends in a blank -/
  opens : List Nat := []
  pending : List Pending := []
  /-- the texts between lines by their numbers, as far as they are known from a first reading -/
  known : List (Nat × Word) := []
  found : List (Nat × Word) := []
  texts : Nat := 0

abbrev Parser := StateT Reader (Except Fault)

namespace Lexer

/-! ### Characters -/

def fault {α : Type} (text : String) : Parser α := do
  throw ⟨(← get).line, text.toList, false⟩

/-- What was opened is not closed. -/
def unclosed {α : Type} (text : String) (close : Char) : Parser α := do
  let r ← get
  if r.rich then
    throw ⟨r.line, "unexpected EOF while looking for matching \x60".toList ++ [close, '\''], false⟩
  else fault text

/-- Takes the next character. -/
def next : Parser (Option Char) := fun r =>
  match r.rest with
  | [] => .ok (none, r)
  | c :: cs => .ok (some c, { r with rest := cs, line := if c = '\n' then r.line + 1 else r.line })

/-- A text without the lines that are joined at its start, and how many they are. -/
def joined : Raw → Raw × Nat
  | '\\' :: '\n' :: cs => ((joined cs).1, (joined cs).2 + 1)
  | cs => (cs, 0)

/-- Passes over a backslash and the end of a line. -/
def join : Parser Unit := modify fun r =>
  match r.rest with
  | '\\' :: '\n' :: _ =>
    let j := joined r.rest
    { r with rest := j.1, line := r.line + j.2 }
  | _ => r

/-- The next character, which is not taken. -/
def peek : Parser (Option Char) := do
  join
  return (← get).rest.head?

def drop : Parser Unit := do
  let _ ← next

/-- Takes a character if it comes next. -/
def accept (c : Char) : Parser Bool := do
  if (← peek) = some c then
    drop
    return true
  else return false

/-- Takes characters as long as they pass a test. -/
def takeWhile (p : Char → Bool) : Nat → Parser Raw
  | 0 => return []
  | n + 1 => do
    match ← peek with
    | some c =>
      if p c then
        drop
        return c :: (← takeWhile p n)
      else return []
    | none => return []

def size : Parser Nat := return (← get).rest.length + 2

/-! ### Words -/

/-- Where the parts of a word stand. -/
inductive Place where
  /-- in a command, up to a blank or a sign -/
  | bare
  /-- the last line of a text to come -/
  | stop
  /-- between double quotes -/
  | double
  /-- in a text between lines -/
  | here
  /-- behind the name of a parameter in braces: whether that is quoted, in a text between lines, and
  between further quotes -/
  | operand (quoted here inner : Bool)
  /-- in a sum, between so many parentheses -/
  | sum (depth : Nat)
  /-- in a part of what stands between braces, up to one of some signs or the closing brace -/
  | segment (ends : String)
  /-- in an index, between so many brackets -/
  | index (depth : Nat)
  /-- in an expression that is looked for, between so many parentheses -/
  | regex (depth : Nat)
  /-- in a group of a pattern, between so many parentheses -/
  | group (depth : Nat)
deriving DecidableEq, Repr

namespace Place

def isQuoted : Place → Bool
  | .bare | .stop | .operand false _ _ | .segment _ | .index _ | .regex _ | .group _ => false
  | _ => true

/-- The characters that a backslash hides where not every one is. -/
def hides (p : Place) (c : Char) : Bool :=
  "$`\\".contains c || match p with
    | .here => false
    | .operand _ _ inner => c = '"' || c = '}' && !inner
    | _ => c = '"'

/-- The place behind the name of a parameter. -/
def inner : Place → Place
  | .bare | .stop | .segment _ | .index _ | .regex _ | .group _ => .operand false false false
  | .here => .operand true true false
  | .operand quoted between _ => .operand quoted between false
  | .double | .sum _ => .operand true false false

/-- What is missing at the end of a script. -/
def unclosed : Place → Option String
  | .bare | .stop | .here => none
  | .double | .operand true false _ => some "Unterminated quoted string"
  | .operand _ _ _ => some "Missing '\x7d'"
  | .sum _ => some "Missing '))'"
  | .segment _ | .index _ | .regex _ | .group _ => some "Missing '\x7d'"

/-- What would close a place. -/
def closer : Place → Char
  | .operand _ _ _ | .segment _ => '\x7d'
  | .sum _ | .regex _ | .group _ => ')'
  | .index _ => ']'
  | _ => '"'

/-- Whether a character that is not taken ends the parts at a place. -/
def endsAt (p : Place) (c : Char) : Bool :=
  match p with
  | .segment ends => c = '}' || ends.contains c
  | .index 0 => c = ']'
  | .regex 0 => c = ' ' || c = '\t' || c = '\n' || c = ')'
  | .group 0 => c = ')'
  | _ => false

/-- The place behind a character that opens or closes something at this one. -/
def behind (p : Place) (c : Char) : Place :=
  match p, c with
  | .index d, '[' => .index (d + 1)
  | .index d, ']' => .index (d - 1)
  | .regex d, '(' => .regex (d + 1)
  | .regex d, ')' => .regex (d - 1)
  | .group d, '(' => .group (d + 1)
  | .group d, ')' => .group (d - 1)
  | p, _ => p

/-- Characters that are looked at one by one. -/
def watches (p : Place) (c : Char) : Bool :=
  p.endsAt c || match p with
    | .index _ => c = '[' || c = ']'
    | _ => false

end Place

/-- Characters that end a word. -/
def isMeta (c : Char) : Bool := " \t\n;&|<>()".contains c

def isOrdinary (c : Char) : Bool := !isMeta c && !"\\'\"$`\x7d".contains c

def isSpecial (c : Char) : Bool := "@*#?-$!".contains c || c.isDigit

/-- The text up to a single quote. -/
def single : Nat → Parser Raw
  | 0 => unclosed "Unterminated quoted string" '\''
  | n + 1 => do
    match ← next with
    | none => unclosed "Unterminated quoted string" '\''
    | some '\'' => return []
    | some c => return c :: (← single n)

/-- The text up to a back quote. A backslash hides some characters. -/
def backQuoted (quoted : Bool) : Nat → Parser Raw
  | 0 => unclosed "EOF in backquote substitution" '\x60'
  | n + 1 => do
    join
    match ← next with
    | none => unclosed "EOF in backquote substitution" '\x60'
    | some '`' => return []
    | some '\\' =>
      match ← next with
      | none => unclosed "EOF in backquote substitution" '\x60'
      | some c =>
        let rest ← backQuoted quoted n
        return if c = '\\' || c = '`' || c = '$' || quoted && c = '"' then c :: rest
          else '\\' :: c :: rest
    | some c => return c :: (← backQuoted quoted n)

/-- How a parameter between braces is used, as far as its sign tells. -/
inductive Start where
  | whole (use : Use)
  | offer (sign : Char) (colon : Bool)
  | trim (atEnd longest : Bool)
  | unknown

/-- The name of a parameter between braces, and its sign. -/
def braced : Parser (Raw × Start) := do
  let n ← size
  let named : Parser Raw := do
    match ← peek with
    | some c =>
      if isNameStart c then takeWhile isNameChar n
      else if c.isDigit then takeWhile Char.isDigit n
      else return []
    | none => return []
  let behind (name : Raw) : Parser (Raw × Start) := do
    match ← peek with
    | some '}' =>
      drop
      return (name, .whole .value)
    | some '%' =>
      drop
      return (name, .trim true (← accept '%'))
    | some '#' =>
      drop
      return (name, .trim false (← accept '#'))
    | some ':' =>
      drop
      match ← peek with
      | some c =>
        if "-+?=".contains c then
          drop
          return (name, .offer c true)
        else return (name, .unknown)
      | none => return (name, .unknown)
    | some c =>
      if "-+?=".contains c then
        drop
        return (name, .offer c false)
      else
        drop
        return (name, .unknown)
    | none => return (name, .unknown)
  let name ← named
  if name ≠ [] then behind name
  else match ← peek with
    | none | some '}' => return ([], .unknown)
    | some '#' =>
      drop
      let name ← named
      if name ≠ [] then
        if ← accept '}' then return (name, .whole .length) else return (name, .unknown)
      else
        let r ← get
        match (joined r.rest).1 with
        | c :: '}' :: _ =>
          if c = '}' then behind ['#']
          else
            drop
            if isSpecial c then
              drop
              return ([c], .whole .length)
            else return ([], .unknown)
        | _ => behind ['#']
    | some c =>
      if isSpecial c then
        drop
        behind [c]
      else return ([], .unknown)

/-- Reads commands inside a word: up to a closing parenthesis, or all that there are. -/
abbrev Nested := Bool → Parser Command

variable (nested : Nested)

/-- Reads the commands of a text of its own. -/
def commandsOf (text : Raw) : Parser Command := fun r =>
  match nested false { r with rest := text, line := 1 } with
  | .error f => .error f
  | .ok (c, s) => .ok (c, { r with found := s.found, texts := s.texts })

/-! ### Words of the rich dialect -/

/-- The text between quotes in which letters behind backslashes stand for bytes. -/
def escaped : Nat → Parser Raw
  | 0 => fault "Unterminated quoted string"
  | n + 1 => do
    let digits (base most : Nat) (p : Nat → Raw) : Parser Raw := do
      let r ← get
      let ds := (r.rest.take most).takeWhile (Numeral.isDigit base)
      set { r with rest := r.rest.drop ds.length }
      return p (Numeral.ofDigits base ds) ++ (← escaped n)
    match ← next with
    | none => fault "Unterminated quoted string"
    | some '\'' => return []
    | some '\\' =>
      match ← next with
      | none => fault "Unterminated quoted string"
      | some c =>
        match escapes.lookup c with
        | some b => return Char.ofNat b :: (← escaped n)
        | none =>
          if Numeral.isDigit 8 c then
            modify fun r => { r with rest := c :: r.rest }
            digits 8 3 fun b => [Raw.byte b]
          else if c = 'x' then digits 16 2 fun b => [Raw.byte b]
          else if c = 'u' || c = 'U' then
            digits 16 (if c = 'u' then 4 else 8) fun b =>
              if b < 128 then [Char.ofNat b]
              else ['\\', c] ++ Numeral.padZeros (if c = 'u' then 4 else 8)
                ((Numeral.natText 16 b).map Char.toUpper)
          else if c = 'c' then
            match ← next with
            | some d => return Char.ofNat (d.toUpper.toNat % 32) :: (← escaped n)
            | none => fault "Unterminated quoted string"
          else return '\\' :: c :: (← escaped n)
    | some c => return c :: (← escaped n)
where
  escapes : List (Char × Nat) := [('a', 7), ('b', 8), ('e', 27), ('E', 27), ('f', 12), ('n', 10),
    ('r', 13), ('t', 9), ('v', 11), ('\\', 92), ('\'', 39), ('"', 34), ('?', 63)]

/-- A name, or digits. -/
def parameterName : Parser Raw := do
  match ← peek with
  | some c =>
    if isNameStart c then takeWhile isNameChar (← size)
    else if c.isDigit then takeWhile Char.isDigit (← size)
    else return []
  | none => return []

variable (word : Place → Parser Word)

/-- Takes the brace behind a parameter. -/
def closeBrace (use : Use) : Parser Use := do
  if ← accept '}' then return use else fault "bad substitution"

/-- What is made of a parameter, up to the closing brace. -/
def richUse (p : Place) : Parser Use := do
  let some c ← peek | unclosed "Missing '\x7d'" '\x7d'
  drop
  let trim (atEnd : Bool) : Parser Use := do
    let longest ← accept c
    return .trim atEnd longest (← word (.operand false false false))
  let offer (sign : Char) (colon : Bool) : Parser Use := do
    return .offer sign colon (← word p.inner)
  match c with
  | '}' => return .value
  | '%' => trim true
  | '#' => trim false
  | '-' | '+' | '?' | '=' => offer c false
  | ':' =>
    match ← peek with
    | some d =>
      if "-+?=".contains d then
        drop
        offer d true
      else
        let start ← word (.segment ":")
        if ← accept ':' then closeBrace (.slice start (some (← word (.segment ""))))
        else closeBrace (.slice start none)
    | none => unclosed "Missing '\x7d'" '\x7d'
  | '/' =>
    let scope ← do
      if ← accept '/' then pure Scope.all
      else if ← accept '#' then pure .start
      else if ← accept '%' then pure .stop
      else pure .first
    let isSlash ← if scope matches .all then accept '/' else pure false
    let pattern ← word (.segment "/")
    let pattern := if isSlash then (Part.text false ['/']).join pattern else pattern
    let new ← if ← accept '/' then word (.segment "") else pure []
    closeBrace (.replace scope pattern new)
  | '^' | ',' | '~' =>
    let all ← accept c
    closeBrace (.letters c all (← word (.segment "")))
  | '@' =>
    match ← next with
    | some op => closeBrace (.transform op)
    | none => unclosed "Missing '\x7d'" '\x7d'
  | _ =>
    let _ ← word p.inner
    return .unknown

/-- The index behind a name, if there is one. -/
def indexOf (name : Raw) : Parser (Option Word) := do
  if isName name then
    if ← accept '[' then
      let index ← word (.index 0)
      drop
      return some index
    else return none
  else return none

def asPart (quoted : Bool) (name : Raw) (index : Option Word) (use : Use) : Part :=
  match index with
  | some i => .element quoted name i use
  | none => .parameter quoted name use

/-- A parameter between braces, behind the opening one. -/
def richBraces (quoted : Bool) (p : Place) : Parser Part := do
  let rest := (joined (← get).rest).1
  let follows := fun (n : Nat) => rest[n]?.getD '}'
  match ← peek with
  | some '!' =>
    let isSign := "@*".contains (follows 1) || follows 1 = '#' && follows 2 = '\x7d'
    if isNameStart (follows 1) || (follows 1).isDigit || isSign then
      drop
      let name ← parameterName
      let name ← if name = [] then (do return (← next).toList) else pure name
      let index ← indexOf word name
      match ← peek, index with
      | some '@', none | some '*', none =>
        let joined := (← peek) = some '*'
        let after := (joined' (← get).rest)
        if after = some '}' then
          drop
          drop
          return .parameter quoted name (.names joined)
        else return .parameter quoted name (.indirect (← richUse word p))
      | some '}', some i =>
        drop
        if Word.bare? i = some ['@'] || Word.bare? i = some ['*'] then
          return .element quoted name i .keys
        else return .element quoted name i (.indirect .value)
      | _, _ => return asPart quoted name index (.indirect (← richUse word p))
    else plain ['!']
  | some '#' =>
    if follows 1 = '}' || ("-+?=:%#/".contains (follows 1) && follows 2 ≠ '}') then plain ['#']
    else
      drop
      let name ← parameterName
      let name ← if name = [] then (do return (← next).toList) else pure name
      let index ← indexOf word name
      if ← accept '}' then return asPart quoted name index .length
      else
        let _ ← word p.inner
        return .parameter quoted name .unknown
  | some c =>
    let name ← parameterName
    if name = [] then
      if isSpecial c then plain [c]
      else
        let _ ← word p.inner
        return .parameter quoted [] .unknown
    else
      let index ← indexOf word name
      return asPart quoted name index (← richUse word p)
  | none => unclosed "Missing '\x7d'" '\x7d'
where
  plain (name : Raw) : Parser Part := do
    drop
    return .parameter quoted name (← richUse word p)
  joined' (r : Raw) : Option Char := (joined r).1[1]?

/-- Whether a part stands for several values that stay apart. -/
def staysApart : Part → Bool
  | .parameter _ _ (.names joined) => !joined
  | .parameter _ ['@'] (.indirect _) | .parameter _ _ .length | .element _ _ _ .length => false
  | .parameter _ name _ => name = ['@']
  | .element _ _ index _ => Word.bare? index = some ['@']
  | _ => false

/-- What stands between double quotes. It makes a field, unless it is the arguments alone. -/
def quotedParts (rich : Bool) (w : Word) : Word :=
  match w with
  | [.parameter true ['@'] .value] => w
  | _ => if rich && w.any staysApart then w else (Part.text true []).join w

/-- The parts of a word. The sign that ends them is taken, unless the word is bare. The flag tells
whether any of it was quoted. -/
def parts : Nat → Place → Parser (Word × Bool)
  | 0, _ => fault "Unterminated quoted string"
  | n + 1, p => do
    let quoted := p.isQuoted
    let more (part : Part) (q : Place) (marked : Bool) : Parser (Word × Bool) := do
      let r ← parts n q
      return (part.join r.1, marked || r.2)
    match ← peek with
    | none =>
      match p.unclosed with
      | none => return ([], false)
      | some text => Lexer.unclosed text p.closer
    | some c =>
      let r ← get
      let opens := r.rest.tail.head? = some '('
      if p = .bare && r.rich && opens && (c = '<' || c = '>') then
        drop
        drop
        more (.process (c = '<') (← nested true)) p false
      else if (p = .bare || p = .stop) && isMeta c then return ([], false)
      else if p.endsAt c then return ([], false)
      else if isOrdinary c && !p.watches c then
        let text := r.rest.takeWhile fun c => isOrdinary c && !p.watches c
        modify fun r => { r with rest := r.rest.drop text.length }
        let isGroup := r.groups && p = .bare && (text.getLast?.any fun c => "?*+@!".contains c)
        if isGroup && (← peek) = some '(' then
          drop
          let inside ← parts n (.group 0)
          drop
          let r ← parts n p
          let w := (Part.text false (text ++ ['('])).join
            (inside.1 ++ (Part.text false [')']).join r.1)
          return (w, inside.2 || r.2)
        else more (.text quoted text) p false
      else
        drop
        match c with
        | '\\' =>
          match ← next with
          | none => more (.text true ['\\']) p true
          | some d =>
            if !quoted || p.hides d then more (.text true [d]) p true
            else more (.text true ['\\', d]) p true
        | '\'' =>
          if quoted then more (.text true [c]) p false
          else more (.text true (← single (← size))) p true
        | '"' =>
          match p with
          | .double => return ([], true)
          | .here | .sum _ => more (.text true [c]) p false
          | .operand true here inner => more (.text true []) (.operand true here !inner) true
          | _ => do
            let inside ← parts n .double
            let r ← parts n p
            return (quotedParts (← get).rich inside.1 ++ r.1, true)
        | '}' =>
          match p with
          | .operand _ _ false => return ([], false)
          | _ => more (.text quoted [c]) p false
        | '(' =>
          match p with
          | .sum depth => more (.text true [c]) (.sum (depth + 1)) false
          | _ => more (.text quoted [c]) (p.behind c) false
        | ')' =>
          match p with
          | .sum 0 => if ← accept ')' then return ([], false) else more (.text true [c]) p false
          | .sum (depth + 1) => more (.text true [c]) (.sum depth) false
          | _ => more (.text quoted [c]) (p.behind c) false
        | '`' =>
          if p = .stop then more (.text true [c]) p true
          else
            let text ← backQuoted quoted (← size)
            more (.command quoted (← commandsOf nested text)) p false
        | '$' =>
          let rich := r.rich
          let isNext := fun (c : Char) => r.rest.tail.head? = some c
          if p = .stop then more (.text false [c]) p false
          else if rich && !quoted && isNext '\'' then
            drop
            more (.text true (← escaped (← size))) p true
          else if rich && !quoted && isNext '"' then parts n p
          else if rich && isNext '{' then
            drop
            more (← richBraces (fun q => do return (← parts n q).1) quoted p) p false
          else if ← accept '(' then
            if ← accept '(' then more (.arithmetic quoted (← parts n (.sum 0)).1) p false
            else more (.command quoted (← nested true)) p false
          else if ← accept '{' then
            match ← braced with
            | (name, .whole use) => more (.parameter quoted name use) p false
            | (name, .offer sign colon) => do
              let w ← parts n p.inner
              more (.parameter quoted name (.offer sign colon w.1)) p false
            | (name, .trim atEnd longest) => do
              let w ← parts n (.operand false false false)
              more (.parameter quoted name (.trim atEnd longest w.1)) p false
            | (name, .unknown) => do
              let _ ← parts n p.inner
              more (.parameter quoted name .unknown) p false
          else match ← peek with
            | some d =>
              if isNameStart d then
                more (.parameter quoted (← takeWhile isNameChar (← size)) .value) p false
              else if isSpecial d then do
                drop
                more (.parameter quoted [d] .value) p false
              else more (.text quoted [c]) p false
            | none => more (.text quoted [c]) p false
        | _ => more (.text quoted [c]) (p.behind c) false

/-! ### Texts between lines -/

/-- Whether a line ends in a backslash that hides its end. -/
def isContinued (line : Raw) : Bool := (line.reverse.takeWhile (· = '\\')).length % 2 = 1

/-- The lines of a text up to its last line, what follows, and how many lines were read. A line that
continues another is never the last. -/
def hereLines (h : Pending) : Nat → Bool → Raw → Raw × Raw × Nat
  | 0, _, cs => ([], cs, 0)
  | _, _, [] => ([], [], 0)
  | n + 1, continued, cs =>
    let line := cs.takeWhile (· ≠ '\n')
    let rest := cs.drop line.length
    let ended := rest ≠ []
    let line := if h.tabs && !continued then line.dropWhile (· = '\t') else line
    if !continued && line = h.stop then ([], rest.drop 1, if ended then 1 else 0)
    else
      let r := hereLines h n (!h.literal && isContinued line) (rest.drop 1)
      (line ++ (if ended then ['\n'] else []) ++ r.1, r.2.1, r.2.2 + if ended then 1 else 0)

/-- Reads the texts that the line asked for. -/
def documents : List Pending → Parser Unit
  | [] => return
  | h :: hs => do
    let r ← get
    let text := hereLines h r.rest.length false r.rest
    let after := { r with rest := text.2.1, line := r.line + text.2.2 }
    if h.literal then
      set { after with found := (h.number, [Part.text true text.1]) :: after.found }
    else
      set { after with rest := text.1 }
      let w ← parts nested (text.1.length + 2) .here
      modify fun r => { r with
        rest := text.2.1, line := after.line, found := (h.number, w.1) :: r.found }
    documents hs

def readDocuments : Parser Unit := do
  let hs := (← get).pending
  modify fun r => { r with pending := [] }
  documents nested hs

/-! ### Tokens -/

def arrow (c : Char) : Parser Arrow := do
  drop
  if c = '>' then
    if ← accept '>' then return .plain .append
    else if ← accept '|' then return .plain .clobber
    else if ← accept '&' then return .plain .copy
    else return .plain .output
  else if ← accept '<' then
    if (← get).rich then
      if ← accept '<' then return .plain .line
    return .here (← accept '-')
  else if ← accept '&' then return .plain .copy
  else if ← accept '>' then return .plain .both
  else return .plain .input

/-- A word, or a redirection of the stream whose number the word is. -/
def wordToken (stop : Bool) : Parser Token := do
  let (w, quoted) ← parts nested (2 * (← size)) (if stop then .stop else .bare)
  let rich := (← get).rich
  let digit := match w with
    | [] => some none
    | [.text false ds] =>
      if ds.all Char.isDigit && (rich || ds.length = 1) then some (some (Numeral.ofDigits 10 ds))
      else none
    | _ => none
  match digit, quoted, ← peek with
  | some stream, false, some c =>
    if c = '<' || c = '>' then
      return .redirect (stream.getD (if c = '<' then 0 else 1)) (← arrow c)
    else return .word w quoted
  | _, _, _ => return .word w quoted

/-- The next token, before it is looked at what it means. -/
def rawToken (stop : Bool) : Nat → Parser Token
  | 0 => return .eof
  | n + 1 => do
    let rich := (← get).rich
    let signs := fun (c : Char) (twice once : String) => do
      drop
      if ← accept c then return Token.sign twice else return .sign once
    match ← peek with
    | none => return .eof
    | some ' ' | some '\t' =>
      drop
      rawToken stop n
    | some '#' =>
      modify fun r => { r with rest := r.rest.dropWhile (· ≠ '\n') }
      rawToken stop n
    | some '\n' =>
      drop
      return .newline
    | some '&' =>
      let both := rich && (← get).rest.tail.head? = some '>'
      if both then
        drop
        drop
        return .redirect 1 (.both (← accept '>'))
      else signs '&' "&&" "&"
    | some '|' =>
      let t ← signs '|' "||" "|"
      if rich && t.isSign "|" then
        if ← accept '&' then return .sign "|&"
      return t
    | some ';' =>
      let t ← signs ';' ";;" ";"
      if rich then
        if ← accept '&' then return if t.isSign ";;" then .sign ";;&" else .sign ";&"
      return t
    | some '(' =>
      drop
      return .sign "("
    | some ')' =>
      drop
      return .sign ")"
    | _ => wordToken nested stop

/-- Words that are keywords in the rich dialect only. -/
def richReserved : List String := ["[[", "function", "time"]

def reserved : List String := [
  "!", "\x7b", "\x7d", "case", "do", "done", "elif", "else", "esac", "fi", "for", "if", "in",
  "then", "until", "while"]

/-- Leaves the texts of aliases that were read to their ends. -/
def leaveAliases : Parser Unit := modify fun r =>
  { r with inside := r.inside.filter fun a => a.2 ≤ r.rest.length }

/-- Puts the text of an alias in the place of its name. -/
def pushAlias (name text : Raw) : Parser Unit := modify fun r => { r with
  rest := text ++ r.rest, inside := (name, r.rest.length) :: r.inside
  opens := if text.getLast?.any fun c => c = ' ' || c = '\t' then r.rest.length :: r.opens
    else r.opens }

/-- The next token: a word may be a keyword, or the name of an alias. -/
def readToken : Nat → Check → Parser Token
  | 0, _ => return .eof
  | n + 1, check => do
    let r ← get
    let before := r.rest.length
    let t ← if r.again then pure r.last else rawToken nested check.stop (before + 2)
    modify fun r => { r with again := false, last := t }
    match t with
    | .newline =>
      if check.newlines then
        readDocuments nested
        readToken n check
      else return t
    | .word w false =>
      match w.bare? with
      | none => return t
      | some name =>
        let keyword := String.ofList name
        let isReserved := reserved.contains keyword || r.rich && richReserved.contains keyword
        if check.keywords && isReserved then
          modify fun r => { r with last := .keyword keyword }
          return .keyword keyword
        else
          leaveAliases
          let s ← get
          let follows := s.opens.any fun n => n ≤ before && s.rest.length < n
          match s.aliases.lookup name with
          | some text =>
            if (check.aliases || follows) && !s.inside.any (·.1 = name) then
              pushAlias name text
              readToken n check
            else return t
          | none => return t
    | _ => return t

/-- The next token under what was asked for since the last one. -/
def token : Parser Token := do
  let r ← get
  set { r with check := {} }
  readToken nested (r.rest.length + 1000) r.check

def expecting (c : Check) : Parser Unit := modify fun r => { r with check := c }

/-- Lets the last token be read again. -/
def giveBack : Parser Unit := modify fun r => { r with again := true }

/-- The fault of the last token in the rich dialect. -/
def misplaced {α : Type} : Parser α := do
  let r ← get
  match r.last with
  | .eof => throw ⟨r.line + 1, "syntax error: unexpected end of file".toList, false⟩
  | t =>
    let line := if t matches .newline then r.line - 1 else r.line
    throw ⟨line, "syntax error near unexpected token \x60".toList ++ t.text ++ ['\''], true⟩

def unexpected {α : Type} : Parser α := do
  if (← get).rich then misplaced else fault ((← get).last.name ++ " unexpected")

def unexpectedFor {α : Type} (t : Token) : Parser α := do
  if (← get).rich then misplaced
  else fault ((← get).last.name ++ " unexpected (expecting " ++ t.name ++ ")")

end Lexer

end ServiceStack.Shell
