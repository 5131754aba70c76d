import ServiceStack.Text.Raw

/-!
Commands of the shell as they are read: words, which are made of parts, redirections, and the ways
to put commands together. A word may hold commands, whose output it stands for.

There are two dialects. The rich one has all that the plain one has, and tables of values,
conditions and sums as commands, and more that can be made of the value of a parameter.
-/

namespace ServiceStack.Shell

/-- How a stream is redirected. -/
inductive Mode where
  | input
  | output
  /-- as `output`, also to a file that must be kept -/
  | clobber
  | append
  | both
  /-- the word names a stream, or closes it -/
  | copy
  /-- the word is the text itself -/
  | here
  /-- the word and a line break are the text -/
  | line
deriving DecidableEq, Repr

structure RedirectOf (W : Type) where
  stream : Nat
  mode : Mode
  word : W

/-- Which parts of a value are replaced: the first that fits, all, or one at the start or the end.
-/
inductive Scope where
  | first
  | all
  | start
  | stop
deriving DecidableEq, Repr

mutual

/-- A part of a word. What is quoted is neither split nor a pattern. -/
inductive Part where
  | text (quoted : Bool) (s : Raw)
  | parameter (quoted : Bool) (name : Raw) (use : Use)
  | command (quoted : Bool) (c : Command)
  | arithmetic (quoted : Bool) (w : List Part)
  /-- a value of a table -/
  | element (quoted : Bool) (name : Raw) (index : List Part) (use : Use)
  /-- a path that leads to what a command writes, or to what it reads -/
  | process (reads : Bool) (c : Command)
  /-- values for a table, each behind the place that was named for it, if one was -/
  | list (items : List (List Part × List Part))
  /-- a value for one place of a table, or for a variable; it may be put behind the old one -/
  | given (index : List Part) (appends : Bool) (value : List Part)

/-- What is made of the value of a parameter. -/
inductive Use where
  | value
  | length
  /-- `-`, `=`, `?` or `+`; after a colon nothing counts as unset -/
  | offer (sign : Char) (colon : Bool) (word : List Part)
  | trim (atEnd longest : Bool) (pattern : List Part)
  /-- a part of the value, from some place on, perhaps of some length -/
  | slice (start : List Part) (size : Option (List Part))
  | replace (scope : Scope) (pattern new : List Part)
  /-- other letters: `^` for capitals, `,` for small ones, `~` for the other ones -/
  | letters (sign : Char) (all : Bool) (pattern : List Part)
  /-- as a letter behind an at sign asks for -/
  | transform (op : Char)
  /-- what is made of the parameter whose name is the value -/
  | indirect (use : Use)
  /-- the places of a table -/
  | keys
  /-- the names of all variables that begin like this, as one text or apart -/
  | names (joined : Bool)
  /-- not a use that there is -/
  | unknown

/-- A condition of words. -/
inductive Trial where
  | word (w : List Part)
  | unary (op : String) (w : List Part)
  | binary (op : String) (a b : List Part)
  | not (t : Trial)
  | and (a b : Trial)
  | or (a b : Trial)

inductive Command where
  | skip
  | simple (line : Nat) (assignments : List (Raw × List Part)) (words : List (List Part))
      (redirects : List (RedirectOf (List Part)))
  | pipe (stages : List Command) (waits : Bool)
  | not (c : Command)
  | and (a b : Command)
  | or (a b : Command)
  | sequence (a b : Command)
  | background (line : Nat) (c : Command) (redirects : List (RedirectOf (List Part)))
  | subshell (line : Nat) (c : Command) (redirects : List (RedirectOf (List Part)))
  | choice (test yes no : Command)
  | loop (inverted : Bool) (test body : Command)
  /-- without words, the arguments are gone through -/
  | each (line : Nat) (name : Raw) (words : Option (List (List Part))) (body : Command)
  | cases (line : Nat) (subject : List Part) (arms : List (List (List Part) × Command))
  | function (line : Nat) (name : Raw) (body : Command)
  | sum (line : Nat) (w : List Part)
  | trial (line : Nat) (t : Trial)
  /-- a loop that is governed by sums: at the start, before each round and behind it -/
  | counted (line : Nat) (first test next : List Part) (body : Command)
  /-- behind this arm of a choice the next one is run too, or the next one that fits -/
  | falls (again : Bool) (c : Command)
  /-- how long it takes is told -/
  | timed (c : Command)
  /-- a command in the background, with its text -/
  | labelled (text : Raw) (c : Command)
  | redirected (line : Nat) (c : Command) (redirects : List (RedirectOf (List Part)))

end

abbrev Word := List Part

abbrev Redirect := RedirectOf Word

instance : Inhabited Command := ⟨.skip⟩

/-- Puts a part before others. Texts of one kind become one. -/
def Part.join (p : Part) (ps : Word) : Word :=
  match p, ps with
  | .text q a, .text q' b :: rest => if q = q' then .text q (a ++ b) :: rest else p :: ps
  | _, _ => p :: ps

namespace Word

/-- The text of a word that is one unquoted text. -/
def bare? : Word → Option Raw
  | [.text false s] => some s
  | _ => none

/-- The text of a word without expansions. -/
def plain (w : Word) : Raw :=
  w.flatMap fun
    | .text _ s => s
    | _ => []

end Word

def isNameStart (c : Char) : Bool := c.isAlpha || c = '_'

def isNameChar (c : Char) : Bool := c.isAlphanum || c = '_'

def isName (x : Raw) : Bool := x.head?.any isNameStart && x.all isNameChar

/-- A word that gives a name a value, in the rich dialect. -/
def Word.givenValue? : Word → Option (Raw × Word)
  | .text false s :: rest =>
    let name := s.takeWhile isNameChar
    let after := s.drop name.length
    if !isName name then none
    else
      let put := fun (index : Word) (appends : Bool) (v : Raw) (rest : Word) =>
        some (name, [Part.given index appends (if v = [] then rest else .text false v :: rest)])
      match after with
      | '=' :: v => some (name, if v = [] then rest else .text false v :: rest)
      | '+' :: '=' :: v => put [] true v rest
      | '[' :: cs => go put (cs.length + rest.length + 1) 0 [] (.text false cs :: rest)
      | _ => none
  | _ => none
where
  /-- The index up to its closing bracket, and what stands behind it. -/
  go (put : Word → Bool → Raw → Word → Option (Raw × Word)) :
      Nat → Nat → Word → Word → Option (Raw × Word)
    | 0, _, _, _ | _, _, _, [] => none
    | n + 1, depth, index, .text false cs :: rest =>
      match close depth [] cs with
      | (depth, front, none) => go put n depth (index ++ [.text false front]) rest
      | (_, front, some after) =>
        let index := if front = [] then index else index ++ [.text false front]
        match after with
        | '=' :: v => put index false v rest
        | '+' :: '=' :: v => put index true v rest
        | _ => none
    | n + 1, depth, index, p :: rest => go put n depth (index ++ [p]) rest
  /-- The text up to the bracket that closes an index, and what follows that. -/
  close (depth : Nat) (front : Raw) : Raw → Nat × Raw × Option Raw
    | [] => (depth, front.reverse, none)
    | ']' :: cs =>
      if depth = 0 then (0, front.reverse, some cs) else close (depth - 1) (']' :: front) cs
    | c :: cs => close (if c = '[' then depth + 1 else depth) (c :: front) cs

/-- A word that gives a name a value. -/
def Word.assignment? : Word → Option (Raw × Word)
  | .text false s :: rest =>
    let name := s.takeWhile isNameChar
    match s.dropWhile isNameChar with
    | '=' :: v =>
      if isName name then some (name, if v = [] then rest else .text false v :: rest) else none
    | _ => none
  | _ => none

end ServiceStack.Shell
