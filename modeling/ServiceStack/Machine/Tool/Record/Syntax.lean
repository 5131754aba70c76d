import ServiceStack.Machine.Tool.Regex.Basic

/-!
Programs for records. A program has rules, and a rule has a pattern and an action: for each record
the actions are done whose patterns hold.
-/

namespace ServiceStack.Record

inductive Arithmetic where
  | add
  | subtract
  | multiply
  | divide
  | remainder
  | power
deriving DecidableEq, Repr

inductive Comparison where
  | less
  | atMost
  | equal
  | unequal
  | greater
  | atLeast
deriving DecidableEq, Repr

/-- What the language can do by itself. -/
inductive Builtin where
  | length | substr | index | split | sub | gsub | matchAt | sprintf
  | sin | cos | atan2 | exp | log | sqrt | int | rand | srand
  | tolower | toupper | system | close | flush | systime
deriving DecidableEq, Repr

inductive Expr where
  | number (x : Float)
  | text (t : Raw)
  /-- an expression for texts; alone it asks whether the record matches -/
  | pattern (r : Regex)
  /-- a variable of the program -/
  | shared (x : Raw)
  /-- a variable of the function, by its place -/
  | own (n : Nat)
  /-- the number of fields -/
  | count
  | field (n : Expr)
  | item (table : Expr) (keys : List Expr)
  /-- gives a value, which an operation may find from the old one -/
  | give (target : Expr) (op : Option Arithmetic) (value : Expr)
  /-- adds a number and stands for the value before or after that -/
  | step (target : Expr) (size : Float) (before : Bool)
  | negative (e : Expr)
  | positive (e : Expr)
  | not (e : Expr)
  | arithmetic (op : Arithmetic) (a b : Expr)
  | comparison (op : Comparison) (a b : Expr)
  | fits (a b : Expr)
  | both (a b : Expr)
  | either (a b : Expr)
  | choice (c a b : Expr)
  | joined (a b : Expr)
  | holds (table : Expr) (keys : List Expr)
  | call (f : Raw) (args : List Expr)
  | builtin (b : Builtin) (args : List Expr)
  /-- reads a record of the input, of a file, or of what a command writes -/
  | read (target : Option Expr)
  | readFile (target : Option Expr) (file : Expr)
  | readCommand (target : Option Expr) (command : Expr)
  /-- an expression between parentheses -/
  | enclosed (e : Expr)
deriving Inhabited

/-- Whether values can be given to an expression. -/
def Expr.isTarget : Expr → Bool
  | .shared _ | .own _ | .count | .field _ | .item _ _ => true
  | _ => false

/-- Where lines are written. -/
inductive Way where
  | file
  | append
  | command
deriving DecidableEq, Repr

abbrev Outlet := Option (Way × Expr)

inductive Statement where
  | block (body : List Statement)
  | expr (e : Expr)
  | print (es : List Expr) (out : Outlet)
  | printf (es : List Expr) (out : Outlet)
  | branch (c : Expr) (a : Statement) (b : Option Statement)
  /-- a loop: the condition, what comes behind each turn, the body, whether the first is free -/
  | loop (c : Option Expr) (next : Option Statement) (body : Statement) (free : Bool)
  /-- a body for each key of a table -/
  | each (target table : Expr) (body : Statement)
  | stop
  | goOn
  | next
  | nextFile
  | quit (code : Option Expr)
  | result (value : Option Expr)
  | delete (table : Expr) (keys : Option (List Expr))
deriving Inhabited

inductive Pattern where
  | always
  | start
  | finish
  | expr (e : Expr)
  /-- the records from one that fits up to one that fits another expression -/
  | range (a b : Expr)

/-- An action for some records. Without one of its own the record is written. -/
structure Rule where
  pattern : Pattern
  action : Option Statement

structure Function where
  name : Raw
  params : List Raw
  body : Statement

structure Program where
  rules : List Rule := []
  functions : List Function := []

end ServiceStack.Record
