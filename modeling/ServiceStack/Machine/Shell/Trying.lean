import ServiceStack.Machine.Shell.Giving
import ServiceStack.Machine.Tool.Condition
import ServiceStack.Machine.Tool.Regex.Grammar

/-!
Conditions of the rich dialect: the builtin that gets them as words, and those that are commands,
whose words are neither split nor taken for files.
-/

namespace ServiceStack.Shell

/-! ### Conditions on what the shell knows -/

/-- Whether an option is set that is named. -/
def isOptionOn (name : Raw) (s : State) : Bool :=
  match (richOptionNames.lookup (String.ofList name)).join with
  | some c => s.options.contains c
  | none => s.extras.contains (String.ofList name)

/-- Whether there is a value at the place that a text spells. -/
def isGivenText (text : Raw) (s : State) : Bool :=
  match spelled text with
  | (x, none) => if isName x then (cell? { name := x } s).isSome else false
  | (x, some i) =>
    let i := i.plain
    if i = ['@'] || i = ['*'] then rows x s ≠ []
    else match (Sum.key x i s).1 with
      | .ok (some key) => (cell? ⟨x, some key⟩ s).isSome
      | _ => false

def richTerms (scene : Scene) (s : State) : Condition.Terms where
  isUnary op := Condition.isUnary (String.ofList op) ||
    ["-a", "-o", "-v", "-N", "-R"].contains (String.ofList op)
  isBinary op := Condition.isBinary (String.ofList op) ||
    ["==", "<", ">"].contains (String.ofList op)
  unary op a := match String.ofList op with
    | "-a" => Condition.unary scene "-e" a
    | "-o" => .ok (isOptionOn a s)
    | "-v" => .ok (isGivenText a s)
    | "-R" => .ok ((variableOf? a s).any (·.traits.contains 'n'))
    | "-N" | "-t" => .ok false
    | op => Condition.unary scene op a
  binary a op b := do
    if ["-eq", "-ne", "-gt", "-ge", "-lt", "-le"].contains (String.ofList op) then
      let _ ← Condition.number false a
      let _ ← Condition.number false b
    Condition.binary scene true a (String.ofList op) b
  pairFault a := .unaryExpected a

/-- What the rich shell says of a fault. -/
def richFault : Condition.Fault → Raw
  | .missingBracket => "missing \x60]'".toList
  | .missing | .argumentExpected _ => "argument expected".toList
  | .unexpected _ => "too many arguments".toList
  | .badNumber a => a ++ ": integer expression expected".toList
  | .unclosed => "\x60)' expected".toList
  | .found a => "\x60)' expected, found ".toList ++ a
  | .unaryExpected a => a ++ ": unary operator expected".toList
  | .binaryExpected a => a ++ ": binary operator expected".toList

/-- The builtin, which under one of its names ends with a bracket. -/
def richTest (bracket : Bool) (args : List Raw) : Sh Nat := do
  let refuse (f : Condition.Fault) : Sh Nat := do
    complain (richFault f)
    return 2
  if bracket && args.getLast? ≠ some [']'] then return (← refuse .missingBracket)
  let words := if bracket then args.dropLast else args
  match Condition.holds (richTerms (← act Act.look) (← get)) words with
  | .ok b => return if b then 0 else 1
  | .error f => refuse f

/-! ### Conditions that are commands -/

variable (k : Hooks Item)

/-- The number of a condition, whose mistake makes it fail. -/
def trialNumber (w : Word) : Sh (Option Int) := do
  match ← workOut (← wordText k w) with
  | .ok n => return some n
  | .error (.unset x) => refuseSum (.unset x)
  | .error f => do
    complain ("[[: ".toList ++ f.message)
    return none

/-- The text of an expression that is looked for. What was quoted stands for itself. -/
def regexText (gs : List Glyph) : Raw :=
  gs.flatMap fun g =>
    if g.2 && "\\^$.[]|()*+?\x7b\x7d".contains g.1 then ['\\', g.1] else [g.1]

/-- Looks for an expression, and keeps what its groups took. -/
def seekRegex (text : Raw) (gs : List Glyph) : Sh Nat := do
  match Regex.read .extendedRefusing (regexText gs) with
  | .error _ => return 2
  | .ok (r, groups) =>
    let mode : Regex.Mode := { fold := (← get).extras.contains "nocasematch" }
    let found := Regex.search mode r (Regex.Spot.start text)
    let values := match found with
      | some (a, b) =>
        a.upTo b :: (List.range groups).map fun n => (b.groups.lookup (n + 1)).getD []
      | none => []
    modify fun s => replace "BASH_REMATCH".toList (some { table := some (Table.ofValues values) }) s
    return if found.isSome then 0 else 1

def fitsPattern (text : Raw) (gs : List Glyph) : Sh Bool := do
  let s ← get
  let y : Pattern.Style := { caret := true, groups := true }
  if s.extras.contains "nocasematch" then
    return Pattern.isMatch y (gs.map fun g => (g.1.toLower, g.2)) (text.map Char.toLower)
  else return Pattern.isMatch y gs text

def ofBool (b : Bool) : Nat := if b then 0 else 1

/-- The status of a condition: 0 if it holds, 1 if not, 2 if it is malformed. -/
def tryOut : Trial → Sh Nat
  | .word w => return ofBool ((← wordText k w) ≠ [])
  | .not t => do return if (← tryOut t) = 0 then 1 else 0
  | .and a b => do
    let r ← tryOut a
    if r = 0 then tryOut b else return r
  | .or a b => do
    if (← tryOut a) = 0 then return 0 else tryOut b
  | .unary op w => do
    let text ← wordText k w
    match (richTerms (← act Act.look) (← get)).unary op.toList text with
    | .ok b => return ofBool b
    | .error f => do
      complain ("[[: ".toList ++ richFault f)
      return 2
  | .binary op a b => do
    let text ← wordText k a
    if op = "=~" then seekRegex text (← wordPattern k b)
    else if op = "=" || op = "==" then return ofBool (← fitsPattern text (← wordPattern k b))
    else if op = "!=" then return ofBool (!(← fitsPattern text (← wordPattern k b)))
    else if ["-eq", "-ne", "-lt", "-le", "-gt", "-ge"].contains op then
      match ← trialNumber k a with
      | none => return 1
      | some m =>
        match ← trialNumber k b with
        | none => return 1
        | some n =>
          let holds : Bool := match op with
            | "-eq" => m = n
            | "-ne" => m ≠ n
            | "-lt" => m < n
            | "-le" => m ≤ n
            | "-gt" => n < m
            | _ => n ≤ m
          return ofBool holds
    else
      match Condition.binary (← act Act.look) true text op (← wordText k b) with
      | .ok r => return ofBool r
      | .error _ => return 2

end ServiceStack.Shell
