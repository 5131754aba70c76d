import ServiceStack.Machine.Tool.Record.Run

/-!
How a program for records is started: its text stands in a word or in files, and variables can be
given before it runs.
-/

namespace ServiceStack.Record

variable (perform : Launch.Performer) (c : Call)

/-- What the options say. -/
structure Wishes where
  files : List Raw := []
  separator : Option Raw := none
  given : List (Raw × Raw) := []

/-- The options in front of the words, and the words; or what is told of an option. -/
def wishes : Nat → Wishes → List Raw → Except Raw (Wishes × List Raw)
  | 0, w, args => .ok (w, args)
  | n + 1, w, args =>
    match args with
    | ['-', '-'] :: rest => .ok (w, rest)
    | ('-' :: o :: value) :: rest =>
      if "Fvf".contains o then
        let taken : Option (Raw × List Raw) :=
          if value ≠ [] then some (value, rest)
          else match rest with
            | v :: rest => some (v, rest)
            | [] => none
        match taken with
        | none => .error ("option -".toList ++ o :: " lacks argument".toList)
        | some (v, rest) =>
          match o with
          | 'F' => wishes n { w with separator := some (unescaped v) } rest
          | 'f' => wishes n { w with files := w.files ++ [v] } rest
          | _ =>
            match assignment? v with
            | some x => wishes n { w with given := w.given ++ [x] } rest
            | none => .error ("improper assignment: -v ".toList ++ v)
      else if o = 'W' then wishes n w (if value = [] then rest.tail else rest)
      else .error ("not an option: -".toList ++ o :: value)
    | _ => .ok (w, args)

def Fault.text (f : Fault) (line : Nat) : Raw :=
  let place := "line ".toList ++ Numeral.natText 10 line ++ ": ".toList
  match f with
  | .runaway what t => place ++ "runaway ".toList ++ what.toList ++ " ".toList ++
      (if what = "string constant" then ['"'] else ['/']) ++ t.take 10 ++ " ...".toList
  | .near t => place ++ "syntax error at or near ".toList ++ t
  | .pattern f t => place ++ "regular expression compile failed (".toList ++ faultText f ++
      ")\n".toList ++ t
  | .told text => place ++ text.toList

/-- The variables at the start. -/
def firstValues (args : List Raw) : Work Unit := do
  let texts : List (String × String) := [
    ("FS", " "), ("OFS", " "), ("ORS", "\n"), ("RS", "\n"), ("OFMT", "%.6g"),
    ("CONVFMT", "%.6g"), ("SUBSEP", "\x1c"), ("FILENAME", "")]
  for (x, t) in texts do
    setValue x (.text t.toList)
  for x in ["NR", "FNR", "RSTART"] do
    setValue x (.number 0)
  setValue "RLENGTH" (.number (-1))
  let words := args.zipIdx.foldl (fun (t : Table) (a, n) =>
    t.set ⟨Numeral.natText 10 n, some n⟩ (.input a)) {}
  let n ← newTable words
  setSlot (.shared "ARGV".toList) (.table n)
  setValue "ARGC" (.ofNat args.length)
  let shown := c.environment.foldl (fun (t : Table) (x, v) => t.set ⟨x, none⟩ (.input v)) {}
  let n ← newTable shown
  setSlot (.shared "ENVIRON".toList) (.table n)

/-- The text of a program, from files or from the first word, and the words that are left. -/
def programText (w : Wishes) (args : List Raw) : Act (Except Raw (Raw × List Raw)) := do
  match w.files, args with
  | [], [] => return .error []
  | [], t :: rest => return .ok (t, rest)
  | files, args =>
    let texts ← files.mapM fun f => do
      if f = ['-'] then return (f, ← Act.readAll 0) else return (f, ← Act.readFile f)
    match texts.find? fun t => !t.2.toBool with
    | some (f, .error e) =>
      return .error ("cannot open \"".toList ++ f ++ "\" (".toList ++ e.text.toList ++ [')'])
    | _ =>
      let parts := texts.filterMap fun t => t.2.toOption
      return .ok (['\n'].intercalate parts, args)

def awk : Act Nat := do
  let self := (c.program.reverse.takeWhile (· ≠ '/')).reverse
  let told (text : Raw) : Act Nat := do
    Notice.warn (self ++ ": ".toList ++ text)
    return 2
  match wishes (c.args.length + 1) {} c.args with
  | .error text => told text
  | .ok (w, args) =>
    match ← programText w args with
    | .error [] => return 0
    | .error text => told text
    | .ok (text, args) =>
      match Program.ofText text with
      | .error (f, line) => told (f.text line)
      | .ok program =>
        let g : Setting := { self, perform, environment := c.environment, program }
        let body : Work Unit := do
          firstValues c (self :: args)
          if let some t := w.separator then
            give g "FS".toList (.input t)
          for (x, v) in w.given do
            give g x (.input v)
          runProgram g
        let r ← body.run.run {}
        return r.2.code

end ServiceStack.Record
