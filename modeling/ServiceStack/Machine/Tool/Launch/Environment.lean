import ServiceStack.Machine.Tool.Launch.Basic

/-!
A command in another environment: with other variables, in another directory, or deaf to some
signals.
-/

namespace ServiceStack.Launch

variable (perform : Performer) (c : Call)

/-! ### Words in one word -/

/-- The name in braces at the start of a text, and what follows. -/
def bracedName? : Raw → Option (Raw × Raw)
  | '\x7b' :: d :: cs =>
    let name := (d :: cs).takeWhile fun c => c.isAlphanum || c = '_'
    match (d :: cs).drop name.length with
    | '\x7d' :: rest => if d.isAlpha || d = '_' then some (name, rest) else none
    | _ => none
  | _ => none

/-- What some letters behind a backslash stand for. -/
def marks : List (Char × Char) :=
  [('f', '\x0c'), ('n', '\n'), ('r', '\r'), ('t', '\t'), ('v', '\x0b')]

/-- The words of a text, which quotes and backslashes keep together. `word` is the one that is read,
its latest byte first, and `quote` is the quote that is open. -/
def wordsIn (env : List (Raw × Raw)) : Nat → Option Char → Option Raw → Raw →
    Except Raw (List Raw)
  | 0, _, w, _ => .ok (w.map List.reverse).toList
  | _, some _, _, [] => .error "no terminating quote in -S string".toList
  | _, none, w, [] => .ok (w.map List.reverse).toList
  | n + 1, q, w, c :: cs =>
    let put := fun (d : Char) (q : Option Char) (cs : Raw) =>
      wordsIn env n q (some (d :: w.getD [])) cs
    let split := fun (cs : Raw) => do
      let rest ← wordsIn env n none none cs
      return (w.map List.reverse).toList ++ rest
    if (c = '\'' && q ≠ some '"') || (c = '"' && q ≠ some '\'') then
      wordsIn env n (if q.isSome then none else some c) (some (w.getD [])) cs
    else if Raw.isBlank c && q.isNone then split (cs.dropWhile Raw.isBlank)
    else if c = '#' && w.isNone && q.isNone then .ok []
    else if c = '$' && q ≠ some '\'' then
      match bracedName? cs with
      | none =>
        .error ("only $\x7bVARNAME\x7d expansion is supported, error at: ".toList ++ c :: cs)
      | some (name, rest) =>
        match env.lookup name with
        | some v => wordsIn env n q (some (v.reverse ++ w.getD [])) rest
        | none => wordsIn env n q w rest
    else if c = '\\' then
      match cs with
      | [] => if q = some '\'' then put c q cs
          else .error "invalid backslash at end of string in -S".toList
      | d :: ds =>
        if q = some '\'' && d ≠ '\\' && d ≠ '\'' then put c q cs
        else if "\"#$'\\".contains d then put d q ds
        else if d = '_' then
          if q = some '"' then put ' ' q ds
          else split ds
        else if d = 'c' then
          if q = some '"' then .error "'\\c' must not appear in double-quoted -S string".toList
          else .ok (w.map List.reverse).toList
        else match marks.lookup d with
          | some e => put e q ds
          | none => .error ("invalid sequence '\\".toList ++ d :: "' in -S".toList)
    else put c q cs

/-- The value of the option that holds words, in the word that begins it or in the next one, and the
options before it in the same word. -/
def splitOption? : Raw → List Raw → Option (Raw × Option (Raw × List Raw))
  | '-' :: '-' :: w, rest =>
    let name := w.takeWhile (· ≠ '=')
    if "sp".toList.isPrefixOf name && name.isPrefixOf "split-string".toList then
      match w.drop name.length, rest with
      | '=' :: v, rest => some ([], some (v, rest))
      | _, v :: rest => some ([], some (v, rest))
      | _, [] => some ([], none)
    else none
  | '-' :: w, rest =>
    let front := w.takeWhile "i0v".toList.contains
    match w.drop front.length, rest with
    | 'S' :: v, rest =>
      if v ≠ [] then some (front, some (v, rest))
      else match rest with
        | v :: rest => some (front, some (v, rest))
        | [] => some (front, none)
    | _, _ => none
  | _, _ => none

/-- The arguments with the words of such options in their places. -/
def splitArguments (env : List (Raw × Raw)) : Nat → List Raw → Except Raw (List Raw)
  | 0, args => .ok args
  | _, [] => .ok []
  | n + 1, a :: rest => do
    match splitOption? a rest with
    | some (front, some (v, rest)) =>
      let words ← wordsIn env (v.length + 1) none none v
      let more ← splitArguments env n (words ++ rest)
      return (if front = [] then [] else [front.cons '-']) ++ more
    | some (_, none) => return a :: rest
    | none =>
      if a = ['-', '-'] || a.head? ≠ some '-' || a = ['-'] then return a :: rest
      else match rest with
        | v :: rest =>
          if a = "-u".toList || a = "-C".toList || a = "--unset".toList || a = "--chdir".toList then
            return a :: v :: (← splitArguments env n rest)
          else return a :: (← splitArguments env n (v :: rest))
        | [] => return [a]

/-! ### Signals -/

/-- The signals that a list names; without a list all of them. -/
def signalsOf (list : Raw) : Except Raw (List Nat) :=
  if list = [] then
    .ok ((List.range' 1 (Signal.bound - 1)).filter fun n => !Signal.isFinal n)
  else ((list.splitOn ',').filter (· ≠ [])).mapM fun a =>
    match Signal.ofText? a with
    | some n => if n = 0 then .error a else .ok n
    | none => .error a

/-- Sets what is done about some signals. -/
def setActions (action : Action) : List Nat → Act (Option Nat)
  | [] => return none
  | n :: ns => do
    match ← Act.ask (.action n (some action)) with
    | .ok _ => setActions action ns
    | .error _ => return some n

/-- Follows the options about signals, or tells the signal whose action cannot be set. -/
def followSignals : List (Char × List Nat) → Act (Option Nat)
  | [] => return none
  | (o, ns) :: more => do
    match ← setActions (if o = '=' then .default else .ignore) ns with
    | some n => return some n
    | none => followSignals more

/-- How it is told what is done about signals. -/
def signalLines (blocked : List Nat) : List Nat → Act Raw
  | [] => return []
  | n :: ns => do
    let isIgnored := (← Act.action n none) = .ignore
    let what := if blocked.contains n then "BLOCK" else "IGNORE"
    let name := Signal.toText n
    let ds := Numeral.natText 10 n
    let line := name ++ List.replicate (10 - name.length) ' ' ++ " (".toList ++
      List.replicate (2 - ds.length) ' ' ++ ds ++ "): ".toList ++ what.toList ++ ['\n']
    return (if isIgnored then line else []) ++ (← signalLines blocked ns)

/-! ### The words of the program -/

def envGrammar : Letter.Grammar where
  plain := "i0vl"
  valued := "uCS"
  optional := "=,:"
  long := [("ignore-environment", 'i'), ("null", '0'), ("debug", 'v'), ("unset", 'u'),
    ("chdir", 'C'), ("default-signal", '='), ("ignore-signal", ','), ("block-signal", ':'),
    ("list-signal-handling", 'l')]
  strict := true

/-- The environment with the values that come before a command, and the command. -/
def takeValues (env : List (Raw × Raw)) : List Raw → List (Raw × Raw) × List Raw
  | [] => (env, [])
  | a :: rest =>
    if a.contains '=' then
      takeValues (setVariable env (a.takeWhile (· ≠ '=')) ((a.dropWhile (· ≠ '=')).drop 1)) rest
    else (env, a :: rest)

/-- What is told of the steps that are taken. -/
def stepsText (cleans : Bool) (gone : List Raw) (values : List Raw) (place : Option Raw)
    (command : List Raw) : Raw :=
  let line := fun (front : String) (text : Raw) => front.toList ++ text ++ ['\n']
  (if cleans then line "cleaning environ" [] else gone.flatMap (line "unset:    ")) ++
  values.flatMap (line "setenv:   ") ++
  ((place.map fun p => line "chdir:    " (Quotation.always p)).getD []) ++
  (match command with
    | [] => []
    | name :: _ => line "executing: " name ++ command.zipIdx.flatMap fun w =>
        line "   arg[" (Numeral.natText 10 w.2 ++ "]= ".toList ++ Quotation.text w.1))

/-- Runs a command in another environment; without one the environment is written. -/
def env : Act Nat := do
  let warn (text : Raw) : Act Nat := do
    Notice.warn ((self c).toList ++ ": ".toList ++ text)
    return 125
  let hint := "use -[v]S to pass options in shebang lines".toList
  match splitArguments c.environment 1000 c.args with
  | .error t => warn t
  | .ok args =>
    match Letter.split envGrammar args with
    | .error (.unknown ch) =>
      let more := if ch = ' ' || ch = '\t' then
          ['\n'] ++ (self c).toList ++ ": ".toList ++ hint else []
      (Letter.usage (self c) ((Letter.Fault.unknown ch).text ++ more) 125).act (self c) 125
    | .error f => fault c f 125
    | .ok (os, rest) =>
      let bare := rest.head? = some ['-']
      let rest := if bare then rest.tail else rest
      let cleans := Letter.has 'i' os || bare
      let start := if cleans then [] else c.environment
      let gone := (os.filter (·.1 = 'u')).map Prod.snd
      let signals := (os.filter fun o => "=,:".contains o.1).mapM fun o =>
        (signalsOf o.2).map fun ns => (o.1, ns)
      match signals, gone.find? fun x => x = [] || x.contains '=' with
      | .error a, _ =>
        (Letter.usage (self c) (Quotation.text a ++ ": invalid signal".toList) 125).act (self c) 125
      | _, some x => warn ("cannot unset ".toList ++ Quotation.text x ++ ": ".toList ++
          (Errno.EINVAL).text.toList)
      | .ok signals, none =>
        let (env, command) := takeValues (start.filter fun v => !gone.contains v.1) rest
        let values := rest.take (rest.length - command.length)
        let place := Letter.value? 'C' os
        if command = [] && place.isSome then
          usage c "must specify command with --chdir (-C)" 125
        else if command = [] && Letter.has 'l' os then
          usage c "must specify command with --list-signal-handling" 125
        else if command = [] then
          let stop := if Letter.has '0' os then '\x00' else '\n'
          (Notice.say (bindings stop env) 0).act (self c) 125
        else if Letter.has '0' os then usage c "cannot specify --null (-0) with command" 125
        else
          match ← followSignals signals with
          | some n => warn ("failed to set signal action for signal ".toList ++
              Numeral.natText 10 n ++ ": ".toList ++ (Errno.EINVAL).text.toList)
          | none =>
            if Letter.has 'l' os then
              let blocked := (signals.filter (·.1 = ':')).flatMap Prod.snd
              let _ ← Act.write 2 (← signalLines blocked (List.range' 1 (Signal.bound - 1)))
            if Letter.has 'v' os then
              let _ ← Act.write 2 (stepsText cleans gone values place command)
            let entered : Except Errno Unit ← match place with
              | some p => Act.ask (.enter p)
              | none => pure (.ok ())
            match entered with
            | .error e => warn ("cannot change directory to ".toList ++
                Quotation.always (place.getD []) ++ ": ".toList ++ e.text.toList)
            | .ok () =>
              let code ← Launch.command perform c ": " env command
              if code = 127 && (command.headD []).any Raw.isBlank then
                let _ ← warn hint
              return code

def printenv : Notice :=
  match Letter.split { plain := "0", long := [("null", '0')], strict := true } c.args with
  | .error f => f.report (self c) 2
  | .ok (os, names) =>
    let stop := if Letter.has '0' os then '\x00' else '\n'
    if names = [] then .say (bindings stop c.environment) 0
    else
      let values := names.map fun x => c.environment.lookup x
      .say (values.flatMap fun v => (v.map (· ++ [stop])).getD [])
        (if values.all Option.isSome then 0 else 1)

end ServiceStack.Launch
