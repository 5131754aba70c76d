import ServiceStack.Machine.Scenery
import ServiceStack.Machine.Shell.Expansion

/-!
Redirections. The words of all of them are expanded first; then each is followed in its turn. What a
stream led to before is kept beside, so that it can be brought back behind the command.
-/

namespace ServiceStack.Shell

variable (k : Hooks Item)

/-- A redirection and what its word stands for. -/
structure Directed where
  redirect : Redirect
  text : Raw
  /-- why it cannot be followed -/
  problem : Option Raw := none

/-- What a redirection makes of a stream. -/
inductive Aim where
  /-- nothing, for it is the stream itself -/
  | same
  | closed
  | stream (n : Nat)
  /-- a stream that was opened for this -/
  | opened (n : Nat)

/-- A stream as it was before: closed, or kept under another number. -/
abbrev Kept := Nat × Option Nat

/-- A redirection of the rich dialect. Its word has to stand for one text; what names no stream is a
file for output and errors. -/
def directRich (r : Redirect) : Sh (List Directed) := do
  let ambiguous := fun (shown : Raw) =>
    [Directed.mk r [] (some (shown ++ ": ambiguous redirect".toList))]
  match r.mode with
  | .here => return [⟨r, [], none⟩]
  | .line => return [⟨r, ← expandText k r.word, none⟩]
  | mode =>
    match ← expandFields k r.word with
    | [text] =>
      if mode ≠ .copy then return [⟨r, text, none⟩]
      else if text = ['-'] || (Numeral.natural? text).isSome then return [⟨r, text, none⟩]
      else if text.getLast? = some '-' && (Numeral.natural? text.dropLast).isSome then
        let n := (Numeral.natural? text.dropLast).getD 0
        return [⟨r, text.dropLast, none⟩] ++
          if n = r.stream then [] else [⟨{ r with stream := n, mode := .copy }, ['-'], none⟩]
      else if r.stream = 1 then
        return [⟨{ r with mode := .output }, text, none⟩,
          ⟨{ r with stream := 2, mode := .copy }, ['1'], none⟩]
      else return ambiguous text
    | _ =>
      return ambiguous (match r.word with
        | [.parameter _ x .value] => '$' :: x
        | w => w.plain)

/-- Expands the words. A stream is named by one digit, or closed by a dash. -/
def direct : List Redirect → Sh (List Directed)
  | [] => return []
  | r :: rs => do
    if (← get).rich then
      let ds ← directRich k r
      return ds ++ (← direct rs)
    let text ← match r.mode with
      | .here => pure []
      | .copy => do
        let text := ((← expandFields k r.word).headD [])
        match text with
        | [c] => if !c.isDigit && c ≠ '-' then giveUp "Syntax error: Bad fd number".toList
        | _ => giveUp "Syntax error: Bad fd number".toList
        pure text
      | _ => expandText k r.word
    return ⟨r, text, none⟩ :: (← direct rs)

/-- What is said of a file that cannot be opened. -/
def openFault (rich creates : Bool) (path : Raw) (e : Errno) : Raw :=
  if rich then
    let why := if e = .EEXIST then "cannot overwrite existing file" else e.text
    path ++ ": ".toList ++ why.toList
  else
  let why := if e ≠ .ENOENT && e ≠ .ENOTDIR then e.text
    else if creates then "Directory nonexistent" else "No such file"
  (if creates then "cannot create " else "cannot open ").toList ++ path ++ ": ".toList ++ why.toList

def openPath (path : Raw) (a : Access) : Sh Aim := do
  match ← ask (.open path a) with
  | .ok n => return .opened n
  | .error e => giveUp (openFault (← get).rich a.creates path e)

/-- A stream from which a text is read. A long text is written by a process of its own. -/
def openText (text : Raw) : Sh Aim := do
  match ← ask .pipe with
  | .error _ => giveUp "Pipe call failed".toList
  | .ok (source, sink) =>
    if text.length ≤ Act.blockSize / 16 then
      let _ ← put sink text
    else
      let _ ← fork do
        act (Act.close source)
        for n in [Signal.interrupt, Signal.quit, Signal.hangup, Signal.suspend] do
          let _ ← ask (.action n (some .ignore))
        let _ ← ask (.action Signal.pipe (some .default))
        let _ ← put sink text
        return 0
    act (Act.close sink)
    return .opened source

/-- A file that is written to under the option that keeps files. -/
def openFresh (path : Raw) : Sh Aim := do
  let scene ← act Act.look
  match scene.file? path with
  | none => openPath path { writes := true, creates := true, fresh := true }
  | some f =>
    if f.kind = .regular then giveUp (openFault (← get).rich true path .EEXIST)
    else openPath path { writes := true }

def aim (d : Directed) : Sh Aim := do
  match d.problem with
  | some why => giveUp why
  | none => pure ()
  match d.redirect.mode with
  | .input => openPath d.text { reads := true }
  | .both => openPath d.text { reads := true, writes := true, creates := true }
  | .append => openPath d.text { writes := true, creates := true, appends := true }
  | .clobber => openPath d.text { writes := true, creates := true, truncates := true }
  | .output =>
    if ← hasOption 'C' then openFresh d.text
    else openPath d.text { writes := true, creates := true, truncates := true }
  | .copy =>
    match Numeral.natural? d.text with
    | none => return .closed
    | some n => return if n = d.redirect.stream then .same else .stream n
  | .here => openText (← textOf (← k.expand false d.redirect.word))
  | .line => openText (d.text ++ ['\n'])

/-- Keeps what a stream leads to under another number, once for each stream. -/
def keep (n : Nat) (kept : List Kept) : Sh (List Kept) := do
  if (kept.lookup n).isSome then return kept
  else match ← ask (.keep n) with
    | .ok copy =>
      act (Act.close n)
      return (n, some copy) :: kept
    | .error _ => return (n, none) :: kept

/-- Makes a stream lead where it is to. -/
def turn (n : Nat) : Aim → Sh Unit
  | .same => return
  | .closed => act (Act.close n)
  | .stream m => do
    match ← ask (.copy m n) with
    | .ok () => return
    | .error e => giveUp (Numeral.natText 10 m ++ ": ".toList ++ e.text.toList)
  | .opened m => do
    if m ≠ n then
      let _ ← ask (.copy m n)
      act (Act.close m)

/-- Follows some redirections. Tells what was kept, also if one of them cannot be followed. -/
def follow (keeps : Bool) : List Kept → List Directed → Sh (List Kept × Except Flow Unit)
  | kept, [] => return (kept, .ok ())
  | kept, d :: ds => do
    let n := d.redirect.stream
    match ← outcome (aim k d) with
    | .error f => return (kept, .error f)
    | .ok .same => follow keeps kept ds
    | .ok a =>
      let taken : Bool := match a with
        | .opened m => m == n
        | _ => false
      let kept ← if !keeps then pure kept
        else if taken then
          pure (if (kept.lookup n).isSome then kept else (n, none) :: kept)
        else keep n kept
      match ← outcome (turn n a) with
      | .error f => return (kept, .error f)
      | .ok () => follow keeps kept ds

/-- Brings streams back, or forgets how they were. -/
def bringBack (forgets : Bool) : List Kept → Sh Unit
  | [] => return
  | (n, old) :: rest => do
    match old with
    | none => if !forgets then act (Act.close n)
    | some copy =>
      if !forgets then
        let _ ← ask (.copy copy n)
      act (Act.close copy)
    bringBack forgets rest

end ServiceStack.Shell
