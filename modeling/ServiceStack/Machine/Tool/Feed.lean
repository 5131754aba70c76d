import ServiceStack.Machine.Notice

/-!
Texts line by line. A feed takes files one after another, and of each no more than it needs; a sink
gathers what is to be written until there is enough of it.
-/

namespace ServiceStack

/-- Files that are read line by line. -/
structure Feed where
  /-- the files still to be opened; a dash is the input -/
  names : List Raw
  /-- what ends a line -/
  stop : Char := '\n'
  /-- the stream that is read, if one is open -/
  stream : Option Nat := none
  /-- the name of the file that was opened last -/
  name : Raw := ['-']
  /-- what was read and not taken -/
  text : Raw := []
  /-- what could not be opened or read, the latest first; whether it was open -/
  faults : List (Raw × Bool × Errno) := []

namespace Feed

/-- Reads more of the open file, or opens the next one. -/
def more (f : Feed) : Act Feed := do
  match f.stream, f.names with
  | some n, _ =>
    match ← Act.ask (.read n Act.blockSize) with
    | .error .EINTR => return f
    | .ok (c :: cs) => return { f with text := f.text ++ c :: cs }
    | r =>
      if n ≠ 0 then Act.close n
      return { f with
        stream := none
        faults := match r with
          | .error e => (f.name, true, e) :: f.faults
          | _ => f.faults }
  | none, [] => return f
  | none, name :: names =>
    if name = ['-'] then return { f with names := names, name := name, stream := some 0 }
    else match ← Act.openToRead name with
      | .error e =>
        return { f with names := names, name := name, faults := (name, false, e) :: f.faults }
      | .ok n => return { f with names := names, name := name, stream := some n }

/-- Whether nothing can come any more. -/
def isDry (f : Feed) : Bool := f.text = [] && f.stream.isNone && f.names = []

/-- Whether the open file has nothing left, as far as is known. -/
def isBetween (f : Feed) : Bool := f.text = [] && f.stream.isNone

/-- Reads until something is there to be taken, or nothing can come; with `apart`, until the open
file has nothing left. -/
def fill (apart : Bool) : Nat → Feed → Act Feed
  | 0, f => return f
  | n + 1, f => do
    if f.text ≠ [] || (if apart then f.isBetween else f.isDry) then return f
    else fill apart n (← f.more)

/-- Reads until a whole line is there, or the open file has nothing left. -/
def gather : Nat → Feed → Act Feed
  | 0, f => return f
  | n + 1, f => do
    if f.stream.isNone || f.text.contains f.stop then return f else gather n (← f.more)

/-- The next line and whether it was ended, if there is one. -/
def line? (f : Feed) : Act (Option (Raw × Bool) × Feed) := do
  let f ← fill false Act.patience f
  if f.text = [] then return (none, f)
  else
    let f ← gather Act.patience f
    let line := f.text.takeWhile (· ≠ f.stop)
    let rest := f.text.drop line.length
    return (some (line, rest ≠ []), { f with text := rest.tail })

/-- Whether the line taken last was the last one. -/
def isLast (apart : Bool) (f : Feed) : Act (Bool × Feed) := do
  let f ← fill apart Act.patience f
  return (f.text = [], f)

end Feed

/-- What is to be written to a stream. -/
structure Sink where
  stream : Nat
  /-- texts not yet written, the latest first -/
  parts : List Raw := []
  size : Nat := 0
  /-- what went wrong -/
  fault : Option Errno := none

namespace Sink

/-- How much is gathered before it is written. -/
def room : Nat := 4096

def flush (k : Sink) : Act Sink := do
  if k.parts = [] then return k
  else match ← Act.write k.stream k.parts.reverse.flatten with
    | .ok () => return { k with parts := [], size := 0 }
    | .error e => return { k with parts := [], size := 0, fault := k.fault <|> some e }

def put (k : Sink) (text : Raw) : Act Sink := do
  let k := { k with parts := text :: k.parts, size := k.size + text.length }
  if room ≤ k.size then k.flush else return k

end Sink

end ServiceStack
