import ServiceStack.Machine.Tool.Letter

/-!
Programs that read texts: each says which files it reads, when it has read enough, and what it makes
of the texts. A dash names the input. What cannot be read is told in its place between the texts
that are written.
-/

namespace ServiceStack

/-- A text that was read. -/
structure Source where
  name : Raw
  text : Raw

/-- What a program makes of texts. -/
structure Reading where
  program : String
  /-- the files; without any it reads its input -/
  names : List Raw := []
  /-- the code if some text cannot be read -/
  failed : Nat := 1
  /-- whether no more of a text is needed -/
  enough : Raw → Bool := fun _ => false
  /-- how much is asked for next -/
  block : Raw → Nat := fun _ => Act.blockSize
  /-- how much of the input is used; the rest is given back -/
  used : Raw → Nat := List.length
  /-- what is told about a text that cannot be read -/
  complaint : Raw → Errno → Raw := fun name e => Notice.faultLine program.toList name e
  /-- nothing is told about a text that cannot be read -/
  mute : Bool := false
  /-- nothing is written if some text cannot be read -/
  fatal : Bool := false
  /-- what is written of each text and behind all of them, and the code -/
  write : List Source → List Raw × Nat
  /-- what is told at the end -/
  remarks : List Source → Raw := fun _ => []
  /-- whether the code counts although some text could not be read -/
  settles : Nat → Bool := fun _ => false

namespace Reading

/-- Reads a stream until there is enough. -/
def readFrom (p : Reading) (stream : Nat) : Nat → Raw → Act (Except Errno Raw)
  | 0, text => return .ok text
  | n + 1, text => do
    if p.enough text then return .ok text
    else match ← Act.ask (.read stream (p.block text)) with
      | .error .EINTR => readFrom p stream n text
      | .error e => return .error e
      | .ok [] => return .ok text
      | .ok block => readFrom p stream n (text ++ block)

/-- Reads one file, or the input for a dash. -/
def readNamed (p : Reading) (name : Raw) : Act (Except Errno Source) := do
  if name = ['-'] then
    match ← readFrom p 0 Act.patience [] with
    | .error e => return .error e
    | .ok text =>
      let rest := text.length - p.used text
      if rest ≠ 0 then
        let _ ← Act.ask (.back 0 rest)
      return .ok ⟨name, text⟩
  else match ← Act.openToRead name with
    | .error e => return .error e
    | .ok stream =>
      let text ← readFrom p stream Act.patience []
      Act.close stream
      return text.map (⟨name, ·⟩)

/-- Each text, or why it cannot be read. -/
def readEach (p : Reading) : List Raw → Act (List (Except (Raw × Errno) Source))
  | [] => return []
  | name :: names => do
    match ← readNamed p name with
    | .ok s => return .ok s :: (← readEach p names)
    | .error e =>
      if p.fatal then return [.error (name, e)]
      else return .error (name, e) :: (← readEach p names)

/-- Puts what is written of the texts and the complaints in their order. -/
def arrange (p : Reading) : List (Except (Raw × Errno) Source) → List Raw → List (Nat × Raw)
  | [], texts => texts.map (1, ·)
  | .ok _ :: items, text :: texts => (1, text) :: arrange p items texts
  | .ok _ :: items, [] => arrange p items []
  | .error (name, e) :: items, texts =>
    (2, if p.mute then [] else p.complaint name e ++ ['\n']) :: arrange p items texts

def act (p : Reading) : Act Nat := do
  let items ← readEach p (if p.names = [] then [['-']] else p.names)
  let good := items.all Except.toBool
  let sources := items.filterMap Except.toOption
  let (texts, code) := p.write sources
  let texts := if p.fatal && !good then [] else texts
  let code := if good || p.settles code then code else p.failed
  Notice.act p.program ⟨arrange p items texts ++ [(2, p.remarks sources)], code⟩ p.failed

/-- One text of all, which is written behind all complaints. -/
def atEnd (sources : List Source) (text : Raw) : List Raw := sources.map (fun _ => []) ++ [text]

end Reading


end ServiceStack
