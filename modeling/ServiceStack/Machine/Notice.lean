import ServiceStack.Machine.Course

/-!
What a program has to tell: texts for its output and for its errors, and the code that it ends with.
-/

namespace ServiceStack

structure Notice where
  /-- each text, for the output (1) or for the errors (2) -/
  writes : List (Nat × Raw) := []
  code : Nat := 0
deriving DecidableEq, Repr

/-- What a program is started with. -/
structure Call where
  /-- the name by which the program was called -/
  program : Raw
  args : List Raw
  environment : List (Raw × Raw) := []
deriving DecidableEq, Repr

namespace Notice

def silent (code : Nat) : Notice := { code }

def say (text : Raw) (code : Nat) : Notice := { writes := [(1, text)], code }

/-- Ends with a code after a line of complaint. -/
def complain (text : Raw) (code : Nat) : Notice := { writes := [(2, text ++ ['\n'])], code }

/-- Writes a line of complaint. -/
def warn (text : Raw) : Act Unit := do
  let _ ← Act.write 2 (text ++ ['\n'])

def faultLine (program subject : Raw) (e : Errno) : Raw :=
  program ++ ": ".toList ++ subject ++ ": ".toList ++ e.text.toList

/-- Writes what a program has to tell. A text that cannot be written is told, and changes the code.
-/
def act (program : String) (r : Notice) (failed : Nat) : Act Nat := go r.writes
where
  go : List (Nat × Raw) → Act Nat
    | [] => return r.code
    | (stream, text) :: rest => do
      match ← Act.write stream text with
      | .ok () => go rest
      | .error e =>
        if stream = 1 then
          warn (faultLine program.toList "write error".toList e)
          return failed
        else go rest

end Notice

end ServiceStack
