import ServiceStack.Machine.Basic
import ServiceStack.Program

/-!
The command line. The services run on a modelled machine, on which `cargo` starts everything and
goes on until it is killed; a line or the end of the standard input is the interrupt.
-/

namespace ServiceStack.Program

def cargo : Content × Nat := (.program (.constant 0), Disk.runRights)

/-- Runs the program for some arguments and prints what it prints. -/
def perform (args : List String) : IO UInt32 := do
  let argv := (CommandLine.standardName :: args).map Utf8.encode
  let name := CommandLine.calledName argv
  let output ← IO.getStdout
  let ran := run Machine.host argv [.interrupted (.ok ())] (Machine.withCargo (some cargo))
  for line in log argv ran.trace do
    if line = .moved .running .shuttingDown then
      output.flush
      let _ ← (← IO.getStdin).getLine
    output.putStrLn line.printed
  if let some text := ran.value.answer name then output.putStrLn text
  if let some text := ran.value.complaint name then (← IO.getStderr).putStrLn text
  return UInt32.ofNat ran.value.code

end ServiceStack.Program

def main (args : List String) : IO UInt32 := ServiceStack.Program.perform args
