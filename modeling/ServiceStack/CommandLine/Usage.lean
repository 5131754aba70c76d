import ServiceStack.CommandLine.Flag

/-!
What the command line says about itself: the name it was called by, the usage line, the help and
the version.
-/

namespace ServiceStack.CommandLine

/-- The name and the title when the call gives none. -/
def standardName : String := "stackrc"

def slash : UInt8 := 0x2F

/-- The parts of a path, without empty ones and without `.`. -/
def pathParts (path : Octets) : List Octets :=
  (path.splitOnP (· == slash)).filter fun c => c ≠ [] ∧ c ≠ [0x2E]

/-- The last part of a path, unless it is `..`. -/
def fileName? (path : Octets) : Option Octets :=
  (pathParts path).getLast?.filter (· ≠ [0x2E, 0x2E])

/-- The name that the program was called by, if it is text. -/
def calledName (argv : List Octets) : String :=
  ((argv.head?.bind fileName?).bind Utf8.decode?).getD standardName

/-- The title keeps a called name with spaces, each turned into a dash. -/
def title (name : String) : String :=
  if ' ' ∈ name.toList then String.ofList (name.toList.map fun c => if c = ' ' then '-' else c)
  else standardName

/-- The usage line for some flags: each once, in the order of `Flag.told`. -/
def usage (name : String) (flags : List Flag) : String :=
  if flags = [] then name ++ " [FLAGS]"
  else name ++ String.join ((Flag.told.filter (· ∈ flags)).map fun f => " --" ++ f.name)

def versionText (name : String) : String := title name ++ " 0.0.0-unreleased"

def helpText (name : String) : String :=
  "\n".intercalate [
    versionText name,
    "Benjamin Fry <benjaminfry@me.com>",
    "Run the local search stack. Starts the frontend, search server, webgraph server and " ++
      "optionally alice, and kills them all",
    "together on Ctrl-C.",
    "",
    "USAGE:",
    "    " ++ usage name [],
    "",
    "FLAGS:",
    "        --alice      also start the alice server",
    "    -h, --help       Prints help information",
    "        --release    build and run every service in release mode",
    "    -V, --version    Prints version information",
    "    -v, --verbose    more logging, may be repeated"]

end ServiceStack.CommandLine
