import ServiceStack.CommandLine.Scan
import ServiceStack.CommandLine.Usage
import ServiceStack.Text.Similarity

/-!
Why a command line is not acted upon. A refusal of an argument tells the argument, for a long name
the flag that may have been meant, and a usage line with the flags that were understood.
-/

namespace ServiceStack.CommandLine

inductive Refusal where
  /-- an argument that is not known, as it is shown -/
  | unknown (arg : String) (meant : Option Flag) (counted : List Flag)
  /-- a flag that was given too often -/
  | repeated (flag : Flag) (counted : List Flag)
  | help
  | version
  /-- something that has to be text is not -/
  | notText
deriving DecidableEq, Repr

/-- The flag that a long name may have been meant for. -/
def meant? (name : String) : Option Flag :=
  Text.closest? name.toList (·.name.toList) Flag.all

/-- The refusal for an offence. Only after an unknown long name must everything be text. -/
def Offence.refusal (o : Offence) (counted : List Flag) (later : List Octets) : Refusal :=
  match o with
  | .positional arg => .unknown (Utf8.lossy arg) none counted
  | .letter c => .unknown ("-" ++ c.toString) none counted
  | .help => .help
  | .version => .version
  | .long name =>
    match Utf8.decode? name with
    | some s =>
      if later.all Utf8.isValid then .unknown ("--" ++ s) (meant? s) counted else .notText
    | none => .notText

namespace Refusal

def colored (s : String) : String := "\x1b[32m" ++ s ++ "\x1b[0m"

def suggestion : Option Flag → String
  | none => ""
  | some f => "\n\tDid you mean " ++ colored "--" ++ colored f.name ++ "?"

def ending (usageLine : String) : String :=
  "\n\nUSAGE:\n    " ++ usageLine ++ "\n\nFor more information try --help"

/-- The flags that the usage line tells: those counted and the one suggested. -/
def understood : Refusal → List Flag
  | unknown _ meant counted => counted ++ meant.toList
  | repeated _ counted => counted
  | _ => []

/-- The whole text, for a program of some name. -/
def message (name : String) (r : Refusal) : String :=
  match r with
  | unknown arg meant _ =>
    "error: Found argument '" ++ arg ++
      "' which wasn't expected, or isn't valid in this context" ++ suggestion meant ++
      ending (usage name r.understood)
  | repeated f _ =>
    "error: The argument '--" ++ f.name ++
      "' was provided more than once, but cannot be used multiple times" ++
      ending (usage name r.understood)
  | help => helpText name
  | version => versionText name
  | notText => ""

end Refusal

end ServiceStack.CommandLine
