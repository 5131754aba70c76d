import ServiceStack.Text.Utf8

/-!
The flags of the command line. Each has a long name; some have a letter as well.
-/

namespace ServiceStack

inductive Flag where
  | release
  | alice
  | verbose
  | help
  | version
deriving DecidableEq, Repr

namespace Flag

/-- All flags, in the order in which they are suggested. -/
def all : List Flag := [release, alice, verbose, help, version]

/-- All flags, in the order in which a usage line tells them. -/
def told : List Flag := [alice, help, release, version, verbose]

def name : Flag → String
  | release => "release"
  | alice => "alice"
  | verbose => "verbose"
  | help => "help"
  | version => "version"

def ofName? (octets : Octets) : Option Flag := all.find? fun f => Utf8.encode f.name == octets

def ofLetter? (c : Char) : Option Flag :=
  match c with
  | 'v' => some verbose
  | 'h' => some help
  | 'V' => some version
  | _ => none

/-- Whether a flag may be given more than once. -/
def repeatable (f : Flag) : Bool := f = verbose

theorem mem_told (f : Flag) : f ∈ told := by cases f <;> simp [told]

end Flag

end ServiceStack
