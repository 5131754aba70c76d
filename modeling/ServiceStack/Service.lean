/-!
The services of a local search stack. The roster lists all of them in launch order; a run takes
those that are always wanted and, when asked, `alice` as well.
-/

namespace ServiceStack

/-- How the services are built and run. -/
inductive Mode where
  | development
  | release
deriving DecidableEq, Repr

namespace Mode

def ofRelease (release : Bool) : Mode := if release then .release else .development

def name : Mode → String
  | development => "Development"
  | release => "Release"

/-- What the build program is told in front of the separator. -/
def flags : Mode → List String
  | development => []
  | release => ["--release"]

end Mode

/-- Whether a service belongs to every run. -/
inductive Inclusion where
  | always
  | alice
deriving DecidableEq, Repr

def Inclusion.name : Inclusion → String
  | .always => "Always"
  | .alice => "Alice"

/-- A service: its name, what it is started with, and when it is wanted. -/
structure Service where
  name : String
  args : List String
  inclusion : Inclusion
deriving DecidableEq, Repr

namespace Service

def frontend : Service := ⟨"frontend", ["frontend", "configs/frontend.toml"], .always⟩

def searchServer : Service :=
  ⟨"search-server", ["search-server", "configs/search_server.toml"], .always⟩

def webgraph : Service :=
  ⟨"webgraph", ["webgraph", "server", "configs/webgraph/server.toml"], .always⟩

def alice : Service := ⟨"alice", ["alice", "serve", "configs/alice.toml"], .alice⟩

/-- All services in launch order. -/
def roster : List Service := [frontend, searchServer, webgraph, alice]

/-- The services of a run: the constant ones first, `alice` after them if wanted. -/
def selected (withAlice : Bool) : List Service :=
  roster.filter (·.inclusion = .always) ++
    roster.filter fun s => withAlice && s.inclusion = .alice

end Service

end ServiceStack
