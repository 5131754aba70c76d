import ServiceStack.Group.Basic

/-!
What can be seen of a group from outside.
-/

namespace ServiceStack.Group

structure Info where
  size : Nat
  isEmpty : Bool
  names : List String
  ids : List (Option Nat)
deriving DecidableEq, Repr

def info {σ : Type} (h : Host σ) (g : Group) (s : σ) : Info :=
  ⟨g.size, g.isEmpty, g.names, g.ids h s⟩

end ServiceStack.Group
