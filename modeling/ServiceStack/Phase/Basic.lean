/-!
The phases of a running stack.
-/

namespace ServiceStack

inductive Phase where
  | running
  | shuttingDown
  | terminated
deriving DecidableEq, Repr

def Phase.name : Phase → String
  | .running => "Running"
  | .shuttingDown => "ShuttingDown"
  | .terminated => "Terminated"

end ServiceStack
