import ServiceStack.Machine.Shell.State

/-!
Tildes. One at the start of a word stands for a home, and in a value also one behind a colon.
-/

namespace ServiceStack.Shell

/-- The home of a user, as the table of users tells. -/
def homeOf? (user : Raw) : Sh (Option Raw) := do
  match ← act (Act.readFile "/etc/passwd".toList) with
  | .error _ => return none
  | .ok text =>
    return ((Raw.lines text).find? fun l => l.takeWhile (· ≠ ':') = user).bind fun l =>
      (l.splitOn ':')[5]?

/-- What a tilde at the start of a text stands for, and the rest of the text. The name behind it
must end before the text does, unless nothing follows. -/
def tilde? (values last : Bool) (s : Raw) : Sh (Option (Raw × Raw)) := do
  match s with
  | '~' :: rest =>
    let user := rest.takeWhile fun c => c ≠ '/' && !(values && c = ':')
    let after := rest.drop user.length
    if after = [] && !last then return none
    let home ← if user = [] then pure (valueOf? "HOME".toList (← get)) else homeOf? user
    return home.map (·, after)
  | _ => return none

/-- A text with its tildes: one at its start, and in a value those behind colons. -/
def splitTildes (values last : Bool) : Nat → Raw → Sh Word
  | 0, s => return [.text false s]
  | n + 1, s => do
    match ← tilde? values last s with
    | some (home, rest) =>
      let more ← later n rest
      return (if home = [] then [] else [.text true home]) ++ more
    | none => later n s
where
  later (n : Nat) (s : Raw) : Sh Word := do
    let front := s.takeWhile (· ≠ ':')
    match values, s.drop front.length with
    | true, c :: rest =>
      let more ← splitTildes values last n rest
      return .text false (front ++ [c]) :: more
    | _, _ => return if s = [] then [] else [.text false s]

/-- The tildes of a value: at its start and behind colons that are not quoted. -/
def expandTildes : Bool → Word → Sh Word
  | _, [] => return []
  | first, .text false s :: ps => do
    let last := ps.isEmpty
    let head ← if first || s.head? ≠ some '~' then splitTildes true last (s.length + 1) s
      else do
        let more ← splitTildes true last (s.length + 1) s.tail
        return .text false ['~'] :: more
    return head ++ (← expandTildes (s.getLast? = some ':') ps)
  | _, p :: ps => return p :: (← expandTildes false ps)

/-- A tilde at the start of a word. -/
def expandTilde (w : Word) : Sh Word := do
  match w with
  | .text false s :: ps =>
    if s.head? = some '~' then return (← splitTildes false ps.isEmpty 1 s) ++ ps else return w
  | _ => return w

end ServiceStack.Shell
