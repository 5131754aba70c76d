import ServiceStack.Text.Numeral
import ServiceStack.Text.Raw

/-!
Values as they are written so that they can be read back. Characters that cannot be printed are
written behind backslashes between quotes of their own.
-/

namespace ServiceStack.Shell.Spelling

def isPrintable (c : Char) : Bool := ' ' ≤ c && c ≤ '~'

/-- The letters behind a backslash. -/
def letters : List (Char × Char) := [
  ('\x07', 'a'), ('\x08', 'b'), ('\x1b', 'E'), ('\x0c', 'f'), ('\n', 'n'), ('\x0d', 'r'),
  ('\t', 't'), ('\x0b', 'v'), ('\\', '\\'), ('\'', '\'')]

def escaped (v : Raw) : Raw :=
  "$'".toList ++ v.flatMap (fun c =>
    match letters.lookup c with
    | some l => ['\\', l]
    | none => if isPrintable c then [c] else '\\' :: Numeral.padZeros 3 (Numeral.natText 8 c.toNat))
    ++ ['\'']

/-- Between single quotes. -/
def single (v : Raw) : Raw :=
  if !v.all isPrintable then escaped v
  else ['\''] ++ v.flatMap (fun c => if c = '\'' then "'\\''".toList else [c]) ++ ['\'']

/-- Between double quotes. -/
def double (v : Raw) : Raw :=
  if !v.all isPrintable then escaped v
  else ['"'] ++ v.flatMap (fun c => if "\"$\x60\\".contains c then ['\\', c] else [c]) ++ ['"']

/-- Characters that mean something by their place: at the start, or a tilde behind some signs. -/
def meansByPlace (previous : Option Char) (c : Char) : Bool :=
  match previous with
  | none => c = '~' || c = '#'
  | some p => c = '~' && (p = ':' || p = '=')

/-- Whether some character means something to the shell. -/
def hasMeaning (signs : String) : Option Char → Raw → Bool
  | _, [] => false
  | previous, c :: cs =>
    signs.contains c || meansByPlace previous c || hasMeaning signs (some c) cs

def signs : String := " \t\n'\"\\|&;()<>!\x7b\x7d*[]?^$\x60"

/-- Without quotes: a backslash stands before each character that means something. -/
def bare (v : Raw) : Raw :=
  if v = [] then ['\'', '\'']
  else if !v.all isPrintable then escaped v
  else go none v
where
  go : Option Char → Raw → Raw
    | _, [] => []
    | previous, c :: cs =>
      let rest := go (some c) cs
      if c = ',' || signs.contains c || meansByPlace previous c then '\\' :: c :: rest
      else c :: rest

/-- A key between brackets. -/
def bareKey (v : Raw) : Raw :=
  if v = [] || hasMeaning (signs ++ "@") none v || !v.all isPrintable then double v else v

/-- As it is if nothing in it means anything. -/
def shortest (v : Raw) : Raw :=
  if hasMeaning signs none v || !v.all isPrintable then single v else v

/-- The text of a command with one blank in the place of several, and one behind the arrows of
redirections. What stands between quotes stays. -/
def tidy : Option Char → Raw → Raw
  | none, text => join none (text.length + 1) (text.dropWhile Raw.isBlank)
  | some q, text => join (some q) (text.length + 1) text
where
  join : Option Char → Nat → Raw → Raw
    | _, 0, _ | _, _, [] => []
    | quote, n + 1, '\\' :: c :: cs =>
      if quote = some '\'' then '\\' :: join quote n (c :: cs) else '\\' :: c :: join quote n cs
    | some q, n + 1, c :: cs => c :: join (if c = q then none else some q) n cs
    | none, n + 1, c :: cs =>
      if c = ' ' || c = '\t' then
        let rest := cs.dropWhile Raw.isBlank
        if rest = [] then [] else ' ' :: join none n rest
      else if c = '\'' || c = '"' then c :: join (some c) n cs
      else if c = '<' || c = '>' then
        let more := cs.takeWhile fun d => "<>|&".contains d
        let rest := (cs.drop more.length).dropWhile fun d => d = ' ' || d = '\t'
        let tight := more.getLast? = some '&' || rest.head? = some '('
        c :: more ++ (if tight then [] else [' ']) ++ join none n rest
      else c :: join none n cs

end ServiceStack.Shell.Spelling
