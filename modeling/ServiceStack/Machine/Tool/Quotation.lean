import ServiceStack.Failure.Errno
import ServiceStack.Machine.Tool.Escape

/-!
Words between quotes, so that a shell would read them back or so that all of their bytes can be
seen.
-/

namespace ServiceStack.Quotation

/-- Bytes that a shell does not read as they are, wherever they stand. -/
def isSpecial (c : Char) : Bool := " !\"$&()*;<=>[^\x60|?\\'".contains c || c < ' ' || '~' < c

/-- Whether a word has to be quoted for a shell. -/
def needsQuotes (a : Raw) : Bool :=
  a = [] || a.any isSpecial || a = ['\x7b'] || a = ['\x7d'] ||
    a.head? = some '#' || a.head? = some '~'

/-- Whether a byte means the same between double quotes. -/
def isTame (c : Char) : Bool := c.isAlphanum || "%+,-./:]_@ '".contains c

/-- Bytes between single quotes. Those that cannot be seen leave the quotes, which `inside`
tells. -/
def quotedFrom (inside : Bool) : Raw → Raw
  | [] => ['\'']
  | c :: cs =>
    if c < ' ' || '~' < c then
      let e : Raw := match EscapeStyle.commonLetters.find? fun l => l.2 = c.toNat && l.1 ≠ 'e' with
        | some l => ['\\', l.1]
        | none => '\\' :: Numeral.padZeros 3 (Numeral.natText 8 c.toNat)
      (if inside then "'$'".toList else []) ++ e ++ quotedFrom false cs
    else if c = '\'' then "'\\''".toList ++ quotedFrom true cs
    else (if inside then [] else "''".toList) ++ c :: quotedFrom true cs

/-- A word as a shell would read it back. -/
def word (a : Raw) : Raw :=
  let tame := a.tail.all isTame && a.head?.all fun c => isTame c || c = '#' || c = '~'
  if !needsQuotes a then a
  else if a.contains '\'' && tame then ['"'] ++ a ++ ['"']
  else '\'' :: quotedFrom true a

/-- A word that is quoted in any case. -/
def always (a : Raw) : Raw := if needsQuotes a then word a else '\'' :: a ++ ['\'']

/-- A name before a colon. -/
def name (a : Raw) : Raw := if a.contains ':' then always a else word a

/-- A text in which all bytes can be seen. -/
def text (a : Raw) : Raw := '\'' :: a.flatMap seen ++ ['\'']
where
  seen (c : Char) : Raw :=
    if c = '\'' then ['\\', c]
    else match EscapeStyle.commonLetters.find? fun l => l.2 = c.toNat && l.1 ≠ 'e' with
      | some l => ['\\', l.1]
      | none =>
        if c < ' ' || '~' < c then '\\' :: Numeral.padZeros 3 (Numeral.natText 8 c.toNat) else [c]

/-- What is told of a file. -/
def faultLine (program subject : Raw) (e : Errno) : Raw :=
  program ++ ": ".toList ++ name subject ++ ": ".toList ++ e.text.toList

end ServiceStack.Quotation
