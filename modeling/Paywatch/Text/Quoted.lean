import Paywatch.Text.Printable

/-!
# Quoted text

Text that comes from outside is shown in quotes, with every character that does
not print written as an escape.  The quote is a single one unless the text holds
a single quote and no double one.
-/

namespace Paywatch

namespace Text

/-- The last `width` hexadecimal digits of a number, in lower case. -/
def hexDigits : Nat → Nat → List Char
  | 0, _ => []
  | width + 1, n => hexDigits width (n / 16) ++ [Nat.digitChar (n % 16)]

def quoteFor (cs : List Char) : Char :=
  if cs.contains '\'' && !cs.contains '"' then '"' else '\''

def quoteChar (quote c : Char) : List Char :=
  if c = quote ∨ c = '\\' then ['\\', c]
  else if c = '\n' then ['\\', 'n']
  else if c = '\r' then ['\\', 'r']
  else if c = '\t' then ['\\', 't']
  else if isPrintable c then [c]
  else if c.toNat < 0x100 then '\\' :: 'x' :: hexDigits 2 c.toNat
  else if c.toNat < 0x10000 then '\\' :: 'u' :: hexDigits 4 c.toNat
  else '\\' :: 'U' :: hexDigits 8 c.toNat

def quoted (s : String) : String :=
  let quote := quoteFor s.toList
  String.ofList (quote :: s.toList.flatMap (quoteChar quote) ++ [quote])

def quoted? : Option String → String
  | some s => quoted s
  | none => "None"

/-- Texts in round brackets, each in quotes; a comma follows a single one. -/
def quotedAll (texts : List (Option String)) : String :=
  let shown := ", ".intercalate (texts.map quoted?)
  if texts.length = 1 then s!"({shown},)" else s!"({shown})"

end Text

end Paywatch
