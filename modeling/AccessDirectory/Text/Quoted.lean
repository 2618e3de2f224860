import AccessDirectory.Text.Hex
import AccessDirectory.Text.Printable

/-! A text in quotes, as messages show it. Single quotes enclose it unless it holds one and no double
quote. The enclosing quote, the backslash and all that cannot be printed are escaped. -/

namespace AccessDirectory.Text.Quoted

def singleQuote : Char := Char.ofNat 0x27
def doubleQuote : Char := Char.ofNat 0x22

def enclosing (cs : List Char) : Char :=
  if cs.contains singleQuote && !cs.contains doubleQuote then doubleQuote else singleQuote

def escape (quote c : Char) : List Char :=
  if c = quote || c = '\\' then ['\\', c]
  else if c = '\n' then ['\\', 'n']
  else if c = '\r' then ['\\', 'r']
  else if c = '\t' then ['\\', 't']
  else if isPrintable c then [c]
  else if c.toNat ≤ 0xff then '\\' :: 'x' :: Hex.fixed 2 c.toNat
  else if c.toNat ≤ 0xffff then '\\' :: 'u' :: Hex.fixed 4 c.toNat
  else '\\' :: 'U' :: Hex.fixed 8 c.toNat

def quoted (s : String) : String :=
  let quote := enclosing s.toList
  String.ofList (quote :: s.toList.flatMap (escape quote) ++ [quote])

end AccessDirectory.Text.Quoted
