import TapeMachine.Text.Printable

/-!
Quoted texts: in single quotes, or in double ones if the text has single quotes only. The quote in
use, backslashes and unprintable characters are escaped.
-/
namespace TapeMachine.Text

/-- The digit for a value below sixteen, in lower case. -/
def hexDigit (n : Nat) : Char :=
  if n < 10 then Char.ofNat (48 + n) else Char.ofNat (87 + n)

/-- The last `width` hexadecimal digits of a number. -/
def hexDigits : (width : Nat) → Nat → List Char
  | 0, _ => []
  | width + 1, n => hexDigits width (n / 16) ++ [hexDigit (n % 16)]

/-- A code point with the shortest of the escapes `\xhh`, `\uhhhh`, `\Uhhhhhhhh` that holds it. -/
def escapePoint (n : Nat) : List Char :=
  if n < 0x100 then '\\' :: 'x' :: hexDigits 2 n
  else if n < 0x10000 then '\\' :: 'u' :: hexDigits 4 n
  else '\\' :: 'U' :: hexDigits 8 n

def escapeChar (quote c : Char) : List Char :=
  if c = quote || c = '\\' then ['\\', c]
  else if c = '\n' then ['\\', 'n']
  else if c = '\r' then ['\\', 'r']
  else if c = '\t' then ['\\', 't']
  else if isPrintable c then [c]
  else escapePoint c.toNat

/-- The quote that a text is written in. -/
def quoteOf (cs : List Char) : Char := if cs.contains '\'' && !cs.contains '"' then '"' else '\''

def quote (cs : List Char) : List Char :=
  let q := quoteOf cs
  q :: (cs.flatMap (escapeChar q) ++ [q])

def quoted (s : String) : String := String.ofList (quote s.toList)

end TapeMachine.Text
