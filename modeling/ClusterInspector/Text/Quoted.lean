import ClusterInspector.Text.Printable

/-!
# Quoted text

A text between quotes, as diagnostics show one: a backslash and the surrounding quote are escaped,
what does not print is written by number, all else stands for itself.
-/
namespace ClusterInspector.Text.Quoted

/-- The single quote, unless the text holds one and no double quote. -/
def delimiter (cs : List Char) : Char :=
  if cs.contains '\'' && !cs.contains '"' then '"' else '\''

/-- The last `width` hexadecimal digits of a number. -/
def hex : (width : Nat) → Nat → List Char
  | 0, _ => []
  | w + 1, n => hex w (n / 16) ++ [Nat.digitChar (n % 16)]

/-- A number in the shortest of the forms `\xhh`, `\uhhhh` and `\Uhhhhhhhh` that holds it. -/
def byNumber (c : Char) : List Char :=
  let n := c.toNat
  if n < 0x100 then ['\\', 'x'] ++ hex 2 n
  else if n < 0x10000 then ['\\', 'u'] ++ hex 4 n
  else ['\\', 'U'] ++ hex 8 n

def escape (quote c : Char) : List Char :=
  if c = quote ∨ c = '\\' then ['\\', c]
  else if c = '\t' then ['\\', 't']
  else if c = '\n' then ['\\', 'n']
  else if c = '\r' then ['\\', 'r']
  else if isPrintable c then [c]
  else byNumber c

def encode (cs : List Char) : List Char :=
  let quote := delimiter cs
  quote :: cs.flatMap (escape quote) ++ [quote]

end ClusterInspector.Text.Quoted

namespace ClusterInspector.Text

def quoted (s : String) : String := String.ofList (Quoted.encode s.toList)

end ClusterInspector.Text
