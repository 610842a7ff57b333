import ActionTree.Text.Printable

/-!
# ActionTree.Text.Quoted

A text between quotes, in a form that shows every character of it.

1. the quote and the backslash are escaped by a backslash;
2. NUL, tab, carriage return and line feed have letters of their own;
3. every other character that cannot be shown as it is stands as `\u` and its
   number in braces, in hexadecimal digits without leading zeros.
-/

namespace ActionTree.Text

/-- One character between quotes. -/
def quoteChar (c : Char) : List Char :=
  if c = '"' || c = '\\' then ['\\', c]
  else if c = '\x00' then ['\\', '0']
  else if c = '\t' then ['\\', 't']
  else if c = '\r' then ['\\', 'r']
  else if c = '\n' then ['\\', 'n']
  else if isPrintable c then [c]
  else ['\\', 'u', '\x7b'] ++ Nat.toDigits 16 c.toNat ++ ['\x7d']

/-- A text between quotes. -/
def quoted (s : String) : String :=
  String.ofList ('"' :: (s.toList.flatMap quoteChar ++ ['"']))

end ActionTree.Text
