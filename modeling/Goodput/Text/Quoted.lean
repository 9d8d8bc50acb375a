import Goodput.Text.Printable
import Goodput.Text.Decimal
/-!
# Quoted text in messages

Messages show the text they complain about between double quotes. A quote and a backslash get a
backslash; tab, newline, carriage return and NUL have short forms; every other character that is not
printable is written as its code point in hexadecimal between braces.
-/

namespace Goodput.Text

/-- One character as quoted text shows it. -/
def quoteChar (c : Char) : List Char :=
  if c = '"' then ['\\', '"']
  else if c = '\\' then ['\\', '\\']
  else if c = '\t' then ['\\', 't']
  else if c = '\n' then ['\\', 'n']
  else if c = '\r' then ['\\', 'r']
  else if c.toNat = 0 then ['\\', '0']
  else if isPrintable c then [c]
  else ['\\', 'u', '\x7b'] ++ Decimal.hex c.toNat ++ ['\x7d']

/-- The text between double quotes. -/
def quote (s : String) : String :=
  String.ofList (['"'] ++ s.toList.flatMap quoteChar ++ ['"'])

end Goodput.Text
