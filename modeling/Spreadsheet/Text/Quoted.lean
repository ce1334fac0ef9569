import Spreadsheet.Text.Printable
import Spreadsheet.Text.Basic

/-!
# Quoted texts in messages

A message shows a text between single quotes, or between double quotes when the
text holds a single quote and no double one.  The quote in use and the backslash
are written with a backslash in front, the line feed, the carriage return and
the tabulator have letters of their own, and any other character that is not
printable is written by its code point in two, four or eight hexadecimal digits.
-/

namespace Spreadsheet.Text

/-- The quotation mark that needs the least escaping in `t`. -/
def quoteFor (t : Text) : Char :=
  if t.contains '\'' && !t.contains '"' then '"' else '\''

/-- A number in lower-case hexadecimal, filled with zeros up to `width` digits. -/
def hex (width n : Nat) : Text :=
  let digits := Nat.toDigits 16 n
  List.replicate (width - digits.length) '0' ++ digits

/-- One character as it stands in a text quoted with `quote`. -/
def escape (quote c : Char) : Text :=
  if c = quote || c = '\\' then ['\\', c]
  else if c = '\n' then ['\\', 'n']
  else if c = '\r' then ['\\', 'r']
  else if c = '\t' then ['\\', 't']
  else if isPrintable c then [c]
  else if c.toNat < 0x100 then ['\\', 'x'] ++ hex 2 c.toNat
  else if c.toNat < 0x10000 then ['\\', 'u'] ++ hex 4 c.toNat
  else ['\\', 'U'] ++ hex 8 c.toNat

/-- The text between quotation marks, all on one line. -/
def quoted (t : Text) : Text :=
  let quote := quoteFor t
  quote :: (t.flatMap (escape quote) ++ [quote])

example : quoted ['A', '1'] = ['\'', 'A', '1', '\''] := by decide +kernel

example : quoted ['\'', '\n'] = ['"', '\'', '\\', 'n', '"'] := by decide +kernel

end Spreadsheet.Text
