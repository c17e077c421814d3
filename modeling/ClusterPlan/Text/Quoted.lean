import ClusterPlan.Text.Digit
import ClusterPlan.Text.Printable

/-!
# Quoted text in diagnostics

Some diagnostics show a piece of user input in quotes, so that blanks and control characters are
visible. The quote is a single one, unless the text holds a single quote and no double one.
Backslash and the quote itself are escaped with a backslash; tab, line feed and carriage return
have their letters; any other character that is not printable is written by its code point, with
two, four or eight hexadecimal digits as it needs.
-/

namespace ClusterPlan.Text

/-- The mark that quotes a text. -/
def quoteMark (cs : List Char) : Char :=
  if cs.contains '\'' && !cs.contains '"' then '"' else '\''

/-- One character between quotes. -/
def quoteChar (mark : Char) (c : Char) : List Char :=
  if c == mark || c == '\\' then ['\\', c]
  else if c == '\t' then ['\\', 't']
  else if c == '\n' then ['\\', 'n']
  else if c == '\r' then ['\\', 'r']
  else if isPrintable c then [c]
  else if c.toNat < 0x100 then '\\' :: 'x' :: hex 2 c.toNat
  else if c.toNat < 0x10000 then '\\' :: 'u' :: hex 4 c.toNat
  else '\\' :: 'U' :: hex 8 c.toNat

/-- A text in quotes, every character of it visible. -/
def quoted (s : String) : String :=
  let mark := quoteMark s.toList
  String.ofList (mark :: (s.toList.flatMap (quoteChar mark) ++ [mark]))

end ClusterPlan.Text
