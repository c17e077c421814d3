/-!
# Blank characters

Three classes of blank characters occur in cluster definitions, and they differ at a handful of
code points.

* `isBlank` — white space in the wide sense: the Unicode property together with the four
  information separators U+001C to U+001F. Names, labels and settings are trimmed with it.
* `isWhiteSpace` — the Unicode property `White_Space` alone. Numbers written as text inside a
  document are trimmed with it.
* `isAsciiBlank` — the six ASCII characters that may surround an integer numeral.

`trim` removes a class from both ends of a text.
-/

namespace ClusterPlan.Text

/-- The six ASCII blanks: tab, line feed, vertical tab, form feed, carriage return, space. -/
def isAsciiBlank (c : Char) : Bool :=
  (0x09 ≤ c.toNat && c.toNat ≤ 0x0D) || c.toNat == 0x20

/-- The blanks outside ASCII. -/
def isWideBlank (c : Char) : Bool :=
  let n := c.toNat
  n == 0x85 || n == 0xA0 || n == 0x1680 || (0x2000 ≤ n && n ≤ 0x200A) || n == 0x2028 ||
    n == 0x2029 || n == 0x202F || n == 0x205F || n == 0x3000

/-- The Unicode property `White_Space`. -/
def isWhiteSpace (c : Char) : Bool :=
  isAsciiBlank c || isWideBlank c

/-- White space together with the information separators U+001C to U+001F. -/
def isBlank (c : Char) : Bool :=
  isWhiteSpace c || (0x1C ≤ c.toNat && c.toNat ≤ 0x1F)

/-- Drop the characters of a class from the end of a text. -/
def trimEnd (p : Char → Bool) (cs : List Char) : List Char :=
  (cs.reverse.dropWhile p).reverse

/-- Drop the characters of a class from both ends of a text. -/
def trim (p : Char → Bool) (cs : List Char) : List Char :=
  trimEnd p (cs.dropWhile p)

end ClusterPlan.Text
