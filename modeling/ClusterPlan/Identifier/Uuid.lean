import ClusterPlan.Numeral
import ClusterPlan.Text.Cut

/-!
# Universally unique identifiers

The marks `urn:` and `uuid:`, braces around the identifier and hyphens in it are set aside. What
remains has thirty-two characters and is a numeral in radix 16, in any of the spellings that
numerals have.
-/

namespace ClusterPlan.Identifier

open ClusterPlan.Text

/-- A brace. -/
def isBrace (c : Char) : Bool :=
  c == '\x7b' || c == '\x7d'

/-- The characters of an identifier that carry its value. -/
def uuidCore (s : String) : List Char :=
  let unmarked := eraseWord "uuid:".toList 0 (eraseWord "urn:".toList 0 s.toList)
  (trim isBrace unmarked).filter (· != '-')

/-- A universally unique identifier. -/
def isUuid (s : String) : Bool :=
  let core := uuidCore s
  core.length == 32 && (Numeral.read 16 core).isSome

end ClusterPlan.Identifier
