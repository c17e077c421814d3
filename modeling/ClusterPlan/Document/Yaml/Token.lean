import ClusterPlan.Document.Yaml.Cursor

/-!
# YAML tokens

The tokens of a YAML text. Indentation is made explicit: a block collection begins with a token of
its own and ends with `blockEnd`, and a key is announced by `key` even if the text marks it only by
the colon behind it.
-/

namespace ClusterPlan.Yaml

/-- What a line that begins with a percent sign says. -/
inductive Directive where
  /-- The version of the format, of which only the major number counts. -/
  | version (major : Nat)
  /-- A handle and the beginning of a tag that it stands for. -/
  | handle (handle lead : String)
  /-- Anything else, which has no effect. -/
  | other
  deriving DecidableEq, Repr

/-- A tag as it is written: verbatim, or a handle with a suffix. -/
structure TagText where
  handle : Option String
  suffix : String
  deriving DecidableEq, Repr

/-- A token. -/
inductive Token where
  | directive (d : Directive)
  | documentStart
  | documentEnd
  | blockSequence
  | blockMapping
  | blockEnd
  | flowSequence
  | flowSequenceEnd
  | flowMapping
  | flowMappingEnd
  | item
  | comma
  | key
  | value
  | alias (name : String)
  | anchor (name : String)
  | tag (t : TagText)
  /-- A scalar by its code points, written plainly or marked as a text. -/
  | scalar (codes : List Nat) (plain : Bool)
  | streamEnd
  deriving DecidableEq, Repr

/-- Tokens as far as they can be told apart, and what ails a reader who wants more of them. -/
structure TokenStream where
  tokens : List Token
  fault : Fault

end ClusterPlan.Yaml
