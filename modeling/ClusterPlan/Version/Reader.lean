import ClusterPlan.Version
import ClusterPlan.Numeral
import ClusterPlan.Text.Cut

/-!
# Reading versions

The text of a version, blanks around it and a leading letter `v` aside: an epoch before an
exclamation mark, release numbers joined by dots, a pre-release, a post-release, a development
release, and build labels after a plus sign. Words are read in either case, and each of the three
suffixes may have a separator before and after its word. A post-release may also be a number after
a hyphen.

Every part is optional except the release numbers, and a part is taken wherever it fits, so the
reader never goes back.
-/

namespace ClusterPlan.Version

open ClusterPlan.Text

/-- Why a text is no version. -/
inductive Fault where
  /-- The text does not follow the grammar. -/
  | malformed
  /-- A number is longer than a numeral may be. -/
  | overlong
  deriving DecidableEq, Repr

/-! ## Lexical parts -/

/-- A separator before or after the word of a suffix. -/
def isSeparator (c : Char) : Bool :=
  c == '.' || c == '_' || c == '-'

/-- A text without one leading separator. -/
def dropSeparator : List Char → List Char
  | c :: cs => if isSeparator c then cs else c :: cs
  | [] => []

/-- The digits that a text begins with, and what follows them. -/
def cutDigits (cs : List Char) : List Char × List Char :=
  (cs.takeWhile Char.isDigit, cs.dropWhile Char.isDigit)

/-- A text after a word in lower case, whatever the case of its letters. -/
def dropWord? : List Char → List Char → Option (List Char)
  | [], cs => some cs
  | _ :: _, [] => none
  | w :: word, c :: cs => if c.toLower = w then dropWord? word cs else none

/-- What the first of several words that a text begins with stands for, and what follows it. -/
def cutWord? {α : Type} : List (String × α) → List Char → Option (α × List Char)
  | [], _ => none
  | (word, meaning) :: words, cs =>
    match dropWord? word.toList cs with
    | some rest => some (meaning, rest)
    | none => cutWord? words cs

/-! ## Parts of a version -/

/-- The parts of a version as digits, before their numbers are read. -/
structure Parts where
  epoch : List Char
  numbers : List (List Char)
  pre : Option (Phase × List Char)
  post : Option (List Char)
  dev : Option (List Char)
  build : Option (List (List Char))

/-- The words for the phases of pre-releases. -/
def phaseWords : List (String × Phase) :=
  [("alpha", .alpha), ("a", .alpha), ("beta", .beta), ("b", .beta), ("preview", .candidate),
    ("pre", .candidate), ("c", .candidate), ("rc", .candidate)]

/-- The words for a post-release. -/
def postWords : List (String × Unit) :=
  [("post", ()), ("rev", ()), ("r", ())]

/-- The word for a development release. -/
def devWords : List (String × Unit) :=
  [("dev", ())]

/-- A suffix: an optional separator, one of several words, an optional separator, digits. -/
def cutSuffix? {α : Type} (words : List (String × α)) (cs : List Char) :
    Option (α × List Char × List Char) :=
  match cutWord? words (dropSeparator cs) with
  | some (meaning, rest) =>
    let (digits, rest) := cutDigits (dropSeparator rest)
    some (meaning, digits, rest)
  | none => none

/-- The post-release that a text begins with: a number after a hyphen, or a suffix. -/
def cutPost? (cs : List Char) : Option (List Char × List Char) :=
  let suffix := (cutSuffix? postWords cs).map fun (_, digits, rest) => (digits, rest)
  match cs with
  | '-' :: tail =>
    let (digits, rest) := cutDigits tail
    if digits.isEmpty then suffix else some (digits, rest)
  | _ => suffix

/-- The epoch before an exclamation mark, if a text begins with one. -/
def cutEpoch (cs : List Char) : List Char × List Char :=
  let (digits, rest) := cutDigits cs
  match rest with
  | '!' :: tail => if digits.isEmpty then ([], cs) else (digits, tail)
  | _ => ([], cs)

/-- Release numbers: digits, then as many times as possible a dot and digits. The counter bounds
the number of dots. -/
def cutNumbers : Nat → List Char → List (List Char) × List Char
  | 0, cs => ([], cs)
  | limit + 1, cs =>
    let (digits, rest) := cutDigits cs
    if digits.isEmpty then ([], cs)
    else match rest with
      | '.' :: tail =>
        let (more, after) := cutNumbers limit tail
        if more.isEmpty then ([digits], rest) else (digits :: more, after)
      | _ => ([digits], rest)

/-- The build labels in the rest of a text: runs of letters and digits, joined by separators. -/
def buildLabels? (cs : List Char) : Option (List (List Char)) :=
  let pieces := splitOn '.' (cs.map fun c => if isSeparator c then '.' else c)
  if pieces.all fun piece => !piece.isEmpty && piece.all isAsciiAlnum then some pieces else none

/-- The parts of a version text that has no blanks around it. -/
def parts? (cs : List Char) : Option Parts :=
  let cs := match cs with
    | c :: rest => if c == 'v' || c == 'V' then rest else c :: rest
    | [] => []
  let (epoch, cs) := cutEpoch cs
  let (numbers, cs) := cutNumbers cs.length cs
  if numbers.isEmpty then none
  else
    let (pre, cs) := match cutSuffix? phaseWords cs with
      | some (phase, digits, rest) => (some (phase, digits), rest)
      | none => (none, cs)
    let (post, cs) := match cutPost? cs with
      | some (digits, rest) => (some digits, rest)
      | none => (none, cs)
    let (dev, cs) := match cutSuffix? devWords cs with
      | some (_, digits, rest) => (some digits, rest)
      | none => (none, cs)
    match cs with
    | [] => some ⟨epoch, numbers, pre, post, dev, none⟩
    | '+' :: rest => (buildLabels? rest).map fun labels =>
        ⟨epoch, numbers, pre, post, dev, some labels⟩
    | _ => none

/-! ## Numbers -/

/-- The value of digits, zero for none. -/
def value (digits : List Char) : Nat :=
  Numeral.ofDigits digits

/-- A build label by its letters and digits. -/
def BuildLabel.ofPiece (piece : List Char) : BuildLabel :=
  if piece.all Char.isDigit then .number (value piece) else .word (piece.map Char.toLower)

/-- All runs of digits that a version is made of. -/
def Parts.runs (p : Parts) : List (List Char) :=
  p.epoch :: p.numbers ++ (p.pre.map Prod.snd).toList ++ p.post.toList ++ p.dev.toList ++
    (p.build.getD []).filter (·.all Char.isDigit)

/-- The version that parts describe. -/
def Parts.toVersion (p : Parts) : Version where
  epoch := value p.epoch
  numbers := p.numbers.map value
  pre := p.pre.map fun (phase, digits) => (phase, value digits)
  post := p.post.map value
  dev := p.dev.map value
  build := p.build.map (·.map BuildLabel.ofPiece)

/-- The version that a text denotes. A number too long to be read is a fault of its own. -/
def read (s : String) : Except Fault Version :=
  match parts? (trim isBlank s.toList) with
  | none => .error .malformed
  | some parts =>
    if parts.runs.all (·.length ≤ Numeral.digitLimit) then .ok parts.toVersion
    else .error .overlong

end ClusterPlan.Version
