import ClusterPlan.Binary64.Decimal
import ClusterPlan.Document
import ClusterPlan.Numeral
import ClusterPlan.Text.Digit

/-!
# Keys in a path

How a key of a map is shown in the path to a problem. Texts are shown as they are, integers in
decimal, and flags as one and zero; the keys that no map of texts may have are shown in the notation
`KeyText.ofScalar` gives them.
-/

namespace ClusterPlan.KeyText

open ClusterPlan.Text

/-- A byte inside single or double quotes. -/
def ofByte (quote : Char) (b : UInt8) : List Char :=
  let c := Char.ofNat b.toNat
  if c == quote || c == '\\' then ['\\', c]
  else if c == '\t' then ['\\', 't']
  else if c == '\n' then ['\\', 'n']
  else if c == '\r' then ['\\', 'r']
  else if b < 0x20 || 0x7F ≤ b then '\\' :: 'x' :: hex 2 b.toNat
  else [c]

/-- Bytes between quotes: single ones, unless the bytes hold a single quote and no double one. -/
def ofBytes (bs : List UInt8) : String :=
  let quote := if bs.contains 0x27 && !bs.contains 0x22 then '"' else '\''
  String.ofList ('b' :: quote :: bs.flatMap (ofByte quote) ++ [quote])

/-- The offset of a moment from universal time. -/
def ofOffset (minutes : Int) : String :=
  if minutes = 0 then "datetime.timezone.utc"
  else
    let seconds := minutes * 60
    let days := seconds.fdiv 86400
    let rest := seconds.fmod 86400
    let parts := (if days = 0 then [] else [s!"days={days}"]) ++
      (if rest = 0 then [] else [s!"seconds={rest}"])
    let arguments := ", ".intercalate parts
    s!"datetime.timezone(datetime.timedelta({arguments}))"

/-- A moment, whose seconds and microseconds are left out where they are zero. -/
def ofMoment (m : Moment) : String :=
  let clock := [m.year, m.month, m.day, m.hour, m.minute] ++
    (if m.microsecond = 0 then (if m.second = 0 then [] else [m.second])
      else [m.second, m.microsecond])
  let zone := match m.offset with
    | none => []
    | some minutes => [s!"tzinfo={ofOffset minutes}"]
  let arguments := ", ".intercalate (clock.map toString ++ zone)
  s!"datetime.datetime({arguments})"

/-- An integer, if it is not too long to be written. -/
def ofInt (i : Int) : String :=
  if Numeral.isWritable i then toString i else "<unprintable int object>"

/-- A text with surrogates in it, in which the three bytes of each one are shown as characters that
could not be read. -/
def ofBroken (codes : List Nat) : String :=
  String.ofList (codes.flatMap fun code =>
    if Scalar.isSurrogate code then List.replicate 3 '\uFFFD' else [Char.ofNat code])

/-- A key as it is shown in a path. -/
def ofScalar : Scalar → String
  | .null => "None"
  | .flag b => if b then "1" else "0"
  | .int i => ofInt i
  | .real x => x.shortest
  | .text s => s
  | .broken codes => ofBroken codes
  | .bytes bs => ofBytes bs
  | .date y m d => s!"datetime.date({y}, {m}, {d})"
  | .moment m => ofMoment m

end ClusterPlan.KeyText
