import ClusterPlan.Address.Reader
import ClusterPlan.Text.Quoted

/-!
# Locators

The form of a web address, as far as a certificate's address is tested. Leading control characters
and spaces, tabs and line ends are set aside first, and so is a scheme. Only an authority — what
stands between two slashes and the next slash, question mark or number sign — can be wrong:

* brackets must enclose a whole host, which is an IPv6 address or an address of a future version;
* no character may turn into one of the characters that end an authority or divide it when the text
  is brought into compatibility normal form.
-/

namespace ClusterPlan.Identifier

open ClusterPlan.Text

/-- Why a text is no locator. -/
inductive LocatorFault where
  /-- Brackets that do not enclose a whole host. -/
  | brackets
  /-- A bracketed host that looks like an address of a future version and is none. -/
  | futureAddress
  /-- A bracketed host that is no address. -/
  | noAddress (host : String)
  /-- An IPv4 address in brackets. -/
  | v4InBrackets
  /-- An authority with a character that normalises to a delimiter. -/
  | hiddenDelimiter (authority : String)
  deriving DecidableEq, Repr

/-- The wording of a fault. -/
def LocatorFault.message : LocatorFault → String
  | .brackets => "Invalid IPv6 URL"
  | .futureAddress => "IPvFuture address is invalid"
  | .noAddress host => s!"{quoted host} does not appear to be an IPv4 or IPv6 address"
  | .v4InBrackets => "An IPv4 address cannot be in brackets"
  | .hiddenDelimiter authority =>
    s!"netloc '{authority}' contains invalid characters under NFKC normalization"

/-- The characters other than the delimiters themselves whose compatibility normal form holds one of
the delimiters slash, question mark, number sign, at sign and colon. -/
def hiddenDelimiters : List Nat :=
  [0x2047, 0x2048, 0x2049, 0x2100, 0x2101, 0x2105, 0x2106, 0x2A74, 0xFE13, 0xFE16, 0xFE55, 0xFE56,
    0xFE5F, 0xFE6B, 0xFF03, 0xFF0F, 0xFF1A, 0xFF1F, 0xFF20]

/-- A character that may occur in a scheme. -/
def isSchemeChar (c : Char) : Bool :=
  isAsciiAlnum c || c == '+' || c == '-' || c == '.'

/-- A text without its scheme, if it has one. -/
def dropScheme (cs : List Char) : List Char :=
  match cut? ':' cs with
  | some (scheme, rest) =>
    if scheme.head?.any Char.isAlpha && scheme.all isSchemeChar then rest else cs
  | none => cs

/-- The authority of a locator. -/
def authority (s : String) : List Char :=
  let visible := (s.toList.dropWhile fun c => c.toNat ≤ 0x20).filter fun c =>
    !(c == '\t' || c == '\r' || c == '\n')
  match dropScheme visible with
  | '/' :: '/' :: rest => rest.takeWhile fun c => !(c == '/' || c == '?' || c == '#')
  | _ => []

/-- The part of an authority after its last at sign. -/
def hostAndPort (authority : List Char) : List Char :=
  (authority.reverse.takeWhile (· != '@')).reverse

/-- The text before the first occurrence of a character, and the text after it. -/
def cutAt (mark : Char) (cs : List Char) : List Char × List Char :=
  (cut? mark cs).getD (cs, [])

/-- An address of a future version: the letter, a hexadecimal number, a dot and more. -/
def isFutureAddress (host : List Char) : Bool :=
  match host with
  | 'v' :: rest =>
    !(rest.takeWhile isHexDigit).isEmpty &&
      match rest.dropWhile isHexDigit with
      | '.' :: more => !more.isEmpty
      | _ => false
  | _ => false

/-- The test of a host that stands in brackets. -/
def checkHost (host : List Char) : Except LocatorFault Unit :=
  if host.head? == some 'v' then
    if isFutureAddress host then .ok () else .error .futureAddress
  else match Address.read? (String.ofList host) with
    | none => .error (.noAddress (String.ofList host))
    | some (.v4 _) => .error .v4InBrackets
    | some (.v6 _ _) => .ok ()

/-- The test of an authority that has both brackets. -/
def checkBracketed (authority : List Char) : Except LocatorFault Unit :=
  let whole := hostAndPort authority
  match cut? '[' whole with
  | some (before, bracketed) =>
    let (host, port) := cutAt ']' bracketed
    if !before.isEmpty || (!port.isEmpty && port.head? != some ':') then .error .brackets
    else checkHost host
  | none => checkHost (cutAt ':' whole).1

/-- The test of a locator. -/
def checkLocator (s : String) : Except LocatorFault Unit := do
  let authority := authority s
  let opened := authority.contains '['
  let closed := authority.contains ']'
  if opened != closed then throw .brackets
  if opened then checkBracketed authority
  if authority.any fun c => hiddenDelimiters.contains c.toNat then
    throw (.hiddenDelimiter (String.ofList authority))

end ClusterPlan.Identifier
