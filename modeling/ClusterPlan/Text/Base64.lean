import ClusterPlan.Text.Digit

/-!
# Base 64

Decoding of base 64 text, six bits a character. Padding closes a group that has two or three
characters, and ends the text there. The strict reading refuses characters outside the alphabet, a
padding sign at the beginning, anything after the closing padding, and characters between padding
signs; the lenient reading passes over all of these. A group left open at the end is refused by
both. A padding sign where no group of two or more characters is open closes nothing, and both
readings pass over it.
-/

namespace ClusterPlan.Text.Base64

/-- The six bits of a character in the standard alphabet. -/
def standard (c : Char) : Option Nat :=
  if 'A' ≤ c && c ≤ 'Z' then some (c.toNat - 0x41)
  else if 'a' ≤ c && c ≤ 'z' then some (c.toNat - 0x61 + 26)
  else if c.isDigit then some (c.toNat - 0x30 + 52)
  else if c == '+' then some 62
  else if c == '/' then some 63
  else none

/-- The six bits of a character in the standard alphabet, hyphen and underscore being further
spellings of its last two characters. -/
def urlSafe (c : Char) : Option Nat :=
  if c == '-' then some 62 else if c == '_' then some 63 else standard c

/-- How far the decoding of a text has come. -/
structure State where
  /-- The number of characters in the open group. -/
  filled : Nat := 0
  /-- The bits of the open group that are not in a byte yet. -/
  rest : Nat := 0
  /-- The number of padding signs since the last character of the alphabet. -/
  pads : Nat := 0
  /-- Whether any padding sign has been seen. -/
  padded : Bool := false
  /-- The bytes so far, last first. -/
  bytes : List UInt8 := []

/-- The state after a character with the given six bits. -/
def State.push (st : State) (bits : Nat) : State :=
  let st := { st with pads := 0 }
  match st.filled with
  | 0 => { st with filled := 1, rest := bits }
  | 1 => { st with
      filled := 2, rest := bits % 16, bytes := UInt8.ofNat (st.rest * 4 + bits / 16) :: st.bytes }
  | 2 => { st with
      filled := 3, rest := bits % 4, bytes := UInt8.ofNat (st.rest * 16 + bits / 4) :: st.bytes }
  | _ => { st with filled := 0, rest := 0, bytes := UInt8.ofNat (st.rest * 64 + bits) :: st.bytes }

/-- The bytes of a text, decoded on from a state. -/
def decodeFrom (alphabet : Char → Option Nat) (strict : Bool) (st : State) :
    List Char → Option (List UInt8)
  | [] => if st.filled = 0 then some st.bytes.reverse else none
  | c :: cs =>
    if c == '=' then
      if 2 ≤ st.filled then
        if 4 ≤ st.filled + st.pads + 1 then
          if strict && !cs.isEmpty then none else some st.bytes.reverse
        else decodeFrom alphabet strict { st with padded := true, pads := st.pads + 1 } cs
      else decodeFrom alphabet strict { st with padded := true } cs
    else match alphabet c with
      | none => if strict then none else decodeFrom alphabet strict st cs
      | some bits =>
        if strict && st.padded then none else decodeFrom alphabet strict (st.push bits) cs

/-- The bytes of a text in the strict reading. -/
def decodeStrict (alphabet : Char → Option Nat) (cs : List Char) : Option (List UInt8) :=
  if cs.head? == some '=' then none else decodeFrom alphabet true {} cs

/-- The bytes of a text in the lenient reading. -/
def decodeLenient (cs : List Char) : Option (List UInt8) :=
  decodeFrom standard false {} cs

end ClusterPlan.Text.Base64
