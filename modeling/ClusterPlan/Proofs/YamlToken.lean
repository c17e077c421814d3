import ClusterPlan.Document.Yaml.Token.Stream
import ClusterPlan.Proofs.JsonNumeral
import ClusterPlan.Proofs.NumeralGrammar

/-!
# Places in a YAML text

Two values of a YAML text are read before anybody asks for the kind of a scalar: the number of a
version directive and the code point of an escape. A fault of a token reader that says that a value
cannot be read is due to one of these, and it stands in the text (`IsUnreadable`).

Every reader of a token is given a cursor at a place in the text and leaves one there (`Stays`). The
lemmas follow the modules of the readers: labels, quoted scalars, blocks, plain scalars.
-/

namespace ClusterPlan.Yaml

open ClusterPlan.Text

/-! ## The cursor -/

namespace Cursor

variable {cs : List Char} {c : Cursor}

/-- A step leaves out the first character that is left, if there is one. -/
theorem rest_next (c : Cursor) : c.next.rest = c.rest.drop 1 := by
  unfold next
  split
  · next h => rw [h]; rfl
  · next h =>
    rw [h]
    split <;> rfl

/-- A cursor that is not at the end stands before its character. -/
theorem rest_eq_cons {ch : Char} (h : c.head = ch) (hch : ch ≠ finish) :
    c.rest = ch :: c.next.rest := by
  rw [rest_next]
  unfold head at h
  cases hrest : c.rest with
  | nil =>
    rw [hrest] at h
    exact absurd h.symm hch
  | cons first rest =>
    rw [hrest] at h
    rw [← h]
    rfl

/-- A step does not lead out of the text. -/
theorem next_suffix (c : Cursor) : c.next.rest <:+ c.rest := by
  rw [rest_next]
  exact List.drop_suffix 1 c.rest

/-- Several steps do not lead out of the text. -/
theorem skip_suffix (n : Nat) (c : Cursor) : (c.skip n).rest <:+ c.rest := by
  induction n generalizing c with
  | zero => exact List.suffix_rfl
  | succ n ih => exact (ih c.next).trans c.next_suffix

/-- A run of characters is passed within the text. -/
theorem span_suffix (p : Char → Bool) (c : Cursor) : (c.span p).2.rest <:+ c.rest :=
  skip_suffix _ c

/-- Characters that are passed over are passed within the text. -/
theorem skipWhile_suffix (p : Char → Bool) (c : Cursor) : (c.skipWhile p).rest <:+ c.rest :=
  c.span_suffix p

/-- A comment ends within the text. -/
theorem skipComment_suffix (c : Cursor) : c.skipComment.rest <:+ c.rest := by
  unfold skipComment
  split
  · exact c.skipWhile_suffix _
  · exact List.suffix_rfl

/-- Behind an end of a line there is the rest of the text. -/
theorem lineBreak?_suffix {b : Char} {after : Cursor} (h : c.lineBreak? = some (b, after)) :
    after.rest <:+ c.rest := by
  unfold lineBreak? at h
  split at h
  · cases h
    exact c.next_suffix
  · cases h

end Cursor

/-! ## Faults of a text -/

/-- An escape for a code point beyond the last one. -/
def HasWideEscape (cs : List Char) : Prop :=
  ∃ digits, '\\' :: 'U' :: digits <:+: cs ∧ digits.length = 8 ∧ digits.all isHexDigit = true ∧
    0x10FFFF < digits.foldl (fun value d => value * 16 + (hexDigit? d).getD 0) 0

/-- If a fault says that a value cannot be read, such a value stands in the text: a number with too
many digits or an escape for no code point. -/
def IsUnreadable (fault : Fault) (cs : List Char) : Prop :=
  fault = .impossibleValue → HasRun Numeral.digitLimit cs ∨ HasWideEscape cs

/-- Reading ends at a place in the text, or fails with a fault that the text accounts for. -/
abbrev Stays {α : Type} (cs : List Char) (place : α → Cursor) (outcome : Except Fault α) : Prop :=
  Meets (IsUnreadable · cs) (fun a => (place a).rest <:+ cs) outcome

/-- A line that must end here ends at a place in the text. It holds no value at all. -/
theorem finishLine_meets {cs : List Char} {c : Cursor} (hc : c.rest <:+ cs) :
    Stays cs id c.finishLine := by
  have hplace : c.skipSpaces.skipComment.rest <:+ cs :=
    (c.skipSpaces.skipComment_suffix.trans (c.skipWhile_suffix _)).trans hc
  unfold Cursor.finishLine
  dsimp only
  split
  · exact .ok ((Cursor.next_suffix _).trans hplace)
  · exact .error nofun

namespace Label

variable {cs : List Char} {c : Cursor}

/-- A name, or another run of characters that may not be empty. -/
theorem readRun_meets (p : Char → Bool) (hc : c.rest <:+ cs) :
    Stays cs Prod.snd (readRun p c) := by
  unfold readRun
  dsimp only
  split
  · exact .error nofun
  · exact .ok ((c.span_suffix p).trans hc)

/-- An anchor or an alias is a run of characters and holds no value. -/
theorem readAnchor_meets (hc : c.rest <:+ cs) : Stays cs Prod.snd (readAnchor c) := by
  unfold readAnchor
  refine Meets.bind (readRun_meets _ (c.next_suffix.trans hc)) ?_
  rintro ⟨name, after⟩ hafter
  dsimp only
  split
  · exact .error nofun
  · exact .ok hafter

/-- The escaped bytes of a tag. A wrong escape is malformed, also if no character has these bytes.
-/
theorem escapedBytes_meets (steps : Nat) (bytes : List UInt8) (hc : c.rest <:+ cs) :
    Stays cs Prod.snd (escapedBytes steps bytes c) := by
  induction steps generalizing bytes c with
  | zero => exact .ok hc
  | succ steps ih =>
    unfold escapedBytes
    split
    · exact .ok hc
    · split
      · exact ih _ ((Cursor.skip_suffix 3 c).trans hc)
      · exact .error nofun

/-- The characters of a tag, escaped or not, by induction on the number of its runs. -/
theorem tagCharacters_meets (steps : Nat) (done : List Char) (hc : c.rest <:+ cs) :
    Stays cs Prod.snd (tagCharacters steps done c) := by
  induction steps generalizing done c with
  | zero => exact .ok hc
  | succ steps ih =>
    have hrun : (c.span isTagCharacter).2.rest <:+ cs := (c.span_suffix _).trans hc
    unfold tagCharacters
    dsimp only
    split
    · exact .ok hrun
    · refine Meets.bind (escapedBytes_meets _ [] hrun) ?_
      rintro ⟨bytes, after⟩ hafter
      dsimp only
      split
      · exact ih _ hafter
      · exact .error nofun

/-- The text of a tag, which may not be empty. -/
theorem readTagText_meets (hc : c.rest <:+ cs) : Stays cs Prod.snd (readTagText c) := by
  unfold readTagText
  split
  · exact .error nofun
  · refine Meets.bind (tagCharacters_meets _ [] hc) ?_
    rintro ⟨chars, after⟩ hafter
    exact .ok hafter

/-- The handle of a tag: one mark, two marks, or a name between two. -/
theorem readHandle_meets (hc : c.rest <:+ cs) : Stays cs Prod.snd (readHandle c) := by
  have hname : (c.next.span isNameCharacter).2.rest <:+ cs :=
    ((Cursor.span_suffix _ _).trans c.next_suffix).trans hc
  unfold readHandle
  dsimp only
  split
  · exact .error nofun
  split
  · exact .ok (c.next_suffix.trans hc)
  split
  · exact .error nofun
  · exact .ok ((Cursor.next_suffix _).trans hname)

/-- A tag in each of its forms: in full, as a mark alone, or with a handle. -/
theorem readTag_meets (hc : c.rest <:+ cs) : Stays cs Prod.snd (readTag c) := by
  -- what all three forms of a tag end with
  have hend : ∀ r : TagText × Cursor, r.2.rest <:+ cs → Stays cs Prod.snd
      (if (!isWordEnd r.2.head) = true then .error .malformed else .ok r) := by
    intro r hr
    split
    · exact .error nofun
    · exact .ok hr
  unfold readTag
  dsimp only
  split
  · refine Meets.bind (readTagText_meets ((Cursor.skip_suffix 2 c).trans hc)) ?_
    rintro ⟨suffix, after⟩ hafter
    dsimp only
    split
    · exact .error nofun
    · exact hend (_, _) (after.next_suffix.trans hafter)
  split
  · exact hend (_, _) (c.next_suffix.trans hc)
  split
  · refine Meets.bind (readHandle_meets hc) ?_
    rintro ⟨handle, afterHandle⟩ hhandle
    refine Meets.bind (readTagText_meets hhandle) ?_
    rintro ⟨suffix, after⟩ hafter
    exact hend (_, _) hafter
  · have hhandle : c.next.rest <:+ cs := c.next_suffix.trans hc
    show Stays cs Prod.snd ((readTagText c.next) >>= _)
    refine Meets.bind (readTagText_meets hhandle) ?_
    rintro ⟨suffix, after⟩ hafter
    exact hend (_, _) hafter

/-! ### Directives -/

/-- A number of a version directive. It is the only part of a directive that may be too long to be
read, and then its digits stand in the text side by side. -/
theorem readVersionNumber_meets (hc : c.rest <:+ cs) :
    Stays cs Prod.snd (readVersionNumber c) := by
  unfold readVersionNumber readRun
  dsimp only
  split
  · exact .error nofun
  · show Stays cs Prod.snd (if _ then _ else _)
    split
    · next hlong =>
      refine .error fun _ => .inl ?_
      exact .of_suffix (List.takeWhile_prefix _) hc (List.all_eq_true.1 List.all_takeWhile) hlong
    · exact .ok ((c.span_suffix _).trans hc)

/-- A version directive has two such numbers. -/
theorem readVersion_meets (hc : c.rest <:+ cs) : Stays cs Prod.snd (readVersion c) := by
  unfold readVersion
  refine Meets.bind (readVersionNumber_meets ((c.skipWhile_suffix _).trans hc)) ?_
  rintro ⟨major, afterMajor⟩ hmajor
  dsimp only
  split
  · exact .error nofun
  refine Meets.bind (readVersionNumber_meets (afterMajor.next_suffix.trans hmajor)) ?_
  rintro ⟨minor, afterMinor⟩ hminor
  dsimp only
  split
  · exact .error nofun
  · exact .ok hminor

/-- A directive that says what a handle stands for holds no value. -/
theorem readHandleDirective_meets (hc : c.rest <:+ cs) :
    Stays cs Prod.snd (readHandleDirective c) := by
  unfold readHandleDirective
  refine Meets.bind (readHandle_meets ((c.skipWhile_suffix _).trans hc)) ?_
  rintro ⟨handle, afterHandle⟩ hhandle
  dsimp only
  split
  · exact .error nofun
  refine Meets.bind (readTagText_meets ((afterHandle.skipWhile_suffix _).trans hhandle)) ?_
  rintro ⟨lead, afterLead⟩ hlead
  dsimp only
  split
  · exact .error nofun
  · exact .ok hlead

/-- A directive of any kind, up to the end of its line. -/
theorem readDirective_meets (hc : c.rest <:+ cs) : Stays cs Prod.snd (readDirective c) := by
  have hend : ∀ r : Directive × Cursor, r.2.rest <:+ cs → Stays cs Prod.snd
      (do let after ← r.2.finishLine; return (r.1, after)) := by
    intro r hr
    refine Meets.bind (finishLine_meets hr) ?_
    intro after hafter
    exact .ok hafter
  unfold readDirective
  refine Meets.bind (readRun_meets _ (c.next_suffix.trans hc)) ?_
  rintro ⟨name, afterName⟩ hname
  dsimp only
  split
  · exact .error nofun
  split
  · refine Meets.bind (readVersion_meets hname) ?_
    rintro ⟨directive, after⟩ hafter
    exact hend (_, _) hafter
  split
  · refine Meets.bind (readHandleDirective_meets hname) ?_
    rintro ⟨directive, after⟩ hafter
    exact hend (_, _) hafter
  · exact hend (_, _) ((afterName.skipWhile_suffix _).trans hname)

end Label

/-! ## Quoted scalars -/

namespace Quoted

variable {cs : List Char} {c : Cursor}

/-- The empty lines within a quoted scalar, up to a line with something in it. -/
theorem emptyLines_meets (steps : Nat) (breaks : List Char) (hc : c.rest <:+ cs) :
    Stays cs Prod.snd (emptyLines steps breaks c) := by
  induction steps generalizing breaks c with
  | zero => exact .error nofun
  | succ steps ih =>
    unfold emptyLines
    split
    · exact .error nofun
    have hspacing : (c.skipWhile isSpacing).rest <:+ cs := (c.skipWhile_suffix _).trans hc
    dsimp only
    split
    · next hbreak => exact ih _ ((Cursor.lineBreak?_suffix hbreak).trans hspacing)
    · exact .ok hspacing

/-- Blanks within a quoted scalar, with the ends of lines among them. -/
theorem readSpacing_meets (hc : c.rest <:+ cs) : Stays cs Prod.snd (readSpacing c) := by
  have hspacing : (c.span isSpacing).2.rest <:+ cs := (c.span_suffix _).trans hc
  unfold readSpacing
  dsimp only
  split
  · exact .error nofun
  split
  · next hbreak =>
    refine Meets.bind (emptyLines_meets _ [] ((Cursor.lineBreak?_suffix hbreak).trans hspacing)) ?_
    rintro ⟨breaks, after⟩ hafter
    exact .ok hafter
  · exact .ok hspacing

/-- Hexadecimal digits have values below sixteen. -/
theorem hexDigit?_lt {d : Char} {n : Nat} (h : hexDigit? d = some n) : n < 16 := by
  have hletter : ∀ {low high : Char}, (low ≤ d && d ≤ high) = true →
      low.toNat ≤ d.toNat ∧ d.toNat ≤ high.toNat := by
    intro low high hd
    simpa only [Bool.and_eq_true, decide_eq_true_eq, Char.le_def, UInt32.le_iff_toNat_le,
      Char.toNat_val] using hd
  unfold hexDigit? at h
  split at h
  · next hd =>
    have hvalue : d.toNat ≤ 57 := (hletter hd).2
    simp only [Option.some.injEq] at h
    omega
  split at h
  · next hd =>
    have hvalue : d.toNat ≤ 102 := (hletter hd).2
    simp only [Option.some.injEq] at h
    omega
  split at h
  · next hd =>
    have hvalue : d.toNat ≤ 70 := (hletter hd).2
    simp only [Option.some.injEq] at h
    omega
  · cases h

/-- The value of hexadecimal digits is below that of a one and as many zeros. -/
theorem foldl_hex_lt (digits : List Char) (value : Nat) :
    digits.foldl (fun value d => value * 16 + (hexDigit? d).getD 0) value <
      (value + 1) * 16 ^ digits.length := by
  apply Numeral.foldl_digits_lt fun d => (hexDigit? d).getD 0
  intro d _
  cases h : hexDigit? d with
  | none => decide
  | some n => exact hexDigit?_lt h

/-- An escape of eight digits is the only one that can go beyond the last code point. -/
theorem hasWideEscape_of_lt {width : Nat} (hhead : c.head = '\\')
    (hwidth : hexWidth? c.next.head = some width)
    (hdigits : ((c.next.rest.drop 1).take width).length = width)
    (hhex : ((c.next.rest.drop 1).take width).all isHexDigit = true)
    (hvalue : 0x10FFFF < ((c.next.rest.drop 1).take width).foldl
      (fun value d => value * 16 + (hexDigit? d).getD 0) 0)
    (hc : c.rest <:+ cs) : HasWideEscape cs := by
  have hbound := foldl_hex_lt ((c.next.rest.drop 1).take width) 0
  rw [hdigits] at hbound
  have hletter : c.next.head = 'U' ∧ width = 8 := by
    unfold hexWidth? at hwidth
    split at hwidth
    · cases hwidth
      omega
    · cases hwidth
      omega
    · next h =>
      cases hwidth
      exact ⟨h, rfl⟩
    · cases hwidth
  obtain ⟨hU, rfl⟩ := hletter
  refine ⟨_, ?_, hdigits, hhex, hvalue⟩
  have hrest : c.rest = '\\' :: 'U' :: c.next.rest.drop 1 := by
    rw [Cursor.rest_eq_cons hhead (by decide)]
    congr 1
    rw [Cursor.rest_eq_cons hU (by decide), Cursor.rest_next]
    simp
  have hwhere : '\\' :: 'U' :: (c.next.rest.drop 1).take 8 <+: c.rest := by
    rw [hrest]
    simp [List.take_prefix]
  exact hwhere.isInfix.trans hc.isInfix

/-- An escape is malformed, or it is for a code point, or it stands in the text and there is no such
code point. -/
theorem readEscape_meets (hhead : c.head = '\\') (hc : c.rest <:+ cs) :
    Stays cs Prod.snd (readEscape c) := by
  have hnext : c.next.rest <:+ cs := c.next_suffix.trans hc
  unfold readEscape
  dsimp only
  split
  · exact .ok ((Cursor.next_suffix _).trans hnext)
  split
  · next width hwidth =>
    split
    · exact .error nofun
    · next hdigits =>
      split
      · next hvalue =>
        simp only [Bool.or_eq_true, bne_iff_ne, ne_eq, Bool.not_eq_true', not_or,
          Decidable.not_not, Bool.not_eq_false] at hdigits
        exact .error fun _ =>
          .inr (hasWideEscape_of_lt hhead hwidth hdigits.1 hdigits.2 hvalue hc)
      · exact .ok ((Cursor.skip_suffix _ _).trans hnext)
  split
  · next hbreak =>
    refine Meets.bind (emptyLines_meets _ [] ((Cursor.lineBreak?_suffix hbreak).trans hnext)) ?_
    rintro ⟨breaks, after⟩ hafter
    exact .ok hafter
  · exact .error nofun

/-- The code points of a quoted scalar, by induction on the number of its pieces. Escapes are the
only pieces that may have a value that cannot be read. -/
theorem readCodes_meets (double : Bool) (steps : Nat) (codes : List Nat) (hc : c.rest <:+ cs) :
    Stays cs Prod.snd (readCodes double steps codes c) := by
  induction steps generalizing codes c with
  | zero => exact .error nofun
  | succ steps ih =>
    unfold readCodes
    dsimp only
    split
    · exact .error nofun
    split
    · refine Meets.bind (readSpacing_meets hc) ?_
      rintro ⟨read, after⟩ hafter
      exact ih _ hafter
    split
    · next hescape =>
      have hhead : c.head = '\\' := by
        rw [Bool.and_eq_true, beq_iff_eq] at hescape
        exact hescape.2
      refine Meets.bind (readEscape_meets hhead hc) ?_
      rintro ⟨read, after⟩ hafter
      exact ih _ hafter
    split
    · exact ih _ ((Cursor.skip_suffix 2 c).trans hc)
    have hlast : ∀ quote, Stays cs Prod.snd (if (c.head == quote) = true
        then .ok (codes.reverse, c.next)
        else readCodes double steps (c.head.toNat :: codes) c.next) := by
      intro quote
      split
      · exact .ok (c.next_suffix.trans hc)
      · exact ih _ (c.next_suffix.trans hc)
    exact hlast _

/-- A quoted scalar with its quotes. -/
theorem read_meets (double : Bool) (hc : c.rest <:+ cs) :
    Stays cs Prod.snd (read double c) := by
  unfold read
  refine Meets.bind (readCodes_meets double _ [] (c.next_suffix.trans hc)) ?_
  rintro ⟨codes, after⟩ hafter
  exact .ok hafter

end Quoted

/-! ## Block scalars -/

namespace Block

variable {cs : List Char} {c : Cursor}

/-- The header of a block scalar: how its last lines are kept and how far it is indented, in either
order. -/
theorem readHeader_meets (hc : c.rest <:+ cs) : Stays cs Prod.snd (readHeader c) := by
  unfold readHeader
  split
  next before place hbefore =>
  have hplace : place.rest <:+ cs := by
    split at hbefore
    · cases hbefore
      exact c.next_suffix.trans hc
    · cases hbefore
      exact hc
  extract_lets afterDigit
  have hafter : ∀ r : Option Nat × Cursor, r.2.rest <:+ cs → Stays cs Prod.snd (afterDigit r) := by
    rintro ⟨increment, place⟩ hplace
    unfold afterDigit
    dsimp only
    split
    · dsimp only
      split
      · exact .error nofun
      · exact .ok (place.next_suffix.trans hplace)
    · dsimp only
      split
      · exact .error nofun
      · exact .ok hplace
  split
  · split
    · exact .error nofun
    · exact hafter (_, place.next) (place.next_suffix.trans hplace)
  · exact hafter (none, place) hplace

/-- The indentation of a line is passed within the text. -/
theorem skipIndent_suffix (indent : Nat) (c : Cursor) : (skipIndent indent c).rest <:+ c.rest :=
  Cursor.skip_suffix _ c

/-- The empty lines before a line of a block end within the text. -/
theorem emptyLines_suffix (indent steps : Nat) (breaks : List Char) (c : Cursor) :
    (emptyLines indent steps breaks c).2.rest <:+ c.rest := by
  induction steps generalizing breaks c with
  | zero => exact List.suffix_rfl
  | succ steps ih =>
    unfold emptyLines
    dsimp only
    split
    · next hbreak =>
      exact ((ih _ _).trans (Cursor.lineBreak?_suffix hbreak)).trans (skipIndent_suffix indent c)
    · exact skipIndent_suffix indent c

/-- So do the empty lines before the first line, which sets the indentation. -/
theorem leadingLines_suffix (steps : Nat) (breaks : List Char) (widest : Nat) (c : Cursor) :
    (leadingLines steps breaks widest c).2.2.rest <:+ c.rest := by
  induction steps generalizing breaks widest c with
  | zero => exact List.suffix_rfl
  | succ steps ih =>
    unfold leadingLines
    dsimp only
    split
    · next hbreak =>
      exact ((ih _ _ _).trans (Cursor.lineBreak?_suffix hbreak)).trans (c.skipWhile_suffix _)
    · exact c.skipWhile_suffix _

/-- So do the lines of a block, by induction on their number. Nothing in them can fail. -/
theorem readLines_suffix (folds : Bool) (indent steps : Nat) (breaks done : List Char)
    (c : Cursor) : (readLines folds indent steps breaks done c).2.2.2.rest <:+ c.rest := by
  induction steps generalizing breaks done c with
  | zero => exact List.suffix_rfl
  | succ steps ih =>
    have hlines : ∀ after : Cursor, after.rest <:+ c.rest → ∀ steps,
        (emptyLines indent steps [] after).2.rest <:+ c.rest :=
      fun after h steps => (emptyLines_suffix indent steps [] after).trans h
    unfold readLines
    have hline : (c.span (!isBreak ·)).2.rest <:+ c.rest := c.span_suffix _
    dsimp only
    split
    · exact List.suffix_rfl
    split
    · next hbreak =>
      have hafter := (Cursor.lineBreak?_suffix hbreak).trans hline
      split
      · exact hlines _ hafter _
      · exact (ih _ _ _).trans (hlines _ hafter _)
    · split
      · exact hlines _ hline _
      · exact (ih _ _ _).trans (hlines _ hline _)

/-- A block scalar fails with its header only. -/
theorem read_meets (folds : Bool) (least : Nat) (hc : c.rest <:+ cs) :
    Stays cs Prod.snd (read folds least c) := by
  unfold read
  refine Meets.bind (readHeader_meets (c.next_suffix.trans hc)) ?_
  rintro ⟨header, afterHeader⟩ hheader
  refine Meets.bind (finishLine_meets hheader) ?_
  intro place hplace
  dsimp only
  apply Meets.ok
  refine List.IsSuffix.trans (readLines_suffix _ _ _ _ _ _) (List.IsSuffix.trans ?_ hplace)
  split
  · exact emptyLines_suffix _ _ _ _
  · exact leadingLines_suffix _ _ _ _

end Block

/-! ## Plain scalars -/

namespace Plain

variable {cs : List Char} {c : Cursor}

/-- The empty lines within a plain scalar end within the text. -/
theorem emptyLines_suffix (steps : Nat) (breaks : List Char) (c : Cursor) :
    (emptyLines steps breaks c).2.rest <:+ c.rest := by
  induction steps generalizing breaks c with
  | zero => exact List.suffix_rfl
  | succ steps ih =>
    have hspaces : c.skipSpaces.rest <:+ c.rest := c.skipWhile_suffix _
    unfold emptyLines
    dsimp only
    split
    · next hbreak =>
      have hafter := (Cursor.lineBreak?_suffix hbreak).trans hspaces
      split
      · exact hafter
      · exact (ih _ _).trans hafter
    · exact hspaces

/-- A gap between two words, with the ends of lines in it, ends within the text. -/
theorem gap_suffix (c : Cursor) : (gap c).2.2.rest <:+ c.rest := by
  have hspaces : (c.span (· == ' ')).2.rest <:+ c.rest := c.span_suffix _
  unfold gap
  dsimp only
  split
  · exact hspaces
  · next hbreak =>
    have hafter := (Cursor.lineBreak?_suffix hbreak).trans hspaces
    split
    · exact hafter
    · next after _ =>
      have hlines := (emptyLines_suffix (after.rest.length + 1) [] after).trans hafter
      split
      · next h =>
        rw [h] at hlines
        exact hlines
      · next h =>
        rw [h] at hlines
        exact hlines

/-- The words of a plain scalar end within the text, by induction on their number. -/
theorem readWords_suffix (inFlow : Bool) (indent steps : Nat) (between done : List Char)
    (broke : Bool) (c : Cursor) :
    (readWords inFlow indent steps between done broke c).2.2.rest <:+ c.rest := by
  induction steps generalizing between done broke c with
  | zero => exact List.suffix_rfl
  | succ steps ih =>
    unfold readWords
    dsimp only
    split
    · exact List.suffix_rfl
    · have hgap := (gap_suffix (c.skip (wordReversed inFlow [] c.rest).length)).trans
        (Cursor.skip_suffix _ c)
      split
      · exact hgap
      · exact (ih _ _ _ _).trans hgap

/-- A plain scalar ends within the text. It cannot fail. -/
theorem read_suffix (inFlow : Bool) (indent : Nat) (c : Cursor) :
    (read inFlow indent c).2.2.rest <:+ c.rest := by
  unfold read
  exact readWords_suffix _ _ _ _ _ _ _

end Plain

end ClusterPlan.Yaml
