import ClusterPlan.Document.Json
import ClusterPlan.Proofs.Outcome

/-!
# Numerals that JSON cannot hold

Reading JSON fails with a flaw at a position, or because of an integer with too many digits. In the
second case those digits stand in the text side by side (`Json.hasRun_of_overlong`).

The reader only ever looks at an end of the text: what follows the cursor is a suffix of the text
after every step. So the digits of a numeral, which begin at the cursor, are a piece of the text.
-/

namespace ClusterPlan

/-- More than a given number of digits side by side. -/
def HasRun (limit : Nat) (cs : List Char) : Prop :=
  ∃ digits, digits <:+: cs ∧ (∀ c ∈ digits, c.isDigit = true) ∧ limit < digits.length

/-- Digits that stand where reading has come to stand in the text. -/
theorem HasRun.of_suffix {limit : Nat} {digits rest cs : List Char} (hdigits : digits <+: rest)
    (hrest : rest <:+ cs) (hall : ∀ c ∈ digits, c.isDigit = true) (hlong : limit < digits.length) :
    HasRun limit cs :=
  ⟨digits, hdigits.isInfix.trans hrest.isInfix, hall, hlong⟩

namespace Json

variable {limit : Nat} {cs : List Char} {c : Cursor}

theorem Cursor.skip_suffix (c : Cursor) (n : Nat) : (c.skip n).rest <:+ c.rest :=
  List.drop_suffix n c.rest

theorem Cursor.skipGap_suffix (c : Cursor) : c.skipGap.rest <:+ c.rest :=
  c.skip_suffix _

/-! ## Numbers -/

/-- The digits of a whole number stand at its beginning. -/
theorem wholeDigits_prefix (cs : List Char) :
    wholeDigits cs <+: cs ∧ ∀ c ∈ wholeDigits cs, c.isDigit = true := by
  unfold wholeDigits
  split
  · refine ⟨List.prefix_append ['0'] _, ?_⟩
    intro c hc
    rw [List.mem_singleton.1 hc]
    rfl
  · exact ⟨List.takeWhile_prefix _, List.all_eq_true.1 List.all_takeWhile⟩

/-- A number that is too long to be read has its digits side by side. -/
theorem readNumber_meets (limit : Nat) (hc : c.rest <:+ cs) :
    Meets (fun e => e = .overlong → HasRun limit cs) (fun r => r.2.rest <:+ cs)
      (readNumber (some limit) c) := by
  unfold readNumber
  extract_lets negative afterSign whole afterWhole places afterFraction
  have hsign : afterSign.rest <:+ cs := by
    unfold afterSign
    split
    · exact (c.skip_suffix 1).trans hc
    · exact hc
  have hwhole : afterWhole.rest <:+ cs := (afterSign.skip_suffix _).trans hsign
  have hfraction : afterFraction.rest <:+ cs := by
    unfold afterFraction
    split
    · exact hwhole
    · exact (afterWhole.skip_suffix _).trans hwhole
  split
  · exact .error nofun
  split
  · exact .ok ((afterFraction.skip_suffix _).trans hfraction)
  split
  · split
    · next hlong =>
      refine .error fun _ => ?_
      obtain ⟨hwhere, hall⟩ := wholeDigits_prefix afterSign.rest
      exact .of_suffix hwhere hsign hall (by simpa using hlong)
    · exact .ok hwhole
  · exact .ok hfraction

/-! ## Texts -/

theorem readCodePoint_meets (position : Nat) (after : List Char) :
    Meets (· ≠ .overlong) (fun _ => True) (readCodePoint position after) := by
  unfold readCodePoint
  split
  · exact .error nofun
  split
  · exact .error nofun
  split
  · split
    · split
      · exact .error nofun
      · split
        · exact .ok trivial
        · exact .ok trivial
    · exact .ok trivial
  · exact .ok trivial

/-- The text ends somewhere in what follows its beginning. -/
theorem readText_meets (start pending : Nat) (codes : List Nat) (position : Nat)
    (rest : List Char) :
    Meets (· ≠ .overlong) (fun r => r.2.rest <:+ rest)
      (readText start pending codes position rest) := by
  induction rest generalizing pending codes position with
  | nil => exact .error nofun
  | cons c rest ih =>
    -- whatever the next step is, it begins one character further on
    have hstep : ∀ pending codes, Meets (· ≠ .overlong) (fun r => r.2.rest <:+ c :: rest)
        (readText start pending codes (position + 1) rest) := by
      intro pending codes
      exact (ih pending codes (position + 1)).weaken fun _ h => h.trans (List.suffix_cons c rest)
    cases pending with
    | succ pending => exact hstep pending codes
    | zero =>
      unfold readText
      split
      · exact .ok (List.suffix_cons c rest)
      split
      · split
        · exact .error nofun
        · next letter after =>
          have hcode := readCodePoint_meets (position + 1) after
          split
          · split
            · next code taken _ => exact hstep taken (code :: codes)
            · next e hread => exact .error (hcode.of_error hread)
          · split
            · exact hstep 1 _
            · exact .error nofun
      split
      · exact .error nofun
      · exact hstep 0 _

/-! ## Values -/

/-- The readers of values, items and members with a number of steps fail because of an overlong
integer only if the text has too many digits side by side, and end in the text. -/
structure Sound (limit steps : Nat) (cs : List Char) : Prop where
  value : ∀ c : Cursor, c.rest <:+ cs →
    Meets (fun e => e = .overlong → HasRun limit cs) (fun r => r.2.rest <:+ cs)
      (readValue (some limit) steps c)
  items : ∀ done, ∀ c : Cursor, c.rest <:+ cs →
    Meets (fun e => e = .overlong → HasRun limit cs) (fun r => r.2.rest <:+ cs)
      (readItems (some limit) steps done c)
  members : ∀ done, ∀ c : Cursor, c.rest <:+ cs →
    Meets (fun e => e = .overlong → HasRun limit cs) (fun r => r.2.rest <:+ cs)
      (readMembers (some limit) steps done c)

namespace Sound

variable {steps : Nat}

/-- A text cannot be too long. -/
theorem text_at (hc : c.rest <:+ cs) (start position : Nat) :
    Meets (· ≠ .overlong) (fun r => r.2.rest <:+ cs)
      (readText start 0 [] position (c.rest.drop 1)) :=
  (readText_meets start 0 [] position _).weaken fun _ h =>
    (h.trans (List.drop_suffix 1 c.rest)).trans hc

/-- A value of any form, from what is known of its parts. -/
theorem value_succ (h : Sound limit steps cs) (hc : c.rest <:+ cs) :
    Meets (fun e => e = .overlong → HasRun limit cs) (fun r => r.2.rest <:+ cs)
      (readValue (some limit) (steps + 1) c) := by
  have hinner : (c.skip 1).skipGap.rest <:+ cs :=
    ((c.skip 1).skipGap_suffix.trans (c.skip_suffix 1)).trans hc
  have hclosed : ((c.skip 1).skipGap.skip 1).rest <:+ cs :=
    ((c.skip 1).skipGap.skip_suffix 1).trans hinner
  rw [readValue]
  split
  · exact .error nofun
  · have htext := text_at hc c.position (c.position + 1)
    split
    · next codes after hread => exact .ok (htext.of_ok hread)
    · next e hread => exact .error fun he => absurd he (htext.of_error hread)
  · dsimp only
    split
    · exact .ok hclosed
    · exact h.items [] _ hinner
  · dsimp only
    split
    · exact .ok hclosed
    · exact h.members [] _ hinner
  · split
    · exact .ok ((c.skip_suffix _).trans hc)
    · have hnumber := readNumber_meets limit hc
      split
      · next s after hread => exact .ok (hnumber.of_ok hread)
      · next e hread => exact .error (hnumber.of_error hread)

/-- The items of a list. -/
theorem items_succ (h : Sound limit steps cs) (done : List Document) (hc : c.rest <:+ cs) :
    Meets (fun e => e = .overlong → HasRun limit cs) (fun r => r.2.rest <:+ cs)
      (readItems (some limit) (steps + 1) done c) := by
  have hvalue := h.value c hc
  rw [readItems]
  split
  · next e hread => exact .error (hvalue.of_error hread)
  · next item after hread =>
    have hnext : after.skipGap.rest <:+ cs :=
      after.skipGap_suffix.trans (hvalue.of_ok hread)
    have hbehind : (after.skipGap.skip 1).rest <:+ cs := (after.skipGap.skip_suffix 1).trans hnext
    dsimp only
    split
    · exact .ok hbehind
    · exact h.items _ _ ((after.skipGap.skip 1).skipGap_suffix.trans hbehind)
    · exact .error nofun

/-- The members of an object. -/
theorem members_succ (h : Sound limit steps cs) (done : List (Scalar × Document))
    (hc : c.rest <:+ cs) :
    Meets (fun e => e = .overlong → HasRun limit cs) (fun r => r.2.rest <:+ cs)
      (readMembers (some limit) (steps + 1) done c) := by
  rw [readMembers]
  split
  · have hname := text_at hc c.position (c.position + 1)
    split
    · next e hread => exact .error fun he => absurd he (hname.of_error hread)
    · next codes afterName hread =>
      have hcolon : afterName.skipGap.rest <:+ cs :=
        afterName.skipGap_suffix.trans (hname.of_ok hread)
      have hplace : (afterName.skipGap.skip 1).skipGap.rest <:+ cs :=
        ((afterName.skipGap.skip 1).skipGap_suffix.trans (afterName.skipGap.skip_suffix 1)).trans
          hcolon
      have hvalue := h.value _ hplace
      dsimp only
      split
      · split
        · next e hread => exact .error (hvalue.of_error hread)
        · next value after hread =>
          have hnext : after.skipGap.rest <:+ cs :=
            after.skipGap_suffix.trans (hvalue.of_ok hread)
          have hbehind : (after.skipGap.skip 1).rest <:+ cs :=
            (after.skipGap.skip_suffix 1).trans hnext
          split
          · exact .ok hbehind
          · exact h.members _ _ ((after.skipGap.skip 1).skipGap_suffix.trans hbehind)
          · exact .error nofun
      · exact .error nofun
  · exact .error nofun

end Sound

/-- Values and their parts, by induction on the number of steps. -/
theorem sound (limit steps : Nat) (cs : List Char) : Sound limit steps cs := by
  induction steps with
  | zero => exact ⟨fun _ _ => .error nofun, fun _ _ _ => .error nofun, fun _ _ _ => .error nofun⟩
  | succ steps ih =>
    exact ⟨fun _ hc => ih.value_succ hc, fun done _ hc => ih.items_succ done hc,
      fun done _ hc => ih.members_succ done hc⟩

/-- Reading fails because of an overlong integer only in a text with too many digits side by
side. -/
theorem hasRun_of_overlong (h : read (some limit) cs = .error .overlong) : HasRun limit cs := by
  have hbegin : (Cursor.mk 0 cs).skipGap.rest <:+ cs := Cursor.skipGap_suffix _
  have hvalue := (sound limit (2 * cs.length + 2) cs).value _ hbegin
  unfold read at h
  split at h
  · cases h
  · split at h
    · next e hread =>
      cases h
      exact hvalue.of_error hread rfl
    · next d after hread =>
      dsimp only at h
      split at h <;> cases h

end Json

end ClusterPlan
