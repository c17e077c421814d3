import ClusterPlan.Numeral
import ClusterPlan.Text.Cut
import Mathlib.Algebra.Group.Nat.Defs

/-!
# The grammar of integer numerals

A numeral has digits, of which any two may have one underscore between them. A sign and the mark of
the radix may stand before the digits, and blanks around the whole. The reader takes a text apart
from its ends: blanks first, then the sign and the mark, and what is left has to be digits. It
succeeds iff there is a spelling of the text by the grammar (`isSome_read_iff`), because the parts
cannot be mistaken for each other: no digit is a blank, a sign, an underscore or the letter of a
mark. The integer that it finds is the one that the spelling denotes (`read_eq_some_iff`).

Wide blanks count as spaces, and digits of all scripts as ASCII digits (`plain`).

A decimal numeral has no more digits than an integer that can be written out, so what has been read
can be written again (`Denotes.isWritable`).
-/

namespace ClusterPlan.Numeral

open ClusterPlan.Text

variable {radix : Nat} {cs rest : List Char} {c : Char}

/-! ## Trimmed texts -/

/-- A text is what is left after trimming, with characters of the class around it. -/
theorem exists_trim (p : Char → Bool) (cs : List Char) :
    ∃ before after, cs = before ++ (trim p cs ++ after) ∧ (∀ c ∈ before, p c = true) ∧
      ∀ c ∈ after, p c = true := by
  refine ⟨cs.takeWhile p, ((cs.dropWhile p).reverse.takeWhile p).reverse, ?_, ?_, ?_⟩
  · rw [trim, trimEnd, ← List.reverse_append, List.takeWhile_append_dropWhile,
      List.reverse_reverse, List.takeWhile_append_dropWhile]
  · exact List.all_eq_true.1 List.all_takeWhile
  · exact fun c hc => List.all_eq_true.1 List.all_takeWhile c (List.mem_reverse.1 hc)

/-- Nothing is left of a text iff all of it is in the class. -/
theorem trim_eq_nil {p : Char → Bool} {cs : List Char} :
    trim p cs = [] ↔ ∀ c ∈ cs, p c = true := by
  constructor
  · intro hnil
    obtain ⟨before, after, hcs, hbefore, hafter⟩ := exists_trim p cs
    rw [hnil, List.nil_append] at hcs
    rw [hcs, List.forall_mem_append]
    exact ⟨hbefore, hafter⟩
  · intro h
    have hdrop : (cs ++ []).dropWhile p = [].dropWhile p := List.dropWhile_append_of_pos h
    rw [List.append_nil] at hdrop
    rw [trim, hdrop]
    rfl

/-- Trimming leaves a text whose ends are not in the class. -/
theorem trim_append {p : Char → Bool} {before core after : List Char}
    (hbefore : ∀ c ∈ before, p c = true) (hafter : ∀ c ∈ after, p c = true) (hcore : core ≠ [])
    (hfirst : StopsAt p core) (hlast : StopsAt p core.reverse) :
    trim p (before ++ (core ++ after)) = core := by
  have hstop : StopsAt p (core ++ after) := by
    cases core with
    | nil => exact absurd rfl hcore
    | cons c core => exact hfirst
  have hafter' : ∀ c ∈ after.reverse, p c = true := fun c hc => hafter c (List.mem_reverse.1 hc)
  rw [trim, (takeWhile_run hbefore hstop).2, trimEnd, List.reverse_append,
    (takeWhile_run hafter' hlast).2, List.reverse_reverse]

/-! ## Digits -/

/-- A digit of a radix. -/
def IsDigitOf (radix : Nat) (c : Char) : Prop := ∃ d, hexDigit? c = some d ∧ d < radix

/-- Digits, of which any two may have an underscore between them. -/
inductive Digits (radix : Nat) : List Char → Prop
  | last {c : Char} (h : IsDigitOf radix c) : Digits radix [c]
  | digit {c : Char} {cs : List Char} (h : IsDigitOf radix c) (hcs : Digits radix cs) :
    Digits radix (c :: cs)
  | underscore {c : Char} {cs : List Char} (h : IsDigitOf radix c) (hcs : Digits radix cs) :
    Digits radix (c :: '_' :: cs)

/-- What may follow a digit. -/
def Continues (radix : Nat) (cs : List Char) : Prop :=
  cs = [] ∨ Digits radix cs ∨ ∃ rest, cs = '_' :: rest ∧ Digits radix rest

theorem digits_cons_iff : Digits radix (c :: cs) ↔ IsDigitOf radix c ∧ Continues radix cs := by
  constructor
  · rintro (h | ⟨h, hcs⟩ | ⟨h, hcs⟩)
    · exact ⟨h, .inl rfl⟩
    · exact ⟨h, .inr (.inl hcs)⟩
    · exact ⟨h, .inr (.inr ⟨_, rfl, hcs⟩)⟩
  · rintro ⟨h, rfl | hcs | ⟨rest, rfl, hcs⟩⟩
    · exact .last h
    · exact .digit h hcs
    · exact .underscore h hcs

namespace IsDigitOf

theorem ne_of_hexDigit? (h : IsDigitOf radix c) {other : Char} (hother : hexDigit? other = none) :
    c ≠ other := by
  rintro rfl
  obtain ⟨d, hd, -⟩ := h
  rw [hother] at hd
  cases hd

theorem ne_underscore (h : IsDigitOf radix c) : c ≠ '_' := h.ne_of_hexDigit? (by decide)

theorem ne_sign (h : IsDigitOf radix c) : c ≠ '+' ∧ c ≠ '-' :=
  ⟨h.ne_of_hexDigit? (by decide), h.ne_of_hexDigit? (by decide)⟩

/-- Digits come after the blanks and the signs. -/
theorem le_toNat (h : IsDigitOf radix c) : 48 ≤ c.toNat := by
  obtain ⟨d, hd, -⟩ := h
  unfold hexDigit? at hd
  have hrange : ∀ low high : Char, (decide (low ≤ c) && decide (c ≤ high)) = true →
      low.toNat ≤ c.toNat := by
    intro low high h
    exact UInt32.le_iff_toNat_le.1 (of_decide_eq_true (Bool.and_eq_true_iff.1 h).1)
  split at hd
  · next h => exact hrange '0' '9' h
  split at hd
  · next h => exact Nat.le_trans (by decide) (hrange _ _ h)
  split at hd
  · next h => exact Nat.le_trans (by decide) (hrange _ _ h)
  · cases hd

theorem not_isAsciiBlank (h : IsDigitOf radix c) : isAsciiBlank c = false := by
  have hle := h.le_toNat
  simp only [isAsciiBlank, Bool.or_eq_false_iff, Bool.and_eq_false_imp, decide_eq_true_eq,
    decide_eq_false_iff_not, beq_eq_false_iff_ne]
  omega

end IsDigitOf

namespace Digits

theorem exists_head (h : Digits radix cs) : ∃ c rest, cs = c :: rest ∧ IsDigitOf radix c := by
  cases h with
  | last h => exact ⟨_, _, rfl, h⟩
  | digit h hcs => exact ⟨_, _, rfl, h⟩
  | underscore h hcs => exact ⟨_, _, rfl, h⟩

theorem exists_last (h : Digits radix cs) : ∃ front c, cs = front ++ [c] ∧ IsDigitOf radix c := by
  induction h with
  | last h => exact ⟨[], _, rfl, h⟩
  | digit h hcs ih =>
    obtain ⟨front, last, rfl, hlast⟩ := ih
    exact ⟨_ :: front, last, rfl, hlast⟩
  | underscore h hcs ih =>
    obtain ⟨front, last, rfl, hlast⟩ := ih
    exact ⟨_ :: '_' :: front, last, rfl, hlast⟩

/-- Besides underscores there are only digits. -/
theorem isDigitOf_of_mem (h : Digits radix cs) (hc : c ∈ cs) (hne : c ≠ '_') :
    IsDigitOf radix c := by
  induction h with
  | last h =>
    rwa [List.mem_singleton.1 hc]
  | digit h hcs ih =>
    rcases List.mem_cons.1 hc with rfl | hc
    · exact h
    · exact ih hc
  | underscore h hcs ih =>
    rcases List.mem_cons.1 hc with rfl | hc
    · exact h
    · exact ih ((List.mem_cons.1 hc).resolve_left hne)

/-- A text of digits alone. -/
theorem of_forall (hne : cs ≠ []) (h : ∀ c ∈ cs, IsDigitOf radix c) : Digits radix cs := by
  induction cs with
  | nil => exact absurd rfl hne
  | cons c cs ih =>
    obtain ⟨hc, hcs⟩ := List.forall_mem_cons.1 h
    by_cases hlast : cs = []
    · subst hlast
      exact .last hc
    · exact .digit hc (ih hlast hcs)

end Digits

/-- What the reader of digits goes through, at the beginning and after a digit. -/
theorem isSome_readDigits_iff (radix : Nat) (cs : List Char) (value count : Nat) :
    ((readDigits radix value count false cs).isSome = true ↔ Digits radix cs) ∧
      ((readDigits radix value count true cs).isSome = true ↔ Continues radix cs) := by
  induction cs generalizing value count with
  | nil => exact ⟨iff_of_false (by simp [readDigits]) nofun, iff_of_true rfl (.inl rfl)⟩
  | cons c cs ih =>
    by_cases hc : c = '_'
    · subst hc
      have hnone : ¬ Digits radix ('_' :: cs) := by
        rw [digits_cons_iff]
        exact fun h => h.1.ne_underscore rfl
      simp only [readDigits, if_true, Bool.false_eq_true, if_false]
      refine ⟨iff_of_false (by simp) hnone, (ih value count).1.trans ⟨?_, ?_⟩⟩
      · exact fun hcs => .inr (.inr ⟨cs, rfl, hcs⟩)
      · rintro (h | h | ⟨rest, heq, hrest⟩)
        · cases h
        · exact absurd h hnone
        · cases heq
          exact hrest
    · -- any other character is read in the same way at both places
      have hstep : ∀ after, ((readDigits radix value count after (c :: cs)).isSome = true ↔
          Digits radix (c :: cs)) := by
        intro after
        rw [digits_cons_iff, readDigits, if_neg hc]
        cases hdigit : hexDigit? c with
        | none =>
          refine iff_of_false (by simp) ?_
          rintro ⟨⟨d, hd, -⟩, -⟩
          rw [hdigit] at hd
          cases hd
        | some d =>
          by_cases hlt : d < radix
          · simp only [if_pos hlt]
            exact (ih _ _).2.trans (and_iff_right ⟨d, hdigit, hlt⟩).symm
          · simp only [if_neg hlt]
            refine iff_of_false (by simp) ?_
            rintro ⟨⟨d', hd', hlt'⟩, -⟩
            rw [hdigit] at hd'
            cases hd'
            exact hlt hlt'
      refine ⟨hstep false, (hstep true).trans ⟨fun h => .inr (.inl h), ?_⟩⟩
      rintro (h | h | ⟨rest, heq, -⟩)
      · cases h
      · exact h
      · cases heq
        exact absurd rfl hc

/-- The reader counts the digits. -/
theorem count_of_readDigits {value count value' count' : Nat} {afterDigit : Bool}
    (h : readDigits radix value count afterDigit cs = some (value', count')) :
    count' = count + (cs.filter (· != '_')).length := by
  induction cs generalizing value count afterDigit with
  | nil =>
    cases afterDigit with
    | false => cases h
    | true =>
      cases h
      rfl
  | cons c cs ih =>
    rw [readDigits] at h
    split at h
    · next hc =>
      subst hc
      split at h
      · exact ih h
      · cases h
    · next hc =>
      split at h
      · split at h
        · have hcount := ih h
          rw [List.filter_cons_of_pos (by simpa using hc), List.length_cons]
          omega
        · cases h
      · cases h

/-- What digits add up to in a radix. The underscores between them do not count. -/
def amount (radix : Nat) (cs : List Char) : Nat :=
  (cs.filter (· != '_')).foldl (fun total c => total * radix + (hexDigit? c).getD 0) 0

/-- The reader adds up the digits. -/
theorem value_of_readDigits {value count value' count' : Nat} {afterDigit : Bool}
    (h : readDigits radix value count afterDigit cs = some (value', count')) :
    value' = (cs.filter (· != '_')).foldl
      (fun total c => total * radix + (hexDigit? c).getD 0) value := by
  induction cs generalizing value count afterDigit with
  | nil =>
    cases afterDigit with
    | false => cases h
    | true =>
      cases h
      rfl
  | cons c cs ih =>
    rw [readDigits] at h
    split at h
    · next hc =>
      subst hc
      split at h
      · exact ih h
      · cases h
    · next hc =>
      split at h
      · next d hd =>
        split at h
        · rw [List.filter_cons_of_pos (by simpa using hc), List.foldl_cons, hd]
          exact ih h
        · cases h
      · cases h

/-- What the reader finds in a text of digits. -/
theorem readDigits_eq_some_iff {value count : Nat} :
    readDigits radix 0 0 false cs = some (value, count) ↔
      Digits radix cs ∧ value = amount radix cs ∧ count = (cs.filter (· != '_')).length := by
  have hdigits := (isSome_readDigits_iff radix cs 0 0).1
  constructor
  · intro h
    have hcount := count_of_readDigits h
    rw [Nat.zero_add] at hcount
    exact ⟨hdigits.1 (Option.isSome_iff_exists.2 ⟨_, h⟩), value_of_readDigits h, hcount⟩
  · rintro ⟨hcs, rfl, rfl⟩
    obtain ⟨⟨value, count⟩, hread⟩ := Option.isSome_iff_exists.1 (hdigits.2 hcs)
    have hcount := count_of_readDigits hread
    rw [Nat.zero_add] at hcount
    rw [hread, value_of_readDigits hread, hcount, amount]

/-- Digits below a radix add up to less than the power of it with one factor for each digit. -/
theorem foldl_digits_lt {radix : Nat} (value : Char → Nat) {digits : List Char}
    (h : ∀ d ∈ digits, value d < radix) (total : Nat) :
    digits.foldl (fun total d => total * radix + value d) total <
      (total + 1) * radix ^ digits.length := by
  induction digits generalizing total with
  | nil => simp
  | cons d digits ih =>
    obtain ⟨hd, hdigits⟩ := List.forall_mem_cons.1 h
    rw [List.foldl_cons, List.length_cons]
    calc digits.foldl (fun total d => total * radix + value d) (total * radix + value d)
        < (total * radix + value d + 1) * radix ^ digits.length := ih hdigits _
      _ ≤ ((total + 1) * radix) * radix ^ digits.length := by
        apply Nat.mul_le_mul_right
        rw [Nat.add_mul, Nat.one_mul]
        omega
      _ = (total + 1) * radix ^ (digits.length + 1) := by
        rw [Nat.mul_assoc, Nat.pow_succ, Nat.mul_comm radix]

theorem Digits.amount_lt (h : Digits radix cs) :
    amount radix cs < radix ^ (cs.filter (· != '_')).length := by
  have hvalue : ∀ c ∈ cs.filter (· != '_'), (hexDigit? c).getD 0 < radix := by
    intro c hc
    obtain ⟨hmem, hne⟩ := List.mem_filter.1 hc
    obtain ⟨d, hd, hlt⟩ := h.isDigitOf_of_mem hmem (by simpa using hne)
    rwa [hd]
  simpa [amount] using foldl_digits_lt (fun c => (hexDigit? c).getD 0) hvalue 0

/-! ## Signs and marks -/

/-- A sign, or nothing. -/
def IsSign (sign : List Char) : Prop := sign = [] ∨ sign = ['+'] ∨ sign = ['-']

/-- The mark of a radix, with or without an underscore after it, or nothing. -/
def IsMark (radix : Nat) (mark : List Char) : Prop :=
  mark = [] ∨ ∃ c, radixMark? radix = some c.toLower ∧ (mark = ['0', c] ∨ mark = ['0', c, '_'])

theorem exists_sign (cs : List Char) :
    ∃ sign, IsSign sign ∧ cs = sign ++ (cutSign cs).2 ∧
      (cutSign cs).1 = decide (sign = ['-']) := by
  unfold cutSign
  split
  · exact ⟨['+'], .inr (.inl rfl), rfl, rfl⟩
  · exact ⟨['-'], .inr (.inr rfl), rfl, rfl⟩
  · exact ⟨[], .inl rfl, rfl, rfl⟩

theorem cutSign_append {sign : List Char} (hsign : IsSign sign)
    (hrest : ∀ c ∈ rest.head?, c ≠ '+' ∧ c ≠ '-') :
    cutSign (sign ++ rest) = (decide (sign = ['-']), rest) := by
  rcases hsign with rfl | rfl | rfl
  · cases rest with
    | nil => rfl
    | cons c rest =>
      obtain ⟨hplus, hminus⟩ := hrest c rfl
      rw [List.nil_append, cutSign]
      · rfl
      · rintro _ ⟨⟩
        exact hplus rfl
      · rintro _ ⟨⟩
        exact hminus rfl
  · rfl
  · rfl

theorem exists_mark (radix : Nat) (cs : List Char) :
    ∃ mark, IsMark radix mark ∧ cs = mark ++ dropRadixMark radix cs := by
  unfold dropRadixMark
  split
  · next c rest hradix =>
    split
    · next hc =>
      rw [← hc] at hradix
      split
      · exact ⟨['0', c, '_'], .inr ⟨c, hradix, .inr rfl⟩, rfl⟩
      · exact ⟨['0', c], .inr ⟨c, hradix, .inl rfl⟩, rfl⟩
    · exact ⟨[], .inl rfl, rfl⟩
  · exact ⟨[], .inl rfl, rfl⟩

/-- The letters of the marks, in either case. -/
theorem letter_of_radixMark? (h : radixMark? radix = some c.toLower) :
    (radix = 2 ∧ (c = 'b' ∨ c = 'B')) ∨ (radix = 8 ∧ (c = 'o' ∨ c = 'O')) ∨
      (radix = 16 ∧ (c = 'x' ∨ c = 'X')) := by
  have hletter : ∀ {low high : Char}, high.val + ('a'.val - 'A'.val) = low.val → c.toLower = low →
      c = low ∨ c = high := by
    intro low high hcase hc
    unfold Char.toLower at hc
    split at hc
    · refine .inr (Char.ext ?_)
      have hval := congrArg Char.val hc
      rw [← hcase] at hval
      exact (UInt32.add_left_inj _).1 hval
    · exact .inl hc
  unfold radixMark? at h
  split at h
  · exact .inl ⟨rfl, hletter rfl (Option.some.inj h).symm⟩
  · exact .inr (.inl ⟨rfl, hletter rfl (Option.some.inj h).symm⟩)
  · exact .inr (.inr ⟨rfl, hletter rfl (Option.some.inj h).symm⟩)
  · cases h

/-- The letter of a mark is no digit of its radix. -/
theorem not_isDigitOf_of_radixMark? (h : radixMark? radix = some c.toLower) :
    ¬ IsDigitOf radix c := by
  rintro ⟨d, hd, hlt⟩
  rcases letter_of_radixMark? h with ⟨rfl, rfl | rfl⟩ | ⟨rfl, rfl | rfl⟩ | ⟨rfl, rfl | rfl⟩
  all_goals
    cases hd
    try exact absurd hlt (by decide)

theorem dropRadixMark_append {mark digits : List Char} (hmark : IsMark radix mark)
    (hdigits : Digits radix digits) : dropRadixMark radix (mark ++ digits) = digits := by
  obtain ⟨first, rest, rfl, hfirst⟩ := hdigits.exists_head
  rcases hmark with rfl | ⟨c, hc, rfl | rfl⟩
  · rw [List.nil_append]
    unfold dropRadixMark
    split
    · next letter c rest' hletter heq =>
      obtain ⟨rfl, rfl⟩ := List.cons.inj heq
      rw [if_neg]
      rintro rfl
      -- the character after a zero is a digit or an underscore, and neither is a letter of a mark
      have hnot := not_isDigitOf_of_radixMark? hletter
      by_cases hunderscore : c = '_'
      · subst hunderscore
        rcases letter_of_radixMark? hletter with ⟨-, h | h⟩ | ⟨-, h | h⟩ | ⟨-, h | h⟩
        all_goals exact absurd h (by decide)
      · exact hnot (hdigits.isDigitOf_of_mem (by simp) hunderscore)
    · rfl
  · have hne := hfirst.ne_underscore
    simp only [dropRadixMark, hc, List.cons_append, List.nil_append, if_true]
    split
    · next heq =>
      obtain ⟨rfl, -⟩ := List.cons.inj heq
      exact absurd rfl hne
    · rfl
  · simp only [dropRadixMark, hc, List.cons_append, List.nil_append, if_true]

/-! ## Numerals -/

/-- The parts of a numeral. -/
structure Spelling where
  before : List Char
  sign : List Char
  mark : List Char
  digits : List Char
  after : List Char

namespace Spelling

/-- A numeral without the blanks around it. -/
def core (n : Spelling) : List Char := n.sign ++ (n.mark ++ n.digits)

def text (n : Spelling) : List Char := n.before ++ (n.core ++ n.after)

/-- What the parts may be. A decimal numeral must not be too long. -/
structure IsValid (radix : Nat) (n : Spelling) : Prop where
  before : ∀ c ∈ n.before, isAsciiBlank c = true
  sign : IsSign n.sign
  mark : IsMark radix n.mark
  digits : Digits radix n.digits
  after : ∀ c ∈ n.after, isAsciiBlank c = true
  short : radix = 10 → (n.digits.filter (· != '_')).length ≤ digitLimit

variable {n : Spelling}

/-- The digits begin with a digit, and so do marks. -/
theorem IsValid.exists_head (h : n.IsValid radix) :
    ∃ c rest, n.mark ++ n.digits = c :: rest ∧ (c = '0' ∨ IsDigitOf radix c) := by
  rcases h.mark with hmark | ⟨c, -, hmark | hmark⟩
  · obtain ⟨c, rest, hdigits, hc⟩ := h.digits.exists_head
    exact ⟨c, rest, by rw [hmark, hdigits, List.nil_append], .inr hc⟩
  · exact ⟨'0', c :: n.digits, by rw [hmark]; rfl, .inl rfl⟩
  · exact ⟨'0', c :: '_' :: n.digits, by rw [hmark]; rfl, .inl rfl⟩

theorem IsValid.trim_text (h : n.IsValid radix) : trim isAsciiBlank n.text = n.core := by
  obtain ⟨c, rest, hhead, hc⟩ := h.exists_head
  obtain ⟨front, last, hdigits, hlast⟩ := h.digits.exists_last
  have hcblank : isAsciiBlank c = false := by
    rcases hc with rfl | hc
    · rfl
    · exact hc.not_isAsciiBlank
  have hcore : n.core ≠ [] := by simp [core, hhead]
  have hfirst : StopsAt isAsciiBlank n.core := by
    rw [core, hhead]
    rcases h.sign with hsign | hsign | hsign
    · rw [hsign]
      rintro _ ⟨⟩
      exact hcblank
    · rw [hsign]
      rintro _ ⟨⟩
      rfl
    · rw [hsign]
      rintro _ ⟨⟩
      rfl
  have hend : StopsAt isAsciiBlank n.core.reverse := by
    rw [core, hdigits, ← List.append_assoc, ← List.append_assoc, List.reverse_concat]
    rintro _ ⟨⟩
    exact hlast.not_isAsciiBlank
  rw [text, trim_append h.before h.after hcore hfirst hend]

theorem IsValid.cutSign_core (h : n.IsValid radix) :
    cutSign n.core = (decide (n.sign = ['-']), n.mark ++ n.digits) := by
  obtain ⟨c, rest, hhead, hc⟩ := h.exists_head
  apply cutSign_append h.sign
  rw [hhead]
  rintro _ ⟨⟩
  rcases hc with rfl | hc
  · decide
  · exact hc.ne_sign

/-- The integer that a numeral stands for: what its digits add up to, with its sign. -/
def value (radix : Nat) (n : Spelling) : Int :=
  if n.sign = ['-'] then -(amount radix n.digits : Int) else amount radix n.digits

end Spelling

/-- A text denotes the integer of a numeral that it spells. -/
def Denotes (radix : Nat) (cs : List Char) (i : Int) : Prop :=
  ∃ n : Spelling, n.IsValid radix ∧ cs.map plain = n.text ∧ n.value radix = i

theorem read_eq_some {i : Int} : read radix cs = some i ↔
    ∃ value count, readDigits radix 0 0 false
      (dropRadixMark radix (cutSign (trim isAsciiBlank (cs.map plain))).2) = some (value, count) ∧
        (radix = 10 → count ≤ digitLimit) ∧
        (if (cutSign (trim isAsciiBlank (cs.map plain))).1 then -(value : Int) else value) = i := by
  simp only [read]
  split
  · next value count hread =>
    split
    · next hlong =>
      simp only [Bool.and_eq_true, decide_eq_true_eq] at hlong
      refine iff_of_false (by simp) ?_
      rintro ⟨value', count', hread', hshort, -⟩
      cases hread'.symm.trans hread
      exact absurd (hshort hlong.1) (Nat.not_le.2 hlong.2)
    · next hshort =>
      simp only [Bool.and_eq_true, decide_eq_true_eq, not_and, Nat.not_lt] at hshort
      constructor
      · intro h
        exact ⟨value, count, hread, hshort, Option.some.inj h⟩
      · rintro ⟨value', count', hread', -, rfl⟩
        cases hread'.symm.trans hread
        rfl
  · next hread =>
    refine iff_of_false (by simp) ?_
    rintro ⟨value, count, hread', -⟩
    cases hread.symm.trans hread'

/-- A text is read as an integer iff it denotes the integer. -/
theorem read_eq_some_iff {i : Int} : read radix cs = some i ↔ Denotes radix cs i := by
  rw [read_eq_some]
  constructor
  · rintro ⟨value, count, hread, hshort, hvalue⟩
    obtain ⟨before, after, htext, hbefore, hafter⟩ := exists_trim isAsciiBlank (cs.map plain)
    obtain ⟨sign, hsign, hcore, hnegative⟩ := exists_sign (trim isAsciiBlank (cs.map plain))
    obtain ⟨mark, hmark, hunsigned⟩ :=
      exists_mark radix (cutSign (trim isAsciiBlank (cs.map plain))).2
    generalize dropRadixMark radix (cutSign (trim isAsciiBlank (cs.map plain))).2 = digits at *
    obtain ⟨hdigits, rfl, rfl⟩ := readDigits_eq_some_iff.1 hread
    refine ⟨⟨before, sign, mark, digits, after⟩,
      ⟨hbefore, hsign, hmark, hdigits, hafter, hshort⟩, ?_, ?_⟩
    · rw [htext, Spelling.text, Spelling.core, ← hunsigned, ← hcore]
    · simpa [Spelling.value, hnegative] using hvalue
  · rintro ⟨n, hn, htext, hvalue⟩
    rw [htext, hn.trim_text, hn.cutSign_core, dropRadixMark_append hn.mark hn.digits]
    refine ⟨_, _, readDigits_eq_some_iff.2 ⟨hn.digits, rfl, rfl⟩, hn.short, ?_⟩
    simpa [Spelling.value] using hvalue

/-- A text is read iff it can be spelled by the grammar. -/
theorem isSome_read_iff :
    (read radix cs).isSome = true ↔ ∃ n : Spelling, n.IsValid radix ∧ cs.map plain = n.text := by
  rw [Option.isSome_iff_exists]
  constructor
  · rintro ⟨i, hread⟩
    obtain ⟨n, hn, htext, -⟩ := read_eq_some_iff.1 hread
    exact ⟨n, hn, htext⟩
  · rintro ⟨n, hn, htext⟩
    exact ⟨n.value radix, read_eq_some_iff.2 ⟨n, hn, htext, rfl⟩⟩

theorem tenTo_eq_pow (n : Nat) : tenTo n = 10 ^ n := rfl

/-- What a decimal numeral denotes can be written out. -/
theorem Denotes.isWritable {i : Int} (h : Denotes 10 cs i) : isWritable i = true := by
  obtain ⟨n, hn, -, rfl⟩ := h
  have habs : (n.value 10).natAbs = amount 10 n.digits := by
    unfold Spelling.value
    split
    · rw [Int.natAbs_neg, Int.natAbs_natCast]
    · exact Int.natAbs_natCast _
  rw [Numeral.isWritable, decide_eq_true_eq, habs, tenTo_eq_pow]
  calc amount 10 n.digits
      < 10 ^ (n.digits.filter (· != '_')).length := hn.digits.amount_lt
    _ ≤ 10 ^ digitLimit := Nat.pow_le_pow_right (by decide) (hn.short rfl)

end ClusterPlan.Numeral
