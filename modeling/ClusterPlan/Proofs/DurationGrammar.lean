import ClusterPlan.Duration
import ClusterPlan.Text.Cut
import Mathlib.Algebra.Order.Floor.Semifield
import Mathlib.Data.Rat.Floor
import Mathlib.Tactic.Positivity
import Mathlib.Tactic.Ring

/-!
# The grammar of durations

A written duration is a sign, which may be absent, and then the digit `0` alone or one or more
terms: digits, perhaps a point and further digits, and the name of a unit. A term is worth its
number times its unit, rounded down to whole nanoseconds. `Denotes` is this grammar, said without
the reader, with the kind of digits left open.

The reader goes over the text once, takes what looks like a term at every place and tests the sum so
far. It never has a choice, because a term ends where no digit, point or further letter of a unit
follows (`component?_append`), and the tests on the way agree with the one at the end
(`sum_written`). `read_denotes` says which durations are read: those of the grammar with digits of
any script, in runs that are short enough, and the same bound for both signs.

So the reader keeps to ASCII digits and to 64 bits for most texts but not for all: the least 64-bit
number is refused, digits of other scripts are read, and long runs of zeros are not
(`read_off_grammar`).
-/

namespace ClusterPlan

namespace Duration

open ClusterPlan.Text

/-! ## Terms -/

/-- The units of time, those of the same length told apart by their names. -/
inductive TimeUnit where
  | nano
  | microPlain
  | microSign
  | microLetter
  | milli
  | second
  | minute
  | hour
  deriving DecidableEq, Repr

namespace TimeUnit

def name : TimeUnit → List Char
  | nano => ['n', 's']
  | microPlain => ['u', 's']
  | microSign => ['µ', 's']
  | microLetter => ['μ', 's']
  | milli => ['m', 's']
  | second => ['s']
  | minute => ['m']
  | hour => ['h']

def nanoseconds : TimeUnit → ℕ
  | nano => 1
  | microPlain | microSign | microLetter => 1000
  | milli => 1000000
  | second => 1000000000
  | minute => 60 * 1000000000
  | hour => 3600 * 1000000000

theorem name_injective {u v : TimeUnit} (h : u.name = v.name) : u = v := by
  revert h
  cases u <;> cases v <;> decide

/-- The name of a unit begins with a letter. -/
theorem exists_letter (u : TimeUnit) :
    ∃ letter rest, u.name = letter :: rest ∧ isDecimalDigit letter = false ∧ letter ≠ '.' := by
  cases u <;> exact ⟨_, _, rfl, by decide, by decide⟩

end TimeUnit

/-- Digits, perhaps a point and digits after it, and a unit. -/
structure Term where
  whole : List Char
  fraction : Option (List Char)
  unit : TimeUnit
  deriving DecidableEq, Repr

namespace Term

/-- The digits after the point. -/
def decimals (t : Term) : List Char := t.fraction.getD []

/-- The point and the digits after it. -/
def tail (t : Term) : List Char := t.fraction.elim [] ('.' :: ·)

def text (t : Term) : List Char := t.whole ++ (t.tail ++ t.unit.name)

/-- The number before the unit. -/
def number (t : Term) : ℚ :=
  Numeral.ofDigits t.whole + Numeral.ofDigits t.decimals / 10 ^ t.decimals.length

/-- What a term is worth: its number times its unit, rounded down. -/
def nanoseconds (t : Term) : ℕ := ⌊t.number * t.unit.nanoseconds⌋₊

/-- There is a digit, and the digits before and after the point are runs of a given kind. -/
structure IsWritten (run : List Char → Prop) (t : Term) : Prop where
  whole : run t.whole
  decimals : run t.decimals
  digit : t.whole ≠ [] ∨ t.decimals ≠ []

theorem IsWritten.mono {run run' : List Char → Prop} {t : Term} (h : t.IsWritten run)
    (hrun : ∀ digits, run digits → run' digits) : t.IsWritten run' :=
  ⟨hrun _ h.whole, hrun _ h.decimals, h.digit⟩

/-- The component that the reader makes of a term. -/
def component (t : Term) : Component := ⟨t.whole, t.decimals, t.unit.nanoseconds⟩

theorem component_nanoseconds (t : Term) : t.component.nanoseconds = t.nanoseconds := by
  set whole := Numeral.ofDigits t.whole * t.unit.nanoseconds with hwhole
  set part := Numeral.ofDigits t.decimals * t.unit.nanoseconds with hpart
  have hvalue : t.number * t.unit.nanoseconds =
      (part : ℚ) / (10 ^ t.decimals.length : ℕ) + whole := by
    rw [number, hwhole, hpart]
    push_cast
    ring
  calc t.component.nanoseconds
      = part / 10 ^ t.decimals.length + whole := Nat.add_comm _ _
    _ = ⌊(part : ℚ) / (10 ^ t.decimals.length : ℕ)⌋₊ + whole := by rw [Nat.floor_div_eq_div]
    _ = ⌊(part : ℚ) / (10 ^ t.decimals.length : ℕ) + whole⌋₊ :=
      (Nat.floor_add_natCast (by positivity) _).symm
    _ = t.nanoseconds := by rw [nanoseconds, hvalue]

/-- A whole number of units. -/
def ofWhole (digits : List Char) (unit : TimeUnit) : Term := ⟨digits, none, unit⟩

theorem isWritten_ofWhole {run : List Char → Prop} {digits : List Char} (hdigits : run digits)
    (hempty : run []) (hne : digits ≠ []) (unit : TimeUnit) : (ofWhole digits unit).IsWritten run :=
  ⟨hdigits, hempty, .inl hne⟩

theorem nanoseconds_ofWhole (digits : List Char) (unit : TimeUnit) :
    (ofWhole digits unit).nanoseconds = Numeral.ofDigits digits * unit.nanoseconds := by
  rw [← component_nanoseconds]
  show Numeral.ofDigits digits * unit.nanoseconds + 0 * unit.nanoseconds / 1 = _
  rw [Nat.zero_mul, Nat.zero_div, Nat.add_zero]

end Term

/-- Terms as they are written, one directly behind the other. -/
def written (ts : List Term) : List Char := ts.flatMap Term.text

/-- What terms are worth together. -/
def amount (ts : List Term) : ℕ := (ts.map Term.nanoseconds).sum

theorem written_append (ts ts' : List Term) : written (ts ++ ts') = written ts ++ written ts' :=
  List.flatMap_append

theorem amount_append (ts ts' : List Term) : amount (ts ++ ts') = amount ts + amount ts' := by
  rw [amount, List.map_append, List.sum_append]
  rfl

/-! ## Signs and the whole text -/

/-- A sign, or none. -/
inductive Sign where
  | absent
  | plus
  | minus
  deriving DecidableEq, Repr

namespace Sign

def text : Sign → List Char
  | absent => []
  | plus => ['+']
  | minus => ['-']

def isNegative : Sign → Bool
  | minus => true
  | _ => false

/-- A magnitude with a sign. -/
def apply (sign : Sign) (n : ℕ) : ℤ := if sign.isNegative then -(n : ℤ) else n

theorem natAbs_apply (sign : Sign) (n : ℕ) : (sign.apply n).natAbs = n := by
  unfold apply
  split <;> simp

end Sign

/-- A text in the grammar with runs of digits of a given kind, and the nanoseconds it denotes. -/
inductive Denotes (run : List Char → Prop) : List Char → ℤ → Prop where
  | zero (sign : Sign) : Denotes run (sign.text ++ ['0']) 0
  | terms (sign : Sign) {ts : List Term} (hne : ts ≠ []) (hts : ∀ t ∈ ts, t.IsWritten run) :
    Denotes run (sign.text ++ written ts) (sign.apply (amount ts))

/-- ASCII digits. -/
def AsciiRun (digits : List Char) : Prop := ∀ c ∈ digits, c.isDigit = true

/-- Digits of any script. -/
def DigitRun (digits : List Char) : Prop := ∀ c ∈ digits, isDecimalDigit c = true

/-- Digits of any script, not more than a numeral may have. -/
structure ReadableRun (digits : List Char) : Prop where
  all : DigitRun digits
  short : digits.length ≤ Numeral.digitLimit

-- over the list, not over all characters
instance : DecidablePred AsciiRun := fun digits =>
  List.decidableBAll (fun c : Char => c.isDigit = true) digits

instance : DecidablePred DigitRun := fun digits =>
  List.decidableBAll (fun c => isDecimalDigit c = true) digits

instance : DecidablePred ReadableRun := fun digits =>
  decidable_of_iff (DigitRun digits ∧ digits.length ≤ Numeral.digitLimit)
    ⟨fun h => ⟨h.1, h.2⟩, fun h => ⟨h.all, h.short⟩⟩

theorem isDecimalDigit_of_isDigit {c : Char} (h : c.isDigit = true) : isDecimalDigit c = true := by
  have hascii : c.toNat < 0x80 := by
    simp only [Char.isDigit, Bool.and_eq_true, decide_eq_true_eq] at h
    have hle : c.toNat ≤ 57 := h.2
    omega
  simp [isDecimalDigit, decimalDigit?, hascii, h]

/-- Only the runs of digits in a text matter to what it denotes. -/
theorem Denotes.congr {run run' : List Char → Prop} {cs : List Char} {n : ℤ}
    (h : Denotes run cs n) (hrun : ∀ digits, digits <:+: cs → run digits → run' digits) :
    Denotes run' cs n := by
  cases h with
  | zero sign => exact .zero sign
  | @terms sign ts hne hts =>
    refine .terms sign hne fun t ht => ?_
    have htext : t.text <:+: sign.text ++ written ts := by
      obtain ⟨before, after, rfl⟩ := List.append_of_mem ht
      refine ⟨sign.text ++ written before, written after, ?_⟩
      simp [written]
    have hwhole : t.whole <:+: t.text := (List.prefix_append _ _).isInfix
    have hdecimals : t.decimals <:+: t.text := by
      refine ⟨t.whole ++ t.tail.take 1, t.unit.name, ?_⟩
      cases hf : t.fraction <;> simp [Term.text, Term.decimals, Term.tail, hf]
    obtain ⟨hw, hd, hdigit⟩ := hts t ht
    exact ⟨hrun _ (hwhole.trans htext) hw, hrun _ (hdecimals.trans htext) hd, hdigit⟩

/-! ## Reading a term -/

section reading

variable {cs rest : List Char}

theorem number?_append {t : Term} (ht : t.IsWritten DigitRun) (hdigit : StopsAt isDecimalDigit rest)
    (hpoint : rest.head? ≠ some '.') :
    number? (t.whole ++ (t.tail ++ rest)) = some (t.whole, t.decimals, rest) := by
  obtain ⟨hwhole, hdecimals, hany⟩ := ht
  unfold number?
  cases hf : t.fraction with
  | none =>
    obtain ⟨htake, hdrop⟩ := takeWhile_run hwhole hdigit
    have hne : t.whole ≠ [] := by simpa [Term.decimals, hf] using hany
    simp only [Term.tail, Term.decimals, hf, Option.elim_none, Option.getD_none, List.nil_append,
      htake, hdrop]
    split
    · exact absurd rfl hpoint
    · simp [hne]
  | some fraction =>
    have hstop : StopsAt isDecimalDigit ('.' :: (fraction ++ rest)) := by
      rintro c ⟨⟩
      decide
    have hfraction : DigitRun fraction := by simpa [Term.decimals, hf] using hdecimals
    obtain ⟨htake, hdrop⟩ := takeWhile_run hwhole hstop
    obtain ⟨htake', hdrop'⟩ := takeWhile_run hfraction hdigit
    have hany' : t.whole ≠ [] ∨ fraction ≠ [] := by simpa [Term.decimals, hf] using hany
    simp only [Term.tail, Term.decimals, hf, Option.elim_some, Option.getD_some, List.cons_append,
      htake, hdrop, htake', hdrop']
    rw [if_neg]
    simpa [Decidable.or_iff_not_imp_left] using hany'

theorem unit?_append (u : TimeUnit) (h : rest.head? ≠ some 's') :
    unit? (u.name ++ rest) = some (u.nanoseconds, rest) := by
  cases u with
  | minute =>
    -- a minute is told from a millisecond by what follows
    show unit? ('m' :: rest) = _
    unfold unit?
    split <;> simp_all [TimeUnit.nanoseconds]
  | _ => rfl

/-- A term is taken as a whole if what follows does not prolong the name of its unit. -/
theorem component?_append {t : Term} (ht : t.IsWritten DigitRun) (h : rest.head? ≠ some 's') :
    component? (t.text ++ rest) = some (t.component, rest) := by
  obtain ⟨letter, after, hname, hletter, hpoint⟩ := t.unit.exists_letter
  have hnumber : number? (t.whole ++ (t.tail ++ (t.unit.name ++ rest))) =
      some (t.whole, t.decimals, t.unit.name ++ rest) := by
    refine number?_append ht ?_ ?_
    · rw [hname]
      rintro c ⟨⟩
      exact hletter
    · rw [hname]
      simpa using hpoint
  rw [Term.text, List.append_assoc, List.append_assoc, component?, hnumber]
  simp only [unit?_append t.unit h]
  rfl

theorem exists_of_number? {whole decimals : List Char}
    (h : number? cs = some (whole, decimals, rest)) (unit : TimeUnit) :
    ∃ t : Term, t.IsWritten DigitRun ∧ t.unit = unit ∧ t.whole = whole ∧ t.decimals = decimals ∧
      cs = whole ++ (t.tail ++ rest) := by
  have hall : ∀ cs : List Char, DigitRun (cs.takeWhile isDecimalDigit) :=
    fun cs => List.all_eq_true.1 List.all_takeWhile
  have hcs := List.takeWhile_append_dropWhile (p := isDecimalDigit) (l := cs)
  unfold number? at h
  split at h
  · next tail htail =>
    have htail' := List.takeWhile_append_dropWhile (p := isDecimalDigit) (l := tail)
    rw [htail] at hcs
    dsimp only at h
    split at h
    · cases h
    · next hany =>
      cases h
      refine ⟨⟨_, some (tail.takeWhile isDecimalDigit), unit⟩, ⟨hall cs, hall tail, ?_⟩, rfl, rfl,
        rfl, ?_⟩
      · simpa [Term.decimals, Decidable.or_iff_not_imp_left] using hany
      · exact hcs.symm.trans (by simp [Term.tail, htail'])
  · dsimp only at h
    split at h
    · cases h
    · next hany =>
      cases h
      refine ⟨⟨_, none, unit⟩, ⟨hall cs, by simp [DigitRun, Term.decimals], ?_⟩, rfl, rfl, rfl, ?_⟩
      · simpa using Or.inl hany
      · exact hcs.symm

theorem exists_of_unit? {n : ℕ} (h : unit? cs = some (n, rest)) :
    ∃ u : TimeUnit, cs = u.name ++ rest ∧ u.nanoseconds = n := by
  unfold unit? at h
  split at h <;> cases h
  · exact ⟨.nano, rfl, rfl⟩
  · exact ⟨.microPlain, rfl, rfl⟩
  · exact ⟨.microSign, rfl, rfl⟩
  · exact ⟨.microLetter, rfl, rfl⟩
  · exact ⟨.milli, rfl, rfl⟩
  · exact ⟨.second, rfl, rfl⟩
  · exact ⟨.minute, rfl, rfl⟩
  · exact ⟨.hour, rfl, rfl⟩

/-- Every component comes from a term. -/
theorem exists_of_component? {c : Component} (h : component? cs = some (c, rest)) :
    ∃ t : Term, t.IsWritten DigitRun ∧ t.component = c ∧ cs = t.text ++ rest := by
  unfold component? at h
  split at h
  · next whole decimals afterNumber hnumber =>
    cases hunit : unit? afterNumber with
    | none => simp [hunit] at h
    | some found =>
      obtain ⟨n, afterUnit⟩ := found
      obtain ⟨u, rfl, rfl⟩ := exists_of_unit? hunit
      obtain ⟨t, ht, rfl, rfl, rfl, rfl⟩ := exists_of_number? hnumber u
      simp only [hunit, Option.map_some] at h
      cases h
      exact ⟨t, ht, rfl, by simp [Term.text]⟩
  · cases h

end reading

/-! ## Reading terms -/

/-- The first character of a term is a point or of a class that its digits belong to. -/
theorem Term.IsWritten.exists_text {run : List Char → Prop} {p : Char → Bool}
    (hrun : ∀ digits, run digits → ∀ c ∈ digits, p c = true) {t : Term} (ht : t.IsWritten run) :
    ∃ c rest, t.text = c :: rest ∧ (p c = true ∨ c = '.') := by
  unfold Term.text
  cases hwhole : t.whole with
  | cons c digits => exact ⟨c, _, rfl, .inl (hrun _ ht.whole c (by simp [hwhole]))⟩
  | nil =>
    cases hfraction : t.fraction with
    | some digits => exact ⟨'.', _, by simp [Term.tail, hfraction]; rfl, .inr rfl⟩
    | none =>
      have hany := ht.digit
      simp [hwhole, Term.decimals, hfraction] at hany

theorem exists_written {run : List Char → Prop} {p : Char → Bool}
    (hrun : ∀ digits, run digits → ∀ c ∈ digits, p c = true) {ts : List Term} (hne : ts ≠ [])
    (hts : ∀ t ∈ ts, t.IsWritten run) :
    ∃ c rest, written ts = c :: rest ∧ (p c = true ∨ c = '.') := by
  obtain ⟨t, ts, rfl⟩ := List.exists_cons_of_ne_nil hne
  obtain ⟨c, rest, htext, hc⟩ := (hts t List.mem_cons_self).exists_text hrun
  exact ⟨c, rest ++ written ts, by simp [written, htext], hc⟩

/-- What terms begin with is none of the characters that could prolong a unit or be a sign. -/
theorem head?_written_ne {ts : List Term} (hts : ∀ t ∈ ts, t.IsWritten DigitRun) {c : Char}
    (hdigit : isDecimalDigit c = false) (hpoint : c ≠ '.') : (written ts).head? ≠ some c := by
  cases ts with
  | nil => exact nofun
  | cons t ts =>
    obtain ⟨c', rest, hwritten, hc'⟩ :=
      exists_written (fun _ h => h) (List.cons_ne_nil t ts) hts
    rw [hwritten]
    rintro ⟨⟩
    rcases hc' with h | h
    · exact absurd h (by simp [hdigit])
    · exact hpoint h

theorem component?_written {t : Term} {ts : List Term} (ht : t.IsWritten DigitRun)
    (hts : ∀ t ∈ ts, t.IsWritten DigitRun) :
    component? (written (t :: ts)) = some (t.component, written ts) :=
  component?_append ht (head?_written_ne hts (by decide) (by decide))

theorem isReadable_component {t : Term} :
    t.component.isReadable = true ↔
      t.whole.length ≤ Numeral.digitLimit ∧ t.decimals.length ≤ Numeral.digitLimit := by
  rw [Component.isReadable, Bool.and_eq_true, decide_eq_true_iff, decide_eq_true_iff]
  rfl

/-- One step of the reader. -/
theorem sum_of_component? {total : ℕ} {cs rest : List Char} {c : Component}
    (h : component? cs = some (c, rest)) :
    sum total cs =
      if !c.isReadable then .error .overlong
      else if limit < total + c.nanoseconds then .error .outOfRange
      else sum (total + c.nanoseconds) rest := by
  have hne : cs.isEmpty = false := by
    cases cs with
    | nil => cases h
    | cons => rfl
  rw [sum, hne]
  simp only [Bool.false_eq_true, if_false]
  split
  · next hnone => cases h.symm.trans hnone
  · next c' rest' hsome =>
    cases h.symm.trans hsome
    rfl

/-- The tests after every term agree with one test at the end, because the sum only grows. -/
theorem sum_written {ts : List Term} (hts : ∀ t ∈ ts, t.IsWritten ReadableRun) {total : ℕ}
    (htotal : total ≤ limit) :
    sum total (written ts) =
      if total + amount ts ≤ limit then .ok (total + amount ts) else .error .outOfRange := by
  induction ts generalizing total with
  | nil =>
    rw [sum]
    simp [written, amount, htotal]
  | cons t ts ih =>
    obtain ⟨ht, hts'⟩ := List.forall_mem_cons.1 hts
    have hreadable : t.component.isReadable = true :=
      isReadable_component.2 ⟨ht.whole.short, ht.decimals.short⟩
    have hamount : amount (t :: ts) = t.nanoseconds + amount ts := by simp [amount]
    rw [sum_of_component? (component?_written (ht.mono fun _ h => h.all) fun t' ht' =>
        (hts' t' ht').mono fun _ h => h.all), hreadable, Term.component_nanoseconds, hamount,
      ← Nat.add_assoc]
    simp only [Bool.not_true, Bool.false_eq_true, if_false]
    by_cases hfits : limit < total + t.nanoseconds
    · rw [if_pos hfits, if_neg (by omega)]
    · rw [if_neg hfits, ih hts' (Nat.le_of_not_lt hfits)]

/-- Whatever is read consists of terms. -/
theorem exists_of_sum {total n : ℕ} {cs : List Char} (h : sum total cs = .ok n) :
    ∃ ts, (∀ t ∈ ts, t.IsWritten ReadableRun) ∧ cs = written ts := by
  fun_induction sum total cs with
  | case1 total cs hempty => exact ⟨[], nofun, by simpa [written] using hempty⟩
  | case2 => cases h
  | case3 => cases h
  | case4 => cases h
  | case5 total cs _ c rest hcomponent hreadable _ _ ih =>
    obtain ⟨t, ht, rfl, hcs⟩ := exists_of_component? hcomponent
    obtain ⟨ts, hts, rfl⟩ := ih h
    obtain ⟨hwhole, hdecimals⟩ := isReadable_component.1 (by simpa using hreadable)
    refine ⟨t :: ts, ?_, hcs⟩
    rintro t' (_ | ⟨_, ht'⟩)
    · exact ⟨⟨ht.whole, hwhole⟩, ⟨ht.decimals, hdecimals⟩, ht.digit⟩
    · exact hts t' ht'

/-! ## Reading a duration -/

theorem cutSign_append {cs : List Char} (hplus : cs.head? ≠ some '+') (hminus : cs.head? ≠ some '-')
    (sign : Sign) : Numeral.cutSign (sign.text ++ cs) = (sign.isNegative, cs) := by
  cases sign with
  | absent =>
    show Numeral.cutSign cs = (false, cs)
    unfold Numeral.cutSign
    split
    · exact absurd rfl hplus
    · exact absurd rfl hminus
    · rfl
  | plus => rfl
  | minus => rfl

theorem exists_sign (cs : List Char) :
    ∃ sign : Sign, Numeral.cutSign cs = (sign.isNegative, (Numeral.cutSign cs).2) ∧
      cs = sign.text ++ (Numeral.cutSign cs).2 := by
  unfold Numeral.cutSign
  split
  · exact ⟨.plus, rfl, rfl⟩
  · exact ⟨.minus, rfl, rfl⟩
  · exact ⟨.absent, rfl, rfl⟩

section texts

variable {s : String} {sign : Sign}

theorem read_zero (hs : s.toList = sign.text ++ ['0']) : read s = .ok ⟨0⟩ := by
  rw [read, hs, cutSign_append (by decide) (by decide)]
  rfl

/-- A duration made of terms is read by summing them. -/
theorem read_written {ts : List Term} (hne : ts ≠ []) (hts : ∀ t ∈ ts, t.IsWritten DigitRun)
    (hs : s.toList = sign.text ++ written ts) :
    read s = (sum 0 (written ts)).map fun n => ⟨sign.apply n⟩ := by
  have hzero : written ts ≠ ['0'] := by
    intro h
    obtain ⟨t, ts, rfl⟩ := List.exists_cons_of_ne_nil hne
    obtain ⟨ht, hts⟩ := List.forall_mem_cons.1 hts
    have hcomponent := component?_written ht hts
    rw [h] at hcomponent
    cases hcomponent
  have hempty : (written ts).isEmpty = false := by
    obtain ⟨c, rest, h, -⟩ := exists_written (fun _ h => h) hne hts
    rw [h]
    rfl
  rw [read, hs, cutSign_append (head?_written_ne hts (by decide) (by decide))
    (head?_written_ne hts (by decide) (by decide))]
  simp only [hzero, hempty, if_false, Bool.false_eq_true]
  cases sum 0 (written ts) with
  | ok n => cases sign <;> rfl
  | error fault => rfl

theorem read_terms {ts : List Term} (hne : ts ≠ []) (hts : ∀ t ∈ ts, t.IsWritten ReadableRun)
    (hs : s.toList = sign.text ++ written ts) :
    read s = if amount ts ≤ limit then .ok ⟨sign.apply (amount ts)⟩ else .error .outOfRange := by
  rw [read_written hne (fun t ht => (hts t ht).mono fun _ h => h.all) hs,
    sum_written hts (Nat.zero_le limit), Nat.zero_add]
  split
  · rfl
  · rfl

/-- What is read is a zero or consists of terms. -/
theorem read_cases {d : Duration} (h : read s = .ok d) :
    ∃ sign : Sign,
      (s.toList = sign.text ++ ['0'] ∧ d = ⟨0⟩) ∨
        ∃ ts, ts ≠ [] ∧ (∀ t ∈ ts, t.IsWritten ReadableRun) ∧ s.toList = sign.text ++ written ts ∧
          amount ts ≤ limit ∧ d = ⟨sign.apply (amount ts)⟩ := by
  obtain ⟨sign, hcut, hs⟩ := exists_sign s.toList
  refine ⟨sign, ?_⟩
  by_cases hzero : (Numeral.cutSign s.toList).2 = ['0']
  · rw [hzero] at hs
    exact .inl ⟨hs, by simpa using h.symm.trans (read_zero hs)⟩
  · have hread := h
    rw [read, hcut] at hread
    simp only [hzero, if_false] at hread
    split at hread
    · cases hread
    · next hempty =>
      cases hsum : sum 0 (Numeral.cutSign s.toList).2 with
      | error fault => simp [hsum, Except.map] at hread
      | ok n =>
        obtain ⟨ts, hts, hwritten⟩ := exists_of_sum hsum
        have hne : ts ≠ [] := by
          rintro rfl
          exact hempty (by simp [hwritten, written])
        rw [hwritten] at hs
        rw [read_terms hne hts hs] at h
        split at h
        · next hfits => exact .inr ⟨ts, hne, hts, hs, hfits, by simpa using h.symm⟩
        · cases h

/-- The reader follows the grammar of the digits that it reads. -/
theorem read_eq_ok {d : Duration} :
    read s = .ok d ↔ Denotes ReadableRun s.toList d.nanoseconds ∧ d.nanoseconds.natAbs ≤ limit := by
  obtain ⟨n⟩ := d
  show read s = .ok ⟨n⟩ ↔ Denotes ReadableRun s.toList n ∧ n.natAbs ≤ limit
  constructor
  · intro h
    obtain ⟨sign, ⟨hs, hd⟩ | ⟨ts, hne, hts, hs, hfits, hd⟩⟩ := read_cases h
    · cases hd
      rw [hs]
      exact ⟨.zero sign, Nat.zero_le _⟩
    · cases hd
      rw [hs]
      exact ⟨.terms sign hne hts, by rwa [Sign.natAbs_apply]⟩
  · rintro ⟨hdenotes, hbound⟩
    generalize hs : s.toList = cs at hdenotes
    cases hdenotes with
    | zero sign => exact read_zero hs
    | terms sign hne hts =>
      rw [Sign.natAbs_apply] at hbound
      rw [read_terms hne hts hs, if_pos hbound]

end texts

/-- A text without digits of other scripts and without more digits side by side than a numeral may
have. -/
structure IsPlain (cs : List Char) : Prop where
  ascii : ∀ c ∈ cs, isDecimalDigit c = true → c.isDigit = true
  short : ∀ digits, digits <:+: cs → DigitRun digits → digits.length ≤ Numeral.digitLimit

/-- **Which durations are read.** Those of the grammar, with digits of any script in runs that are
not too long, up to the same bound for both signs. In plain texts these are the durations with ASCII
digits in 64 bits, save for the least one. -/
theorem read_denotes (s : String) :
    (∀ d, read s = .ok d ↔
      Denotes ReadableRun s.toList d.nanoseconds ∧ d.nanoseconds.natAbs ≤ 2 ^ 63 - 1) ∧
    (IsPlain s.toList →
      ((∃ d, read s = .ok d) ↔
        ∃ n : ℤ, Denotes AsciiRun s.toList n ∧ -2 ^ 63 < n ∧ n ≤ 2 ^ 63 - 1)) := by
  refine ⟨fun d => read_eq_ok, fun hplain => ?_⟩
  have hruns : ∀ n, Denotes ReadableRun s.toList n ↔ Denotes AsciiRun s.toList n := by
    intro n
    constructor
    · intro h
      refine h.congr fun digits hdigits hrun c hc => ?_
      exact hplain.ascii c (hdigits.subset hc) (hrun.all c hc)
    · intro h
      refine h.congr fun digits hdigits hrun => ?_
      have hall : DigitRun digits := fun c hc => isDecimalDigit_of_isDigit (hrun c hc)
      exact ⟨hall, hplain.short digits hdigits hall⟩
  have hlimit : limit = 2 ^ 63 - 1 := rfl
  constructor
  · rintro ⟨d, hd⟩
    obtain ⟨hdenotes, hbound⟩ := read_eq_ok.1 hd
    refine ⟨d.nanoseconds, (hruns _).1 hdenotes, ?_⟩
    omega
  · rintro ⟨n, hdenotes, hlow, hhigh⟩
    have hbound : n.natAbs ≤ limit := by omega
    exact ⟨⟨n⟩, read_eq_ok.2 ⟨(hruns n).2 hdenotes, hbound⟩⟩

/-! ## Whole numbers of a unit -/

section whole

variable {digits : List Char} {unit : TimeUnit}

theorem written_ofWhole : written [Term.ofWhole digits unit] = digits ++ unit.name := by
  simp [written, Term.ofWhole, Term.text, Term.tail]

theorem amount_ofWhole :
    amount [Term.ofWhole digits unit] = Numeral.ofDigits digits * unit.nanoseconds := by
  rw [← Term.nanoseconds_ofWhole]
  exact Nat.add_zero _

theorem read_ofWhole {s : String} (sign : Sign) (digits : List Char) (unit : TimeUnit) (n : ℕ)
    (hdigits : ReadableRun digits) (hne : digits ≠ [])
    (hn : Numeral.ofDigits digits * unit.nanoseconds = n)
    (hs : s.toList = sign.text ++ (digits ++ unit.name)) :
    read s = if n ≤ limit then .ok ⟨sign.apply n⟩ else .error .outOfRange := by
  rw [← written_ofWhole] at hs
  rw [read_terms (List.cons_ne_nil _ []) ?_ hs, amount_ofWhole, hn]
  rw [List.forall_mem_singleton]
  exact Term.isWritten_ofWhole hdigits (by decide) hne unit

theorem denotes_ofWhole (sign : Sign) (digits : List Char) (unit : TimeUnit)
    (hdigits : AsciiRun digits) (hne : digits ≠ []) :
    Denotes AsciiRun (sign.text ++ (digits ++ unit.name))
      (sign.apply (Numeral.ofDigits digits * unit.nanoseconds)) := by
  rw [← written_ofWhole, ← amount_ofWhole]
  refine .terms sign (List.cons_ne_nil _ []) ?_
  rw [List.forall_mem_singleton]
  exact Term.isWritten_ofWhole hdigits (by decide) hne unit

theorem read_of_long {s : String} (unit : TimeUnit) (hdigits : DigitRun digits)
    (hlong : Numeral.digitLimit < digits.length)
    (hs : s.toList = digits ++ unit.name) :
    read s = .error .overlong := by
  have hne : digits ≠ [] := List.length_pos_iff.1 (Nat.zero_lt_of_lt hlong)
  have hwritten : (Term.ofWhole digits unit).IsWritten DigitRun :=
    Term.isWritten_ofWhole hdigits (by decide) hne unit
  have hreadable : (Term.ofWhole digits unit).component.isReadable = false := by
    rw [← Bool.not_eq_true, isReadable_component]
    exact fun h => absurd h.1 (Nat.not_le.2 hlong)
  have hs' : s.toList = Sign.absent.text ++ written [Term.ofWhole digits unit] := by
    rw [written_ofWhole]
    exact hs
  rw [read_written (List.cons_ne_nil _ []) (List.forall_mem_singleton.2 hwritten) hs',
    sum_of_component? (component?_written hwritten (List.forall_mem_nil _)), hreadable]
  rfl

end whole

theorem ofDigits_zeros (n : ℕ) : Numeral.ofDigits (List.replicate n '0') = 0 := by
  induction n with
  | zero => rfl
  | succ n ih => exact ih

theorem asciiRun_zeros (n : ℕ) : AsciiRun (List.replicate n '0') := by
  intro c hc
  rw [List.eq_of_mem_replicate hc]
  rfl

/-- The least number of 64 bits and a long run of zeros are not read although the grammar has them,
and a digit of another script is read although the grammar does not have it. -/
theorem read_off_grammar :
    (read "-9223372036854775808ns" = .error .outOfRange ∧
      Denotes AsciiRun "-9223372036854775808ns".toList (-2 ^ 63)) ∧
    (read "٣s" = .ok ⟨3000000000⟩ ∧ ∀ n, ¬ Denotes AsciiRun "٣s".toList n) ∧
    (read (String.ofList (List.replicate 4301 '0' ++ ['s'])) = .error .overlong ∧
      Denotes AsciiRun (List.replicate 4301 '0' ++ ['s']) 0) := by
  refine ⟨⟨?_, ?_⟩, ⟨?_, ?_⟩, ?_, ?_⟩
  · have hread := read_ofWhole (s := "-9223372036854775808ns") .minus "9223372036854775808".toList
      .nano (2 ^ 63) (by decide) (by decide) (by decide) rfl
    exact hread.trans (if_neg (by decide))
  · exact denotes_ofWhole .minus "9223372036854775808".toList .nano (by decide) (by decide)
  · have hread := read_ofWhole (s := "٣s") .absent ['٣'] .second 3000000000 (by decide) (by decide)
      (by decide) rfl
    exact hread.trans (if_pos (by decide))
  · intro n h
    have hascii : ∀ digits, AsciiRun digits → ∀ c ∈ digits, c.isDigit = true := fun _ h => h
    generalize hs : "٣s".toList = cs at h
    cases h with
    | zero sign => cases sign <;> exact absurd hs (by decide)
    | terms sign hne hts =>
      obtain ⟨c, rest, hwritten, hc⟩ := exists_written hascii hne hts
      rw [hwritten] at hs
      cases sign <;> cases hs
      exact absurd hc (by decide)
  · have hdigits : DigitRun (List.replicate 4301 '0') :=
      fun c hc => isDecimalDigit_of_isDigit (asciiRun_zeros 4301 c hc)
    have hlong : Numeral.digitLimit < (List.replicate 4301 '0').length := by
      rw [List.length_replicate]
      decide
    exact read_of_long .second hdigits hlong String.toList_ofList
  · have hne : List.replicate 4301 '0' ≠ [] := by
      rw [Ne, List.replicate_eq_nil_iff]
      decide
    have hzero : ∀ {digits}, AsciiRun digits → digits ≠ [] → Numeral.ofDigits digits = 0 →
        Denotes AsciiRun (digits ++ ['s']) 0 := by
      intro digits hdigits hne hvalue
      have h := denotes_ofWhole .absent digits .second hdigits hne
      rw [hvalue] at h
      exact h
    exact hzero (asciiRun_zeros 4301) hne (ofDigits_zeros 4301)

end Duration

end ClusterPlan
