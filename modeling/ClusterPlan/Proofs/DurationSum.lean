import ClusterPlan.Proofs.DurationGrammar

/-!
# Durations one behind the other

A text without a sign that is read as a duration may be followed by another one, and the two
durations are added: no term reaches across the seam, because a term begins with a digit or a point
and no unit is prolonged by either. The sum is refused only if it passes the bound.

The reason is that a text consists of terms in one way only (`written_injective`, and
`Decomposes.unique` with the sign). So what a text is worth can be said without the reader: it is
what its terms are worth together. `read_append_add` collects this.
-/

namespace ClusterPlan

namespace Duration

/-! ## One way to consist of terms -/

/-- A term is known by its component and its text, which shows whether there is a point. -/
theorem Term.eq_of_text {t t' : Term} (hcomponent : t.component = t'.component)
    (htext : t.text = t'.text) : t = t' := by
  obtain ⟨whole, fraction, unit⟩ := t
  obtain ⟨whole', fraction', unit'⟩ := t'
  simp only [Term.component, Term.decimals, Component.mk.injEq] at hcomponent
  obtain ⟨rfl, hdecimals, -⟩ := hcomponent
  have hafter := List.append_cancel_left htext
  obtain ⟨letter, rest, hname, -, hletter⟩ := unit.exists_letter
  obtain ⟨letter', rest', hname', -, hletter'⟩ := unit'.exists_letter
  cases fraction with
  | none =>
    cases fraction' with
    | none =>
      obtain rfl : unit = unit' := TimeUnit.name_injective hafter
      rfl
    | some digits =>
      simp only [Term.tail, Option.elim_none, Option.elim_some, List.nil_append, hname] at hafter
      exact absurd (List.cons.inj hafter).1 hletter
  | some digits =>
    cases fraction' with
    | none =>
      simp only [Term.tail, Option.elim_none, Option.elim_some, List.nil_append, hname'] at hafter
      exact absurd (List.cons.inj hafter).1.symm hletter'
    | some digits' =>
      obtain rfl : digits = digits' := hdecimals
      obtain rfl : unit = unit' := TimeUnit.name_injective (List.append_cancel_left hafter)
      rfl

/-- No two lists of terms are written in the same way. -/
theorem written_injective {ts ts' : List Term} (hts : ∀ t ∈ ts, t.IsWritten DigitRun)
    (hts' : ∀ t ∈ ts', t.IsWritten DigitRun) (h : written ts = written ts') : ts = ts' := by
  induction ts generalizing ts' with
  | nil =>
    cases ts' with
    | nil => rfl
    | cons t' ts' =>
      obtain ⟨c, rest, hwritten, -⟩ := exists_written (fun _ h => h) (List.cons_ne_nil t' ts') hts'
      rw [hwritten] at h
      cases h
  | cons t ts ih =>
    cases ts' with
    | nil =>
      obtain ⟨c, rest, hwritten, -⟩ := exists_written (fun _ h => h) (List.cons_ne_nil t ts) hts
      rw [hwritten] at h
      cases h
    | cons t' ts' =>
      obtain ⟨ht, hts⟩ := List.forall_mem_cons.1 hts
      obtain ⟨ht', hts'⟩ := List.forall_mem_cons.1 hts'
      have hfirst := component?_written ht hts
      rw [h, component?_written ht' hts'] at hfirst
      obtain ⟨hcomponent, hrest⟩ := Prod.mk.inj (Option.some.inj hfirst)
      have htext : t.text ++ written ts = t'.text ++ written ts := by
        calc t.text ++ written ts
            = t'.text ++ written ts' := h
          _ = t'.text ++ written ts := by rw [hrest]
      rw [ih hts hts' hrest.symm, Term.eq_of_text hcomponent.symm (List.append_cancel_right htext)]

/-- A text is a sign and terms. -/
structure Decomposes (s : String) (sign : Sign) (ts : List Term) : Prop where
  nonempty : ts ≠ []
  terms : ∀ t ∈ ts, t.IsWritten DigitRun
  text : s.toList = sign.text ++ written ts

theorem Sign.text_injective {sign sign' : Sign} (h : sign.text = sign'.text) : sign = sign' := by
  revert h
  cases sign <;> cases sign' <;> decide

theorem Decomposes.unique {s : String} {sign sign' : Sign} {ts ts' : List Term}
    (h : Decomposes s sign ts) (h' : Decomposes s sign' ts') : sign' = sign ∧ ts' = ts := by
  have hcut : ∀ {sign : Sign} {ts : List Term}, Decomposes s sign ts →
      (Numeral.cutSign s.toList).2 = written ts := by
    intro sign ts h
    rw [h.text, cutSign_append (head?_written_ne h.terms (by decide) (by decide))
      (head?_written_ne h.terms (by decide) (by decide))]
  have hwritten : written ts' = written ts := (hcut h').symm.trans (hcut h)
  have htext := h'.text.symm.trans h.text
  rw [hwritten] at htext
  exact ⟨Sign.text_injective (List.append_cancel_right htext),
    written_injective h'.terms h.terms hwritten⟩

/-! ## Texts without a sign -/

/-- A text does not begin with a sign. -/
def IsUnsigned (s : String) : Prop :=
  s.toList.head? ≠ some '+' ∧ s.toList.head? ≠ some '-'

section unsigned

variable {a b : String} {d e : Duration}

theorem IsUnsigned.sign_eq {sign : Sign} {cs : List Char} (ha : IsUnsigned a)
    (h : a.toList = sign.text ++ cs) : sign = .absent := by
  cases sign with
  | absent => rfl
  | plus => exact absurd (by rw [h]; rfl) ha.1
  | minus => exact absurd (by rw [h]; rfl) ha.2

/-- An unsigned text that is read, other than a zero alone, consists of terms. -/
theorem IsUnsigned.exists_terms (ha : IsUnsigned a) (hzero : a ≠ "0") (h : read a = .ok d) :
    ∃ ts, ts ≠ [] ∧ (∀ t ∈ ts, t.IsWritten ReadableRun) ∧ a.toList = written ts ∧
      d.nanoseconds = amount ts := by
  obtain ⟨sign, ⟨hs, -⟩ | ⟨ts, hne, hts, hs, -, rfl⟩⟩ := read_cases h
  · obtain rfl := ha.sign_eq hs
    exact absurd (String.toList_injective hs) hzero
  · obtain rfl := ha.sign_eq hs
    exact ⟨ts, hne, hts, hs, rfl⟩

/-- Two durations, the one behind the other. -/
theorem read_append (ha : IsUnsigned a) (hb : IsUnsigned b) (hazero : a ≠ "0") (hbzero : b ≠ "0")
    (hd : read a = .ok d) (he : read b = .ok e) :
    read (a ++ b) =
      if d.nanoseconds + e.nanoseconds ≤ 2 ^ 63 - 1 then .ok ⟨d.nanoseconds + e.nanoseconds⟩
      else .error .outOfRange := by
  obtain ⟨ts, hne, hts, hats, hdts⟩ := ha.exists_terms hazero hd
  obtain ⟨us, -, hus, hbus, heus⟩ := hb.exists_terms hbzero he
  have hall : ∀ t ∈ ts ++ us, t.IsWritten ReadableRun := List.forall_mem_append.2 ⟨hts, hus⟩
  have htext : (a ++ b).toList = Sign.absent.text ++ written (ts ++ us) := by
    rw [String.toList_append, hats, hbus, written_append]
    rfl
  rw [read_terms (List.append_ne_nil_of_left_ne_nil hne us) hall htext, amount_append, hdts, heus]
  have hlimit : limit = 2 ^ 63 - 1 := rfl
  by_cases hfits : amount ts + amount us ≤ limit
  · rw [if_pos hfits, if_pos (by omega)]
    simp [Sign.apply, Sign.isNegative]
  · rw [if_neg hfits, if_neg (by omega)]

/-- A sign in front of a duration. -/
theorem read_sign_append (ha : IsUnsigned a) (hd : read a = .ok d) (sign : Sign) {text : String}
    (htext : text.toList = sign.text ++ a.toList) :
    read text = .ok ⟨if sign.isNegative then -d.nanoseconds else d.nanoseconds⟩ := by
  obtain ⟨own, ⟨hs, rfl⟩ | ⟨ts, hne, hts, hs, hfits, rfl⟩⟩ := read_cases hd
  · obtain rfl := ha.sign_eq hs
    rw [hs] at htext
    rw [read_zero htext]
    simp
  · obtain rfl := ha.sign_eq hs
    rw [hs] at htext
    rw [read_terms hne hts htext, if_pos hfits]
    rfl

end unsigned

/-- **Durations add up.** Two texts without a sign, one behind the other, stand for the sum of their
durations, which is read unless it passes the bound, and a sign in front changes the sign only. A
text that is read is a zero alone or consists of terms in just one way, and it stands for what they
are worth together, each rounded down by itself. -/
theorem read_append_add :
    (∀ {a b : String} {d e : Duration}, IsUnsigned a → IsUnsigned b → a ≠ "0" → b ≠ "0" →
      read a = .ok d → read b = .ok e →
      (d.nanoseconds + e.nanoseconds ≤ 2 ^ 63 - 1 →
        read (a ++ b) = .ok ⟨d.nanoseconds + e.nanoseconds⟩) ∧
      (2 ^ 63 - 1 < d.nanoseconds + e.nanoseconds → read (a ++ b) = .error .outOfRange)) ∧
    (∀ {a : String} {d : Duration}, IsUnsigned a → read a = .ok d →
      read ("-" ++ a) = .ok ⟨-d.nanoseconds⟩ ∧ read ("+" ++ a) = .ok ⟨d.nanoseconds⟩) ∧
    (∀ {s : String} {d : Duration}, read s = .ok d →
      (∃ sign : Sign, s.toList = sign.text ++ ['0'] ∧ d.nanoseconds = 0) ∨
      ∃ sign ts, Decomposes s sign ts ∧ d.nanoseconds = sign.apply (amount ts) ∧
        ∀ sign' ts', Decomposes s sign' ts' → sign' = sign ∧ ts' = ts) := by
  refine ⟨?_, ?_, ?_⟩
  · intro a b d e ha hb hazero hbzero hd he
    rw [read_append ha hb hazero hbzero hd he]
    exact ⟨fun hfits => if_pos hfits, fun hlarge => if_neg (not_le.2 hlarge)⟩
  · intro a d ha hd
    exact ⟨read_sign_append ha hd .minus String.toList_append,
      read_sign_append ha hd .plus String.toList_append⟩
  · intro s d hd
    obtain ⟨sign, ⟨hs, rfl⟩ | ⟨ts, hne, hts, hs, -, rfl⟩⟩ := read_cases hd
    · exact .inl ⟨sign, hs, rfl⟩
    · have hdecomposes : Decomposes s sign ts :=
        ⟨hne, fun t ht => (hts t ht).mono fun _ h => h.all, hs⟩
      exact .inr ⟨sign, ts, hdecomposes, rfl, fun _ _ => hdecomposes.unique⟩

theorem read_hour_and_half :
    read "1h" = .ok ⟨3600000000000⟩ ∧ read "30m" = .ok ⟨1800000000000⟩ ∧
      read ("1h" ++ "30m") = .ok ⟨5400000000000⟩ := by
  have hhour : read "1h" = .ok ⟨3600000000000⟩ :=
    (read_ofWhole (s := "1h") .absent ['1'] .hour 3600000000000 (by decide) (by decide) (by decide)
      rfl).trans (if_pos (by decide))
  have hhalf : read "30m" = .ok ⟨1800000000000⟩ :=
    (read_ofWhole (s := "30m") .absent ['3', '0'] .minute 1800000000000 (by decide) (by decide)
      (by decide) rfl).trans (if_pos (by decide))
  refine ⟨hhour, hhalf, ?_⟩
  exact (read_append_add.1 ⟨by decide, by decide⟩ ⟨by decide, by decide⟩ (by decide) (by decide)
    hhour hhalf).1 (by decide)

end Duration

end ClusterPlan
