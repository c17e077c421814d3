import ClusterPlan.Address.Printer
import ClusterPlan.Address.Reader
import ClusterPlan.Proofs.Address

/-!
# The texts of addresses

The canonical text of an address is read back as the address (`Address.read?_toText`). Its word may
be any; its zone has to be one that can be read (`Address.IsReadable`), as it is if the address
itself has been read from a text (`Address.isReadable_of_read?`).

Numbers are written in the digits of a radix and add up again from them, octets and groups as well
as the words made of these (`foldl_toDigits`, `foldl_places`). So an IPv4 address comes back octet
by octet. In the text of an IPv6 address a run of zero groups may be left out. The printer chooses
the longest one, but for the reader it only matters that zeros are left out (`HasZeros`). The reader
takes the first empty piece that is neither first nor last for the gap. There may be other empty
pieces: a side of the gap that has no groups is a single one (`sidePieces`). The gap is the first
that counts all the same (`expand?_sidePieces`).
-/

namespace ClusterPlan

namespace Text

/-! ## Digits -/

variable {radix : Nat}

theorem exists_digit_of_mem_toDigits (hradix : 1 < radix) {n : Nat} {c : Char}
    (hc : c ∈ Nat.toDigits radix n) : ∃ d < radix, c = Nat.digitChar d := by
  induction n using Nat.strongRecOn with
  | ind n ih =>
    rw [Nat.toDigits_eq_if hradix] at hc
    split at hc
    · next hlt => exact ⟨n, hlt, List.mem_singleton.1 hc⟩
    · next hge =>
      rcases List.mem_append.1 hc with hc | hc
      · exact ih (n / radix) (Nat.div_lt_self (by omega) hradix) hc
      · exact ⟨n % radix, Nat.mod_lt n (by omega), List.mem_singleton.1 hc⟩

/-- The digits of a number add up to it. -/
theorem foldl_toDigits (hradix : 1 < radix) (value : Char → Nat)
    (hvalue : ∀ d < radix, value (Nat.digitChar d) = d) (n : Nat) :
    (Nat.toDigits radix n).foldl (fun total c => total * radix + value c) 0 = n := by
  induction n using Nat.strongRecOn with
  | ind n ih =>
    rw [Nat.toDigits_eq_if hradix]
    split
    · next hlt => simp [hvalue n hlt]
    · next hge =>
      rw [List.foldl_append, ih (n / radix) (Nat.div_lt_self (by omega) hradix), List.foldl_cons,
        List.foldl_nil, hvalue _ (Nat.mod_lt n (by omega)), Nat.div_add_mod']

theorem ofDigits_toDigits (n : Nat) : Numeral.ofDigits (Nat.toDigits 10 n) = n :=
  foldl_toDigits (by decide) (fun c => (decimalDigit? c).getD 0) (by decide) n

theorem isDigits_toDigits (n : Nat) : isDigits (Nat.toDigits 10 n) = true := by
  have hne : Nat.toDigits 10 n ≠ [] := Nat.toDigits_ne_nil
  have hall : ∀ c ∈ Nat.toDigits 10 n, c.isDigit = true := fun c hc =>
    Nat.isDigit_of_mem_toDigits (by decide) (by decide) hc
  simpa [isDigits, hne] using hall

theorem hex_one (n : Nat) : hex 1 n = Nat.toDigits 16 n := by
  have hpos : 0 < (Nat.toDigits 16 n).length := Nat.length_toDigits_pos
  rw [hex, Nat.sub_eq_zero_of_le hpos, List.replicate_zero, List.nil_append]

theorem hexDigit?_digitChar : ∀ d < 16, hexDigit? (Nat.digitChar d) = some d := by decide

theorem isHexDigit_of_mem_hex {n : Nat} {c : Char} (hc : c ∈ hex 1 n) : isHexDigit c = true := by
  rw [hex_one] at hc
  obtain ⟨d, hd, rfl⟩ := exists_digit_of_mem_toDigits (by decide) hc
  rw [isHexDigit, hexDigit?_digitChar d hd]
  rfl

theorem hex_ne_nil (n : Nat) : hex 1 n ≠ [] := by
  rw [hex_one]
  exact Nat.toDigits_ne_nil

/-- Texts joined by a mark. -/
theorem toList_intercalate {mark : String} {c : Char} (h : mark.toList = [c])
    (texts : List String) :
    (mark.intercalate texts).toList = joinWith c (texts.map String.toList) := by
  rw [String.toList_intercalate, h]
  induction texts with
  | nil => rfl
  | cons text texts ih =>
    cases texts with
    | nil => simp [joinWith]
    | cons next texts =>
      rw [List.map_cons, List.map_cons, List.intercalate_cons_cons, ← List.map_cons, ih]
      simp [joinWith]

end Text

open ClusterPlan.Text

namespace Address

/-! ## Places -/

section places

variable {radix : Nat}

theorem length_places (radix count value : Nat) : (places radix count value).length = count := by
  induction count generalizing value with
  | zero => rfl
  | succ count ih => rw [places, List.length_append, ih, List.length_singleton]

theorem lt_of_mem_places (hradix : 0 < radix) {count value g : Nat}
    (h : g ∈ places radix count value) : g < radix := by
  induction count generalizing value with
  | zero => cases h
  | succ count ih =>
    rcases List.mem_append.1 h with h | h
    · exact ih h
    · rw [List.mem_singleton.1 h]
      exact Nat.mod_lt value hradix

/-- The places of a number add up to it, as far as they go. -/
theorem foldl_places (radix count value : Nat) :
    (places radix count value).foldl (fun total g => total * radix + g) 0 =
      value % radix ^ count := by
  induction count generalizing value with
  | zero => rw [Nat.pow_zero, Nat.mod_one]; rfl
  | succ count ih =>
    rw [places, List.foldl_append, ih, List.foldl_cons, List.foldl_nil, Nat.pow_succ',
      Nat.mod_mul, Nat.mul_comm, Nat.add_comm]

end places

/-! ## IPv4 -/

/-- The decimal digits of an octet are read back, for each of the 256 octets. -/
theorem octet?_toDigits : ∀ n < 256, octet? (Nat.toDigits 10 n) = some n := by decide +kernel

theorem toList_toText_v4 (word : BitVec 32) :
    (toText (.v4 word)).toList =
      joinWith '.' ((places 256 4 word.toNat).map (Nat.toDigits 10)) := by
  rw [toText, toList_intercalate (c := '.') rfl, List.map_map]
  exact congrArg (joinWith '.') (List.map_congr_left fun n _ => Nat.toList_repr)

/-- The text of an IPv4 address is read back. -/
theorem v4Word?_toText (word : BitVec 32) : v4Word? (toText (.v4 word)).toList = some word := by
  have hdot : ∀ piece ∈ (places 256 4 word.toNat).map (Nat.toDigits 10), '.' ∉ piece := by
    intro piece hpiece hdot
    obtain ⟨g, -, rfl⟩ := List.mem_map.1 hpiece
    exact absurd (Nat.isDigit_of_mem_toDigits (by decide) (by decide) hdot) (by decide)
  have hsplit := splitOn_joinWith (by simp [places]) hdot
  have hoctets : ((places 256 4 word.toNat).map (Nat.toDigits 10)).map octet? =
      (places 256 4 word.toNat).map some := by
    rw [List.map_map]
    refine List.map_congr_left fun g hg => ?_
    exact octet?_toDigits g (lt_of_mem_places (by decide) hg)
  have hfold := foldl_places 256 4 word.toNat
  rw [Nat.mod_eq_of_lt (show word.toNat < 256 ^ 4 from word.isLt)] at hfold
  obtain ⟨a, b, c, d, hplaces⟩ : ∃ a b c d, places 256 4 word.toNat = [a, b, c, d] :=
    ⟨_, _, _, _, rfl⟩
  rw [v4Word?, toList_toText_v4, hsplit, hoctets, hplaces]
  rw [hplaces] at hfold
  simp only [List.foldl_cons, List.foldl_nil, Nat.zero_mul, Nat.zero_add] at hfold
  simp only [List.map_cons, List.map_nil, hfold, BitVec.ofNat_toNat, BitVec.setWidth_eq]

theorem isDigits_of_octet? {cs : List Char} {n : Nat} (h : octet? cs = some n) :
    isDigits cs = true := by
  unfold octet? at h
  split at h
  · next hdigits =>
    simp only [Bool.and_eq_true] at hdigits
    exact hdigits.1.1
  · cases h

/-- An IPv4 address has digits and dots only. -/
theorem digit_or_dot_of_v4Word? {cs : List Char} {word : BitVec 32} (h : v4Word? cs = some word)
    {c : Char} (hc : c ∈ cs) : c.isDigit = true ∨ c = '.' := by
  have hoctets : ∀ piece ∈ splitOn '.' cs, ∃ n, octet? piece = some n := by
    unfold v4Word? at h
    split at h
    · next a b c d hpieces =>
      intro piece hpiece
      have hmem : octet? piece ∈ (splitOn '.' cs).map octet? := List.mem_map_of_mem hpiece
      rw [hpieces] at hmem
      simp only [List.mem_cons, List.not_mem_nil, or_false] at hmem
      rcases hmem with hmem | hmem | hmem | hmem
      all_goals exact ⟨_, hmem⟩
    · cases h
  rw [← joinWith_splitOn '.' cs] at hc
  rcases mem_joinWith hc with rfl | ⟨piece, hpiece, hc⟩
  · exact .inr rfl
  · obtain ⟨n, hn⟩ := hoctets piece hpiece
    have hdigits := isDigits_of_octet? hn
    rw [isDigits, Bool.and_eq_true, List.all_eq_true] at hdigits
    exact .inl (hdigits.2 c hc)

/-! ## Runs of zeros -/

/-- There are some zeros at a position of a list. -/
def HasZeros (groups : List Nat) (start count : Nat) : Prop :=
  ∃ before after, groups = before ++ (List.replicate count 0 ++ after) ∧ before.length = start

/-- What is found are zeros, since the current run and the best one so far are. -/
theorem hasZeros_longestZeros (done rest : List Nat) {run : Nat} {best : Nat × Nat}
    (hrun : ∃ before, done = before ++ List.replicate run 0)
    (hbest : HasZeros (done ++ rest) best.1 best.2) :
    HasZeros (done ++ rest) (longestZeros done.length run best rest).1
      (longestZeros done.length run best rest).2 := by
  induction rest generalizing done run best with
  | nil => exact hbest
  | cons g rest ih =>
    have hdone : done ++ g :: rest = (done ++ [g]) ++ rest := by simp
    have hlength : done.length + 1 = (done ++ [g]).length := by simp
    rw [hdone] at hbest ⊢
    rw [longestZeros, hlength]
    split
    · next hg =>
      -- a zero makes the current run longer, and the run may become the best one
      subst hg
      obtain ⟨before, rfl⟩ := hrun
      have hrun' : before ++ List.replicate run 0 ++ [0] =
          before ++ List.replicate (run + 1) 0 := by
        rw [List.append_assoc, List.replicate_succ']
      refine ih _ ⟨before, hrun'⟩ ?_
      split
      · refine ⟨before, rest, ?_, ?_⟩
        · rw [hrun', List.append_assoc]
        · simp
      · exact hbest
    · exact ih _ ⟨_, (List.append_nil _).symm⟩ hbest

/-- The longest run of zeros is one. -/
theorem longestZeros_spec (groups : List Nat) :
    HasZeros groups (longestZeros 0 0 (0, 0) groups).1 (longestZeros 0 0 (0, 0) groups).2 :=
  hasZeros_longestZeros [] groups ⟨[], rfl⟩ ⟨[], groups, rfl, rfl⟩

/-! ## Pieces -/

/-- The text of a piece. -/
def Piece.text : Piece → List Char
  | .empty => []
  | .group value => hex 1 value

theorem Piece.isHexDigit_of_mem_text {p : Piece} {c : Char} (hc : c ∈ p.text) :
    isHexDigit c = true := by
  cases p with
  | empty => cases hc
  | group value => exact isHexDigit_of_mem_hex hc

/-- A group has at most four hexadecimal digits. -/
def Piece.IsShort : Piece → Prop
  | .empty => True
  | .group value => value < twoTo 16

theorem group?_hex {g : Nat} (hg : g < twoTo 16) : group? (hex 1 g) = some g := by
  have hlength : (Nat.toDigits 16 g).length ≤ 4 :=
    (Nat.length_toDigits_le_iff (by decide) (by decide)).2 hg
  have hdigits : (hex 1 g).all isHexDigit = true :=
    List.all_eq_true.2 fun c hc => isHexDigit_of_mem_hex hc
  have hdigit : ∀ d < 16, (hexDigit? (Nat.digitChar d)).getD 0 = d := by
    intro d hd
    rw [hexDigit?_digitChar d hd]
    rfl
  have hvalue := foldl_toDigits (by decide) (fun c => (hexDigit? c).getD 0) hdigit g
  rw [hex_one] at hdigits
  rw [hex_one, group?, hdigits, hvalue]
  simp [hlength]

/-- The texts of pieces are read back as the pieces. -/
theorem pieces?_map_text {ps : List Piece} (h : ∀ p ∈ ps, p.IsShort) :
    pieces? (ps.map Piece.text) = some ps := by
  induction ps with
  | nil => rfl
  | cons p ps ih =>
    obtain ⟨hp, hps⟩ := List.forall_mem_cons.1 h
    cases ps with
    | nil =>
      have hdot : p.text.contains '.' = false := by
        rw [List.contains_eq_mem, decide_eq_false_iff_not]
        exact fun hc => absurd (Piece.isHexDigit_of_mem_text hc) (by decide)
      rw [List.map_singleton, pieces?, hdot]
      cases p with
      | empty => rfl
      | group value => simp [Piece.text, hex_ne_nil, group?_hex hp]
    | cons q ps =>
      rw [List.map_cons, List.map_cons, pieces?, ← List.map_cons, ih hps]
      · cases p with
        | empty => rfl
        | group value => simp [Piece.text, hex_ne_nil, group?_hex hp]
      · simp

/-- The pieces on one side of a double colon. -/
def sidePieces : List Nat → List Piece
  | [] => [.empty]
  | groups => groups.map .group

theorem groups?_map_group (groups : List Nat) : groups? (groups.map .group) = some groups := by
  induction groups with
  | nil => rfl
  | cons g groups ih => rw [List.map_cons, groups?, ih]; rfl

theorem side?_sidePieces (groups : List Nat) : side? (sidePieces groups) = some groups := by
  cases groups with
  | nil => rfl
  | cons g groups =>
    rw [sidePieces, side?, groups?_map_group]
    · simp
    · simp

theorem sidePieces_ne_nil (groups : List Nat) : sidePieces groups ≠ [] := by
  cases groups with
  | nil => simp [sidePieces]
  | cons g groups => simp [sidePieces]

/-- Between the first and the last piece of a side there is no empty one. -/
theorem isEmpty_of_mem_drop_sidePieces {groups : List Nat} {p : Piece}
    (hp : p ∈ (sidePieces groups).drop 1) : p.isEmpty = false := by
  cases groups with
  | nil => cases hp
  | cons g groups =>
    obtain ⟨g, -, rfl⟩ := List.mem_map.1 (List.mem_of_mem_drop hp)
    rfl

theorem toList_groupText (groups : List Nat) :
    (groupText groups).toList = joinWith ':' (groups.map (hex 1)) := by
  rw [groupText, toList_intercalate (c := ':') rfl, List.map_map]
  exact congrArg (joinWith ':') (List.map_congr_left fun g _ => String.toList_ofList)

/-- The text of groups splits into the pieces of a side. -/
theorem splitOn_groupText (groups : List Nat) :
    splitOn ':' (groupText groups).toList = (sidePieces groups).map Piece.text := by
  have hcolon : ∀ piece ∈ groups.map (hex 1), ':' ∉ piece := by
    intro piece hpiece hcolon
    obtain ⟨g, -, rfl⟩ := List.mem_map.1 hpiece
    exact absurd (isHexDigit_of_mem_hex hcolon) (by decide)
  rw [toList_groupText]
  cases groups with
  | nil => rfl
  | cons g groups =>
    rw [splitOn_joinWith (by simp) hcolon, sidePieces, List.map_map]
    · rfl
    · simp

/-- Eight groups stand for themselves. -/
theorem expand?_map_group {groups : List Nat} (h : groups.length = 8) :
    expand? (groups.map .group) = some groups := by
  have hnone : ((groups.map Piece.group).drop 1).dropLast.findIdx? Piece.isEmpty = none := by
    rw [List.findIdx?_eq_none_iff]
    intro p hp
    obtain ⟨g, -, rfl⟩ := List.mem_map.1 (List.mem_of_mem_drop (List.dropLast_subset _ hp))
    rfl
  rw [expand?, hnone, groups?_map_group]
  simp [h]

/-- Two sides have zeros between them. -/
theorem expand?_sidePieces {before after : List Nat} (h : before.length + after.length < 8) :
    expand? (sidePieces before ++ .empty :: sidePieces after) =
      some (before ++ List.replicate (8 - before.length - after.length) 0 ++ after) := by
  obtain ⟨first, inner, hbefore⟩ := List.exists_cons_of_ne_nil (sidePieces_ne_nil before)
  have hinner : inner.findIdx? Piece.isEmpty = none := by
    rw [List.findIdx?_eq_none_iff]
    intro p hp
    have hside : p ∈ (sidePieces before).drop 1 := by rwa [hbefore]
    exact isEmpty_of_mem_drop_sidePieces hside
  have hgap : (((sidePieces before ++ .empty :: sidePieces after).drop 1).dropLast).findIdx?
      Piece.isEmpty = some inner.length := by
    rw [hbefore, List.cons_append, List.drop_one, List.tail_cons,
      List.dropLast_append_of_ne_nil (by simp),
      List.dropLast_cons_of_ne_nil (sidePieces_ne_nil after), List.findIdx?_append, hinner]
    simp [List.findIdx?_cons, Piece.isEmpty]
  have hlength : (sidePieces before).length = inner.length + 1 := by rw [hbefore]; rfl
  have htake : (sidePieces before ++ .empty :: sidePieces after).take (inner.length + 1) =
      sidePieces before := List.take_left' hlength
  have hdrop : (sidePieces before ++ .empty :: sidePieces after).drop (inner.length + 2) =
      sidePieces after := by
    rw [List.append_cons]
    exact List.drop_left' (by simp [hlength])
  rw [expand?, hgap]
  simp only [htake, hdrop, side?_sidePieces, if_pos h]

theorem isShort_of_mem_sidePieces {groups : List Nat} (h : ∀ g ∈ groups, g < twoTo 16) :
    ∀ p ∈ sidePieces groups, p.IsShort := by
  intro p hp
  cases groups with
  | nil =>
    rw [List.mem_singleton.1 hp]
    exact trivial
  | cons g groups =>
    obtain ⟨g, hg, rfl⟩ := List.mem_map.1 hp
    exact h g hg

/-! ## IPv6 -/

/-- A text between colons stands for eight groups. -/
def Denotes (text : String) (groups : List Nat) : Prop :=
  3 ≤ (splitOn ':' text.toList).length ∧
    (pieces? (splitOn ':' text.toList)).bind expand? = some groups

/-- Eight groups written out. -/
theorem denotes_groupText {groups : List Nat} (h : groups.length = 8)
    (hshort : ∀ g ∈ groups, g < twoTo 16) : Denotes (groupText groups) groups := by
  have hside : sidePieces groups = groups.map .group := by
    cases groups with
    | nil => cases h
    | cons g groups => rfl
  rw [Denotes, splitOn_groupText, pieces?_map_text (isShort_of_mem_sidePieces hshort), hside]
  exact ⟨by simp [h], expand?_map_group h⟩

/-- Groups around a double colon. -/
theorem denotes_around {before after : List Nat} (h : before.length + after.length < 8)
    (hbefore : ∀ g ∈ before, g < twoTo 16) (hafter : ∀ g ∈ after, g < twoTo 16) :
    Denotes (groupText before ++ "::" ++ groupText after)
      (before ++ List.replicate (8 - before.length - after.length) 0 ++ after) := by
  -- the piece between the two colons is empty, whatever the sides are
  have hcolons : (groupText before ++ "::" ++ groupText after).toList =
      (groupText before).toList ++ ':' :: ([] ++ ':' :: (groupText after).toList) := by
    simp
  have hsplit : splitOn ':' (groupText before ++ "::" ++ groupText after).toList =
      (sidePieces before ++ .empty :: sidePieces after).map Piece.text := by
    rw [hcolons, splitOn_append, splitOn_append_of_not_mem (by simp), splitOn_groupText,
      splitOn_groupText, List.map_append, List.map_cons]
    rfl
  have hshort : ∀ p ∈ sidePieces before ++ .empty :: sidePieces after, p.IsShort := by
    refine List.forall_mem_append.2 ⟨isShort_of_mem_sidePieces hbefore, ?_⟩
    exact List.forall_mem_cons.2 ⟨trivial, isShort_of_mem_sidePieces hafter⟩
  have hbeforePos := List.length_pos_iff.2 (sidePieces_ne_nil before)
  have hafterPos := List.length_pos_iff.2 (sidePieces_ne_nil after)
  rw [Denotes, hsplit, pieces?_map_text hshort, Option.bind_some]
  refine ⟨?_, expand?_sidePieces h⟩
  rw [List.length_map, List.length_append, List.length_cons]
  omega

/-- Eight groups with the longest run of zeros left out. -/
theorem denotes_compressed {groups : List Nat} (h : groups.length = 8)
    (hshort : ∀ g ∈ groups, g < twoTo 16) : Denotes (compressed groups) groups := by
  obtain ⟨before, after, heq, hstart⟩ := longestZeros_spec groups
  unfold compressed
  split
  next start count hfound =>
  rw [hfound] at heq hstart
  dsimp only at heq hstart
  split
  · exact denotes_groupText h hshort
  · next hcount =>
    have hlength : before.length + (count + after.length) = 8 := by
      rw [← h, heq, List.length_append, List.length_append, List.length_replicate]
    have htake : groups.take start = before := by rw [heq, List.take_left' hstart]
    have hdrop : groups.drop (start + count) = after := by
      rw [heq, ← List.append_assoc]
      exact List.drop_left' (by simp [hstart])
    have hzeros : 8 - before.length - after.length = count := by omega
    rw [heq, List.forall_mem_append, List.forall_mem_append] at hshort
    have hdenotes := denotes_around (by omega) hshort.1 hshort.2.2
    rw [hzeros, List.append_assoc, ← heq] at hdenotes
    rwa [htake, hdrop]

/-- The groups of a word as a text are read back as the word. -/
theorem v6Word?_compressed (word : BitVec 128) :
    v6Word? (compressed (places (twoTo 16) 8 word.toNat)).toList = some word := by
  obtain ⟨hlength, hgroups⟩ := denotes_compressed (length_places (twoTo 16) 8 word.toNat)
    fun g hg => lt_of_mem_places (by decide) hg
  have hfold := foldl_places (twoTo 16) 8 word.toNat
  rw [Nat.mod_eq_of_lt (show word.toNat < twoTo 16 ^ 8 from word.isLt)] at hfold
  rw [v6Word?, if_neg (by omega), hgroups]
  simp only [hfold, BitVec.ofNat_toNat, BitVec.setWidth_eq]

/-! ## Characters -/

/-- The groups are written in hexadecimal digits and colons. -/
theorem mem_groupText {groups : List Nat} {c : Char} (hc : c ∈ (groupText groups).toList) :
    isHexDigit c = true ∨ c = ':' := by
  rw [toList_groupText] at hc
  rcases mem_joinWith hc with rfl | ⟨piece, hpiece, hc⟩
  · exact .inr rfl
  · obtain ⟨g, -, rfl⟩ := List.mem_map.1 hpiece
    exact .inl (isHexDigit_of_mem_hex hc)

theorem mem_compressed {groups : List Nat} {c : Char} (hc : c ∈ (compressed groups).toList) :
    isHexDigit c = true ∨ c = ':' := by
  unfold compressed at hc
  split at hc
  split at hc
  · exact mem_groupText hc
  · rw [String.toList_append, String.toList_append] at hc
    rcases List.mem_append.1 hc with hc | hc
    · rcases List.mem_append.1 hc with hc | hc
      · exact mem_groupText hc
      · exact .inr (by simpa using hc)
    · exact mem_groupText hc

/-- An IPv6 address has a colon. -/
theorem colon_mem_of_v6Word? {cs : List Char} {word : BitVec 128} (h : v6Word? cs = some word) :
    ':' ∈ cs := by
  refine Decidable.byContradiction fun hcolon => ?_
  rw [v6Word?, splitOn_of_not_mem hcolon] at h
  simp at h

/-! ## Zones -/

/-- A zone is not empty and has neither a percent sign nor a slash. -/
structure IsZone (zone : String) : Prop where
  nonempty : zone ≠ ""
  percent : '%' ∉ zone.toList
  slash : '/' ∉ zone.toList

/-- The zone of an address is a zone, if there is one. -/
def IsReadable (a : Address) : Prop := ∀ z ∈ a.zone, IsZone z

/-- What a zone is read from. -/
theorem isZone_of_v6Parts? {cs : List Char} {word : BitVec 128} {zone : Option String}
    (h : v6Parts? cs = some (word, zone)) (hslash : '/' ∉ cs) : ∀ z ∈ zone, IsZone z := by
  unfold v6Parts? at h
  split at h
  · obtain ⟨word', -, hparts⟩ := Option.map_eq_some_iff.1 h
    cases hparts
    exact fun z hz => absurd hz (by simp)
  · next address after hcut =>
    obtain ⟨rfl, -⟩ := cut?_eq_some.1 hcut
    split at h
    · cases h
    · next hafter =>
      simp only [Bool.or_eq_true, List.isEmpty_iff, List.contains_iff_mem, not_or] at hafter
      obtain ⟨word', -, hparts⟩ := Option.map_eq_some_iff.1 h
      cases hparts
      rintro z ⟨⟩
      refine ⟨?_, ?_, ?_⟩
      · simpa using hafter.1
      · simpa using hafter.2
      · simpa using fun hz => hslash (by simp [hz])

/-- What is read is readable. -/
theorem isReadable_of_read? {text : String} {a : Address} (h : read? text = some a) :
    a.IsReadable := by
  unfold read? at h
  dsimp only at h
  split at h
  · cases h
  · next hslash =>
    split at h
    · cases h
      exact fun z hz => absurd hz (by simp [zone])
    · obtain ⟨⟨word, zone⟩, hparts, rfl⟩ := Option.map_eq_some_iff.1 h
      exact isZone_of_v6Parts? hparts (by simpa using hslash)

theorem toList_toText_v6 (word : BitVec 128) (zone : Option String) :
    (toText (.v6 word zone)).toList =
      (compressed (places (twoTo 16) 8 word.toNat)).toList ++
        (zone.elim [] fun z => '%' :: z.toList) := by
  cases zone with
  | none => simp [toText]
  | some z => simp [toText]

theorem v4Word?_toText_v6 (word : BitVec 128) (zone : Option String) :
    v4Word? (toText (.v6 word zone)).toList = none := by
  cases h : v4Word? (toText (.v6 word zone)).toList with
  | none => rfl
  | some word' =>
    have hcolon := colon_mem_of_v6Word? (v6Word?_compressed word)
    have hmem : ':' ∈ (toText (.v6 word zone)).toList := by
      rw [toList_toText_v6]
      exact List.mem_append_left _ hcolon
    exact absurd (digit_or_dot_of_v4Word? h hmem) (by decide)

/-- The text of an IPv6 address is read back. -/
theorem v6Parts?_toText (word : BitVec 128) {zone : Option String} (hzone : ∀ z ∈ zone, IsZone z) :
    v6Parts? (toText (.v6 word zone)).toList = some (word, zone) := by
  have hpercent : '%' ∉ (compressed (places (twoTo 16) 8 word.toNat)).toList :=
    fun h => absurd (mem_compressed h) (by decide)
  rw [toList_toText_v6]
  cases zone with
  | none =>
    rw [Option.elim_none, List.append_nil, v6Parts?, cut?_eq_none.2 hpercent]
    simp only [v6Word?_compressed, Option.map_some]
  | some z =>
    obtain ⟨hne, hz, -⟩ := hzone z rfl
    have hcut : cut? '%' ((compressed (places (twoTo 16) 8 word.toNat)).toList ++ '%' :: z.toList) =
        some ((compressed (places (twoTo 16) 8 word.toNat)).toList, z.toList) :=
      cut?_eq_some.2 ⟨rfl, hpercent⟩
    rw [Option.elim_some, v6Parts?, hcut]
    simp [hne, hz, v6Word?_compressed]

theorem slash_not_mem_toText {a : Address} (h : a.IsReadable) : '/' ∉ a.toText.toList := by
  cases a with
  | v4 word =>
    exact fun hslash => absurd (digit_or_dot_of_v4Word? (v4Word?_toText word) hslash) (by decide)
  | v6 word zone =>
    rw [toList_toText_v6]
    intro hslash
    rcases List.mem_append.1 hslash with hslash | hslash
    · exact absurd (mem_compressed hslash) (by decide)
    · cases zone with
      | none => cases hslash
      | some z => exact (h z rfl).slash ((List.mem_cons.1 hslash).resolve_left (by decide))

section reading

variable {text : String} (hslash : '/' ∉ text.toList)
include hslash

theorem read?_of_v4Word? {word : BitVec 32} (h : v4Word? text.toList = some word) :
    read? text = some (.v4 word) := by
  have hcontains : text.toList.contains '/' = false := by simpa using hslash
  rw [read?, hcontains, h]
  rfl

theorem read?_of_v6Parts? {word : BitVec 128} {zone : Option String}
    (hnone : v4Word? text.toList = none) (h : v6Parts? text.toList = some (word, zone)) :
    read? text = some (.v6 word zone) := by
  have hcontains : text.toList.contains '/' = false := by simpa using hslash
  rw [read?, hcontains, hnone, h]
  rfl

end reading

/-- The text of an address is read back as the address. -/
theorem read?_toText {a : Address} (h : a.IsReadable) : read? a.toText = some a := by
  have hslash := slash_not_mem_toText h
  cases a with
  | v4 word => exact read?_of_v4Word? hslash (v4Word?_toText word)
  | v6 word zone =>
    exact read?_of_v6Parts? hslash (v4Word?_toText_v6 word zone) (v6Parts?_toText word h)

/-- Addresses can be read iff they are readable. -/
theorem exists_read?_iff {a : Address} : (∃ text, read? text = some a) ↔ a.IsReadable := by
  constructor
  · rintro ⟨text, h⟩
    exact isReadable_of_read? h
  · exact fun h => ⟨a.toText, read?_toText h⟩

end Address

end ClusterPlan
