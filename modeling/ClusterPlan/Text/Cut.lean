/-!
# Cutting texts

Texts are cut at a character: `cut?` at its first occurrence, `splitOn` at every one. A text
split at a character has one piece more than the text has occurrences, so the pieces joined by the
character give the text back (`joinWith_splitOn`).
-/

namespace ClusterPlan.Text

/-- The parts of a text before and after the first occurrence of a character. -/
def cut? (mark : Char) : List Char → Option (List Char × List Char)
  | [] => none
  | c :: cs =>
    if c = mark then some ([], cs)
    else (cut? mark cs).map fun (before, after) => (c :: before, after)

/-- The pieces of a text between the occurrences of a character. -/
def splitOn (mark : Char) : List Char → List (List Char)
  | [] => [[]]
  | c :: cs =>
    if c = mark then [] :: splitOn mark cs
    else match splitOn mark cs with
      | [] => [[c]]
      | piece :: pieces => (c :: piece) :: pieces

/-- Pieces joined by a character. -/
def joinWith (mark : Char) : List (List Char) → List Char
  | [] => []
  | [piece] => piece
  | piece :: pieces => piece ++ mark :: joinWith mark pieces

/-- The rest of a text after a given beginning. -/
def dropPrefix? (beginning : List Char) (cs : List Char) : Option (List Char) :=
  beginning.isPrefixOf? cs

/-- The text without the occurrences of a non-empty word, found from the left. The counter says how
many characters of an occurrence are still to be passed over. -/
def eraseWord (word : List Char) : Nat → List Char → List Char
  | _, [] => []
  | pending + 1, _ :: cs => eraseWord word pending cs
  | 0, c :: cs =>
    if word.isPrefixOf (c :: cs) then eraseWord word (word.length - 1) cs
    else c :: eraseWord word 0 cs

theorem cut?_eq_none {mark : Char} {cs : List Char} : cut? mark cs = none ↔ mark ∉ cs := by
  induction cs with
  | nil => simp [cut?]
  | cons c cs ih =>
    by_cases hc : c = mark
    · simp [cut?, hc]
    · simp [cut?, hc, ih, Ne.symm hc]

/-- A text is cut where the character occurs and does not occur before. -/
theorem cut?_eq_some {mark : Char} {cs before after : List Char} :
    cut? mark cs = some (before, after) ↔ cs = before ++ mark :: after ∧ mark ∉ before := by
  induction cs generalizing before with
  | nil => simp [cut?]
  | cons c cs ih =>
    by_cases hc : c = mark
    · subst hc
      cases before with
      | nil => simp [cut?, eq_comm]
      | cons b before =>
        constructor
        · intro h
          simp [cut?] at h
        · rintro ⟨heq, hmem⟩
          rw [List.cons_append] at heq
          obtain ⟨rfl, -⟩ := List.cons.inj heq
          exact absurd List.mem_cons_self hmem
    · cases before with
      | nil => simp [cut?, hc]
      | cons b before =>
        simp only [cut?, if_neg hc, Option.map_eq_some_iff, Prod.exists, Prod.mk.injEq,
          List.cons.injEq, List.cons_append, List.mem_cons, not_or]
        constructor
        · rintro ⟨rest, after, hcut, ⟨rfl, rfl⟩, rfl⟩
          obtain ⟨hcs, hmem⟩ := ih.1 hcut
          exact ⟨⟨rfl, hcs⟩, Ne.symm hc, hmem⟩
        · rintro ⟨⟨rfl, hcs⟩, -, hmem⟩
          exact ⟨before, after, ih.2 ⟨hcs, hmem⟩, ⟨rfl, rfl⟩, rfl⟩

theorem splitOn_ne_nil (mark : Char) (cs : List Char) : splitOn mark cs ≠ [] := by
  cases cs with
  | nil => simp [splitOn]
  | cons c cs =>
    simp only [splitOn]
    split
    · simp
    · split <;> simp

theorem joinWith_splitOn (mark : Char) (cs : List Char) :
    joinWith mark (splitOn mark cs) = cs := by
  induction cs with
  | nil => rfl
  | cons c cs ih =>
    have hne := splitOn_ne_nil mark cs
    simp only [splitOn]
    split
    · next h =>
      subst h
      cases hs : splitOn c cs with
      | nil => exact absurd hs hne
      | cons piece pieces => rw [hs] at ih; simp [joinWith, ih]
    · cases hs : splitOn mark cs with
      | nil => exact absurd hs hne
      | cons piece pieces =>
        rw [hs] at ih
        cases pieces with
        | nil => simpa [joinWith] using ih
        | cons q qs => simpa [joinWith] using ih

theorem splitOn_append (mark : Char) (before after : List Char) :
    splitOn mark (before ++ mark :: after) = splitOn mark before ++ splitOn mark after := by
  induction before with
  | nil => simp [splitOn]
  | cons c before ih =>
    simp only [List.cons_append, splitOn]
    split
    · rw [ih, List.cons_append]
    · rw [ih]
      cases hs : splitOn mark before with
      | nil => exact absurd hs (splitOn_ne_nil mark before)
      | cons piece pieces => rfl

theorem splitOn_of_not_mem {mark : Char} {cs : List Char} (h : mark ∉ cs) :
    splitOn mark cs = [cs] := by
  induction cs with
  | nil => rfl
  | cons c cs ih =>
    obtain ⟨hc, hcs⟩ := not_or.1 (mt List.mem_cons.2 h)
    simp only [splitOn, if_neg (Ne.symm hc), ih hcs]

theorem splitOn_append_of_not_mem {mark : Char} {before : List Char} (h : mark ∉ before)
    (after : List Char) :
    splitOn mark (before ++ mark :: after) = before :: splitOn mark after := by
  rw [splitOn_append, splitOn_of_not_mem h, List.singleton_append]

/-- The character occurs in no piece. -/
theorem not_mem_of_mem_splitOn {mark : Char} {cs piece : List Char} (h : piece ∈ splitOn mark cs) :
    mark ∉ piece := by
  induction cs generalizing piece with
  | nil =>
    rw [List.mem_singleton.1 h]
    simp
  | cons c cs ih =>
    simp only [splitOn] at h
    split at h
    · rcases List.mem_cons.1 h with rfl | h
      · simp
      · exact ih h
    · next hc =>
      cases hs : splitOn mark cs with
      | nil => exact absurd hs (splitOn_ne_nil mark cs)
      | cons first pieces =>
        rw [hs] at h ih
        rcases List.mem_cons.1 h with rfl | h
        · exact fun hmem => (List.mem_cons.1 hmem).elim (Ne.symm hc) (ih List.mem_cons_self)
        · exact ih (List.mem_cons_of_mem _ h)

theorem joinWith_cons {mark : Char} {piece : List Char} {pieces : List (List Char)}
    (h : pieces ≠ []) :
    joinWith mark (piece :: pieces) = piece ++ mark :: joinWith mark pieces := by
  cases pieces with
  | nil => exact absurd rfl h
  | cons next pieces => rfl

/-- A character of a join is the one between the pieces, or belongs to a piece. -/
theorem mem_joinWith {mark c : Char} {pieces : List (List Char)} (h : c ∈ joinWith mark pieces) :
    c = mark ∨ ∃ piece ∈ pieces, c ∈ piece := by
  induction pieces with
  | nil => cases h
  | cons piece pieces ih =>
    by_cases hlast : pieces = []
    · subst hlast
      exact .inr ⟨piece, List.mem_cons_self, h⟩
    · rw [joinWith_cons hlast, List.mem_append, List.mem_cons] at h
      rcases h with h | rfl | h
      · exact .inr ⟨piece, List.mem_cons_self, h⟩
      · exact .inl rfl
      · exact (ih h).imp_right fun ⟨other, hother, hc⟩ =>
          ⟨other, List.mem_cons_of_mem _ hother, hc⟩

/-- Pieces without the character are what their join splits into. -/
theorem splitOn_joinWith {mark : Char} {pieces : List (List Char)} (hne : pieces ≠ [])
    (h : ∀ piece ∈ pieces, mark ∉ piece) : splitOn mark (joinWith mark pieces) = pieces := by
  induction pieces with
  | nil => exact absurd rfl hne
  | cons piece pieces ih =>
    obtain ⟨hpiece, hpieces⟩ := List.forall_mem_cons.1 h
    by_cases hlast : pieces = []
    · rw [hlast]
      exact splitOn_of_not_mem hpiece
    · rw [joinWith_cons hlast, splitOn_append_of_not_mem hpiece, ih hlast hpieces]

/-! ## Runs -/

/-- A text does not go on with a character of a class. -/
def StopsAt (p : Char → Bool) (rest : List Char) : Prop := ∀ c ∈ rest.head?, p c = false

theorem takeWhile_run {p : Char → Bool} {run rest : List Char} (hrun : ∀ c ∈ run, p c = true)
    (hrest : StopsAt p rest) :
    (run ++ rest).takeWhile p = run ∧ (run ++ rest).dropWhile p = rest := by
  rw [List.takeWhile_append_of_pos hrun, List.dropWhile_append_of_pos hrun]
  cases rest with
  | nil => simp
  | cons c rest =>
    have hc : p c = false := hrest c rfl
    simp [hc]

end ClusterPlan.Text
