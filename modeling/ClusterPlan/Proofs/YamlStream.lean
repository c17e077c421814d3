import ClusterPlan.Proofs.YamlToken

/-!
# Faults of a YAML token stream

Whatever token comes next, taking it moves the cursor to a place further on in the text and fails
with a value that cannot be read only at such a value (`Lexer.step_meets`). So a stream that breaks
off at one (`TokenStream.ofText_fault`) was made from a text in which one stands.
-/

namespace ClusterPlan.Yaml

namespace Lexer

variable {cs : List Char} {l : Lexer}

/-- To close block collections takes nothing off the text. -/
theorem cursor_unindent (column : Nat) (l : Lexer) : (l.unindent column).cursor = l.cursor := by
  unfold unindent
  split <;> rfl

/-- Nor does it to close all of them. -/
theorem cursor_unindentAll (l : Lexer) : l.unindentAll.cursor = l.cursor := by
  unfold unindentAll
  split <;> rfl

/-- Nor does it to open one. -/
theorem cursor_indent (column place : Nat) (t : Token) (l : Lexer) :
    (l.indent column place t).cursor = l.cursor := by
  unfold indent
  split <;> rfl

/-! ## Steps -/

/-- A key that may be left out is forgotten where it stands. One that may not is malformed. -/
theorem dropKey_meets (hl : l.cursor.rest <:+ cs) : Stays cs cursor l.dropKey := by
  unfold dropKey
  split
  · exact .error nofun
  · exact .ok hl

/-- A key that has been waited for too long is forgotten in the same way. -/
theorem dropStale_meets (hl : l.cursor.rest <:+ cs) : Stays cs cursor l.dropStale := by
  unfold dropStale
  split
  · exact .error nofun
  · exact .ok hl

/-- A key that may begin here replaces the one that was waited for. -/
theorem noteKey_meets (hl : l.cursor.rest <:+ cs) : Stays cs cursor l.noteKey := by
  unfold noteKey
  split
  · refine Meets.bind (dropKey_meets hl) ?_
    intro l' hl'
    exact .ok hl'
  · exact .ok hl

/-- Blanks, comments and ends of lines are passed within the text, by induction on the number of
lines. -/
theorem nextPlace_suffix (steps : Nat) (broke : Bool) (c : Cursor) :
    (nextPlace steps broke c).2.rest <:+ c.rest := by
  induction steps generalizing broke c with
  | zero => exact List.suffix_rfl
  | succ steps ih =>
    have hplace : c.skipSpaces.skipComment.rest <:+ c.rest :=
      c.skipSpaces.skipComment_suffix.trans (c.skipWhile_suffix _)
    unfold nextPlace
    dsimp only
    split
    · next hbreak => exact ((ih _ _).trans (Cursor.lineBreak?_suffix hbreak)).trans hplace
    · exact hplace

/-- The next token begins further on in the text. -/
theorem advance_suffix (l : Lexer) : l.advance.cursor.rest <:+ l.cursor.rest := by
  unfold advance
  refine (nextPlace_suffix _ _ _).trans ?_
  split
  · exact l.cursor.next_suffix
  · exact List.suffix_rfl

/-- The mark at the beginning or at the end of a document, which has three characters. -/
theorem readMark_meets (t : Token) (hl : l.cursor.rest <:+ cs) :
    Stays cs cursor (l.readMark t) := by
  unfold readMark
  refine Meets.bind (dropKey_meets (by rwa [cursor_unindentAll])) ?_
  intro l' hl'
  exact .ok ((Cursor.skip_suffix 3 _).trans hl')

/-- A directive is read by its own reader, after everything else has been closed. -/
theorem readDirective_meets (hl : l.cursor.rest <:+ cs) : Stays cs cursor l.readDirective := by
  unfold readDirective
  refine Meets.bind (dropKey_meets (by rwa [cursor_unindentAll])) ?_
  intro l' hl'
  refine Meets.bind (Label.readDirective_meets hl') ?_
  rintro ⟨d, after⟩ hafter
  exact .ok hafter

/-- The beginning of a flow collection, which may be a key. -/
theorem openFlow_meets (t : Token) (hl : l.cursor.rest <:+ cs) :
    Stays cs cursor (l.openFlow t) := by
  unfold openFlow
  refine Meets.bind (noteKey_meets hl) ?_
  intro l' hl'
  exact .ok (l'.cursor.next_suffix.trans hl')

/-- The end of a flow collection. -/
theorem closeFlow_meets (t : Token) (hl : l.cursor.rest <:+ cs) :
    Stays cs cursor (l.closeFlow t) := by
  unfold closeFlow
  refine Meets.bind (dropKey_meets hl) ?_
  intro l' hl'
  exact .ok (l'.cursor.next_suffix.trans hl')

/-- A comma between the parts of a flow collection. -/
theorem readComma_meets (hl : l.cursor.rest <:+ cs) : Stays cs cursor l.readComma := by
  unfold readComma
  refine Meets.bind (dropKey_meets hl) ?_
  intro l' hl'
  exact .ok (l'.cursor.next_suffix.trans hl')

/-- A block collection may begin before a mark. -/
theorem cursor_indent_of_block (l : Lexer) (column place : Nat) (t : Token) :
    (if l.inFlow then l else l.indent column place t).cursor = l.cursor := by
  split
  · rfl
  · exact cursor_indent column place t l

/-- The dash before an item, which may stand at the beginning of a block only. -/
theorem readItem_meets (hl : l.cursor.rest <:+ cs) : Stays cs cursor l.readItem := by
  unfold readItem
  dsimp only
  split
  · exact .error nofun
  · refine Meets.bind (dropKey_meets (by rwa [cursor_indent_of_block])) ?_
    intro l' hl'
    exact .ok (l'.cursor.next_suffix.trans hl')

/-- The question mark before a key. -/
theorem readKey_meets (hl : l.cursor.rest <:+ cs) : Stays cs cursor l.readKey := by
  unfold readKey
  dsimp only
  split
  · exact .error nofun
  · refine Meets.bind (dropKey_meets (by rwa [cursor_indent_of_block])) ?_
    intro l' hl'
    exact .ok (l'.cursor.next_suffix.trans hl')

/-- The colon before a value. If a key is waited for, it turns out to be one. -/
theorem readValue_meets (hl : l.cursor.rest <:+ cs) : Stays cs cursor l.readValue := by
  unfold readValue
  split
  · apply Meets.ok
    refine List.IsSuffix.trans (Cursor.next_suffix _) ?_
    rw [cursor_indent_of_block]
    exact hl
  · dsimp only
    split
    · exact .error nofun
    · refine Meets.bind (dropKey_meets (by rwa [cursor_indent_of_block])) ?_
      intro l' hl'
      exact .ok (l'.cursor.next_suffix.trans hl')

/-- A token that has a reader of its own and may begin a key, if that reader stays in the text. -/
theorem readLabel_meets {read : Cursor → Except Fault (Token × Cursor)}
    (hread : ∀ c : Cursor, c.rest <:+ cs → Stays cs Prod.snd (read c))
    (hl : l.cursor.rest <:+ cs) : Stays cs cursor (l.readLabel read) := by
  unfold readLabel
  refine Meets.bind (noteKey_meets hl) ?_
  intro l' hl'
  refine Meets.bind (hread _ hl') ?_
  rintro ⟨t, after⟩ hafter
  exact .ok hafter

/-- A block scalar is never a key. -/
theorem readBlock_meets (folds : Bool) (hl : l.cursor.rest <:+ cs) :
    Stays cs cursor (l.readBlock folds) := by
  unfold readBlock
  refine Meets.bind (dropKey_meets hl) ?_
  intro l' hl'
  refine Meets.bind (Block.read_meets folds _ hl') ?_
  rintro ⟨t, after⟩ hafter
  exact .ok hafter

/-- A plain scalar cannot fail once it has begun. -/
theorem readPlain_meets (hl : l.cursor.rest <:+ cs) : Stays cs cursor l.readPlain := by
  unfold readPlain
  refine Meets.bind (noteKey_meets hl) ?_
  intro l' hl'
  exact .ok ((Plain.read_suffix _ _ _).trans hl')

/-- An anchor or an alias. -/
theorem readNamed_meets (make : String → Token) (hl : l.cursor.rest <:+ cs) :
    Stays cs cursor (l.readLabel fun c => do
      let (name, after) ← Label.readAnchor c
      return (make name, after)) := by
  apply readLabel_meets _ hl
  intro c hc
  refine Meets.bind (Label.readAnchor_meets hc) ?_
  rintro ⟨name, after⟩ hafter
  exact .ok hafter

/-- Whatever token stands at a place, what is left of the text comes after it. -/
theorem readToken_meets (hl : l.cursor.rest <:+ cs) : Stays cs cursor l.readToken := by
  unfold readToken
  refine .ite (fun _ => readDirective_meets hl) fun _ => ?_
  refine .ite (fun _ => readMark_meets _ hl) fun _ => ?_
  refine .ite (fun _ => openFlow_meets _ hl) fun _ => ?_
  refine .ite (fun _ => openFlow_meets _ hl) fun _ => ?_
  refine .ite (fun _ => closeFlow_meets _ hl) fun _ => ?_
  refine .ite (fun _ => closeFlow_meets _ hl) fun _ => ?_
  refine .ite (fun _ => readComma_meets hl) fun _ => ?_
  refine .ite (fun _ => readItem_meets hl) fun _ => ?_
  refine .ite (fun _ => readKey_meets hl) fun _ => ?_
  refine .ite (fun _ => readValue_meets hl) fun _ => ?_
  refine .ite (fun _ => readNamed_meets .alias hl) fun _ => ?_
  refine .ite (fun _ => readNamed_meets .anchor hl) fun _ => ?_
  refine .ite (fun _ => readLabel_meets (fun c hc => ?_) hl) fun _ => ?_
  · refine Meets.bind (Label.readTag_meets hc) ?_
    rintro ⟨t, after⟩ hafter
    exact .ok hafter
  refine .ite (fun _ => readBlock_meets _ hl) fun _ => ?_
  refine .ite (fun _ => readBlock_meets _ hl) fun _ => ?_
  refine .ite (fun _ => readLabel_meets (fun _ hc => Quoted.read_meets _ hc) hl) fun _ => ?_
  refine .ite (fun _ => readLabel_meets (fun _ hc => Quoted.read_meets _ hc) hl) fun _ => ?_
  exact .ite (fun _ => readPlain_meets hl) fun _ => .error nofun

/-- A step finds the end of the text or takes the next token from it. -/
theorem step_meets (hl : l.cursor.rest <:+ cs) : Stays cs (fun r => r.2.cursor) l.step := by
  unfold step
  refine Meets.bind (dropStale_meets (l.advance_suffix.trans hl)) ?_
  intro l' hl'
  have hplace : (l'.unindent l'.cursor.column).cursor.rest <:+ cs := by rwa [cursor_unindent]
  dsimp only
  split
  · refine Meets.bind (dropKey_meets (by rwa [cursor_unindentAll])) ?_
    intro l'' hl''
    exact .ok hl''
  · refine Meets.bind (readToken_meets hplace) ?_
    intro l'' hl''
    exact .ok hl''

/-- Without a step left the stream ends with the tokens that are certain. -/
theorem run_zero (l : Lexer) : l.run 0 = ⟨l.certain, .malformed⟩ := rfl

-- Stated here because the step is too large for the equations of `run` to be derived.
theorem run_succ (steps : Nat) (l : Lexer) :
    l.run (steps + 1) = match l.step with
      | .error fault => ⟨l.certain, fault⟩
      | .ok (true, done) => ⟨done.tokens.reverse, .malformed⟩
      | .ok (false, after) => after.run steps := by
  rfl

/-- A stream breaks off at a value that cannot be read only if one stands in the text. -/
theorem run_fault (steps : Nat) (hl : l.cursor.rest <:+ cs) :
    IsUnreadable (l.run steps).fault cs := by
  have hend : IsUnreadable .malformed cs := nofun
  induction steps generalizing l with
  | zero =>
    rw [run_zero]
    exact hend
  | succ steps ih =>
    have hstep := step_meets hl
    rw [run_succ]
    split
    · next fault h => exact hstep.of_error h
    · exact hend
    · next after h => exact ih (hstep.of_ok h)

end Lexer

/-- A stream breaks off at a value that cannot be read only in a text that has too many digits side
by side or an escape beyond the last code point. -/
theorem TokenStream.ofText_fault (cs : List Char) :
    IsUnreadable (TokenStream.ofText cs).fault cs := by
  unfold TokenStream.ofText
  split
  · exact Lexer.run_fault _ List.suffix_rfl
  · exact nofun

end ClusterPlan.Yaml
