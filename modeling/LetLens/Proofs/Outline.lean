import LetLens.Proofs.Grammar
import LetLens.Proofs.Lines
import LetLens.Proofs.Printable
import LetLens.View.Listings

/-! The tree of a program, line by line. The levels of its lines follow the statements, and a level
can be read off the white space at the head of a line, whatever names are in the program. The names
that are read from a text are words, so every line of its tree is one row of printable text. -/

namespace LetLens

/-! ### Levels -/

/-- The white space of Unicode. -/
def whiteSpace : CharSet :=
  [⟨0x9, 0xd⟩, ⟨0x20, 0x20⟩, ⟨0x85, 0x85⟩, ⟨0xa0, 0xa0⟩, ⟨0x1680, 0x1680⟩, ⟨0x2000, 0x200a⟩,
   ⟨0x2028, 0x2029⟩, ⟨0x202f, 0x202f⟩, ⟨0x205f, 0x205f⟩, ⟨0x3000, 0x3000⟩]

/-- The bytes of white space at the head of a text. -/
def depth (text : String) : Nat :=
  (String.ofList (text.toList.takeWhile whiteSpace.has)).utf8ByteSize

/-- The style of a line of the tree by the white space at its head. -/
def styleAtDepth : Nat → Style
  | 0 => { foreground := some Palette.node, bold := true }
  | 2 => .text Palette.node
  | _ => .text Palette.text

namespace Program

/-- A line of the tree has a label, which starts with no white space. -/
theorem head?_label {p : Program} {l : OutlineLine} (hl : l ∈ p.outline) :
    ∃ c, l.label.toList.head? = some c ∧ whiteSpace.has c = false := by
  rcases List.mem_cons.mp hl with rfl | hl
  · exact ⟨'P', by simp, by decide⟩
  · obtain ⟨b, -, hl⟩ := List.mem_flatMap.mp hl
    simp only [Binding.outline, List.mem_cons, List.not_mem_nil, or_false] at hl
    rcases hl with rfl | rfl | rfl
    · exact ⟨'L', by simp, by decide⟩
    · exact ⟨'n', by simp, by decide⟩
    · exact ⟨'v', by simp, by decide⟩

theorem depth_text {p : Program} {l : OutlineLine} (hl : l ∈ p.outline) :
    depth l.text = l.level.indent.length := by
  obtain ⟨c, hHead, hc⟩ := head?_label hl
  have hStop : ∀ d ∈ l.label.toList.head?, whiteSpace.has d = false := by
    simpa [hHead] using hc
  have hIndent : ∀ d ∈ l.level.indent.toList, whiteSpace.has d = true := by
    rw [← List.all_eq_true]
    cases l.level <;> decide
  rw [depth, OutlineLine.text, String.toList_append, takeWhile_append_of_stop hIndent hStop,
    String.ofList_toList]
  cases l.level <;> rfl

/-- The white space at the head of a line gives it the style of its level. -/
theorem styleAtDepth_text {p : Program} {l : OutlineLine} (hl : l ∈ p.outline) :
    styleAtDepth (depth l.text) = l.level.style := by
  rw [depth_text hl]
  cases l.level <;> rfl

/-- The program, and a statement and its two parts for each binding. -/
theorem levels_outline (p : Program) :
    p.outline.map (·.level) =
      .program :: p.bindings.flatMap fun _ => [.statement, .part, .part] := by
  rw [outline, List.map_cons, List.map_flatMap]
  rfl

end Program

/-! ### The tree of a text -/

theorem IsWord.isPrintable {cs : List Char} (h : IsWord cs) {c : Char} (hc : c ∈ cs) :
    IsPrintable c := by
  have hWord := h.forall_isWordPart c hc
  simp only [isWordPart, Bool.or_eq_true, decide_eq_true_eq] at hWord
  rcases hWord with hWord | rfl
  · exact isPrintable_of_isAlphanum hWord
  · decide

/-- A binding that was read from a text: it is known from its name and two places. -/
structure Binding.IsRead (b : Binding) : Prop where
  opening : b.token = ⟨.kwLet, "let", b.token.location⟩
  target : b.target = .ofToken ⟨.ident, b.target.name, b.target.token.location⟩
  isWord : IsWord b.target.name.toList
  value : b.value = none

theorem Reading.isRead {text : String} {b : Binding}
    (hb : b ∈ (ofText text).program.bindings) : b.IsRead := by
  have hReads := reads_ofTokens (ended_tokensOf text)
  rw [← ofText_eq] at hReads
  obtain ⟨c, rfl, hTokens⟩ := hReads.exists_clause hb
  have hOpening : c.opening ∈ tokensOf text := hTokens.subset (by simp [Clause.tokens])
  have hName : c.name ∈ tokensOf text := hTokens.subset (by simp [Clause.tokens])
  obtain ⟨hLet, -⟩ := Scanner.isLexeme_of_mem_tokens hOpening
    (Token.not_isEnd_of_kind c.opening_kind (by decide))
  obtain ⟨hWord, -⟩ := Scanner.isLexeme_of_mem_tokens hName
    (Token.not_isEnd_of_kind c.name_kind (by decide))
  rw [c.opening_kind] at hLet
  rw [c.name_kind] at hWord
  refine ⟨?_, ?_, hWord.1, rfl⟩
  · show c.opening = ⟨.kwLet, "let", c.opening.location⟩
    rw [← c.opening_kind, ← show c.opening.literal = "let" from String.toList_inj.mp hLet]
  · show Identifier.ofToken c.name = .ofToken ⟨.ident, c.name.literal, c.name.location⟩
    rw [← c.name_kind]

theorem Reading.printable_outline {text : String} {l : OutlineLine}
    (hl : l ∈ (ofText text).program.outline) : Printable l.text := by
  refine .append (by cases l.level <;> decide) ?_
  rcases List.mem_cons.mp hl with rfl | hl
  · exact (Printable.append (by decide) (.repr _)).append (by decide)
  · obtain ⟨b, hb, hl⟩ := List.mem_flatMap.mp hl
    have hRead := isRead hb
    have hName : Printable b.target.name := fun c hc => hRead.isWord.isPrintable hc
    simp only [Binding.outline, hRead.value, List.mem_cons, List.not_mem_nil, or_false] at hl
    rcases hl with rfl | rfl | rfl
    · exact .append (by decide) (.location _)
    · exact ((Printable.append (by decide) hName).append (by decide)).append (.location _)
    · decide

/-- A line of the tree of a text takes one row. -/
theorem Reading.item_outline {text : String} {l : OutlineLine}
    (hl : l ∈ (ofText text).program.outline) :
    l.item = .entry l.level.style [[⟨l.text, .plain⟩]] := by
  obtain ⟨c, hHead, -⟩ := Program.head?_label hl
  have hNil : l.text.toList ≠ [] := by
    intro hText
    rw [OutlineLine.text, String.toList_append, List.append_eq_nil_iff] at hText
    simp [hText.2] at hHead
  have hFeed : '\n' ∉ l.text.toList := fun hc => absurd (printable_outline hl '\n' hc) (by decide)
  rw [OutlineLine.item, linesOf_of_lineFeed_not_mem hNil hFeed, List.map_singleton]

end LetLens
