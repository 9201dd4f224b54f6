import LetLens.Proofs.Layout
import LetLens.Proofs.ParserRun
import LetLens.Proofs.Relocation

/-! Spacing. A text may be set out anew: its literals, one after the other, with blanks between any
two of them and with or without blanks around them. That is a layout of the same lexemes, since
blanks keep any lexemes apart, so it has the same tokens at other places. What tokens say does not
depend on their places, and so neither does it depend on how a text is set out. -/

namespace LetLens

/-- A way to set out words: blanks before the first one and behind each of them, where only the last
one may go without. -/
structure Spacing (words : List String) where
  lead : List Char
  gaps : List (List Char)
  length_gaps : gaps.length = words.length
  lead_blank : ∀ c ∈ lead, isBlank c
  gaps_blank : ∀ gap ∈ gaps, ∀ c ∈ gap, isBlank c
  gaps_ne_nil : ∀ gap ∈ gaps.dropLast, gap ≠ []

/-- The words, each with its gap behind it. -/
def setOut (words : List String) (gaps : List (List Char)) : List Char :=
  (words.zipWith (fun word gap => word.toList ++ gap) gaps).flatten

def Spacing.text {words : List String} (s : Spacing words) : String :=
  String.ofList (s.lead ++ setOut words s.gaps)

/-- Lexemes that are set out are pieces that may stand one behind the other. -/
theorem exists_pieces_setOut {ls : List (TokenKind × String)} {gaps : List (List Char)}
    (hLexemes : ∀ l ∈ ls, l.1.IsLexeme l.2.toList) (hLength : gaps.length = ls.length)
    (hBlank : ∀ gap ∈ gaps, ∀ c ∈ gap, isBlank c) (hApart : ∀ gap ∈ gaps.dropLast, gap ≠ []) :
    ∃ ps : List Piece, ps.map (fun p => (p.kind, String.ofList p.literal)) = ls ∧
      ps.flatMap Piece.chars = setOut (ls.map (·.2)) gaps ∧ ps.IsChain Piece.Apart := by
  induction ls generalizing gaps with
  | nil => exact ⟨[], rfl, by simp [setOut], .nil⟩
  | cons l ls ih =>
    obtain ⟨gap, gaps, rfl⟩ := List.exists_cons_of_length_eq_add_one hLength
    obtain ⟨hFirst, hLater⟩ := List.forall_mem_cons.mp hLexemes
    obtain ⟨hGap, hGaps⟩ := List.forall_mem_cons.mp hBlank
    have hRest : ∀ gap ∈ gaps.dropLast, gap ≠ [] := by
      intro g hg
      refine hApart g ?_
      rw [List.dropLast_cons_of_ne_nil (by rintro rfl; simp at hg)]
      exact List.mem_cons_of_mem gap hg
    obtain ⟨ps, hKinds, hChars, hChain⟩ := ih hLater (by simpa using hLength) hGaps hRest
    refine ⟨⟨l.1, l.2.toList, gap, hFirst, hGap⟩ :: ps, ?_, ?_, ?_⟩
    · simp [hKinds]
    · simp [hChars, setOut, Piece.chars]
    · -- Only the last lexeme may be without a gap, and nothing stands behind it.
      refine hChain.cons fun q hq hNone => absurd hNone (hApart gap ?_)
      have hMore : gaps ≠ [] := by
        rintro rfl
        obtain rfl : ls = [] := by simpa using hLength
        simp [List.map_eq_nil_iff.mp hKinds] at hq
      rw [List.dropLast_cons_of_ne_nil hMore]
      exact List.mem_cons_self

/-- A text that is set out anew has the same lexemes. -/
theorem Spacing.lexemes_text {text : String} (s : Spacing ((lexemes text).map (·.2))) :
    lexemes s.text = lexemes text := by
  obtain ⟨ps, hKinds, hChars, hChain⟩ := exists_pieces_setOut
    (fun l hl => isLexeme_of_mem_lexemes hl) (by simpa using s.length_gaps) s.gaps_blank
    s.gaps_ne_nil
  let L : Layout := ⟨s.lead, ps, s.lead_blank, hChain⟩
  have hText : L.chars = s.text.toList := by
    rw [Layout.chars, hChars, Spacing.text, String.toList_ofList]
  rw [lexemes, ← Layout.lexemes_eq hText]
  exact hKinds

/-! ### Readings without their places -/

theorem Piece.map_relocate_tokens (before : List Char) (ps : List Piece) :
    (tokens before ps).map (Token.relocate fun _ => .start) =
      (ps.map fun p => ⟨p.kind, String.ofList p.literal, .start⟩) ++ [⟨.eof, "", .start⟩] := by
  induction ps generalizing before with
  | nil => rfl
  | cons p ps ih => rw [tokens, List.map_cons, ih, List.map_cons, List.cons_append]; rfl

/-- Without their places, the tokens of a text are its lexemes and the end token. -/
theorem map_relocate_tokensOf (text : String) :
    (tokensOf text).map (Token.relocate fun _ => .start) =
      ((lexemes text).map fun l => ⟨l.1, l.2, .start⟩) ++ [⟨.eof, "", .start⟩] := by
  obtain ⟨L, hL⟩ := Layout.exists_chars_eq text.toList
  rw [lexemes, ← Layout.lexemes_eq hL, Layout.tokens_eq hL, Layout.tokens,
    Piece.map_relocate_tokens, Layout.lexemes, List.map_map]
  rfl

namespace Reading

/-- The reading with all of its places forgotten. -/
def unplaced (r : Reading) : Reading := r.relocate fun _ => .start

/-- Two readings that differ in places only. -/
structure SaysSame (r r' : Reading) : Prop where
  unplaced : r.unplaced = r'.unplaced
  count : r.program.bindings.length = r'.program.bindings.length
  names : r.program.bindings.map (·.target.name) = r'.program.bindings.map (·.target.name)
  messages : r.diagnostics.map (·.message) = r'.diagnostics.map (·.message)

@[simp] theorem names_unplaced (r : Reading) :
    r.unplaced.program.bindings.map (·.target.name) = r.program.bindings.map (·.target.name) :=
  List.map_map

@[simp] theorem messages_unplaced (r : Reading) :
    r.unplaced.diagnostics.map (·.message) = r.diagnostics.map (·.message) :=
  List.map_map

theorem saysSame_of_unplaced {r r' : Reading} (h : r.unplaced = r'.unplaced) : SaysSame r r' := by
  have hNames := congrArg (fun r : Reading => r.program.bindings.map (·.target.name)) h
  have hMessages := congrArg (fun r : Reading => r.diagnostics.map (·.message)) h
  simp only [names_unplaced, messages_unplaced] at hNames hMessages
  exact ⟨h, by simpa using congrArg List.length hNames, hNames, hMessages⟩

theorem unplaced_ofText (text : String) :
    (ofText text).unplaced =
      ofTokens (((lexemes text).map fun l => ⟨l.1, l.2, .start⟩) ++ [⟨.eof, "", .start⟩]) := by
  rw [ofText_eq, unplaced, ← ofTokens_map_relocate _ (ended_tokensOf text), map_relocate_tokensOf]

/-- How a text is set out carries no meaning. Its literals may be written with any blanks between
them: they are the same lexemes again. And two texts of the same lexemes have the same bindings and
the same diagnostics, apart from their places. -/
theorem ofText_of_spacing (text : String) :
    (∀ s : Spacing ((lexemes text).map (·.2)),
      lexemes s.text = lexemes text ∧ SaysSame (ofText s.text) (ofText text)) ∧
    ∀ text', lexemes text' = lexemes text → SaysSame (ofText text') (ofText text) := by
  have hSame (text' : String) (h : lexemes text' = lexemes text) :
      SaysSame (ofText text') (ofText text) := by
    apply saysSame_of_unplaced
    rw [unplaced_ofText, unplaced_ofText, h]
  exact ⟨fun s => ⟨s.lexemes_text, hSame _ s.lexemes_text⟩, hSame⟩

-- A gap may not be left out: without it two lexemes may become one.
example : lexemes "a ! = b" ≠ lexemes "a != b" := by decide +kernel

end Reading

end LetLens
