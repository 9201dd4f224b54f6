import LetLens.Proofs.Place
import LetLens.Proofs.Scanning

/-! Texts that go on. A lexeme is read alike from a longer text unless it ends where the first text
does and takes in what comes then. So all tokens but the last are kept whatever is written behind a
text, and all of them if that starts with a blank. -/

namespace LetLens

theorem Lexeme.ofChars_extend {c : Char} {cs : List Char} (more : List Char) (hc : ¬isBlank c)
    (hStop : ∀ d ∈ ((ofChars c cs).rest ++ more).head?, (ofChars c cs).kind.takesIn d = false) :
    ofChars c (cs ++ more) =
      ⟨(ofChars c cs).kind, (ofChars c cs).text, (ofChars c cs).rest ++ more⟩ := by
  have hLexeme := isLexeme_ofChars cs hc
  have hAll := text_append_rest c cs
  generalize ofChars c cs = taken at hStop hLexeme hAll ⊢
  obtain ⟨d, part, hText, -⟩ := hLexeme.exists_cons
  rw [hText] at hLexeme hAll
  obtain ⟨rfl, rfl⟩ := List.cons.inj hAll
  rw [List.append_eq, List.append_assoc, ofChars_append hLexeme hStop, hText]

namespace Scanner

/-- The scanner at the same place of a text that goes on with `more`. -/
def extend (s : Scanner) (more : List Char) : Scanner := ⟨s.rest ++ more, s.location⟩

/-- The next token of a text that goes on, if it does not go on itself. -/
theorem next_extend {s : Scanner} {more : List Char} (h : s.next.1.isEnd = false)
    (hStop : ∀ d ∈ (s.next.2.rest ++ more).head?, s.next.1.kind.takesIn d = false) :
    (s.extend more).next = (s.next.1, s.next.2.extend more) := by
  obtain ⟨cs, l⟩ := s
  rcases blanks_or_lexeme cs with hBlank | ⟨w, c, cs', rfl, hw, hc⟩
  · have hEnd : (Scanner.mk cs l).next.1.isEnd := isEnd_next_iff.mpr hBlank
    simp [h] at hEnd
  · rw [next_of_lexeme hw hc] at hStop ⊢
    rw [extend, List.append_assoc, List.cons_append, next_of_lexeme hw hc,
      Lexeme.ofChars_extend more hc hStop]
    rfl

theorem not_takesIn_rest (s : Scanner) :
    ∀ d ∈ s.next.2.rest.head?, s.next.1.kind.takesIn d = false := by
  obtain ⟨cs, l⟩ := s
  rcases blanks_or_lexeme cs with hBlank | ⟨w, c, cs', rfl, hw, hc⟩
  · simp [next_of_blanks hBlank]
  · rw [next_of_lexeme hw hc]
    exact Lexeme.not_takesIn_rest c cs'

/-- Where the text ends does not change on the way there. -/
theorem advanceOver_next (s : Scanner) :
    s.next.2.location.advanceOver s.next.2.rest = s.location.advanceOver s.rest := by
  obtain ⟨read, hRest, hPlace⟩ := s.exists_read_next
  rw [hPlace, ← Location.advanceOver_append, hRest]

/-- The end token stands at the end of the text. -/
theorem location_of_isEnd (s : Scanner) {e : Token} (he : e ∈ s.tokens) (hEnd : e.isEnd) :
    e.location = s.location.advanceOver s.rest := by
  induction s using tokens_induction with
  | atEnd s h =>
    have hNext : s.next = _ := next_of_blanks (isEnd_next_iff.mp h) s.location
    rw [tokens_of_isEnd h, List.mem_singleton] at he
    rw [he, hNext]
  | later s h ih =>
    rw [tokens_of_not_isEnd h] at he
    rcases List.mem_cons.mp he with rfl | he
    · simp [h] at hEnd
    · rw [ih he, advanceOver_next]

/-! ### Blanks -/

/-- Blanks in front of a text move its tokens and nothing else. -/
theorem tokens_blanks_append {w : List Char} (hw : ∀ c ∈ w, isBlank c) (cs : List Char)
    (l : Location) :
    (Scanner.mk (w ++ cs) l).tokens = (Scanner.mk cs (l.advanceOver w)).tokens := by
  have hNext : (Scanner.mk (w ++ cs) l).next = (Scanner.mk cs (l.advanceOver w)).next := by
    have hSkip : (Scanner.mk (w ++ cs) l).skipBlanks =
        (Scanner.mk cs (l.advanceOver w)).skipBlanks := by
      simp only [skipBlanks, List.dropWhile_append_of_pos hw, List.takeWhile_append_of_pos hw,
        Location.advanceOver_append]
    rw [next, next, hSkip]
  exact tokens_congr hNext

/-- When no lexeme takes in what is written behind a text, the tokens of that come behind those of
the text. -/
theorem tokens_extend_of_apart {more : List Char}
    (hMore : ∀ d ∈ more.head?, ∀ k : TokenKind, k.takesIn d = false) (s : Scanner) :
    (s.extend more).tokens =
      s.tokens.dropLast ++ (Scanner.mk more (s.location.advanceOver s.rest)).tokens := by
  induction s using tokens_induction with
  | atEnd s h =>
    rw [tokens_of_isEnd h, extend, tokens_blanks_append (isEnd_next_iff.mp h)]
    rfl
  | later s h ih =>
    have hStop : ∀ d ∈ (s.next.2.rest ++ more).head?, s.next.1.kind.takesIn d = false := by
      intro d hd
      cases hRest : s.next.2.rest with
      | nil =>
        rw [hRest, List.nil_append] at hd
        exact hMore d hd _
      | cons c cs => exact s.not_takesIn_rest d (by simpa [hRest] using hd)
    have hNext := next_extend h hStop
    rw [tokens_of_not_isEnd (by rwa [hNext]), hNext, ih, advanceOver_next, tokens_of_not_isEnd h,
      List.dropLast_cons_of_ne_nil (ended_tokens _).ne_nil, List.cons_append]

theorem tokens_extend_of_blank {more : List Char} (hMore : ∀ c ∈ more.head?, isBlank c)
    (s : Scanner) :
    (s.extend more).tokens =
      s.tokens.dropLast ++ (Scanner.mk more (s.location.advanceOver s.rest)).tokens :=
  tokens_extend_of_apart (fun d hd k => k.not_takesIn_of_isBlank (hMore d hd)) s

/-! ### Any characters -/

/-- Whatever is written behind a text, all of its tokens are kept but the end token and perhaps the
one before it, which is no semicolon then. -/
theorem exists_tokens_extend (more : List Char) (s : Scanner) :
    ∃ kept lost later, s.tokens = kept ++ lost ∧ (s.extend more).tokens = kept ++ later ∧
      lost ≠ [] ∧ lost.length ≤ 2 ∧ ∀ t ∈ lost, t.kind ≠ .semicolon := by
  induction s using tokens_induction with
  | atEnd s h =>
    refine ⟨[], [s.next.1], _, tokens_of_isEnd h, rfl, by simp, by simp, ?_⟩
    simp [Token.isEnd_iff.mp h]
  | later s h ih =>
    by_cases hStop : ∀ d ∈ (s.next.2.rest ++ more).head?, s.next.1.kind.takesIn d = false
    · obtain ⟨kept, lost, later, hTokens, hLater, hLost⟩ := ih
      refine ⟨s.next.1 :: kept, lost, later, ?_, ?_, hLost⟩
      · rw [tokens_of_not_isEnd h, hTokens, List.cons_append]
      · have hNext := next_extend h hStop
        rw [tokens_of_not_isEnd (by rwa [hNext]), hNext, hLater, List.cons_append]
    · -- The token ends where the text does, and a semicolon takes in nothing.
      have hRest : s.next.2.rest = [] := by
        by_contra hRest
        refine hStop fun d hd => s.not_takesIn_rest d ?_
        rwa [List.head?_append_of_ne_nil _ hRest] at hd
      have hSemicolon : s.next.1.kind ≠ .semicolon := by
        intro hKind
        exact hStop fun d _ => by rw [hKind]; rfl
      have hLast : s.next.2.next.1.isEnd := isEnd_next_iff.mpr (by simp [hRest])
      refine ⟨[], s.tokens, _, rfl, rfl, s.ended_tokens.ne_nil, ?_, ?_⟩
      · simp [tokens_of_not_isEnd h, tokens_of_isEnd hLast]
      · simp [tokens_of_not_isEnd h, tokens_of_isEnd hLast, hSemicolon, Token.isEnd_iff.mp hLast]

end Scanner

end LetLens
