import LetLens.Proofs.Composition
import LetLens.Proofs.Lines
import LetLens.View.Source
import Mathlib.Data.List.Nodup

/-! The colours of the source view. It scans each line by itself, while the parser scans the whole
text, and both find the same tokens: no token goes on behind its line, and the line ends are blanks.
`dropLast_tokensOf_eq` tells the tokens of a text line by line, `highlight_eq` the spans of a line
by its layout, and together they match the coloured spans of all lines with the tokens of the
text. -/

namespace LetLens

/-! ### Lines without their ends -/

/-- A line end is made of blanks. -/
theorem exists_eq_dropLineEnd_append (line : List Char) :
    ∃ w, (∀ c ∈ w, isBlank c) ∧ line = dropLineEnd line ++ w := by
  unfold dropLineEnd
  split
  · next back h =>
    refine ⟨['\r', '\n'], by simp [isBlank], ?_⟩
    rw [← List.reverse_reverse line, h]
    simp
  · next back _ h =>
    refine ⟨['\n'], by simp [isBlank], ?_⟩
    rw [← List.reverse_reverse line, h]
    simp
  · exact ⟨[], by simp, (List.append_nil line).symm⟩

theorem dropLineEnd_subset (line : List Char) : dropLineEnd line ⊆ line := by
  obtain ⟨w, -, hLine⟩ := exists_eq_dropLineEnd_append line
  intro c hc
  rw [hLine]
  exact List.mem_append_left w hc

theorem dropLineEnd_concat_subset (line : List Char) :
    dropLineEnd (line ++ ['\n']) ⊆ line := by
  unfold dropLineEnd
  rw [List.reverse_append, List.reverse_singleton, List.singleton_append]
  split
  · next back h =>
    obtain ⟨-, hBack⟩ := List.cons.inj h
    intro c hc
    rw [← List.mem_reverse, hBack]
    exact List.mem_cons_of_mem _ (List.mem_reverse.mp hc)
  · next back _ h =>
    obtain ⟨-, hBack⟩ := List.cons.inj h
    rw [← hBack, List.reverse_reverse]
    exact List.Subset.refl line
  · next h => exact absurd rfl (h line.reverse)

theorem lineFeed_not_mem {l : List Char} (hl : ∀ c ∈ l, decide (c = '\n') = false) : '\n' ∉ l :=
  fun hMem => by simpa using hl _ hMem

theorem IsCut.lineFeed_not_mem_dropLineEnd {ls : List (List Char)} (h : IsCut (· = '\n') ls) :
    ∀ l ∈ ls, '\n' ∉ dropLineEnd l := by
  induction h with
  | nil => simp
  | @rest l _ hl =>
    intro l' hMem
    rw [List.mem_singleton.mp hMem]
    exact fun h => lineFeed_not_mem hl (dropLineEnd_subset l h)
  | @piece l c ls hl hc _ ih =>
    obtain rfl : c = '\n' := by simpa using hc
    refine List.forall_mem_cons.mpr ⟨?_, ih⟩
    exact fun h => lineFeed_not_mem hl (dropLineEnd_concat_subset l h)

theorem lineFeed_not_mem_linesOf {text line : String} (h : line ∈ linesOf text) :
    '\n' ∉ line.toList := by
  obtain ⟨l, hl, rfl⟩ := List.mem_map.mp h
  rw [String.toList_ofList]
  exact (isCut_cutAfter _ text.toList).lineFeed_not_mem_dropLineEnd l hl

/-! ### Tokens line by line -/

theorem dropLast_tokensOf_append_blanks (a : String) {w : List Char} (hw : ∀ c ∈ w, isBlank c) :
    (tokensOf (a ++ String.ofList w)).dropLast = (tokensOf a).dropLast := by
  have hText : Scanner.ofText (a ++ String.ofList w) = (Scanner.ofText a).extend w := by
    simp [Scanner.ofText, Scanner.extend]
  have hEnd (l : Location) : (Scanner.mk w l).next.1.isEnd := Scanner.isEnd_next_iff.mpr hw
  rw [tokensOf, hText, Scanner.tokens_extend_of_blank fun c hc => hw c (List.mem_of_mem_head? hc),
    Scanner.tokens_of_isEnd (hEnd _), List.dropLast_concat]
  rfl

theorem dropLast_tokensOf_dropLineEnd (line : List Char) :
    (tokensOf (String.ofList (dropLineEnd line))).dropLast =
      (tokensOf (String.ofList line)).dropLast := by
  obtain ⟨w, hw, hLine⟩ := exists_eq_dropLineEnd_append line
  rw [← dropLast_tokensOf_append_blanks _ hw, ← String.ofList_append, ← hLine]

theorem dropLast_tokensOf_line {line : List Char} (h : '\n' ∉ line) (rest : List Char) :
    (tokensOf (String.ofList (line ++ '\n' :: rest))).dropLast =
      (tokensOf (String.ofList line)).dropLast ++
        (tokensOf (String.ofList rest)).dropLast.map (Token.relocate (.below 1)) := by
  have hText : String.ofList (line ++ '\n' :: rest) =
      String.ofList line ++ "\n" ++ String.ofList rest := by
    apply String.toList_inj.mp
    simp
  have hTokens := tokensOf_append_lineFeed (String.ofList line) (String.ofList rest)
  have hRest : (tokensOf (String.ofList rest)).map (Token.relocate (.below 1)) ≠ [] := by
    simpa using (ended_tokensOf (String.ofList rest)).ne_nil
  rw [String.toList_ofList, List.count_eq_zero.mpr h] at hTokens
  rw [hText, hTokens, List.dropLast_append_of_ne_nil hRest, List.map_dropLast]

/-- The tokens of lines that are scanned one by one, without their end tokens: those of the first
line, and those of the others moved down to below it. -/
def tokensOfLines : List String → List Token
  | [] => []
  | line :: lines =>
    (tokensOf line).dropLast ++ (tokensOfLines lines).map (Token.relocate (.below 1))

theorem IsCut.dropLast_tokensOf {ls : List (List Char)} (h : IsCut (· = '\n') ls) :
    (tokensOf (String.ofList ls.flatten)).dropLast =
      tokensOfLines (ls.map fun l => String.ofList (dropLineEnd l)) := by
  induction h with
  | nil => decide +kernel
  | @rest l _ hl =>
    rw [List.flatten_singleton, List.map_singleton, tokensOfLines, dropLast_tokensOf_dropLineEnd]
    exact (List.append_nil _).symm
  | @piece l c ls hl hc _ ih =>
    obtain rfl : c = '\n' := by simpa using hc
    have hAlone : (tokensOf (String.ofList (l ++ ['\n']))).dropLast =
        (tokensOf (String.ofList l)).dropLast := by
      rw [String.ofList_append, dropLast_tokensOf_append_blanks _ (by simp [isBlank])]
    rw [List.map_cons, tokensOfLines, dropLast_tokensOf_dropLineEnd, hAlone, ← ih,
      List.flatten_cons, List.append_assoc, List.singleton_append,
      dropLast_tokensOf_line (lineFeed_not_mem hl)]

/-- The tokens of a text are those of its lines, each moved down to its line. -/
theorem dropLast_tokensOf_eq (text : String) :
    (tokensOf text).dropLast = tokensOfLines (linesOf text) := by
  have hLines := (isCut_cutAfter (· = '\n') text.toList).dropLast_tokensOf
  rwa [flatten_cutAfter, String.ofList_toList] at hLines

theorem mem_dropLast_tokensOf {text : String} {t : Token} :
    t ∈ (tokensOf text).dropLast ↔ t ∈ tokensOf text ∧ t.isEnd = false := by
  obtain ⟨e, hTokens, hBody, he⟩ := (ended_tokensOf text).exists_eq_concat
  constructor
  · intro ht
    exact ⟨(List.dropLast_subset _) ht, hBody t ht⟩
  · rintro ⟨ht, hEnd⟩
    rw [hTokens] at ht
    rcases List.mem_append.mp ht with ht | ht
    · exact ht
    · rw [List.mem_singleton.mp ht, he] at hEnd
      exact Bool.noConfusion hEnd

theorem mem_tokensOfLines {lines : List String} {t : Token} :
    t ∈ tokensOfLines lines ↔ ∃ i line, lines[i]? = some line ∧
      ∃ u ∈ (tokensOf line).dropLast, u.relocate (.below i) = t := by
  induction lines generalizing t with
  | nil => simp [tokensOfLines]
  | cons line lines ih =>
    simp only [tokensOfLines, List.mem_append, List.mem_map, ih]
    constructor
    · rintro (ht | ⟨_, ⟨i, line', hLine, u, hu, rfl⟩, rfl⟩)
      · exact ⟨0, line, rfl, t, ht, rfl⟩
      · exact ⟨i + 1, line', hLine, u, hu, rfl⟩
    · rintro ⟨i, line', hLine, u, hu, rfl⟩
      cases i with
      | zero =>
        obtain rfl : line = line' := by simpa using hLine
        exact .inl hu
      | succ i => exact .inr ⟨_, ⟨i, line', hLine, u, hu, rfl⟩, rfl⟩

/-! ### Spans of a line -/

def Token.span (t : Token) : Span := ⟨t.literal, t.style⟩

theorem Token.style_ne_plain (t : Token) : t.style ≠ .plain := by
  unfold style
  repeat' split
  all_goals simp [Style.plain, Style.text]

/-- Whether a span is one of the blanks between tokens, which have no style. -/
def Span.isBlank (s : Span) : Bool := s.style = .plain && s.text.toList.all LetLens.isBlank

theorem Token.isBlank_span (t : Token) : t.span.isBlank = false := by
  simp [Span.isBlank, Token.span, t.style_ne_plain]

namespace Piece

/-- A piece as it is coloured: its lexeme, and the blanks behind it. The style of a token does not
depend on its place. -/
def spans (p : Piece) : List Span :=
  (Token.mk p.kind (String.ofList p.literal) .start).span :: LetLens.gap p.gap

section Line

variable {before w : List Char} {p : Piece} {ps : List Piece}
  (hLine : '\n' ∉ before ++ w ++ (p :: ps).flatMap chars)
include hLine

/-- In a line the column of a token counts the characters before it. -/
theorem tokens_cons_of_line : tokens (before ++ w) (p :: ps) =
    ⟨p.kind, String.ofList p.literal, ⟨1, 1 + (before ++ w).length⟩⟩ ::
      tokens (before ++ w ++ p.literal ++ p.gap) ps := by
  have hPlace : Location.after (before ++ w) = ⟨1, 1 + (before ++ w).length⟩ :=
    Location.after_of_not_mem fun hMem => hLine (List.mem_append_left _ hMem)
  rw [tokens, hPlace, chars, List.append_assoc (before ++ w)]

theorem line_behind_literal :
    '\n' ∉ before ++ w ++ p.literal ++ p.gap ++ ps.flatMap chars := by
  simpa [chars, and_assoc] using hLine

end Line

theorem divide_tokens (before w : List Char) (ps : List Piece)
    (hLine : '\n' ∉ before ++ w ++ ps.flatMap chars) :
    divide (w ++ ps.flatMap chars) (1 + before.length) (tokens (before ++ w) ps) =
      LetLens.gap w ++ ps.flatMap spans := by
  induction ps generalizing before w with
  | nil => simp [tokens, divide, Token.isEnd]
  | cons p ps ih =>
    -- The characters that are divided next start with the gap of `p`.
    have hEnd := p.isLexeme.ne_eof
    have hNext := ih (before ++ w ++ p.literal) p.gap (line_behind_literal hLine)
    have hBlanks : 1 + (before ++ w).length - (1 + before.length) = w.length := by
      rw [List.length_append]
      omega
    have hSize : (String.ofList p.literal).length = p.literal.length := by
      simp
    have hColumn : 1 + (before ++ w).length + p.literal.length =
        1 + (before ++ w ++ p.literal).length := by
      simp only [List.length_append]
      omega
    have hText : w ++ (p :: ps).flatMap chars =
        (w ++ p.literal) ++ (p.gap ++ ps.flatMap chars) := by
      simp [chars]
    rw [tokens_cons_of_line hLine, divide, if_neg (by simpa [Token.isEnd] using hEnd)]
    simp only [hBlanks, hSize, hColumn]
    rw [hText, ← List.length_append, List.drop_left, List.append_assoc, List.take_left, hNext]
    rfl

end Piece

/-- The spans of a line are the blanks and the lexemes of its layout. -/
theorem highlight_eq {L : Layout} {line : String} (h : L.chars = line.toList)
    (hLine : '\n' ∉ line.toList) :
    highlight line = gap L.lead ++ L.pieces.flatMap Piece.spans := by
  have hDivide := Piece.divide_tokens [] L.lead L.pieces
  rw [List.nil_append, ← Layout.chars, h] at hDivide
  rw [highlight, Layout.tokens_eq h]
  exact hDivide hLine

theorem gap_text (cs : List Char) : (gap cs).flatMap (·.text.toList) = cs := by
  unfold gap
  split
  · next h => simpa using h.symm
  · simp

theorem Piece.spans_text (ps : List Piece) :
    (ps.flatMap spans).flatMap (·.text.toList) = ps.flatMap chars := by
  induction ps with
  | nil => rfl
  | cons p ps ih =>
    rw [List.flatMap_cons, List.flatMap_append, ih, List.flatMap_cons, spans, List.flatMap_cons,
      gap_text, chars]
    simp [Token.span]

theorem highlight_text {line : String} (hLine : '\n' ∉ line.toList) :
    String.join ((highlight line).map (·.text)) = line := by
  obtain ⟨L, hL⟩ := Layout.exists_chars_eq line.toList
  apply String.toList_inj.mp
  rw [highlight_eq hL hLine, String.toList_join, List.flatMap_map, List.flatMap_append, gap_text,
    Piece.spans_text]
  exact hL

/-! ### Places of the spans -/

/-- Spans with the number of characters that stand in front of each, when `start` stand in front of
the first one. -/
def placed (start : Nat) : List Span → List (Nat × Span)
  | [] => []
  | s :: ss => (start, s) :: placed (start + s.text.length) ss

/-- The spans of a line that are no blanks, with their places. -/
def coloured (start : Nat) (ss : List Span) : List (Nat × Span) :=
  (placed start ss).filter fun s => !s.2.isBlank

theorem coloured_gap_append {w : List Char} (hw : ∀ c ∈ w, isBlank c) (start : Nat)
    (ss : List Span) : coloured start (gap w ++ ss) = coloured (start + w.length) ss := by
  unfold gap
  split
  · next h => simp [List.isEmpty_iff.mp h]
  · have hBlank : (Span.mk (String.ofList w) .plain).isBlank := by
      simpa [Span.isBlank] using hw
    simp [coloured, placed, hBlank]

theorem coloured_span_cons (start : Nat) (t : Token) (ss : List Span) :
    coloured start (t.span :: ss) = (start, t.span) :: coloured (start + t.literal.length) ss :=
  List.filter_cons_of_pos (by simp [t.isBlank_span])

theorem Piece.coloured_spans (before : List Char) {w : List Char} (ps : List Piece)
    (hw : ∀ c ∈ w, isBlank c) (hLine : '\n' ∉ before ++ w ++ ps.flatMap chars) :
    coloured before.length (LetLens.gap w ++ ps.flatMap spans) =
      (tokens (before ++ w) ps).dropLast.map fun t => (t.location.column - 1, t.span) := by
  induction ps generalizing before w with
  | nil =>
    rw [coloured_gap_append hw]
    rfl
  | cons p ps ih =>
    have hNext := ih (before ++ w ++ p.literal) p.gap_blank (line_behind_literal hLine)
    have hTokens : tokens (before ++ w ++ p.literal ++ p.gap) ps ≠ [] := by
      cases ps <;> simp [tokens]
    rw [List.length_append, List.length_append] at hNext
    rw [coloured_gap_append hw, List.flatMap_cons, spans, List.cons_append, coloured_span_cons,
      tokens_cons_of_line hLine, List.dropLast_cons_of_ne_nil hTokens, List.map_cons, ← hNext]
    simp only [Token.span, String.length_ofList, List.length_append, Nat.add_sub_cancel_left]
    rfl

/-- The coloured spans of a line are its tokens. -/
theorem coloured_highlight {line : String} (hLine : '\n' ∉ line.toList) :
    coloured 0 (highlight line) =
      (tokensOf line).dropLast.map fun t => (t.location.column - 1, t.span) := by
  obtain ⟨L, hL⟩ := Layout.exists_chars_eq line.toList
  have hSpans := Piece.coloured_spans [] L.pieces L.lead_blank
  rw [List.nil_append, ← Layout.chars, hL] at hSpans
  rw [highlight_eq hL hLine, Layout.tokens_eq hL]
  exact hSpans hLine

/-! ### Spans of all lines and tokens of the text -/

/-- The tokens of a line are tokens of its text, further down. -/
theorem mem_tokensOf_iff {text : String} {t : Token} :
    t ∈ tokensOf text ∧ t.isEnd = false ↔ ∃ i line, (linesOf text)[i]? = some line ∧
      ∃ u ∈ (tokensOf line).dropLast, u.relocate (.below i) = t := by
  rw [← mem_dropLast_tokensOf, dropLast_tokensOf_eq, mem_tokensOfLines]

theorem location_below {text line : String} {i : Nat} (hLine : (linesOf text)[i]? = some line)
    {u : Token} (hu : u ∈ (tokensOf line).dropLast) :
    (u.relocate (.below i)).location = ⟨i + 1, u.location.column - 1 + 1⟩ := by
  have hNone := lineFeed_not_mem_linesOf (List.mem_of_getElem? hLine)
  obtain ⟨cs, hcs, hLocation⟩ := Layout.exists_location_eq (mem_dropLast_tokensOf.mp hu).1
  rw [Location.after_of_not_mem fun hMem => hNone (hcs.subset hMem)] at hLocation
  simp only [Token.relocate, Location.below, hLocation, Location.mk.injEq]
  omega

theorem mem_coloured_iff {text line : String} {i : Nat} (hLine : (linesOf text)[i]? = some line)
    (start : Nat) (s : Span) :
    (start, s) ∈ coloured 0 (highlight line) ↔ ∃ t, (t ∈ tokensOf text ∧ t.isEnd = false) ∧
      t.location = ⟨i + 1, start + 1⟩ ∧ t.span = s := by
  rw [coloured_highlight (lineFeed_not_mem_linesOf (List.mem_of_getElem? hLine)), List.mem_map]
  constructor
  · rintro ⟨u, hu, hSame⟩
    obtain ⟨rfl, rfl⟩ := Prod.mk.inj hSame
    exact ⟨_, mem_tokensOf_iff.mpr ⟨i, line, hLine, u, hu, rfl⟩, location_below hLine hu, rfl⟩
  · rintro ⟨t, ht, hLocation, rfl⟩
    obtain ⟨j, line', hLine', u, hu, rfl⟩ := mem_tokensOf_iff.mp ht
    rw [location_below hLine' hu] at hLocation
    obtain ⟨hRow, hColumn⟩ := Location.mk.inj hLocation
    obtain rfl : j = i := Nat.add_right_cancel hRow
    obtain rfl : line' = line := Option.some.inj (hLine'.symm.trans hLine)
    exact ⟨u, hu, congrArg₂ Prod.mk (Nat.add_right_cancel hColumn) rfl⟩

/-- Two tokens do not stand at one place. -/
theorem eq_of_location_eq {text : String} {t u : Token} (ht : t ∈ tokensOf text)
    (hu : u ∈ tokensOf text) (h : t.location = u.location) : t = u := by
  have hPlaces : ((tokensOf text).map Token.location).Nodup := by
    refine List.pairwise_map.mpr ((Layout.pairwise_tokensOf text).imp fun {t u} hLess hSame => ?_)
    rw [hSame] at hLess
    exact Location.lt_irrefl _ hLess
  exact List.inj_on_of_nodup_map hPlaces ht hu h

/-- The colours of the source view show what the parser reads. The spans of each line make up the
line. Every token of the text but the end token stands in a line of the view and is a span there,
with its literal, its style and its place. The other way round, a span is no run of blanks just
when it is one token of the text, and no other one. -/
theorem highlight_agrees (text : String) :
    (∀ line ∈ linesOf text, String.join ((highlight line).map (·.text)) = line) ∧
    (∀ t ∈ tokensOf text, t.isEnd = false → ∃ i start line, t.location = ⟨i + 1, start + 1⟩ ∧
      (linesOf text)[i]? = some line ∧ (start, t.span) ∈ placed 0 (highlight line)) ∧
    ∀ i line start s, (linesOf text)[i]? = some line → (start, s) ∈ placed 0 (highlight line) →
      (s.isBlank = false ↔ ∃! t, (t ∈ tokensOf text ∧ t.isEnd = false) ∧
        t.location = ⟨i + 1, start + 1⟩ ∧ t.span = s) := by
  refine ⟨fun line hLine => highlight_text (lineFeed_not_mem_linesOf hLine), ?_, ?_⟩
  · intro t ht hEnd
    obtain ⟨i, line, hLine, u, hu, rfl⟩ := mem_tokensOf_iff.mp ⟨ht, hEnd⟩
    have hLocation := location_below hLine hu
    have hSpan := (mem_coloured_iff hLine _ _).mpr ⟨_, ⟨ht, hEnd⟩, hLocation, rfl⟩
    exact ⟨i, _, line, hLocation, hLine, (List.mem_filter.mp hSpan).1⟩
  · intro i line start s hLine hSpan
    constructor
    · intro hBlank
      have hMem : (start, s) ∈ coloured 0 (highlight line) :=
        List.mem_filter.mpr ⟨hSpan, by simpa using hBlank⟩
      obtain ⟨t, ht, hLocation, hSame⟩ := (mem_coloured_iff hLine start s).mp hMem
      refine ⟨t, ⟨ht, hLocation, hSame⟩, fun u ⟨hu, hPlace, _⟩ => ?_⟩
      exact eq_of_location_eq hu.1 ht.1 (hPlace.trans hLocation.symm)
    · rintro ⟨t, ⟨-, -, rfl⟩, -⟩
      exact t.isBlank_span

end LetLens
