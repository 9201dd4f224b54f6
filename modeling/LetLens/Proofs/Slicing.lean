import LetLens.Proofs.Highlight
import LetLens.Proofs.Runs

/-! The spans of a line, cut out of it by index. A cursor goes along the line from token to token,
and what stands between the cursor and the next token is cut out of the line. `divide?` does so with
every index checked, and it comes to the spans of `highlight`. These fall into two kinds. The ones
with a style are the tokens, and the ones without are the runs of blanks. -/

namespace LetLens

/-! ### Checked indices -/

/-- The characters from place `first` up to place `last`, if they are places of `cs` in this
order. -/
def slice? (cs : List Char) (first last : Nat) : Option (List Char) :=
  if first ≤ last ∧ last ≤ cs.length then some ((cs.drop first).take (last - first)) else none

/-- The characters between two places as a span without a style, if there are any. -/
def gap? (cs : List Char) (first last : Nat) : Option (List Span) :=
  if first < last then (slice? cs first last).map fun part => [⟨String.ofList part, .plain⟩]
  else some []

/-- Divides `cs` at the places of tokens as `divide` does, with a cursor as an index into it. There
is no answer if a column is zero or something is cut out at places that are not in `cs`. -/
def divide? (cs : List Char) (cursor : Nat) : List Token → Option (List Span)
  | [] => gap? cs cursor cs.length
  | t :: ts =>
    if t.isEnd then gap? cs cursor cs.length
    else if t.location.column = 0 then none
    else do
      let start := t.location.column - 1
      let blanks ← gap? cs cursor start
      let later ← divide? cs (start + t.literal.length) ts
      some (blanks ++ t.span :: later)

/-- Where the cursor is in front of each token, and where that token starts. -/
def cursors (cursor : Nat) : List Token → List (Nat × Nat)
  | [] => []
  | t :: ts =>
    if t.isEnd then []
    else
      let start := t.location.column - 1
      (cursor, start) :: cursors (start + t.literal.length) ts

theorem gap?_eq {cs : List Char} (first : Nat) {last : Nat} (h : last ≤ cs.length) :
    gap? cs first last = some (gap ((cs.drop first).take (last - first))) := by
  unfold gap?
  split
  · next hSome =>
    have hPart : ((cs.drop first).take (last - first)).isEmpty = false := by
      rw [List.isEmpty_eq_false_iff, ← List.length_pos_iff, List.length_take, List.length_drop]
      omega
    rw [slice?, if_pos ⟨Nat.le_of_lt hSome, h⟩, Option.map_some, gap, hPart]
    rfl
  · next hNone =>
    rw [Nat.sub_eq_zero_of_le (Nat.le_of_not_lt hNone)]
    rfl

theorem gap?_length (cs : List Char) (first : Nat) :
    gap? cs first cs.length = some (gap (cs.drop first)) := by
  rw [gap?_eq first (Nat.le_refl _), ← List.length_drop, List.take_length]

/-- Where every index is in range, checking them changes nothing. -/
theorem divide?_eq {cs : List Char} {cursor : Nat} {ts : List Token}
    (hColumns : ∀ t ∈ ts, 1 ≤ t.location.column)
    (hCursors : ∀ s ∈ cursors cursor ts, s.1 ≤ s.2 ∧ s.2 ≤ cs.length) :
    divide? cs cursor ts = some (divide (cs.drop cursor) (cursor + 1) ts) := by
  induction ts generalizing cursor with
  | nil => exact gap?_length cs cursor
  | cons t ts ih =>
    rw [divide?, divide]
    by_cases hEnd : t.isEnd
    · rw [if_pos hEnd, if_pos hEnd]
      exact gap?_length cs cursor
    obtain ⟨hColumn, hLater⟩ := List.forall_mem_cons.mp hColumns
    rw [cursors, if_neg hEnd] at hCursors
    obtain ⟨⟨hFront, hIn⟩, hRest⟩ := List.forall_mem_cons.mp hCursors
    dsimp only at hFront hIn
    have hBlanks : t.location.column - (cursor + 1) = t.location.column - 1 - cursor := by omega
    have hPlace : t.location.column + t.literal.length =
        t.location.column - 1 + t.literal.length + 1 := by omega
    have hDrop : cursor + (t.location.column - 1 - cursor + t.literal.length) =
        t.location.column - 1 + t.literal.length := by omega
    rw [if_neg hEnd, if_neg hEnd, if_neg (by omega)]
    simp only [gap?_eq cursor hIn, ih hLater hRest, hBlanks, List.drop_drop, hDrop, hPlace]
    rfl

/-! ### Tokens of a line -/

theorem column_pos_of_mem {text : String} {t : Token} (ht : t ∈ tokensOf text) :
    1 ≤ t.location.column := by
  obtain ⟨cs, -, hPlace⟩ := Layout.exists_location_eq ht
  rw [hPlace]
  exact Nat.le_add_right 1 _

/-- The cursor stands behind the token before, and only blanks are between it and the next one. -/
theorem Piece.cursors_tokens (before w : List Char) (ps : List Piece)
    (hLine : '\n' ∉ before ++ w ++ ps.flatMap chars) :
    ∀ s ∈ cursors before.length (tokens (before ++ w) ps),
      s.1 ≤ s.2 ∧ s.2 ≤ (before ++ w ++ ps.flatMap chars).length := by
  induction ps generalizing before w with
  | nil => simp [tokens, cursors, Token.isEnd]
  | cons p ps ih =>
    have hNext := ih (before ++ w ++ p.literal) p.gap (line_behind_literal hLine)
    have hText : before ++ w ++ p.literal ++ p.gap ++ ps.flatMap chars =
        before ++ w ++ (p :: ps).flatMap chars := by
      simp [chars]
    have hCursor : 1 + (before ++ w).length - 1 + (String.ofList p.literal).length =
        (before ++ w ++ p.literal).length := by
      simp only [String.length_ofList, List.length_append]
      omega
    rw [hText] at hNext
    rw [tokens_cons_of_line hLine, cursors,
      if_neg (by simpa [Token.isEnd] using p.isLexeme.ne_eof)]
    simp only [hCursor]
    refine List.forall_mem_cons.mpr ⟨?_, hNext⟩
    simp only [List.length_append]
    omega

theorem cursors_tokensOf {line : String} (hLine : '\n' ∉ line.toList) :
    ∀ s ∈ cursors 0 (tokensOf line), s.1 ≤ s.2 ∧ s.2 ≤ line.length := by
  obtain ⟨L, hL⟩ := Layout.exists_chars_eq line.toList
  have hCursors := Piece.cursors_tokens [] L.lead L.pieces
  rw [List.nil_append, ← Layout.chars, hL, String.length_toList] at hCursors
  rw [Layout.tokens_eq hL]
  exact hCursors hLine

theorem divide?_tokensOf {line : String} (hLine : '\n' ∉ line.toList) :
    divide? line.toList 0 (tokensOf line) = some (highlight line) := by
  apply divide?_eq (fun t => column_pos_of_mem)
  rw [String.length_toList]
  exact cursors_tokensOf hLine

/-! ### Spans without a style -/

section Placed

variable {start n : Nat} {text : String} {ss : List Span}

theorem mem_placed_gap_append {w : List Char} :
    (start, ⟨text, .plain⟩) ∈ placed n (gap w ++ ss) ↔
      (w ≠ [] ∧ start = n ∧ text.toList = w) ∨
        (start, ⟨text, .plain⟩) ∈ placed (n + w.length) ss := by
  unfold gap
  split
  · next hNone =>
    rw [List.isEmpty_iff] at hNone
    simp [hNone]
  · next hSome =>
    rw [List.isEmpty_iff] at hSome
    have hText : text = String.ofList w ↔ text.toList = w := by
      rw [← String.toList_inj, String.toList_ofList]
    simp [placed, hSome, hText]

theorem mem_placed_span_cons {t : Token} :
    (start, ⟨text, .plain⟩) ∈ placed n (t.span :: ss) ↔
      (start, ⟨text, .plain⟩) ∈ placed (n + t.literal.length) ss := by
  have hStyle : t.span ≠ ⟨text, .plain⟩ := fun hSame => t.style_ne_plain (congrArg Span.style hSame)
  rw [placed, List.mem_cons, Prod.mk.injEq]
  exact or_iff_right fun hSame => hStyle hSame.2.symm

namespace Piece

/-- The runs of blanks in front of a lexeme and behind it. -/
theorem isRun_append_literal_iff (p : Piece) {w cs run : List Char} (hw : ∀ c ∈ w, isBlank c)
    {k : Nat} : IsRun isBlank (w ++ (p.literal ++ cs)) k run ↔
      (w ≠ [] ∧ k = 0 ∧ run = w) ∨
        ∃ j, k = w.length + p.literal.length + j ∧ IsRun isBlank cs j run := by
  have hLexeme : ∀ c ∈ p.literal, isBlank c = false := fun c hc => by
    simpa using p.isLexeme.not_isBlank c hc
  have hFront : ∀ c ∈ w.getLast?, ∀ d ∈ (p.literal ++ cs).head?,
      isBlank c = false ∨ isBlank d = false := by
    intro c _ d hd
    rw [p.head?_literal_append] at hd
    exact .inr (hLexeme d (List.mem_of_head? hd))
  have hBehind : ∀ c ∈ p.literal.getLast?, ∀ d ∈ cs.head?,
      isBlank c = false ∨ isBlank d = false :=
    fun c hc _ _ => .inl (hLexeme c (List.mem_of_getLast? hc))
  have hNone (j : Nat) : ¬IsRun isBlank p.literal j run := not_isRun_of_forall_not hLexeme
  rw [isRun_append_iff hFront, isRun_of_forall hw]
  simp only [isRun_append_iff hBehind, hNone, false_or]
  constructor
  · rintro (hRun | ⟨_, rfl, j, rfl, hRun⟩)
    · exact .inl hRun
    · exact .inr ⟨j, (Nat.add_assoc ..).symm, hRun⟩
  · rintro (hRun | ⟨j, rfl, hRun⟩)
    · exact .inl hRun
    · exact .inr ⟨_, Nat.add_assoc .., j, rfl, hRun⟩

/-- The spans without a style are the runs of blanks. -/
theorem mem_placed_spans_iff {w : List Char} (hw : ∀ c ∈ w, isBlank c) (ps : List Piece) :
    (start, ⟨text, .plain⟩) ∈ placed n (LetLens.gap w ++ ps.flatMap spans) ↔
      ∃ k, start = n + k ∧ IsRun isBlank (w ++ ps.flatMap chars) k text.toList := by
  induction ps generalizing n w with
  | nil =>
    rw [mem_placed_gap_append, List.flatMap_nil, List.flatMap_nil, List.append_nil]
    simp [isRun_of_forall hw, placed, and_left_comm]
  | cons p ps ih =>
    have hText : w ++ (p :: ps).flatMap chars =
        w ++ (p.literal ++ (p.gap ++ ps.flatMap chars)) := by
      simp [chars]
    rw [mem_placed_gap_append, List.flatMap_cons, spans, List.cons_append, mem_placed_span_cons,
      ih p.gap_blank, hText]
    simp only [p.isRun_append_literal_iff hw, String.length_ofList]
    constructor
    · rintro (⟨hSome, rfl, hRun⟩ | ⟨k, rfl, hRun⟩)
      · exact ⟨0, rfl, .inl ⟨hSome, rfl, hRun⟩⟩
      · exact ⟨_, by omega, .inr ⟨k, rfl, hRun⟩⟩
    · rintro ⟨_, rfl, ⟨hSome, rfl, hRun⟩ | ⟨k, rfl, hRun⟩⟩
      · exact .inl ⟨hSome, rfl, hRun⟩
      · exact .inr ⟨k, by omega, hRun⟩

end Piece

end Placed

/-! ### The spans of a line -/

/-- The blanks that a line can have. -/
def lineBlanks : List Char := [' ', '\t', '\r']

section Line

variable {line : String} (hLine : '\n' ∉ line.toList)
include hLine

theorem mem_placed_highlight_iff {start : Nat} {text : String} :
    (start, ⟨text, .plain⟩) ∈ placed 0 (highlight line) ↔
      IsRun isBlank line.toList start text.toList := by
  obtain ⟨L, hL⟩ := Layout.exists_chars_eq line.toList
  rw [highlight_eq hL hLine, Piece.mem_placed_spans_iff L.lead_blank, ← Layout.chars, hL]
  simp

theorem isBlank_eq_of_mem_line : ∀ c ∈ line.toList, isBlank c = decide (c ∈ lineBlanks) := by
  intro c hc
  have hFeed : c ≠ '\n' := fun hSame => hLine (hSame ▸ hc)
  simp [isBlank, lineBlanks, hFeed, Bool.or_assoc]

theorem isRun_line_iff {start : Nat} {run : List Char} :
    IsRun isBlank line.toList start run ↔ IsRun (· ∈ lineBlanks) line.toList start run := by
  have hSame := isBlank_eq_of_mem_line hLine
  exact ⟨.congr hSame, .congr fun c hc => (hSame c hc).symm⟩

theorem styled_highlight :
    (placed 0 (highlight line)).filter (·.2.style ≠ .plain) =
      (tokensOf line).dropLast.map fun t => (t.location.column - 1, t.span) := by
  rw [← coloured_highlight hLine, coloured]
  apply List.filter_congr
  intro s hSpan
  obtain ⟨start, text, style⟩ := s
  by_cases hStyle : style = .plain
  · subst hStyle
    have hRun := (mem_placed_highlight_iff hLine).mp hSpan
    have hBlank : Span.isBlank ⟨text, .plain⟩ := by
      simpa [Span.isBlank] using hRun.all
    simp [hBlank]
  · simp [Span.isBlank, hStyle]

theorem text_ne_empty_of_mem_highlight : ∀ s ∈ highlight line, s.text ≠ "" := by
  have hText {cs : List Char} (hNil : cs ≠ []) : String.ofList cs ≠ "" := by
    simpa [← String.toList_inj] using hNil
  have hGap {cs : List Char} {s : Span} (hs : s ∈ gap cs) : s.text ≠ "" := by
    by_cases hNil : cs = []
    · simp [gap, hNil] at hs
    · obtain rfl : s = ⟨String.ofList cs, .plain⟩ := by simpa [gap, hNil] using hs
      exact hText hNil
  obtain ⟨L, hL⟩ := Layout.exists_chars_eq line.toList
  intro s hs
  rw [highlight_eq hL hLine, List.mem_append, List.mem_flatMap] at hs
  rcases hs with hs | ⟨p, -, hs⟩
  · exact hGap hs
  · rcases List.mem_cons.mp hs with rfl | hs
    · exact hText p.literal_ne_nil
    · exact hGap hs

end Line

/-- A line without line feeds is divided safely and completely, whatever characters it has. Columns
start at one, in front of each token the cursor has not passed the place where the token starts, and
that place is in the line; so `divide?` never asks for anything out of range and gives the spans of
the line. Put together they are the line, and none of them is empty. Those without a style are just
the runs of spaces, tabs and carriage returns, as long as they can be, and the others are the tokens
before the end token, in order and each at its place. -/
theorem highlight_slices {line : String} (hLine : '\n' ∉ line.toList) :
    (∀ t ∈ tokensOf line, 1 ≤ t.location.column) ∧
    (∀ s ∈ cursors 0 (tokensOf line), s.1 ≤ s.2 ∧ s.2 ≤ line.length) ∧
    divide? line.toList 0 (tokensOf line) = some (highlight line) ∧
    String.join ((highlight line).map (·.text)) = line ∧
    (∀ s ∈ highlight line, s.text ≠ "") ∧
    (∀ start text, (start, ⟨text, .plain⟩) ∈ placed 0 (highlight line) ↔
      IsRun (· ∈ lineBlanks) line.toList start text.toList) ∧
    (placed 0 (highlight line)).filter (·.2.style ≠ .plain) =
      (tokensOf line).dropLast.map fun t => (t.location.column - 1, ⟨t.literal, t.style⟩) := by
  refine ⟨fun t => column_pos_of_mem, cursors_tokensOf hLine, divide?_tokensOf hLine,
    highlight_text hLine, text_ne_empty_of_mem_highlight hLine, fun start text => ?_,
    styled_highlight hLine⟩
  rw [mem_placed_highlight_iff hLine, isRun_line_iff hLine]

/-- Indices count characters. Here the first one takes two bytes. -/
theorem highlight_slices_wide_line :
    let line := "é\t 1\r"
    '\n' ∉ line.toList ∧ cursors 0 (tokensOf line) = [(0, 0), (1, 3)] ∧
      divide? line.toList 0 (tokensOf line) = some (highlight line) ∧
      (highlight line).map (·.text) = ["é", "\t ", "1", "\r"] := by
  intro line
  have hLine : '\n' ∉ line.toList := by decide
  obtain ⟨-, -, hDivide, -⟩ := highlight_slices hLine
  refine ⟨hLine, ?_, hDivide, ?_⟩
  · decide +kernel
  · decide +kernel

end LetLens
