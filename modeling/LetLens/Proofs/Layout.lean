import LetLens.Proofs.Place
import LetLens.Proofs.Scanning
import Mathlib.Data.List.Chain

/-! Layouts. A layout cuts a text into lexemes with blanks before, between and behind them, such
that no lexeme could go on with what stands right behind it. Every text has a layout, and the tokens
of the text are the lexemes of any of its layouts, each at the place that the text before it tells.
So the layout of a text is a second account of its tokens, told without a scanner: it has the
grammar of `TokenKind.IsLexeme`, the rule of the longest match and nothing else. `lexemes` is what
of the tokens does not depend on their places. -/

namespace LetLens

/-- A lexeme as it stands in a text, and the blanks behind it. -/
structure Piece where
  kind : TokenKind
  literal : List Char
  gap : List Char
  isLexeme : kind.IsLexeme literal
  gap_blank : ∀ c ∈ gap, isBlank c

namespace Piece

def chars (p : Piece) : List Char := p.literal ++ p.gap

/-- Whether `q` may stand right behind `p`: with no gap between them, the first character of `q` is
none that the lexeme of `p` takes in. -/
def Apart (p q : Piece) : Prop := p.gap = [] → ∀ c ∈ q.literal.head?, p.kind.takesIn c = false

/-- The tokens of pieces that stand behind `before`, and the end token behind them. -/
def tokens (before : List Char) : List Piece → List Token
  | [] => [⟨.eof, "", .after before⟩]
  | p :: ps => ⟨p.kind, String.ofList p.literal, .after before⟩ :: tokens (before ++ p.chars) ps

end Piece

/-- The blanks that a text starts with, and the pieces behind them. -/
structure Layout where
  lead : List Char
  pieces : List Piece
  lead_blank : ∀ c ∈ lead, isBlank c
  apart : pieces.IsChain Piece.Apart

namespace Layout

def chars (L : Layout) : List Char := L.lead ++ L.pieces.flatMap Piece.chars

def tokens (L : Layout) : List Token := Piece.tokens L.lead L.pieces

/-- The lexemes by kind and text. -/
def lexemes (L : Layout) : List (TokenKind × String) :=
  L.pieces.map fun p => (p.kind, String.ofList p.literal)

end Layout

/-! ### The tokens of a layout are those of its text -/

namespace Piece

theorem head?_literal_append (p : Piece) (cs : List Char) :
    (p.literal ++ cs).head? = p.literal.head? := by
  obtain ⟨c, part, h, -⟩ := p.isLexeme.exists_cons
  simp [h]

theorem not_takesIn {p : Piece} {ps : List Piece} (h : (p :: ps).IsChain Apart) :
    ∀ d ∈ (p.gap ++ ps.flatMap chars).head?, p.kind.takesIn d = false := by
  intro d hd
  cases hGap : p.gap with
  | cons g gs =>
    rw [hGap, List.cons_append, List.head?_cons, Option.mem_some_iff] at hd
    exact TokenKind.not_takesIn_of_isBlank _ (p.gap_blank d (by simp [hGap, hd]))
  | nil =>
    cases ps with
    | nil => simp [hGap] at hd
    | cons q qs =>
      rw [hGap, List.nil_append, List.flatMap_cons, chars, List.append_assoc,
        head?_literal_append] at hd
      exact (List.isChain_cons_cons.mp h).1 hGap d hd

/-- The scanner reads pieces piece by piece. -/
theorem tokens_scan (before w : List Char) (ps : List Piece) (hw : ∀ c ∈ w, isBlank c)
    (h : ps.IsChain Apart) :
    (Scanner.mk (w ++ ps.flatMap chars) (.after before)).tokens = tokens (before ++ w) ps := by
  induction ps generalizing before w with
  | nil =>
    have hNext := Scanner.next_of_blanks hw (.after before)
    rw [List.flatMap_nil, List.append_nil, Scanner.tokens_of_isEnd (by rw [hNext]; rfl), hNext,
      Location.advanceOver_after]
    rfl
  | cons p ps ih =>
    -- The scanner comes to stand behind the lexeme of `p`, and there the gap of `p` is the blanks
    -- in front of the other pieces.
    have hText : (p :: ps).flatMap chars = p.literal ++ (p.gap ++ ps.flatMap chars) := by
      simp [chars]
    rw [hText, Scanner.tokens_of_isLexeme hw p.isLexeme (not_takesIn h), tokens,
      Location.advanceOver_after, Location.advanceOver_after, ih _ _ p.gap_blank h.tail, chars]
    simp only [List.append_assoc]

end Piece

namespace Layout

theorem tokens_eq {L : Layout} {text : String} (h : L.chars = text.toList) :
    tokensOf text = L.tokens := by
  have hScan := Piece.tokens_scan [] L.lead L.pieces L.lead_blank L.apart
  rwa [List.nil_append, ← chars, h] at hScan

/-! ### Every text has a layout -/

/-- The layout of a text that starts with blanks and a lexeme, from a layout of what follows. -/
def cons (w : List Char) (c : Char) (cs : List Char) (hw : ∀ c ∈ w, isBlank c) (hc : ¬isBlank c)
    (L : Layout) (h : L.chars = (Lexeme.ofChars c cs).rest) : Layout where
  lead := w
  pieces := ⟨(Lexeme.ofChars c cs).kind, (Lexeme.ofChars c cs).text, L.lead,
    Lexeme.isLexeme_ofChars cs hc, L.lead_blank⟩ :: L.pieces
  lead_blank := hw
  apart := by
    refine L.apart.cons fun q hq hGap d hd => ?_
    obtain ⟨qs, hPieces⟩ := List.head?_eq_some_iff.mp hq
    refine Lexeme.not_takesIn_rest c cs d ?_
    rwa [← h, chars, show L.lead = [] from hGap, hPieces, List.nil_append, List.flatMap_cons,
      Piece.chars, List.append_assoc, q.head?_literal_append]

theorem chars_cons {w : List Char} {c : Char} {cs : List Char} (hw : ∀ c ∈ w, isBlank c)
    (hc : ¬isBlank c) {L : Layout} (h : L.chars = (Lexeme.ofChars c cs).rest) :
    (cons w c cs hw hc L h).chars = w ++ c :: cs := by
  have hText := Lexeme.text_append_rest c cs
  rw [← h] at hText
  simpa [cons, chars, Piece.chars] using hText

theorem exists_chars_eq (cs : List Char) : ∃ L : Layout, L.chars = cs := by
  induction hn : cs.length using Nat.strong_induction_on generalizing cs with
  | _ n ih =>
    subst hn
    rcases Scanner.blanks_or_lexeme cs with hBlank | ⟨w, c, cs', rfl, hw, hc⟩
    · exact ⟨⟨cs, [], hBlank, .nil⟩, by simp [chars]⟩
    · have hShorter := Lexeme.length_rest_le c cs'
      obtain ⟨L, hL⟩ := ih (Lexeme.ofChars c cs').rest.length (by simp; omega) _ rfl
      exact ⟨cons w c cs' hw hc L hL, chars_cons hw hc hL⟩

end Layout

/-! ### Places and number of the tokens -/

namespace Piece

theorem literal_ne_nil (p : Piece) : p.literal ≠ [] := by
  obtain ⟨c, part, h, -⟩ := p.isLexeme.exists_cons
  simp [h]

theorem chars_ne_nil (p : Piece) : p.chars ≠ [] := by
  simp [chars, p.literal_ne_nil]

theorem location_of_mem {before : List Char} {ps : List Piece} {t : Token}
    (ht : t ∈ tokens before ps) :
    ∃ cs, cs <+: ps.flatMap chars ∧ t.location = .after (before ++ cs) := by
  induction ps generalizing before with
  | nil =>
    rw [tokens, List.mem_singleton] at ht
    exact ⟨[], List.nil_prefix, by rw [ht, List.append_nil]⟩
  | cons p ps ih =>
    rw [tokens] at ht
    rcases List.mem_cons.mp ht with rfl | ht
    · exact ⟨[], List.nil_prefix, by rw [List.append_nil]⟩
    · obtain ⟨cs, hFront, h⟩ := ih ht
      refine ⟨p.chars ++ cs, ?_, by rw [h, List.append_assoc]⟩
      rw [List.flatMap_cons]
      exact (List.prefix_append_right_inj _).mpr hFront

theorem pairwise_location (before : List Char) (ps : List Piece) :
    (tokens before ps).Pairwise fun t u => t.location < u.location := by
  induction ps generalizing before with
  | nil => exact List.pairwise_singleton _ _
  | cons p ps ih =>
    rw [tokens, List.pairwise_cons]
    refine ⟨fun t ht => ?_, ih _⟩
    obtain ⟨cs, -, h⟩ := location_of_mem ht
    rw [h, List.append_assoc]
    exact Location.after_lt_after_append before (by simp [p.chars_ne_nil])

theorem dropLast_tokens (before : List Char) (ps : List Piece) :
    (tokens before ps).dropLast.map (fun t => (t.kind, t.literal)) =
      ps.map fun p => (p.kind, String.ofList p.literal) := by
  induction ps generalizing before with
  | nil => rfl
  | cons p ps ih =>
    have hNext := ih (before ++ p.chars)
    cases ps <;> simp_all [tokens]

theorem length_le (ps : List Piece) : ps.length ≤ (ps.flatMap chars).length := by
  induction ps with
  | nil => exact Nat.le_refl _
  | cons p ps ih =>
    have hChars := List.length_pos_iff.mpr p.chars_ne_nil
    rw [List.flatMap_cons, List.length_append, List.length_cons]
    omega

end Piece

namespace Layout

theorem lexemes_eq {L : Layout} {text : String} (h : L.chars = text.toList) :
    L.lexemes = (tokensOf text).dropLast.map fun t => (t.kind, t.literal) := by
  rw [tokens_eq h, tokens, Piece.dropLast_tokens, lexemes]

/-- A token stands where the text before it ends. -/
theorem exists_location_eq {text : String} {t : Token} (ht : t ∈ tokensOf text) :
    ∃ cs, cs <+: text.toList ∧ t.location = .after cs := by
  obtain ⟨L, hL⟩ := exists_chars_eq text.toList
  rw [tokens_eq hL] at ht
  obtain ⟨cs, hFront, h⟩ := Piece.location_of_mem ht
  rw [← hL]
  exact ⟨L.lead ++ cs, (List.prefix_append_right_inj _).mpr hFront, h⟩

theorem pairwise_tokensOf (text : String) :
    (tokensOf text).Pairwise fun t u => t.location < u.location := by
  obtain ⟨L, hL⟩ := exists_chars_eq text.toList
  rw [tokens_eq hL]
  exact Piece.pairwise_location _ _

/-- Scanning loses nothing, and every place is right. A text falls into blanks and literals, none of
them empty; its tokens are these literals in order and the end token, each at the place that counts
the line feeds before it and the characters behind the last of them. So places increase, and there
are no more tokens before the end token than characters. -/
theorem exists_tokensOf_eq (text : String) :
    ∃ L : Layout, L.chars = text.toList ∧ tokensOf text = L.tokens ∧
      (∀ c ∈ L.lead, isBlank c) ∧
      (∀ p ∈ L.pieces, p.literal ≠ [] ∧ ∀ c ∈ p.gap, isBlank c) ∧
      (tokensOf text).Pairwise (fun t u => t.location < u.location) ∧
      (tokensOf text).dropLast.length ≤ text.length := by
  obtain ⟨L, hL⟩ := exists_chars_eq text.toList
  have hLexemes := congrArg List.length (lexemes_eq hL)
  have hPieces := Piece.length_le L.pieces
  have hChars := congrArg List.length hL
  refine ⟨L, hL, tokens_eq hL, L.lead_blank, fun p _ => ⟨p.literal_ne_nil, p.gap_blank⟩, ?_, ?_⟩
  · rw [tokens_eq hL]
    exact Piece.pairwise_location _ _
  · rw [lexemes, List.length_map, List.length_map] at hLexemes
    rw [chars, List.length_append, String.length_toList] at hChars
    omega

/-- The tokens of a text, by kind and literal and without the end token, are the only cut of the
text into lexemes and blanks that follows the rule of the longest match. -/
theorem exists_lexemes_iff (text : String) (ls : List (TokenKind × String)) :
    (∃ L : Layout, L.chars = text.toList ∧ L.lexemes = ls) ↔
      ls = (tokensOf text).dropLast.map fun t => (t.kind, t.literal) := by
  constructor
  · rintro ⟨L, hL, rfl⟩
    exact lexemes_eq hL
  · rintro rfl
    obtain ⟨L, hL⟩ := exists_chars_eq text.toList
    exact ⟨L, hL, lexemes_eq hL⟩

end Layout

/-- The tokens of a text by kind and literal, without the end token. -/
def lexemes (text : String) : List (TokenKind × String) :=
  (tokensOf text).dropLast.map fun t => (t.kind, t.literal)

theorem isLexeme_of_mem_lexemes {text : String} {l : TokenKind × String} (hl : l ∈ lexemes text) :
    l.1.IsLexeme l.2.toList := by
  obtain ⟨L, hL⟩ := Layout.exists_chars_eq text.toList
  rw [lexemes, ← Layout.lexemes_eq hL] at hl
  obtain ⟨p, -, rfl⟩ := List.mem_map.mp hl
  rw [String.toList_ofList]
  exact p.isLexeme

end LetLens
