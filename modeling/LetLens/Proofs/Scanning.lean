import LetLens.Proofs.Lexicon
import LetLens.Token.Scanner

/-! Runs of a scanner. `next` is told for the two shapes of what is unread: blanks up to the end,
and blanks in front of a lexeme. The tokens that are left start with the next one, and they end with
the only end token among them. A scanner that has come to the end stays there. -/

namespace LetLens

/-- Tokens whose last one is an end token, and no other. -/
inductive Ended : List Token → Prop
  | last {e : Token} (h : e.isEnd) : Ended [e]
  | cons {t : Token} {ts : List Token} (h : t.isEnd = false) (later : Ended ts) : Ended (t :: ts)

namespace Ended

theorem ne_nil {ts : List Token} (h : Ended ts) : ts ≠ [] := by
  cases h <;> simp

theorem tail {t : Token} {ts : List Token} (h : Ended (t :: ts)) (ht : t.isEnd = false) :
    Ended ts := by
  cases h with
  | last hEnd => simp [ht] at hEnd
  | cons _ later => exact later

theorem cons_iff {t : Token} {ts : List Token} (hts : ts ≠ []) :
    Ended (t :: ts) ↔ t.isEnd = false ∧ Ended ts := by
  constructor
  · intro h
    cases h with
    | last => exact absurd rfl hts
    | cons ht later => exact ⟨ht, later⟩
  · rintro ⟨ht, later⟩
    exact .cons ht later

/-- The end token is the last one: none stands in front of other tokens. -/
theorem append_iff {l r : List Token} (hr : r ≠ []) :
    Ended (l ++ r) ↔ (∀ t ∈ l, t.isEnd = false) ∧ Ended r := by
  induction l with
  | nil => simp
  | cons t l ih =>
    rw [List.cons_append, cons_iff (List.append_ne_nil_of_right_ne_nil l hr), ih,
      List.forall_mem_cons, and_assoc]

theorem of_append {l r : List Token} (h : Ended (l ++ r)) (hr : r ≠ []) : Ended r :=
  ((append_iff hr).mp h).2

theorem exists_eq_concat {ts : List Token} (h : Ended ts) :
    ∃ e, ts = ts.dropLast ++ [e] ∧ (∀ t ∈ ts.dropLast, t.isEnd = false) ∧ e.isEnd := by
  induction h with
  | last hEnd => exact ⟨_, rfl, by simp, hEnd⟩
  | @cons t ts ht later ih =>
    obtain ⟨e, hConcat, hBody, hEnd⟩ := ih
    have hDrop := List.dropLast_cons_of_ne_nil (x := t) later.ne_nil
    refine ⟨e, ?_, by simpa [hDrop, ht] using hBody, hEnd⟩
    rw [hDrop, List.cons_append, ← hConcat]

theorem countP_isEnd {ts : List Token} (h : Ended ts) : ts.countP Token.isEnd = 1 := by
  induction h with
  | last hEnd => simp [hEnd]
  | cons ht _ ih => simpa [ht] using ih

end Ended

namespace Scanner

theorem next_of_blanks {w : List Char} (hw : ∀ c ∈ w, isBlank c) (l : Location) :
    (Scanner.mk w l).next = (⟨.eof, "", l.advanceOver w⟩, ⟨[], l.advanceOver w⟩) := by
  have hDrop : w.dropWhile isBlank = [] := List.dropWhile_eq_nil_iff.mpr hw
  have hTake : w.takeWhile isBlank = w := List.takeWhile_eq_self_iff.mpr hw
  simp only [next, skipBlanks, hDrop, hTake]

theorem next_of_lexeme {w : List Char} {c : Char} {cs : List Char} (hw : ∀ c ∈ w, isBlank c)
    (hc : ¬isBlank c) (l : Location) :
    (Scanner.mk (w ++ c :: cs) l).next =
      (⟨(Lexeme.ofChars c cs).kind, String.ofList (Lexeme.ofChars c cs).text, l.advanceOver w⟩,
        ⟨(Lexeme.ofChars c cs).rest, l.advanceOver (w ++ (Lexeme.ofChars c cs).text)⟩) := by
  have hStop : ∀ d ∈ (c :: cs).head?, isBlank d = false := by simpa using hc
  simp only [next, skipBlanks, takeWhile_append_of_stop hw hStop, dropWhile_append_of_stop hw hStop,
    Location.advanceOver_append]

/-- What is unread is blanks only, or blanks in front of a lexeme. -/
theorem blanks_or_lexeme (cs : List Char) :
    (∀ c ∈ cs, isBlank c) ∨
      ∃ w c cs', cs = w ++ c :: cs' ∧ (∀ c ∈ w, isBlank c) ∧ ¬isBlank c := by
  have hAll := List.takeWhile_append_dropWhile (p := isBlank) (l := cs)
  cases hDrop : cs.dropWhile isBlank with
  | nil => exact .inl (List.dropWhile_eq_nil_iff.mp hDrop)
  | cons c cs' =>
    rw [hDrop] at hAll
    have hStop := not_head?_dropWhile (p := isBlank) (l := cs) c (by simp [hDrop])
    exact .inr ⟨_, c, cs', hAll.symm, fun d hd => List.mem_takeWhile_imp hd, by simp [hStop]⟩

/-- What is read on the way to the next token is the front of what was unread. -/
theorem exists_read_next (s : Scanner) :
    ∃ read, read ++ s.next.2.rest = s.rest ∧ s.next.2.location = s.location.advanceOver read := by
  obtain ⟨cs, l⟩ := s
  rcases blanks_or_lexeme cs with hBlank | ⟨w, c, cs', rfl, hw, hc⟩
  · rw [next_of_blanks hBlank]
    exact ⟨cs, List.append_nil cs, rfl⟩
  · rw [next_of_lexeme hw hc]
    refine ⟨w ++ (Lexeme.ofChars c cs').text, ?_, rfl⟩
    rw [List.append_assoc, Lexeme.text_append_rest]

theorem tokens_of_isEnd {s : Scanner} (h : s.next.1.isEnd) : s.tokens = [s.next.1] := by
  rw [tokens, readAll]
  simp [h]

theorem tokens_of_not_isEnd {s : Scanner} (h : s.next.1.isEnd = false) :
    s.tokens = s.next.1 :: s.next.2.tokens := by
  rw [tokens, readAll]
  simp [h, tokens]

theorem tokens_congr {s s' : Scanner} (h : s.next = s'.next) : s.tokens = s'.tokens := by
  cases hEnd : s'.next.1.isEnd with
  | true => rw [tokens_of_isEnd (h ▸ hEnd), tokens_of_isEnd hEnd, h]
  | false => rw [tokens_of_not_isEnd (h ▸ hEnd), tokens_of_not_isEnd hEnd, h]

theorem exists_tokens_cons (s : Scanner) : ∃ ts, s.tokens = s.next.1 :: ts := by
  cases h : s.next.1.isEnd with
  | true => exact ⟨[], tokens_of_isEnd h⟩
  | false => exact ⟨_, tokens_of_not_isEnd h⟩

/-- The end token comes next when nothing but blanks is left. -/
theorem isEnd_next_iff {s : Scanner} : s.next.1.isEnd ↔ ∀ c ∈ s.rest, isBlank c := by
  obtain ⟨cs, l⟩ := s
  rcases blanks_or_lexeme cs with hBlank | ⟨w, c, cs', rfl, hw, hc⟩
  · rw [next_of_blanks hBlank]
    exact iff_of_true rfl hBlank
  · rw [next_of_lexeme hw hc]
    refine iff_of_false ?_ fun h => hc (h c (by simp))
    simpa [Token.isEnd] using Lexeme.kind_ne_eof c cs'

/-- A lexeme behind blanks is a token by itself if it does not go on with what follows. -/
theorem tokens_of_isLexeme {k : TokenKind} {w cs after : List Char} (hw : ∀ c ∈ w, isBlank c)
    (h : k.IsLexeme cs) (hStop : ∀ d ∈ after.head?, k.takesIn d = false) (l : Location) :
    (Scanner.mk (w ++ (cs ++ after)) l).tokens =
      ⟨k, String.ofList cs, l.advanceOver w⟩ ::
        (Scanner.mk after (l.advanceOver (w ++ cs))).tokens := by
  obtain ⟨c, part, rfl, hc⟩ := h.exists_cons
  have hNext : (Scanner.mk (w ++ c :: (part ++ after)) l).next = _ := next_of_lexeme hw hc l
  rw [Lexeme.ofChars_append h hStop] at hNext
  have hEnd := h.ne_eof
  rw [List.cons_append, tokens_of_not_isEnd (by simp [hNext, Token.isEnd, hEnd]), hNext]

theorem tokens_of_spelling {k : TokenKind} (hk : k.isFixed) {w after : List Char}
    (hw : ∀ c ∈ w, isBlank c) (hStop : ∀ d ∈ after.head?, k.takesIn d = false) (l : Location) :
    (Scanner.mk (w ++ (k.spelling.toList ++ after)) l).tokens =
      ⟨k, k.spelling, l.advanceOver w⟩ ::
        (Scanner.mk after (l.advanceOver (w ++ k.spelling.toList))).tokens := by
  rw [tokens_of_isLexeme hw ((TokenKind.isLexeme_iff_of_isFixed hk).mpr rfl) hStop,
    String.ofList_toList]

/-- At the end of a text the same end token is read again and again. -/
theorem next_next_of_isEnd {s : Scanner} (h : s.next.1.isEnd) : s.next.2.next = s.next := by
  obtain ⟨cs, l⟩ := s
  rw [next_of_blanks (isEnd_next_iff.mp h)]
  exact next_of_blanks (by simp) _

/-- Induction along the tokens that are left. -/
theorem tokens_induction {P : Scanner → Prop} (atEnd : ∀ s : Scanner, s.next.1.isEnd → P s)
    (later : ∀ s : Scanner, s.next.1.isEnd = false → P s.next.2 → P s) (s : Scanner) : P s := by
  induction s using readAll.induct with
  | case1 s _ h => exact atEnd s h
  | case2 s _ h ih => exact later s (by simpa using h) ih

/-- A token before the end token is a lexeme, and its characters are unread before it. -/
theorem isLexeme_of_mem_tokens {s : Scanner} {t : Token} (ht : t ∈ s.tokens)
    (hEnd : t.isEnd = false) :
    t.kind.IsLexeme t.literal.toList ∧ t.literal.toList ⊆ s.rest := by
  induction s using tokens_induction with
  | atEnd s h =>
    rw [tokens_of_isEnd h, List.mem_singleton] at ht
    simp [ht, h] at hEnd
  | later s h ih =>
    obtain ⟨cs, l⟩ := s
    rcases blanks_or_lexeme cs with hBlank | ⟨w, c, cs', rfl, hw, hc⟩
    · have hLast : (Scanner.mk cs l).next.1.isEnd := isEnd_next_iff.mpr hBlank
      simp [h] at hLast
    have hText := Lexeme.text_append_rest c cs'
    rw [tokens_of_not_isEnd h, next_of_lexeme hw hc] at ht
    rw [next_of_lexeme hw hc] at ih
    rcases List.mem_cons.mp ht with rfl | ht
    · refine ⟨by simpa using Lexeme.isLexeme_ofChars cs' hc, ?_⟩
      simp only [String.toList_ofList, ← hText]
      exact fun d hd => by simp [hd]
    · obtain ⟨hLexeme, hRest⟩ := ih ht
      refine ⟨hLexeme, fun d hd => ?_⟩
      simp only [← hText]
      simp [hRest hd]

theorem ended_tokens (s : Scanner) : Ended s.tokens := by
  induction s using tokens_induction with
  | atEnd s h => exact tokens_of_isEnd h ▸ .last h
  | later s h ih => exact tokens_of_not_isEnd h ▸ .cons h ih

end Scanner

theorem ended_tokensOf (text : String) : Ended (tokensOf text) := Scanner.ended_tokens _

end LetLens
