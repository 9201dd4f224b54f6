import LetLens.Proofs.Span
import LetLens.Token.Lexeme

/-! The lexical grammar. `TokenKind.IsLexeme` says which texts a token of a kind can have, and
`TokenKind.takesIn` which characters a lexeme of that kind would have swallowed had they stood right
behind it. The two together describe the longest match: `Lexeme.isLexeme_ofChars` and
`Lexeme.not_takesIn_rest` say that what is taken from a text is a lexeme that could not be longer,
and `Lexeme.ofChars_append` that nothing else is ever taken. -/

namespace LetLens

/-- The characters of operators and delimiters. -/
def marks : List Char :=
  ['=', '!', '+', '-', '*', '/', '<', '>', ',', ';', '(', ')', '\x7b', '\x7d']

/-- A letter or an underscore, followed by letters, digits and underscores. -/
def IsWord (cs : List Char) : Prop :=
  ∃ c part, cs = c :: part ∧ isWordStart c ∧ ∀ d ∈ part, isWordPart d

namespace TokenKind

/-- The texts of the tokens of a kind. The end token has none, and a kind that is not listed has
only its spelling. -/
def IsLexeme : TokenKind → List Char → Prop
  | ident, cs => IsWord cs ∧ ∀ k ∈ keywords, cs ≠ k.spelling.toList
  | int, cs => cs ≠ [] ∧ ∀ c ∈ cs, c.isDigit
  | illegal, cs => ∃ c, cs = [c] ∧ ¬isBlank c ∧ ¬isWordPart c ∧ c ∉ marks
  | eof, _ => False
  | k, cs => cs = k.spelling.toList

def isWordKind (k : TokenKind) : Bool := k = ident || k.isKeyword

/-- Whether a lexeme of a kind goes on with a character that stands right behind it. -/
def takesIn (k : TokenKind) (c : Char) : Bool :=
  if k.isWordKind then isWordPart c
  else match k with
    | int => c.isDigit
    | assign | bang => c = '='
    | _ => false

end TokenKind

/-! ### Characters -/

theorem isWordPart_of_isWordStart {c : Char} (h : isWordStart c) : isWordPart c := by
  simp only [isWordStart, isWordPart, Char.isAlphanum, Bool.or_eq_true] at h ⊢
  rcases h with h | h
  · exact .inl (.inl h)
  · exact .inr h

theorem IsWord.forall_isWordPart {cs : List Char} (h : IsWord cs) : ∀ c ∈ cs, isWordPart c := by
  obtain ⟨first, part, rfl, hFirst, hPart⟩ := h
  exact List.forall_mem_cons.mpr ⟨isWordPart_of_isWordStart hFirst, hPart⟩

theorem isWordPart_of_isDigit {c : Char} (h : c.isDigit) : isWordPart c := by
  simp [isWordPart, Char.isAlphanum, h]

theorem isWordPart_eq_false_iff {c : Char} :
    isWordPart c = false ↔ isWordStart c = false ∧ c.isDigit = false := by
  simp only [isWordPart, isWordStart, Char.isAlphanum, Bool.or_eq_false_iff]
  exact and_right_comm

theorem not_isWordPart_of_isBlank {c : Char} (h : isBlank c) : ¬isWordPart c := by
  simp only [isBlank, Bool.or_eq_true, decide_eq_true_eq] at h
  rcases h with ((rfl | rfl) | rfl) | rfl <;> decide

theorem not_isWordStart_of_isDigit {c : Char} (h : c.isDigit) : isWordStart c = false := by
  have hUnderscore : c ≠ '_' := by
    rintro rfl
    exact absurd h (by decide)
  rw [Char.isDigit, Bool.and_eq_true, decide_eq_true_eq, decide_eq_true_eq] at h
  have hLast : c.val.toNat ≤ 57 := h.2
  have hUpper : ¬c.isUpper := by
    intro hUpper
    have hFirst : 65 ≤ c.val.toNat := (of_decide_eq_true hUpper).1
    omega
  have hLower : ¬c.isLower := by
    intro hLower
    have hFirst : 97 ≤ c.val.toNat := of_decide_eq_true (Bool.and_eq_true_iff.mp hLower).1
    omega
  rw [← Bool.not_eq_true, isWordStart, Bool.or_eq_true, decide_eq_true_eq]
  rintro (hAlpha | hc)
  · exact (Bool.or_eq_true_iff.mp hAlpha).elim hUpper hLower
  · exact hUnderscore hc

theorem plain_of_mem_marks {c : Char} (h : c ∈ marks) : ¬isBlank c ∧ ¬isWordPart c := by
  have hAll : marks.all fun c => !isBlank c && !isWordPart c := by decide
  simpa using List.all_eq_true.mp hAll c h

/-! ### Spellings -/

namespace TokenKind

/-- A kind whose tokens all have the same text. -/
def isFixed (k : TokenKind) : Bool := k ∉ [illegal, eof, ident, int]

theorem eq_of_not_isFixed {k : TokenKind} (h : ¬k.isFixed) :
    k = illegal ∨ k = eof ∨ k = ident ∨ k = int := by
  revert h
  cases k <;> decide

theorem isLexeme_iff_of_isFixed {k : TokenKind} (hk : k.isFixed) {cs : List Char} :
    k.IsLexeme cs ↔ cs = k.spelling.toList := by
  cases k <;> first | exact Iff.rfl | exact absurd hk (by decide)

theorem spelling_ofChar {c : Char} (hc : c ∈ marks) :
    (ofChar c).isFixed ∧ (ofChar c).spelling.toList = [c] := by
  have hAll : marks.all fun c => (ofChar c).isFixed && (ofChar c).spelling.toList = [c] := by
    decide
  simpa using List.all_eq_true.mp hAll c hc

theorem ofChar_eq_illegal {c : Char} (hc : c ∉ marks) : ofChar c = illegal := by
  unfold ofChar
  split <;> first | rfl | exact absurd hc (by decide)

theorem isLexeme_ofChar {c : Char} (hBlank : ¬isBlank c) (hWord : ¬isWordPart c) :
    (ofChar c).IsLexeme [c] := by
  by_cases hc : c ∈ marks
  · obtain ⟨hFixed, hSpelling⟩ := spelling_ofChar hc
    rw [isLexeme_iff_of_isFixed hFixed, hSpelling]
  · rw [ofChar_eq_illegal hc]
    exact ⟨c, rfl, hBlank, hWord, hc⟩

theorem isFixed_of_isKeyword {k : TokenKind} (hk : k.isKeyword) : k.isFixed := by
  revert hk
  cases k <;> decide

instance (cs : List Char) : Decidable (IsWord cs) :=
  match cs with
  | [] => isFalse fun ⟨_, _, h, _⟩ => nomatch h
  | c :: part => decidable_of_iff (isWordStart c ∧ part.all isWordPart)
      ⟨fun ⟨hStart, hPart⟩ => ⟨c, part, rfl, hStart, List.all_eq_true.mp hPart⟩,
        fun ⟨_, _, h, hStart, hPart⟩ => by
          cases h
          exact ⟨hStart, List.all_eq_true.mpr hPart⟩⟩

theorem isWord_spelling {k : TokenKind} (hk : k ∈ keywords) : IsWord k.spelling.toList := by
  revert k
  decide

theorem ofWord_eq_ident_iff {word : String} :
    ofWord word = ident ↔ ∀ k ∈ keywords, word ≠ k.spelling := by
  constructor
  · rintro h k hk rfl
    rw [ofWord_spelling hk] at h
    subst h
    exact absurd hk (by decide)
  · intro h
    rcases ofWord_eq_ident_or_mem word with hIdent | ⟨hMem, hSpelling⟩
    · exact hIdent
    · exact absurd hSpelling.symm (h _ hMem)

/-- The lexemes of names and keywords are the words, each of the kind that it is looked up as. -/
theorem isLexeme_iff_isWord {k : TokenKind} (hk : k.isWordKind) {cs : List Char} :
    k.IsLexeme cs ↔ IsWord cs ∧ ofWord (String.ofList cs) = k := by
  simp only [isWordKind, Bool.or_eq_true, decide_eq_true_eq] at hk
  rcases hk with rfl | hk
  · simp only [IsLexeme, ofWord_eq_ident_iff, ne_eq, ← String.toList_inj, String.toList_ofList]
  · rw [isLexeme_iff_of_isFixed (isFixed_of_isKeyword hk)]
    rw [isKeyword, decide_eq_true_eq] at hk
    constructor
    · rintro rfl
      exact ⟨isWord_spelling hk, by rw [String.ofList_toList, ofWord_spelling hk]⟩
    · rintro ⟨-, rfl⟩
      rcases ofWord_eq_ident_or_mem (String.ofList cs) with hIdent | ⟨-, hSpelling⟩
      · exact absurd (hIdent ▸ hk) (by decide)
      · rw [hSpelling, String.toList_ofList]

theorem isWordKind_ofWord (word : String) : (ofWord word).isWordKind := by
  rcases ofWord_eq_ident_or_mem word with hIdent | ⟨hMem, -⟩
  · simp [isWordKind, hIdent]
  · simp [isWordKind, isKeyword, hMem]

/-- Operators and delimiters other than the two of two characters are single marks. -/
theorem exists_mark {k : TokenKind} (hFixed : k.isFixed) (hWord : ¬k.isWordKind)
    (hPair : k ∉ [equal, notEqual]) : ∃ c ∈ marks, k.spelling.toList = [c] ∧ ofChar c = k := by
  have hAny : marks.any fun c => k.spelling.toList = [c] && ofChar c = k := by
    revert hFixed hWord hPair
    cases k <;> decide
  simpa using List.any_eq_true.mp hAny

theorem takesIn_of_isWordKind {k : TokenKind} (hk : k.isWordKind) (c : Char) :
    k.takesIn c = isWordPart c := by
  simp [takesIn, hk]

theorem takesIn_ofChar {c d : Char} :
    (ofChar c).takesIn d ↔ (c = '=' ∨ c = '!') ∧ d = '=' := by
  unfold ofChar
  split <;> simp_all [takesIn, isWordKind, isKeyword, keywords]

theorem not_takesIn_of_isBlank (k : TokenKind) {c : Char} (h : isBlank c) :
    k.takesIn c = false := by
  have hWord : isWordPart c = false := by simpa using not_isWordPart_of_isBlank h
  have hDigit := (isWordPart_eq_false_iff.mp hWord).2
  have hEqual : c ≠ '=' := by
    rintro rfl
    exact absurd h (by decide)
  unfold takesIn
  split
  · exact hWord
  · split <;> simp [hDigit, hEqual]

theorem head?_spelling {k : TokenKind} (hk : k.isFixed) :
    k.spelling.toList.head?.map isBlank = some false := by
  revert hk
  cases k <;> decide

theorem IsLexeme.ne_eof {k : TokenKind} {cs : List Char} (h : k.IsLexeme cs) : k ≠ eof := by
  rintro rfl
  exact h

theorem IsLexeme.exists_cons {k : TokenKind} {cs : List Char} (h : k.IsLexeme cs) :
    ∃ c part, cs = c :: part ∧ ¬isBlank c := by
  by_cases hFixed : k.isFixed
  · obtain ⟨c, hc, hBlank⟩ := Option.map_eq_some_iff.mp (head?_spelling hFixed)
    obtain ⟨part, hPart⟩ := List.head?_eq_some_iff.mp hc
    exact ⟨c, part, ((isLexeme_iff_of_isFixed hFixed).mp h).trans hPart, by simp [hBlank]⟩
  obtain rfl | rfl | rfl | rfl := eq_of_not_isFixed hFixed
  · obtain ⟨c, rfl, hBlank, -⟩ := h
    exact ⟨c, [], rfl, hBlank⟩
  · exact h.elim
  · obtain ⟨⟨c, part, rfl, hStart, -⟩, -⟩ := h
    exact ⟨c, part, rfl, fun hBlank =>
      not_isWordPart_of_isBlank hBlank (isWordPart_of_isWordStart hStart)⟩
  · obtain ⟨hNil, hDigits⟩ := h
    obtain ⟨c, part, rfl⟩ := List.exists_cons_of_ne_nil hNil
    exact ⟨c, part, rfl, fun hBlank => not_isWordPart_of_isBlank hBlank
      (isWordPart_of_isDigit (hDigits c List.mem_cons_self))⟩

def all : List TokenKind :=
  [illegal, eof, ident, int, assign, plus, minus, bang, asterisk, slash, less, greater, equal,
    notEqual, comma, semicolon, leftParen, rightParen, leftBrace, rightBrace] ++ keywords

def ofSpelling? (spelling : List Char) : Option TokenKind :=
  all.find? fun k => k.spelling.toList = spelling

theorem ofSpelling?_spelling (k : TokenKind) : ofSpelling? k.spelling.toList = some k := by
  cases k <;> decide

theorem spelling_inj {k k' : TokenKind} (h : k.spelling.toList = k'.spelling.toList) : k = k' := by
  have hKind := ofSpelling?_spelling k
  rw [h, ofSpelling?_spelling] at hKind
  exact (Option.some.inj hKind).symm

theorem not_isBlank_spelling (k : TokenKind) : ∀ c ∈ k.spelling.toList, ¬isBlank c := by
  have hAll : k.spelling.toList.all fun c => !isBlank c := by cases k <;> decide
  simpa using hAll

theorem IsLexeme.not_isBlank {k : TokenKind} {cs : List Char} (h : k.IsLexeme cs) :
    ∀ c ∈ cs, ¬isBlank c := by
  by_cases hFixed : k.isFixed
  · rw [(isLexeme_iff_of_isFixed hFixed).mp h]
    exact not_isBlank_spelling k
  intro c hc hBlank
  have hPart := not_isWordPart_of_isBlank hBlank
  obtain rfl | rfl | rfl | rfl := eq_of_not_isFixed hFixed
  · obtain ⟨d, rfl, hd, -⟩ := h
    obtain rfl := List.mem_singleton.mp hc
    exact hd hBlank
  · exact h
  · exact hPart (h.1.forall_isWordPart c hc)
  · exact hPart (isWordPart_of_isDigit (h.2 c hc))

end TokenKind

/-! ### The longest match -/

namespace Lexeme

theorem ofChars_word {c : Char} (cs : List Char) (h : isWordStart c) :
    ofChars c cs = ⟨.ofWord (String.ofList (c :: cs.takeWhile isWordPart)),
      c :: cs.takeWhile isWordPart, cs.dropWhile isWordPart⟩ := by
  simp [ofChars, h]

theorem ofChars_int {c : Char} (cs : List Char) (h : c.isDigit) :
    ofChars c cs = ⟨.int, c :: cs.takeWhile Char.isDigit, cs.dropWhile Char.isDigit⟩ := by
  simp [ofChars, h, not_isWordStart_of_isDigit h]

theorem ofChars_equal (cs : List Char) : ofChars '=' ('=' :: cs) = ⟨.equal, ['=', '='], cs⟩ :=
  rfl

theorem ofChars_notEqual (cs : List Char) :
    ofChars '!' ('=' :: cs) = ⟨.notEqual, ['!', '='], cs⟩ :=
  rfl

theorem ofChars_mark {c : Char} {cs : List Char} (hWord : ¬isWordPart c)
    (hStop : ∀ d ∈ cs.head?, (TokenKind.ofChar c).takesIn d = false) :
    ofChars c cs = ⟨.ofChar c, [c], cs⟩ := by
  rw [Bool.not_eq_true, isWordPart_eq_false_iff] at hWord
  unfold ofChars
  simp only [hWord, Bool.false_eq_true, ↓reduceIte]
  split
  · exact absurd (hStop _ rfl) (by decide)
  · exact absurd (hStop _ rfl) (by decide)
  · rfl

/-- The five shapes of what is taken from the head of a text. -/
theorem ofChars_cases (c : Char) (cs : List Char) :
    isWordStart c ∨ c.isDigit ∨
      (∃ cs', cs = '=' :: cs' ∧ (c = '=' ∨ c = '!')) ∨
      ¬isWordPart c ∧ ∀ d ∈ cs.head?, (TokenKind.ofChar c).takesIn d = false := by
  by_cases hStart : isWordStart c
  · exact .inl hStart
  by_cases hDigit : c.isDigit
  · exact .inr (.inl hDigit)
  simp only [Bool.not_eq_true] at hStart hDigit
  by_cases hPair : ∃ cs', cs = '=' :: cs' ∧ (c = '=' ∨ c = '!')
  · exact .inr (.inr (.inl hPair))
  refine .inr (.inr (.inr ⟨by simp [isWordPart_eq_false_iff, hStart, hDigit], fun d hd => ?_⟩))
  rw [← Bool.not_eq_true, TokenKind.takesIn_ofChar]
  rintro ⟨hc, rfl⟩
  obtain ⟨cs', hcs⟩ := List.head?_eq_some_iff.mp hd
  exact hPair ⟨cs', hcs, hc⟩

theorem isLexeme_ofChars {c : Char} (cs : List Char) (hBlank : ¬isBlank c) :
    (ofChars c cs).kind.IsLexeme (ofChars c cs).text := by
  rcases ofChars_cases c cs with hStart | hDigit | ⟨cs', rfl, rfl | rfl⟩ | ⟨hWord, hStop⟩
  · rw [ofChars_word cs hStart, TokenKind.isLexeme_iff_isWord (TokenKind.isWordKind_ofWord _)]
    exact ⟨⟨c, _, rfl, hStart, fun d hd => List.mem_takeWhile_imp hd⟩, rfl⟩
  · rw [ofChars_int cs hDigit]
    refine ⟨List.cons_ne_nil _ _, ?_⟩
    intro d hd
    rcases List.mem_cons.mp hd with rfl | hd
    · exact hDigit
    · exact List.mem_takeWhile_imp hd
  · exact (show ['=', '='] = TokenKind.equal.spelling.toList by decide)
  · exact (show ['!', '='] = TokenKind.notEqual.spelling.toList by decide)
  · rw [ofChars_mark hWord hStop]
    exact TokenKind.isLexeme_ofChar hBlank hWord

theorem not_takesIn_rest (c : Char) (cs : List Char) :
    ∀ d ∈ (ofChars c cs).rest.head?, (ofChars c cs).kind.takesIn d = false := by
  rcases ofChars_cases c cs with hStart | hDigit | ⟨cs', rfl, rfl | rfl⟩ | ⟨hWord, hStop⟩
  · rw [ofChars_word cs hStart]
    intro d hd
    rw [TokenKind.takesIn_of_isWordKind (TokenKind.isWordKind_ofWord _)]
    exact not_head?_dropWhile d hd
  · rw [ofChars_int cs hDigit]
    exact not_head?_dropWhile
  · exact fun _ _ => rfl
  · exact fun _ _ => rfl
  · rwa [ofChars_mark hWord hStop]

section Append

variable {k : TokenKind} {c : Char} {cs after : List Char} (h : k.IsLexeme (c :: cs))
  (hStop : ∀ d ∈ after.head?, k.takesIn d = false)
include h hStop

theorem ofChars_append_word (hk : k.isWordKind) :
    ofChars c (cs ++ after) = ⟨k, c :: cs, after⟩ := by
  obtain ⟨⟨_, _, hcs, hStart, hPart⟩, rfl⟩ := (TokenKind.isLexeme_iff_isWord hk).mp h
  obtain ⟨rfl, rfl⟩ := List.cons.inj hcs
  simp only [TokenKind.takesIn_of_isWordKind hk] at hStop
  rw [ofChars_word _ hStart, takeWhile_append_of_stop hPart hStop,
    dropWhile_append_of_stop hPart hStop]

theorem ofChars_append_fixed (hFixed : k.isFixed) (hWord : ¬k.isWordKind) :
    ofChars c (cs ++ after) = ⟨k, c :: cs, after⟩ := by
  have hcs := (TokenKind.isLexeme_iff_of_isFixed hFixed).mp h
  by_cases hPair : k ∈ [.equal, .notEqual]
  · simp only [List.mem_cons, List.not_mem_nil, or_false] at hPair
    rcases hPair with rfl | rfl
    · obtain ⟨rfl, rfl⟩ := List.cons.inj (hcs.trans (by decide : _ = ['=', '=']))
      exact ofChars_equal after
    · obtain ⟨rfl, rfl⟩ := List.cons.inj (hcs.trans (by decide : _ = ['!', '=']))
      exact ofChars_notEqual after
  · obtain ⟨d, hd, hSpelling, rfl⟩ := TokenKind.exists_mark hFixed hWord hPair
    obtain ⟨rfl, rfl⟩ := List.cons.inj (hcs.trans hSpelling)
    exact ofChars_mark (plain_of_mem_marks hd).2 hStop

/-- A lexeme that what follows cannot prolong is what is taken. -/
theorem ofChars_append : ofChars c (cs ++ after) = ⟨k, c :: cs, after⟩ := by
  by_cases hWord : k.isWordKind
  · exact ofChars_append_word h hStop hWord
  by_cases hFixed : k.isFixed
  · exact ofChars_append_fixed h hStop hFixed hWord
  obtain rfl | rfl | rfl | rfl := TokenKind.eq_of_not_isFixed hFixed
  · obtain ⟨d, hcs, -, hPlain, hd⟩ := h
    obtain ⟨rfl, rfl⟩ := List.cons.inj hcs
    rw [← TokenKind.ofChar_eq_illegal hd] at hStop ⊢
    exact ofChars_mark hPlain hStop
  · exact h.elim
  · exact absurd rfl hWord
  · have hDigits : ∀ d ∈ cs, d.isDigit := fun d hd => h.2 d (List.mem_cons_of_mem c hd)
    rw [ofChars_int _ (h.2 c List.mem_cons_self), takeWhile_append_of_stop hDigits hStop,
      dropWhile_append_of_stop hDigits hStop]

end Append

end Lexeme

end LetLens
