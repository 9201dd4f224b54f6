import LetLens.Proofs.Lexicon
import LetLens.Proofs.Printable

/-! Texts that tell where they end. What is printed is often not marked off from what is printed
behind it, but a number ends before the first character that is no digit, a kind before the next
blank, and a list of such texts where the last of them does. So they can be told again: `Ends`. -/

namespace LetLens

/-- What `f` writes for an element of the class `P` can be told from a text that goes on behind
it. -/
def Ends {α : Type} (P : α → Prop) (f : α → List Char) : Prop :=
  ∀ a b, P a → P b → ∀ r s, f a ++ r = f b ++ s → a = b ∧ r = s

section Ends

variable {α : Type} {P : α → Prop} {f : α → List Char} (h : Ends P f)
include h

/-- Of a given number of elements each can be told. -/
theorem Ends.flatMap_append_inj {l m : List α} (hl : ∀ a ∈ l, P a) (hm : ∀ b ∈ m, P b)
    (hLength : l.length = m.length) {r s : List Char}
    (hSame : l.flatMap f ++ r = m.flatMap f ++ s) : l = m ∧ r = s := by
  induction l generalizing m with
  | nil =>
    obtain rfl := List.length_eq_zero_iff.mp hLength.symm
    exact ⟨rfl, hSame⟩
  | cons a l ih =>
    obtain ⟨b, bs, rfl⟩ := List.exists_cons_of_length_eq_add_one hLength.symm
    obtain ⟨ha, hLater⟩ := List.forall_mem_cons.mp hl
    obtain ⟨hb, hLater'⟩ := List.forall_mem_cons.mp hm
    simp only [List.flatMap_cons, List.append_assoc] at hSame
    obtain ⟨hFirst, hRest⟩ := h a b ha hb _ _ hSame
    obtain ⟨hSecond, hBehind⟩ := ih hLater hLater' (by simpa using hLength) hRest
    exact ⟨congrArg₂ List.cons hFirst hSecond, hBehind⟩

/-- Elements up to the end of a text can be told without their number, if none is written as
nothing. -/
theorem Ends.flatMap_inj (hNil : ∀ a, f a ≠ []) {l m : List α} (hl : ∀ a ∈ l, P a)
    (hm : ∀ b ∈ m, P b) (hSame : l.flatMap f = m.flatMap f) : l = m := by
  induction l generalizing m with
  | nil =>
    cases m with
    | nil => rfl
    | cons b m => simp [hNil] at hSame
  | cons a l ih =>
    cases m with
    | nil => simp [hNil] at hSame
    | cons b m =>
      obtain ⟨ha, hLater⟩ := List.forall_mem_cons.mp hl
      obtain ⟨hb, hLater'⟩ := List.forall_mem_cons.mp hm
      obtain ⟨hFirst, hRest⟩ := h a b ha hb _ _ hSame
      rw [hFirst, ih hLater hLater' hRest]

end Ends

/-- A number ends where its digits do. -/
theorem repr_append_inj {m n : Nat} {c d : Char} {r s : List Char} (hc : c.isDigit = false)
    (hd : d.isDigit = false) (h : m.repr.toList ++ c :: r = n.repr.toList ++ d :: s) :
    m = n ∧ c = d ∧ r = s := by
  obtain ⟨hNumber, hRest⟩ :=
    append_cons_inj_of_stop isDigit_of_mem_repr isDigit_of_mem_repr hc hd h
  have hValue := congrArg (fun ds => Nat.ofDigitChars 10 ds 0) hNumber
  exact ⟨by simpa [Nat.toList_repr] using hValue, hRest⟩

theorem Location.text_append_inj {l m : Location} {c d : Char} {r s : List Char}
    (hc : c.isDigit = false) (hd : d.isDigit = false)
    (h : l.text.toList ++ c :: r = m.text.toList ++ d :: s) : l = m ∧ c = d ∧ r = s := by
  have hText (l : Location) (c : Char) (r : List Char) :
      l.text.toList ++ c :: r = l.line.repr.toList ++ ':' :: (l.column.repr.toList ++ c :: r) := by
    simp [text]
  rw [hText, hText] at h
  obtain ⟨hLine, -, hColumn⟩ := repr_append_inj (by decide) (by decide) h
  obtain ⟨hColumn, hRest⟩ := repr_append_inj hc hd hColumn
  exact ⟨congrArg₂ mk hLine hColumn, hRest⟩

/-- No kind is spelled with a blank. Some spellings have a comma, though, so the characters in front
of the blank are those of the spelling only up to what is known to stand between them. -/
theorem TokenKind.spelling_append_inj (between : List Char) {k k' : TokenKind} {r s : List Char}
    (hBetween : ∀ c ∈ between, c ≠ ' ')
    (h : k.spelling.toList ++ (between ++ ' ' :: r) = k'.spelling.toList ++ (between ++ ' ' :: s)) :
    k = k' ∧ r = s := by
  have hFront (k : TokenKind) : ∀ c ∈ k.spelling.toList ++ between, decide (c ≠ ' ') := by
    intro c hc
    apply decide_eq_true
    rcases List.mem_append.mp hc with hc | hc
    · rintro rfl
      exact k.not_isBlank_spelling ' ' hc (by decide)
    · exact hBetween c hc
  rw [← List.append_assoc, ← List.append_assoc] at h
  obtain ⟨hSpelling, -, hRest⟩ := append_cons_inj_of_stop (hFront k) (hFront k') (by decide)
    (by decide) h
  exact ⟨spelling_inj (List.append_cancel_right hSpelling), hRest⟩

end LetLens
