import LetLens.Token.Basic
import LetLens.Token.Lexeme

/-! A scanner holds what is still unread of a text and the place where it starts. `next` passes over
the blanks and takes one lexeme as a token; at the end of the text it gives the end token, again and
again. `readAll` collects the tokens up to the first end token. A token that is not the end token
shortens what is unread, which bounds every loop over a scanner. -/

namespace LetLens

structure Scanner where
  rest : List Char
  location : Location
deriving DecidableEq

namespace Scanner

def ofText (text : String) : Scanner := ⟨text.toList, .start⟩

def skipBlanks (s : Scanner) : Scanner :=
  ⟨s.rest.dropWhile isBlank, s.location.advanceOver (s.rest.takeWhile isBlank)⟩

def next (s : Scanner) : Token × Scanner :=
  let s := s.skipBlanks
  match s.rest with
  | [] => (⟨.eof, "", s.location⟩, s)
  | c :: cs =>
    let lexeme := Lexeme.ofChars c cs
    (⟨lexeme.kind, String.ofList lexeme.text, s.location⟩,
      ⟨lexeme.rest, s.location.advanceOver lexeme.text⟩)

theorem length_skipBlanks_le (s : Scanner) : s.skipBlanks.rest.length ≤ s.rest.length := by
  have hAll := congrArg List.length (List.takeWhile_append_dropWhile (p := isBlank) (l := s.rest))
  simp only [List.length_append] at hAll
  simp only [skipBlanks]
  omega

theorem length_next_le (s : Scanner) : s.next.2.rest.length ≤ s.rest.length := by
  have hSkip := s.length_skipBlanks_le
  unfold next
  dsimp only
  split
  · exact hSkip
  · next c cs hRest =>
    have hLexeme := Lexeme.length_rest_le c cs
    rw [hRest, List.length_cons] at hSkip
    dsimp only
    omega

theorem length_next_lt {s : Scanner} (hEnd : s.next.1.isEnd = false) :
    s.next.2.rest.length < s.rest.length := by
  have hSkip := s.length_skipBlanks_le
  unfold next at hEnd ⊢
  dsimp only at hEnd ⊢
  split at hEnd
  · simp [Token.isEnd] at hEnd
  · next c cs hRest =>
    have hLexeme := Lexeme.length_rest_le c cs
    rw [hRest, List.length_cons] at hSkip
    simp only
    omega

/-- The tokens up to the first end token, which is the last of them, and the scanner after it. -/
def readAll (s : Scanner) : List Token × Scanner :=
  let step := s.next
  if _hEnd : step.1.isEnd then ([step.1], step.2)
  else
    let later := step.2.readAll
    (step.1 :: later.1, later.2)
termination_by s.rest.length
decreasing_by exact length_next_lt (by simpa using _hEnd)

/-- All tokens that are left, the end token included. -/
def tokens (s : Scanner) : List Token := s.readAll.1

def skip : Nat → Scanner → Scanner
  | 0, s => s
  | n + 1, s => skip n s.next.2

end Scanner

/-- The tokens of a text, with the end token last. -/
def tokensOf (text : String) : List Token := (Scanner.ofText text).tokens

end LetLens
