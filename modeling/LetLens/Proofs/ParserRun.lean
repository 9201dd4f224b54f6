import LetLens.Proofs.Reading
import Mathlib.Logic.Function.Iterate

/-! Runs of the parser. It sees two tokens at a time, and where it stands is told by the scanner
that its current token comes next from: `atNext`. At the end of the text both tokens are the end
token, however often the parser goes on. One item of the parser is one step of the reading of the
tokens from there on, and so a run is all of that reading. -/

namespace LetLens

namespace Parser

open Reading

/-! ### Where the parser stands -/

/-- The parser whose current token is the next one of `s`. -/
def atNext (s : Scanner) (ds : List Diagnostic) : Parser := { ofScanner s with diagnostics := ds }

variable (s : Scanner) (ds : List Diagnostic)

@[simp] theorem atNext_current : (atNext s ds).current = s.next.1 := rfl

@[simp] theorem atNext_upcoming : (atNext s ds).upcoming = s.next.2.next.1 := rfl

@[simp] theorem atNext_advance : (atNext s ds).advance = atNext s.next.2 ds := rfl

@[simp] theorem atNext_note (expected : TokenKind) (found : Token) :
    (atNext s ds).note expected found =
      atNext s (ds ++ (missed expected found).diagnostics) := rfl

theorem passValue_next {s : Scanner} (hEnd : s.next.1.isEnd = false)
    (hKind : s.next.1.kind ≠ .semicolon) :
    (atNext s ds).passValue = (atNext s.next.2 ds).passValue := by
  rw [passValue]
  simp [hEnd, hKind]

/-- Passing over a value stops at the first semicolon, or at the end token with a diagnostic. -/
theorem passValue_atNext : ∃ s' : Scanner,
    (∃ value, s.tokens = value ++ s'.tokens ∧ (∀ v ∈ value, v.kind ≠ .semicolon) ∧
      s'.next.1.kind = .semicolon ∧ (atNext s ds).passValue = (true, atNext s' ds)) ∨
    ((∀ v ∈ s.tokens, v.kind ≠ .semicolon) ∧ s.tokens.find? Token.isEnd = some s'.next.1 ∧
      (atNext s ds).passValue =
        (false, atNext s' (ds ++ (missed .semicolon s'.next.1).diagnostics))) := by
  induction s using Scanner.tokens_induction with
  | atEnd s h =>
    have hKind := Token.isEnd_iff.mp h
    refine ⟨s, .inr ⟨?_, ?_, ?_⟩⟩
    · simp [Scanner.tokens_of_isEnd h, hKind]
    · simp [Scanner.tokens_of_isEnd h, h]
    · rw [passValue]
      simp [h, hKind]
  | later s h ih =>
    by_cases hSemicolon : s.next.1.kind = .semicolon
    · refine ⟨s, .inl ⟨[], rfl, by simp, hSemicolon, ?_⟩⟩
      rw [passValue]
      simp [hSemicolon]
    rw [Scanner.tokens_of_not_isEnd h, passValue_next ds h hSemicolon]
    obtain ⟨s', ⟨value, hTokens, hValue, hLast⟩ | ⟨hNone, hFind, hLast⟩⟩ := ih
    · exact ⟨s', .inl ⟨s.next.1 :: value, by rw [hTokens, List.cons_append],
        by simpa [hSemicolon] using hValue, hLast⟩⟩
    · exact ⟨s', .inr ⟨by simpa [hSemicolon] using hNone, by simpa [h] using hFind, hLast⟩⟩

/-- From `s` the parser came to `s'` and read `item` on the way: this is what the tokens up to the
current one of `s'` say. -/
structure Step (s s' : Scanner) (item : Reading) : Prop where
  reads : ofTokens s.tokens = item ++ ofTokens s'.next.2.tokens
  shorter : s'.next.2.tokens.length < s.tokens.length

theorem parseBinding_atNext (hLet : s.next.1.kind = .kwLet) : ∃ s' b found,
    (atNext s ds).parseBinding = (b, atNext s' (ds ++ found)) ∧ Step s s' ⟨⟨b.toList⟩, found⟩ := by
  have hTokens := Scanner.tokens_of_not_isEnd (Token.not_isEnd_of_kind hLet (by decide))
  obtain ⟨ts, hName⟩ := s.next.2.exists_tokens_cons
  by_cases hIdent : s.next.2.next.1.kind = .ident
  case neg =>
    -- The window stays on the `let`, so the token that is no name is the next to be read.
    refine ⟨s, none, _, by simp [parseBinding, hIdent]; rfl, ?_, by simp [hTokens]⟩
    rw [hTokens, hName, ofTokens_noName _ hLet hIdent]
    rfl
  have hName := Scanner.tokens_of_not_isEnd (Token.not_isEnd_of_kind hIdent (by decide))
  obtain ⟨ts, hSign⟩ := s.next.2.next.2.exists_tokens_cons
  by_cases hAssign : s.next.2.next.2.next.1.kind = .assign
  case neg =>
    refine ⟨s.next.2, none, _, by simp [parseBinding, hIdent, hAssign]; rfl, ?_, ?_⟩
    · rw [hTokens, hName, hSign, ofTokens_noSign _ hLet hIdent hAssign]
      rfl
    · simp only [hTokens, hName, List.length_cons]
      omega
  have hAssignEnd := Token.not_isEnd_of_kind hAssign (by decide)
  have hSign := Scanner.tokens_of_not_isEnd hAssignEnd
  have hPass := passValue_next ds hAssignEnd (by simp [hAssign])
  obtain ⟨s', ⟨value, hValue, hPlain, hClose, hLast⟩ | ⟨hNone, hFind, hLast⟩⟩ :=
    passValue_atNext s.next.2.next.2.next.2 ds
  · have hRest := Scanner.tokens_of_not_isEnd (Token.not_isEnd_of_kind hClose (by decide))
    refine ⟨s', some _, [], by simp [parseBinding, hIdent, hAssign, hPass, hLast]; rfl, ?_, ?_⟩
    · rw [hTokens, hName, hSign, hValue, hRest,
        ofTokens_binding hLet hIdent hAssign hPlain hClose]
      rfl
    · simp only [hTokens, hName, hSign, hValue, hRest, List.length_cons, List.length_append]
      omega
  · -- The window stands on the end token. Advancing it once more finds the same token again.
    have hEnd := List.find?_some hFind
    have hSame := Scanner.next_next_of_isEnd hEnd
    have hRest := Scanner.tokens_of_isEnd (s := s'.next.2) (by rwa [hSame])
    rw [hSame] at hRest
    refine ⟨s', none, _, by simp [parseBinding, hIdent, hAssign, hPass, hLast]; rfl, ?_, ?_⟩
    · rw [hTokens, hName, hSign, ofTokens_unclosed hLet hIdent hAssign hNone, hFind, hRest,
        ofTokens_end _ hEnd, append_empty]
      rfl
    · simp [hTokens, hName, hSign, hRest]

theorem parseItem_atNext (h : s.next.1.isEnd = false) : ∃ s' b found,
    (atNext s ds).parseItem = (b, atNext s' (ds ++ found)) ∧ Step s s' ⟨⟨b.toList⟩, found⟩ := by
  by_cases hLet : s.next.1.kind = .kwLet
  · obtain ⟨s', b, found, hBinding, hStep⟩ := parseBinding_atNext s ds hLet
    exact ⟨s', b, found, by simp [parseItem, hLet, hBinding], hStep⟩
  · have hTokens := Scanner.tokens_of_not_isEnd h
    refine ⟨s, none, [], by simp [parseItem, hLet], ?_, by simp [hTokens]⟩
    rw [hTokens, ofTokens_other _ h hLet]
    rfl

/-- A run of the parser is the reading of the tokens before it, and it ends at the end token. -/
theorem parseBindings_atNext : ∃ s' : Scanner, s'.next.1.isEnd ∧
    (atNext s ds).parseBindings = ((ofTokens s.tokens).program.bindings,
      atNext s' (ds ++ (ofTokens s.tokens).diagnostics)) := by
  induction hn : s.tokens.length using Nat.strong_induction_on generalizing s ds with
  | _ n ih =>
    subst hn
    cases hEnd : s.next.1.isEnd with
    | true =>
      refine ⟨s, hEnd, ?_⟩
      rw [parseBindings, Scanner.tokens_of_isEnd hEnd, ofTokens_end _ hEnd]
      simp [hEnd, empty]
    | false =>
      obtain ⟨s', b, found, hItem, hStep⟩ := parseItem_atNext s ds hEnd
      obtain ⟨s'', hLast, hLater⟩ := ih _ hStep.shorter s'.next.2 (ds ++ found) rfl
      refine ⟨s'', hLast, ?_⟩
      rw [parseBindings, hStep.reads]
      simp [hEnd, hItem, hLater]

theorem parseProgram_ofScanner : ∃ s' : Scanner, s'.next.1.isEnd ∧
    (ofScanner s).parseProgram =
      ((ofTokens s.tokens).program, atNext s' (ofTokens s.tokens).diagnostics) := by
  obtain ⟨s', hEnd, h⟩ := parseBindings_atNext s []
  refine ⟨s', hEnd, ?_⟩
  rw [parseProgram, show ofScanner s = atNext s [] from rfl, h, List.nil_append]

theorem parseProgram_of_isEnd {p : Parser} (h : p.current.isEnd) : p.parseProgram = (⟨[]⟩, p) := by
  rw [parseProgram, parseBindings]
  simp [h]

/-- Wherever the parser starts in a text, it returns what the tokens from there on say. When it is
run again, any number of times, it finds nothing more and keeps its diagnostics. -/
theorem parseProgram_skip_eq_ofTokens (text : String) (k : Nat) :
    let s := Scanner.skip k (.ofText text)
    let first := (ofScanner s).parseProgram
    Reading.mk first.1 first.2.diagnostics = ofTokens s.tokens ∧
      ∀ n, let again := ((fun p : Parser => p.parseProgram.2)^[n] first.2).parseProgram
        again.1 = ⟨[]⟩ ∧ again.2.diagnostics = first.2.diagnostics := by
  intro s first
  obtain ⟨s', hEnd, (hFirst : first = _)⟩ := parseProgram_ofScanner s
  have hLater : first.2.parseProgram = (⟨[]⟩, first.2) := by
    rw [show first.2 = atNext s' _ from congrArg Prod.snd hFirst]
    exact parseProgram_of_isEnd hEnd
  refine ⟨by rw [hFirst]; rfl, fun n => ?_⟩
  have hStays : (fun p : Parser => p.parseProgram.2)^[n] first.2 = first.2 :=
    Function.iterate_fixed (congrArg Prod.snd hLater) n
  simp only [hStays, hLater, and_self]

end Parser

/-- The reading of a text is that of its tokens. -/
theorem Reading.ofText_eq (text : String) : ofText text = ofTokens (tokensOf text) := by
  obtain ⟨s', -, h⟩ := Parser.parseProgram_ofScanner (.ofText text)
  rw [ofText, Parser.ofText, h]
  rfl

-- A value may hold a `let`; a token that is out of place may open a binding itself.
example :
    let r := Reading.ofText "let let a = 1; let b = let 2; let c 3"
    r.program.bindings.map (·.target.name) = ["a", "b"] ∧
      r.diagnostics.map (·.expected) = [.ident, .assign] := by
  decide +kernel

end LetLens
