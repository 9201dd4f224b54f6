import LetLens.Proofs.Extension
import LetLens.Proofs.ParserRun

/-! Programs that are written and read again. The language has no values yet, so a binding is read
back without the value that it was written with, and what stands for the value may be any text that
has no semicolon in it. A binding that was written without a value lacks its `=`, and the reader
reports the semicolon that it finds instead and goes on behind it. -/

namespace LetLens

/-! ### Tokens of a written binding -/

namespace Scanner

/-- A text without a semicolon has no token for one. -/
theorem kind_ne_semicolon {s : Scanner} (h : ';' ∉ s.rest) {t : Token} (ht : t ∈ s.tokens) :
    t.kind ≠ .semicolon := by
  intro hKind
  obtain ⟨hLexeme, hRest⟩ := isLexeme_of_mem_tokens ht (Token.not_isEnd_of_kind hKind (by decide))
  rw [hKind] at hLexeme
  have hLiteral : t.literal.toList = [';'] := hLexeme.trans (by decide)
  exact h (hRest (by simp [hLiteral]))

/-- A value is cut off by the semicolon behind it, whatever else it holds. -/
theorem exists_tokens_value {value : List Char} (hValue : ';' ∉ value) (rest : List Char)
    (l : Location) : ∃ (ts : List Token) (close : Token),
      (Scanner.mk (value ++ (";".toList ++ rest)) l).tokens =
        ts ++ close :: (Scanner.mk rest (l.advanceOver (value ++ ";".toList))).tokens ∧
      (∀ t ∈ ts, t.kind ≠ .semicolon) ∧ close.kind = .semicolon := by
  have hApart : ∀ d ∈ (";".toList ++ rest).head?, ∀ k : TokenKind, k.takesIn d = false := by
    intro d hd k
    obtain rfl : ';' = d := by simpa using hd
    cases k <;> decide
  have hExtend : (Scanner.mk (value ++ (";".toList ++ rest)) l).tokens = _ :=
    tokens_extend_of_apart hApart ⟨value, l⟩
  have hClose : (Scanner.mk (";".toList ++ rest) (l.advanceOver value)).tokens = _ :=
    tokens_of_spelling (k := .semicolon) rfl (w := []) (by simp) (fun _ _ => rfl) _
  rw [hClose] at hExtend
  rw [Location.advanceOver_append]
  refine ⟨_, _, hExtend, fun t ht => ?_, rfl⟩
  exact kind_ne_semicolon (s := ⟨value, l⟩) hValue ((List.dropLast_sublist _).subset ht)

theorem tokens_opening {name after : List Char} (hName : TokenKind.ident.IsLexeme name)
    (hStop : ∀ d ∈ after.head?, isWordPart d = false) (l : Location) :
    (Scanner.mk ("let ".toList ++ (name ++ after)) l).tokens =
      ⟨.kwLet, "let", l⟩ :: ⟨.ident, String.ofList name, l.advanceOver "let ".toList⟩ ::
        (Scanner.mk after (l.advanceOver ("let ".toList ++ name))).tokens := by
  have hText : "let ".toList ++ (name ++ after) =
      [] ++ (TokenKind.kwLet.spelling.toList ++ ([' '] ++ (name ++ after))) := rfl
  have hBlank : ∀ d ∈ ([' '] ++ (name ++ after)).head?, TokenKind.kwLet.takesIn d = false := by
    rintro d ⟨⟩
    decide
  rw [hText, tokens_of_spelling rfl (by simp) hBlank, tokens_of_isLexeme (by simp [isBlank]) hName hStop]
  simp only [← Location.advanceOver_append]
  rfl

/-- Between the name and the value. -/
theorem tokens_sign (value : List Char) (l : Location) : ∃ sign : Token,
    (Scanner.mk (" = ".toList ++ value) l).tokens =
      sign :: (Scanner.mk value (l.advanceOver " = ".toList)).tokens ∧ sign.kind = .assign := by
  have hText : " = ".toList ++ value =
      [' '] ++ (TokenKind.assign.spelling.toList ++ ([' '] ++ value)) := rfl
  have hBlank : ∀ d ∈ ([' '] ++ value).head?, TokenKind.assign.takesIn d = false := by
    rintro d ⟨⟩
    decide
  refine ⟨⟨.assign, "=", l.advanceOver [' ']⟩, ?_, rfl⟩
  have hSpace : ∀ c ∈ [' '], isBlank c := by
    simp [isBlank]
  rw [hText, tokens_of_spelling rfl hSpace hBlank, tokens_blanks_append hSpace]
  simp only [← Location.advanceOver_append]
  rfl

end Scanner

/-! ### Reading it -/

namespace Binding

/-- A binding that can be read back: it opens with `let`, it binds a name, and its value, if it has
one, has no semicolon in it. -/
structure Readable (b : Binding) : Prop where
  opening : b.token.literal = "let"
  name : TokenKind.ident.IsLexeme b.target.name.toList
  value : ∀ v ∈ b.value, ';' ∉ v.name.toList

/-- What is read of a binding that is written at `l`: itself, without the value, or that its
semicolon stands where `=` was due. -/
def readBack (l : Location) (b : Binding) : Reading :=
  match b.value with
  | some _ => .bound ⟨⟨.kwLet, "let", l⟩,
      .ofToken ⟨.ident, b.target.name, l.advanceOver "let ".toList⟩, none⟩
  | none => .missed .assign ⟨.semicolon, ";", l.advanceOver ("let " ++ b.target.name).toList⟩

theorem text_of_value {b : Binding} (h : b.Readable) {v : Identifier} (hValue : b.value = some v) :
    b.text.toList = "let ".toList ++ (b.target.name.toList ++
      (" = ".toList ++ (v.name.toList ++ ";".toList))) := by
  simp [text, h.opening, hValue]

theorem text_of_none {b : Binding} (h : b.Readable) (hValue : b.value = none) :
    b.text.toList = "let ".toList ++ (b.target.name.toList ++ ";".toList) := by
  simp [text, h.opening, hValue]

/-- A written binding is read first, and then what stands behind it. -/
theorem Readable.reads {b : Binding} (h : b.Readable) {rest : List Char} {l : Location}
    {r : Reading} (hRest : Reads (Scanner.mk rest (l.advanceOver b.text.toList)).tokens r) :
    Reads (Scanner.mk (b.text.toList ++ rest) l).tokens (b.readBack l ++ r) := by
  cases hValue : b.value with
  | some v =>
    let behindName := l.advanceOver ("let ".toList ++ b.target.name.toList)
    have hStop : ∀ d ∈ (" = ".toList ++ (v.name.toList ++ (";".toList ++ rest))).head?,
        isWordPart d = false := by
      rintro d ⟨⟩
      decide
    have hOpening := Scanner.tokens_opening h.name hStop l
    obtain ⟨sign, hSign, hAssign⟩ := Scanner.tokens_sign (v.name.toList ++ (";".toList ++ rest))
      behindName
    obtain ⟨ts, close, hTokens, hInside, hClose⟩ := Scanner.exists_tokens_value
      (h.value v hValue) rest (behindName.advanceOver " = ".toList)
    rw [text_of_value h hValue] at hRest ⊢
    simp only [List.append_assoc, Location.advanceOver_append, behindName] at *
    rw [hOpening, hSign, hTokens, readBack, hValue, String.ofList_toList]
    exact .binding rfl rfl hAssign hInside hClose hRest
  | none =>
    have hStop : ∀ d ∈ (";".toList ++ rest).head?, isWordPart d = false := by
      rintro d ⟨⟩
      decide
    have hOpening := Scanner.tokens_opening h.name hStop l
    have hClose : (Scanner.mk (";".toList ++ rest)
        (l.advanceOver ("let ".toList ++ b.target.name.toList))).tokens = _ :=
      Scanner.tokens_of_spelling (k := .semicolon) rfl (w := []) (by simp) (fun _ _ => rfl) _
    rw [text_of_none h hValue] at hRest ⊢
    simp only [List.append_assoc, Location.advanceOver_append] at *
    rw [hOpening, hClose, readBack, hValue, String.toList_append, Location.advanceOver_append]
    exact .noSign rfl rfl TokenKind.noConfusion (.other rfl TokenKind.noConfusion hRest)

end Binding

namespace Program

/-- What is read of bindings that are written one after the other from `l` on. -/
def readBack (l : Location) : List Binding → Reading
  | [] => .empty
  | b :: bs => b.readBack l ++ readBack (l.advanceOver b.text.toList) bs

theorem reads_text {bs : List Binding} (h : ∀ b ∈ bs, b.Readable) (l : Location) :
    Reads (Scanner.mk (bs.flatMap (·.text.toList)) l).tokens (readBack l bs) := by
  induction bs generalizing l with
  | nil =>
    have hEnd : (Scanner.mk [] l).next.1.isEnd := Scanner.isEnd_next_iff.mpr (by simp)
    exact Scanner.tokens_of_isEnd hEnd ▸ .stop hEnd
  | cons b bs ih =>
    obtain ⟨hFirst, hLater⟩ := List.forall_mem_cons.mp h
    exact hFirst.reads (ih hLater _)

theorem bindings_readBack (l : Location) (bs : List Binding) :
    (readBack l bs).program.bindings.map (·.target.name) =
      (bs.filter (·.value.isSome)).map (·.target.name) := by
  induction bs generalizing l with
  | nil => rfl
  | cons b bs ih =>
    rw [readBack, Reading.bindings_append, List.map_append, ih, List.filter_cons]
    cases hValue : b.value <;> simp [Binding.readBack, hValue, Reading.bound, Reading.missed,
      Identifier.ofToken]

theorem diagnostics_readBack (l : Location) (bs : List Binding) :
    (readBack l bs).diagnostics.map (fun d => (d.expected, d.found)) =
      (bs.filter (·.value.isNone)).map fun _ => (.assign, .semicolon) := by
  induction bs generalizing l with
  | nil => rfl
  | cons b bs ih =>
    rw [readBack, Reading.diagnostics_append, List.map_append, ih, List.filter_cons]
    cases hValue : b.value <;> simp [Binding.readBack, hValue, Reading.bound, Reading.missed]

/-- A program that is written is read back binding by binding: those with a value give a binding of
the same name, and each of the others gives a diagnostic of its semicolon. There is nothing else
that is read. -/
theorem ofText_text (p : Program) (h : ∀ b ∈ p.bindings, b.Readable) :
    Reading.ofText p.text = readBack .start p.bindings ∧
    (Reading.ofText p.text).program.bindings.map (·.target.name) =
      (p.bindings.filter (·.value.isSome)).map (·.target.name) ∧
    (Reading.ofText p.text).diagnostics.map (fun d => (d.expected, d.found)) =
      (p.bindings.filter (·.value.isNone)).map fun _ => (.assign, .semicolon) := by
  have hText : p.text.toList = p.bindings.flatMap (·.text.toList) := by
    rw [text, String.toList_join, List.flatMap_map]
  have hRead : Reading.ofText p.text = readBack .start p.bindings := by
    rw [Reading.ofText_eq, tokensOf, Scanner.ofText, hText]
    exact (reads_text h .start).ofTokens_eq
  rw [hRead]
  exact ⟨rfl, bindings_readBack _ _, diagnostics_readBack _ _⟩

/-- A value with a `let` and a line feed in it, no value, and an empty one. -/
theorem ofText_text_three :
    let place : Location := ⟨7, 7⟩
    let name (s : String) : Identifier := .ofToken ⟨.illegal, s, place⟩
    let opening : Token := ⟨.ident, "let", place⟩
    let p : Program := ⟨[⟨opening, name "a", some (name "let b\n= @")⟩, ⟨opening, name "c", none⟩,
      ⟨opening, name "d", some (name "")⟩]⟩
    (∀ b ∈ p.bindings, b.Readable) ∧
    (Reading.ofText p.text).program.bindings.map (·.target.name) = ["a", "d"] ∧
    (Reading.ofText p.text).diagnostics.map (fun d => (d.expected, d.found)) =
      [(.assign, .semicolon)] := by
  intro place name opening p
  have hName : ∀ b ∈ p.bindings, TokenKind.ident.IsLexeme b.target.name.toList := by
    show ∀ b ∈ p.bindings, IsWord b.target.name.toList ∧
      ∀ k ∈ TokenKind.keywords, b.target.name.toList ≠ k.spelling.toList
    decide
  have hReadable : ∀ b ∈ p.bindings, b.Readable := by
    intro b hb
    refine ⟨?_, hName b hb, ?_⟩
    · revert b
      decide
    · revert b
      decide
  obtain ⟨-, hBindings, hDiagnostics⟩ := ofText_text p hReadable
  exact ⟨hReadable, hBindings, hDiagnostics⟩

end Program

end LetLens
