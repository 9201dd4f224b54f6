import LetLens.Proofs.Reading

/-! Moving places. A map on locations moves everything that has a place along with it. Reading never
looks at a place, so what moved tokens say is what the tokens say, moved. Scanning commutes with a
map that goes along with the characters from where the scanner stands, and `Location.below`, which
moves a text down by whole lines, goes along with all characters. -/

namespace LetLens

/-- The place `n` lines further down, in the same column. -/
def Location.below (n : Nat) (l : Location) : Location := ⟨l.line + n, l.column⟩

theorem Location.below_advance (n : Nat) (l : Location) (c : Char) :
    (l.advance c).below n = (l.below n).advance c := by
  unfold advance
  split
  · exact congrArg (Location.mk · 1) (Nat.add_right_comm ..)
  · rfl

variable (f : Location → Location)

def Token.relocate (t : Token) : Token := { t with location := f t.location }

@[simp] theorem Token.kind_relocate (t : Token) : (t.relocate f).kind = t.kind := rfl

@[simp] theorem Token.isEnd_relocate (t : Token) : (t.relocate f).isEnd = t.isEnd := rfl

def Identifier.relocate (i : Identifier) : Identifier := { i with token := i.token.relocate f }

def Binding.relocate (b : Binding) : Binding :=
  ⟨b.token.relocate f, b.target.relocate f, b.value.map (Identifier.relocate f)⟩

def Diagnostic.relocate (d : Diagnostic) : Diagnostic := { d with location := f d.location }

/-! ### Readings -/

namespace Reading

def relocate (r : Reading) : Reading :=
  ⟨⟨r.program.bindings.map (Binding.relocate f)⟩, r.diagnostics.map (Diagnostic.relocate f)⟩

theorem relocate_append (r r' : Reading) : (r ++ r').relocate f = r.relocate f ++ r'.relocate f :=
  congrArg₂ (fun bs ds => Reading.mk ⟨bs⟩ ds) List.map_append List.map_append

theorem relocate_missed (expected : TokenKind) (found : Token) :
    (missed expected found).relocate f = missed expected (found.relocate f) := rfl

theorem relocate_bound (t name : Token) :
    (bound ⟨t, .ofToken name, none⟩).relocate f =
      bound ⟨t.relocate f, .ofToken (name.relocate f), none⟩ := rfl

end Reading

/-- The rules of reading hold of the moved tokens too, since they speak of kinds only. -/
theorem Reads.relocate {ts : List Token} {r : Reading} (h : Reads ts r) :
    Reads (ts.map (Token.relocate f)) (r.relocate f) := by
  induction h with
  | stop hEnd => exact .stop hEnd
  | other hEnd h _ ih => exact .other hEnd h ih
  | noName hLet hName _ ih =>
    rw [Reading.relocate_append, Reading.relocate_missed]
    exact .noName hLet (by simpa using hName) ih
  | noSign hLet hName hSign _ ih =>
    rw [Reading.relocate_append, Reading.relocate_missed]
    exact .noSign hLet hName (by simpa using hSign) ih
  | unclosed hLet hName hSign hValue hEnd =>
    rw [Reading.relocate_missed, List.map_cons, List.map_cons, List.map_cons, List.map_append]
    exact .unclosed hLet hName hSign (by simpa using hValue) hEnd
  | binding hLet hName hSign hValue hClose _ ih =>
    rw [Reading.relocate_append, Reading.relocate_bound, List.map_cons, List.map_cons,
      List.map_cons, List.map_append, List.map_cons]
    exact .binding hLet hName hSign (by simpa using hValue) hClose ih

theorem Reading.ofTokens_map_relocate {ts : List Token} (h : Ended ts) :
    ofTokens (ts.map (Token.relocate f)) = (ofTokens ts).relocate f :=
  ((reads_ofTokens h).relocate f).ofTokens_eq

/-! ### Scanners -/

variable {f}

/-- From `l` on, `f` goes along with every character. -/
def Location.Follows (f : Location → Location) (l : Location) : Prop :=
  ∀ cs, f (l.advanceOver cs) = (f l).advanceOver cs

theorem Location.Follows.of_advance (hf : ∀ l c, f (l.advance c) = (f l).advance c)
    (l : Location) : Follows f l := by
  intro cs
  induction cs generalizing l with
  | nil => rfl
  | cons c cs ih => rw [advanceOver_cons, advanceOver_cons, ih, hf]

theorem Location.Follows.advanceOver {l : Location} (h : Follows f l) (cs : List Char) :
    Follows f (l.advanceOver cs) := by
  intro ds
  rw [← advanceOver_append, h, h, advanceOver_append]

namespace Scanner

theorem next_relocate {s : Scanner} (hf : Location.Follows f s.location) :
    (Scanner.mk s.rest (f s.location)).next =
      (s.next.1.relocate f, ⟨s.next.2.rest, f s.next.2.location⟩) := by
  obtain ⟨cs, l⟩ := s
  rcases blanks_or_lexeme cs with hBlank | ⟨w, c, cs', rfl, hw, hc⟩
  · simp only [next_of_blanks hBlank, Token.relocate, hf cs]
  · simp only [next_of_lexeme hw hc, Token.relocate, hf w, hf (w ++ _)]

theorem follows_next {s : Scanner} (hf : Location.Follows f s.location) :
    Location.Follows f s.next.2.location := by
  obtain ⟨read, -, hPlace⟩ := s.exists_read_next
  exact hPlace ▸ hf.advanceOver read

theorem tokens_relocate {s : Scanner} (hf : Location.Follows f s.location) :
    (Scanner.mk s.rest (f s.location)).tokens = s.tokens.map (Token.relocate f) := by
  induction s using tokens_induction with
  | atEnd s h =>
    have hNext := next_relocate hf
    rw [tokens_of_isEnd h, tokens_of_isEnd (by rwa [hNext]), hNext]
    rfl
  | later s h ih =>
    have hNext := next_relocate hf
    rw [tokens_of_not_isEnd h, tokens_of_not_isEnd (by rwa [hNext]), hNext, ih (follows_next hf),
      List.map_cons]

end Scanner

end LetLens
