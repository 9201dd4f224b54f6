import LetLens.Proofs.ParserRun

/-! The grammar of texts without mistakes. A phrase is a clause, which is a whole binding from `let`
to semicolon, or a single token that opens none. A text is read without a diagnostic exactly when
its tokens fall into phrases. They do so in one way only, and the clauses are the bindings that are
read. -/

namespace LetLens

/-- The tokens of a binding, from its `let` to its semicolon. -/
structure Clause where
  opening : Token
  name : Token
  sign : Token
  value : List Token
  closing : Token
  opening_kind : opening.kind = .kwLet
  name_kind : name.kind = .ident
  sign_kind : sign.kind = .assign
  value_kinds : ∀ v ∈ value, v.kind ≠ .semicolon
  closing_kind : closing.kind = .semicolon

def Clause.tokens (c : Clause) : List Token :=
  c.opening :: c.name :: c.sign :: (c.value ++ [c.closing])

def Clause.binding (c : Clause) : Binding := ⟨c.opening, .ofToken c.name, none⟩

/-- Each binding that is read is that of a clause among the tokens. -/
theorem Reads.exists_clause {ts : List Token} {r : Reading} (h : Reads ts r) {b : Binding}
    (hb : b ∈ r.program.bindings) : ∃ c : Clause, c.binding = b ∧ c.tokens <:+: ts := by
  induction h with
  | stop hEnd => exact absurd hb List.not_mem_nil
  | other hEnd h _ ih =>
    obtain ⟨c, hBinding, hTokens⟩ := ih hb
    exact ⟨c, hBinding, List.infix_cons hTokens⟩
  | noName hLet hName _ ih =>
    obtain ⟨c, hBinding, hTokens⟩ := ih hb
    exact ⟨c, hBinding, List.infix_cons hTokens⟩
  | noSign hLet hName hSign _ ih =>
    obtain ⟨c, hBinding, hTokens⟩ := ih hb
    exact ⟨c, hBinding, List.infix_cons (List.infix_cons hTokens)⟩
  | unclosed hLet hName hSign hValue hEnd => exact absurd hb List.not_mem_nil
  | @binding t name sign close value ts r hLet hName hSign hValue hClose _ ih =>
    let c : Clause := ⟨t, name, sign, value, close, hLet, hName, hSign, hValue, hClose⟩
    have hAll : t :: name :: sign :: (value ++ close :: ts) = c.tokens ++ ts := by
      simp [Clause.tokens, c]
    rw [hAll]
    rcases List.mem_cons.mp hb with rfl | hb
    · exact ⟨c, rfl, List.infix_append_of_infix_left (List.infix_refl _)⟩
    · obtain ⟨c', hBinding, hTokens⟩ := ih hb
      exact ⟨c', hBinding, List.infix_append_of_infix_right hTokens⟩

inductive Phrase
  | clause (c : Clause)
  /-- A token that opens no binding. -/
  | passed (t : Token) (h : t.kind ≠ .kwLet)

namespace Phrase

def tokens : Phrase → List Token
  | clause c => c.tokens
  | passed t _ => [t]

def binding? : Phrase → Option Binding
  | clause c => some c.binding
  | passed _ _ => none

end Phrase

/-- The tokens of phrases in a row. -/
def tokensOfPhrases (phrases : List Phrase) : List Token := phrases.flatMap Phrase.tokens

@[simp] theorem tokensOfPhrases_nil : tokensOfPhrases [] = [] := rfl

@[simp] theorem tokensOfPhrases_cons (i : Phrase) (phrases : List Phrase) :
    tokensOfPhrases (i :: phrases) = i.tokens ++ tokensOfPhrases phrases := by
  simp [tokensOfPhrases]

open Reading

/-- Phrases are read without a diagnostic, as their bindings. -/
theorem ofTokens_phrases (phrases : List Phrase) {e : Token} (he : e.isEnd)
    (hBody : ∀ t ∈ tokensOfPhrases phrases, t.isEnd = false) :
    ofTokens (tokensOfPhrases phrases ++ [e]) = ⟨⟨phrases.filterMap Phrase.binding?⟩, []⟩ := by
  induction phrases with
  | nil => exact ofTokens_end [] he
  | cons i phrases ih =>
    rw [tokensOfPhrases_cons] at hBody ⊢
    have hLater := ih fun t ht => hBody t (List.mem_append_right _ ht)
    rw [List.append_assoc]
    cases i with
    | passed t h =>
      have hEnd := hBody t (by simp [Phrase.tokens])
      rw [Phrase.tokens, List.singleton_append, ofTokens_other _ hEnd h, hLater]
      rfl
    | clause c =>
      simp only [Phrase.tokens, Clause.tokens, List.cons_append, List.append_assoc,
        List.nil_append]
      rw [ofTokens_binding c.opening_kind c.name_kind c.sign_kind c.value_kinds c.closing_kind,
        hLater]
      rfl

/-- Tokens that are read without a diagnostic fall into phrases. -/
theorem exists_phrases {ts : List Token} {r : Reading} (h : Reads ts r)
    (hNone : r.diagnostics = []) : ∃ phrases, tokensOfPhrases phrases = ts.dropLast := by
  induction h with
  | stop => exact ⟨[], rfl⟩
  | @other t ts r _ h later ih =>
    obtain ⟨phrases, hPhrases⟩ := ih hNone
    refine ⟨.passed t h :: phrases, ?_⟩
    rw [List.dropLast_cons_of_ne_nil later.ne_nil, tokensOfPhrases_cons, hPhrases]
    rfl
  | noName => exact absurd hNone (List.cons_ne_nil _ _)
  | noSign => exact absurd hNone (List.cons_ne_nil _ _)
  | unclosed => exact absurd hNone (List.cons_ne_nil _ _)
  | @binding t name sign close value ts r hLet hName hSign hValue hClose later ih =>
    obtain ⟨phrases, hPhrases⟩ := ih hNone
    let c : Clause := ⟨t, name, sign, value, close, hLet, hName, hSign, hValue, hClose⟩
    refine ⟨.clause c :: phrases, ?_⟩
    rw [tokensOfPhrases_cons, hPhrases, Phrase.tokens, Clause.tokens,
      ← List.dropLast_append_of_ne_nil later.ne_nil]
    simp [c]

theorem Phrase.tokens_ne_nil (i : Phrase) : i.tokens ≠ [] := by
  cases i <;> simp [tokens, Clause.tokens]

theorem Clause.tokens_append_inj {c d : Clause} {ts us : List Token}
    (h : c.tokens ++ ts = d.tokens ++ us) : c = d ∧ ts = us := by
  simp only [tokens, List.cons_append, List.append_assoc, List.nil_append, List.cons.injEq] at h
  obtain ⟨hOpening, hName, hSign, hRest⟩ := h
  obtain ⟨hValue, hClosing, rfl⟩ := append_cons_inj_of_stop (p := fun t => t.kind ≠ .semicolon)
    (by simpa using c.value_kinds) (by simpa using d.value_kinds) (by simp [c.closing_kind])
    (by simp [d.closing_kind]) hRest
  cases c
  cases d
  simp_all

theorem tokensOfPhrases_injective : Function.Injective tokensOfPhrases := by
  intro phrases
  induction phrases with
  | nil =>
    intro phrases' h
    cases phrases' with
    | nil => rfl
    | cons i phrases' => simp [i.tokens_ne_nil] at h
  | cons i phrases ih =>
    intro phrases' h
    cases phrases' with
    | nil => simp [i.tokens_ne_nil] at h
    | cons i' phrases' =>
      rw [tokensOfPhrases_cons, tokensOfPhrases_cons] at h
      cases i with
      | clause c =>
        cases i' with
        | clause d =>
          obtain ⟨rfl, hLater⟩ := Clause.tokens_append_inj h
          rw [ih hLater]
        | passed t ht => exact absurd ((List.cons.inj h).1 ▸ c.opening_kind) ht
      | passed t ht =>
        cases i' with
        | clause d => exact absurd ((List.cons.inj h).1 ▸ d.opening_kind) ht
        | passed t' ht' =>
          obtain ⟨rfl, hLater⟩ := List.cons.inj h
          rw [ih hLater]

/-- The tokens of the text, up to the end token, are those of the phrases. -/
def FallsInto (text : String) (phrases : List Phrase) : Prop :=
  tokensOfPhrases phrases = (tokensOf text).dropLast

theorem ofText_of_fallsInto {text : String} {phrases : List Phrase} (h : FallsInto text phrases) :
    ofText text = ⟨⟨phrases.filterMap Phrase.binding?⟩, []⟩ := by
  obtain ⟨e, hTokens, hBody, he⟩ := (Scanner.ended_tokens (.ofText text)).exists_eq_concat
  have hBody : ∀ t ∈ tokensOfPhrases phrases, t.isEnd = false := h ▸ hBody
  rw [ofText_eq, tokensOf, hTokens, ← tokensOf, ← h, ofTokens_phrases phrases he hBody]

theorem diagnostics_eq_nil_iff (text : String) :
    (ofText text).diagnostics = [] ↔ ∃ phrases, FallsInto text phrases := by
  constructor
  · intro h
    rw [ofText_eq] at h
    exact exists_phrases (reads_ofTokens (Scanner.ended_tokens _)) h
  · rintro ⟨phrases, h⟩
    rw [ofText_of_fallsInto h]

end LetLens
