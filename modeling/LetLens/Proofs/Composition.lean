import LetLens.Proofs.Extension
import LetLens.Proofs.Layout
import LetLens.Proofs.Pending
import LetLens.Proofs.Relocation

/-! Texts put together. A text that leaves no binding open can be read apart from what stands on the
lines below it, and only such a text can. Whatever is written behind a text, the bindings that it
has are kept, and so are its tokens and diagnostics but for its very end. -/

namespace LetLens

/-! ### A text and the lines below it -/

theorem tokensOf_append_lineFeed (a b : String) :
    tokensOf (a ++ "\n" ++ b) = (tokensOf a).dropLast ++
      (tokensOf b).map (Token.relocate (.below (1 + a.toList.count '\n'))) := by
  have hText : Scanner.ofText (a ++ "\n" ++ b) =
      (Scanner.ofText a).extend ('\n' :: b.toList) := by
    simp [Scanner.ofText, Scanner.extend]
  have hPlace : (Location.start.advanceOver a.toList).advanceOver ['\n'] =
      Location.start.below (1 + a.toList.count '\n') := by
    rw [Location.advanceOver_start]
    simp [Location.after, Location.advance, Location.start, Location.below]
    omega
  have hBelow := Scanner.tokens_relocate (s := .ofText b)
    (.of_advance (Location.below_advance (1 + a.toList.count '\n')) _)
  have hBlank := Scanner.tokens_blanks_append (w := ['\n']) (by simp [isBlank]) b.toList
    (Location.start.advanceOver a.toList)
  rw [hPlace] at hBlank
  rw [tokensOf, hText, Scanner.tokens_extend_of_blank (by simp [isBlank])]
  exact congrArg₂ (· ++ ·) rfl (hBlank.trans hBelow)

namespace Reading

theorem location_of_found_eof {text : String} {d : Diagnostic} (hd : d ∈ (ofText text).diagnostics)
    (hFound : d.found = .eof) : d.location = .after text.toList := by
  obtain ⟨e, he, hKind, hLocation⟩ := Diagnostic.exists_token (diagnostics_ofText_sublist text) hd
  have hEnd := Token.isEnd_iff.mpr (hKind.trans hFound)
  rw [← hLocation, Scanner.location_of_isEnd _ he hEnd, ← Location.advanceOver_start]
  rfl

/-- A text and the lines below it are read one after the other exactly when the text itself leaves
no binding open, so that its end is not reported. -/
theorem ofText_append_lineFeed_iff (a b : String) :
    ofText (a ++ "\n" ++ b) =
        ofText a ++ (ofText b).relocate (.below (1 + a.toList.count '\n')) ↔
      ∀ d ∈ (ofText a).diagnostics, d.found ≠ .eof := by
  constructor
  · intro hApart d hd hFound
    -- The end of `a` is not the end of the whole text.
    have hWhole : d ∈ (ofText (a ++ "\n" ++ b)).diagnostics := by
      rw [hApart]
      exact List.mem_append_left _ hd
    have hSame := (location_of_found_eof hd hFound).symm.trans (location_of_found_eof hWhole hFound)
    have hLess := Location.after_lt_after_append a.toList (List.cons_ne_nil '\n' b.toList)
    rw [hSame] at hLess
    exact Location.lt_irrefl _ (by simpa using hLess)
  · intro hClosed
    obtain ⟨e, hTokens, hBody, he⟩ := (ended_tokensOf a).exists_eq_concat
    obtain ⟨r, held, hRun⟩ := Pending.nothing.run hBody
    have hA : ofText a = r ++ ofTokens (held ++ [e]) := by
      rw [ofText_eq, hTokens, hRun.ofTokens_append]
    have hHeld : held = [] := by
      rcases hRun.pending.finish he with hHeld | ⟨k, hMissed⟩
      · exact hHeld
      · refine absurd (Token.isEnd_iff.mp he) (hClosed ⟨k, e.kind, e.location⟩ ?_)
        rw [hA, hMissed]
        exact List.mem_append_right _ List.mem_cons_self
    subst hHeld
    rw [List.nil_append, ofTokens_end [] he, append_empty] at hA
    rw [hA, ofText_eq, ofText_eq, tokensOf_append_lineFeed,
      ← ofTokens_map_relocate _ (ended_tokensOf b), hRun.ofTokens_append, List.nil_append]

end Reading

/-! ### A text and anything behind it -/

/-- What is written behind a text changes no more than its last token and the end token, and no
semicolon. -/
theorem exists_tokensOf_append (a b : String) : ∃ kept lost later,
    tokensOf a = kept ++ lost ∧ tokensOf (a ++ b) = kept ++ later ∧ lost ≠ [] ∧ lost.length ≤ 2 ∧
      ∀ t ∈ lost, t.kind ≠ .semicolon := by
  have hText : (Scanner.ofText a).extend b.toList = .ofText (a ++ b) := by
    simp [Scanner.ofText, Scanner.extend]
  have hTokens := Scanner.exists_tokens_extend b.toList (.ofText a)
  rwa [hText] at hTokens

theorem tokensOf_append_prefix (a b : String) :
    (tokensOf a).dropLast.dropLast <+: tokensOf (a ++ b) := by
  obtain ⟨kept, lost, later, hTokens, hLater, -, hLength, -⟩ := exists_tokensOf_append a b
  have hFront : (tokensOf a).dropLast.dropLast <+: tokensOf a :=
    (List.dropLast_prefix _).trans (List.dropLast_prefix _)
  have hKept : kept <+: tokensOf a := hTokens ▸ List.prefix_append _ _
  refine (List.prefix_of_prefix_length_le hFront hKept ?_).trans (hLater ▸ List.prefix_append _ _)
  rw [List.length_dropLast, List.length_dropLast, hTokens, List.length_append]
  omega

namespace Reading

/-- Only a semicolon brings a binding to its end. -/
theorem bindings_eq_nil {ts : List Token} {r : Reading} (h : Reads ts r)
    (hNone : ∀ t ∈ ts, t.kind ≠ .semicolon) : r.program.bindings = [] := by
  induction h with
  | stop => rfl
  | other _ _ _ ih => exact ih (List.forall_mem_cons.mp hNone).2
  | noName _ _ _ ih => exact ih (List.forall_mem_cons.mp hNone).2
  | noSign _ _ _ _ ih =>
    exact ih (List.forall_mem_cons.mp (List.forall_mem_cons.mp hNone).2).2
  | unclosed => rfl
  | binding _ _ _ _ hClose => exact absurd hClose (hNone _ (by simp))

/-- Bindings do not depend on what stands behind the last semicolon. -/
theorem bindings_prefix {kept lost : List Token} (h : Ended (kept ++ lost)) (hNil : lost ≠ [])
    (hLost : ∀ t ∈ lost, t.kind ≠ .semicolon) (later : List Token) :
    (ofTokens (kept ++ lost)).program.bindings <+:
      (ofTokens (kept ++ later)).program.bindings := by
  obtain ⟨hKept, hEnd⟩ := (Ended.append_iff hNil).mp h
  obtain ⟨r, held, hRun⟩ := Pending.nothing.run hKept
  have hEnded : Ended (held ++ lost) :=
    (Ended.append_iff hNil).mpr ⟨fun t ht => (hRun.pending.inside t ht).2, hEnd⟩
  have hNone : (ofTokens (held ++ lost)).program.bindings = [] := by
    refine bindings_eq_nil (reads_ofTokens hEnded) fun t ht => ?_
    rcases List.mem_append.mp ht with ht | ht
    · exact (hRun.pending.inside t ht).1
    · exact hLost t ht
  rw [hRun.ofTokens_append, hRun.ofTokens_append, bindings_append, bindings_append, hNone,
    List.append_nil]
  exact List.prefix_append _ _

/-- Diagnostics at a token do not depend on what stands behind it. -/
theorem diagnostics_before_prefix {kept lost : List Token} {last : Token}
    (h : Ended (kept ++ last :: lost))
    (hOrder : (kept ++ last :: lost).Pairwise fun t u => t.location < u.location)
    (later : List Token) :
    (ofTokens (kept ++ last :: lost)).diagnostics.filter (·.location < last.location) <+:
      (ofTokens (kept ++ later)).diagnostics := by
  have hNil := List.cons_ne_nil last lost
  obtain ⟨hKept, hEnd⟩ := (Ended.append_iff hNil).mp h
  obtain ⟨r, held, hRun⟩ := Pending.nothing.run hKept
  obtain ⟨-, hLost, hAcross⟩ := List.pairwise_append.mp hOrder
  have hBefore : r.diagnostics.filter (·.location < last.location) = r.diagnostics := by
    refine List.filter_eq_self.mpr fun d hd => decide_eq_true ?_
    obtain ⟨t, ht, -, hPlace⟩ := Diagnostic.exists_token hRun.reports hd
    exact hPlace ▸ hAcross t ht last List.mem_cons_self
  have hBehind : (ofTokens (held ++ last :: lost)).diagnostics.filter
      (·.location < last.location) = [] := by
    refine List.filter_eq_nil_iff.mpr fun d hd => ?_
    obtain ⟨t, ht, -, hPlace⟩ :=
      Diagnostic.exists_token (hRun.pending.diagnostics_sublist hEnd) hd
    rw [decide_eq_true_eq, ← hPlace]
    rcases List.mem_cons.mp ht with rfl | ht
    · exact Location.lt_irrefl _
    · exact Location.lt_asymm ((List.pairwise_cons.mp hLost).1 t ht)
  rw [hRun.ofTokens_append, hRun.ofTokens_append, diagnostics_append, diagnostics_append,
    List.filter_append, hBefore, hBehind, List.append_nil]
  exact List.prefix_append _ _

/-- Writing on behind a text takes back none of its bindings. Its tokens are kept, with the possible
exception of the last one, and so are its diagnostics at the tokens before that. -/
theorem ofText_append_keeps (a b : String) :
    (tokensOf a).dropLast.dropLast <+: tokensOf (a ++ b) ∧
    (ofText a).program.bindings <+: (ofText (a ++ b)).program.bindings ∧
    ((ofText a).diagnostics.filter fun d =>
        (tokensOf a).dropLast.getLast?.any fun last => d.location < last.location) <+:
      (ofText (a ++ b)).diagnostics := by
  have hFront := tokensOf_append_prefix a b
  refine ⟨hFront, ?_, ?_⟩
  · obtain ⟨kept, lost, later, hTokens, hLater, hNil, -, hLost⟩ := exists_tokensOf_append a b
    rw [ofText_eq, ofText_eq, hTokens, hLater]
    exact bindings_prefix (hTokens ▸ ended_tokensOf a) hNil hLost later
  · obtain ⟨e, hConcat, -⟩ := (ended_tokensOf a).exists_eq_concat
    rcases (tokensOf a).dropLast.eq_nil_or_concat' with hNone | ⟨body, last, hLast⟩
    · simp [hNone]
    · rw [hLast, List.dropLast_concat] at hFront
      obtain ⟨behind, hBehind⟩ := hFront
      have hAll : tokensOf a = body ++ last :: [e] := by
        rw [hConcat, hLast, List.append_assoc, List.singleton_append]
      simp only [hLast, List.getLast?_concat, Option.any_some]
      rw [ofText_eq, ofText_eq, hAll, ← hBehind]
      exact diagnostics_before_prefix (hAll ▸ ended_tokensOf a)
        (hAll ▸ Layout.pairwise_tokensOf a) behind

/-- The last token may grow, and what was reported at it is then withdrawn. -/
example : (ofText "let let").diagnostics.map (·.found) = [.kwLet, .eof] ∧
    (ofText ("let let" ++ "s = 1;")).diagnostics = [] := by
  decide +kernel

end Reading

end LetLens
