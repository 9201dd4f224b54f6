import LetLens.Proofs.ParserRun

/-! Reading token by token. Of the tokens before a place only those of a binding that has been begun
there still count: they are `Pending`. The next token either joins them, or it settles what they
are, which is a binding or a diagnostic of that very token. So a token is reported at most once, and
diagnostics stand in the order of the tokens that they report. -/

namespace LetLens

/-- The tokens of a binding that has been begun and may yet come to its end. -/
inductive Pending : List Token → Prop
  | nothing : Pending []
  | opened {t : Token} (hLet : t.kind = .kwLet) : Pending [t]
  | named {t name : Token} (hLet : t.kind = .kwLet) (hName : name.kind = .ident) : Pending [t, name]
  | valued {t name sign : Token} {value : List Token} (hLet : t.kind = .kwLet)
      (hName : name.kind = .ident) (hSign : sign.kind = .assign)
      (hValue : ∀ v ∈ value, v.kind ≠ .semicolon ∧ v.isEnd = false) :
      Pending (t :: name :: sign :: value)

theorem Pending.inside {held : List Token} (h : Pending held) :
    ∀ t ∈ held, t.kind ≠ .semicolon ∧ t.isEnd = false := by
  cases h with
  | nothing => simp
  | opened hLet => simp [Token.isEnd, hLet]
  | named hLet hName => simp [Token.isEnd, hLet, hName]
  | valued hLet hName hSign hValue => simpa [Token.isEnd, hLet, hName, hSign] using hValue

/-- What a diagnostic tells of the token that it reports. -/
def Token.spot (t : Token) : TokenKind × Location := (t.kind, t.location)

def Diagnostic.spot (d : Diagnostic) : TokenKind × Location := (d.found, d.location)

theorem Diagnostic.exists_token {ds : List Diagnostic} {ts : List Token}
    (h : (ds.map spot).Sublist (ts.map Token.spot)) {d : Diagnostic} (hd : d ∈ ds) :
    ∃ t ∈ ts, t.kind = d.found ∧ t.location = d.location := by
  obtain ⟨t, ht, hSpot⟩ := List.mem_map.mp (h.subset (List.mem_map_of_mem hd))
  exact ⟨t, ht, Prod.mk.inj hSpot⟩

open Reading

/-- Behind pending tokens, `ts` settles `r` and leaves other tokens pending, whatever comes next. -/
structure Settles (held ts : List Token) (r : Reading) (held' : List Token) : Prop where
  pending : Pending held'
  reports : (r.diagnostics.map Diagnostic.spot).Sublist (ts.map Token.spot)
  reads : ∀ us, ofTokens (held ++ (ts ++ us)) = r ++ ofTokens (held' ++ us)

namespace Settles

theorem refl {held : List Token} (h : Pending held) : Settles held [] empty held :=
  ⟨h, .slnil, fun _ => rfl⟩

theorem trans {held held' held'' ts us : List Token} {r r' : Reading} (h : Settles held ts r held')
    (h' : Settles held' us r' held'') : Settles held (ts ++ us) (r ++ r') held'' where
  pending := h'.pending
  reports := by
    rw [diagnostics_append, List.map_append, List.map_append]
    exact h.reports.append h'.reports
  reads more := by rw [List.append_assoc, h.reads, h'.reads, append_assoc]

/-- What tokens settle is said first, and the pending ones among them are read with what follows. -/
theorem ofTokens_append {ts held : List Token} {r : Reading} (h : Settles [] ts r held)
    (us : List Token) : ofTokens (ts ++ us) = r ++ ofTokens (held ++ us) :=
  h.reads us

variable {t : Token} (hEnd : t.isEnd = false)
include hEnd

theorem exists_of_nothing : ∃ held, Settles [] [t] empty held := by
  by_cases hLet : t.kind = .kwLet
  · exact ⟨[t], .opened hLet, by simp [empty], fun _ => rfl⟩
  · exact ⟨[], .nothing, by simp [empty], fun us => ofTokens_other us hEnd hLet⟩

/-- A token that does not fit is reported, and then read as if nothing were pending. -/
theorem exists_of_misfit {held : List Token} {k : TokenKind}
    (h : ∀ us, ofTokens (held ++ t :: us) = missed k t ++ ofTokens (t :: us)) :
    ∃ r held', Settles held [t] r held' := by
  obtain ⟨held', hAlone⟩ := exists_of_nothing hEnd
  refine ⟨missed k t, held', hAlone.pending, .refl _, fun us => ?_⟩
  have hReads : ofTokens (t :: us) = ofTokens (held' ++ us) := hAlone.reads us
  rw [List.singleton_append, h, hReads]

end Settles

namespace Pending

variable {held : List Token} (h : Pending held)
include h

/-- One token: it joins the pending ones, closes their binding or is reported. -/
theorem step {t : Token} (hEnd : t.isEnd = false) : ∃ r held', Settles held [t] r held' := by
  cases h with
  | nothing => exact ⟨empty, Settles.exists_of_nothing hEnd⟩
  | @opened opening hLet =>
    by_cases hName : t.kind = .ident
    case neg => exact Settles.exists_of_misfit hEnd fun us => ofTokens_noName us hLet hName
    exact ⟨empty, [opening, t], .named hLet hName, by simp [empty], fun _ => rfl⟩
  | @named opening name hLet hName =>
    by_cases hSign : t.kind = .assign
    case neg => exact Settles.exists_of_misfit hEnd fun us => ofTokens_noSign us hLet hName hSign
    exact ⟨empty, [opening, name, t], .valued hLet hName hSign (by simp), by simp [empty],
      fun _ => rfl⟩
  | @valued opening name sign value hLet hName hSign hValue =>
    by_cases hClose : t.kind = .semicolon
    · exact ⟨bound ⟨opening, .ofToken name, none⟩, [], .nothing, by simp [bound],
        fun us => ofTokens_binding hLet hName hSign (fun v hv => (hValue v hv).1) hClose⟩
    · refine ⟨empty, opening :: name :: sign :: (value ++ [t]), .valued hLet hName hSign ?_,
        by simp [empty], fun us => by simp⟩
      intro v hv
      rcases List.mem_append.mp hv with hv | hv
      · exact hValue v hv
      · exact List.mem_singleton.mp hv ▸ ⟨hClose, hEnd⟩

theorem run {ts : List Token} (hts : ∀ t ∈ ts, t.isEnd = false) :
    ∃ r held', Settles held ts r held' := by
  induction ts generalizing held with
  | nil => exact ⟨empty, held, .refl h⟩
  | cons t ts ih =>
    obtain ⟨r, held', hStep⟩ := h.step (hts t List.mem_cons_self)
    obtain ⟨r', held'', hRun⟩ := ih hStep.pending fun u hu => hts u (List.mem_cons_of_mem t hu)
    exact ⟨r ++ r', held'', hStep.trans hRun⟩

/-- A text that ends while tokens are pending has its end token reported. -/
theorem finish {e : Token} (he : e.isEnd) :
    held = [] ∨ ∃ k, ofTokens (held ++ [e]) = missed k e := by
  have hKind := Token.isEnd_iff.mp he
  cases h with
  | nothing => exact .inl rfl
  | opened hLet =>
    have hReads := (Reads.noName hLet (by simp [hKind]) (.stop he)).ofTokens_eq
    exact .inr ⟨.ident, by rwa [append_empty] at hReads⟩
  | named hLet hName =>
    have hReads := (Reads.noSign hLet hName (by simp [hKind]) (.stop he)).ofTokens_eq
    exact .inr ⟨.assign, by rwa [append_empty] at hReads⟩
  | valued hLet hName hSign hValue =>
    exact .inr ⟨.semicolon, (Reads.unclosed hLet hName hSign hValue he).ofTokens_eq⟩

/-- The diagnostics report some of the tokens behind the pending ones, in their order and each of
them once. -/
theorem diagnostics_sublist {ts : List Token} (hts : Ended ts) :
    ((ofTokens (held ++ ts)).diagnostics.map Diagnostic.spot).Sublist (ts.map Token.spot) := by
  obtain ⟨e, hConcat, hBody, he⟩ := hts.exists_eq_concat
  obtain ⟨r, held', hRun⟩ := h.run hBody
  have hLast : ((ofTokens (held' ++ [e])).diagnostics.map Diagnostic.spot).Sublist [e.spot] := by
    rcases hRun.pending.finish he with rfl | ⟨k, hReads⟩
    · simp [ofTokens_end [] he, empty]
    · exact hReads ▸ .refl _
  rw [hConcat, hRun.reads, diagnostics_append, List.map_append, List.map_append]
  exact hRun.reports.append hLast

end Pending

theorem Reading.diagnostics_ofText_sublist (text : String) :
    ((ofText text).diagnostics.map Diagnostic.spot).Sublist ((tokensOf text).map Token.spot) := by
  rw [ofText_eq]
  exact Pending.nothing.diagnostics_sublist (ended_tokensOf text)

end LetLens
