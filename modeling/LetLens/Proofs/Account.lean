import LetLens.Proofs.Grammar
import LetLens.Proofs.Layout

/-! The account of a text's bindings. The tokens of a text fall into stretches: the bindings that
are read, and single tokens outside of them, which may be followed by the value of a last binding
that the text leaves open. Each `let` among the single tokens has a diagnostic of its own, and there
are no other diagnostics. So a `let` opens a binding, is reported or stands inside a value. -/

namespace LetLens

/-! ### Stretches -/

inductive Stretch
  | kept (c : Clause)
  /-- A token outside of all bindings that are read. -/
  | loose (t : Token)

namespace Stretch

def tokens : Stretch → List Token
  | kept c => c.tokens
  | loose t => [t]

def binding? : Stretch → Option Binding
  | kept c => some c.binding
  | loose _ => none

def looseLet? : Stretch → Option Token
  | kept _ => none
  | loose t => if t.kind = .kwLet then some t else none

end Stretch

/-! ### Reports -/

/-- What is amiss with a `let` in front of these tokens. -/
inductive Amiss : List Token → Diagnostic → Prop
  | noName {name : Token} {ts : List Token} (hName : name.kind ≠ .ident) :
      Amiss (name :: ts) ⟨.ident, name.kind, name.location⟩
  | noSign {name sign : Token} {ts : List Token} (hName : name.kind = .ident)
      (hSign : sign.kind ≠ .assign) :
      Amiss (name :: sign :: ts) ⟨.assign, sign.kind, sign.location⟩
  | unclosed {name sign e : Token} {value : List Token} (hName : name.kind = .ident)
      (hSign : sign.kind = .assign) (hValue : ∀ v ∈ value, v.kind ≠ .semicolon ∧ v.isEnd = false)
      (hEnd : e.isEnd) :
      Amiss (name :: sign :: (value ++ [e])) ⟨.semicolon, e.kind, e.location⟩

namespace Amiss

theorem unique {ts : List Token} {d d' : Diagnostic} (h : Amiss ts d) (h' : Amiss ts d') :
    d = d' := by
  cases h with
  | noName hName =>
    cases h' with
    | noName => rfl
    | noSign hIdent => exact absurd hIdent hName
    | unclosed hIdent => exact absurd hIdent hName
  | noSign hName hSign =>
    cases h' with
    | noName hNone => exact absurd hName hNone
    | noSign => rfl
    | unclosed _ hAssign => exact absurd hAssign hSign
  | @unclosed name sign e value hName hSign hValue hEnd =>
    generalize hRest : value ++ [e] = rest at h'
    cases h' with
    | noName hNone => exact absurd hName hNone
    | noSign _ hNone => exact absurd hSign hNone
    | unclosed =>
      obtain ⟨-, hLast⟩ := List.append_inj' hRest rfl
      rw [List.singleton_inj.mp hLast]

/-- Nothing is amiss with a binding that comes to its end. -/
theorem not_clause (c : Clause) (ts : List Token) (d : Diagnostic) :
    ¬Amiss (c.name :: c.sign :: (c.value ++ c.closing :: ts)) d := by
  intro h
  generalize hRest : c.value ++ c.closing :: ts = rest at h
  cases h with
  | noName hNone => exact hNone c.name_kind
  | noSign _ hNone => exact hNone c.sign_kind
  | @unclosed name sign e value hName hSign hValue hEnd =>
    have hClosing : c.closing ∈ value ++ [e] := hRest ▸ by simp
    rcases List.mem_append.mp hClosing with hInside | hLast
    · exact (hValue _ hInside).1 c.closing_kind
    · have hNot := Token.not_isEnd_of_kind c.closing_kind (by decide)
      rw [List.mem_singleton.mp hLast, hEnd] at hNot
      exact Bool.noConfusion hNot

end Amiss

/-- Among the tokens `ts` the diagnostic `d` tells what is amiss with the `let` `t`. -/
def Reports (ts : List Token) (t : Token) (d : Diagnostic) : Prop :=
  ∃ before behind, ts = before ++ t :: behind ∧ Amiss behind d

namespace Reports

variable {ts : List Token} {t : Token} {d d' : Diagnostic}

theorem append_left (h : Reports ts t d) (front : List Token) : Reports (front ++ ts) t d := by
  obtain ⟨before, behind, rfl, hAmiss⟩ := h
  exact ⟨front ++ before, behind, (List.append_assoc ..).symm, hAmiss⟩

/-- A token that stands at one place only is reported by what stands behind it there. -/
theorem amiss {before behind : List Token} (h : Reports (before ++ t :: behind) t d)
    (hts : (before ++ t :: behind).Nodup) : Amiss behind d := by
  obtain ⟨before', behind', hSame, hAmiss⟩ := h
  have hBefore : t ∉ before := fun ht =>
    (List.nodup_append.mp hts).2.2 t ht t List.mem_cons_self rfl
  have hBehind : t ∉ behind := (List.nodup_cons.mp (List.nodup_append.mp hts).2.1).1
  obtain ⟨-, -, rfl⟩ := (List.append_cons_inj_of_notMem hBefore hBehind).mp hSame
  exact hAmiss

theorem unique (hts : ts.Nodup) (h : Reports ts t d) (h' : Reports ts t d') : d = d' := by
  obtain ⟨before, behind, rfl, hAmiss⟩ := h
  exact hAmiss.unique (h'.amiss hts)

end Reports

/-! ### Accounts -/

namespace Reading

/-- The last diagnostic says that a binding is not closed where the text ends. -/
def EndsOpen (r : Reading) : Prop :=
  ∃ d ∈ r.diagnostics.getLast?, d.expected = .semicolon ∧ d.found = .eof

theorem endsOpen_append_iff {r r' : Reading} (h : ∀ d ∈ r.diagnostics, d.expected ≠ .semicolon) :
    (r ++ r').EndsOpen ↔ r'.EndsOpen := by
  unfold EndsOpen
  rw [diagnostics_append, List.getLast?_append]
  cases hLast : r'.diagnostics.getLast? with
  | some d => simp
  | none =>
    refine iff_of_false ?_ (by simp)
    rintro ⟨d, hd, hExpected, -⟩
    exact h d (List.mem_of_getLast? (by simpa using hd)) hExpected

end Reading

/-- The tokens `ts`, which say `r`, fall into `stretches` and the end token `e`, with the value of a
binding that is left open between them. -/
structure Account (ts : List Token) (r : Reading) (stretches : List Stretch) (value : List Token)
    (e : Token) : Prop where
  tokens : ts = stretches.flatMap Stretch.tokens ++ (value ++ [e])
  ends : e.isEnd
  bindings : r.program.bindings = stretches.filterMap Stretch.binding?
  reports : List.Forall₂ (Reports ts) (stretches.filterMap Stretch.looseLet?) r.diagnostics
  openValue : r.EndsOpen → ∃ earlier t name sign,
    stretches = earlier ++ [.loose t, .loose name, .loose sign] ∧ t.kind = .kwLet ∧
      name.kind = .ident ∧ sign.kind = .assign ∧ ∀ v ∈ value, v.kind ≠ .semicolon
  noValue : ¬r.EndsOpen → value = []

open Reading

namespace Account

variable {ts value : List Token} {r : Reading} {stretches : List Stretch} {e : Token}

/-- Stretches in front of tokens that are accounted for. -/
theorem prepend (h : Account ts r stretches value e) (front : List Stretch) {us : List Token}
    {s : Reading} (hTokens : us = front.flatMap Stretch.tokens ++ ts)
    (hBindings : s.program.bindings = front.filterMap Stretch.binding?)
    (hReports : List.Forall₂ (Reports us) (front.filterMap Stretch.looseLet?) s.diagnostics)
    (hExpected : ∀ d ∈ s.diagnostics, d.expected ≠ .semicolon) :
    Account us (s ++ r) (front ++ stretches) value e where
  tokens := by rw [hTokens, List.flatMap_append, List.append_assoc, ← h.tokens]
  ends := h.ends
  bindings := by rw [bindings_append, hBindings, h.bindings, List.filterMap_append]
  reports := by
    have hLater := h.reports.imp fun _ _ hReport =>
      hReport.append_left (front.flatMap Stretch.tokens)
    rw [List.filterMap_append, diagnostics_append]
    exact List.rel_append hReports (hTokens ▸ hLater)
  openValue hOpen := by
    obtain ⟨earlier, t, name, sign, hStretches, hRest⟩ :=
      h.openValue ((endsOpen_append_iff hExpected).mp hOpen)
    exact ⟨front ++ earlier, t, name, sign, by rw [hStretches, List.append_assoc], hRest⟩
  noValue hClosed := h.noValue fun hOpen => hClosed ((endsOpen_append_iff hExpected).mpr hOpen)

/-- A `let` that is reported, with the tokens `passed` that are lost along with it. -/
theorem prepend_missed (h : Account ts r stretches value e) {t found : Token} {k : TokenKind}
    (passed : List Token) (hLet : t.kind = .kwLet) (hPassed : ∀ u ∈ passed, u.kind ≠ .kwLet)
    (hAmiss : Amiss (passed ++ ts) ⟨k, found.kind, found.location⟩) (hExpected : k ≠ .semicolon) :
    Account (t :: (passed ++ ts)) (missed k found ++ r)
      ((t :: passed).map .loose ++ stretches) value e := by
  have hLoose : ((t :: passed).map Stretch.loose).filterMap Stretch.looseLet? = [t] := by
    have hNone : (passed.map Stretch.loose).filterMap Stretch.looseLet? = [] := by
      simpa [Stretch.looseLet?] using hPassed
    have hOpening : (Stretch.loose t).looseLet? = some t := if_pos hLet
    rw [List.map_cons, List.filterMap_cons_some hOpening, hNone]
  refine h.prepend _ ?_ ?_ ?_ (by simpa [missed] using hExpected)
  · simp [Stretch.tokens, List.flatMap_map]
  · simp [missed, Stretch.binding?]
  · rw [hLoose]
    exact .cons ⟨[], _, rfl, hAmiss⟩ .nil

end Account

theorem Reads.exists_account {ts : List Token} {r : Reading} (h : Reads ts r) :
    ∃ stretches value e, Account ts r stretches value e := by
  induction h with
  | @stop e hEnd =>
    exact ⟨[], [], e, rfl, hEnd, rfl, .nil, by simp [EndsOpen, empty], fun _ => rfl⟩
  | @other t ts r hEnd h _ ih =>
    obtain ⟨stretches, value, e, hLater⟩ := ih
    exact ⟨_, value, e, hLater.prepend [.loose t] (s := empty) rfl rfl
      (by simp [Stretch.looseLet?, h, empty]) (by simp [empty])⟩
  | @noName t name ts r hLet hName _ ih =>
    obtain ⟨stretches, value, e, hLater⟩ := ih
    exact ⟨_, value, e, hLater.prepend_missed [] hLet (by simp) (.noName hName) (by decide)⟩
  | @noSign t name sign ts r hLet hName hSign _ ih =>
    obtain ⟨stretches, value, e, hLater⟩ := ih
    exact ⟨_, value, e, hLater.prepend_missed [name] hLet (by simp [hName]) (.noSign hName hSign)
      (by decide)⟩
  | @unclosed t name sign e value hLet hName hSign hValue hEnd =>
    have hLoose :
        [Stretch.loose t, .loose name, .loose sign].filterMap Stretch.looseLet? = [t] := by
      simp [Stretch.looseLet?, hLet, hName, hSign]
    refine ⟨[.loose t, .loose name, .loose sign], value, e, rfl, hEnd, rfl, ?_, fun _ => ?_,
      fun hClosed => ?_⟩
    · rw [hLoose]
      exact .cons ⟨[], _, rfl, .unclosed hName hSign hValue hEnd⟩ .nil
    · exact ⟨[], t, name, sign, rfl, hLet, hName, hSign, fun v hv => (hValue v hv).1⟩
    · exact absurd ⟨_, rfl, rfl, Token.isEnd_iff.mp hEnd⟩ hClosed
  | @binding t name sign close value ts r hLet hName hSign hValue hClose _ ih =>
    obtain ⟨stretches, value', e, hLater⟩ := ih
    let c : Clause := ⟨t, name, sign, value, close, hLet, hName, hSign, hValue, hClose⟩
    refine ⟨_, value', e, hLater.prepend [.kept c] ?_ rfl .nil (by simp [bound])⟩
    simp [Stretch.tokens, Clause.tokens, c]

/-- A binding that is read is not reported. -/
theorem Account.not_reports {ts value : List Token} {r : Reading} {stretches : List Stretch}
    {e : Token} (h : Account ts r stretches value e) (hts : ts.Nodup) {b : Binding}
    (hb : b ∈ r.program.bindings) (d : Diagnostic) : ¬Reports ts b.token d := by
  rw [h.bindings] at hb
  obtain ⟨s, hs, hKept⟩ := List.mem_filterMap.mp hb
  cases s with
  | loose t => exact absurd hKept (by simp [Stretch.binding?])
  | kept c =>
    obtain rfl : c.binding = b := by simpa [Stretch.binding?] using hKept
    obtain ⟨earlier, later, rfl⟩ := List.append_of_mem hs
    have hTokens : ts = earlier.flatMap Stretch.tokens ++ c.opening :: c.name :: c.sign ::
        (c.value ++ c.closing :: (later.flatMap Stretch.tokens ++ (value ++ [e]))) := by
      simp [h.tokens, Stretch.tokens, Clause.tokens]
    subst hTokens
    exact fun hReport => Amiss.not_clause c _ d (hReport.amiss hts)

namespace Reading

theorem nodup_tokensOf (text : String) : (tokensOf text).Nodup :=
  (Layout.pairwise_tokensOf text).imp fun {t u} h (hSame : t = u) =>
    Location.lt_irrefl _ (hSame ▸ h)

/-- Each `let` of a text is accounted for once. There are as many diagnostics as there are `let`s
outside of the bindings that are read and of the value that is left open, in the same order, and
each tells what is amiss with its `let`. That is one thing only, and none with a binding that is
read. -/
theorem exists_account_ofText (text : String) :
    ∃ stretches value e, Account (tokensOf text) (ofText text) stretches value e ∧
      (ofText text).diagnostics.length = (stretches.filterMap Stretch.looseLet?).length ∧
      (∀ t ∈ stretches.filterMap Stretch.looseLet?, ∃! d, Reports (tokensOf text) t d) ∧
      ∀ b ∈ (ofText text).program.bindings, ∀ d, ¬Reports (tokensOf text) b.token d := by
  have hNodup := nodup_tokensOf text
  have hReads := reads_ofTokens (ended_tokensOf text)
  rw [← ofText_eq] at hReads
  obtain ⟨stretches, value, e, hAccount⟩ := hReads.exists_account
  have hOnce : List.Forall₂ (fun t d => (∃! d, Reports (tokensOf text) t d) ∧
      Reports (tokensOf text) t d) (stretches.filterMap Stretch.looseLet?)
      (ofText text).diagnostics :=
    hAccount.reports.imp fun _ d h => ⟨⟨d, h, fun _ h' => h'.unique hNodup h⟩, h⟩
  exact ⟨stretches, value, e, hAccount, hAccount.reports.length_eq.symm,
    ((List.forall₂_and_left _ _).mp hOnce).1, fun _ hb => hAccount.not_reports hNodup hb⟩

/-- A `let` inside a value is neither read nor reported. -/
example : (ofText "let a = let b = 1;").diagnostics = [] ∧
    (ofText "let a = let b = 1;").program.bindings.map (·.target.name) = ["a"] := by
  decide +kernel

end Reading

end LetLens
