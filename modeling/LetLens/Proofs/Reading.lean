import LetLens.Parser
import LetLens.Proofs.Scanning

/-! What tokens say, told on the list of them. `Reading.ofTokens` recurses on a list that ends with
an end token, and `Reads` has a rule for each way that such a list can begin. The rules fit every
list in exactly one way, so induction over them is induction over a text, statement by statement. -/

namespace LetLens

theorem Token.not_isEnd_of_kind {t : Token} {k : TokenKind} (h : t.kind = k) (hk : k ≠ .eof) :
    t.isEnd = false := by
  simpa [isEnd, h] using hk

namespace Reading

def empty : Reading := ⟨⟨[]⟩, []⟩

/-- One binding. -/
def bound (b : Binding) : Reading := ⟨⟨[b]⟩, []⟩

/-- One diagnostic: `expected` was due where `found` stands. -/
def missed (expected : TokenKind) (found : Token) : Reading :=
  ⟨⟨[]⟩, [⟨expected, found.kind, found.location⟩]⟩

instance : Append Reading where
  append r r' := ⟨⟨r.program.bindings ++ r'.program.bindings⟩, r.diagnostics ++ r'.diagnostics⟩

@[simp] theorem bindings_append (r r' : Reading) :
    (r ++ r').program.bindings = r.program.bindings ++ r'.program.bindings := rfl

@[simp] theorem diagnostics_append (r r' : Reading) :
    (r ++ r').diagnostics = r.diagnostics ++ r'.diagnostics := rfl

@[simp] theorem empty_append (r : Reading) : empty ++ r = r := rfl

@[simp] theorem append_empty (r : Reading) : r ++ empty = r := by
  obtain ⟨⟨bs⟩, ds⟩ := r
  exact congrArg₂ (fun bs ds => Reading.mk ⟨bs⟩ ds) (List.append_nil bs) (List.append_nil ds)

theorem append_assoc (r r' r'' : Reading) : r ++ r' ++ r'' = r ++ (r' ++ r'') :=
  congrArg₂ (fun bs ds => Reading.mk ⟨bs⟩ ds) (List.append_assoc ..) (List.append_assoc ..)

/-- What stands behind the first semicolon. -/
def behindSemicolon (ts : List Token) : List Token :=
  (ts.dropWhile fun t => t.kind ≠ .semicolon).tail

theorem length_behindSemicolon_le (ts : List Token) : (behindSemicolon ts).length ≤ ts.length := by
  have hDrop := List.length_dropWhile_le (fun t : Token => t.kind ≠ .semicolon) ts
  rw [behindSemicolon, List.length_tail]
  omega

/-- What tokens say. A `let`, a name and `=` open a binding, which ends at the next semicolon; if
there is none, the binding is lost and nothing is left to read. A token that does not fit is read
again, as the first of what is left. -/
def ofTokens : List Token → Reading
  | [] => empty
  | t :: ts =>
    if t.isEnd then empty
    else if t.kind ≠ .kwLet then ofTokens ts
    else match ts with
      | [] => empty
      | name :: ts =>
        if name.kind ≠ .ident then missed .ident name ++ ofTokens (name :: ts)
        else match ts with
          | [] => empty
          | sign :: ts =>
            if sign.kind ≠ .assign then missed .assign sign ++ ofTokens (sign :: ts)
            else if ts.any (·.kind = .semicolon) then
              bound ⟨t, .ofToken name, none⟩ ++ ofTokens (behindSemicolon ts)
            else (ts.find? Token.isEnd).elim empty (missed .semicolon)
termination_by ts => ts.length
decreasing_by
  all_goals simp only [List.length_cons]
  all_goals try omega
  have := length_behindSemicolon_le ts
  omega

section Rules

variable {t name sign : Token} (ts : List Token)

theorem ofTokens_end (h : t.isEnd) : ofTokens (t :: ts) = empty := by
  rw [ofTokens.eq_def]
  simp [h]

theorem ofTokens_other (hEnd : t.isEnd = false) (h : t.kind ≠ .kwLet) :
    ofTokens (t :: ts) = ofTokens ts := by
  rw [ofTokens.eq_def]
  simp [hEnd, h]

theorem ofTokens_noName (hLet : t.kind = .kwLet) (hName : name.kind ≠ .ident) :
    ofTokens (t :: name :: ts) = missed .ident name ++ ofTokens (name :: ts) := by
  rw [ofTokens.eq_def]
  simp [hLet, hName, Token.isEnd]

theorem ofTokens_noSign (hLet : t.kind = .kwLet) (hName : name.kind = .ident)
    (hSign : sign.kind ≠ .assign) :
    ofTokens (t :: name :: sign :: ts) = missed .assign sign ++ ofTokens (sign :: ts) := by
  rw [ofTokens.eq_def]
  simp [hLet, hName, hSign, Token.isEnd]

variable {ts} (hLet : t.kind = .kwLet) (hName : name.kind = .ident) (hSign : sign.kind = .assign)
include hLet hName hSign

theorem ofTokens_unclosed (hNone : ∀ v ∈ ts, v.kind ≠ .semicolon) :
    ofTokens (t :: name :: sign :: ts) =
      (ts.find? Token.isEnd).elim empty (missed .semicolon) := by
  rw [ofTokens.eq_def]
  have hAny : ¬ts.any (·.kind = .semicolon) := by simpa using hNone
  simp [hLet, hName, hSign, hAny, Token.isEnd]

theorem ofTokens_binding {value : List Token} {close : Token}
    (hValue : ∀ v ∈ value, v.kind ≠ .semicolon) (hClose : close.kind = .semicolon) :
    ofTokens (t :: name :: sign :: (value ++ close :: ts)) =
      bound ⟨t, .ofToken name, none⟩ ++ ofTokens ts := by
  have hBehind : behindSemicolon (value ++ close :: ts) = ts := by
    rw [behindSemicolon, dropWhile_append_of_stop (by simpa using hValue) (by simp [hClose]),
      List.tail_cons]
  rw [ofTokens.eq_def]
  simp [hLet, hName, hSign, hClose, hBehind, Token.isEnd]

end Rules

end Reading

/-- The rules of reading, one for each way that tokens can begin. -/
inductive Reads : List Token → Reading → Prop
  | stop {e : Token} (hEnd : e.isEnd) : Reads [e] .empty
  | other {t : Token} {ts : List Token} {r : Reading} (hEnd : t.isEnd = false)
      (h : t.kind ≠ .kwLet) (later : Reads ts r) : Reads (t :: ts) r
  | noName {t name : Token} {ts : List Token} {r : Reading} (hLet : t.kind = .kwLet)
      (hName : name.kind ≠ .ident) (later : Reads (name :: ts) r) :
      Reads (t :: name :: ts) (.missed .ident name ++ r)
  | noSign {t name sign : Token} {ts : List Token} {r : Reading} (hLet : t.kind = .kwLet)
      (hName : name.kind = .ident) (hSign : sign.kind ≠ .assign) (later : Reads (sign :: ts) r) :
      Reads (t :: name :: sign :: ts) (.missed .assign sign ++ r)
  | unclosed {t name sign e : Token} {value : List Token} (hLet : t.kind = .kwLet)
      (hName : name.kind = .ident) (hSign : sign.kind = .assign)
      (hValue : ∀ v ∈ value, v.kind ≠ .semicolon ∧ v.isEnd = false) (hEnd : e.isEnd) :
      Reads (t :: name :: sign :: (value ++ [e])) (.missed .semicolon e)
  | binding {t name sign close : Token} {value ts : List Token} {r : Reading}
      (hLet : t.kind = .kwLet) (hName : name.kind = .ident) (hSign : sign.kind = .assign)
      (hValue : ∀ v ∈ value, v.kind ≠ .semicolon) (hClose : close.kind = .semicolon)
      (later : Reads ts r) :
      Reads (t :: name :: sign :: (value ++ close :: ts)) (.bound ⟨t, .ofToken name, none⟩ ++ r)

namespace Reads

open Reading

theorem ne_nil {ts : List Token} {r : Reading} (h : Reads ts r) : ts ≠ [] := by
  cases h <;> simp

theorem ofTokens_eq {ts : List Token} {r : Reading} (h : Reads ts r) : ofTokens ts = r := by
  induction h with
  | stop hEnd => exact ofTokens_end [] hEnd
  | other hEnd h _ ih => rw [ofTokens_other _ hEnd h, ih]
  | noName hLet hName _ ih => rw [ofTokens_noName _ hLet hName, ih]
  | noSign hLet hName hSign _ ih => rw [ofTokens_noSign _ hLet hName hSign, ih]
  | @unclosed t name sign e value hLet hName hSign hValue hEnd =>
    have hClose : e.kind ≠ .semicolon := fun h => by simp [Token.isEnd, h] at hEnd
    have hNone : ∀ v ∈ value ++ [e], v.kind ≠ .semicolon := by
      intro v hv
      rcases List.mem_append.mp hv with hv | hv
      · exact (hValue v hv).1
      · exact List.mem_singleton.mp hv ▸ hClose
    have hFind : value.find? Token.isEnd = none :=
      List.find?_eq_none.mpr fun v hv => by simp [(hValue v hv).2]
    rw [ofTokens_unclosed hLet hName hSign hNone, List.find?_append, hFind]
    simp [hEnd]
  | binding hLet hName hSign hValue hClose _ ih =>
    rw [ofTokens_binding hLet hName hSign hValue hClose, ih]

/-- Tokens without a semicolon run on to the end, and the others fall apart at the first one. -/
theorem unclosed_or_closed (ts : List Token) :
    (∀ v ∈ ts, v.kind ≠ .semicolon) ∨ ∃ value close rest, ts = value ++ close :: rest ∧
      (∀ v ∈ value, v.kind ≠ .semicolon) ∧ close.kind = .semicolon := by
  cases hFind : ts.find? fun t => t.kind = .semicolon with
  | none => exact .inl fun v hv => by simpa using List.find?_eq_none.mp hFind v hv
  | some close =>
    obtain ⟨hClose, value, rest, rfl, hValue⟩ := List.find?_eq_some_iff_append.mp hFind
    exact .inr ⟨value, close, rest, rfl, by simpa using hValue, by simpa using hClose⟩

theorem exists_of_ended {ts : List Token} (h : Ended ts) : ∃ r, Reads ts r := by
  -- On the length and not on the list, because a binding leaves what stands behind its semicolon.
  -- Each further token is there because the tokens before it are no end token.
  induction hn : ts.length using Nat.strong_induction_on generalizing ts with
  | _ n ih =>
  subst hn
  obtain _ | ⟨t, ts⟩ := ts
  · exact absurd rfl h.ne_nil
  by_cases hEnd : t.isEnd
  · cases h with
    | last => exact ⟨_, .stop hEnd⟩
    | cons hNot => simp [hEnd] at hNot
  have hEnd : t.isEnd = false := by simpa using hEnd
  have h := h.tail hEnd
  by_cases hLet : t.kind = .kwLet
  case neg =>
    obtain ⟨r, hr⟩ := ih _ (by simp) h rfl
    exact ⟨r, .other hEnd hLet hr⟩
  obtain _ | ⟨name, ts⟩ := ts
  · exact absurd rfl h.ne_nil
  by_cases hName : name.kind = .ident
  case neg =>
    obtain ⟨r, hr⟩ := ih _ (by simp) h rfl
    exact ⟨_, .noName hLet hName hr⟩
  have h := h.tail (Token.not_isEnd_of_kind hName (by decide))
  obtain _ | ⟨sign, ts⟩ := ts
  · exact absurd rfl h.ne_nil
  by_cases hSign : sign.kind = .assign
  case neg =>
    obtain ⟨r, hr⟩ := ih _ (by simp) h rfl
    exact ⟨_, .noSign hLet hName hSign hr⟩
  have h := h.tail (Token.not_isEnd_of_kind hSign (by decide))
  obtain hNone | ⟨value, close, rest, rfl, hValue, hClose⟩ := unclosed_or_closed ts
  · obtain ⟨e, hConcat, hBody, hLast⟩ := h.exists_eq_concat
    rw [hConcat]
    exact ⟨_, .unclosed hLet hName hSign
      (fun v hv => ⟨hNone v ((List.dropLast_sublist ts).subset hv), hBody v hv⟩) hLast⟩
  · have hRest := (h.of_append (by simp)).tail (Token.not_isEnd_of_kind hClose (by decide))
    obtain ⟨r, hr⟩ := ih rest.length (by simp; omega) hRest rfl
    exact ⟨_, .binding hLet hName hSign hValue hClose hr⟩

end Reads

/-- The tokens of a scanner are read by the rules, to what the recursion on them gives. -/
theorem reads_ofTokens {ts : List Token} (h : Ended ts) : Reads ts (.ofTokens ts) := by
  obtain ⟨r, hr⟩ := Reads.exists_of_ended h
  rwa [hr.ofTokens_eq]

end LetLens
