import LetLens.Proofs.Extension
import LetLens.Proofs.Layout
import LetLens.Proofs.Relocation

/-! A scanner that is asked again and again, now for the next token and now for all that are left.
What it hands out and what it would still hand out are the tokens of its text, with copies of the
end token behind them: `served_serve` says it of one request and `served_served` of any number.
What a scanner is at any moment is told by the text that it has read. It goes on like one that
starts on the rest of the text, except that its places count what was read before. -/

namespace LetLens

/-! ### Places in the rest of a text -/

/-- Where the place `l` of a text is when that text starts at `origin`. -/
def Location.behind (origin l : Location) : Location :=
  if l.line = 1 then ⟨origin.line, origin.column + (l.column - 1)⟩
  else ⟨origin.line + (l.line - 1), l.column⟩

theorem Location.behind_advance (origin : Location) {l : Location} (hLine : 1 ≤ l.line)
    (hColumn : 1 ≤ l.column) (c : Char) :
    behind origin (l.advance c) = (behind origin l).advance c := by
  have hBelow : l.line + 1 ≠ 1 := by omega
  by_cases hFeed : c = '\n' <;> by_cases hFirst : l.line = 1
  · simp only [advance, behind, if_pos hFeed, hFirst]
    rfl
  · simp only [advance, behind, if_pos hFeed, if_neg hBelow, if_neg hFirst]
    exact congrArg (mk · 1) (by omega)
  · simp only [advance, behind, if_neg hFeed, if_pos hFirst]
    exact congrArg (mk origin.line) (by omega)
  · simp only [advance, behind, if_neg hFeed, if_neg hFirst]

theorem Location.behind_after (origin : Location) (cs : List Char) :
    behind origin (after cs) = origin.advanceOver cs := by
  induction cs using List.reverseRecOn with
  | nil => rfl
  | append_singleton cs c ih =>
    rw [after_concat, behind_advance origin (Nat.le_add_right 1 _) (Nat.le_add_right 1 _), ih,
      advanceOver_append]
    rfl

theorem Location.follows_behind (origin : Location) : Follows (behind origin) start := by
  intro cs
  rw [advanceOver_start, behind_after]
  rfl

namespace Scanner

/-! ### The end of a text -/

/-- The end token of what is unread. -/
def last (s : Scanner) : Token := ⟨.eof, "", s.location.advanceOver s.rest⟩

theorem next_of_isEnd {s : Scanner} (h : s.next.1.isEnd) :
    s.next = (s.last, ⟨[], s.location.advanceOver s.rest⟩) :=
  next_of_blanks (isEnd_next_iff.mp h) s.location

@[simp] theorem last_next (s : Scanner) : s.next.2.last = s.last :=
  congrArg (Token.mk .eof "") s.advanceOver_next

theorem getLast?_tokens (s : Scanner) : s.tokens.getLast? = some s.last := by
  induction s using tokens_induction with
  | atEnd s h => rw [tokens_of_isEnd h, next_of_isEnd h, List.getLast?_singleton]
  | later s h ih =>
    rw [tokens_of_not_isEnd h, List.getLast?_cons, ih, last_next]
    rfl

theorem tokens_eq_dropLast_append (s : Scanner) : s.tokens = s.tokens.dropLast ++ [s.last] :=
  (List.dropLast_append_getLast? s.last (getLast?_tokens s)).symm

/-- A scanner that has handed out all of its tokens stands at the end of the text. -/
theorem readAll_eq (s : Scanner) :
    s.readAll = (s.tokens, ⟨[], s.location.advanceOver s.rest⟩) := by
  induction s using tokens_induction with
  | atEnd s h =>
    rw [tokens_of_isEnd h, readAll, dif_pos h, next_of_isEnd h]
  | later s h ih =>
    rw [tokens_of_not_isEnd h, readAll, dif_neg (by simp [h]), ih, advanceOver_next]

/-! ### Requests -/

/-- What a scanner can be asked for: its next token, or all tokens up to the end. -/
inductive Request
  | next | all

def serve (s : Scanner) : Request → List Token × Scanner
  | .next => ([s.next.1], s.next.2)
  | .all => s.readAll

/-- What is handed out on each of the requests. -/
def answers (s : Scanner) : List Request → List (List Token)
  | [] => []
  | r :: rs => (s.serve r).1 :: (s.serve r).2.answers rs

/-- All tokens that are handed out, in order. -/
def handedOut (s : Scanner) (rs : List Request) : List Token := (s.answers rs).flatten

/-- The scanner behind the requests. -/
def served (s : Scanner) (rs : List Request) : Scanner := rs.foldl (fun s r => (s.serve r).2) s

/-- `s` has handed out `ts` and become `s'`. -/
structure Served (s : Scanner) (ts : List Token) (s' : Scanner) : Prop where
  last : s'.last = s.last
  tokens : ∃ k, ts ++ s'.tokens = s.tokens ++ List.replicate k s.last
  read : ∃ read, read ++ s'.rest = s.rest ∧ s'.location = s.location.advanceOver read

namespace Served

theorem refl (s : Scanner) : Served s [] s :=
  ⟨rfl, ⟨0, (List.append_nil _).symm⟩, [], rfl, rfl⟩

theorem trans {s s' s'' : Scanner} {ts ts' : List Token} (h : Served s ts s')
    (h' : Served s' ts' s'') : Served s (ts ++ ts') s'' := by
  obtain ⟨k, hTokens⟩ := h.tokens
  obtain ⟨k', hTokens'⟩ := h'.tokens
  obtain ⟨read, hRest, hPlace⟩ := h.read
  obtain ⟨read', hRest', hPlace'⟩ := h'.read
  refine ⟨h'.last.trans h.last, ⟨k + k', ?_⟩, read ++ read', ?_, ?_⟩
  · rw [List.append_assoc, hTokens', ← List.append_assoc, hTokens, h.last, List.append_assoc,
      List.replicate_append_replicate]
  · rw [List.append_assoc, hRest', hRest]
  · rw [hPlace', hPlace, Location.advanceOver_append]

end Served

theorem served_next (s : Scanner) : Served s [s.next.1] s.next.2 := by
  refine ⟨s.last_next, ?_, s.exists_read_next⟩
  cases hEnd : s.next.1.isEnd with
  | true =>
    have hNext := next_of_isEnd hEnd
    have hAgain := next_next_of_isEnd hEnd
    refine ⟨1, ?_⟩
    rw [tokens_of_isEnd hEnd, tokens_of_isEnd (by rwa [hAgain]), hAgain, hNext]
    rfl
  | false =>
    refine ⟨0, ?_⟩
    rw [tokens_of_not_isEnd hEnd]
    exact (List.append_nil _).symm

theorem served_all (s : Scanner) : Served s s.readAll.1 s.readAll.2 := by
  rw [readAll_eq]
  have hEnd : (Scanner.mk [] (s.location.advanceOver s.rest)).next.1.isEnd := rfl
  refine ⟨rfl, ⟨1, ?_⟩, s.rest, List.append_nil _, rfl⟩
  rw [tokens_of_isEnd hEnd]
  rfl

theorem served_serve (s : Scanner) (r : Request) : Served s (s.serve r).1 (s.serve r).2 := by
  cases r with
  | next => exact s.served_next
  | all => exact s.served_all

theorem served_served (s : Scanner) (rs : List Request) :
    Served s (s.handedOut rs) (s.served rs) := by
  induction rs generalizing s with
  | nil => exact .refl s
  | cons r rs ih => exact (s.served_serve r).trans (ih (s.serve r).2)

/-- The tokens that are left behind those handed out: the rest of the tokens, or the end token alone
when it was handed out before. -/
theorem Served.tokens_eq {s s' : Scanner} {ts : List Token} (h : Served s ts s') :
    s'.tokens = if ts.length < s.tokens.length then s.tokens.drop ts.length else [s.last] := by
  obtain ⟨k, hTokens⟩ := h.tokens
  have hLeft := List.length_pos_iff.mpr s'.ended_tokens.ne_nil
  have hLength := congrArg List.length hTokens
  simp only [List.length_append, List.length_replicate] at hLength
  cases k with
  | zero =>
    rw [if_pos (by omega), ← List.append_nil s.tokens]
    exact (List.drop_left' rfl).symm.trans (congrArg (List.drop ts.length) hTokens)
  | succ k =>
    -- Of two end tokens at the end the first one is among those handed out.
    rw [List.replicate_succ', ← List.append_assoc, s'.tokens_eq_dropLast_append, h.last,
      ← List.append_assoc] at hTokens
    have hFront : ts ++ s'.tokens.dropLast = s.tokens ++ List.replicate k s.last :=
      List.append_cancel_right hTokens
    have hLast : (s.tokens ++ List.replicate k s.last).getLast? = some s.last := by
      cases k <;> simp [List.getLast?_append, getLast?_tokens, List.getLast?_replicate]
    have hNone : s'.tokens.dropLast = [] := by
      by_contra hSome
      obtain ⟨-, -, hBody, -⟩ := s'.ended_tokens.exists_eq_concat
      rw [← hFront, List.getLast?_append_of_ne_nil _ hSome] at hLast
      exact Bool.noConfusion (hBody s.last (List.mem_of_getLast? hLast))
    rw [hNone, List.append_nil] at hFront
    have hAll := congrArg List.length hFront
    rw [List.length_append] at hAll
    rw [if_neg (by omega), s'.tokens_eq_dropLast_append, hNone, h.last, List.nil_append]

theorem head_tokens (s : Scanner) : s.tokens.head? = some s.next.1 := by
  obtain ⟨ts, hTokens⟩ := s.exists_tokens_cons
  rw [hTokens, List.head?_cons]

theorem Served.next_eq {s s' : Scanner} {ts : List Token} (h : Served s ts s') :
    s'.next.1 = s.tokens[ts.length]?.getD s.last := by
  have hHead := s'.head_tokens
  rw [h.tokens_eq] at hHead
  split at hHead
  · rw [List.head?_drop] at hHead
    rw [hHead, Option.getD_some]
  · next hDone =>
    rw [List.getElem?_eq_none (Nat.le_of_not_lt hDone), Option.getD_none]
    exact (Option.some.inj hHead).symm

/-! ### Texts cut in two -/

section Relocate

variable {f : Location → Location} {s : Scanner} (hf : Location.Follows f s.location)
include hf

theorem serve_relocate (r : Request) :
    (Scanner.mk s.rest (f s.location)).serve r =
      ((s.serve r).1.map (Token.relocate f), ⟨(s.serve r).2.rest, f (s.serve r).2.location⟩) := by
  cases r with
  | next => rw [serve, next_relocate hf]; rfl
  | all =>
    rw [serve, readAll_eq, tokens_relocate hf, ← hf s.rest, serve, readAll_eq]

theorem answers_relocate (rs : List Request) :
    (Scanner.mk s.rest (f s.location)).answers rs =
      (s.answers rs).map (List.map (Token.relocate f)) := by
  induction rs generalizing s with
  | nil => rfl
  | cons r rs ih =>
    obtain ⟨read, -, hPlace⟩ := (s.served_serve r).read
    have hLater := ih (s := (s.serve r).2) (hPlace ▸ hf.advanceOver read)
    rw [answers, serve_relocate hf, hLater, answers, List.map_cons]

end Relocate

/-- A scanner behind the characters `read` of a text, and one that starts on the rest. -/
theorem answers_behind (read rest : List Char) (rs : List Request) :
    (Scanner.mk rest (.after read)).answers rs =
      ((ofText (String.ofList rest)).answers rs).map
        (List.map (Token.relocate (.behind (.after read)))) := by
  have hRelocate := answers_relocate (s := ofText (String.ofList rest))
    (Location.follows_behind (.after read)) rs
  rw [← hRelocate, ofText, String.toList_ofList]
  rfl

/-- A scanner may be asked for the next token and for all that are left, in any order. All that it
hands out, and then what it has left, are the tokens of its text with copies of the end token behind
them. So when it is asked for all after some tokens, it hands out the rest of them, and only the end
token once that was handed out; and the next token is the first of these. At any moment it has read
the front of the text, and from there on it answers like a scanner that starts on the rest, with
places behind what was read. -/
theorem handedOut_resume (text : String) (rs : List Request) :
    let e : Token := ⟨.eof, "", .after text.toList⟩
    let handed := (ofText text).handedOut rs
    let s := (ofText text).served rs
    (tokensOf text).getLast? = some e ∧
    (∃ k, handed ++ s.tokens = tokensOf text ++ List.replicate k e) ∧
    (s.serve .all).1 = (if handed.length < (tokensOf text).length
      then (tokensOf text).drop handed.length else [e]) ∧
    (s.serve .next).1 = [(tokensOf text)[handed.length]?.getD e] ∧
    ∃ read, read ++ s.rest = text.toList ∧ s.location = .after read ∧
      ∀ later, s.answers later = ((ofText (String.ofList s.rest)).answers later).map
        (List.map (Token.relocate (.behind (.after read)))) := by
  intro e handed s
  have hServed : Served (ofText text) handed s := served_served (ofText text) rs
  have hLast : (ofText text).last = e := congrArg (Token.mk .eof "") (Location.advanceOver_start _)
  have hEnd : (tokensOf text).getLast? = some e := hLast ▸ getLast?_tokens (ofText text)
  obtain ⟨k, hTokens⟩ := hServed.tokens
  obtain ⟨read, hRest, hPlace⟩ := hServed.read
  have hAfter : s.location = .after read := hPlace.trans (Location.advanceOver_start read)
  refine ⟨hEnd, ⟨k, hLast ▸ hTokens⟩, ?_, ?_, read, hRest, hAfter, ?_⟩
  · rw [serve, readAll_eq, ← hLast]
    exact hServed.tokens_eq
  · rw [serve, hServed.next_eq, hLast]
    rfl
  · intro later
    rw [← answers_behind, ← hAfter]

example : ((ofText "a b ").answers [.next, .all, .next, .all]).map (List.map Token.literal) =
    [["a"], ["b", ""], [""], [""]] := by
  decide +kernel

end Scanner

end LetLens
