import LetLens.Proofs.Drawing
import LetLens.Proofs.Lines
import LetLens.Proofs.Quoting

/-! The rows of the token pane. A token may come from anywhere and have any literal; its row still
stays on one line of the screen, and it tells the token. The place is behind spaces and ends before
a space, whatever its width; no kind fills its column, so it ends before a space as well; the spaces
behind a kind are as many as the kind asks for, and what is left is the quoted literal. -/

namespace LetLens

/-- The characters at which a text may be broken into lines. -/
def lineBreaks : List Char :=
  ['\n', '\r', '\x0b', '\x0c', '\u0085', '\u2028', '\u2029']

theorem not_isVisible_of_mem_lineBreaks {c : Char} (h : c ∈ lineBreaks) : ¬isVisible c := by
  have hAll : lineBreaks.all fun c => !isVisible c := by decide +kernel
  simpa using List.all_eq_true.mp hAll c h

/-! ### Columns -/

theorem Location.head?_text (l : Location) (r : List Char) :
    ∀ c ∈ (l.text.toList ++ r).head?, c.isDigit := by
  have hDigits : l.line.repr.toList ≠ [] := by
    rw [Nat.toList_repr]
    exact Nat.toDigits_ne_nil
  obtain ⟨d, ds, hLine⟩ := List.exists_cons_of_ne_nil hDigits
  intro c hc
  apply isDigit_of_mem_repr (n := l.line)
  have hFirst : d = c := by simpa [text, hLine] using hc
  rw [hLine, hFirst]
  exact List.mem_cons_self

theorem TokenKind.length_spelling_lt (k : TokenKind) : k.spelling.length < 8 := by
  cases k <;> decide

/-- The column of a kind ends with a space. -/
theorem TokenKind.toList_column (k : TokenKind) :
    (alignLeft 8 k.spelling).toList =
      k.spelling.toList ++ ' ' :: List.replicate (7 - k.spelling.length) ' ' := by
  have hRoom : 8 - k.spelling.length = 7 - k.spelling.length + 1 := by
    have hShort := k.length_spelling_lt
    omega
  rw [alignLeft, String.toList_append, String.toList_ofList, hRoom, List.replicate_succ]

namespace Token

/-! ### Rows -/

/-- The text of the row of a token, before it is cut at the edge of the pane. -/
def row (t : Token) : String := String.join (t.columns.map (·.text))

theorem row_eq (t : Token) : t.row =
    alignRight 7 t.location.text ++ " " ++ alignLeft 8 t.kind.spelling ++ quoted t.literal := by
  simp [row, columns, String.join]

/-- What stands behind the spaces at the head of a row. -/
def label (t : Token) : List Char :=
  t.location.text.toList ++ ' ' :: (t.kind.spelling.toList ++
    ' ' :: (List.replicate (7 - t.kind.spelling.length) ' ' ++ (quoted t.literal).toList))

theorem toList_row (t : Token) :
    t.row.toList = List.replicate (7 - t.location.text.length) ' ' ++ t.label := by
  have hSpace : " ".toList = [' '] := by decide
  simp only [row_eq, alignRight, String.toList_append, String.toList_ofList, hSpace,
    TokenKind.toList_column, label, List.append_assoc, List.cons_append, List.nil_append]

theorem dropWhile_row (t : Token) : t.row.toList.dropWhile (· = ' ') = t.label := by
  rw [toList_row]
  apply dropWhile_append_of_stop
  · intro c hc
    exact decide_eq_true (List.eq_of_mem_replicate hc)
  · intro c hc
    apply decide_eq_false
    rintro rfl
    exact absurd (t.location.head?_text _ ' ' hc) (by decide)

theorem row_inj {t u : Token} (h : t.row = u.row) : t = u := by
  have hLabel : t.label = u.label := by
    rw [← dropWhile_row, ← dropWhile_row, h]
  obtain ⟨hLocation, -, hRest⟩ := Location.text_append_inj (by decide) (by decide) hLabel
  obtain ⟨hKind, hRest⟩ := TokenKind.spelling_append_inj [] (List.forall_mem_nil _) hRest
  rw [hKind] at hRest
  have hLiteral := quoted_inj (String.toList_inj.mp (List.append_cancel_left hRest))
  cases t
  cases u
  rw [mk.injEq]
  exact ⟨hKind, hLiteral, hLocation⟩

/-- All of a row can be seen. -/
theorem isVisible_of_mem_row {t : Token} : ∀ c ∈ t.row.toList, isVisible c := by
  have hFront : Printable (alignRight 7 t.location.text ++ " " ++ alignLeft 8 t.kind.spelling) :=
    (((Printable.location t.location).alignRight 7).append (by decide)).append
      ((Printable.spelling t.kind).alignLeft 8)
  intro c hc
  rw [row_eq, String.toList_append, List.mem_append] at hc
  rcases hc with hc | hc
  · exact isVisible_of_isPrintable (hFront c hc)
  · exact isVisible_of_mem_quoted c hc

theorem linesOf_row (t : Token) : linesOf t.row = [t.row] := by
  apply linesOf_of_lineFeed_not_mem
  · intro hNil
    have hLabel := t.dropWhile_row
    rw [hNil] at hLabel
    simp [label] at hLabel
  · intro hFeed
    exact not_isVisible_of_mem_lineBreaks (by decide) (isVisible_of_mem_row _ hFeed)

end Token

/-! ### Rows in the pane -/

/-- Entries of one line are set one below the other, as far as there is room. -/
theorem Item.stack_entries {α : Type} (free seen : Area) (line : α → List Span) (height : Nat)
    (l : List α) : stack free seen height (l.map fun a => .entry .plain [line a]) =
      (l.take height).map fun a => .entry seen.width .plain (line a) := by
  induction l generalizing height with
  | nil => rw [List.map_nil, stack, List.take_nil, List.map_nil]
  | cons a l ih =>
    cases height with
    | zero => rfl
    | succ height =>
      rw [List.map_cons, List.take_succ_cons, List.map_cons, ← ih height]
      rfl

/-- Each token that the pane shows takes one row. -/
theorem rows_tokensView (ts : List Token) (a : Area) (o : Offset) (free seen : Area) :
    ((tokensView ts).panel a o).rows free seen =
      ((o.window a ts).take free.height).map fun t => .entry seen.width .plain t.columns := by
  have hWindow : o.window a (ts.map fun t => Item.entry .plain [t.columns]) =
      (o.window a ts).map fun t => Item.entry .plain [t.columns] := by
    rw [Offset.window, Offset.window, List.map_take, List.map_drop]
  show Item.stack free seen free.height (o.window a _) = _
  rw [hWindow, Item.stack_entries]

/-- A row of the token pane tells its token, whatever the literal and the place are: before it is
cut at the edge, it is the same for two tokens just when these are equal. Every character of it can
be seen, so it has no line break in it, and the pane has one row for each token. -/
theorem Token.row_identifies (t : Token) :
    t.row = alignRight 7 t.location.text ++ " " ++ alignLeft 8 t.kind.spelling ++
      quoted t.literal ∧
    (∀ u : Token, t.row = u.row ↔ t = u) ∧
    (∀ c ∈ t.row.toList, isVisible c ∧ c ∉ lineBreaks) ∧ linesOf t.row = [t.row] ∧
    ∀ (ts : List Token) (a : Area) (o : Offset) (free seen : Area),
      ((tokensView ts).panel a o).rows free seen =
        ((o.window a ts).take free.height).map fun t => .entry seen.width .plain t.columns := by
  refine ⟨t.row_eq, fun u => ⟨row_inj, congrArg row⟩, fun c hc => ?_, t.linesOf_row,
    rows_tokensView⟩
  have hSeen := isVisible_of_mem_row c hc
  exact ⟨hSeen, fun hBreak => not_isVisible_of_mem_lineBreaks hBreak hSeen⟩

example : Token.row ⟨.ident, "a\n\u200b", ⟨12, 3⟩⟩ = "   12:3 IDENT   \"a\\n\\u\x7b200b\x7d\"" := by
  decide +kernel

end LetLens
