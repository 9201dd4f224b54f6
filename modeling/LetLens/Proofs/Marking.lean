import LetLens.Proofs.Markers
import Mathlib.Tactic.ByContra

/-! Marking lines changes the marks and nothing else. A marked line is put together by a way of its
own, but its glyphs are those of the line without the mark, as wide and in another style, so they
are cut at the same place and stand in the same columns. Whatever area the source pane is drawn in,
its lines are the last thing that is painted, and the cells below them do not depend on them. -/

namespace LetLens

/-! ### Marked glyphs -/

/-- A glyph of a marked line. -/
def Glyph.mark (g : Glyph) : Glyph :=
  { g with style := Style.onto { background := some Palette.band } g.style }

theorem Glyph.width_mark (g : Glyph) : g.mark.width = g.width := rfl

theorem glyphs_markSpan (s : Span) : (markSpan s).glyphs = s.glyphs.map Glyph.mark := by
  simp [Span.glyphs, markSpan, Glyph.mark]

theorem flatMap_glyphs_markSpan (line : List Span) :
    (line.map markSpan).flatMap Span.glyphs = (line.flatMap Span.glyphs).map Glyph.mark := by
  simp only [List.flatMap_map, List.map_flatMap, glyphs_markSpan]

/-- Over any cell a marked glyph differs from the glyph without the mark in the background. -/
theorem Glyph.style_mark_onto (g : Glyph) (s : Style) :
    g.mark.style.onto s = { g.style.onto s with background := some Palette.band } := by
  simp [mark, Style.onto]

/-! ### Marked rows -/

/-- The number of cells in front of a line: one for its marker, four or more for its number, and one
for a blank. -/
def gutterWidth (number : Nat) : Nat := max 4 number.repr.length + 2

theorem length_glyphs_gutter (marked : Bool) (number : Nat) :
    (gutter marked number).glyphs.length = gutterWidth number := by
  simp only [glyphs_gutter, alignRight, gutterWidth, List.length_cons, List.length_map,
    List.length_append, String.toList_append, String.toList_ofList, List.length_replicate,
    String.length_toList, List.length_nil]
  omega

/-- Behind the marker there is the same text in front of a line with a mark and without one. -/
theorem exists_symbol_gutter {number x : Nat} (hx : x + 1 < gutterWidth number) :
    ∃ symbol, ∀ marked, (gutter marked number).glyphs[x + 1]? =
      some ⟨symbol, 1, (gutter marked number).style⟩ := by
  have hThere : x < ((alignRight 4 number.repr).toList ++ [' ']).length := by
    have hLength := length_glyphs_gutter false number
    rw [glyphs_gutter, List.length_cons, List.length_map] at hLength
    omega
  refine ⟨String.ofList [((alignRight 4 number.repr).toList ++ [' '])[x]], fun marked => ?_⟩
  rw [glyphs_gutter, List.getElem?_cons_succ, List.getElem?_map, List.getElem?_eq_getElem hThere]
  rfl

theorem width_of_mem_gutter {marked : Bool} {number : Nat} {g : Glyph}
    (hg : g ∈ (gutter marked number).glyphs) : g.width = 1 := by
  rw [glyphs_gutter, List.mem_cons, List.mem_map] at hg
  rcases hg with rfl | ⟨c, -, rfl⟩ <;> rfl

/-- The glyphs of a line that have room behind its number. -/
def behindGutter (number width : Nat) (line : List Span) : List Glyph :=
  Glyph.fit (width - gutterWidth number) (Row.kept width line)

theorem behindGutter_mark (number width : Nat) (line : List Span) :
    behindGutter number width (line.map markSpan) =
      (behindGutter number width line).map Glyph.mark := by
  rw [behindGutter, Row.kept, flatMap_glyphs_markSpan, List.filter_map,
    Glyph.fit_map Glyph.width_mark]
  rfl

theorem atColumn?_gutter (marked : Bool) (number : Nat) (line : List Span) {width x : Nat}
    (hx : x < width) :
    Glyph.atColumn? (Row.shown width (gutter marked number :: line)) x =
      if x < gutterWidth number then (gutter marked number).glyphs[x]?
      else Glyph.atColumn? (behindGutter number width line) (x - gutterWidth number) := by
  have hNarrow : ∀ g ∈ (gutter marked number).glyphs, g.width = 1 := fun g => width_of_mem_gutter
  have hTaken : ∀ g ∈ (gutter marked number).glyphs.take width, g.width = 1 :=
    fun g hg => hNarrow g (List.mem_of_mem_take hg)
  have hKept : Row.kept width (gutter marked number :: line) =
      (gutter marked number).glyphs ++ Row.kept width line := by
    rw [Row.kept, List.flatMap_cons, List.filter_append,
      Glyph.filter_of_narrow hNarrow (Nat.zero_lt_of_lt hx), ← Row.kept]
  rw [Row.shown_eq, hKept,
    Glyph.fit_append_of_narrow hNarrow _ fun g => Row.width_pos_of_mem_kept,
    Glyph.atColumn?_append_of_narrow hTaken, List.length_take, length_glyphs_gutter, ← behindGutter]
  by_cases hGutter : x < gutterWidth number
  · rw [if_pos hGutter, if_pos (by omega), List.getElem?_take_of_lt hx]
  · rw [if_neg hGutter, if_neg (by omega), Nat.min_eq_right (by omega)]

/-- What marking line `number` makes of the cell in column `x` of its row, which shows the glyphs
`shown`. -/
inductive Marked (number : Nat) (shown : List Glyph) (x : Nat) : Cell → Cell → Prop
  | marker (before after : Style) : x = 0 → Marked number shown x ⟨" ", before⟩ ⟨"!", after⟩
  | inGutter (symbol : String) (before after : Style) : 0 < x → x < gutterWidth number →
      Marked number shown x ⟨symbol, before⟩ ⟨symbol, after⟩
  | character (c : Cell) : gutterWidth number ≤ x → (Glyph.atColumn? shown x).isSome →
      Marked number shown x c
        { c with style := { c.style with background := some Palette.band } }
  | blank (c : Cell) : gutterWidth number ≤ x → Glyph.atColumn? shown x = none →
      Marked number shown x c c

theorem Row.marked_onto {marks marks' : List Nat} {number : Nat} (hPlain : number ∉ marks)
    (hMarked : number ∈ marks') (line : String) {width x : Nat} (hx : x < width) (c : Cell) :
    Marked number (shown width (sourceSpans marks number line)) x
      ((prose width (sourceSpans marks number line)).onto x c)
      ((prose width (sourceSpans marks' number line)).onto x c) := by
  have hSpans : sourceSpans marks number line = gutter false number :: highlight line := by
    simp [sourceSpans, hPlain]
  have hSpans' : sourceSpans marks' number line =
      gutter true number :: (highlight line).map markSpan := by
    simp [sourceSpans, hMarked]
  have hColumn := atColumn?_gutter false number (highlight line) hx
  rw [onto_prose_eq, onto_prose_eq, hSpans, hSpans', atColumn?_gutter true number _ hx]
  by_cases hGutter : x < gutterWidth number
  · rw [if_pos hGutter] at hColumn ⊢
    rw [hColumn]
    cases x with
    | zero =>
      rw [glyphs_gutter, glyphs_gutter]
      exact .marker _ _ rfl
    | succ x =>
      obtain ⟨symbol, hSymbol⟩ := exists_symbol_gutter hGutter
      rw [hSymbol, hSymbol]
      exact .inGutter _ _ _ (Nat.succ_pos x) hGutter
  · rw [if_neg hGutter] at hColumn ⊢
    rw [behindGutter_mark, Glyph.atColumn?_map Glyph.width_mark, ← hColumn]
    have hBehind : gutterWidth number ≤ x := Nat.le_of_not_lt hGutter
    cases hGlyph : Glyph.atColumn? (shown width (gutter false number :: highlight line)) x with
    | none => exact .blank c hBehind hGlyph
    | some g =>
      have hCell : (⟨g.mark.symbol, g.mark.style.onto c.style⟩ : Cell) =
          ⟨g.symbol, { g.style.onto c.style with background := some Palette.band }⟩ :=
        congrArg _ (g.style_mark_onto c.style)
      simp only [Option.map_some, Option.elim_some, hCell]
      exact .character ⟨g.symbol, g.style.onto c.style⟩ hBehind (by rw [hGlyph]; rfl)

/-! ### The source pane in any area -/

theorem Screen.cell?_setRows_nil {w h : Nat} (a : Area) (s : Screen w h) (x y : Nat) :
    (s.setRows a []).cell? x y = s.cell? x y := by
  simp [setRows, cell?_paintIn]

/-- A list is drawn like an empty one, with its rows set on it after that. -/
theorem View.cell?_draw_list_eq {w h : Nat} (title : String) (indent : Nat) (items : List Item)
    (a : Area) (focused : Bool) (o : Offset) (s : Screen w h) (x y : Nat) :
    let free := a.inside.dropColumns indent
    ((list title indent items).draw a focused o s).cell? x y =
      (((list title indent []).draw a focused o s).setRows free
        (Item.stack free (free.clip w h) free.height (o.window a items))).cell? x y := by
  intro free
  have hNone : o.window a ([] : List Item) = [] := by simp [Offset.window]
  refine (Screen.PaintsIn.setRows free _).cell?_congr ?_
  show _ = Screen.cell? (Screen.setRows free
    (Item.stack free (free.clip w h) free.height (o.window a [])) _) x y
  rw [hNone]
  exact (Screen.cell?_setRows_nil free _ x y).symm

/-- Which of the lines from the offset on, counted from zero, is shown in row `y` of the screen. -/
def Offset.lineAt (o : Offset) (a : Area) (y : Nat) : Nat := o.value + (y - a.inside.top)

section

variable {w h : Nat} (source : String) (marks marks' : List Nat) (a : Area) (focused : Bool)
  (o : Offset) (s : Screen w h)

/-- Each line that has room in the source pane is painted in one row, on what the pane looks like
without a text. -/
theorem cell?_draw_sourceView_eq (x y : Nat) :
    ((sourceView source marks).draw a focused o s).cell? x y =
      (((View.list " Source " 0 []).draw a focused o s).cell? x y).map fun c =>
        if a.inside.Covers x y then
          (linesOf source)[o.lineAt a y]?.elim c fun line =>
            (Row.prose a.inside.width (sourceSpans marks (o.lineAt a y + 1) line)).onto
              (x - a.inside.left) c
        else c := by
  have hFree : a.inside.dropColumns 0 = a.inside := by simp [Area.dropColumns]
  refine (View.cell?_draw_list_eq ..).trans ?_
  simp only [hFree, Screen.setRows, Screen.cell?_paintIn]
  refine Option.map_congr fun c _ => ?_
  split
  · next hIn =>
    have hRow : y - a.inside.top < a.inside.height := by
      simp only [Area.Covers] at hIn
      omega
    rw [View.getElem?_rows_list (rows_sourceItem source marks _ _) o hRow, Offset.lineAt]
    cases (linesOf source)[o.value + (y - a.inside.top)]? with
    | none => simp only [Option.map_none, Option.elim_none]
    | some line => simp only [Option.map_some, Option.elim_some]
  · rfl

variable {source marks marks' a o}

/-- Lines that are marked in both cases or in neither look the same. -/
theorem sourceSpans_congr {number : Nat} (hSame : number ∈ marks ↔ number ∈ marks')
    (line : String) : sourceSpans marks number line = sourceSpans marks' number line := by
  simp only [sourceSpans, hSame]

theorem cell?_draw_marks_congr {x y : Nat}
    (hSame : a.inside.Covers x y → o.lineAt a y < (linesOf source).length →
      (o.lineAt a y + 1 ∈ marks ↔ o.lineAt a y + 1 ∈ marks')) :
    ((sourceView source marks).draw a focused o s).cell? x y =
      ((sourceView source marks').draw a focused o s).cell? x y := by
  refine (cell?_draw_sourceView_eq ..).trans (.trans ?_ (cell?_draw_sourceView_eq ..).symm)
  refine Option.map_congr fun c _ => ?_
  split
  · next hIn =>
    cases hLine : (linesOf source)[o.lineAt a y]? with
    | none => simp only [Option.elim_none]
    | some line =>
      have hInside := (List.getElem?_eq_some_iff.mp hLine).1
      rw [Option.elim_some, Option.elim_some, sourceSpans_congr (hSame hIn hInside)]
  · rfl

theorem marked_draw {x y : Nat} {line : String} (hIn : a.inside.Covers x y)
    (hLine : (linesOf source)[o.lineAt a y]? = some line) (hPlain : o.lineAt a y + 1 ∉ marks)
    (hMarked : o.lineAt a y + 1 ∈ marks') :
    (((sourceView source marks).draw a focused o s).cell? x y).Rel
      (Marked (o.lineAt a y + 1)
        (Row.shown a.inside.width (sourceSpans marks (o.lineAt a y + 1) line)) (x - a.inside.left))
      (((sourceView source marks').draw a focused o s).cell? x y) := by
  have hColumn : x - a.inside.left < a.inside.width := by
    simp only [Area.Covers] at hIn
    omega
  simp only [cell?_draw_sourceView_eq]
  cases ((View.list " Source " 0 []).draw a focused o s).cell? x y with
  | none => exact .none
  | some c =>
    simp only [Option.map_some, if_pos hIn, hLine, Option.elim_some]
    exact .some (Row.marked_onto hPlain hMarked line hColumn c)

end

/-- Marking other lines changes the marks and nothing else. The offset settles at the same place. A
cell that differs is in the row of a line that one of the lists has and the other one has not. Where
the second list has it, the marker of this row is set, the rest of the gutter has the same symbols,
and the characters of the line get a background; no other cell of the row differs. -/
theorem draw_sourceView_marks {w h : Nat} (source : String) (marks marks' : List Nat) (a : Area)
    (focused : Bool) (o : Offset) (s : Screen w h) :
    let settled := (sourceView source marks).settle a o
    let settled' := (sourceView source marks').settle a o
    let drawn := (sourceView source marks).draw a focused settled s
    let drawn' := (sourceView source marks').draw a focused settled' s
    settled = settled' ∧
    (∀ x y, drawn.cell? x y ≠ drawn'.cell? x y →
      let number := settled.lineAt a y + 1
      a.inside.Covers x y ∧ number ≤ (linesOf source).length ∧
        ¬(number ∈ marks ↔ number ∈ marks')) ∧
    ∀ x y line, a.inside.Covers x y → (linesOf source)[settled.lineAt a y]? = some line →
      let number := settled.lineAt a y + 1
      number ∉ marks → number ∈ marks' →
      (drawn.cell? x y).Rel
        (Marked number (Row.shown a.inside.width (sourceSpans marks number line))
          (x - a.inside.left))
        (drawn'.cell? x y) := by
  intro settled settled' drawn drawn'
  have hSettled : settled' = settled := by
    simp [settled, settled', sourceView, View.settle]
  have hDrawn' : drawn' = (sourceView source marks').draw a focused settled s := by
    rw [← hSettled]
  rw [hDrawn']
  refine ⟨hSettled.symm, fun x y hDiffers => ?_, fun x y line hIn hLine hPlain hMarked => ?_⟩
  · intro number
    by_contra hNone
    refine hDiffers (cell?_draw_marks_congr focused s fun hIn hLine => ?_)
    by_contra hOther
    exact hNone ⟨hIn, hLine, hOther⟩
  · exact marked_draw focused s hIn hLine hPlain hMarked

-- A wide character has the background in the first of its two cells.
example : let shown := Row.shown 20 (sourceSpans [] 1 "日本")
    (Glyph.atColumn? shown 6).map (·.symbol) = some "日" ∧ Glyph.atColumn? shown 7 = none ∧
      (Glyph.atColumn? shown 8).map (·.symbol) = some "本" := by
  decide +kernel

end LetLens
