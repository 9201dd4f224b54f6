import LetLens.Proofs.Drawing
import LetLens.Proofs.ErrorLines
import LetLens.Proofs.Highlight
import LetLens.Proofs.Prose

/-! The marks of the source pane. A row of it starts with the marker of its line, which takes one
cell whatever number comes behind it, so the marks can be read off the first column. They stand at
the lines with diagnostics, as far as these are lines of the view: the end of a text that ends with
a line feed is on a line of its own, and the view does not have that line. -/

namespace LetLens

/-! ### The marker of a line -/

theorem printable_gutter (marked : Bool) (number : Nat) :
    Printable (gutter marked number).text := by
  refine (Printable.append ?_ (.alignRight (.repr number) 4)).append (by decide)
  cases marked <;> decide

/-- What stands in front of a line takes one cell for each character, the first one for its
marker. -/
theorem glyphs_gutter (marked : Bool) (number : Nat) :
    (gutter marked number).glyphs =
      ⟨if marked then "!" else " ", 1, (gutter marked number).style⟩ ::
        ((alignRight 4 number.repr).toList ++ [' ']).map fun c =>
          ⟨String.ofList [c], 1, (gutter marked number).style⟩ := by
  have hText : (gutter marked number).text.toList =
      (if marked then '!' else ' ') :: ((alignRight 4 number.repr).toList ++ [' ']) := by
    cases marked <;> simp [gutter]
  have hMarker : String.ofList [if marked then '!' else ' '] = if marked then "!" else " " := by
    cases marked <;> rfl
  rw [Span.glyphs_of_printable (printable_gutter marked number), hText, List.map_cons, hMarker]

/-- A first glyph of one cell is what a line of prose shows first. -/
theorem Row.onto_prose {g : Glyph} {gs : List Glyph} {line : List Span} {width : Nat}
    (hGlyphs : line.flatMap Span.glyphs = g :: gs) (hOne : g.width = 1) (hWidth : 0 < width)
    (c : Cell) : (prose width line).onto 0 c = ⟨g.symbol, g.style.onto c.style⟩ := by
  have hFits : g.width ≤ width := by omega
  obtain ⟨later, hShown⟩ : ∃ later, shown width line = g :: later := by
    rw [shown, hGlyphs, List.filter_cons_of_pos (by simp [hOne, Nat.succ_le_of_lt hWidth]),
      Glyph.fit, if_pos hFits]
    exact ⟨_, rfl⟩
  rw [onto_prose_eq, hShown]
  rfl

/-- A line as the source pane shows it, behind its marker and its number. -/
def sourceSpans (marks : List Nat) (number : Nat) (line : String) : List Span :=
  gutter (number ∈ marks) number ::
    if number ∈ marks then (highlight line).map markSpan else highlight line

theorem symbol_sourceSpans (marks : List Nat) (number : Nat) (line : String) {width : Nat}
    (hWidth : 0 < width) (c : Cell) :
    ((Row.prose width (sourceSpans marks number line)).onto 0 c).symbol =
      if number ∈ marks then "!" else " " := by
  rw [Row.onto_prose (by rw [sourceSpans, List.flatMap_cons, glyphs_gutter]; rfl) rfl hWidth]
  simp

/-! ### The first column of the source pane -/

/-- Every line is one row. -/
theorem rows_sourceItem (source : String) (marks : List Nat) (free seen : Area) (k : Nat) :
    ((linesOf source).mapIdx fun i line => sourceItem marks (i + 1) line)[k]?.map
        (Item.rows free seen) =
      ((linesOf source)[k]?.map fun line =>
        Row.prose free.width (sourceSpans marks (k + 1) line)).map ([·]) := by
  rw [List.getElem?_mapIdx, Option.map_map, Option.map_map]
  rfl

/-- Inside its frame the source pane shows the lines from its offset on, one in a row. -/
theorem cell?_draw_sourceView {w h : Nat} {a : Area} (hWidth : a.left + a.width ≤ w)
    (hHeight : a.top + a.height ≤ h) (source : String) (marks : List Nat) (focused : Bool)
    (o : Offset) (s : Screen w h) {x y : Nat} (hx : x < a.inside.width) (hy : y < a.inside.height) :
    ((sourceView source marks).draw a focused o s).cell? (a.inside.left + x) (a.inside.top + y) =
      (s.cell? (a.inside.left + x) (a.inside.top + y)).map fun c =>
        (linesOf source)[o.value + y]?.elim c fun line =>
          (Row.prose a.inside.width (sourceSpans marks (o.value + y + 1) line)).onto x c := by
  have hCell := View.cell?_draw_list hWidth hHeight " Source " 0
    (rows_sourceItem source marks _ _) focused o s hx hy
  refine hCell.trans ?_
  congr 1
  funext c
  simp only [Nat.not_lt_zero, ↓reduceIte, Nat.sub_zero]
  cases (linesOf source)[o.value + y]? <;> rfl

namespace Inspector

/-- A row of the source pane starts with an exclamation mark if it shows a line with errors. -/
theorem symbol_draw_iff (i : Inspector) {w h y : Nat}
    (hWidth : 0 < (Pane.source.area w h).inside.width)
    (hy : y < (Pane.source.area w h).inside.height) :
    let free := (Pane.source.area w h).inside
    let number := (i.offsets.get .source).value + y + 1
    ((i.draw (.blank w h)).cell? free.left (free.top + y)).map (·.symbol) = some "!" ↔
      number ∈ i.errorLines ∧ number ≤ (linesOf i.source).length := by
  intro free number
  obtain ⟨hRight, hBottom⟩ := Pane.area_within w h .source
  have hIn : (Pane.source.area w h).Covers free.left (free.top + y) :=
    Area.covers_inside hWidth hy
  have hCell : (i.drawPane (.blank w h) .source).cell? free.left (free.top + y) =
      ((Screen.blank w h).cell? free.left (free.top + y)).map fun c =>
        (linesOf i.source)[(i.offsets.get .source).value + y]?.elim c fun line =>
          (Row.prose free.width (sourceSpans i.errorLines number line)).onto 0 c :=
    cell?_draw_sourceView hRight (by omega) i.source i.errorLines _ _ _ hWidth hy
  rw [cell?_draw i _ hIn, hCell, Pane.cell?_blank hIn]
  cases hLine : (linesOf i.source)[(i.offsets.get .source).value + y]? with
  | none =>
    -- Below the last line the pane stays blank.
    have hBehind : ¬number ≤ (linesOf i.source).length := by
      rw [List.getElem?_eq_none_iff] at hLine
      omega
    simp [hBehind, Cell.blank]
  | some line =>
    have hInside : number ≤ (linesOf i.source).length := (List.getElem?_eq_some_iff.mp hLine).1
    have hSymbol := symbol_sourceSpans i.errorLines number line hWidth .blank
    simp [free, hSymbol, hInside]

end Inspector

/-! ### Lines with diagnostics -/

/-- A diagnostic is at a line of the text, except at the end of a text that ends with a line
feed. -/
theorem Reading.line_bounds {text : String} {d : Diagnostic}
    (hd : d ∈ (Reading.ofText text).diagnostics) :
    1 ≤ d.location.line ∧ (d.location.line ≤ (linesOf text).length ↔
      ¬(d.found = .eof ∧ text.toList.getLast? = some '\n')) := by
  by_cases hFound : d.found = .eof
  · have hLocation := location_of_found_eof hd hFound
    have hText : text.toList ≠ [] := by
      intro hEmpty
      obtain rfl : text = "" := String.toList_inj.mp hEmpty
      have hNone : (Reading.ofText "").diagnostics = [] := by decide +kernel
      rw [hNone] at hd
      exact List.not_mem_nil hd
    rw [hLocation, length_linesOf, List.getLast?_eq_some_getLast hText]
    simp only [Location.after, hFound, true_and, Option.all_some, decide_eq_true_eq,
      Option.some.injEq]
    by_cases hLast : text.toList.getLast hText = '\n'
    · rw [if_pos hLast]
      simp only [hLast, not_true, iff_false]
      omega
    · rw [if_neg hLast]
      simp only [hLast, not_false_iff, iff_true]
      omega
  · obtain ⟨t, ht, hKind, hLocation⟩ := Diagnostic.exists_token (diagnostics_ofText_sublist text) hd
    have hEnd : t.isEnd = false := by
      simpa [Token.isEnd, hKind] using hFound
    obtain ⟨i, line, hLine, u, hu, rfl⟩ := mem_tokensOf_iff.mp ⟨ht, hEnd⟩
    have hInside : i < (linesOf text).length := (List.getElem?_eq_some_iff.mp hLine).1
    rw [← hLocation, location_below hLine hu]
    simp only [hFound, false_and, not_false_iff, iff_true]
    omega

namespace Inspector

theorem mem_errorLines {i : Inspector} {n : Nat} :
    n ∈ i.errorLines ↔ ∃ d ∈ i.diagnostics, d.location.line = n := by
  rw [errorLines, mem_dropRepeats, List.mem_map]

theorem symbol_render_iff (i : Inspector) {w h y : Nat}
    (hWidth : 0 < (Pane.source.area w h).inside.width)
    (hy : y < (Pane.source.area w h).inside.height) :
    let shown := i.render w h
    let free := (Pane.source.area w h).inside
    let number := (shown.1.offsets.get .source).value + y + 1
    (shown.2.cell? free.left (free.top + y)).map (·.symbol) = some "!" ↔
      number ∈ i.errorLines ∧ number ≤ (linesOf i.source).length := by
  intro shown free number
  have hErrors : (i.settle w h).errorLines = i.errorLines := rfl
  have hSource : (i.settle w h).source = i.source := rfl
  rw [← hErrors, ← hSource]
  exact symbol_draw_iff (i.settle w h) hWidth hy

/-- At some offsets, a row of the source pane shows line `n` of `text` with an exclamation mark in
front of it, on a screen of `w` columns and `h` rows. -/
def MarksLine (w h : Nat) (text : String) (n : Nat) : Prop :=
  ∃ (focus : Pane) (offsets : Offsets) (y : Nat),
    let shown := ({ ofText text with focus, offsets } : Inspector).render w h
    let free := (Pane.source.area w h).inside
    y < free.height ∧ (shown.1.offsets.get .source).value + y + 1 = n ∧
      (shown.2.cell? free.left (free.top + y)).map (·.symbol) = some "!"

/-- Every line can be scrolled into sight. -/
theorem exists_row {total n : Nat} (a : Area) (hn : 1 ≤ n) (hnTotal : n ≤ total)
    (hTotal : total ≤ UInt64.size) (hRoom : 0 < a.inside.height) :
    ∃ (o : Offset) (y : Nat), y < a.inside.height ∧ (o.settle total a).value + y + 1 = n := by
  refine ⟨⟨n - 1, by omega⟩, n - 1 - min (n - 1) (total - visibleRows a), ?_, ?_⟩
  · have hVisible : visibleRows a = a.inside.height := by
      simp only [visibleRows, Area.inside] at hRoom ⊢
      omega
    omega
  · simp only [Offset.settle, Offset.atMost]
    omega

theorem marksLine_iff {w h : Nat} {text : String}
    (hWidth : 0 < (Pane.source.area w h).inside.width)
    (hHeight : 0 < (Pane.source.area w h).inside.height)
    (hLines : (linesOf text).length ≤ UInt64.size) (n : Nat) :
    MarksLine w h text n ↔ n ∈ (ofText text).errorLines ∧ n ≤ (linesOf text).length := by
  constructor
  · rintro ⟨focus, offsets, y, hy, rfl, hMark⟩
    exact (symbol_render_iff _ hWidth hy).mp hMark
  · rintro ⟨hError, hInside⟩
    obtain ⟨d, hd, rfl⟩ := mem_errorLines.mp hError
    obtain ⟨o, y, hy, hRow⟩ := exists_row (Pane.source.area w h) (Reading.line_bounds hd).1 hInside
      hLines hHeight
    let i : Inspector := { ofText text with focus := .source, offsets := { source := o } }
    have hOffset : (i.render w h).1.offsets.get .source =
        o.settle (linesOf text).length (Pane.source.area w h) := by
      show (i.settle w h).offsets.get .source = _
      rw [offset_settle, settle_view]
      rfl
    rw [← hOffset] at hRow
    refine ⟨.source, { source := o }, y, hy, hRow, (symbol_render_iff i hWidth hy).mpr ?_⟩
    rw [hRow]
    exact ⟨hError, hInside⟩

/-- The lines that are marked are those with diagnostics, which all are lines of the text, except
for one: the end of a text that ends with a line feed is on a line that is not shown. -/
theorem marksLine_iff_diagnostic (w h : Nat) (text : String)
    (hWidth : 0 < (Pane.source.area w h).inside.width)
    (hHeight : 0 < (Pane.source.area w h).inside.height)
    (hLines : (linesOf text).length ≤ UInt64.size) :
    (∀ n, MarksLine w h text n ↔ ∃ d ∈ (Reading.ofText text).diagnostics, d.location.line = n ∧
      ¬(d.found = .eof ∧ text.toList.getLast? = some '\n')) ∧
    ∀ d ∈ (Reading.ofText text).diagnostics, 1 ≤ d.location.line ∧
      (d.location.line ≤ (linesOf text).length ↔
        ¬(d.found = .eof ∧ text.toList.getLast? = some '\n')) := by
  refine ⟨fun n => ?_, fun d hd => Reading.line_bounds hd⟩
  rw [marksLine_iff hWidth hHeight hLines, mem_errorLines]
  constructor
  · rintro ⟨⟨d, hd, rfl⟩, hInside⟩
    exact ⟨d, hd, rfl, (Reading.line_bounds hd).2.mp hInside⟩
  · rintro ⟨d, hd, rfl, hEnd⟩
    exact ⟨⟨d, hd, rfl⟩, (Reading.line_bounds hd).2.mpr hEnd⟩

/-- Of three diagnostics, on one line each, the last one is behind the end of the second line. -/
theorem marksLine_second_line :
    MarksLine 40 10 "let let\nlet x = 5\n" 2 ∧ ¬MarksLine 40 10 "let let\nlet x = 5\n" 3 := by
  have hReported : (Reading.ofText "let let\nlet x = 5\n").diagnostics =
      [⟨.ident, .kwLet, ⟨1, 5⟩⟩, ⟨.ident, .kwLet, ⟨2, 1⟩⟩, ⟨.semicolon, .eof, ⟨3, 1⟩⟩] := by
    decide +kernel
  obtain ⟨hMarks, -⟩ := marksLine_iff_diagnostic 40 10 "let let\nlet x = 5\n" (by decide)
    (by decide) (by decide +kernel)
  rw [hMarks, hMarks, hReported]
  simp

/-- A binding that is not finished on its line is reported below it, where there is no line to
mark. -/
theorem unmarked_unfinished_binding :
    ¬(∀ n, MarksLine 40 10 "let x = 5\n" n ↔
      ∃ d ∈ (Reading.ofText "let x = 5\n").diagnostics, d.location.line = n) ∧
    ¬∀ d ∈ (Reading.ofText "let x = 5\n").diagnostics,
      d.location.line ≤ (linesOf "let x = 5\n").length := by
  have hReported : (Reading.ofText "let x = 5\n").diagnostics = [⟨.semicolon, .eof, ⟨2, 1⟩⟩] := by
    decide +kernel
  have hLines : (linesOf "let x = 5\n").length = 1 := by
    decide +kernel
  rw [hReported, hLines]
  refine ⟨fun hAll => ?_, by simp⟩
  obtain ⟨-, hInside⟩ := (marksLine_iff (by decide) (by decide) (by rw [hLines]; decide) 2).mp
    ((hAll 2).mpr ⟨_, List.mem_singleton_self _, rfl⟩)
  rw [hLines] at hInside
  exact absurd hInside (by decide)

end Inspector

end LetLens
