import LetLens.Proofs.Markers
import LetLens.Proofs.Outline
import LetLens.Proofs.Scrolling
import LetLens.Proofs.TokenRows

/-! The pages of a pane. What it has to show are items of one row each, and inside its frame it
shows those from its offset on, one below the other, with nothing left out and nothing twice. Behind
the last item it is blank. Home and the down key bring every item into sight. What a row has to show
is a text that is written down here without regard to how it is drawn; the spans that are drawn are
one way to divide this text. -/

namespace LetLens

namespace Pane

/-- The columns that a pane leaves free inside its frame, in front of its rows. -/
def indent : Pane → Nat
  | diagnostics => 1
  | _ => 0

def rowWidth (w h : Nat) (p : Pane) : Nat := (p.area w h).inside.width - p.indent

/-- How a pane sets a line: the source pane has prose, the others have entries of one line. -/
def row (width : Nat) (style : Style) (line : List Span) : Pane → Row
  | source => .prose width line
  | _ => .entry width style line

end Pane

/-! ### Rows of a screen -/

namespace Screen

variable {w h : Nat}

/-- The cell in column `x` and row `y` inside the frame of pane `p`. -/
def cellIn? (s : Screen w h) (p : Pane) (x y : Nat) : Option Cell :=
  s.cell? ((p.area w h).inside.left + x) ((p.area w h).inside.top + y)

/-- Inside the frame of pane `p`, row `y` of the screen is `line?` as this pane sets it, or blank if
there is none. -/
def ShowsLine (s : Screen w h) (p : Pane) (y : Nat) (line? : Option (Style × List Span)) : Prop :=
  ∀ x < (p.area w h).inside.width, s.cellIn? p x y =
    some (if x < p.indent then .blank
      else line?.elim .blank fun l => (p.row (p.rowWidth w h) l.1 l.2).onto (x - p.indent) .blank)

/-- Inside the frame of pane `p`, row `y` of the screen shows `text?`, which is cut at the end of
the row, or it is blank if there is none. Whatever spans the text is divided into, a printable text
is shown character by character. -/
structure ShowsText (s : Screen w h) (p : Pane) (y : Nat) (text? : Option String) : Prop where
  blank : text? = none → ∀ x < (p.area w h).inside.width, s.cellIn? p x y = some .blank
  spans : ∀ text ∈ text?, ∃ style line, String.join (line.map Span.text) = text ∧
    s.ShowsLine p y (some (style, line))
  characters : ∀ text ∈ text?, Printable text → ∀ x < (p.area w h).inside.width,
    (s.cellIn? p x y).map (·.symbol) =
      some (if x < p.indent then " " else text.toList[x - p.indent]?.elim " " (String.ofList [·]))

end Screen

theorem Pane.symbol_row_of_printable {line : List Span}
    (h : Printable (String.join (line.map (·.text)))) (p : Pane) (style : Style) {width x : Nat}
    (hx : x < width) :
    ((p.row width style line).onto x .blank).symbol =
      (String.join (line.map (·.text))).toList[x]?.elim " " (String.ofList [·]) := by
  have hNarrow := Span.width_of_mem_printable h
  have hSymbol : (line.flatMap Span.glyphs)[x]?.map (·.symbol) =
      (String.join (line.map (·.text))).toList[x]?.map (String.ofList [·]) := by
    rw [← List.getElem?_map, ← List.getElem?_map, Span.map_symbol_of_printable h]
  have hRow : ((p.row width style line).onto x .blank).symbol =
      ((line.flatMap Span.glyphs)[x]?.map (·.symbol)).getD " " := by
    cases p with
    | source =>
      rw [row, Row.onto_prose_of_narrow hNarrow hx]
      cases (line.flatMap Span.glyphs)[x]? <;> rfl
    | _ =>
      show ((Row.entry width style line).onto x .blank).symbol = _
      rw [Row.onto_entry_of_narrow hNarrow style hx]
      cases (line.flatMap Span.glyphs)[x]? <;> rfl
  rw [hRow, hSymbol]
  cases (String.join (line.map (·.text))).toList[x]? <;> rfl

/-- A row that shows a line shows its text. -/
theorem Screen.ShowsLine.showsText {w h : Nat} {s : Screen w h} {p : Pane} {y : Nat}
    {line? : Option (Style × List Span)} (hLine : s.ShowsLine p y line?) :
    s.ShowsText p y (line?.map fun l => String.join (l.2.map (·.text))) := by
  cases line? with
  | none =>
    refine ⟨fun _ x hx => ?_, nofun, nofun⟩
    rw [hLine x hx]
    split <;> rfl
  | some l =>
    refine ⟨nofun, ?_, ?_⟩
    · rintro _ ⟨⟩
      exact ⟨l.1, l.2, rfl, hLine⟩
    · rintro _ ⟨⟩ hPrintable x hx
      rw [hLine x hx, Option.map_some]
      by_cases hIndent : x < p.indent
      · rw [if_pos hIndent, if_pos hIndent]
        rfl
      · have hIn : x - p.indent < p.rowWidth w h := by
          unfold Pane.rowWidth
          omega
        rw [if_neg hIndent, if_neg hIndent]
        exact congrArg some (p.symbol_row_of_printable hPrintable l.1 hIn)

/-! ### Texts of lines -/

theorem Diagnostic.text_columns (d : Diagnostic) :
    String.join (d.columns.map (·.text)) = d.location.text ++ " " ++ d.message := by
  simp [columns, String.join]

theorem text_sourceSpans (marks : List Nat) (number : Nat) {line : String}
    (hLine : '\n' ∉ line.toList) :
    String.join ((sourceSpans marks number line).map (·.text)) =
      (if number ∈ marks then "!" else " ") ++ alignRight 4 number.repr ++ " " ++ line := by
  have hText := highlight_text hLine
  have hMarked : ((highlight line).map markSpan).map (·.text) = (highlight line).map (·.text) := by
    rw [List.map_map]
    rfl
  by_cases hMark : number ∈ marks
  · simp [sourceSpans, hMark, hMarked, hText, gutter]
  · simp [sourceSpans, hMark, hText, gutter]

namespace Inspector

/-! ### Items -/

/-- The text of item `k` of a pane: a line of the source behind its marker and its number, a token
in its columns, a line of the tree, or a diagnostic behind its place. -/
def rowText? (i : Inspector) (k : Nat) : Pane → Option String
  | .source => (linesOf i.source)[k]?.map fun line =>
      (if k + 1 ∈ i.errorLines then "!" else " ") ++ alignRight 4 (k + 1).repr ++ " " ++ line
  | .tokens => i.tokens[k]?.map fun t =>
      alignRight 7 t.location.text ++ " " ++ alignLeft 8 t.kind.spelling ++ quoted t.literal
  | .tree => i.program.outline[k]?.map fun l => l.text
  | .diagnostics => i.diagnostics[k]?.map fun d => d.location.text ++ " " ++ d.message

/-- Item `k` of a pane as the line that is drawn for it. -/
def line? (i : Inspector) (k : Nat) : Pane → Option (Style × List Span)
  | .source => (linesOf i.source)[k]?.map fun line =>
      (.plain, sourceSpans i.errorLines (k + 1) line)
  | .tokens => i.tokens[k]?.map fun t => (.plain, t.columns)
  | .tree => i.program.outline[k]?.map fun l => (l.level.style, [⟨l.text, .plain⟩])
  | .diagnostics => i.diagnostics[k]?.map fun d => (.plain, d.columns)

/-- The lines that are drawn have the texts of the items. -/
theorem rowText?_eq (i : Inspector) (k : Nat) (p : Pane) :
    i.rowText? k p = (i.line? k p).map fun l => String.join (l.2.map (·.text)) := by
  cases p with
  | source =>
    rw [rowText?, line?, Option.map_map]
    refine Option.map_congr fun line hLine => ?_
    exact (text_sourceSpans _ _ (lineFeed_not_mem_linesOf (List.mem_of_getElem? hLine))).symm
  | tokens =>
    rw [rowText?, line?, Option.map_map]
    refine Option.map_congr fun t _ => ?_
    rw [← t.row_eq, Token.row, Function.comp]
  | tree =>
    rw [rowText?, line?, Option.map_map]
    exact Option.map_congr fun l _ => by simp
  | diagnostics =>
    rw [rowText?, line?, Option.map_map]
    exact Option.map_congr fun d _ => d.text_columns.symm

theorem Keeps.rowText?_eq {i j : Inspector} (h : Keeps i j) (k : Nat) (p : Pane) :
    j.rowText? k p = i.rowText? k p := by
  have hMarks : j.errorLines = i.errorLines := by rw [errorLines, errorLines, h.diagnostics]
  cases p with
  | source => rw [rowText?, rowText?, h.source, hMarks]
  | tokens => rw [rowText?, rowText?, h.tokens]
  | tree => rw [rowText?, rowText?, h.program]
  | diagnostics => rw [rowText?, rowText?, h.diagnostics]

theorem Keeps.itemCount_eq {i j : Inspector} (h : Keeps i j) (p : Pane) :
    j.itemCount p = i.itemCount p := by
  cases p <;> simp [itemCount, h.source, h.tokens, h.program, h.diagnostics]

theorem Keeps.mem_outline {source : String} {i : Inspector} (h : Keeps (ofText source) i)
    {l : OutlineLine} (hl : l ∈ i.program.outline) :
    l ∈ (Reading.ofText source).program.outline := by
  have hProgram : i.program = (Reading.ofText source).program := h.program
  rwa [hProgram] at hl

theorem isEmpty_bindings {i : Inspector} (h : 1 ≤ i.itemCount .tree) :
    i.program.bindings.isEmpty = false := by
  cases hEmpty : i.program.bindings.isEmpty with
  | false => rfl
  | true =>
    rw [itemCount, if_pos hEmpty] at h
    omega

theorem isSome_rowText?_iff {i : Inspector} {p : Pane} (hItems : 1 ≤ i.itemCount p) (k : Nat) :
    (i.rowText? k p).isSome ↔ k < i.itemCount p := by
  cases p with
  | tree => simp [rowText?, itemCount, isEmpty_bindings hItems]
  | _ => simp [rowText?, itemCount]

/-- A pane of a text that has anything to show lists its items, and each of them takes one row. -/
theorem view_eq_list {source : String} {i : Inspector} (hText : Keeps (ofText source) i) {p : Pane}
    (hItems : 1 ≤ i.itemCount p) : ∃ title items, i.view p = .list title p.indent items ∧
      ∀ free k, items[k]?.map (Item.rows free free) =
        ((i.line? k p).map fun l => p.row free.width l.1 l.2).map ([·]) := by
  cases p with
  | source =>
    refine ⟨_, _, rfl, fun free k => ?_⟩
    rw [rows_sourceItem, line?]
    cases (linesOf i.source)[k]? <;> rfl
  | tokens =>
    refine ⟨_, _, rfl, fun free k => ?_⟩
    rw [List.getElem?_map, Option.map_map, line?, Option.map_map, Option.map_map]
    rfl
  | tree =>
    refine ⟨" Syntax Tree ", i.program.outline.map OutlineLine.item, ?_, fun free k => ?_⟩
    · exact if_neg (by simp [isEmpty_bindings hItems])
    rw [List.getElem?_map, Option.map_map, line?, Option.map_map, Option.map_map]
    refine Option.map_congr fun l hLine => ?_
    have hMem := hText.mem_outline (List.mem_of_getElem? hLine)
    simp [Reading.item_outline hMem, Item.rows, Pane.row]
  | diagnostics =>
    have hSome : i.diagnostics.isEmpty = false := by
      simpa [itemCount, Nat.succ_le_iff, List.length_pos_iff] using hItems
    refine ⟨countTitle "Diagnostics" i.diagnostics.length,
      i.diagnostics.map fun d => .entry .plain [d.columns], ?_, fun free k => ?_⟩
    · exact if_neg (by simp [hSome])
    rw [List.getElem?_map, Option.map_map, line?, Option.map_map, Option.map_map]
    rfl

/-! ### Pages -/

section Offsets

variable {i : Inspector} {p : Pane} (hItems : 1 ≤ i.itemCount p) {w h : Nat}
  (hHeight : 3 ≤ (p.area w h).height)
include hItems hHeight

/-- An offset settles where the last page is full, or at zero when there is room for all. -/
theorem value_settle_view (o : Offset) :
    ((i.view p).settle (p.area w h) o).value =
      min o.value (i.itemCount p - ((p.area w h).height - 2)) := by
  have hVisible : visibleRows (p.area w h) = (p.area w h).height - 2 :=
    Nat.max_eq_left (by omega)
  rw [settle_view, if_neg (by omega), ← hVisible]
  rfl

/-- Home and `k` times down, with any renders on the way, bring the offset to `k` or to the last
full page. -/
theorem value_offset_home_down (hFocus : i.focus = p) {k : Nat} (hk : k < UInt64.size)
    {es : List Event} (hes : RendersOn w h es)
    (hKeys : keysOf es = .home :: List.replicate k .down) :
    (((i.run es).render w h).1.offsets.get p).value =
      min k (i.itemCount p - ((p.area w h).height - 2)) := by
  subst hFocus
  obtain ⟨before, e, after, rfl, hBefore, hHome, hDown⟩ := List.filterMap_eq_cons_iff.mp hKeys
  cases e with
  | render w' h' => exact absurd hHome (by simp [Event.key?])
  | press home =>
    -- In front of home there are renders only, and what they do to the offset is forgotten.
    let i' := (i.run before).press home
    have hRun : i.run (before ++ .press home :: after) = i'.run after := run_append i before _
    have hPressed := pressed home (i.run before)
    have hKey : home.key = .home := Option.some.inj hHome
    have hNoKeys : ∀ k ∈ keysOf before, ∀ p, k.turn p = p := by
      rw [keysOf, List.filterMap_eq_nil_iff.mpr hBefore]
      exact List.forall_mem_nil _
    have hFocus : i'.focus = i.focus := by
      rw [hPressed.focus, hKey, focus_run hNoKeys]
      rfl
    have hZero : (i'.offsets.get i.focus).value = 0 := by
      rw [← focus_run hNoKeys i, hPressed.moved, hKey]
      rfl
    have hView : i'.view = i.view := ((keeps_run i before).trans hPressed.keeps).view
    have hLater : RendersOn w h after := fun e he =>
      hes e (List.mem_append_right before (List.mem_cons_of_mem _ he))
    have hSettled := settle_offset_run Offset.addsUp_down Key.scrolls_down hLater hDown i'
      (View.absorbs_down _ _ _)
    rw [hFocus, hView] at hSettled
    show (((i.run _).settle w h).offsets.get i.focus).value = _
    rw [hRun, offset_settle, (keeps_run i' after).view, hView, hSettled,
      value_settle_view hItems hHeight]
    simp only [Offset.down, Offset.ofNat, hZero]
    omega

end Offsets

section Rows

variable {source : String} {i : Inspector} (hText : Keeps (ofText source) i)
include hText

/-- Row `y` of a pane shows item `y` from the offset on. -/
theorem showsLine_render {p : Pane} (hItems : 1 ≤ i.itemCount p) (w h : Nat) {y : Nat}
    (hy : y < (p.area w h).inside.height) :
    (i.render w h).2.ShowsLine p y
      (i.line? (((i.render w h).1.offsets.get p).value + y) p) := by
  let inside := (p.area w h).inside
  intro x hx
  obtain ⟨title, items, hView, hRows⟩ := view_eq_list hText hItems
  obtain ⟨hRight, hBottom⟩ := p.area_within w h
  have hIn : (p.area w h).Covers (inside.left + x) (inside.top + y) := Area.covers_inside hx hy
  let settled := i.settle w h
  have hCell := View.cell?_draw_list hRight (by omega) title p.indent
    (fun k => hRows (inside.dropColumns p.indent) k) (settled.focus = p) (settled.offsets.get p)
    (.blank w h) hx hy
  show (settled.draw (.blank w h)).cell? _ _ = _
  rw [cell?_draw settled _ hIn, drawPane, view_settle, hView]
  refine hCell.trans ?_
  have hOffset : ((i.render w h).1.offsets.get p).value = (settled.offsets.get p).value := rfl
  rw [Pane.cell?_blank hIn, hOffset]
  cases i.line? ((settled.offsets.get p).value + y) p <;> rfl

theorem showsText_render {p : Pane} (hItems : 1 ≤ i.itemCount p) (w h : Nat) {y : Nat}
    (hy : y < (p.area w h).inside.height) :
    (i.render w h).2.ShowsText p y
      (i.rowText? (((i.render w h).1.offsets.get p).value + y) p) := by
  rw [rowText?_eq]
  exact (showsLine_render hText hItems w h hy).showsText

/-- Home and `k` times down, with any renders on the way, bring item `k` into sight. -/
theorem showsText_home_down {p : Pane} (hItems : 1 ≤ i.itemCount p) {w h : Nat}
    (hHeight : 3 ≤ (p.area w h).height) (hFocus : i.focus = p) {k : Nat} (hk : k < i.itemCount p)
    (hSize : k < UInt64.size) {es : List Event} (hes : RendersOn w h es)
    (hKeys : keysOf es = .home :: List.replicate k .down) :
    ((i.run es).render w h).2.ShowsText p
      (k - min k (i.itemCount p - ((p.area w h).height - 2))) (i.rowText? k p) := by
  have hKeeps : Keeps i (i.run es) := keeps_run i es
  have hOffset := value_offset_home_down hItems hHeight hFocus hSize hes hKeys
  have hRow : k - min k (i.itemCount p - ((p.area w h).height - 2)) <
      (p.area w h).inside.height := by
    show _ < (p.area w h).height - 2
    omega
  have hPage := showsText_render (hText.trans hKeeps) (hKeeps.itemCount_eq p ▸ hItems) w h hRow
  rwa [hKeeps.rowText?_eq, hOffset, Nat.add_sub_cancel' (Nat.min_le_left _ _)] at hPage

/-- The cells of a row of the tree: a line character by character, in the style of its level. -/
theorem cellIn?_of_showsLine_tree {w h : Nat} {s : Screen w h} {y k : Nat}
    (hRow : s.ShowsLine .tree y (i.line? k .tree)) {l : OutlineLine}
    (hLine : i.program.outline[k]? = some l) {x : Nat}
    (hx : x < (Pane.tree.area w h).inside.width) :
    s.cellIn? .tree x y =
      some ⟨l.text.toList[x]?.elim " " fun c => String.ofList [c], l.level.style⟩ := by
  have hMem := hText.mem_outline (List.mem_of_getElem? hLine)
  have hCell := hRow x hx
  have hRoom : x < Pane.tree.rowWidth w h := hx
  have hIndent : ¬x < Pane.tree.indent := Nat.not_lt_zero x
  have hColumn : x - Pane.tree.indent = x := Nat.sub_zero x
  have hShown := Row.onto_entry_of_printable (Reading.printable_outline hMem) l.level.style hRoom
  rw [line?, hLine, if_neg hIndent, Option.map_some, Option.elim_some, hColumn] at hCell
  exact hCell.trans (congrArg some hShown)

/-- What the tree and the diagnostics have to show can always be printed. -/
theorem printable_rowText? {p : Pane} (hp : p = .tree ∨ p = .diagnostics) {k : Nat} {text : String}
    (hRow : text ∈ i.rowText? k p) : Printable text := by
  rcases hp with rfl | rfl
  · obtain ⟨l, hLine, rfl⟩ := Option.map_eq_some_iff.mp hRow
    exact Reading.printable_outline (hText.mem_outline (List.mem_of_getElem? hLine))
  · obtain ⟨d, -, rfl⟩ := Option.map_eq_some_iff.mp hRow
    have hMessage : Printable d.message :=
      (((Printable.append (by decide) (.spelling _)).append (by decide)).append
        (.spelling _)).append (by decide)
    exact ((Printable.location _).append (by decide)).append hMessage

end Rows

/-- A pane of a text shows its items page by page. A render moves the offset up to the last full
page if it is further down, and then row `y` shows the text of item `y` from the offset on, or it is
blank behind the last item; each item takes one row. What the tree and the diagnostics show can be
printed, so it is there character by character, and a row of the tree has the style of its level.
And every item comes into sight: home and `k` times down, with any renders on the way, bring item
`k` into the first row, or into the row that it has on the last full page. -/
theorem render_shows_items {source : String} {i : Inspector} (hText : Keeps (ofText source) i)
    {p : Pane} {w h : Nat} (hItems : 1 ≤ i.itemCount p) (hCount : i.itemCount p < UInt64.size)
    (hHeight : 3 ≤ (p.area w h).height) :
    let n := i.itemCount p
    let v := (p.area w h).height - 2
    let shown := i.render w h
    let o := (shown.1.offsets.get p).value
    o = (if v < n then min (i.offsets.get p).value (n - v) else 0) ∧
    (∀ y < v, shown.2.ShowsText p y (i.rowText? (o + y) p)) ∧
    (∀ k, (i.rowText? k p).isSome ↔ k < n) ∧
    (p = .tree ∨ p = .diagnostics → ∀ k, ∀ text ∈ i.rowText? k p, Printable text) ∧
    (p = .tree → i.program.outline.map (·.level) =
        .program :: i.program.bindings.flatMap (fun _ => [.statement, .part, .part]) ∧
      ∀ y < v, ∀ l, i.program.outline[o + y]? = some l →
        l.level.style = styleAtDepth (depth l.text) ∧
        ∀ x < (p.area w h).inside.width, shown.2.cellIn? p x y =
          some ⟨l.text.toList[x]?.elim " " fun c => String.ofList [c], l.level.style⟩) ∧
    (i.focus = p → ∀ k < n, ∀ es, RendersOn w h es →
      keysOf es = .home :: List.replicate k .down →
      ((i.run es).render w h).2.ShowsText p (k - min k (n - v)) (i.rowText? k p)) := by
  intro n v shown o
  refine ⟨?_, fun y hy => showsText_render hText hItems w h hy, isSome_rowText?_iff hItems,
    fun hp k text => printable_rowText? hText hp, fun hTree => ?_, ?_⟩
  · have hOffset : o = min (i.offsets.get p).value (n - v) := by
      show ((i.settle w h).offsets.get p).value = _
      rw [offset_settle, value_settle_view hItems hHeight]
    rw [hOffset]
    split <;> omega
  · refine ⟨i.program.levels_outline, fun y hy l hLine => ⟨?_, fun x hx => ?_⟩⟩
    · exact (Program.styleAtDepth_text (List.mem_of_getElem? hLine)).symm
    · subst hTree
      exact cellIn?_of_showsLine_tree hText (showsLine_render hText hItems w h hy) hLine hx
  · intro hFocus k hk es hes hKeys
    exact showsText_home_down hText hItems hHeight hFocus hk (hk.trans hCount) hes hKeys

/-- The last item of each pane on a small screen, with a render after each key. -/
theorem render_shows_items_last :
    let focusedOn (p : Pane) : Inspector := { ofText "let a = 1;\nlet let" with focus := p }
    let downs (k : Nat) : List Event :=
      (List.replicate k [Event.press ⟨.down, []⟩, .render 40 10]).flatten
    let shown (p : Pane) (k : Nat) : Screen 40 10 :=
      (((focusedOn p).run (.press ⟨.home, []⟩ :: downs k)).render 40 10).2
    (shown .source 1).ShowsText .source 1 (some "!   2 let let") ∧
      (shown .tokens 7).ShowsText .tokens 2 (some "    2:8 EOF     \"\"") ∧
      (shown .tree 3).ShowsText .tree 1 (some "    value: <not parsed>") ∧
      (shown .diagnostics 1).ShowsText .diagnostics 0
        (some "2:8 expected next token to be IDENT, got EOF instead") := by
  intro focusedOn downs shown
  have hRenders (k : Nat) : RendersOn 40 10 (.press ⟨.home, []⟩ :: downs k) := by
    intro e he hKey
    simp only [downs, List.mem_cons, List.mem_flatten, List.mem_replicate] at he
    rcases he with rfl | ⟨_, ⟨-, rfl⟩, he⟩
    · exact nomatch hKey
    · simp only [List.mem_cons, List.not_mem_nil, or_false] at he
      rcases he with rfl | rfl
      · exact nomatch hKey
      · rfl
  have hKeys (k : Nat) : keysOf (downs k) = List.replicate k .down := by
    induction k with
    | zero => rfl
    | succ k ih => exact congrArg (Key.down :: ·) ih
  have hLast {p : Pane} {k : Nat} (hCount : (focusedOn p).itemCount p = k + 1)
      (hSize : k + 1 < UInt64.size) (hHeight : 3 ≤ (p.area 40 10).height) {text : String}
      (hItem : (focusedOn p).rowText? k p = some text) :
      (shown p k).ShowsText p (k - min k (k + 1 - ((p.area 40 10).height - 2))) (some text) := by
    have hText : Keeps (ofText "let a = 1;\nlet let") (focusedOn p) := ⟨rfl, rfl, rfl, rfl, rfl⟩
    obtain ⟨-, -, -, -, -, hReach⟩ :=
      render_shows_items hText (p := p) (by omega) (by omega) hHeight
    have hRow := hReach rfl k (by omega) _ (hRenders k) (congrArg (Key.home :: ·) (hKeys k))
    rwa [hCount, hItem] at hRow
  refine ⟨?_, ?_, ?_, ?_⟩
  · exact hLast (p := .source) (by decide +kernel) (by decide) (by decide) (by decide +kernel)
  · exact hLast (p := .tokens) (by decide +kernel) (by decide) (by decide) (by decide +kernel)
  · exact hLast (p := .tree) (by decide +kernel) (by decide) (by decide) (by decide +kernel)
  · exact hLast (p := .diagnostics) (by decide +kernel) (by decide) (by decide) (by decide +kernel)

end Inspector

end LetLens
