import LetLens.Proofs.Settling

/-! Drawing in areas. Everything that draws paints in an area: a cell outside of it stays as it is,
and what becomes of a cell inside depends on nothing but that cell. The areas of the panes and of
the status bar lie apart, so a cell of a pane is what this pane makes of it alone. Inside its frame
a panel shows its rows one below the other, and the rows of a list are its items from the offset
on, as long as each item takes one row. -/

namespace LetLens

/-! ### Areas in areas -/

namespace Area

def Within (a b : Area) : Prop := ∀ x y, a.Covers x y → b.Covers x y

theorem inside_within (a : Area) : a.inside.Within a := by
  intro x y
  simp only [Covers, inside]
  omega

theorem covers_inside {a : Area} {x y : Nat} (hx : x < a.inside.width) (hy : y < a.inside.height) :
    a.Covers (a.inside.left + x) (a.inside.top + y) := by
  apply a.inside_within
  simp only [Covers]
  omega

theorem clip_within (width height : Nat) (a : Area) : (a.clip width height).Within a := by
  intro x y
  simp only [Covers, clip]
  omega

theorem splitColumns_within (s : Split) (a : Area) :
    (a.splitColumns s).1.Within a ∧ (a.splitColumns s).2.Within a := by
  have hSizes := s.sizes_le a.width
  simp only [Within, Covers, splitColumns]
  constructor <;> omega

theorem dropColumns_within (n : Nat) (a : Area) : (a.dropColumns n).Within a := by
  intro x y
  simp only [Covers, dropColumns]
  omega

/-- An area that lies on the screen is not clipped. -/
theorem clip_eq {width height : Nat} {a : Area} (hWidth : a.left + a.width ≤ width)
    (hHeight : a.top + a.height ≤ height) : a.clip width height = a := by
  simp only [clip]
  congr <;> omega

end Area

/-! ### Painting in an area -/

namespace Screen

theorem cell?_blank {w h x y : Nat} (hx : x < w) (hy : y < h) :
    (blank w h).cell? x y = some .blank := by
  simp [cell?, blank, hx, hy]

variable {w h : Nat} {a b : Area} {f g : Screen w h → Screen w h}

/-- What `f` makes of a cell depends on that cell and its place, and outside of `a` it is the cell
itself. -/
def PaintsIn (a : Area) (f : Screen w h → Screen w h) : Prop :=
  ∃ brush : Nat → Nat → Cell → Cell, (∀ x y, ¬a.Covers x y → brush x y = id) ∧
    ∀ s x y, (f s).cell? x y = (s.cell? x y).map (brush x y)

namespace PaintsIn

theorem paintIn (a : Area) (brush : Nat → Nat → Cell → Cell) :
    PaintsIn (w := w) (h := h) a fun s => s.paintIn a brush := by
  refine ⟨fun x y c => if a.Covers x y then brush (x - a.left) (y - a.top) c else c, ?_, ?_⟩
  · intro x y hOut
    funext c
    exact if_neg hOut
  · intro s x y
    exact cell?_paintIn a brush s x y

theorem mono (hf : PaintsIn a f) (hWithin : a.Within b) : PaintsIn b f := by
  obtain ⟨brush, hOut, hCell⟩ := hf
  exact ⟨brush, fun x y hb => hOut x y fun ha => hb (hWithin x y ha), hCell⟩

theorem comp (hg : PaintsIn a g) (hf : PaintsIn a f) : PaintsIn a fun s => g (f s) := by
  obtain ⟨brush, hOut, hCell⟩ := hf
  obtain ⟨brush', hOut', hCell'⟩ := hg
  refine ⟨fun x y => brush' x y ∘ brush x y, fun x y ha => ?_, fun s x y => ?_⟩
  · show brush' x y ∘ brush x y = id
    rw [hOut x y ha, hOut' x y ha, Function.comp_id]
  · rw [hCell', hCell, Option.map_map]

theorem cell?_of_not_covers (hf : PaintsIn a f) (s : Screen w h) {x y : Nat}
    (hOut : ¬a.Covers x y) : (f s).cell? x y = s.cell? x y := by
  obtain ⟨brush, hBrush, hCell⟩ := hf
  rw [hCell, hBrush x y hOut, Option.map_id, id]

theorem cell?_congr (hf : PaintsIn a f) {s s' : Screen w h} {x y : Nat}
    (hSame : s.cell? x y = s'.cell? x y) : (f s).cell? x y = (f s').cell? x y := by
  obtain ⟨brush, -, hCell⟩ := hf
  rw [hCell, hCell, hSame]

theorem tint (a : Area) (style : Style) : PaintsIn (w := w) (h := h) a (Screen.tint a style) :=
  paintIn a _

theorem setRows (a : Area) (rows : List Row) :
    PaintsIn (w := w) (h := h) a (Screen.setRows a rows) :=
  paintIn a _

theorem drawFrame (a : Area) (style : Style) :
    PaintsIn (w := w) (h := h) a (Screen.drawFrame a style) :=
  paintIn a _

theorem drawTitle (a : Area) (title : String) :
    PaintsIn (w := w) (h := h) a (Screen.drawTitle a title) := by
  refine (setRows _ _).mono fun x y => ?_
  simp only [Area.Covers]
  omega

theorem drawPanel (a : Area) (frame : Style) (p : Panel) :
    PaintsIn (w := w) (h := h) a (Screen.drawPanel a frame p) := by
  have hSeen := a.clip_within w h
  have hFree : (a.inside.dropColumns p.indent).Within a := fun x y hCovers =>
    a.inside_within x y (a.inside.dropColumns_within p.indent x y hCovers)
  refine ((setRows _ _).mono hFree).comp (((tint _ _).mono a.inside_within).comp ?_)
  exact ((drawTitle _ _).mono hSeen).comp (((drawFrame _ _).mono hSeen).comp (tint _ _))

theorem view (v : View) (a : Area) (focused : Bool) (o : Offset) :
    PaintsIn (w := w) (h := h) a (v.draw a focused o) :=
  drawPanel a _ _

theorem statusBar (a : Area) (message : String) (statements diagnostics : Nat) :
    PaintsIn (w := w) (h := h) a (StatusBar.draw a message statements diagnostics) := by
  obtain ⟨hLeft, hRight⟩ := a.splitColumns_within .halves
  exact ((setRows _ _).mono hRight).comp (((setRows _ _).mono hLeft).comp (tint _ _))

end PaintsIn

end Screen

/-! ### Panes -/

namespace Pane

theorem disjoint_area {p q : Pane} (hne : p ≠ q) (w h : Nat) {x y : Nat}
    (hIn : (p.area w h).Covers x y) : ¬(q.area w h).Covers x y := by
  cases p <;> cases q <;> first | exact absurd rfl hne | skip
  all_goals
    simp only [area, Area.Covers, Area.splitRows, Area.splitColumns] at hIn ⊢
    omega

/-- The panes lie on the screen, above the status bar. -/
theorem area_within (w h : Nat) (p : Pane) :
    (p.area w h).left + (p.area w h).width ≤ w ∧
      (p.area w h).top + (p.area w h).height ≤ h - 1 := by
  obtain ⟨panes, hPanes⟩ : ∃ panes, panes = (screenParts w h).1 := ⟨_, rfl⟩
  have hWidth : panes.left + panes.width = w := by
    rw [hPanes]
    exact Nat.zero_add w
  have hHeight : panes.top + panes.height = h - 1 := by
    simp only [hPanes, screenParts, Area.splitRows, Split.sizes]
    omega
  have hColumns := (Split.shares 55 45).sizes_le panes.width
  have hLeft := (Split.shares 70 30).sizes_le panes.height
  have hRight := Split.halves.sizes_le panes.height
  cases p <;> simp only [area, Area.splitRows, Area.splitColumns, ← hPanes] <;> omega

theorem cell?_blank {p : Pane} {w h x y : Nat} (hIn : (p.area w h).Covers x y) :
    (Screen.blank w h).cell? x y = some .blank := by
  obtain ⟨hRight, hBottom⟩ := p.area_within w h
  simp only [Area.Covers] at hIn
  apply Screen.cell?_blank <;> omega

theorem disjoint_statusBar {p : Pane} {w h x y : Nat} (hIn : (p.area w h).Covers x y) :
    ¬(StatusBar.area w h).Covers x y := by
  have hWithin := (p.area_within w h).2
  simp only [Area.Covers, StatusBar.area, screenParts, Area.splitRows, Split.sizes] at hIn ⊢
  omega

end Pane

namespace Inspector

/-- Panes that are drawn one after the other are each drawn as if alone. -/
theorem cell?_drawPanes {w h : Nat} (i : Inspector) (s : Screen w h) {p : Pane} {x y : Nat}
    (hIn : (p.area w h).Covers x y) {ps : List Pane} (hps : ps.Nodup) :
    (ps.foldl i.drawPane s).cell? x y =
      if p ∈ ps then (i.drawPane s p).cell? x y else s.cell? x y := by
  induction ps generalizing s with
  | nil => rfl
  | cons q ps ih =>
    obtain ⟨hFirst, hRest⟩ := List.nodup_cons.mp hps
    rw [List.foldl_cons, ih _ hRest]
    by_cases hSame : p = q
    · subst hSame
      simp [hFirst]
    · have hKept : (i.drawPane s q).cell? x y = s.cell? x y :=
        (Screen.PaintsIn.view ..).cell?_of_not_covers s (Pane.disjoint_area hSame w h hIn)
      have hDrawn : (i.drawPane (i.drawPane s q) p).cell? x y = (i.drawPane s p).cell? x y :=
        (Screen.PaintsIn.view ..).cell?_congr hKept
      simp [hSame, hKept, hDrawn]

theorem cell?_draw {w h : Nat} (i : Inspector) (s : Screen w h) {p : Pane} {x y : Nat}
    (hIn : (p.area w h).Covers x y) : (i.draw s).cell? x y = (i.drawPane s p).cell? x y := by
  have hBar : (i.draw s).cell? x y = (Pane.all.foldl i.drawPane s).cell? x y :=
    (Screen.PaintsIn.statusBar ..).cell?_of_not_covers _ (Pane.disjoint_statusBar hIn)
  rw [hBar, cell?_drawPanes i s hIn Pane.nodup_all, if_pos p.mem_all]

end Inspector

/-! ### Rows of a panel -/

/-- A frame has a symbol for each cell along the edge of its area and for no other one. -/
theorem frameSymbol_eq_none_iff {width height x y : Nat} :
    frameSymbol width height x y = none ↔
      (0 < x ∧ x + 1 ≠ width) ∧ 0 < y ∧ y + 1 ≠ height := by
  unfold frameSymbol
  repeat' split
  all_goals
    simp only [reduceCtorEq, false_iff, true_iff]
    omega

/-- Inside its frame a panel shows its rows, from the top and behind its indent. -/
theorem Screen.cell?_drawPanel {w h : Nat} {a : Area} (hWidth : a.left + a.width ≤ w)
    (hHeight : a.top + a.height ≤ h) (frame : Style) (p : Panel) (s : Screen w h) {x y : Nat}
    (hx : x < a.inside.width) (hy : y < a.inside.height) :
    let free := a.inside.dropColumns p.indent
    (s.drawPanel a frame p).cell? (a.inside.left + x) (a.inside.top + y) =
      (s.cell? (a.inside.left + x) (a.inside.top + y)).map fun c =>
        if x < p.indent then c.tint p.style
        else
          (p.rows free free)[y]?.elim (c.tint p.style) (·.onto (x - p.indent) (c.tint p.style)) := by
  intro free
  have hInner : a.inside = ⟨a.left + 1, a.top + 1, a.width - 2, a.height - 2⟩ := rfl
  have hFree : free = ⟨a.left + 1 + min p.indent (a.width - 2), a.top + 1, a.width - 2 - p.indent,
    a.height - 2⟩ := rfl
  simp only [hInner] at hx hy
  have hInside : a.inside.Covers (a.inside.left + x) (a.inside.top + y) := by
    simp only [hInner, Area.Covers]
    omega
  have hArea : a.Covers (a.inside.left + x) (a.inside.top + y) := a.inside_within _ _ hInside
  have hIn : free.Covers (a.inside.left + x) (a.inside.top + y) ↔ ¬x < p.indent := by
    simp only [hInner, hFree, Area.Covers]
    omega
  have hTitle : ¬ (Area.mk (a.left + 1) a.top (a.width - 2) (min 1 a.height)).Covers
      (a.inside.left + x) (a.inside.top + y) := by
    simp only [hInner, Area.Covers]
    omega
  have hFrame : frameSymbol a.width a.height (a.inside.left + x - a.left)
      (a.inside.top + y - a.top) = none := by
    simp only [frameSymbol_eq_none_iff, hInner]
    omega
  have hClip : free.clip w h = free := by
    apply Area.clip_eq <;> simp only [hFree] <;> omega
  show ((Screen.tint a.inside p.style _).setRows free (p.rows free (free.clip w h))).cell? _ _ = _
  rw [Area.clip_eq hWidth hHeight, hClip]
  simp only [setRows, drawTitle, drawFrame, tint, cell?_paintIn, hIn, hInside, hArea, hTitle,
    hFrame, if_true, if_false, Option.map_map]
  congr 1
  funext c
  simp only [Function.comp, Cell.tint_tint]
  by_cases hIndent : x < p.indent
  · simp [hIndent]
  · have hColumn : a.inside.left + x - free.left = x - p.indent := by
      simp only [hInner, hFree]
      omega
    have hRow : a.inside.top + y - free.top = y := by
      simp only [hInner, hFree]
      omega
    rw [hColumn, hRow, if_pos hIndent, if_neg hIndent]
    cases (p.rows free free)[y]? <;> rfl

/-! ### Rows of a list -/

/-- Items that take one row each are stacked one below the other, as far as there is room. -/
theorem Item.getElem?_stack {free seen : Area} {items : List Item}
    (hOne : ∀ i ∈ items, (i.rows free seen).length = 1) {height y : Nat} (hy : y < height) :
    (stack free seen height items)[y]? = items[y]?.bind fun i => (i.rows free seen)[0]? := by
  induction items generalizing height y with
  | nil => rfl
  | cons i items ih =>
    obtain ⟨hFirst, hRest⟩ := List.forall_mem_cons.mp hOne
    obtain ⟨r, hRow⟩ := List.length_eq_one_iff.mp hFirst
    simp only [stack, hRow, List.length_singleton]
    rw [if_pos (by omega), List.singleton_append]
    cases y with
    | zero => simp [hRow]
    | succ y => simpa using ih hRest (show y < height - 1 by omega)

/-- The rows of a list, counted from the top, when its items take one row each: these rows, from the
offset on. -/
theorem View.getElem?_rows_list {a free seen : Area} {items : List Item} {row? : Nat → Option Row}
    (hRows : ∀ k, items[k]?.map (Item.rows free seen) = (row? k).map ([·])) (o : Offset) {y : Nat}
    (hy : y < a.inside.height) :
    (Item.stack free seen a.inside.height (o.window a items))[y]? = row? (o.value + y) := by
  have hWindow : (o.window a items)[y]? = items[o.value + y]? := by
    have hVisible : y < visibleRows a := Nat.lt_of_lt_of_le hy (Nat.le_max_left _ _)
    rw [Offset.window, List.getElem?_take_of_lt hVisible, List.getElem?_drop]
  have hShown : ∀ i ∈ o.window a items, (i.rows free seen).length = 1 := by
    intro i hi
    obtain ⟨k, hk⟩ := List.mem_iff_getElem?.mp (List.mem_of_mem_drop (List.mem_of_mem_take hi))
    have hRow := hRows k
    rw [hk, Option.map_some] at hRow
    obtain ⟨r, -, hr⟩ := Option.map_eq_some_iff.mp hRow.symm
    exact hr ▸ rfl
  have hFirst : (items[o.value + y]?.bind fun i => (i.rows free seen)[0]?) =
      (items[o.value + y]?.map (Item.rows free seen)).bind (·[0]?) := by
    rw [Option.bind_map]
    rfl
  rw [Item.getElem?_stack hShown hy, hWindow, hFirst, hRows]
  cases row? (o.value + y) <;> rfl

/-- A list whose items take one row each, in the area that is left for them, shows these rows from
its offset on. -/
theorem View.cell?_draw_list {w h : Nat} {a : Area} (hWidth : a.left + a.width ≤ w)
    (hHeight : a.top + a.height ≤ h) (title : String) (indent : Nat) {items : List Item}
    {row? : Nat → Option Row}
    (hRows : let free := a.inside.dropColumns indent
      ∀ k, items[k]?.map (·.rows free free) = (row? k).map ([·]))
    (focused : Bool) (o : Offset) (s : Screen w h) {x y : Nat} (hx : x < a.inside.width)
    (hy : y < a.inside.height) :
    ((list title indent items).draw a focused o s).cell? (a.inside.left + x) (a.inside.top + y) =
      (s.cell? (a.inside.left + x) (a.inside.top + y)).map fun c =>
        if x < indent then c else (row? (o.value + y)).elim c (·.onto (x - indent) c) := by
  let free := a.inside.dropColumns indent
  have hRow : (((list title indent items).panel a o).rows free free)[y]? = row? (o.value + y) :=
    getElem?_rows_list hRows o hy
  have hPanel := Screen.cell?_drawPanel hWidth hHeight (frameStyle focused)
    ((list title indent items).panel a o) s hx hy
  simp only [panel, Cell.tint_plain] at hPanel hRow
  exact hRow ▸ hPanel

end LetLens
