import LetLens.Proofs.Prose
import LetLens.Proofs.Tiling
import Mathlib.Tactic.ByContra

/-! The focus on the screen. Two inspectors that differ in their focus alone draw the same symbols,
since nothing that is drawn takes its symbols from a style. Their styles differ in the frames of the
two panes and nowhere else: what a panel shows inside its frame does not depend on the style of the
frame, all along the frame this style shows, and each part is drawn as if alone. -/

namespace LetLens

/-- The cells along the edge of an area; an area of at most two rows or columns has no others. -/
def Area.OnEdge (a : Area) (x y : Nat) : Prop := a.Covers x y ∧ ¬a.inside.Covers x y

/-! ### Symbols -/

theorem Slot.symbol_onto (slot : Slot) {c d : Cell} (h : c.symbol = d.symbol) :
    (slot.onto c).symbol = (slot.onto d).symbol := by
  cases slot with
  | symbol => rfl
  | cell => rfl
  | keep => exact h

namespace Screen

variable {w h : Nat} {s s' : Screen w h}

/-- Screens with the same symbols, whatever their styles. -/
def SameSymbols (s s' : Screen w h) : Prop :=
  ∀ x y, (s.cell? x y).map (·.symbol) = (s'.cell? x y).map (·.symbol)

namespace SameSymbols

theorem paintIn (hSame : SameSymbols s s') (a : Area) {f g : Nat → Nat → Cell → Cell}
    (hBrush : ∀ x y c d, c.symbol = d.symbol → (f x y c).symbol = (g x y d).symbol) :
    SameSymbols (s.paintIn a f) (s'.paintIn a g) := by
  intro x y
  have hCell := hSame x y
  rw [cell?_paintIn, cell?_paintIn]
  cases hFirst : s.cell? x y with
  | none =>
    cases hSecond : s'.cell? x y with
    | none => rfl
    | some d => simp [hFirst, hSecond] at hCell
  | some c =>
    cases hSecond : s'.cell? x y with
    | none => simp [hFirst, hSecond] at hCell
    | some d =>
      have hSymbol : c.symbol = d.symbol := by simpa [hFirst, hSecond] using hCell
      simp only [Option.map_some, Option.some.injEq]
      split
      · exact hBrush _ _ c d hSymbol
      · exact hSymbol

theorem tint (hSame : SameSymbols s s') (a : Area) (style style' : Style) :
    SameSymbols (s.tint a style) (s'.tint a style') :=
  hSame.paintIn a fun _ _ _ _ hSymbol => hSymbol

theorem drawFrame (hSame : SameSymbols s s') (a : Area) (style style' : Style) :
    SameSymbols (s.drawFrame a style) (s'.drawFrame a style') := by
  refine hSame.paintIn a fun x y c d hSymbol => ?_
  cases frameSymbol a.width a.height x y with
  | none => exact hSymbol
  | some symbol => rfl

theorem setRows (hSame : SameSymbols s s') (a : Area) (rows : List Row) :
    SameSymbols (s.setRows a rows) (s'.setRows a rows) := by
  refine hSame.paintIn a fun x y c d hSymbol => ?_
  cases rows[y]? with
  | none => exact hSymbol
  | some r => exact Slot.symbol_onto _ hSymbol

/-- The frame of a panel has the same symbols in every style. -/
theorem drawPanel (hSame : SameSymbols s s') (a : Area) (frame frame' : Style) (p : Panel) :
    SameSymbols (s.drawPanel a frame p) (s'.drawPanel a frame' p) := by
  have hFrame := (hSame.tint a p.style p.style).drawFrame (a.clip w h) frame frame'
  have hTitle : SameSymbols _ _ := hFrame.setRows
    ⟨a.left + 1, a.top, (a.clip w h).width - 2, min 1 (a.clip w h).height⟩
    [Row.prose ((a.clip w h).width - 2) [⟨p.title, .plain⟩]]
  exact (hTitle.tint a.inside p.style p.style).setRows _ _

end SameSymbols

theorem cell?_eq_none {x y : Nat} (hOut : ¬(x < w ∧ y < h)) : s.cell? x y = none := by
  rw [cell?]
  by_cases hy : y < h
  · have hx : w ≤ x := by omega
    simp [hy, hx]
  · simp [Vector.getElem?_eq_none (Nat.le_of_not_lt hy)]

end Screen

/-! ### Panes -/

/-- Inside its frame a view looks the same with the focus and without it. -/
theorem View.cell?_draw_inside {w h : Nat} {a : Area} (hWidth : a.left + a.width ≤ w)
    (hHeight : a.top + a.height ≤ h) (v : View) (focused focused' : Bool) (o : Offset)
    (s : Screen w h) {x y : Nat} (hIn : a.inside.Covers x y) :
    (v.draw a focused o s).cell? x y = (v.draw a focused' o s).cell? x y := by
  obtain ⟨⟨hLeft, hRight⟩, hTop, hBottom⟩ := hIn
  obtain ⟨x', rfl⟩ := Nat.exists_eq_add_of_le hLeft
  obtain ⟨y', rfl⟩ := Nat.exists_eq_add_of_le hTop
  rw [draw, draw, Screen.cell?_drawPanel hWidth hHeight _ _ _ (by omega) (by omega),
    Screen.cell?_drawPanel hWidth hHeight _ _ _ (by omega) (by omega)]

/-- All along the edge of a panel there is the style of its frame, under the title as well. -/
theorem Screen.style_drawPanel_onEdge {w h : Nat} {a : Area} (hWidth : a.left + a.width ≤ w)
    (hHeight : a.top + a.height ≤ h) (frame : Style) (p : Panel) (s : Screen w h) {x y : Nat}
    (hEdge : a.OnEdge x y) :
    ((s.drawPanel a frame p).cell? x y).map (·.style) =
      (s.cell? x y).map fun c => frame.onto (p.style.onto c.style) := by
  obtain ⟨hIn, hOut⟩ := hEdge
  have hFree : ¬(a.inside.dropColumns p.indent).Covers x y := fun hCovers =>
    hOut (a.inside.dropColumns_within p.indent x y hCovers)
  obtain ⟨symbol, hSymbol⟩ : ∃ symbol,
      frameSymbol a.width a.height (x - a.left) (y - a.top) = some symbol := by
    rw [← Option.ne_none_iff_exists', ne_eq, frameSymbol_eq_none_iff]
    simp only [Area.Covers, Area.inside] at hIn hOut
    omega
  let framed := ((s.tint a p.style).drawFrame a frame).drawTitle a p.title
  have hFramed : (framed.cell? x y).map (·.style) =
      (s.cell? x y).map fun c => frame.onto (p.style.onto c.style) := by
    simp only [framed, drawTitle, setRows, drawFrame, tint, cell?_paintIn, hIn, hSymbol,
      Option.map_map]
    refine Option.map_congr fun c _ => ?_
    simp only [Function.comp, if_true]
    split
    · cases y - a.top with
      | zero => exact Row.style_onto_prose_plain ..
      | succ y => rfl
    · rfl
  rw [← hFramed, drawPanel, Area.clip_eq hWidth hHeight]
  refine congrArg _ ?_
  rw [(PaintsIn.setRows _ _).cell?_of_not_covers _ hFree,
    (PaintsIn.tint _ _).cell?_of_not_covers _ hOut]

namespace Inspector

variable (i : Inspector) (p q : Pane) (w h : Nat)

/-- What is shown with the focus on `p`. -/
def focusedOn (p : Pane) : Inspector := { i with focus := p }

/-- The symbols of the panes and of the status bar are those with another focus. -/
theorem sameSymbols_render :
    ((i.focusedOn p).render w h).2.SameSymbols ((i.focusedOn q).render w h).2 := by
  have hPane {s s' : Screen w h} (hSame : s.SameSymbols s') (r : Pane) :
      (((i.focusedOn p).settle w h).drawPane s r).SameSymbols
        (((i.focusedOn q).settle w h).drawPane s' r) :=
    hSame.drawPanel _ _ _ _
  have hPanes := hPane (hPane (hPane (hPane (fun _ _ => rfl : Screen.SameSymbols (.blank w h) _)
    .source) .diagnostics) .tokens) .tree
  exact ((hPanes.tint _ _ _).setRows _ _).setRows _ _

variable {p q w h}

/-- A cell is the same with the focus on `p` and on `q`, except in the frame of one of the two. -/
theorem cell?_render_focusedOn {part : Part} {x y : Nat} (hIn : (part.area w h).Covers x y)
    (hApart : ∀ r, part = .pane r → (r.area w h).inside.Covers x y ∨ r ≠ p ∧ r ≠ q) :
    ((i.focusedOn p).render w h).2.cell? x y = ((i.focusedOn q).render w h).2.cell? x y := by
  rw [cell?_render_eq_drawPart _ hIn, cell?_render_eq_drawPart _ hIn]
  cases part with
  | statusBar => rfl
  | pane r =>
    have hView : (i.focusedOn p).view r = (i.focusedOn q).view r := rfl
    rw [drawPart, drawPart, hView]
    rcases hApart r rfl with hInside | ⟨hp, hq⟩
    · obtain ⟨hWidth, hHeight⟩ := r.area_within w h
      exact View.cell?_draw_inside hWidth (by omega) _ _ _ _ _ hInside
    · have hOff : decide (p = r) = decide (q = r) := by simp [Ne.symm hp, Ne.symm hq]
      show ((View.draw _ _ (decide (p = r)) _ _).cell? x y) = _
      rw [hOff]
      rfl

/-- A cell that differs stands in the frame of the pane that had the focus, or of the one that has
it now. -/
theorem onEdge_of_cell?_ne {x y : Nat}
    (hDiffers : ((i.focusedOn p).render w h).2.cell? x y ≠
      ((i.focusedOn q).render w h).2.cell? x y) :
    (p.area w h).OnEdge x y ∨ (q.area w h).OnEdge x y := by
  have hOn : x < w ∧ y < h := by
    by_contra hOut
    exact hDiffers (by rw [Screen.cell?_eq_none hOut, Screen.cell?_eq_none hOut])
  obtain ⟨part, hIn⟩ := (Part.exists_area_covers_iff w h x y).mpr hOn
  by_contra hEdge
  refine hDiffers (i.cell?_render_focusedOn hIn fun r hr => ?_)
  subst hr
  by_cases hInside : (r.area w h).inside.Covers x y
  · exact .inl hInside
  · refine .inr ⟨?_, ?_⟩
    · rintro rfl
      exact hEdge (.inl ⟨hIn, hInside⟩)
    · rintro rfl
      exact hEdge (.inr ⟨hIn, hInside⟩)

/-- The focus shows in the style of the frames and nowhere else. Whatever pane has it, rendering
leads to the same offsets and draws the same symbols. A cell that differs stands in the frame of one
of the two panes that had the focus, and none in the status bar or inside the frame of a pane
does. -/
theorem render_focusedOn (i : Inspector) (p q : Pane) (w h : Nat) :
    let onP := (i.focusedOn p).render w h
    let onQ := (i.focusedOn q).render w h
    onP.1 = onQ.1.focusedOn p ∧
    onP.2.SameSymbols onQ.2 ∧
    (∀ x y, onP.2.cell? x y ≠ onQ.2.cell? x y →
      (p.area w h).OnEdge x y ∨ (q.area w h).OnEdge x y) ∧
    (∀ x y, (StatusBar.area w h).Covers x y → onP.2.cell? x y = onQ.2.cell? x y) ∧
    ∀ (r : Pane) (x y : Nat), (r.area w h).inside.Covers x y →
      onP.2.cell? x y = onQ.2.cell? x y := by
  intro onP onQ
  refine ⟨rfl, i.sameSymbols_render p q w h, fun x y => i.onEdge_of_cell?_ne, fun x y hBar => ?_,
    fun r x y hInside => ?_⟩
  · have hIn : (Part.statusBar.area w h).Covers x y := hBar
    exact i.cell?_render_focusedOn hIn fun r hr => nomatch hr
  · have hIn : ((Part.pane r).area w h).Covers x y := Area.inside_within _ x y hInside
    refine i.cell?_render_focusedOn hIn ?_
    rintro _ ⟨⟩
    exact .inl hInside

/-- The colour of a cell in the frame of pane `r` tells whether this pane has the focus. -/
theorem foreground_render_onEdge (i : Inspector) {r : Pane} {w h x y : Nat}
    (hEdge : (r.area w h).OnEdge x y) :
    ((i.render w h).2.cell? x y).map (·.style.foreground) =
      some (some (if i.focus = r then Palette.focusedFrame else Palette.frame)) := by
  obtain ⟨hWidth, hHeight⟩ := r.area_within w h
  have hIn : ((Part.pane r).area w h).Covers x y := hEdge.1
  let focused : Bool := i.focus = r
  have hStyle := Screen.style_drawPanel_onEdge hWidth (by omega) (View.frameStyle focused)
    ((i.view r).panel (r.area w h) ((i.view r).settle (r.area w h) (i.offsets.get r)))
    (.blank w h) hEdge
  have hFrame : (View.frameStyle focused).foreground =
      some (if i.focus = r then Palette.focusedFrame else Palette.frame) := by
    by_cases hFocus : i.focus = r <;> simp [focused, hFocus, View.frameStyle, Style.text]
  have hColor := congrArg (Option.map (·.foreground)) hStyle
  rw [Pane.cell?_blank hEdge.1, Option.map_map, Option.map_some, Option.map_some] at hColor
  rw [cell?_render_eq_drawPart i hIn]
  refine hColor.trans ?_
  rw [Style.onto, hFrame, Option.some_or]

/-- With the focus on another pane both frames look different, all along. -/
theorem cell?_render_focusedOn_ne_iff (i : Inspector) {p q : Pane} (hne : p ≠ q) (w h x y : Nat) :
    ((i.focusedOn p).render w h).2.cell? x y ≠ ((i.focusedOn q).render w h).2.cell? x y ↔
      (p.area w h).OnEdge x y ∨ (q.area w h).OnEdge x y := by
  refine ⟨i.onEdge_of_cell?_ne, fun hEdge hSame => ?_⟩
  have hColors : Palette.focusedFrame ≠ Palette.frame := by decide
  rcases hEdge with hEdge | hEdge
  · have hOn := (i.focusedOn p).foreground_render_onEdge hEdge
    rw [hSame, (i.focusedOn q).foreground_render_onEdge hEdge] at hOn
    simp [focusedOn, hne.symm, hColors.symm] at hOn
  · have hOff := (i.focusedOn p).foreground_render_onEdge hEdge
    rw [hSame, (i.focusedOn q).foreground_render_onEdge hEdge] at hOff
    simp [focusedOn, hne, hColors] at hOff

end Inspector

end LetLens
