import LetLens.Proofs.Drawing
import LetLens.Proofs.Inspection

/-! The parts of the screen: the four panes and the status bar. Their areas lie apart and make up
the whole screen, whatever its size. Nothing that draws a part reaches out of the area that it is
given, so a part looks the same on the screen of the inspector and on an empty screen of its
own. -/

namespace LetLens

inductive Part
  | pane (p : Pane)
  | statusBar
deriving DecidableEq

/-! ### Areas -/

theorem Pane.exists_iff {P : Pane → Prop} :
    (∃ p, P p) ↔ (P .source ∨ P .diagnostics) ∨ P .tokens ∨ P .tree := by
  constructor
  · rintro ⟨p, hp⟩
    cases p <;> simp [hp]
  · rintro ((hp | hp) | hp | hp) <;> exact ⟨_, hp⟩

/-- The panes share what the status bar leaves. -/
theorem Pane.exists_area_covers_iff (w h x y : Nat) :
    (∃ p : Pane, (p.area w h).Covers x y) ↔ (screenParts w h).1.Covers x y := by
  let panes := (screenParts w h).1
  let columns := panes.splitColumns (.shares 55 45)
  have hColumns : (Split.shares 55 45).Full := rfl
  have hLeft : (Split.shares 70 30).Full := rfl
  have hRight : Split.halves.Full := rfl
  rw [exists_iff, Area.covers_splitColumns hColumns panes, Area.covers_splitRows hLeft columns.1,
    Area.covers_splitRows hRight columns.2]
  rfl

namespace Part

def area (w h : Nat) : Part → Area
  | pane p => p.area w h
  | statusBar => StatusBar.area w h

theorem exists_area_covers_iff (w h x y : Nat) :
    (∃ q : Part, (q.area w h).Covers x y) ↔ x < w ∧ y < h := by
  have hPart : (∃ q : Part, (q.area w h).Covers x y) ↔
      (∃ p : Pane, (p.area w h).Covers x y) ∨ (StatusBar.area w h).Covers x y := by
    constructor
    · rintro ⟨p | _, hIn⟩
      · exact .inl ⟨p, hIn⟩
      · exact .inr hIn
    · rintro (⟨p, hIn⟩ | hIn)
      · exact ⟨pane p, hIn⟩
      · exact ⟨statusBar, hIn⟩
  have hRows : (Split.rest 0 1).Full := trivial
  rw [hPart, Pane.exists_area_covers_iff, StatusBar.area, screenParts,
    ← Area.covers_splitRows hRows]
  simp [Area.Covers]

theorem eq_of_covers {q r : Part} {w h x y : Nat} (hq : (q.area w h).Covers x y)
    (hr : (r.area w h).Covers x y) : q = r := by
  cases q with
  | pane p =>
    cases r with
    | pane p' =>
      refine congrArg pane (Decidable.byContradiction fun hne => ?_)
      exact Pane.disjoint_area hne w h hq hr
    | statusBar => exact absurd hr (Pane.disjoint_statusBar hq)
  | statusBar =>
    cases r with
    | pane p => exact absurd hq (Pane.disjoint_statusBar hr)
    | statusBar => rfl

end Part

/-! ### Drawings -/

namespace Inspector

/-- Draws one part in `a`. A pane settles its offset before. -/
def drawPart {w h : Nat} (i : Inspector) (a : Area) (s : Screen w h) : Part → Screen w h
  | .pane p => (i.view p).draw a (i.focus = p) ((i.view p).settle a (i.offsets.get p)) s
  | .statusBar => StatusBar.draw a i.status i.program.bindings.length i.diagnostics.length s

theorem cell?_drawPanes_of_not_covers {w h x y : Nat} (i : Inspector) (s : Screen w h)
    {ps : List Pane} (hOut : ∀ p ∈ ps, ¬(p.area w h).Covers x y) :
    (ps.foldl i.drawPane s).cell? x y = s.cell? x y := by
  induction ps generalizing s with
  | nil => rfl
  | cons p ps ih =>
    obtain ⟨hFirst, hRest⟩ := List.forall_mem_cons.mp hOut
    rw [List.foldl_cons, ih _ hRest]
    exact (Screen.PaintsIn.view ..).cell?_of_not_covers s hFirst

theorem cell?_draw_statusBar {w h x y : Nat} (i : Inspector) (s : Screen w h)
    (hIn : (StatusBar.area w h).Covers x y) :
    (i.draw s).cell? x y = (i.drawPart (StatusBar.area w h) s .statusBar).cell? x y :=
  (Screen.PaintsIn.statusBar ..).cell?_congr <|
    cell?_drawPanes_of_not_covers i s fun _ _ hPane => Pane.disjoint_statusBar hPane hIn

/-- A part is drawn as if it were alone. -/
theorem cell?_render_eq_drawPart {w h x y : Nat} (i : Inspector) {q : Part}
    (hIn : (q.area w h).Covers x y) :
    (i.render w h).2.cell? x y = (i.drawPart (q.area w h) (.blank w h) q).cell? x y := by
  show ((i.settle w h).draw (.blank w h)).cell? x y = _
  cases q with
  | pane p =>
    rw [cell?_draw _ _ hIn, drawPane, offset_settle, view_settle]
    rfl
  | statusBar =>
    rw [cell?_draw_statusBar _ _ hIn]
    rfl

/-- The parts tile the screen: each of its cells lies in one of their areas and in no other one.
Whatever is shown, a pane and the status bar change no cell outside of the area that they are drawn
in. So each cell of the screen is what the part that it belongs to makes of it alone, on an empty
screen. -/
theorem render_tiles (i : Inspector) (w h : Nat) :
    (∀ x y, (∃ q : Part, (q.area w h).Covers x y) ↔ x < w ∧ y < h) ∧
    (∀ (q r : Part) (x y : Nat), (q.area w h).Covers x y → (r.area w h).Covers x y → q = r) ∧
    (∀ (v : View) (a : Area) (focused : Bool) (o : Offset) (s : Screen w h) (x y : Nat),
      ¬a.Covers x y → (v.draw a focused o s).cell? x y = s.cell? x y) ∧
    (∀ (a : Area) (message : String) (statements diagnostics : Nat) (s : Screen w h) (x y : Nat),
      ¬a.Covers x y →
        (StatusBar.draw a message statements diagnostics s).cell? x y = s.cell? x y) ∧
    ∀ (q : Part) (x y : Nat), (q.area w h).Covers x y →
      (i.render w h).2.cell? x y = (i.drawPart (q.area w h) (.blank w h) q).cell? x y := by
  refine ⟨Part.exists_area_covers_iff w h, fun q r x y => Part.eq_of_covers, ?_, ?_, ?_⟩
  · intro v a focused o s x y hOut
    exact (Screen.PaintsIn.view ..).cell?_of_not_covers s hOut
  · intro a message statements diagnostics s x y hOut
    exact (Screen.PaintsIn.statusBar ..).cell?_of_not_covers s hOut
  · intro q x y hIn
    exact cell?_render_eq_drawPart i hIn

end Inspector

end LetLens
