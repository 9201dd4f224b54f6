import LetLens.Inspector.Keys
import LetLens.Inspector.Render

/-! Where showing an inspector leaves its offsets. Each pane settles its own offset and no other
one, on what it has to show. A list brings the offset to where its last page is full. A remark
stands where there is nothing to list, and it leaves the offset alone. -/

namespace LetLens

namespace Pane

theorem mem_all (p : Pane) : p ∈ all := by
  cases p <;> decide

theorem nodup_all : all.Nodup := by
  decide

end Pane

theorem View.value_settle_le (v : View) (a : Area) (o : Offset) :
    (v.settle a o).value ≤ o.value := by
  cases v with
  | list title indent items => exact Nat.min_le_left _ _
  | remark title style text => exact Nat.le_refl _

namespace Inspector

/-! ### Every pane by itself -/

@[simp] theorem view_settlePane (w h : Nat) (i : Inspector) (p : Pane) :
    (i.settlePane w h p).view = i.view := by
  funext q
  cases q <;> rfl

theorem offset_settlePane (w h : Nat) (i : Inspector) (p q : Pane) :
    (i.settlePane w h p).offsets.get q =
      if q = p then (i.view q).settle (q.area w h) (i.offsets.get q) else i.offsets.get q := by
  rw [settlePane, Offsets.get_set]
  split
  · next hSame => rw [hSame]
  · rfl

/-- Nothing but offsets changes when panes are settled. -/
theorem exists_settlePanes_eq (w h : Nat) (i : Inspector) (ps : List Pane) :
    ∃ offsets, ps.foldl (settlePane w h) i = { i with offsets := offsets } := by
  induction ps generalizing i with
  | nil => exact ⟨i.offsets, rfl⟩
  | cons p ps ih => exact ih (i.settlePane w h p)

theorem exists_settle_eq (w h : Nat) (i : Inspector) :
    ∃ offsets, i.settle w h = { i with offsets := offsets } :=
  exists_settlePanes_eq w h i Pane.all

/-- Panes that are settled one after the other are each settled as if alone. -/
theorem offset_settlePanes (w h : Nat) (i : Inspector) (p : Pane) {ps : List Pane}
    (hps : ps.Nodup) :
    (ps.foldl (settlePane w h) i).offsets.get p =
      if p ∈ ps then (i.view p).settle (p.area w h) (i.offsets.get p) else i.offsets.get p := by
  induction ps generalizing i with
  | nil => simp
  | cons q ps ih =>
    obtain ⟨hFirst, hRest⟩ := List.nodup_cons.mp hps
    rw [List.foldl_cons, ih _ hRest, view_settlePane, offset_settlePane]
    by_cases hSame : p = q
    · subst hSame
      simp [hFirst]
    · simp [hSame]

theorem offset_settle (w h : Nat) (i : Inspector) (p : Pane) :
    (i.settle w h).offsets.get p = (i.view p).settle (p.area w h) (i.offsets.get p) := by
  rw [settle, offset_settlePanes w h i p Pane.nodup_all, if_pos p.mem_all]

@[simp] theorem view_settle (w h : Nat) (i : Inspector) : (i.settle w h).view = i.view := by
  obtain ⟨offsets, hSettled⟩ := exists_settle_eq w h i
  rw [hSettled]
  funext p
  cases p <;> rfl

/-! ### On what a pane has to show -/

/-- The number of items that a pane has to show. -/
def itemCount (i : Inspector) : Pane → Nat
  | .source => (linesOf i.source).length
  | .tokens => i.tokens.length
  | .tree => if i.program.bindings.isEmpty then 0 else i.program.outline.length
  | .diagnostics => i.diagnostics.length

/-- A view settles an offset by the number of its items, unless there is only a remark to show. -/
theorem settle_view (i : Inspector) (p : Pane) (a : Area) (o : Offset) :
    (i.view p).settle a o =
      if (p = .tree ∨ p = .diagnostics) ∧ i.itemCount p = 0 then o
      else o.settle (i.itemCount p) a := by
  cases p with
  | source => simp [view, sourceView, View.settle, itemCount]
  | tokens => simp [view, tokensView, View.settle, itemCount]
  | tree =>
    by_cases hEmpty : i.program.bindings.isEmpty
    · simp [view, treeView, View.settle, itemCount, hEmpty]
    · simp [view, treeView, View.settle, itemCount, hEmpty, Program.outline]
  | diagnostics =>
    by_cases hEmpty : i.diagnostics.isEmpty
    · simp_all [view, diagnosticsView, View.settle, itemCount]
    · simp_all [view, diagnosticsView, View.settle, itemCount]

/-- Showing an inspector brings every offset to the last full page at most, except that a pane which
has only a remark to show keeps its offset. -/
theorem value_offset_render (i : Inspector) (w h : Nat) (p : Pane) :
    ((i.render w h).1.offsets.get p).value =
      if (p = .tree ∨ p = .diagnostics) ∧ i.itemCount p = 0 then (i.offsets.get p).value
      else min (i.offsets.get p).value (i.itemCount p - max ((p.area w h).height - 2) 1) := by
  show ((i.settle w h).offsets.get p).value = _
  rw [offset_settle, settle_view]
  split
  · rfl
  · rfl

/-- A page down among the diagnostics of a text that has none: the offset stays behind the end. -/
theorem offset_behind_remark :
    let i := ((ofText "").press ⟨.tab, []⟩).press ⟨.pageDown, []⟩
    ¬((i.render 20 10).1.offsets.get .diagnostics).value ≤
      i.itemCount .diagnostics - max ((Pane.diagnostics.area 20 10).height - 2) 1 := by
  decide +kernel

end Inspector

end LetLens
