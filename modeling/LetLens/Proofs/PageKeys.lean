import LetLens.Proofs.Polling
import LetLens.Proofs.Scrolling

/-! The page keys. A page is ten items, so a page key takes the focused pane as far as ten presses
of the arrow key that goes the same way. The ten stop at either end of the offsets and at the last
page at other moments than the one, and any of them may be shown before the next; yet once the pane
is shown after them, the two have come to the same state and the same screen. -/

namespace LetLens.Inspector

theorem Keeps.symm {i j : Inspector} (h : Keeps i j) : Keeps j i :=
  ⟨h.source.symm, h.tokens.symm, h.program.symm, h.diagnostics.symm, h.status.symm⟩

/-- A key that scrolls leaves the panes without the focus to the renders. -/
theorem settle_offset_run_of_ne {w h : Nat} {es : List Event} (hes : RendersOn w h es)
    (hTurn : ∀ k ∈ keysOf es, ∀ p, k.turn p = p) {i : Inspector} {p : Pane} (hp : p ≠ i.focus) :
    (i.view p).settle (p.area w h) ((i.run es).offsets.get p) =
      (i.view p).settle (p.area w h) (i.offsets.get p) := by
  induction es generalizing i with
  | nil => rfl
  | cons e es ih =>
    obtain ⟨hFirst, hLater⟩ := List.forall_mem_cons.mp hes
    rw [run_cons]
    cases e with
    | press k =>
      rw [keysOf_press, List.forall_mem_cons] at hTurn
      have hPressed := pressed k i
      have hFocus : (i.press k).focus = i.focus := hPressed.focus.trans (hTurn.1 _)
      have hRest := ih hLater hTurn.2 (i := i.press k) (by rwa [hFocus])
      rwa [hPressed.keeps.view, hPressed.others p hp] at hRest
    | render w' h' =>
      obtain ⟨rfl, rfl⟩ := Event.render.inj (hFirst rfl)
      have hRest := ih hLater hTurn (i := i.settle w' h') hp
      rwa [view_settle, offset_settle, View.settle_settle] at hRest

theorem quit_run_of_scrolls {es : List Event} (h : ∀ k ∈ keysOf es, ¬k.Quits) (i : Inspector) :
    (i.run es).quit = i.quit := by
  rw [Bool.eq_iff_iff, quit_run]
  exact or_iff_left fun ⟨k, hk, hQuits⟩ => h k hk hQuits

/-- A number of presses of a key, with any renders between them, and one press of a key that moves
as far at once. -/
theorem settle_run_eq {k page : Key} {move : Nat → Offset → Offset} (hMove : Offset.AddsUp move)
    (hk : k.Scrolls (move 1)) {n : Nat} (hPage : page.Scrolls (move n)) {w h : Nat}
    {es : List Event} (hes : RendersOn w h es) (hKeys : keysOf es = List.replicate n k)
    {i : Inspector} (hAbsorbs : Offset.Absorbs ((i.view i.focus).settle (i.focus.area w h)) move
      (i.offsets.get i.focus)) (modifiers : List Modifier) :
    (i.run es).settle w h = (i.press ⟨page, modifiers⟩).settle w h := by
  have hRun : Keeps i (i.run es) := keeps_run i es
  have hPressed := pressed ⟨page, modifiers⟩ i
  have hOnly : ∀ l ∈ keysOf es, l = k := by
    rw [hKeys]
    exact fun l hl => List.eq_of_mem_replicate hl
  have hTurn : ∀ l ∈ keysOf es, ∀ p, l.turn p = p := fun l hl => hOnly l hl ▸ hk.turn
  have hQuits : ∀ l ∈ keysOf es, ¬l.Quits := fun l hl => hOnly l hl ▸ hk.quits
  have hShown (j : Inspector) : Rendered j (j.settle w h) := rendered w h j
  have hKeeps : Keeps ((i.press ⟨page, modifiers⟩).settle w h) ((i.run es).settle w h) :=
    (hPressed.keeps.trans (hShown _).keeps).symm.trans (hRun.trans (hShown _).keeps)
  apply hKeeps.eq_of_get
  · rw [(hShown _).focus, (hShown _).focus, focus_run hTurn, hPressed.focus, hPage.turn]
  · rw [(hShown _).quit, (hShown _).quit, quit_run_of_scrolls hQuits, hPressed.quit]
    simp [hPage.quits]
  · intro p
    rw [offset_settle, offset_settle, hRun.view, hPressed.keeps.view]
    by_cases hp : p = i.focus
    · subst hp
      rw [settle_offset_run hMove hk hes hKeys i hAbsorbs, offset_press hPage]
    · rw [settle_offset_run_of_ne hes hTurn hp, hPressed.others p hp]

/-- A page is ten items. When the inspector has just been shown, ten times down and one page down
come to the same state and the same screen once it is shown again, on a screen of the same size and
with any renders on it between the ten presses. So do ten times up and one page up. -/
theorem render_run_page (i : Inspector) {w h : Nat} {es : List Event} (hes : RendersOn w h es)
    (modifiers : List Modifier) :
    let shown := (i.render w h).1
    (keysOf es = List.replicate 10 .down →
      (shown.run es).render w h = (shown.press ⟨.pageDown, modifiers⟩).render w h) ∧
    (keysOf es = List.replicate 10 .up →
      (shown.run es).render w h = (shown.press ⟨.pageUp, modifiers⟩).render w h) := by
  intro shown
  have hSettled (p : Pane) :
      (shown.view p).settle (p.area w h) (shown.offsets.get p) = shown.offsets.get p := by
    rw [show shown = i.settle w h from rfl, view_settle, offset_settle, View.settle_settle]
  constructor
  · intro hKeys
    have hSame := settle_run_eq Offset.addsUp_down Key.scrolls_down Key.scrolls_pageDown hes hKeys
      (View.absorbs_down (shown.view shown.focus) _ _) modifiers
    rw [render, render, hSame]
  · intro hKeys
    have hSame := settle_run_eq Offset.addsUp_up Key.scrolls_up Key.scrolls_pageUp hes hKeys
      (View.absorbs_up (hSettled shown.focus)) modifiers
    rw [render, render, hSame]

/-- A page from the end of the offsets, in a pane with nothing to list, where a render does not
bring the offset back. -/
theorem render_run_page_at_limit :
    let i : Inspector :=
      { ofText "let\n" with focus := .tree, offsets := { tree := .ofNat UInt64.size } }
    let presses (k : Key) : List Event :=
      .press ⟨k, []⟩ :: .render 40 10 :: List.replicate 9 (.press ⟨k, [.shift]⟩)
    let shown := (i.render 40 10).1
    RendersOn 40 10 (presses .down) ∧ keysOf (presses .down) = List.replicate 10 .down ∧
      RendersOn 40 10 (presses .up) ∧ keysOf (presses .up) = List.replicate 10 .up ∧
      (shown.run (presses .down)).render 40 10 =
        (shown.press ⟨.pageDown, [.control]⟩).render 40 10 ∧
      (shown.run (presses .up)).render 40 10 = (shown.press ⟨.pageUp, [.control]⟩).render 40 10 := by
  intro i presses shown
  have hRenders (k : Key) : RendersOn 40 10 (presses k) := by
    simp [RendersOn, presses, Event.key?]
  have hKeys (k : Key) : keysOf (presses k) = List.replicate 10 k := rfl
  exact ⟨hRenders _, hKeys _, hRenders _, hKeys _,
    (render_run_page i (hRenders .down) [.control]).1 (hKeys _),
    (render_run_page i (hRenders .up) [.control]).2 (hKeys _)⟩

end LetLens.Inspector
