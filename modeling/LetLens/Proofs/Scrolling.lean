import LetLens.Proofs.Inspection

/-! Scrolling with renders on the way. A key that scrolls moves the offset of the focused pane, and
a render settles it. `Absorbs` says of moves in one direction that they end on the same page whether
or not the offset settles between them. So it is down from anywhere, because an offset that was
brought back to the last full page is moved back behind it; and it is up from a settled offset,
which stays settled. From this, renders between presses of a key make no difference to where the
pane settles at last. -/

namespace LetLens

namespace Offset

/-- A way to move offsets by a number of items, where moves add up. -/
structure AddsUp (move : Nat → Offset → Offset) : Prop where
  none : ∀ o, move 0 o = o
  again : ∀ m n o, move n (move m o) = move (m + n) o

theorem addsUp_down : AddsUp down where
  none := by
    intro o
    have hBound := o.value_lt
    ext
    simp only [down, ofNat]
    omega
  again := by
    intro m n o
    ext
    simp only [down, ofNat]
    omega

theorem addsUp_up : AddsUp up where
  none := fun _ => rfl
  again := by
    intro m n o
    ext
    simp only [up]
    omega

theorem settle_down_settle (total n : Nat) (a : Area) (o : Offset) :
    ((o.settle total a).down n).settle total a = (o.down n).settle total a := by
  have hBound := o.value_lt
  ext
  simp only [settle, atMost, down, ofNat]
  omega

theorem settle_up {total : Nat} {a : Area} {o : Offset} (h : o.settle total a = o) (n : Nat) :
    (o.up n).settle total a = o.up n := by
  have hValue : min o.value (total - visibleRows a) = o.value := congrArg value h
  ext
  simp only [settle, atMost, up]
  omega

/-- An offset that is moved twice from `o` on settles at the same place whether or not it settles
after the first move. -/
def Absorbs (settle : Offset → Offset) (move : Nat → Offset → Offset) (o : Offset) : Prop :=
  ∀ m n, settle (move n (settle (move m o))) = settle (move (m + n) o)

namespace Absorbs

variable {settle : Offset → Offset} {move : Nat → Offset → Offset} (hMove : AddsUp move)
  {o : Offset} (h : Absorbs settle move o)
include hMove h

theorem moved : Absorbs settle move (move 1 o) := by
  intro m n
  rw [hMove.again, hMove.again, h, Nat.add_assoc]

theorem settle_move (n : Nat) : settle (move n (settle o)) = settle (move n o) := by
  have hFirst := h 0 n
  rwa [hMove.none, Nat.zero_add] at hFirst

theorem settled : Absorbs settle move (settle o) := by
  intro m n
  rw [h.settle_move hMove, h.settle_move hMove, h]

end Absorbs

end Offset

theorem View.absorbs_down (v : View) (a : Area) (o : Offset) :
    Offset.Absorbs (v.settle a) .down o := by
  intro m n
  rw [← Offset.addsUp_down.again]
  cases v with
  | list title indent items => exact (o.down m).settle_down_settle items.length n a
  | remark title style text => rfl

theorem View.absorbs_up {v : View} {a : Area} {o : Offset} (h : v.settle a o = o) :
    Offset.Absorbs (v.settle a) .up o := by
  have hSettled (m : Nat) : v.settle a (o.up m) = o.up m := by
    cases v with
    | list title indent items => exact Offset.settle_up h m
    | remark title style text => rfl
  intro m n
  show v.settle a ((v.settle a (o.up m)).up n) = v.settle a (o.up (m + n))
  rw [hSettled, Offset.addsUp_up.again]

/-! ### Keys that scroll -/

/-- A key that moves the offset of the focused pane by `move` and does nothing else. -/
structure Key.Scrolls (k : Key) (move : Offset → Offset) : Prop where
  turn : ∀ p, k.turn p = p
  quits : ¬k.Quits
  moves : ∀ o : Offset, (move o).value = k.move o.value

theorem Key.scrolls_down : Key.down.Scrolls (.down 1) :=
  ⟨fun _ => rfl, by decide, fun _ => rfl⟩

theorem Key.scrolls_up : Key.up.Scrolls (.up 1) :=
  ⟨fun _ => rfl, by decide, fun _ => rfl⟩

theorem Key.scrolls_pageDown : Key.pageDown.Scrolls (.down pageSize) :=
  ⟨fun _ => rfl, by decide, fun _ => rfl⟩

theorem Key.scrolls_pageUp : Key.pageUp.Scrolls (.up pageSize) :=
  ⟨fun _ => rfl, by decide, fun _ => rfl⟩

/-! ### Runs on one screen -/

/-- Every render among `es` is on a screen of that size. -/
def RendersOn (w h : Nat) (es : List Event) : Prop := ∀ e ∈ es, e.key? = none → e = .render w h

namespace Inspector

theorem Keeps.view {i j : Inspector} (h : Keeps i j) : j.view = i.view := by
  funext p
  cases p <;> simp [Inspector.view, errorLines, h.source, h.tokens, h.program, h.diagnostics]

/-- Keys that do not turn the focus leave it where it is. -/
theorem focus_run {es : List Event} (h : ∀ k ∈ keysOf es, ∀ p, k.turn p = p) (i : Inspector) :
    (i.run es).focus = i.focus := by
  induction es generalizing i with
  | nil => rfl
  | cons e es ih =>
    rw [run_cons]
    cases e with
    | press k =>
      rw [keysOf_press, List.forall_mem_cons] at h
      rw [ih h.2]
      exact (pressed k i).focus.trans (h.1 _)
    | render w h' => exact ih h _

theorem offset_press {k : KeyPress} {move : Offset → Offset} (hk : k.key.Scrolls move)
    (i : Inspector) : (i.press k).offsets.get i.focus = move (i.offsets.get i.focus) := by
  ext
  rw [(pressed k i).moved, hk.moves]

section Runs

variable {k : Key} {move : Nat → Offset → Offset} (hMove : Offset.AddsUp move)
  (hk : k.Scrolls (move 1)) {w h n : Nat} {es : List Event} (hes : RendersOn w h es)
  (hKeys : keysOf es = List.replicate n k)
include hMove hk hes hKeys

/-- Where the focused pane settles after `n` presses of a key, with any renders between them. -/
theorem settle_offset_run (i : Inspector)
    (hAbsorbs : Offset.Absorbs ((i.view i.focus).settle (i.focus.area w h)) move
      (i.offsets.get i.focus)) :
    (i.view i.focus).settle (i.focus.area w h) ((i.run es).offsets.get i.focus) =
      (i.view i.focus).settle (i.focus.area w h) (move n (i.offsets.get i.focus)) := by
  induction es generalizing i n with
  | nil =>
    obtain rfl : n = 0 := by simpa [keysOf] using hKeys.symm
    rw [hMove.none]
    rfl
  | cons e es ih =>
    obtain ⟨hFirst, hLater⟩ := List.forall_mem_cons.mp hes
    rw [run_cons]
    cases e with
    | press press =>
      obtain _ | n := n
      · simp [keysOf_press] at hKeys
      obtain ⟨rfl, hKeys⟩ := List.cons.inj hKeys
      have hPressed := pressed press i
      have hFocus : (i.press press).focus = i.focus := hPressed.focus.trans (hk.turn _)
      have hRest := ih hLater hKeys (i.press press)
      rw [hFocus, hPressed.keeps.view, offset_press hk] at hRest
      rw [hMove.again, Nat.add_comm 1] at hRest
      exact hRest (hAbsorbs.moved hMove)
    | render w' h' =>
      obtain ⟨rfl, rfl⟩ := Event.render.inj (hFirst rfl)
      have hFocus : (i.settle w' h').focus = i.focus := rfl
      have hRest := ih hLater hKeys (i.settle w' h')
      rw [hFocus, view_settle, offset_settle, hAbsorbs.settle_move hMove] at hRest
      exact hRest (hAbsorbs.settled hMove)

end Runs

end Inspector

end LetLens
