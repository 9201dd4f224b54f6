import LetLens.Proofs.Inspection

/-! Polling. The inspector is shown before every key it takes and after the last one, and in between
it may be shown again at any time. Showing it once more changes nothing, because offsets that are
settled stay where they are. So neither the state after the keys nor what is on the screen then
tells how often the inspector was shown on the way. -/

namespace LetLens

theorem View.settle_settle (v : View) (a : Area) (o : Offset) :
    v.settle a (v.settle a o) = v.settle a o := by
  cases v with
  | list title indent items => exact o.settle_settle items.length a
  | remark title style text => rfl

namespace Inspector

/-- An inspector is what was read, the focus, whether it is to quit, and the offsets. -/
theorem Keeps.eq_of_get {i j : Inspector} (h : Keeps i j) (hFocus : j.focus = i.focus)
    (hQuit : j.quit = i.quit) (hOffsets : ∀ p, j.offsets.get p = i.offsets.get p) : j = i := by
  obtain ⟨hSource, hTokens, hProgram, hDiagnostics, hStatus⟩ := h
  have hAll := Offsets.ext_get hOffsets
  cases i
  cases j
  simp_all

theorem settle_settle (w h : Nat) (i : Inspector) : (i.settle w h).settle w h = i.settle w h := by
  have hAgain : Rendered (i.settle w h) ((i.settle w h).settle w h) := rendered w h (i.settle w h)
  refine hAgain.keeps.eq_of_get hAgain.focus hAgain.quit fun p => ?_
  rw [offset_settle, offset_settle, view_settle, View.settle_settle]

theorem render_settle (w h : Nat) (i : Inspector) : (i.settle w h).render w h = i.render w h := by
  rw [render, render, settle_settle]

/-! ### What a run shows -/

/-- The screens that a run shows, in order, each with its size. -/
def screens (i : Inspector) : List Event → List ((w : Nat) × (h : Nat) × Screen w h)
  | [] => []
  | .press k :: es => (i.press k).screens es
  | .render w h :: es => ⟨w, h, (i.render w h).2⟩ :: (i.render w h).1.screens es

theorem screens_append (i : Inspector) (es es' : List Event) :
    i.screens (es ++ es') = i.screens es ++ (i.run es).screens es' := by
  induction es generalizing i with
  | nil => rfl
  | cons e es ih =>
    rw [run_cons]
    cases e with
    | press k => exact ih (i.press k)
    | render w h => exact congrArg (_ :: ·) (ih (i.render w h).1)

/-- After a render the screen shows the inspector as it is then. -/
theorem getLast?_screens_concat (i : Inspector) (es : List Event) (w h : Nat) :
    (i.screens (es ++ [.render w h])).getLast? =
      some ⟨w, h, (i.run (es ++ [.render w h])).draw (.blank w h)⟩ := by
  rw [screens_append, run_append]
  exact List.getLast?_concat

/-! ### Schedules -/

/-- The keys with renders on a screen of one size, of which there is one before each key, one after
the last, and any number more. -/
inductive Polls (w h : Nat) : List KeyPress → List Event → Prop
  | last : Polls w h [] [.render w h]
  | again {ks : List KeyPress} {es : List Event} (later : Polls w h ks es) :
      Polls w h ks (.render w h :: es)
  | press {ks : List KeyPress} {es : List Event} (k : KeyPress) (later : Polls w h ks es) :
      Polls w h (k :: ks) (.render w h :: .press k :: es)

/-- The inspector after keys of which each one finds the offsets settled. -/
def polled (w h : Nat) (i : Inspector) : List KeyPress → Inspector
  | [] => i.settle w h
  | k :: ks => ((i.settle w h).press k).polled w h ks

theorem polled_settle (w h : Nat) (i : Inspector) (ks : List KeyPress) :
    (i.settle w h).polled w h ks = i.polled w h ks := by
  cases ks with
  | nil => exact settle_settle w h i
  | cons k ks => rw [polled, polled, settle_settle]

namespace Polls

variable {w h : Nat} {ks : List KeyPress} {es es' : List Event}

theorem run_eq (hes : Polls w h ks es) (i : Inspector) : i.run es = i.polled w h ks := by
  induction hes generalizing i with
  | last => rfl
  | again _ ih => exact (ih (i.settle w h)).trans (polled_settle w h i _)
  | press k _ ih => exact ih ((i.settle w h).press k)

theorem exists_concat (hes : Polls w h ks es) : ∃ before, es = before ++ [.render w h] := by
  induction hes with
  | last => exact ⟨[], rfl⟩
  | again _ ih =>
    obtain ⟨before, rfl⟩ := ih
    exact ⟨_ :: before, rfl⟩
  | press k _ ih =>
    obtain ⟨before, rfl⟩ := ih
    exact ⟨_ :: _ :: before, rfl⟩

theorem getLast?_screens (hes : Polls w h ks es) (i : Inspector) :
    (i.screens es).getLast? = some ⟨w, h, (i.run es).draw (.blank w h)⟩ := by
  obtain ⟨before, rfl⟩ := hes.exists_concat
  exact getLast?_screens_concat i before w h

end Polls

/-- How often the inspector is shown makes no difference. Two schedules of the same keys leave it in
the same state, and the last screen of both is the same; and to show it twice in a row is to show it
once. -/
theorem run_eq_of_polls {w h : Nat} {ks : List KeyPress} {es es' : List Event}
    (hes : Polls w h ks es) (hes' : Polls w h ks es') (i : Inspector) :
    i.run es = i.run es' ∧
    (∃ s, (i.screens es).getLast? = some ⟨w, h, s⟩ ∧
      (i.screens es').getLast? = some ⟨w, h, s⟩) ∧
    (i.render w h).1.render w h = i.render w h := by
  have hRun : i.run es = i.run es' := (hes.run_eq i).trans (hes'.run_eq i).symm
  refine ⟨hRun, ⟨(i.run es).draw (.blank w h), hes.getLast?_screens i, ?_⟩, render_settle w h i⟩
  rw [hRun]
  exact hes'.getLast?_screens i

/-- A page down that is shown at once, and one with renders on both sides of it. -/
theorem run_eq_of_polls_page_down :
    let once : List Event := [.render 40 10, .press ⟨.pageDown, []⟩, .render 40 10]
    let often : List Event := [.render 40 10, .render 40 10, .press ⟨.pageDown, []⟩,
      .render 40 10, .render 40 10]
    Polls 40 10 [⟨.pageDown, []⟩] once ∧ Polls 40 10 [⟨.pageDown, []⟩] often ∧
      (ofText "let\nlet x\n").run once = (ofText "let\nlet x\n").run often ∧
      ∃ s, ((ofText "let\nlet x\n").screens once).getLast? = some ⟨40, 10, s⟩ ∧
        ((ofText "let\nlet x\n").screens often).getLast? = some ⟨40, 10, s⟩ := by
  intro once often
  have hOnce : Polls 40 10 [⟨.pageDown, []⟩] once := .press _ .last
  have hOften : Polls 40 10 [⟨.pageDown, []⟩] often := .again (.press _ (.again .last))
  obtain ⟨hRun, hScreen, -⟩ := run_eq_of_polls hOnce hOften (ofText "let\nlet x\n")
  exact ⟨hOnce, hOften, hRun, hScreen⟩

end Inspector

end LetLens
