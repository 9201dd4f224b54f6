import LetLens.Location
import Mathlib.Data.List.DropRight

/-! Places told from the text before them. `Location.after cs` counts the line feeds of `cs` and the
characters behind the last of them; moving over characters one by one arrives there. -/

namespace LetLens.Location

/-- The place right behind `cs`, for a text that starts with `cs`. -/
def after (cs : List Char) : Location :=
  ⟨1 + cs.count '\n', 1 + (cs.rtakeWhile (· ≠ '\n')).length⟩

theorem after_concat (cs : List Char) (c : Char) : after (cs ++ [c]) = (after cs).advance c := by
  by_cases hc : c = '\n'
  · subst hc
    simp [after, advance]
    omega
  · simp [after, advance, hc]
    omega

theorem advanceOver_after (cs ds : List Char) : (after cs).advanceOver ds = after (cs ++ ds) := by
  induction ds generalizing cs with
  | nil => simp
  | cons d ds ih =>
    rw [advanceOver_cons, ← after_concat, ih, List.append_assoc, List.singleton_append]

/-- The place behind a text that starts where texts start. -/
theorem advanceOver_start (cs : List Char) : start.advanceOver cs = after cs :=
  advanceOver_after [] cs

/-- On the first line a column counts all characters in front of it. -/
theorem after_of_not_mem {cs : List Char} (h : '\n' ∉ cs) : after cs = ⟨1, 1 + cs.length⟩ := by
  have hAll : cs.rtakeWhile (· ≠ '\n') = cs := by
    refine List.rtakeWhile_eq_self_iff.mpr fun c hc => decide_eq_true ?_
    rintro rfl
    exact h hc
  rw [after, hAll, List.count_eq_zero.mpr h]

theorem lt_trans {a b c : Location} (hab : a < b) (hbc : b < c) : a < c := by
  simp only [lt_def] at hab hbc ⊢
  omega

theorem lt_irrefl (a : Location) : ¬a < a := by
  simp [lt_def]

theorem lt_asymm {a b : Location} (h : a < b) : ¬b < a :=
  fun h' => lt_irrefl a (lt_trans h h')

theorem lt_advanceOver (l : Location) {cs : List Char} (h : cs ≠ []) : l < l.advanceOver cs := by
  induction cs generalizing l with
  | nil => exact absurd rfl h
  | cons c cs ih =>
    rw [advanceOver_cons]
    by_cases hcs : cs = []
    · subst hcs
      exact lt_advance l c
    · exact lt_trans (lt_advance l c) (ih _ hcs)

theorem after_lt_after_append (cs : List Char) {ds : List Char} (h : ds ≠ []) :
    after cs < after (cs ++ ds) := by
  rw [← advanceOver_after]
  exact lt_advanceOver _ h

end LetLens.Location
