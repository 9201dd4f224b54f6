import Mathlib.Data.List.TakeWhile

/-! Lists cut where the elements of a class stop. -/

namespace LetLens

variable {α : Type} {p : α → Bool}

theorem takeWhile_append_of_stop {l r : List α} (hl : ∀ a ∈ l, p a)
    (hr : ∀ a ∈ r.head?, p a = false) : (l ++ r).takeWhile p = l := by
  rw [List.takeWhile_append_of_pos hl]
  cases r with
  | nil => simp
  | cons a r => simp [hr a rfl]

theorem dropWhile_append_of_stop {l r : List α} (hl : ∀ a ∈ l, p a)
    (hr : ∀ a ∈ r.head?, p a = false) : (l ++ r).dropWhile p = r := by
  rw [List.dropWhile_append_of_pos hl]
  cases r with
  | nil => rfl
  | cons a r => simp [hr a rfl]

theorem not_head?_dropWhile {l : List α} :
    ∀ a ∈ (l.dropWhile p).head?, p a = false := by
  intro a ha
  have := List.head?_dropWhile_not p l
  rwa [ha] at this

/-- A list is cut at the first element outside of a class in one way only. -/
theorem append_cons_inj_of_stop {l l' r r' : List α} {a a' : α} (hl : ∀ b ∈ l, p b)
    (hl' : ∀ b ∈ l', p b) (ha : p a = false) (ha' : p a' = false)
    (h : l ++ a :: r = l' ++ a' :: r') : l = l' ∧ a = a' ∧ r = r' := by
  have hTake := congrArg (List.takeWhile p) h
  rw [takeWhile_append_of_stop hl (by simpa using ha),
    takeWhile_append_of_stop hl' (by simpa using ha')] at hTake
  subst hTake
  simpa using h

end LetLens
