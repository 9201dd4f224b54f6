/-! Lines of a text. `cutAfter` cuts a list after each element of a class, so the pieces put
together are the list again. The lines of a text are its pieces that end with a line feed, and what
is left after the last one; `linesOf` gives them without their line ends, which are a line feed or a
carriage return and a line feed. -/

namespace LetLens

def cutAfter {α : Type} (p : α → Bool) : List α → List (List α)
  | [] => []
  | a :: as =>
    if p a then [a] :: cutAfter p as
    else
      match cutAfter p as with
      | [] => [[a]]
      | l :: ls => (a :: l) :: ls

theorem flatten_cutAfter {α : Type} (p : α → Bool) (l : List α) : (cutAfter p l).flatten = l := by
  induction l with
  | nil => rfl
  | cons a as ih =>
    unfold cutAfter
    split
    · simp [ih]
    · split
      · next h => simpa [h] using ih
      · next h => simpa [h] using ih

/-- A line without its line end. A carriage return with no line feed after it belongs to the
line. -/
def dropLineEnd (line : List Char) : List Char :=
  match line.reverse with
  | '\n' :: '\r' :: back => back.reverse
  | '\n' :: back => back.reverse
  | _ => line

def linesOf (text : String) : List String :=
  (cutAfter (· = '\n') text.toList).map fun line => String.ofList (dropLineEnd line)

end LetLens
