/-! Places in a text. A `Location` counts lines and columns from one, and a column counts the
characters of its line, so `advance` moves over one character whatever its encoded size. Locations
are ordered by line first and column second. -/

namespace LetLens

structure Location where
  line : Nat
  column : Nat
deriving DecidableEq

namespace Location

def start : Location := ⟨1, 1⟩

/-- The place after a character: a line feed opens the next line. -/
def advance (l : Location) (c : Char) : Location :=
  if c = '\n' then ⟨l.line + 1, 1⟩ else ⟨l.line, l.column + 1⟩

def advanceOver (l : Location) (cs : List Char) : Location := cs.foldl advance l

@[simp] theorem advanceOver_nil (l : Location) : l.advanceOver [] = l := rfl

@[simp] theorem advanceOver_cons (l : Location) (c : Char) (cs : List Char) :
    l.advanceOver (c :: cs) = (l.advance c).advanceOver cs := rfl

theorem advanceOver_append (l : Location) (cs ds : List Char) :
    l.advanceOver (cs ++ ds) = (l.advanceOver cs).advanceOver ds := by
  simp [advanceOver]

instance : LT Location where
  lt a b := a.line < b.line ∨ a.line = b.line ∧ a.column < b.column

instance (a b : Location) : Decidable (a < b) :=
  inferInstanceAs (Decidable (a.line < b.line ∨ a.line = b.line ∧ a.column < b.column))

theorem lt_def {a b : Location} :
    a < b ↔ a.line < b.line ∨ a.line = b.line ∧ a.column < b.column := Iff.rfl

theorem lt_advance (l : Location) (c : Char) : l < l.advance c := by
  unfold advance
  split <;> simp [lt_def]

def text (l : Location) : String := l.line.repr ++ ":" ++ l.column.repr

end Location

end LetLens
