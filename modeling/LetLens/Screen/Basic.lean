import LetLens.Screen.Area
import LetLens.Screen.Style

/-! Screens of cells. A cell shows a symbol in a style. All drawing goes through `paint`, which says
for each position what becomes of the cell there, so a drawing is known from `cell?_paint` and
`cell?_paintIn`: the second one changes no cell outside of its area. -/

namespace LetLens

structure Cell where
  symbol : String
  style : Style
deriving DecidableEq

def Cell.blank : Cell := ⟨" ", .plain⟩

def Cell.tint (s : Style) (c : Cell) : Cell := { c with style := s.onto c.style }

@[simp] theorem Cell.tint_plain (c : Cell) : c.tint .plain = c := by
  simp [Cell.tint]

theorem Cell.tint_tint (s : Style) (c : Cell) : (c.tint s).tint s = c.tint s := by
  simp [Cell.tint, ← Style.onto_assoc]

structure Screen (width height : Nat) where
  rows : Vector (Vector Cell width) height
deriving DecidableEq

namespace Screen

variable {w h : Nat}

def blank (w h : Nat) : Screen w h := ⟨.replicate h (.replicate w .blank)⟩

def cell? (s : Screen w h) (x y : Nat) : Option Cell := s.rows[y]?.bind (·[x]?)

/-- Changes the cell in column `x` and row `y` by `f x y`. -/
def paint (f : Nat → Nat → Cell → Cell) (s : Screen w h) : Screen w h :=
  ⟨s.rows.mapIdx fun y row => row.mapIdx fun x c => f x y c⟩

/-- Changes the cells in `a`, by columns and rows counted from its top left corner. -/
def paintIn (a : Area) (f : Nat → Nat → Cell → Cell) (s : Screen w h) : Screen w h :=
  s.paint fun x y c => if a.Covers x y then f (x - a.left) (y - a.top) c else c

theorem cell?_paint (f : Nat → Nat → Cell → Cell) (s : Screen w h) (x y : Nat) :
    (s.paint f).cell? x y = (s.cell? x y).map (f x y) := by
  simp only [cell?, paint, Vector.getElem?_mapIdx]
  cases s.rows[y]? <;> simp

theorem cell?_paintIn (a : Area) (f : Nat → Nat → Cell → Cell) (s : Screen w h) (x y : Nat) :
    (s.paintIn a f).cell? x y =
      (s.cell? x y).map fun c => if a.Covers x y then f (x - a.left) (y - a.top) c else c :=
  cell?_paint _ s x y

def tint (a : Area) (style : Style) (s : Screen w h) : Screen w h :=
  s.paintIn a fun _ _ c => c.tint style

end Screen

end LetLens
