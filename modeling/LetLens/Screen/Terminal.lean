import LetLens.Screen.Basic
import LetLens.Text.Width

/-! Screens as a terminal shows them. A symbol that is wider than a cell covers the cell behind it,
so that cell is not sent to the terminal and stays as it is on an empty one. -/

namespace LetLens

def Cell.isWide (c : Cell) : Bool := 1 < textWidth c.symbol.toList

namespace Screen

variable {w h : Nat}

/-- The cell in column `x` and row `y` lies behind a wide one. -/
def isCovered (s : Screen w h) (x y : Nat) : Bool := 0 < x && (s.cell? (x - 1) y).any Cell.isWide

/-- What an empty terminal shows of the screen. -/
def onTerminal (s : Screen w h) : Screen w h :=
  s.paint fun x y c => if s.isCovered x y then .blank else c

end Screen

end LetLens
