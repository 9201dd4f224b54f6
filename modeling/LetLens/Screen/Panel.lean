import LetLens.Screen.Row

/-! Panels: framed areas with a title and rows of text. The frame runs along the edge of the area.
Where the area is so small that its sides fall together, the bottom hides the top, the right side
the left one, and the corners hide both, the top left one all others. The title starts next to the
top left corner and is cut before the top right one. -/

namespace LetLens

/-- The symbol of the frame of an area in column `x` and row `y` of it. -/
def frameSymbol (width height x y : Nat) : Option String :=
  if x = 0 ∧ y = 0 then some "┌"
  else if x = 0 ∧ y + 1 = height then some "└"
  else if x + 1 = width ∧ y = 0 then some "┐"
  else if x + 1 = width ∧ y + 1 = height then some "┘"
  else if y + 1 = height then some "─"
  else if x + 1 = width then some "│"
  else if y = 0 then some "─"
  else if x = 0 then some "│"
  else none

/-- What a panel shows inside its frame: in which style, how many columns from the left, and which
rows there are when the area `free` is left for them, of which `seen` lies on the screen. -/
structure Panel where
  title : String
  /-- Laid over the whole area before the frame is drawn, and over the inside after that. -/
  style : Style := .plain
  indent : Nat := 0
  rows : (free seen : Area) → List Row

namespace Screen

variable {w h : Nat}

def drawFrame (a : Area) (style : Style) (s : Screen w h) : Screen w h :=
  s.paintIn a fun x y c => match frameSymbol a.width a.height x y with
    | some symbol => ⟨symbol, style.onto c.style⟩
    | none => c

/-- Sets a title in the top row of the frame of `a`, in the style of the frame. -/
def drawTitle (a : Area) (title : String) (s : Screen w h) : Screen w h :=
  s.setRows ⟨a.left + 1, a.top, a.width - 2, min 1 a.height⟩
    [Row.prose (a.width - 2) [⟨title, .plain⟩]]

/-- Draws a panel in `a`. The frame runs around the part of `a` that lies on the screen; the inside
is that of the whole area. -/
def drawPanel (a : Area) (frame : Style) (p : Panel) (s : Screen w h) : Screen w h :=
  let seen := a.clip w h
  let free := a.inside.dropColumns p.indent
  let s := ((s.tint a p.style).drawFrame seen frame).drawTitle seen p.title
  (s.tint a.inside p.style).setRows free (p.rows free (free.clip w h))

end Screen

end LetLens
