import LetLens.Screen.Panel
import LetLens.View.Offset
import LetLens.View.Palette

/-! Views: what a pane of the inspector shows. It is a list of items, of which the pane shows a
window, or one remark when there is nothing to list. A list settles the pane's offset; a remark
leaves it as it is. -/

namespace LetLens

/-- One item of a list: a line of prose, or an entry that may have several lines. An entry is shown
with all of its lines or not at all. -/
inductive Item
  | prose (line : List Span)
  | entry (style : Style) (lines : List (List Span))

/-- The rows of an item. Prose is cut at the end of the free area, an entry also at the edge of the
screen. -/
def Item.rows (free seen : Area) : Item → List Row
  | prose line => [Row.prose free.width line]
  | entry style lines => lines.map (Row.entry seen.width style)

/-- The rows of the items from the head that have room in `height` rows. -/
def Item.stack (free seen : Area) : Nat → List Item → List Row
  | _, [] => []
  | height, i :: is =>
    let rows := i.rows free seen
    if rows.length ≤ height then rows ++ stack free seen (height - rows.length) is else []

inductive View
  | list (title : String) (indent : Nat) (items : List Item)
  | remark (title : String) (style : Style) (text : String)

namespace View

def settle (a : Area) (o : Offset) : View → Offset
  | list _ _ items => o.settle items.length a
  | remark .. => o

def panel (a : Area) (o : Offset) : View → Panel
  | list title indent items =>
    { title, indent, rows := fun free seen => Item.stack free seen free.height (o.window a items) }
  | remark title style text =>
    { title, style, rows := fun free _ => [Row.prose free.width [⟨text, .plain⟩]] }

def frameStyle (focused : Bool) : Style :=
  if focused then { foreground := some Palette.focusedFrame, bold := true }
  else .text Palette.frame

def draw {w h : Nat} (v : View) (a : Area) (focused : Bool) (o : Offset) (s : Screen w h) :
    Screen w h :=
  s.drawPanel a (frameStyle focused) (v.panel a o)

end View

end LetLens
