import LetLens.Screen.Basic
import LetLens.Text.Width

/-! Rows of text on a screen. A text is cut into glyphs, which are clusters with their width, and
those that fit are set side by side from the left. There are two ways to do it. A line of prose
leaves out what takes no cell, and what is wider than the row; the cells that a wide glyph covers
behind its first one keep their style. In a list entry these cells become blank again, and a glyph
without a width joins the cell before it, or the cell after it at the start of a span. A line feed
is never shown. -/

namespace LetLens

structure Span where
  text : String
  style : Style
deriving DecidableEq

structure Glyph where
  symbol : String
  width : Nat
  style : Style
deriving DecidableEq

def Span.glyphs (s : Span) : List Glyph :=
  ((clusters s.text.toList).filter (· ≠ ['\n'])).map fun cluster =>
    ⟨String.ofList cluster, textWidth cluster, s.style⟩

namespace Glyph

/-- The glyphs from the head that take at most `room` cells together. -/
def fit : Nat → List Glyph → List Glyph
  | _, [] => []
  | room, g :: gs => if g.width ≤ room then g :: fit (room - g.width) gs else []

def totalWidth (gs : List Glyph) : Nat := gs.foldr (fun g sum => g.width + sum) 0

/-- The symbols without a width at the head, put together, and then each glyph with a width
together with the symbols without one that follow it. -/
def withMarks : List Glyph → String × List (Glyph × String)
  | [] => ("", [])
  | g :: gs =>
    let (marks, rest) := withMarks gs
    if g.width = 0 then (g.symbol ++ marks, rest) else ("", (g, marks) :: rest)

end Glyph

/-- What a row does to one cell. -/
inductive Slot
  /-- Sets the symbol and lays the style over the cell. -/
  | symbol (s : String) (style : Style)
  | cell (c : Cell)
  | keep
deriving DecidableEq

def Slot.onto : Slot → Cell → Cell
  | symbol s style, c => ⟨s, style.onto c.style⟩
  | cell c, _ => c
  | keep, c => c

namespace Glyph

def proseSlots (g : Glyph) : List Slot :=
  .symbol g.symbol g.style :: List.replicate (g.width - 1) .keep

/-- The slots of a glyph in a list entry, with `marks` in the last one. -/
def entrySlots (g : Glyph) (marks : String) : List Slot :=
  if g.width ≤ 1 then [.symbol (g.symbol ++ marks) g.style]
  else
    let last : Cell := if marks = "" then .blank else ⟨Cell.blank.symbol ++ marks, g.style⟩
    .symbol g.symbol g.style :: List.replicate (g.width - 2) (.cell .blank) ++ [.cell last]

end Glyph

/-- The slots of a span in a list entry of which `room` cells are left. -/
def Span.entrySlots (room : Nat) (s : Span) : List Slot :=
  match Glyph.withMarks (Glyph.fit room s.glyphs) with
  | ("", []) => []
  | (marks, []) => [.symbol marks s.style]
  | (before, (g, marks) :: rest) =>
    { g with symbol := before ++ g.symbol }.entrySlots marks ++
      rest.flatMap fun (g, marks) => g.entrySlots marks

/-- A row lays its style over all its cells and then sets its slots from the left. -/
structure Row where
  style : Style
  slots : List Slot

namespace Row

def onto (r : Row) (x : Nat) (c : Cell) : Cell :=
  (r.slots[x]?.getD .keep).onto (c.tint r.style)

/-- The glyphs of a line of prose that are shown in a row of `width` cells. -/
def shown (width : Nat) (line : List Span) : List Glyph :=
  Glyph.fit width ((line.flatMap Span.glyphs).filter fun g => 0 < g.width && g.width ≤ width)

def prose (width : Nat) (line : List Span) : Row :=
  ⟨.plain, (shown width line).flatMap Glyph.proseSlots⟩

def proseRight (width : Nat) (line : List Span) : Row :=
  let gs := shown width line
  ⟨.plain, List.replicate (width - Glyph.totalWidth gs) .keep ++ gs.flatMap Glyph.proseSlots⟩

/-- The slots of the spans of a list entry in the `room` cells that are left. -/
def entrySlots : Nat → List Span → List Slot
  | _, [] => []
  | room, s :: spans =>
    if room = 0 then []
    else s.entrySlots room ++ entrySlots (room - Glyph.totalWidth s.glyphs) spans

/-- A list entry of one line. A line without a width is not shown. -/
def entry (width : Nat) (style : Style) (line : List Span) : Row :=
  ⟨style, if Glyph.totalWidth (line.flatMap Span.glyphs) = 0 then [] else entrySlots width line⟩

end Row

/-- Sets `rows` in `a`, from the top. -/
def Screen.setRows {w h : Nat} (a : Area) (rows : List Row) (s : Screen w h) : Screen w h :=
  s.paintIn a fun x y c => match rows[y]? with
    | some r => r.onto x c
    | none => c

end LetLens
