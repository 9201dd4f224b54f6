import LetLens.Inspector.Basic
import LetLens.Screen.Terminal
import LetLens.View.Listings
import LetLens.View.Source
import LetLens.View.StatusBar

/-! The screen of the inspector. The status bar takes the last row. Above it the left column has the
source over the diagnostics, and the right column has the tokens over the tree. Showing the
inspector first settles its offsets and then draws every pane in its area. -/

namespace LetLens

/-- The area of all panes, and that of the status bar. -/
def screenParts (width height : Nat) : Area × Area :=
  Area.splitRows (.rest 0 1) ⟨0, 0, width, height⟩

namespace Pane

def area (width height : Nat) (p : Pane) : Area :=
  let columns := (screenParts width height).1.splitColumns (.shares 55 45)
  match p with
  | source => (columns.1.splitRows (.shares 70 30)).1
  | diagnostics => (columns.1.splitRows (.shares 70 30)).2
  | tokens => (columns.2.splitRows .halves).1
  | tree => (columns.2.splitRows .halves).2

/-- The panes in the order in which they are drawn. -/
def all : List Pane := [source, diagnostics, tokens, tree]

end Pane

def StatusBar.area (width height : Nat) : Area := (screenParts width height).2

namespace Inspector

def view (i : Inspector) : Pane → View
  | .source => sourceView i.source i.errorLines
  | .diagnostics => diagnosticsView i.diagnostics
  | .tokens => tokensView i.tokens
  | .tree => treeView i.program

/-- Brings the offset of `p` to where its view can be shown. -/
def settlePane (width height : Nat) (i : Inspector) (p : Pane) : Inspector :=
  let o := (i.view p).settle (p.area width height) (i.offsets.get p)
  { i with offsets := i.offsets.set p o }

def settle (width height : Nat) (i : Inspector) : Inspector :=
  Pane.all.foldl (settlePane width height) i

def drawPane {w h : Nat} (i : Inspector) (s : Screen w h) (p : Pane) : Screen w h :=
  (i.view p).draw (p.area w h) (i.focus = p) (i.offsets.get p) s

def draw {w h : Nat} (i : Inspector) (s : Screen w h) : Screen w h :=
  StatusBar.draw (StatusBar.area w h) i.status i.program.bindings.length i.diagnostics.length
    (Pane.all.foldl i.drawPane s)

def render (w h : Nat) (i : Inspector) : Inspector × Screen w h :=
  let i := i.settle w h
  (i, i.draw (.blank w h))

/-- Shows the inspector on an empty terminal. -/
def display (w h : Nat) (i : Inspector) : Inspector × Screen w h :=
  let (i, s) := i.render w h
  (i, s.onTerminal)

end Inspector

end LetLens
