import LetLens.Parser
import LetLens.View.Offset

/-! The inspector: a text with all that was read from it, the pane that has the focus, how far each
pane is scrolled, and whether it is to quit. What was read never changes; keys move the focus and
the offset of the focused pane. -/

namespace LetLens

inductive Pane
  | source | tokens | tree | diagnostics
deriving DecidableEq

namespace Pane

/-- Around the screen: the source, below it the diagnostics, then the other column from its top. -/
def next : Pane → Pane
  | source => diagnostics
  | diagnostics => tokens
  | tokens => tree
  | tree => source

def previous : Pane → Pane
  | source => tree
  | diagnostics => source
  | tokens => diagnostics
  | tree => tokens

end Pane

structure Offsets where
  source : Offset := .zero
  tokens : Offset := .zero
  tree : Offset := .zero
  diagnostics : Offset := .zero
deriving DecidableEq

namespace Offsets

def get (os : Offsets) : Pane → Offset
  | .source => os.source
  | .tokens => os.tokens
  | .tree => os.tree
  | .diagnostics => os.diagnostics

def set (os : Offsets) (p : Pane) (o : Offset) : Offsets :=
  match p with
  | .source => { os with source := o }
  | .tokens => { os with tokens := o }
  | .tree => { os with tree := o }
  | .diagnostics => { os with diagnostics := o }

theorem get_set (os : Offsets) (p q : Pane) (o : Offset) :
    (os.set p o).get q = if q = p then o else os.get q := by
  cases p <;> cases q <;> rfl

theorem ext_get {a b : Offsets} (h : ∀ p, a.get p = b.get p) : a = b := by
  obtain ⟨a1, a2, a3, a4⟩ := a
  obtain ⟨b1, b2, b3, b4⟩ := b
  have h1 : a1 = b1 := h .source
  have h2 : a2 = b2 := h .tokens
  have h3 : a3 = b3 := h .tree
  have h4 : a4 = b4 := h .diagnostics
  rw [h1, h2, h3, h4]

end Offsets

structure Inspector where
  source : String
  tokens : List Token
  program : Program
  diagnostics : List Diagnostic
  focus : Pane
  offsets : Offsets
  quit : Bool
  status : String
deriving DecidableEq

/-- Keeps one of each run of equal neighbours. -/
def dropRepeats : List Nat → List Nat
  | [] => []
  | [n] => [n]
  | n :: m :: l => if n = m then dropRepeats (m :: l) else n :: dropRepeats (m :: l)

namespace Inspector

def ofText (source : String) : Inspector :=
  let reading := Reading.ofText source
  { source
    tokens := tokensOf source
    program := reading.program
    diagnostics := reading.diagnostics
    focus := .source
    offsets := {}
    quit := false
    status := if reading.diagnostics.isEmpty then "Parsed cleanly" else "Parsed with diagnostics" }

def errorLines (i : Inspector) : List Nat := dropRepeats (i.diagnostics.map (·.location.line))

def scroll (move : Offset → Offset) (i : Inspector) : Inspector :=
  { i with offsets := i.offsets.set i.focus (move (i.offsets.get i.focus)) }

end Inspector

end LetLens
