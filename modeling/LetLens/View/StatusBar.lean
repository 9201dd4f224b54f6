import LetLens.Screen.Row
import LetLens.View.Palette

/-! The status bar: counts and a message in its left half, the keys in its right half, where a text
that is too long loses its right end. -/

namespace LetLens.StatusBar

def plain : Style := { background := some Palette.band, foreground := some Palette.text }

def divider : Style := { background := some Palette.band, foreground := some Palette.muted }

def key : Style := { background := some Palette.muted, foreground := some .black }

def counts (diagnostics : Nat) : Style where
  background := some (if 0 < diagnostics then Palette.error else Palette.success)
  foreground := some .black
  bold := true

def summary (message : String) (statements diagnostics : Nat) : List Span :=
  [⟨" " ++ statements.repr ++ " stmt / " ++ diagnostics.repr ++ " diag ", counts diagnostics⟩,
   ⟨" | ", divider⟩, ⟨" " ++ message ++ " ", plain⟩]

def keys : List Span :=
  [⟨" tab ", key⟩, ⟨" focus ", plain⟩, ⟨"│", divider⟩, ⟨" ", plain⟩,
   ⟨" ↑/↓ ", key⟩, ⟨" scroll ", plain⟩, ⟨"│", divider⟩, ⟨" ", plain⟩,
   ⟨" home ", key⟩, ⟨" top ", plain⟩, ⟨"│", divider⟩, ⟨" ", plain⟩,
   ⟨"q", key⟩, ⟨" quit ", plain⟩]

def draw {w h : Nat} (a : Area) (message : String) (statements diagnostics : Nat)
    (s : Screen w h) : Screen w h :=
  let (left, right) := a.splitColumns .halves
  let s := s.tint a { background := some Palette.band }
  let s := s.setRows left [Row.prose left.width (summary message statements diagnostics)]
  s.setRows right [Row.proseRight right.width keys]

end LetLens.StatusBar
