/-! Styles of text. A colour that a style leaves open is the terminal's own on a blank screen; laid
over another style, the open colours let that style's colours through, and bold and underlined
are only ever added. -/

namespace LetLens

inductive Color
  | black
  | rgb (red green blue : UInt8)
deriving DecidableEq

structure Style where
  foreground : Option Color := none
  background : Option Color := none
  bold : Bool := false
  underlined : Bool := false
deriving DecidableEq

namespace Style

def plain : Style := {}

def text (c : Color) : Style := { foreground := some c }

/-- The style that is left when `upper` is laid over `lower`. -/
def onto (upper lower : Style) : Style where
  foreground := upper.foreground.or lower.foreground
  background := upper.background.or lower.background
  bold := upper.bold || lower.bold
  underlined := upper.underlined || lower.underlined

@[simp] theorem plain_onto (s : Style) : plain.onto s = s := by
  simp [onto, plain]

@[simp] theorem onto_plain (s : Style) : s.onto plain = s := by
  simp [onto, plain]

theorem onto_assoc (a b c : Style) : (a.onto b).onto c = a.onto (b.onto c) := by
  simp [onto, Bool.or_assoc, Option.or_assoc]

@[simp] theorem onto_self (s : Style) : s.onto s = s := by
  simp [onto]

end Style

end LetLens
