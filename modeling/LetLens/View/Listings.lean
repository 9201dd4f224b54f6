import LetLens.Diagnostic
import LetLens.Program
import LetLens.Text.Lines
import LetLens.Text.Padding
import LetLens.Text.Quoted
import LetLens.View.Basic

/-! The views that list what was read from a text: its tokens, its diagnostics and the tree of its
program. Without diagnostics and without statements there is a remark instead of a list. -/

namespace LetLens

def TokenKind.color (k : TokenKind) : Color :=
  if k.isKeyword then Palette.keyword
  else if k.isOperator then Palette.operator
  else match k with
    | .int => Palette.number
    | .illegal => Palette.illegal
    | .eof => Palette.muted
    | _ => Palette.text

/-- The place, the kind and the quoted literal of a token, in columns. -/
def Token.columns (t : Token) : List Span :=
  [⟨alignRight 7 t.location.text ++ " ", .text Palette.location⟩,
   ⟨alignLeft 8 t.kind.spelling, .text t.kind.color⟩,
   ⟨quoted t.literal, .text Palette.text⟩]

def countTitle (name : String) (count : Nat) : String := " " ++ name ++ " (" ++ count.repr ++ ") "

def tokensView (tokens : List Token) : View :=
  .list (countTitle "Tokens" tokens.length) 0
    (tokens.map fun t => .entry .plain [t.columns])

def Diagnostic.columns (d : Diagnostic) : List Span :=
  [⟨d.location.text ++ " ", .text Palette.location⟩, ⟨d.message, .text Palette.error⟩]

def diagnosticsView (diagnostics : List Diagnostic) : View :=
  let title := countTitle "Diagnostics" diagnostics.length
  if diagnostics.isEmpty then .remark title (.text Palette.success) "(no diagnostics)"
  else .list title 1 (diagnostics.map fun d => .entry .plain [d.columns])

def OutlineLevel.style : OutlineLevel → Style
  | program => { foreground := some Palette.node, bold := true }
  | statement => .text Palette.node
  | part => .text Palette.text

/-- A line of the tree; a name with line feeds in it makes several rows. -/
def OutlineLine.item (l : OutlineLine) : Item :=
  .entry l.level.style ((linesOf l.text).map fun row => [⟨row, .plain⟩])

def treeView (program : Program) : View :=
  let title := " Syntax Tree "
  if program.bindings.isEmpty then .remark title (.text Palette.muted) "(no statements)"
  else .list title 0 (program.outline.map OutlineLine.item)

end LetLens
