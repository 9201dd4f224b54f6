import LetLens.Text.Lines
import LetLens.Text.Padding
import LetLens.Token.Scanner
import LetLens.View.Basic

/-! The source view: the lines of a text with their numbers. Each line is scanned by itself, and its
tokens are coloured by kind; the blanks between them have no style. A marked line has an exclamation
mark before its number, and its characters have a background. -/

namespace LetLens

def Token.style (t : Token) : Style :=
  if t.kind.isKeyword then { foreground := some Palette.keyword, bold := true }
  else if t.kind.isOperator then .text Palette.operator
  else match t.kind with
    | .int => .text Palette.number
    | .illegal => { foreground := some Palette.illegal, underlined := true }
    | .leftParen | .rightParen | .leftBrace | .rightBrace => .text Palette.bracket
    | _ => .text Palette.text

/-- The characters that no token takes, as a span without a style. -/
def gap (cs : List Char) : List Span :=
  if cs.isEmpty then [] else [⟨String.ofList cs, .plain⟩]

/-- Divides `cs`, which stands at column `column` of a line, at the places of `tokens`. -/
def divide (cs : List Char) (column : Nat) : List Token → List Span
  | [] => gap cs
  | t :: ts =>
    if t.isEnd then gap cs
    else
      let blanks := t.location.column - column
      let size := t.literal.length
      gap (cs.take blanks) ++ ⟨t.literal, t.style⟩ ::
        divide (cs.drop (blanks + size)) (t.location.column + size) ts

def highlight (line : String) : List Span := divide line.toList 1 (tokensOf line)

def gutter (marked : Bool) (number : Nat) : Span :=
  let style : Style :=
    if marked then { foreground := some Palette.error, bold := true } else .text Palette.muted
  ⟨(if marked then "!" else " ") ++ alignRight 4 number.repr ++ " ", style⟩

def markSpan (s : Span) : Span :=
  { s with style := Style.onto { background := some Palette.band } s.style }

def sourceItem (marks : List Nat) (number : Nat) (line : String) : Item :=
  let marked := number ∈ marks
  let content := highlight line
  .prose (gutter marked number :: if marked then content.map markSpan else content)

/-- The lines of `source`; `marks` holds the numbers of the marked ones. -/
def sourceView (source : String) (marks : List Nat) : View :=
  .list " Source " 0 ((linesOf source).mapIdx fun i line => sourceItem marks (i + 1) line)

end LetLens
