import LetLens.Inspector.Keys
import LetLens.Screen.Terminal

/-! The control sequences of a terminal: `Screen.controlText` writes a screen from the top left
corner on, and `Key.ofChars` reads the keys that were typed. -/

namespace LetLens

/-- A part of a control sequence; `layer` is 3 for the text and 4 for what is behind it. -/
def Color.code (layer : String) : Color → String
  | black => ";" ++ layer ++ "0"
  | rgb r g b =>
    ";" ++ layer ++ "8;2;" ++ ";".intercalate ([r, g, b].map fun part => part.toNat.repr)

def Style.controlText (s : Style) : String :=
  "\x1b[0" ++ (if s.bold then ";1" else "") ++ (if s.underlined then ";4" else "") ++
    ((s.foreground.map (Color.code "3")).getD "") ++
    ((s.background.map (Color.code "4")).getD "") ++ "m"

/-- Leaves out the cells behind a wide one; `covered` says whether the first one is. -/
def rowText (covered : Bool) : List Cell → String
  | [] => ""
  | c :: cs =>
    (if covered then "" else c.style.controlText ++ c.symbol) ++ rowText c.isWide cs

def Screen.controlText {w h : Nat} (s : Screen w h) : String :=
  let rows := s.rows.toList.map fun row => rowText false row.toList
  "\x1b[H" ++ "\r\n".intercalate rows ++ "\x1b[0m"

/-- An escape character that starts no sequence is the escape key. -/
def Key.ofChars : List Char → List Key
  | [] => []
  | '\x1b' :: '[' :: 'A' :: cs => up :: ofChars cs
  | '\x1b' :: '[' :: 'B' :: cs => down :: ofChars cs
  | '\x1b' :: '[' :: 'C' :: cs => right :: ofChars cs
  | '\x1b' :: '[' :: 'D' :: cs => left :: ofChars cs
  | '\x1b' :: '[' :: 'F' :: cs => endKey :: ofChars cs
  | '\x1b' :: '[' :: 'H' :: cs => home :: ofChars cs
  | '\x1b' :: '[' :: 'Z' :: cs => backTab :: ofChars cs
  | '\x1b' :: '[' :: '1' :: '~' :: cs => home :: ofChars cs
  | '\x1b' :: '[' :: '2' :: '~' :: cs => insert :: ofChars cs
  | '\x1b' :: '[' :: '3' :: '~' :: cs => delete :: ofChars cs
  | '\x1b' :: '[' :: '4' :: '~' :: cs => endKey :: ofChars cs
  | '\x1b' :: '[' :: '5' :: '~' :: cs => pageUp :: ofChars cs
  | '\x1b' :: '[' :: '6' :: '~' :: cs => pageDown :: ofChars cs
  | '\x1b' :: cs => escape :: ofChars cs
  | '\t' :: cs => tab :: ofChars cs
  | '\r' :: cs => enter :: ofChars cs
  | '\n' :: cs => enter :: ofChars cs
  | '\x7f' :: cs => backspace :: ofChars cs
  | c :: cs => char c :: ofChars cs

end LetLens
