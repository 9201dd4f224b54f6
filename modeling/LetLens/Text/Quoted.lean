import LetLens.Text.Mark
import LetLens.Text.Unseen

/-! Quoted text: a text between double quotes in which every character can be seen. A quote and a
backslash have a backslash before them, the common control characters have a letter, and any other
character that would not show is written by its code point in hexadecimal. -/

namespace LetLens

/-- Whether a character can be seen by itself. -/
def isVisible (c : Char) : Bool := !unseen.has c && !combining.has c

def escapeChar (c : Char) : List Char :=
  match c with
  | '"' => ['\\', '"']
  | '\\' => ['\\', '\\']
  | '\n' => ['\\', 'n']
  | '\r' => ['\\', 'r']
  | '\t' => ['\\', 't']
  | '\x00' => ['\\', '0']
  | c =>
    if isVisible c then [c]
    else ['\\', 'u', '\x7b'] ++ Nat.toDigits 16 c.toNat ++ ['\x7d']

def quoted (text : String) : String :=
  "\"" ++ String.ofList (text.toList.flatMap escapeChar) ++ "\""

end LetLens
