import LetLens.Token.Kind

/-! Lexemes: the pieces that a text falls into between its blanks. Letters and digits here are those
of ASCII, and the blanks are space, tab, carriage return and line feed; every other character stands
for itself as an illegal lexeme. `ofChars` takes the longest lexeme at the head of a text, and
`text_append_rest` says that it loses no character. -/

namespace LetLens

def isBlank (c : Char) : Bool := c = ' ' || c = '\t' || c = '\r' || c = '\n'

/-- A word starts with a letter or an underscore. -/
def isWordStart (c : Char) : Bool := c.isAlpha || c = '_'

def isWordPart (c : Char) : Bool := c.isAlphanum || c = '_'

/-- The kind of a lexeme of one character that is neither letter nor digit. -/
def TokenKind.ofChar : Char → TokenKind
  | '=' => .assign
  | '+' => .plus
  | '-' => .minus
  | '!' => .bang
  | '*' => .asterisk
  | '/' => .slash
  | '<' => .less
  | '>' => .greater
  | ',' => .comma
  | ';' => .semicolon
  | '(' => .leftParen
  | ')' => .rightParen
  | '\x7b' => .leftBrace
  | '\x7d' => .rightBrace
  | _ => .illegal

theorem TokenKind.ofChar_ne_eof (c : Char) : ofChar c ≠ eof := by
  unfold ofChar
  split <;> simp

/-- A lexeme at the head of a text, and what follows it. -/
structure Lexeme where
  kind : TokenKind
  text : List Char
  rest : List Char

namespace Lexeme

/-- The longest lexeme at the head of `c :: cs`. -/
def ofChars (c : Char) (cs : List Char) : Lexeme :=
  if isWordStart c then
    let word := c :: cs.takeWhile isWordPart
    ⟨.ofWord (String.ofList word), word, cs.dropWhile isWordPart⟩
  else if c.isDigit then
    ⟨.int, c :: cs.takeWhile Char.isDigit, cs.dropWhile Char.isDigit⟩
  else
    match c, cs with
    | '=', '=' :: cs => ⟨.equal, ['=', '='], cs⟩
    | '!', '=' :: cs => ⟨.notEqual, ['!', '='], cs⟩
    | c, cs => ⟨.ofChar c, [c], cs⟩

theorem text_append_rest (c : Char) (cs : List Char) :
    (ofChars c cs).text ++ (ofChars c cs).rest = c :: cs := by
  unfold ofChars
  repeat' split
  all_goals simp

theorem text_ne_nil (c : Char) (cs : List Char) : (ofChars c cs).text ≠ [] := by
  unfold ofChars
  repeat' split
  all_goals simp

theorem kind_ne_eof (c : Char) (cs : List Char) : (ofChars c cs).kind ≠ .eof := by
  unfold ofChars
  repeat' split
  · exact TokenKind.ofWord_ne_eof _
  · exact TokenKind.noConfusion
  · exact TokenKind.noConfusion
  · exact TokenKind.noConfusion
  · exact TokenKind.ofChar_ne_eof _

theorem length_rest_le (c : Char) (cs : List Char) : (ofChars c cs).rest.length ≤ cs.length := by
  have hAll := congrArg List.length (text_append_rest c cs)
  have hText := List.length_pos_iff.mpr (text_ne_nil c cs)
  simp only [List.length_append, List.length_cons] at hAll
  omega

end Lexeme

end LetLens
