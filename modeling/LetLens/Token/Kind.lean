/-! The kinds of token. `spelling` is how a kind is written in reports; for a keyword, an operator
or a delimiter it is also the only text a token of that kind has. `ofWord` tells the keywords from
the names. -/

namespace LetLens

inductive TokenKind
  | illegal | eof | ident | int
  | assign | plus | minus | bang | asterisk | slash | less | greater | equal | notEqual
  | comma | semicolon | leftParen | rightParen | leftBrace | rightBrace
  | kwFn | kwLet | kwTrue | kwFalse | kwIf | kwElse | kwReturn
deriving DecidableEq

namespace TokenKind

def spelling : TokenKind → String
  | illegal => "ILLEGAL"
  | eof => "EOF"
  | ident => "IDENT"
  | int => "INT"
  | assign => "="
  | plus => "+"
  | minus => "-"
  | bang => "!"
  | asterisk => "*"
  | slash => "/"
  | less => "<"
  | greater => ">"
  | equal => "=="
  | notEqual => "!="
  | comma => ","
  | semicolon => ";"
  | leftParen => "("
  | rightParen => ")"
  | leftBrace => "\x7b"
  | rightBrace => "\x7d"
  | kwFn => "fn"
  | kwLet => "let"
  | kwTrue => "true"
  | kwFalse => "false"
  | kwIf => "if"
  | kwElse => "else"
  | kwReturn => "return"

def keywords : List TokenKind := [kwFn, kwLet, kwTrue, kwFalse, kwIf, kwElse, kwReturn]

def operators : List TokenKind :=
  [assign, plus, minus, bang, asterisk, slash, less, greater, equal, notEqual]

def isKeyword (k : TokenKind) : Bool := k ∈ keywords

def isOperator (k : TokenKind) : Bool := k ∈ operators

/-- A word is a keyword if it is spelled as one, and a name otherwise. -/
def ofWord (word : String) : TokenKind :=
  (keywords.find? fun k => k.spelling = word).getD ident

theorem ofWord_spelling {k : TokenKind} (hk : k ∈ keywords) : ofWord k.spelling = k := by
  revert k
  decide

theorem ofWord_eq_ident_or_mem (word : String) :
    ofWord word = ident ∨ ofWord word ∈ keywords ∧ (ofWord word).spelling = word := by
  unfold ofWord
  cases h : keywords.find? fun k => k.spelling = word with
  | none => exact .inl rfl
  | some k => exact .inr ⟨List.mem_of_find?_eq_some h, by simpa using List.find?_some h⟩

theorem ofWord_ne_eof (word : String) : ofWord word ≠ eof := by
  intro h
  rcases ofWord_eq_ident_or_mem word with hWord | hWord
  · simp [h] at hWord
  · exact absurd (h ▸ hWord.1) (by decide)

end TokenKind

end LetLens
