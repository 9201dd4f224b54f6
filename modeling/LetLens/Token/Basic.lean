import LetLens.Location
import LetLens.Token.Kind

/-! A token: a kind, the characters it was read from, and the place of the first of them. -/

namespace LetLens

structure Token where
  kind : TokenKind
  literal : String
  location : Location
deriving DecidableEq

namespace Token

def isEnd (t : Token) : Bool := t.kind = .eof

theorem isEnd_iff {t : Token} : t.isEnd ↔ t.kind = .eof := decide_eq_true_iff

/-- The kind and the literal, between braces. -/
def text (t : Token) : String :=
  "\x7bType:" ++ t.kind.spelling ++ " Literal:" ++ t.literal ++ "\x7d"

end Token

end LetLens
