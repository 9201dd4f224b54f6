import LetLens.Token.Basic

/-! Diagnostics: at a place in a text one kind of token was due and another one stands there. -/

namespace LetLens

structure Diagnostic where
  expected : TokenKind
  found : TokenKind
  location : Location
deriving DecidableEq

def Diagnostic.message (d : Diagnostic) : String :=
  "expected next token to be " ++ d.expected.spelling ++ ", got " ++ d.found.spelling ++ " instead"

end LetLens
