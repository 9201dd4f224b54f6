import LetLens.Token.Basic

/-! Programs: a program is the list of its bindings. A binding keeps its `let` token, the name it
binds and, in trees built by hand, the name it is bound to; reading a text leaves that value out.
`text` writes a program back in the language, and `outline` lists it as an indented tree. -/

namespace LetLens

structure Identifier where
  token : Token
  name : String
deriving DecidableEq

def Identifier.ofToken (t : Token) : Identifier := ⟨t, t.literal⟩

structure Binding where
  token : Token
  target : Identifier
  value : Option Identifier
deriving DecidableEq

/-- The binding as a statement: without a value it is the bare name. -/
def Binding.text (b : Binding) : String :=
  let head := b.token.literal ++ " " ++ b.target.name
  match b.value with
  | some value => head ++ " = " ++ value.name ++ ";"
  | none => head ++ ";"

structure Program where
  bindings : List Binding
deriving DecidableEq

/-- One line of a program's tree: the program, a statement in it, or a part of a statement. -/
inductive OutlineLevel
  | program | statement | part
deriving DecidableEq

def OutlineLevel.indent : OutlineLevel → String
  | program => ""
  | statement => "  "
  | part => "    "

structure OutlineLine where
  level : OutlineLevel
  label : String
deriving DecidableEq

def OutlineLine.text (l : OutlineLine) : String := l.level.indent ++ l.label

def Binding.outline (b : Binding) : List OutlineLine :=
  let target := b.target
  let value := match b.value with
    | some value => value.name
    | none => "<not parsed>"
  [⟨.statement, "LetStatement @ " ++ b.token.location.text⟩,
   ⟨.part, "name: Identifier \"" ++ target.name ++ "\" @ " ++ target.token.location.text⟩,
   ⟨.part, "value: " ++ value⟩]

namespace Program

/-- The statements one after the other, nothing between them. -/
def text (p : Program) : String := String.join (p.bindings.map Binding.text)

/-- The literal of the first token, empty for the empty program. -/
def literal (p : Program) : String := (p.bindings.head?.map (·.token.literal)).getD ""

/-- The tree: a line for the program, then three lines for each statement. -/
def outline (p : Program) : List OutlineLine :=
  ⟨.program, "Program (" ++ p.bindings.length.repr ++ " statements)"⟩ ::
    p.bindings.flatMap Binding.outline

end Program

end LetLens
