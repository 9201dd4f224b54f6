import LetLens.Token.Scanner
import LetLens.Program
import LetLens.Diagnostic

/-! The parser. It sees the token it is at and the one after it, and draws further tokens from a
scanner. A binding is `let`, a name, `=` and anything up to the next semicolon; a token that starts
no binding is passed over without a word. When a `let` is not followed by a name, or the name not by
`=`, the parser notes a diagnostic and goes on with the token that did not fit, so that token may
open the next binding. When the text ends inside a value, that is a diagnostic too.

`unread` counts what the parser has before it. Every step but one at the end token lowers it. -/

namespace LetLens

structure Parser where
  scanner : Scanner
  current : Token
  upcoming : Token
  /-- The diagnostics so far, in the order they were noted. -/
  diagnostics : List Diagnostic
deriving DecidableEq

namespace Parser

def ofScanner (s : Scanner) : Parser :=
  ⟨s.next.2.next.2, s.next.1, s.next.2.next.1, []⟩

def ofText (text : String) : Parser := ofScanner (.ofText text)

def advance (p : Parser) : Parser :=
  { p with scanner := p.scanner.next.2, current := p.upcoming, upcoming := p.scanner.next.1 }

/-- Notes that `expected` was due where `found` stands. -/
def note (p : Parser) (expected : TokenKind) (found : Token) : Parser :=
  { p with diagnostics := p.diagnostics ++ [⟨expected, found.kind, found.location⟩] }

def unread (p : Parser) : Nat :=
  p.scanner.rest.length + p.upcoming.isEnd.not.toNat + p.current.isEnd.not.toNat

@[simp] theorem unread_note (p : Parser) (expected : TokenKind) (found : Token) :
    (p.note expected found).unread = p.unread := rfl

theorem unread_advance_add_le (p : Parser) :
    p.advance.unread + p.current.isEnd.not.toNat ≤ p.unread := by
  simp only [unread, advance]
  cases hEnd : p.scanner.next.1.isEnd with
  | true =>
    have hRest := p.scanner.length_next_le
    simp
    omega
  | false =>
    have hRest := Scanner.length_next_lt hEnd
    simp
    omega

theorem unread_advance_le (p : Parser) : p.advance.unread ≤ p.unread := by
  have := p.unread_advance_add_le
  omega

theorem unread_advance_lt {p : Parser} (hEnd : p.current.isEnd = false) :
    p.advance.unread < p.unread := by
  have := p.unread_advance_add_le
  simp only [hEnd, Bool.not_false, Bool.toNat_true] at this
  omega

/-- Passes over a value to the next semicolon, and tells whether there is one. -/
def passValue (p : Parser) : Bool × Parser :=
  if p.current.kind = .semicolon then (true, p)
  else if _hEnd : p.current.isEnd then (false, p.note .semicolon p.current)
  else p.advance.passValue
termination_by p.unread
decreasing_by exact unread_advance_lt (by simpa using _hEnd)

theorem unread_passValue_le (p : Parser) : p.passValue.2.unread ≤ p.unread := by
  fun_induction passValue p with
  | case1 => exact Nat.le_refl _
  | case2 => simp
  | case3 p _ _ ih => exact Nat.le_trans ih p.unread_advance_le

/-- Reads a binding from its `let`, which is the current token. -/
def parseBinding (p : Parser) : Option Binding × Parser :=
  if p.upcoming.kind ≠ .ident then (none, p.note .ident p.upcoming)
  else
    let q := p.advance
    if q.upcoming.kind ≠ .assign then (none, q.note .assign q.upcoming)
    else
      let value := q.advance.passValue
      if value.1 then (some ⟨p.current, .ofToken q.current, none⟩, value.2)
      else (none, value.2)

/-- Reads what starts at the current token: a binding, or a token that starts none. -/
def parseItem (p : Parser) : Option Binding × Parser :=
  if p.current.kind = .kwLet then p.parseBinding else (none, p)

theorem unread_parseBinding_advance_lt {p : Parser} (hEnd : p.current.isEnd = false) :
    p.parseBinding.2.advance.unread < p.unread := by
  have hLow := unread_advance_lt hEnd
  have hValue := p.advance.advance.unread_passValue_le
  have hNext := p.advance.unread_advance_le
  unfold parseBinding
  dsimp only
  split
  · exact hLow
  · split
    · exact Nat.lt_of_le_of_lt (unread_advance_le _) hLow
    · have hLast := p.advance.advance.passValue.2.unread_advance_le
      split <;> dsimp only <;> omega

theorem unread_parseItem_advance_lt {p : Parser} (hEnd : p.current.isEnd = false) :
    p.parseItem.2.advance.unread < p.unread := by
  unfold parseItem
  split
  · exact unread_parseBinding_advance_lt hEnd
  · exact unread_advance_lt hEnd

def parseBindings (p : Parser) : List Binding × Parser :=
  if _hEnd : p.current.isEnd then ([], p)
  else
    let item := p.parseItem
    let later := item.2.advance.parseBindings
    (item.1.toList ++ later.1, later.2)
termination_by p.unread
decreasing_by exact unread_parseItem_advance_lt (by simpa using _hEnd)

/-- The program that is left to read. Afterwards the parser stands at the end token and keeps its
diagnostics. -/
def parseProgram (p : Parser) : Program × Parser :=
  let read := p.parseBindings
  (⟨read.1⟩, read.2)

end Parser

/-- What a text says: its program and its diagnostics. -/
structure Reading where
  program : Program
  diagnostics : List Diagnostic
deriving DecidableEq

def Reading.ofText (text : String) : Reading :=
  let result := (Parser.ofText text).parseProgram
  ⟨result.1, result.2.diagnostics⟩

end LetLens
