import LetLens.Text.Lines
import LetLens.Text.Utf8
import LetLens.Token.Scanner

/-! The token prompt: it asks for a line, writes the tokens of that line, one on each line of the
output, and asks again until the input ends. Every line is scanned by itself. The run stops early on
a line that is not UTF-8, of which nothing is written, or when the output has no room for all that
is to be written; then what still fits is written. -/

namespace LetLens.Repl

inductive Failure
  | invalidText
  /-- The output takes no more bytes. -/
  | outputFull
deriving DecidableEq

def Failure.message : Failure → String
  | invalidText => "stream did not contain valid UTF-8"
  | outputFull => "failed to write whole buffer"

/-- What was written, and why the run stopped before the end of the input if it did. -/
structure Outcome where
  output : Bytes
  failure : Option Failure
deriving DecidableEq

/-- The number of bytes that the output still takes; `none` for an output without a limit. -/
abbrev Room := Option Nat

def prompt : String := "ʕ ◔ϖ◔ʔ >> "

/-- Written at the end of the input, after the last prompt. -/
def farewell : String := "\n"

/-- Writes `text` and goes on with `next` and the room that is left, or writes what fits. -/
def write (text : String) (next : Room → Outcome) (room : Room) : Outcome :=
  let bytes := encode text
  match room with
  | none =>
    let later := next none
    ⟨bytes ++ later.output, later.failure⟩
  | some n =>
    if bytes.length ≤ n then
      let later := next (some (n - bytes.length))
      ⟨bytes ++ later.output, later.failure⟩
    else ⟨bytes.take n, some .outputFull⟩

/-- The answer to a line: its tokens without the end token, one to a line of the output. Each of
these lines is written by itself. -/
def reply (line : Bytes) : Except Failure (List String) :=
  match decode? line with
  | none => .error .invalidText
  | some text => .ok (((tokensOf text).filter (!·.isEnd)).map fun t => t.text ++ "\n")

def runLines : List Bytes → Room → Outcome
  | [] => write prompt (write farewell fun _ => ⟨[], none⟩)
  | line :: lines =>
    write prompt fun room =>
      match reply line with
      | .error failure => ⟨[], some failure⟩
      | .ok texts => texts.foldr write (runLines lines) room

def run (input : Bytes) (room : Room) : Outcome :=
  runLines (cutAfter (· = 0x0a) input) room

end LetLens.Repl
