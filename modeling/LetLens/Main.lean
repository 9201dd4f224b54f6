import LetLens.Command
import LetLens.Inspector.Render
import LetLens.Inspector.Terminal

/-! The program: it reads arguments, files and standard input, and writes what the command says. -/

namespace LetLens.Main

/-- The number and the words of an error of the system; other errors have no number. -/
def osError : IO.Error → OsError
  | .alreadyExists _ code message | .otherError code message | .resourceBusy code message
  | .resourceVanished code message | .unsupportedOperation code message
  | .hardwareFault code message | .unsatisfiedConstraints code message
  | .illegalOperation code message | .protocolError code message | .timeExpired code message
  | .interrupted _ code message | .noFileOrDirectory _ code message
  | .invalidArgument _ code message | .permissionDenied _ code message
  | .resourceExhausted _ code message | .inappropriateType _ code message
  | .noSuchThing _ code message => ⟨code.toNat, message⟩
  | .unexpectedEof => ⟨0, "Unexpected end of file"⟩
  | .userError message => ⟨0, message⟩

/-- What stands at a path. Whether it is a file is not asked, as it makes no difference to the
program: what can be read is told as a file, and what cannot as a device. -/
def find (path : String) : IO Entry := do
  try discard (IO.FS.realPath path)
  catch _ => return .missing
  try return .file (← IO.FS.readBinFile path).data.toList
  catch e => return .device (.error (osError e))

/-- What stands at the path that the command reads, if it reads one. -/
def findFor (arguments : List String) : IO Entry :=
  match Command.Mode.ofArguments arguments with
  | .ok (.check path) | .ok (.inspect path) => find path
  | _ => return .missing

partial def readLine (input : IO.FS.Stream) : IO Bytes := do
  match (← input.read 1).data.toList with
  | [b] => if b = 0x0a then return [b] else return b :: (← readLine input)
  | _ => return []

partial def converse (input output : IO.FS.Stream) : IO UInt32 := do
  output.putStr Repl.prompt
  output.flush
  let line ← readLine input
  if line.isEmpty then
    output.putStr Repl.farewell
    return 0
  match Repl.reply line with
  | .ok texts =>
    texts.forM output.putStr
    converse input output
  | .error _ =>
    (← IO.getStderr).putStr Command.invalidText
    return 1

/-- Shows the inspector after each key until it quits or no more keys come. -/
partial def inspect (input output : IO.FS.Stream) (i : Inspector) : IO Unit := do
  let (i, screen) := i.render 80 24
  output.putStr screen.controlText
  output.flush
  if i.quit then return
  let typed ← input.read 64
  if typed.isEmpty then return
  let keys := Key.ofChars ((decode? typed.data.toList).getD "").toList
  inspect input output (keys.foldl (fun i key => i.press ⟨key, []⟩) i)

def run (arguments : List String) : IO UInt32 := do
  let input ← IO.getStdin
  let output ← IO.getStdout
  let user ← IO.getEnv "USER"
  let userName ← IO.getEnv "USERNAME"
  let entry ← findFor arguments
  let surroundings : Command.Surroundings := { find := fun _ => entry, input := [], user, userName }
  match Command.Mode.ofArguments arguments with
  | .ok .prompt =>
    output.putStr (Command.greeting surroundings.name)
    converse input output
  | _ =>
    let outcome := Command.run surroundings arguments
    output.write outcome.stdout.toByteArray
    (← IO.getStderr).putStr outcome.stderr
    if let some i := outcome.inspector then inspect input output i
    return outcome.code.toUInt32

end LetLens.Main

def main (arguments : List String) : IO UInt32 := LetLens.Main.run arguments
