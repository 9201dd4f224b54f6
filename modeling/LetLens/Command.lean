import LetLens.Folder
import LetLens.Inspector.Basic
import LetLens.Repl
import LetLens.Text.Quoted

/-! The command line. Without arguments it runs the token prompt, with a path it opens the
inspector, and with `--check` and a path it prints the tree and the diagnostics of the text there
and tells by the exit code whether there are any. -/

namespace LetLens.Command

inductive Mode
  | prompt
  | inspect (path : String)
  | check (path : String)
  | help
deriving DecidableEq

inductive UsageError
  | unknownOption (option : String)
  | tooManyArguments
deriving DecidableEq

def UsageError.message : UsageError → String
  | unknownOption option => "Unknown option '" ++ option ++ "'"
  | tooManyArguments => "Too many arguments"

/-- Only the first argument can be an option; `--check` takes whatever follows it as a path. -/
def Mode.ofArguments : List String → Except UsageError Mode
  | [] => .ok .prompt
  | ["-h"] | ["--help"] => .ok .help
  | ["--check", path] => .ok (.check path)
  | argument :: others =>
    if argument.toList.head? = some '-' then .error (.unknownOption argument)
    else if others.isEmpty then .ok (.inspect argument)
    else .error .tooManyArguments

/-- Why a path gives no text. -/
inductive ReadError
  | notFound (path : String)
  | refused (e : OsError)
  | notUtf8
deriving DecidableEq

def programName : String := "gopher"

def usage : String :=
  "Usage:\n" ++
  "  " ++ programName ++ "                    # Start the token REPL\n" ++
  "  " ++ programName ++ " <file>             # Inspect a file in the TUI\n" ++
  "  " ++ programName ++ " --check <file>     # Print the tree and diagnostics\n"

def invalidText : String :=
  "Error: Error \x7b kind: InvalidData, message: \"" ++ Repl.Failure.invalidText.message ++
    "\" \x7d\n"

def ReadError.report : ReadError → String
  | notFound path => "Error: File '" ++ path ++ "' not found\n" ++ usage
  | refused e => "Error: Os \x7b code: " ++ e.code.repr ++ ", kind: " ++ e.kind ++ ", message: " ++
      quoted e.message ++ " \x7d\n"
  | notUtf8 => invalidText

/-- What the program is run in. -/
structure Surroundings where
  find : String → Entry
  input : Bytes
  user : Option String
  userName : Option String

namespace Surroundings

/-- The name to greet by. A name that is set is taken even if it is empty. -/
def name (s : Surroundings) : String := (s.user.or s.userName).getD "there"

/-- Reads what stands at a path, be it a file or not. -/
def readText (s : Surroundings) (path : String) : Except ReadError String :=
  match (s.find path).read? with
  | none => .error (.notFound path)
  | some (.error e) => .error (.refused e)
  | some (.ok content) => match decode? content with
    | some text => .ok text
    | none => .error .notUtf8

end Surroundings

/-- What a run writes, and its exit code. -/
structure Outcome where
  code : Nat
  stdout : Bytes
  stderr : String
  inspector : Option Inspector
deriving DecidableEq

/-- A run that writes to the standard output only. -/
def Outcome.told (stdout : String) (code : Nat) : Outcome := ⟨code, encode stdout, "", none⟩

/-- A run that fails and writes to the error output only. -/
def Outcome.refused (stderr : String) : Outcome := ⟨1, [], stderr, none⟩

def greeting (name : String) : String :=
  "Hello " ++ name ++ "! This is the Gopher programming language!\n"

/-- The tree of a program, then its diagnostics with the path before each. -/
def checkReport (path : String) (reading : Reading) : List String :=
  reading.program.outline.map OutlineLine.text ++
    reading.diagnostics.map fun d => path ++ ":" ++ d.location.text ++ ": " ++ d.message

def runPrompt (s : Surroundings) : Outcome :=
  let session := Repl.run s.input none
  let stdout := encode (greeting s.name) ++ session.output
  match session.failure with
  | none => ⟨0, stdout, "", none⟩
  | some _ => ⟨1, stdout, invalidText, none⟩

def runCheck (s : Surroundings) (path : String) : Outcome :=
  match s.readText path with
  | .error e => .refused e.report
  | .ok text =>
    let reading := Reading.ofText text
    .told (String.join ((checkReport path reading).map (· ++ "\n")))
      (if reading.diagnostics.isEmpty then 0 else 1)

def runInspect (s : Surroundings) (path : String) : Outcome :=
  match s.readText path with
  | .error e => .refused e.report
  | .ok text =>
    let i := Inspector.ofText text
    let counts := "Parsed " ++ i.tokens.length.repr ++ " token(s), " ++
      i.program.bindings.length.repr ++ " statement(s), " ++
      i.diagnostics.length.repr ++ " diagnostic(s).\n"
    ⟨0, [], "Parsing " ++ path ++ "...\n" ++ counts, some i⟩

def run (s : Surroundings) (arguments : List String) : Outcome :=
  match Mode.ofArguments arguments with
  | .error e => .refused ("Error: " ++ e.message ++ "\n\n" ++ usage)
  | .ok .help => ⟨0, [], usage, none⟩
  | .ok .prompt => runPrompt s
  | .ok (.check path) => runCheck s path
  | .ok (.inspect path) => runInspect s path

end LetLens.Command
