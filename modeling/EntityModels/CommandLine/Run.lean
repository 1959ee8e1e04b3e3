import EntityModels.CommandLine.Arguments
import EntityModels.CommandLine.Expansion
import EntityModels.CommandLine.Log
import EntityModels.Document.Load
import EntityModels.Json.Printer
import EntityModels.Model.Encoding

/-!
Running the commands: both find the inputs, load and compile them, which may be logged, and report
warnings and failed entities; one writes the compilation, the other only says how many models there
are.
-/
namespace EntityModels.CommandLine

/-- Why a command fails as a whole. -/
inductive RunError where
  | noMatch (pattern : String)
  | badPattern (pattern : String) (error : PatternError)
  | unlisted (fault : ListFault)
  | unreadable (path : String) (fault : FileFault)
  | notCompiled (paths : List String) (fault : RunFault)
  | notMade (directory : String) (fault : FileFault)
  | notWritten (path : String) (fault : FileFault)
  | failedEntities (failed total : Nat)
deriving DecidableEq, Repr

namespace RunError

def summary : RunError → String
  | .noMatch _ | .badPattern _ _ | .unlisted _ => "failed to resolve input file paths"
  | .unreadable path _ => "failed to read source file " ++ path
  | .notCompiled paths _ => "failed to compile " ++ String.intercalate ", " paths
  | .notMade directory _ => "failed to create " ++ directory
  | .notWritten path _ => "failed to write " ++ path
  | .failedEntities failed total =>
    toString failed ++ " of " ++ toString total ++ " entities failed to compile"

/-- The causes, each the cause of the one before. -/
def causes : RunError → List String
  | .noMatch pattern => ["glob pattern matched no files: " ++ pattern]
  | .badPattern pattern error => ["bad glob pattern: " ++ pattern, error.message]
  | .unlisted fault => [fault.message]
  | .unreadable _ fault => [fault.message]
  | .notCompiled _ fault => [fault.message]
  | .notMade _ fault => [fault.message]
  | .notWritten _ fault => [fault.message]
  | .failedEntities _ _ => []

/-- A cause with the lines after its first one indented. -/
def indented (first other cause : String) : String :=
  first ++ String.intercalate ("\n" ++ other) (cause.splitOn "\n")

/-- The report of an error. Several causes are numbered. -/
def report (e : RunError) : String :=
  "Error: " ++ e.summary ++
    (match e.causes with
    | [] => ""
    | [cause] => "\n\nCaused by:\n" ++ indented "    " "    " cause
    | causes =>
      "\n\nCaused by:" ++ String.join (causes.zipIdx.map fun (cause, i) =>
        "\n" ++ indented ("    " ++ toString i ++ ": ") "       " cause)) ++ "\n"

end RunError

/-- Whether a text is taken as a pattern and not as the path of a file. -/
def isPattern (text : String) : Bool :=
  text.toList.any fun c => c = '*' || c = '?' || c = '[' || c = '{'

variable {m : Type → Type} [Monad m]

/-- The paths found for a pattern. There has to be one. -/
def matchedPaths (pattern : String) : Except ListFault (List String) → Except RunError (List String)
  | .error fault => .error (.unlisted fault)
  | .ok [] => .error (.noMatch pattern)
  | .ok (path :: more) => .ok (path :: more)

/-- The paths for which an input stands. -/
def expandInput (files : Files m) (input : String) : ExceptT RunError m (List String) := do
  if !isPattern input then return [input]
  match PathPattern.ofText? input with
  | .error error => throw (.badPattern input error)
  | .ok pattern => ExceptT.mk (matchedPaths input <$> (pattern.expand files).run)

def readSource (files : Files m) (path : String) : ExceptT RunError m String := do
  match ← files.read path with
  | .ok text => return text
  | .error fault => throw (.unreadable path fault)

/-- Compiles the documents for which the inputs stand, with what that logs. -/
def Inputs.compile (files : Files m) (inputs : Inputs) :
    ExceptT RunError m (Trace × Compilation) := do
  let paths := (← inputs.patterns.mapM (expandInput files)).flatten
  let sources ← paths.mapM (readSource files)
  match compileTraced sources inputs.pointer ⟨inputs.classPrefix⟩ with
  | .ok compiled => return compiled
  | .error fault => throw (.notCompiled paths fault)

/-- Writes a text into a file, in a directory that is made if it is not there. -/
def writeOut (files : Files m) (path text : String) : ExceptT RunError m Unit := do
  if let some directory := Path.parent? path then
    if let .error fault ← files.makeDirectories directory then throw (.notMade directory fault)
  if let .error fault ← files.write path text then throw (.notWritten path fault)

/-- The warnings and the failed entities of a compilation, a line each. -/
def reportLines (display : Display) (c : Compilation) : String :=
  String.join (c.diagnostics.map fun d => display.label .warning ++ " " ++ d.message ++ "\n") ++
    String.join (c.failures.map fun f => display.label .error ++ " " ++ f.message ++ "\n")

/-- The error of a compilation with failed entities. -/
def failedEntities? (c : Compilation) : Option RunError :=
  if c.isClean then none
  else some (.failedEntities c.failures.length (c.failures.length + c.models.size))

def outcome (stdout stderr : String) : Option RunError → Outcome
  | none => { status := 0, stdout, stderr }
  | some error => { status := 1, stdout, stderr := stderr ++ error.report }

def Command.run (files : Files m) (display : Display) : Command → m Outcome
  | .compile inputs out => do
    match ← (inputs.compile files).run with
    | .error error => return outcome "" "" (some error)
    | .ok (trace, compilation) =>
      let lines := display.log.text trace ++ reportLines display compilation
      let text := compilation.toJson.pretty
      match out with
      | none => return outcome (text ++ "\n") lines (failedEntities? compilation)
      | some path =>
        match ← (writeOut files path text).run with
        | .error error => return outcome "" lines (some error)
        | .ok () => return outcome "" lines (failedEntities? compilation)
  | .check inputs => do
    match ← (inputs.compile files).run with
    | .error error => return outcome "" "" (some error)
    | .ok (trace, compilation) =>
      let lines := display.log.text trace ++ reportLines display compilation
      match failedEntities? compilation with
      | some error => return outcome "" lines (some error)
      | none =>
        return outcome "" (lines ++ display.label .ok ++ " " ++
          toString compilation.models.size ++ " models\n") none

/-- Runs the program. What it shows depends on whether the arguments ask for its course. -/
def runShowing (files : Files m) (display : (verbose : Bool) → Display) (arguments : List String) :
    m Outcome :=
  match parse arguments with
  | .error usage => return usage.outcome
  | .ok invocation => invocation.command.run files (display invocation.verbose)

/-- Runs the program without a log and without styles. -/
def run (files : Files m) (arguments : List String) : m Outcome :=
  runShowing files (fun _ => .plain) arguments

end EntityModels.CommandLine
