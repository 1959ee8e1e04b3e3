import EntityModels.CommandLine.Run

/-!
The program itself: the operations on files carried out on the file system, the log and the styles
as the environment asks for them, and the outcome written to the standard streams.
-/
namespace EntityModels.CommandLine

def kindOnDisk? (path : String) : IO (Option FileKind) := do
  try
    let data ← (← IO.FS.realPath path).metadata
    return some (if data.type == .dir then .directory else .file)
  catch _ => return none

/-- The fault for which the number of a system error stands. Some operations give the number with a
minus sign. -/
def faultOfCode? (code : UInt32) : Option FileFault :=
  match min code.toNat (-code).toNat with
  | 2 => some .notFound
  | 13 => some .denied
  | 17 => some .alreadyThere
  | 20 => some .notDirectory
  | 21 => some .isDirectory
  | 36 => some .nameTooLong
  | _ => none

/-- The fault of a failed operation. -/
def faultOnDisk (path : String) (error : IO.Error) : IO FileFault := do
  let fault? := match error with
    | .noFileOrDirectory _ code _ | .permissionDenied _ code _ | .alreadyExists _ code _
    | .inappropriateType _ code _ | .invalidArgument _ code _ => faultOfCode? code
    | _ => none
  match fault?, ← kindOnDisk? path with
  | some fault, _ => return fault
  | none, some .directory => return .isDirectory
  | none, _ => return .other (toString error)

def attempt {α : Type} (path : String) (operation : IO α) : IO (Except FileFault α) := do
  try
    return .ok (← operation)
  catch error => return .error (← faultOnDisk path error)

def readOnDisk (path : String) : IO (Except FileFault String) := do
  match ← attempt path (IO.FS.readBinFile path) with
  | .error fault => return .error fault
  | .ok bytes =>
    match String.fromUTF8? bytes with
    | some text => return .ok text
    | none => return .error .notText

def diskOperations : Files IO where
  kind? := kindOnDisk?
  names path := attempt path do
    return (← (← IO.FS.realPath path).readDir).toList.map (·.fileName)
  read := readOnDisk
  makeDirectory path := attempt path (IO.FS.createDir path)
  write path text := attempt path (IO.FS.writeFile path text)

/-- A number in decimal digits, at least so many. -/
def padded (width n : Nat) : String :=
  let digits := toString n
  String.ofList (List.replicate (width - digits.length) '0') ++ digits

/-- The year, the month and the day, the given number of days after the first of January 1970. -/
def dateOf (days : Nat) : Nat × Nat × Nat :=
  -- counted in years that begin in March, so that a leap day is the last of its year
  let day := days + 719468
  let ofEra := day % 146097
  let yearOfEra := (ofEra - ofEra / 1460 + ofEra / 36524 - ofEra / 146096) / 365
  let ofYear := ofEra - (365 * yearOfEra + yearOfEra / 4 - yearOfEra / 100)
  let month := (5 * ofYear + 2) / 153
  let year := day / 146097 * 400 + yearOfEra
  (if month < 10 then year else year + 1, if month < 10 then month + 3 else month - 9,
    ofYear - (153 * month + 2) / 5 + 1)

/-- A time as log lines have it, in seconds after the first of January 1970 and nanoseconds. -/
def timeText (seconds nanoseconds : Nat) : String :=
  let (year, month, day) := dateOf (seconds / 86400)
  padded 4 year ++ "-" ++ padded 2 month ++ "-" ++ padded 2 day ++ "T" ++
    padded 2 (seconds / 3600 % 24) ++ ":" ++ padded 2 (seconds / 60 % 60) ++ ":" ++
    padded 2 (seconds % 60) ++ "." ++ padded 6 (nanoseconds / 1000) ++ "Z"

example : timeText 951831296 5000 = "2000-02-29T13:34:56.000005Z" := by decide +kernel

/-- The time of the process as the system shows it. -/
def timeOfProcess : IO String := do
  try
    let time := (← (← IO.FS.realPath "/proc/self").metadata).modified
    return timeText time.sec.toNat time.nsec.toNat
  catch _ => return timeText 0 0

/-- Whether the log has styles. -/
def logIsStyled : IO Bool := return (← IO.getEnv "NO_COLOR").all (·.isEmpty)

/-- Whether labels have styles: when they are forced, or when the output goes to a terminal and
nobody has refused them. -/
def labelsAreStyled : IO Bool := do
  let isSet (name : String) : IO (Option Bool) :=
    return (← IO.getEnv name).map fun value => value != "0"
  if (← isSet "CLICOLOR_FORCE") = some true then return true
  if (← isSet "NO_COLOR").isSome then return false
  return (← isSet "CLICOLOR").getD true && (← (← IO.getStdout).isTty)

/-- The display for which the environment asks. `RUST_LOG` has the directives of the log. -/
def displayOfEnvironment : IO (Bool → Display) := do
  let directives? := (← IO.getEnv "RUST_LOG").bind Directive.all?
  let time ← timeOfProcess
  let logStyled ← logIsStyled
  let labelsStyled ← labelsAreStyled
  return fun verbose =>
    { log := { Log.off with
        shows := Directive.shows (directives?.getD [.byDefault verbose])
        line := fun event _ => lineAt logStyled time event }
      label := fun label => paint labelsStyled label.style label.word }

end EntityModels.CommandLine

open EntityModels.CommandLine in
def main (arguments : List String) : IO UInt32 := do
  let outcome ← runShowing diskOperations (← displayOfEnvironment) arguments
  IO.print outcome.stdout
  IO.eprint outcome.stderr
  return UInt32.ofNat outcome.status
