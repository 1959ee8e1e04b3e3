import EntityModels.CommandLine.Files
import EntityModels.CommandLine.Pattern

/-!
Expanding a pattern into the paths that match it, directory by directory, names in order.
-/
namespace EntityModels.CommandLine

/-- A pattern cut at its slashes, and where its search starts. -/
structure PathPattern where
  start : String
  parts : List Pattern
  onlyDirectories : Bool

/-- Reads a pattern of paths. The whole of it has to be a pattern, and each part as well. -/
def PathPattern.ofText? (text : String) : Except PatternError PathPattern := do
  discard (Pattern.ofText? text)
  let absolute := text.startsWith "/"
  let onlyDirectories := text.endsWith "/"
  let parts := Path.parts text
  let parts := if absolute then parts.drop 1 else parts
  let parts := if onlyDirectories then parts.dropLast else parts
  return { start := if absolute then "/" else ".", onlyDirectories,
           parts := ← parts.mapM Pattern.ofText? }

/-- The bytes with which a path is too long to lead anywhere. -/
def pathLimit : Nat := 4096

/-- The path of a name found in a directory. The current directory is not written. -/
def foundIn (directory name : String) : String :=
  if Path.isCurrent directory then name else Path.child directory name

/-- The last of the recursive patterns at the front, and the patterns after it. -/
def skipRecursive (part : Pattern) : List Pattern → Pattern × List Pattern
  | [] => (part, [])
  | next :: rest => if next.isRecursive then skipRecursive next rest else (part, next :: rest)

/-- A directory that could not be listed. -/
structure ListFault where
  directory : String
  fault : FileFault
deriving DecidableEq, Repr

def ListFault.message (f : ListFault) : String :=
  "attempting to read `" ++ f.directory ++ "` resulted in an error: " ++ f.fault.message

section Search

variable {m : Type → Type} [Monad m] (files : Files m) (onlyDirectories : Bool)

/-- A search of something for paths. The first directory that cannot be listed ends it. -/
abbrev Search (m : Type → Type) := ExceptT ListFault m (List String)

def searchAll {α : Type} (search : α → Search m) : List α → Search m
  | [] => return []
  | x :: rest => do return (← search x) ++ (← searchAll search rest)

/-- A path to which a whole pattern leads. -/
def accept (path : String) : Search m := do
  if onlyDirectories then return if ← files.isDirectory path then [path] else []
  else return [path]

/-- The names in a directory, in order. -/
def listed (directory : String) : ExceptT ListFault m (List String) := do
  match ← files.names directory with
  | .ok names => return names.mergeSort
  | .error fault => throw ⟨directory, fault⟩

/-- The special names that match a part. They are in every directory, but no listing has them. -/
def Pattern.specialNames (part : Pattern) : List String :=
  if part.startsWithPoint then ["..", "."].filter fun name => part.matchesText name.toList else []

variable (below : String → Pattern → List Pattern → Search m)

/-- The paths that match the parts that are left, from a path on. -/
def onward (path : String) : List Pattern → Search m
  | [] => accept files onlyDirectories path
  | next :: rest => below path next rest

/-- The paths from `path` on, if its last name matches `part`. -/
def matched (path name : String) (part : Pattern) (rest : List Pattern) : Search m :=
  if part.matchesText name.toList then onward files onlyDirectories below path rest else return []

/-- The paths from `path` on, past a recursive part. Only directories end a pattern with such a
part. -/
def pastRecursive (isDirectory : Bool) (path name : String) : List Pattern → Search m
  | [] => return if isDirectory then [path] else []
  | next :: rest => matched files onlyDirectories below path name next rest

/-- What is below a directory. There is nothing below anything else. -/
def inside (isDirectory : Bool) (path : String) (part : Pattern) (rest : List Pattern) : Search m :=
  if isDirectory then below path part rest else return []

/-- What a name found in a directory contributes. After a recursive part it may be past that part,
and what is below it may not be. -/
def searchName (directory : String) (part : Pattern) (rest : List Pattern) (name : String) :
    Search m := do
  let path := foundIn directory name
  if part.isRecursive then
    let (last, after) := skipRecursive part rest
    let isDirectory ← files.isDirectory path
    return (← pastRecursive files onlyDirectories below isDirectory path name after) ++
      (← inside below isDirectory path last after)
  else matched files onlyDirectories below path name part rest

/-- Whether a directory has a name. Every one has the special names. -/
def Files.hasName (directory name : String) : m Bool :=
  if name = "." ∨ name = ".." then files.isDirectory directory
  else files.isThere (foundIn directory name)

/-- The paths that match `part`, then `rest`, in a directory, when `below` finds those further
down. -/
def searchIn (directory : String) (part : Pattern) (rest : List Pattern) : Search m := do
  match part.literal? with
  | some name =>
    if ← files.hasName directory name then
      onward files onlyDirectories below (foundIn directory name) rest
    else return []
  | none =>
    if ← files.isDirectory directory then
      let names ← listed files directory
      return (← searchAll
          (fun name => onward files onlyDirectories below (Path.child directory name) rest)
          part.specialNames) ++
        (← searchAll (searchName files onlyDirectories below directory part rest) names)
    else return []

/-- The paths that match `part`, then `rest`, below a directory. Every step goes further down or
past a part. -/
def search : (steps : Nat) → (directory : String) → (part : Pattern) → (rest : List Pattern) →
    Search m
  | 0, _, _, _ => return []
  | steps + 1, directory, part, rest =>
    searchIn files onlyDirectories (search steps) directory part rest

end Search

variable {m : Type → Type} [Monad m]

/-- The paths that match a pattern and are found in a number of steps. -/
def PathPattern.expandWithin (steps : Nat) (files : Files m) (p : PathPattern) : Search m :=
  match p.parts with
  | [] => return []
  | part :: rest => search files p.onlyDirectories steps p.start part rest

/-- The paths that match a pattern. -/
def PathPattern.expand (files : Files m) (p : PathPattern) : Search m :=
  p.expandWithin (pathLimit + p.parts.length) files

end EntityModels.CommandLine
