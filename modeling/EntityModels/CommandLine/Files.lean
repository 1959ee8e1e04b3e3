/-!
The files that the program sees: the operations it needs, whatever carries them out, and what can
go wrong in them.
-/
namespace EntityModels.CommandLine

inductive FileFault where
  | notFound
  | denied
  | alreadyThere
  | notDirectory
  | isDirectory
  | nameTooLong
  | notText
  | other (message : String)
deriving DecidableEq, Repr

def FileFault.message : FileFault → String
  | .notFound => "No such file or directory (os error 2)"
  | .denied => "Permission denied (os error 13)"
  | .alreadyThere => "File exists (os error 17)"
  | .notDirectory => "Not a directory (os error 20)"
  | .isDirectory => "Is a directory (os error 21)"
  | .nameTooLong => "File name too long (os error 36)"
  | .notText => "stream did not contain valid UTF-8"
  | .other text => text

namespace Path

/-- Cuts a path at its slashes. -/
def split : List Char → List (List Char)
  | [] => [[]]
  | c :: rest =>
    if c = '/' then [] :: split rest
    else match split rest with
      | [] => [[c]]
      | part :: more => (c :: part) :: more

def parts (path : String) : List String := (split path.toList).map String.ofList

def join (parts : List String) : String := String.intercalate "/" parts

def child (directory name : String) : String :=
  if directory.endsWith "/" then directory ++ name else directory ++ "/" ++ name

/-- Takes the parts off the end of a reversed path that lead nowhere else. -/
def trimReversed : List String → List String
  -- the first part of a path has none before it, and stays
  | part :: before :: more =>
    if part = "" ∨ part = "." then trimReversed (before :: more) else part :: before :: more
  | parts => parts

/-- The directory that holds the file at a path; the empty text stands for the current one. -/
def parent? (path : String) : Option String :=
  match trimReversed (parts path).reverse with
  | [] => none
  -- the root is in no directory
  | [""] => none
  | _ :: before =>
    match (trimReversed before).reverse with
    | [""] => some "/"
    | parts => some (join parts)

/-- The path with these reversed parts and the directories around it, from the inside out. -/
def ancestors : List String → List String
  | [] => []
  | part :: before =>
    -- neither the root nor the current directory counts, except where the path begins with a point
    if part = "" ∨ (part = "." ∧ before ≠ []) then ancestors before
    else join (part :: before).reverse :: ancestors before

/-- Whether a path is a way of writing the current directory. -/
def isCurrent (path : String) : Bool :=
  match parts path with
  | [] => false
  | first :: more => first = "." && more.all fun part => part = "" || part = "."

end Path

inductive FileKind where
  | file
  | directory
deriving DecidableEq, Repr

structure Files (m : Type → Type) where
  kind? : String → m (Option FileKind)
  /-- The names in a directory, in any order. -/
  names : String → m (Except FileFault (List String))
  read : String → m (Except FileFault String)
  /-- Makes a directory; the one around it has to be there. -/
  makeDirectory : String → m (Except FileFault Unit)
  write : String → String → m (Except FileFault Unit)

namespace Files

variable {m : Type → Type} [Monad m]

def isThere (files : Files m) (path : String) : m Bool := do
  return (← files.kind? path).isSome

def isDirectory (files : Files m) (path : String) : m Bool := do
  return (← files.kind? path) = some .directory

/-- Makes a directory, which may have been there already. -/
def makeOrFind (files : Files m) (path : String) : m (Except FileFault Unit) := do
  match ← files.makeDirectory path with
  | .error .alreadyThere =>
    return if ← files.isDirectory path then .ok () else .error .alreadyThere
  | made => return made

/-- Makes the first of some directories. When the directory around it is not there, those after it
are made before; they stay when the first one then cannot be made. -/
def makeInside (files : Files m) : List String → m (Except FileFault Unit)
  | [] => return .ok ()
  | path :: around => do
    match ← files.makeOrFind path with
    | .error .notFound =>
      match ← files.makeInside around with
      | .ok () => files.makeOrFind path
      | .error fault => return .error fault
    | made => return made

def makeDirectories (files : Files m) (path : String) : m (Except FileFault Unit) :=
  files.makeInside (Path.ancestors (Path.parts path).reverse)

end Files

end EntityModels.CommandLine
