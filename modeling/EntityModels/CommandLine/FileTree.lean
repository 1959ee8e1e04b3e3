import EntityModels.CommandLine.Files

/-!
A tree of files held as a value, and the operations on files carried out on it. A path that begins
with a slash starts at the root of the tree, any other path at the current directory.
-/
namespace EntityModels.CommandLine

/-- Where a file or a directory stands: the names from the root down. -/
abbrev Location := List String

/-- The files of a tree with their bytes, the current directory, the directories made besides it and
those that hold files, and the directories whose names cannot be listed. -/
structure FileTree where
  files : List (Location × ByteArray)
  directories : List Location
  current : Location
  closed : List Location := []

namespace FileTree

/-- The directories that need no file to be there. -/
def bareDirectories (t : FileTree) : List Location := t.current :: t.directories

def file? (t : FileTree) (place : Location) : Option ByteArray :=
  (t.files.find? (·.1 = place)).map (·.2)

/-- Whether a location is a directory: the root, one that has been made, or one above a file or a
directory. -/
def isDirectory (t : FileTree) (place : Location) : Bool :=
  place.isEmpty || t.bareDirectories.any (place.isPrefixOf ·) ||
    t.files.any fun entry => place.isPrefixOf entry.1 && place ≠ entry.1

def kindAt? (t : FileTree) (place : Location) : Option FileKind :=
  if t.isDirectory place then some .directory
  else if (t.file? place).isSome then some .file
  else none

/-- The bytes that a name may have, and those that a path may have. -/
def nameLimit : Nat := 255

@[inherit_doc nameLimit]
def pathSizeLimit : Nat := 4095

/-- The location to which the parts of a path lead from `place`. Every part is looked up in a
directory. -/
def follow (t : FileTree) (place : Location) : List String → Except FileFault Location
  | [] => .ok place
  | part :: rest =>
    match t.kindAt? place with
    | none => .error .notFound
    | some .file => .error .notDirectory
    | some .directory =>
      if part = "" ∨ part = "." then t.follow place rest
      else if part = ".." then t.follow place.dropLast rest
      else if nameLimit < part.utf8ByteSize then .error .nameTooLong
      else t.follow (place ++ [part]) rest

def start (t : FileTree) (path : String) : Location :=
  if path.startsWith "/" then [] else t.current

/-- Whether the text of a path can lead anywhere. -/
def checkPath (path : String) : Except FileFault Unit :=
  if path.isEmpty then .error .notFound
  else if pathSizeLimit < path.utf8ByteSize then .error .nameTooLong
  else .ok ()

def locate (t : FileTree) (path : String) : Except FileFault Location := do
  checkPath path
  t.follow (t.start path) (Path.parts path)

def kind? (t : FileTree) (path : String) : Option FileKind :=
  match t.locate path with
  | .ok place => t.kindAt? place
  | .error _ => none

/-- The names below a location. -/
def namesAt (t : FileTree) (place : Location) : List String :=
  ((t.files.map (·.1) ++ t.bareDirectories).filterMap fun below =>
    if place.isPrefixOf below then (below.drop place.length).head? else none).eraseDups

def names (t : FileTree) (path : String) : Except FileFault (List String) := do
  let place ← t.locate path
  match t.kindAt? place with
  | none => throw .notFound
  | some .file => throw .notDirectory
  | some .directory => if place ∈ t.closed then throw .denied else return t.namesAt place

def read (t : FileTree) (path : String) : Except FileFault String := do
  let place ← t.locate path
  match t.kindAt? place, t.file? place with
  | some .directory, _ => throw .isDirectory
  | _, none => throw .notFound
  | _, some bytes =>
    match String.fromUTF8? bytes with
    | some text => return text
    | none => throw .notText

def makeDirectory (t : FileTree) (path : String) : Except FileFault FileTree := do
  checkPath path
  match (Path.parts path).reverse.dropWhile (· = "") with
  | [] => throw .alreadyThere
  | name :: before =>
    -- the directory around it has to be there
    let around ← t.follow (t.start path) (before.reverse ++ ["."])
    if name = "." ∨ name = ".." then throw .alreadyThere
    if nameLimit < name.utf8ByteSize then throw .nameTooLong
    let place := around ++ [name]
    if (t.kindAt? place).isSome then throw .alreadyThere
    return { t with directories := t.directories ++ [place] }

/-- The location of a file to be written. -/
def locateToWrite (t : FileTree) (path : String) : Except FileFault Location := do
  checkPath path
  if path.endsWith "/" then
    -- the directory that this asks for need not be there, but the one around it has to
    let around := (((Path.parts path).reverse.dropWhile (· = "")).drop 1).reverse
    discard (t.follow (t.start path) (around ++ ["."]))
    throw .isDirectory
  let place ← t.locate path
  if t.isDirectory place then throw .isDirectory
  return place

def write (t : FileTree) (path text : String) : Except FileFault FileTree := do
  let place ← t.locateToWrite path
  return { t with files := t.files.filter (·.1 ≠ place) ++ [(place, text.toUTF8)] }

/-- Carries out an operation that changes the tree; after a fault the tree is as it was. -/
def change (operation : FileTree → Except FileFault FileTree) :
    StateM FileTree (Except FileFault Unit) := fun t =>
  match operation t with
  | .ok changed => (.ok (), changed)
  | .error fault => (.error fault, t)

def operations : Files (StateM FileTree) where
  kind? path := return (← get).kind? path
  names path := return (← get).names path
  read path := return (← get).read path
  makeDirectory path := change (·.makeDirectory path)
  write path text := change (·.write path text)

end FileTree

end EntityModels.CommandLine
