import EntityModels.Json.Fault

/-!
A position in a text, and the steps that readers are made of.

A reader keeps the position that it reached also when it fails: what encloses the fault is still
closed, and a fault of data is placed where that ended.
-/
namespace EntityModels

namespace Place

def start : Place := ⟨1, 0⟩

def after (place : Place) (c : Char) : Place :=
  if c = '\n' then ⟨place.line + 1, 0⟩ else ⟨place.line, place.column + c.utf8Size⟩

/-- The place after `n` bytes of a text. -/
def afterBytes (place : Place) : (n : Nat) → List Char → Place
  | 0, _ => place
  | _ + 1, [] => place
  | n + 1, c :: rest =>
    if c.utf8Size ≤ n + 1 then (place.after c).afterBytes (n + 1 - c.utf8Size) rest
    else ⟨place.line, place.column + (n + 1)⟩
termination_by _ text => text.length

end Place

/-- A position in a text: what is left of it and the place reached. `bound` is at least the number
of characters left and bounds every loop. -/
structure Cursor where
  rest : List Char
  place : Place
  bound : Nat

namespace Cursor

def ofText (text : String) : Cursor :=
  let rest := text.toList
  ⟨rest, .start, rest.length⟩

def next (cursor : Cursor) : Cursor :=
  match cursor.rest with
  | [] => cursor
  | c :: rest => { cursor with rest, place := cursor.place.after c }

def isBlank (c : Char) : Bool := c = ' ' || c = '\n' || c = '\t' || c = '\r'

/-- The position after the characters at the front that satisfy `p`. -/
def skipWhile (p : Char → Bool) (cursor : Cursor) : Cursor :=
  go cursor.rest cursor.place
where
  go : List Char → Place → Cursor
    | [], place => { cursor with rest := [], place }
    | c :: rest, place =>
      if p c then go rest (place.after c) else { cursor with rest := c :: rest, place }

end Cursor

/-- Reads a value off the text at a position. -/
abbrev Reader (α : Type) := ExceptT Fault (StateM Cursor) α

namespace Reader

variable {α : Type}

def look : Reader (Option Char) := do return (← get).rest.head?

def step : Reader Unit := modify Cursor.next

def skipBlanks : Reader Unit := modify (Cursor.skipWhile Cursor.isBlank)

def lookToken : Reader (Option Char) := do
  skipBlanks
  look

/-- Fails at the place `bytes` bytes further on, or at the end of the text. -/
def failAfter (bytes : Nat) (fault : SyntaxFault) : Reader α := do
  let cursor ← get
  throw ⟨.text fault, some (cursor.place.afterBytes bytes cursor.rest), []⟩

def failHere (fault : SyntaxFault) : Reader α := failAfter 0 fault

/-- Fails at the place after the next byte. -/
def failNext (fault : SyntaxFault) : Reader α := failAfter 1 fault

/-- Fails with a fault of data whose place is not known yet. -/
def failData (fault : DataFault) : Reader α := throw ⟨.data fault, none, []⟩

/-- Turns an outcome that does not depend on the text into a reader. -/
def ofExcept : Except DataFault α → Reader α
  | .ok a => pure a
  | .error fault => failData fault

/-- Gives the place reached to a fault that has none. -/
def placed (reader : Reader α) : Reader α := fun cursor =>
  match reader cursor with
  | (.ok a, cursor) => (.ok a, cursor)
  | (.error fault, cursor) => (.error (fault.placedAt cursor.place), cursor)

/-- Reads a part of a value; its faults lie under `pathStep`. -/
def within (pathStep : PathStep) (reader : Reader α) : Reader α := fun cursor =>
  match reader cursor with
  | (.ok a, cursor) => (.ok a, cursor)
  | (.error fault, cursor) => (.error (fault.under pathStep), cursor)

/-- Reads the inside of brackets, then closes them. They are closed also after a fault inside,
which wins over a fault in closing. -/
def enclosed (inside : Reader α) (close : Reader Unit) : Reader α := fun cursor =>
  let (result, cursor) := inside cursor
  let (closed, cursor) := close cursor
  match result, closed with
  | .ok a, .ok _ => (.ok a, cursor)
  | .error fault, _ => (.error (fault.placedAt cursor.place), cursor)
  | .ok _, .error fault => (.error (fault.placedAt cursor.place), cursor)

/-- Runs a reader from the start of a text. What stands after the value is not looked at. -/
def run (reader : Reader α) (text : String) : Except Fault α := (reader (Cursor.ofText text)).1

end Reader

end EntityModels
