import EntityModels.Json.Token

/-!
Reading JSON values off a text.

`readValue` reads a value whole. `skipValue` only checks the syntax of a value that is not needed:
it knows no limit of depth and no range of numbers. `readItems` and `readMembers` read the inside
of brackets for readers that expect a certain shape.
-/
namespace EntityModels.Reader

variable {α σ : Type}

/-- The number of brackets that may be open at a time. -/
def depthLimit : Nat := 127

/-- Whether another item of a list follows. A comma before it is taken. -/
def moreItems (first : Bool) : Reader Bool := do
  match ← lookToken with
  | none => failHere .eofInList
  | some c =>
    if c = ']' then return false
    else if first then return true
    else if c = ',' then
      step
      match ← lookToken with
      | none => failHere .eofInValue
      | some d => if d = ']' then failNext .trailingComma else return true
    else failNext .expectedListEnd

/-- Whether another member of an object follows. A comma before it is taken. -/
def moreMembers (first : Bool) : Reader Bool := do
  match ← lookToken with
  | none => failHere .eofInObject
  | some c =>
    if c = '}' then return false
    else if first then
      if c = '"' then return true else failNext .keyNotString
    else if c = ',' then
      step
      match ← lookToken with
      | none => failHere .eofInValue
      | some d =>
        if d = '"' then return true
        else if d = '}' then failNext .trailingComma
        else failNext .keyNotString
    else failNext .expectedObjectEnd

/-- The next key of an object, or nothing at its end. -/
def nextKey? (first : Bool) : Reader (Option String) :=
  within .unnamed do
    if ← moreMembers first then
      step
      return some (← readString)
    else return none

/-- Takes the colon between a key and its value. -/
def readColon : Reader Unit := do
  match ← lookToken with
  | none => failHere .eofInObject
  | some c => if c = ':' then step else failNext .expectedColon

/-- Reads one item if another follows; `index` items stand before it. -/
def readItem? (item : Reader α) (index : Nat) : Reader (Option α) := do
  if ← moreItems (index = 0) then return some (← within (.index index) item)
  else return none

/-- Reads the items of a list from the one at `index` on. -/
def readItems (item : Reader α) : (steps : Nat) → (index : Nat) → Reader (List α)
  | 0, _ => return []
  | steps + 1, index => do
    match ← readItem? item index with
    | none => return []
    | some x => return x :: (← readItems item steps (index + 1))

/-- Reads the members of an object in turn. `member` is given what has been gathered so far and the
key, and reads the colon and the value. -/
def readMembers (member : σ → String → Reader σ) :
    (steps : Nat) → (first : Bool) → σ → Reader σ
  | 0, _, gathered => return gathered
  | steps + 1, first, gathered => do
    match ← nextKey? first with
    | none => return gathered
    | some key => readMembers member steps false (← member gathered key)

def endList : Reader Unit := do
  match ← lookToken with
  | none => failHere .eofInList
  | some c =>
    if c = ']' then step
    else if c = ',' then
      step
      failNext (if (← lookToken) = some ']' then .trailingComma else .trailingCharacters)
    else failNext .trailingCharacters

def endObject : Reader Unit := do
  match ← lookToken with
  | none => failHere .eofInObject
  | some c =>
    if c = '}' then step
    else failNext (if c = ',' then .trailingComma else .trailingCharacters)

def readList (inside : Reader α) : Reader α := do
  step
  enclosed inside endList

def readObject (inside : Reader α) : Reader α := do
  step
  enclosed inside endObject

/-- A bound for the number of items and members that may follow. -/
def loopBound : Reader Nat := do return (← get).bound + 1

/-- Reads a value; lists and objects are left to `list` and `object`, at their bracket. -/
def readScalarOr (list object : Reader Json) : Reader Json := do
  match ← lookToken with
  | none => failHere .eofInValue
  | some c =>
    if c = 'n' then do step; readWord "ull".toList; return .null
    else if c = 't' then do step; readWord "rue".toList; return .bool true
    else if c = 'f' then do step; readWord "alse".toList; return .bool false
    else if c = '-' then do step; return .number (← readNumber true)
    else if c = '"' then do step; return .string (← readString)
    else if c = '[' then list
    else if c = '{' then object
    else if c.isDigit then return .number (← readNumber false)
    else failNext .expectedValue

/-- Reads the colon and the value of a member and puts it in front of those gathered. -/
def consMember (value : Reader Json) (gathered : List (String × Json)) (key : String) :
    Reader (List (String × Json)) := do
  readColon
  return (key, ← within (.key key) value) :: gathered

/-- Reads a value in which up to `levels` further brackets may be open at a time. -/
def readValue : (levels : Nat) → Reader Json
  | 0 => readScalarOr (failNext .tooDeep) (failNext .tooDeep)
  | levels + 1 =>
    readScalarOr
      (readList do return .array (← readItems (readValue levels) (← loopBound) 0))
      (readObject do
        return .object
          (← readMembers (consMember (readValue levels)) (← loopBound) true []).reverse)

/-- Fails because the value here is not of the expected kind. -/
def wrongType (expected : String) : Reader α :=
  placed do
    let value ← readScalarOr (return .array []) (return .object [])
    failData (.wrongType value.found expected)

def readText : Reader String := do
  if (← lookToken) = some '"' then
    step
    readString
  else if (← look).isNone then failHere .eofInValue
  else wrongType "a string"

def readOptional (reader : Reader α) : Reader (Option α) := do
  if (← lookToken) = some 'n' then
    step
    readWord "ull".toList
    return none
  else return some (← reader)

/-- Reads a list or an object, each with one level of depth less. -/
def readEither (expected : String) (levels : Nat)
    (list object : Option (Nat → Reader α)) : Reader α := do
  match ← lookToken with
  | none => failHere .eofInValue
  | some c =>
    match levels, (if c = '[' then list else none), (if c = '{' then object else none) with
    | 0, some _, _ => failNext .tooDeep
    | 0, _, some _ => failNext .tooDeep
    | levels + 1, some inside, _ => readList (inside levels)
    | levels + 1, none, some inside => readObject (inside levels)
    | _, none, none => wrongType expected

/-- Fails unless only blanks follow. -/
def readEnd : Reader Unit := do
  if (← lookToken).isSome then failNext .trailingCharacters

/-- Takes the digits of a skipped exponent at its letter. -/
def skipExponent : Reader Unit := do
  step
  if (← look) = some '+' ∨ (← look) = some '-' then step
  match ← look with
  | none => failHere .invalidNumber
  | some c => if c.isDigit then discard skipDigits else failNext .invalidNumber

/-- Takes what follows the digits of a skipped integer. -/
def skipFraction : Reader Unit := do
  if (← look) = some '.' then
    step
    if (← skipDigits) = 0 then failNext .invalidNumber
  if (← look) = some 'e' ∨ (← look) = some 'E' then skipExponent

/-- Takes a skipped number after its sign. -/
def skipNumber : Reader Unit := do
  match ← look with
  | none => failHere .invalidNumber
  | some c =>
    if c = '0' then
      step
      if (← look).any Char.isDigit then failNext .invalidNumber
      skipFraction
    else if c.isDigit then
      discard skipDigits
      skipFraction
    else failNext .invalidNumber

/-- Takes a skipped string after its opening quote. -/
def skipCharacters : (steps : Nat) → Reader Unit
  | 0 => failHere .eofInString
  | steps + 1 => do
    match ← look with
    | none => failHere .eofInString
    | some c =>
      if c = '"' then step
      else if c = '\\' then
        step
        match ← look with
        | none => failHere .eofInString
        | some d =>
          if d = 'u' then
            step
            discard readHex
          else if (escaped? d).isSome then step
          else failNext .invalidEscape
        skipCharacters steps
      else if c.toNat < 32 then failHere .controlCharacter
      else
        step
        skipCharacters steps

/-- Takes a skipped string after its opening quote. -/
def skipString : Reader Unit := do skipCharacters (← loopBound)

/-- An open bracket around a skipped value. -/
inductive Frame where
  | list
  | object
deriving DecidableEq, Repr

/-- The bracket that closes a frame. -/
def Frame.closing : Frame → Char
  | .list => ']'
  | .object => '}'

/-- Takes the key and the colon of a skipped member. -/
def skipKey : Reader Unit := do
  match ← lookToken with
  | none => failHere .eofInObject
  | some c =>
    if c = '"' then
      step
      skipString
      readColon
    else failNext .keyNotString

/-- Goes on to the next value inside a frame. -/
def skipInto : Frame → Reader Unit
  | .list => pure ()
  | .object => skipKey

/-- Takes a skipped scalar or an opening bracket. The result says whether a bracket was opened, and
which frames are open then. -/
def skipStart (frames : List Frame) : Reader (Bool × List Frame) := do
  match ← lookToken with
  | none => failHere .eofInValue
  | some c =>
    if c = 'n' then do step; readWord "ull".toList; return (false, frames)
    else if c = 't' then do step; readWord "rue".toList; return (false, frames)
    else if c = 'f' then do step; readWord "alse".toList; return (false, frames)
    else if c = '-' then do step; skipNumber; return (false, frames)
    else if c = '"' then do step; skipString; return (false, frames)
    else if c = '[' then do step; return (true, .list :: frames)
    else if c = '{' then do step; return (true, .object :: frames)
    else if c.isDigit then do skipNumber; return (false, frames)
    else failNext .expectedValue

/-- Takes the end of the innermost frame, or what leads to the next value inside it and the start of
that value. `opened` says that the frame has just been opened. -/
def skipNext (opened : Bool) (frame : Frame) (frames : List Frame) :
    Reader (Bool × List Frame) := do
  match ← lookToken with
  | none => failHere (if frame = .list then .eofInList else .eofInObject)
  | some c =>
    if c = frame.closing then
      step
      return (false, frames)
    else if opened then
      skipInto frame
      skipStart (frame :: frames)
    else if c = ',' then
      step
      skipInto frame
      skipStart (frame :: frames)
    else failNext (if frame = .list then .expectedListEnd else .expectedObjectEnd)

/-- Takes a skipped value to its end, once its start has been taken. -/
def skipRest : (steps : Nat) → (opened : Bool) → List Frame → Reader Unit
  | _, _, [] => pure ()
  | 0, _, _ => pure ()
  | steps + 1, opened, frame :: frames => do
    let (opened, frames) ← skipNext opened frame frames
    skipRest steps opened frames

/-- Takes a value that is not needed. -/
def skipValue : Reader Unit := do
  let bound ← loopBound
  let (opened, frames) ← skipStart []
  skipRest bound opened frames

end EntityModels.Reader

namespace EntityModels.Json

/-- The value at the start of a text. -/
def ofPrefix? (text : String) : Except Fault Json :=
  (Reader.readValue Reader.depthLimit).run text

/-- The value that a text holds, with nothing but blanks around it. -/
def ofText? (text : String) : Except Fault Json :=
  Reader.run (do
    let value ← Reader.readValue Reader.depthLimit
    Reader.readEnd
    return value) text

end EntityModels.Json
