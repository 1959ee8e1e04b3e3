import EntityModels.Json.Reader
import EntityModels.Naming.Generated

/-!
Reading a naming off a text: an object with the member `classNamePrefix`, or the list of its value.
-/
namespace EntityModels.Naming

open Reader

def readMember (classPrefix : Option (Option String)) (name : String) :
    Reader (Option (Option String)) := do
  if name = "classNamePrefix" then
    if classPrefix.isSome then failData (.duplicateField name)
    readColon
    return some (← within (.key name) (readOptional readText))
  else
    readColon
    within (.key name) skipValue
    return classPrefix

def read (levels : Nat) : Reader Naming :=
  readEither "struct NamingConfig" levels
    (some fun _ => return ⟨(← readItem? (readOptional readText) 0).join⟩)
    (some fun _ => return ⟨(← readMembers readMember (← loopBound) true none).join⟩)

/-- The naming that a text holds, with nothing but blanks around it. -/
def ofText? (text : String) : Except Fault Naming :=
  Reader.run (do
    let naming ← read depthLimit
    readEnd
    return naming) text

end EntityModels.Naming
