import EntityModels.Record

/-!
JSON values. Members of objects keep the order in which they were written, and a reader may leave
several members of one name; `Json.lastWins` settles them.
-/
namespace EntityModels

/-- A double-precision number, by its bits. -/
structure Double where
  bits : UInt64
deriving DecidableEq, Repr, Inhabited

/-- A number: an integer of 64 bits, signed or unsigned, or a double. -/
inductive JsonNumber where
  | integer (value : Int)
  | double (value : Double)
deriving DecidableEq, Repr, Inhabited

/-- A JSON value. -/
inductive Json where
  | null
  | bool (value : Bool)
  | number (value : JsonNumber)
  | string (value : String)
  | array (items : List Json)
  | object (members : List (String × Json))
deriving Inhabited, Repr

namespace Json

def int (n : Int) : Json := .number (.integer n)

def nat (n : Nat) : Json := .int n

def strings (texts : List String) : Json := .array (texts.map .string)

def stringOrNull : Option String → Json
  | none => .null
  | some text => .string text

/-- The first member of that name in an object. -/
def member? (name : String) : Json → Option Json
  | .object members => (members.find? fun entry => entry.1 = name).map (·.2)
  | _ => none

mutual

/-- Leaves one member of each name in every object: the last value, at the first place. -/
def lastWins : Json → Json
  | .null => .null
  | .bool b => .bool b
  | .number n => .number n
  | .string s => .string s
  | .array items => .array (lastWinsItems items)
  | .object members => .object (lastWinsMembers members [])

def lastWinsItems : List Json → List Json
  | [] => []
  | item :: rest => item.lastWins :: lastWinsItems rest

/-- Puts the settled values of the members in turn into `settled`. -/
def lastWinsMembers : List (String × Json) → List (String × Json) → List (String × Json)
  | [], settled => settled
  | (name, value) :: rest, settled => lastWinsMembers rest (putEntry name value.lastWins settled)

end

end Json

end EntityModels
