import EntityModels.Json.Double
import EntityModels.Text.Quoted

/-!
Writing JSON: in one line without blanks, or indented by two blanks a level.
-/
namespace EntityModels.Json

def hexByte (n : Nat) : String :=
  if n < 16 then "0" ++ Text.hexDigits n else Text.hexDigits n

def stringChar (c : Char) : String :=
  if c = '"' then "\\\""
  else if c = '\\' then "\\\\"
  else if c = '\n' then "\\n"
  else if c = '\r' then "\\r"
  else if c = '\t' then "\\t"
  else if c.toNat = 8 then "\\b"
  else if c.toNat = 12 then "\\f"
  else if c.toNat < 32 then "\\u00" ++ hexByte c.toNat
  else c.toString

def stringText (s : String) : String :=
  "\"" ++ s.foldl (fun text c => text ++ stringChar c) "" ++ "\""

def numberText : JsonNumber → String
  | .integer n => toString n
  | .double d => d.text

mutual

/-- A value in one line, without blanks. -/
def compact : Json → String
  | .null => "null"
  | .bool true => "true"
  | .bool false => "false"
  | .number n => numberText n
  | .string s => stringText s
  | .array items => "[" ++ compactItems items ++ "]"
  | .object members => "\x7b" ++ compactMembers members ++ "\x7d"

def compactItems : List Json → String
  | [] => ""
  | [item] => item.compact
  | item :: rest => item.compact ++ "," ++ compactItems rest

def compactMembers : List (String × Json) → String
  | [] => ""
  | [(name, value)] => stringText name ++ ":" ++ value.compact
  | (name, value) :: rest =>
    stringText name ++ ":" ++ value.compact ++ "," ++ compactMembers rest

end

/-- The start of a line `level` levels deep. -/
def lineStart (level : Nat) : String := "\n" ++ String.ofList (List.replicate (2 * level) ' ')

mutual

/-- A value over several lines. `level` is the number of brackets around it. -/
def indented (level : Nat) : Json → String
  | .null => "null"
  | .bool true => "true"
  | .bool false => "false"
  | .number n => numberText n
  | .string s => stringText s
  | .array [] => "[]"
  | .array (item :: rest) =>
    "[" ++ indentedItems (level + 1) (item :: rest) ++ lineStart level ++ "]"
  | .object [] => "\x7b\x7d"
  | .object (entry :: rest) =>
    "\x7b" ++ indentedMembers (level + 1) (entry :: rest) ++ lineStart level ++ "\x7d"

def indentedItems (level : Nat) : List Json → String
  | [] => ""
  | [item] => lineStart level ++ item.indented level
  | item :: rest =>
    lineStart level ++ item.indented level ++ "," ++ indentedItems level rest

def indentedMembers (level : Nat) : List (String × Json) → String
  | [] => ""
  | [(name, value)] => lineStart level ++ stringText name ++ ": " ++ value.indented level
  | (name, value) :: rest =>
    lineStart level ++ stringText name ++ ": " ++ value.indented level ++ "," ++
      indentedMembers level rest

end

/-- A value over several lines, each level indented by two blanks. -/
def pretty (value : Json) : String := value.indented 0

end EntityModels.Json
