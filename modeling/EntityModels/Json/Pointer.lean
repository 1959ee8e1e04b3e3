import EntityModels.Json.Basic

/-!
JSON pointers: a path of reference tokens, each after a slash. In a token `~1` stands for a slash
and `~0` for a tilde.
-/
namespace EntityModels.Json

/-- Replaces `~` followed by `mark` by one character. -/
def unescape (mark replacement : Char) : List Char → List Char
  | '~' :: c :: rest =>
    if c = mark then replacement :: unescape mark replacement rest
    else '~' :: unescape mark replacement (c :: rest)
  | c :: rest => c :: unescape mark replacement rest
  | [] => []

/-- The key or index for which a reference token stands. -/
def tokenText (token : List Char) : List Char := unescape '0' '~' (unescape '1' '/' token)

def splitSlashes : List Char → List (List Char)
  | [] => [[]]
  | c :: rest =>
    if c = '/' then [] :: splitSlashes rest
    else match splitSlashes rest with
      | [] => [[c]]
      | token :: more => (c :: token) :: more

/-- The index for which a token stands: decimal digits without a leading zero. -/
def tokenIndex? (token : List Char) : Option Nat :=
  match token with
  | [] => none
  | '0' :: _ :: _ => none
  | digits => if digits.all Char.isDigit then some (Nat.ofDigitChars 10 digits 0) else none

def descend? (token : List Char) : Json → Option Json
  | .object members => (Json.object members).member? (String.ofList token)
  | .array items => (tokenIndex? token).bind fun i => items[i]?
  | _ => none

/-- The part of a value that a pointer selects. The empty pointer selects all of it, and every other
pointer begins with a slash. -/
def select? (pointer : String) (value : Json) : Option Json :=
  match splitSlashes pointer.toList with
  | [[]] => some value
  | [] :: tokens => tokens.foldlM (fun value token => descend? (tokenText token) value) value
  | _ => none

end EntityModels.Json
