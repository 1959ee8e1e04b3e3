import EntityModels.Text.Case
import EntityModels.Text.Cluster

/-!
Cutting a name into words, and joining words in Pascal case and camel case.

A blank, an underscore or a hyphen separates words and is dropped. Words also meet where a
lower-case letter is followed by an upper-case letter, where a letter and a digit meet, and before
the last of several upper-case letters that is followed by a lower-case one. Empty words are kept.
-/
namespace EntityModels.Naming

open EntityModels.Text

/-- A user-perceived character. -/
abbrev Cluster := List Char

/-- Whether a character separates words. -/
def isSeparator (x : Cluster) : Bool := x = ['_'] || x = ['-'] || x = [' ']

def isDigit (x : Cluster) : Bool := x.all Char.isDigit

/-- A character that has two cases and is in upper case. -/
def isUpper (x : Cluster) : Bool := toUpper x != toLower x && x == toUpper x

/-- A character that has two cases and is in lower case. -/
def isLower (x : Cluster) : Bool := toUpper x != toLower x && x == toLower x

/-- Whether a word ends between `x` and the characters after it. -/
def endsWord (x : Cluster) : List Cluster → Bool
  | [] => false
  | y :: rest =>
    (isLower x && isUpper y) || (isLower x && isDigit y) || (isUpper x && isDigit y) ||
      (isDigit x && isLower y) || (isDigit x && isUpper y) ||
      (isUpper x && isUpper y && rest.head?.any isLower)

/-- Puts a character in front of the first word. -/
def consWord (x : Cluster) : List (List Cluster) → List (List Cluster)
  | [] => [[x]]
  | word :: more => (x :: word) :: more

/-- The words of a name that has been cut into characters. -/
def wordsOf : List Cluster → List (List Cluster)
  | [] => [[]]
  | x :: rest =>
    if isSeparator x then [] :: wordsOf rest
    else if endsWord x rest then [x] :: wordsOf rest
    else consWord x (wordsOf rest)

def words (name : String) : List (List Cluster) := wordsOf (clusters name.toList)

/-- A word with its first letter in upper case and the rest, marks of that letter included, in lower
case. -/
def capitalized (word : List Cluster) : List Char :=
  match word.flatten with
  | [] => []
  | c :: rest => upperChar c ++ toLower rest

def joinPascal (ws : List (List Cluster)) : List Char := ws.flatMap capitalized

/-- Joins words, the first in lower case and the others capitalized. -/
def joinCamel : List (List Cluster) → List Char
  | [] => []
  | first :: others => toLower first.flatten ++ joinPascal others

def pascalCase (name : String) : String := String.ofList (joinPascal (words name))

def camelCase (name : String) : String := String.ofList (joinCamel (words name))

end EntityModels.Naming
