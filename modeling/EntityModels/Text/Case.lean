import EntityModels.Text.CaseTable
import EntityModels.Text.Cased

/-!
Upper and lower case of text. ASCII letters have the case mapping of `Char`; the others are looked
up in the tables. A capital sigma that ends a word has a lower case of its own.
-/
namespace EntityModels.Text

def upperChar (c : Char) : List Char :=
  if c.toNat < 128 then [c.toUpper]
  else match upperExpansions.find? (·.1 = c.toNat) with
    | some (_, codes) => codes.map Char.ofNat
    | none => [(upperRuns.findSome? (·.map? c.toNat)).getD c]

/-- The lower case of one character, whatever stands around it. -/
def lowerChar (c : Char) : List Char :=
  if c.toNat < 128 then [c.toLower]
  else match lowerExpansions.find? (·.1 = c.toNat) with
    | some (_, codes) => codes.map Char.ofNat
    | none => [(lowerRuns.findSome? (·.map? c.toNat)).getD c]

/-- Whether the first character that is not case-ignorable is cased. -/
def startsCased (s : List Char) : Bool :=
  match s.dropWhile caseIgnorable.contains with
  | c :: _ => cased.contains c
  | [] => false

def toUpper (s : List Char) : List Char := s.flatMap upperChar

/-- The lower case of `s` after the text whose reverse is `before`. -/
def lowerAfter (before : List Char) : List Char → List Char
  | [] => []
  | c :: rest =>
    let lowered :=
      if c = 'Σ' then [if startsCased before && !startsCased rest then 'ς' else 'σ']
      else lowerChar c
    lowered ++ lowerAfter (c :: before) rest

def toLower (s : List Char) : List Char := lowerAfter [] s

end EntityModels.Text
