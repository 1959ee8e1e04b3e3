/-!
References: `#/definitions/tag`, `schemas/tag.json` and `tag` all name the entity `tag`.
-/
namespace EntityModels.Reference

/-- What follows the last slash. -/
def tail (reference : List Char) : List Char :=
  match reference with
  | [] => []
  | c :: rest => if '/' ∈ rest then tail rest else if c = '/' then rest else c :: rest

/-- A text without a number sign at its front. -/
def dropHash : List Char → List Char
  | '#' :: rest => rest
  | text => text

/-- The ending of a file that holds a schema. -/
def extension : List Char := ".json".toList

/-- A text without `.json` at its end. -/
def dropExtension (text : List Char) : List Char :=
  if extension.isSuffixOf text then text.take (text.length - extension.length) else text

/-- The entity name in a reference: what follows the last slash, without one number sign at its
front and one `.json` at its end. -/
def key (reference : String) : String :=
  String.ofList (dropExtension (dropHash (tail reference.toList)))

end EntityModels.Reference
