/-!
Identifiers: an ASCII letter or an underscore, then ASCII letters, digits and underscores.
-/
namespace EntityModels.Naming

def isIdentifierStart (c : Char) : Bool := c.isAlpha || c = '_'

def isIdentifierPart (c : Char) : Bool := c.isAlphanum || c = '_'

def isIdentifier (s : String) : Bool :=
  match s.toList with
  | [] => false
  | c :: rest => isIdentifierStart c && rest.all isIdentifierPart

end EntityModels.Naming
