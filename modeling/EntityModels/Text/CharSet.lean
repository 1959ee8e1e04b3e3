/-!
Sets of characters, written as the ascending list of the code points at which membership changes.
-/
namespace EntityModels.Text

/-- A set of characters, given by the code points at which membership changes, in ascending
order: a character is in the set when an odd number of them are at most its code point. -/
structure CharSet where
  bounds : Array Nat

def CharSet.contains (s : CharSet) (c : Char) : Bool :=
  s.bounds.countP (· ≤ c.toNat) % 2 = 1

end EntityModels.Text
