/-!
Patterns for file names: `*` stands for any text, `?` for one character, `[a-z]` and `[!a-z]` for
one character in or outside a set, and `**`, alone between slashes, for directories at any depth.
-/
namespace EntityModels.CommandLine

structure CharRange where
  low : Char
  high : Char
deriving DecidableEq, Repr

def CharRange.contains (r : CharRange) (c : Char) : Bool := r.low ≤ c && c ≤ r.high

inductive Wildcard where
  | char (c : Char)
  | anyChar
  | anyText
  | anyDirectories
  | oneOf (ranges : List CharRange)
  | noneOf (ranges : List CharRange)
deriving DecidableEq, Repr

inductive PatternFault where
  | tooManyStars
  | starsInName
  | invalidRange
deriving DecidableEq, Repr

/-- A fault with the number of characters before it. -/
structure PatternError where
  place : Nat
  fault : PatternFault
deriving DecidableEq, Repr

def PatternFault.message : PatternFault → String
  | .tooManyStars => "wildcards are either regular `*` or recursive `**`"
  | .starsInName => "recursive wildcards must form a single path component"
  | .invalidRange => "invalid range pattern"

def PatternError.message (e : PatternError) : String :=
  "Pattern syntax error near position " ++ toString e.place ++ ": " ++ e.fault.message

abbrev Pattern := List Wildcard

namespace Pattern

/-- The ranges in brackets: `a-z` is a range, any other character stands for itself. -/
def ranges : List Char → List CharRange
  | low :: '-' :: high :: rest => ⟨low, high⟩ :: ranges rest
  | c :: rest => ⟨c, c⟩ :: ranges rest
  | [] => []

/-- The text before the first closing bracket and the text after it. -/
def closeBracket : List Char → Option (List Char × List Char)
  | [] => none
  | c :: rest =>
    if c = ']' then some ([], rest)
    else (closeBracket rest).map fun (inside, after) => (c :: inside, after)

/-- A set of characters after its opening bracket, with the text after it. The first character of
the set may be a closing bracket. -/
def charSet? : List Char → Option (Wildcard × List Char)
  | '!' :: first :: rest =>
    (closeBracket rest).map fun (inside, after) => (.noneOf (ranges (first :: inside)), after)
  | first :: rest =>
    if first = '!' then none
    else (closeBracket rest).map fun (inside, after) => (.oneOf (ranges (first :: inside)), after)
  | [] => none

/-- Reads the pattern in `text`, of which `place` characters have been read, the last one being
`previous`. `steps` bounds the characters left. -/
def read : (steps : Nat) → (place : Nat) → (previous : Option Char) → List Char →
    Except PatternError Pattern
  | 0, _, _, _ => .ok []
  | _, _, _, [] => .ok []
  | steps + 1, place, previous, c :: rest =>
    if c = '?' then (.anyChar :: ·) <$> read steps (place + 1) (some c) rest
    else if c = '[' then
      match charSet? rest with
      | none => .error ⟨place, .invalidRange⟩
      | some (wildcard, after) =>
        (wildcard :: ·) <$> read steps (place + 1 + (rest.length - after.length)) (some ']') after
    else if c = '*' then
      let stars := rest.takeWhile (· = '*')
      let after := rest.dropWhile (· = '*')
      match stars with
      | [] => (.anyText :: ·) <$> read steps (place + 1) (some c) after
      | [_] =>
        if previous.any (· ≠ '/') then .error ⟨place - 1, .starsInName⟩
        else
          match after with
          | [] => .ok [.anyDirectories]
          | d :: after =>
            if d = '/' then
              (.anyDirectories :: ·) <$> read steps (place + 3) (some d) after
            else .error ⟨place + 2, .starsInName⟩
      | _ => .error ⟨place + 2, .tooManyStars⟩
    else (.char c :: ·) <$> read steps (place + 1) (some c) rest

def ofText? (text : String) : Except PatternError Pattern :=
  read (text.toList.length + 1) 0 none text.toList

inductive Comparison where
  | agrees
  | differs
  /-- The pattern asks for more characters than the text has. No end of the text agrees then. -/
  | tooShort
deriving DecidableEq, Repr

/-- Compares a text, and while that differs what is left of it after some of its first
characters. -/
def compareTails (compare : List Char → Comparison) : List Char → Comparison
  | [] => compare []
  | c :: rest =>
    match compare (c :: rest) with
    | .differs => compareTails compare rest
    | ended => ended

/-- Compares the first character of a text and, if it is accepted, what follows it. -/
def compareChar (accepts : Char → Bool) (compare : List Char → Comparison) :
    List Char → Comparison
  | [] => .tooShort
  | c :: rest => if accepts c then compare rest else .differs

def compare : Pattern → List Char → Comparison
  | [], text => if text.isEmpty then .agrees else .differs
  | .char c :: rest, text => compareChar (c = ·) (compare rest) text
  | .anyChar :: rest, text => compareChar (fun _ => true) (compare rest) text
  | .oneOf ranges :: rest, text =>
    compareChar (fun d => ranges.any (·.contains d)) (compare rest) text
  | .noneOf ranges :: rest, text =>
    compareChar (fun d => !ranges.any (·.contains d)) (compare rest) text
  | .anyText :: rest, text => compareTails (compare rest) text
  | .anyDirectories :: rest, text => compareTails (compare rest) text

def matchesText (p : Pattern) (text : List Char) : Bool := p.compare text = .agrees

def literalChar? : Wildcard → Option Char
  | .char c => some c
  | _ => none

/-- The text of a pattern without wildcards. -/
def literal? (p : Pattern) : Option String := (p.mapM literalChar?).map String.ofList

def isRecursive (p : Pattern) : Bool := p.contains .anyDirectories

def startsWithPoint (p : Pattern) : Bool := p.head? = some (.char '.')

end Pattern

end EntityModels.CommandLine
