/-!
The Jaro similarity of two texts: how many characters they share at about the same place, and how
many of those stand in another order.
-/
namespace EntityModels.Text

/-- Takes the first of the characters of `b` at the places from `low` to below `high` that equals
`c` and is not taken yet. `place` counts the places passed. -/
def takeEqual (c : Char) (low high : Nat) :
    (place : Nat) → List (Char × Bool) → Option (List (Char × Bool))
  | _, [] => none
  | place, (d, taken) :: rest =>
    if high ≤ place then none
    else if low ≤ place && c = d && !taken then some ((d, true) :: rest)
    else (takeEqual c low high (place + 1) rest).map ((d, taken) :: ·)

/-- Matches the characters of `a` with characters of `b` at most `range` places away. The result
holds the matched characters of `a` in order, and those of `b` with a mark on the matched ones. -/
def matchCharacters (range : Nat) :
    (place : Nat) → List Char → List (Char × Bool) → List Char × List (Char × Bool)
  | _, [], b => ([], b)
  | place, c :: rest, b =>
    match takeEqual c (place - range) (place + range + 1) 0 b with
    | none => matchCharacters range (place + 1) rest b
    | some b =>
      let (matched, b) := matchCharacters range (place + 1) rest b
      (c :: matched, b)

/-- The Jaro similarity: 1 for equal texts, 0 for texts that share no character. -/
def jaro (a b : String) : Float :=
  let s := a.toList
  let t := b.toList
  if s.isEmpty && t.isEmpty then 1
  else
    let range := max s.length t.length / 2 - 1
    let (matched, marked) := matchCharacters range 0 s (t.map (·, false))
    let others := (marked.filter (·.2)).map (·.1)
    let m := matched.length
    if m = 0 then 0
    else
      let moved := ((matched.zip others).filter fun (c, d) => c ≠ d).length / 2
      let share := fun (n d : Nat) => Float.ofNat n / Float.ofNat d
      (share m s.length + share m t.length + share (m - moved) m) / 3

/-- Puts a candidate behind all that are at most as similar. -/
def insertCandidate (candidate : Float × String) : List (Float × String) → List (Float × String)
  | [] => [candidate]
  | first :: rest =>
    if first.1 > candidate.1 then candidate :: first :: rest
    else first :: insertCandidate candidate rest

/-- The candidates that are similar to a text, the most similar one last. -/
def similar (text : String) (candidates : List String) : List String :=
  let scored := (candidates.map fun c => (jaro text c, c)).filter (·.1 > 0.7)
  (scored.foldl (fun sorted c => insertCandidate c sorted) []).map (·.2)

end EntityModels.Text
