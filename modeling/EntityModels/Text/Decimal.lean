/-!
The shortest decimal that reads back as a given binary number.

A positive number `m · 2 ^ q` of a binary format is read from every decimal in an interval around
it; the ends belong to it when `m` is even. `Shortest.digits` finds the fewest digits whose decimal
lies in the interval and of these the nearest to the number.
-/
namespace EntityModels.Text

/-- A decimal `mantissa · 10 ^ exponent`. -/
structure Decimal where
  mantissa : Nat
  exponent : Int
deriving DecidableEq, Repr

/-- A number between two bounds, all three over one denominator. -/
structure RoundingInterval where
  low : Nat
  value : Nat
  high : Nat
  denominator : Nat
  closed : Bool

namespace RoundingInterval

/-- The interval of the reals that round to `m · 2 ^ q`. When `m` is the least mantissa of its
binade the gap below is half as wide as the gap above. -/
def ofBinary (m : Nat) (q : Int) (narrowBelow : Bool) : RoundingInterval :=
  let scale := 1 <<< q.toNat
  { low := (4 * m - if narrowBelow then 1 else 2) * scale
    value := 4 * m * scale
    high := (4 * m + 2) * scale
    denominator := 4 <<< (-q).toNat
    closed := m % 2 = 0 }

/-- Whether `c · 10 ^ e` lies in the interval. -/
def contains (i : RoundingInterval) (c : Nat) (e : Int) : Bool :=
  let point := c * Nat.pow 10 e.toNat * i.denominator
  let unit := Nat.pow 10 (-e).toNat
  if i.closed then i.low * unit ≤ point && point ≤ i.high * unit
  else i.low * unit < point && point < i.high * unit

/-- The decimal `c · 10 ^ e` or its upper neighbour on that grid: the one in the interval, and of
two the nearer to the value, at an equal distance the even one. -/
def nearest? (i : RoundingInterval) (e : Int) : Option Decimal :=
  let unit := Nat.pow 10 (-e).toNat
  let step := Nat.pow 10 e.toNat * i.denominator
  let c := i.value * unit / step
  let remainder := i.value * unit - c * step
  let lower := i.contains c e && c ≠ 0
  let upper := i.contains (c + 1) e
  if lower && upper then
    if 2 * remainder < step || (2 * remainder = step && c % 2 = 0) then some ⟨c, e⟩
    else some ⟨c + 1, e⟩
  else if lower then some ⟨c, e⟩
  else if upper then some ⟨c + 1, e⟩
  else none

/-- The exponent `k` with `10 ^ k ≤ value < 10 ^ (k + 1)`, searched downward from `k`. -/
def leadingExponent (i : RoundingInterval) : (steps : Nat) → (k : Int) → Int
  | 0, k => k
  | steps + 1, k =>
    if Nat.pow 10 k.toNat * i.denominator ≤ i.value * Nat.pow 10 (-k).toNat then k
    else i.leadingExponent steps (k - 1)

/-- The shortest decimal in the interval, trying the grids of 1, 2, … digits. -/
def shortest (i : RoundingInterval) (leading : Int) : (tries digits : Nat) → Decimal
  | 0, _ => ⟨i.value / i.denominator, 0⟩
  | tries + 1, digits =>
    match i.nearest? (leading - digits) with
    | some d => d
    | none => i.shortest leading tries (digits + 1)

end RoundingInterval

/-- Takes the zeros off the end of a decimal's digits; `steps` bounds their number. -/
def Decimal.trimmed : (steps : Nat) → Decimal → Decimal
  | 0, d => d
  | steps + 1, d =>
    if d.mantissa ≠ 0 ∧ d.mantissa % 10 = 0 then
      Decimal.trimmed steps ⟨d.mantissa / 10, d.exponent + 1⟩
    else d

/-- How a decimal is written: positionally while the exponent of its leading digit lies between two
limits, and with an exponent otherwise. -/
structure DecimalFormat where
  leastPositional : Int
  greatestPositional : Int

/-- An exponent, always with its sign. -/
def exponentText (e : Int) : String :=
  (if e < 0 then "e-" else "e+") ++ toString e.natAbs

/-- A decimal's text. A whole number written positionally ends in `.0`. -/
def DecimalFormat.text (format : DecimalFormat) (d : Decimal) : String :=
  let digits := (toString d.mantissa).toList
  let leading : Int := d.exponent + digits.length - 1
  if format.leastPositional ≤ leading && leading ≤ format.greatestPositional then
    if 0 ≤ d.exponent then
      String.ofList (digits ++ List.replicate d.exponent.toNat '0') ++ ".0"
    else if leading < 0 then
      "0." ++ String.ofList (List.replicate (-leading - 1).toNat '0' ++ digits)
    else
      String.ofList (digits.take (leading.toNat + 1)) ++ "." ++
        String.ofList (digits.drop (leading.toNat + 1))
  else
    match digits with
    | [] => ""
    | [digit] => digit.toString ++ exponentText leading
    | digit :: more => digit.toString ++ "." ++ String.ofList more ++ exponentText leading

end EntityModels.Text
