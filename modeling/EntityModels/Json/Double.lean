import EntityModels.Json.Basic
import EntityModels.Text.Decimal

/-!
Doubles: their parts, and their text with the fewest digits that read back.
-/
namespace EntityModels.Double

open Text

/-- Whether the sign bit is set. -/
def isNegative (d : Double) : Bool := d.bits.toNat >>> 63 = 1

/-- The eleven bits of the exponent. -/
def exponentField (d : Double) : Nat := (d.bits.toNat >>> 52) % (1 <<< 11)

/-- The fifty-two bits of the fraction. -/
def fractionField (d : Double) : Nat := d.bits.toNat % (1 <<< 52)

/-- The absolute value of a finite double other than zero, with the fewest digits. -/
def magnitude (d : Double) : Decimal :=
  let subnormal := d.exponentField = 0
  let m := if subnormal then d.fractionField else d.fractionField + (1 <<< 52)
  let q : Int := (if subnormal then 1 else d.exponentField : Nat) - 1075
  let narrowBelow := d.fractionField = 0 && 1 < d.exponentField
  let interval := RoundingInterval.ofBinary m q narrowBelow
  (interval.shortest (interval.leadingExponent 640 309) 17 0).trimmed 400

/-- Numbers are written positionally from `0.00001` up to sixteen digits before the point. -/
def format : DecimalFormat := ⟨-5, 15⟩

/-- The text of a finite double. -/
def text (d : Double) : String :=
  let sign := if d.isNegative then "-" else ""
  if d.exponentField = 0 && d.fractionField = 0 then sign ++ "0.0"
  else sign ++ format.text d.magnitude

end EntityModels.Double
