import EntityModels.Json.Cursor

/-!
Reading words, numbers and strings.
-/
namespace EntityModels.Reader

/-- Takes the rest of a word whose first letter has been taken. -/
def readWord : List Char → Reader Unit
  | [] => pure ()
  | c :: word => do
    match ← look with
    | none => failHere .eofInValue
    | some d =>
      if d = c then
        step
        readWord word
      else failNext .expectedWord

/-- A number as it is read: `significand · 10 ^ exponent`. -/
structure Scaled where
  negative : Bool
  significand : Nat
  exponent : Int

/-- The greatest significand that is collected; further digits only scale. -/
def significandLimit : Nat := (1 <<< 64) - 1

/-- The greatest exponent that is collected. -/
def exponentLimit : Nat := (1 <<< 31) - 1

def digitValue (c : Char) : Nat := c.toNat - '0'.toNat

def skipDigits : Reader Nat := do
  let digits := (← get).rest.takeWhile Char.isDigit
  modify (Cursor.skipWhile Char.isDigit)
  return digits.length

/-- Takes digits while the number that they extend stays within `limit`. The result is that number,
the count of digits taken, and whether a digit was left because of the limit. -/
def takeDigits (limit value : Nat) : Reader (Nat × Nat × Bool) := fun cursor =>
  go cursor value 0 cursor.rest cursor.place
where
  go (cursor : Cursor) (value count : Nat) :
      List Char → Place → Except Fault (Nat × Nat × Bool) × Cursor
    | [], place => (.ok (value, count, false), { cursor with rest := [], place })
    | c :: rest, place =>
      if c.isDigit then
        let extended := value * 10 + digitValue c
        if extended ≤ limit then go cursor extended (count + 1) rest (place.after c)
        else (.ok (value, count, true), { cursor with rest := c :: rest, place })
      else (.ok (value, count, false), { cursor with rest := c :: rest, place })

/-- `10 ^ n` as a double. -/
def powerOfTen (n : Nat) : Float := Float.ofScientific 1 false n

/-- Scales a double by a power of ten, in several divisions when the power is below the range of
doubles. `steps` bounds their number. -/
def scale : (steps : Nat) → Float → Int → Option Float
  | 0, f, _ => some f
  | steps + 1, f, e =>
    if e.natAbs ≤ 308 then
      if 0 ≤ e then
        let scaled := f * powerOfTen e.natAbs
        if scaled.isInf then none else some scaled
      else some (f / powerOfTen e.natAbs)
    else if f == 0.0 then some f
    else if 0 ≤ e then none
    else scale steps (f / powerOfTen 308) (e + 308)

def signed (negative : Bool) (f : Float) : JsonNumber :=
  .double ⟨(if negative then -f else f).toBits⟩

def toDouble (n : Scaled) : Reader JsonNumber :=
  match scale 20 (Float.ofNat n.significand) n.exponent with
  | some f => pure (signed n.negative f)
  | none => failHere .numberOutOfRange

/-- Keeps an exponent within 32 bits. -/
def clampExponent (e : Int) : Int := max (-(exponentLimit + 1)) (min exponentLimit e)

def readExponent (n : Scaled) : Reader JsonNumber := do
  step
  let upward ← do
    match ← look with
    | some '+' => step; pure true
    | some '-' => step; pure false
    | _ => pure true
  match ← look with
  | none => failHere .eofInValue
  | some c =>
    if c.isDigit then
      let (e, _, beyond) ← takeDigits exponentLimit 0
      if beyond then
        -- whatever the digits left are, the number is out of range or rounds to zero
        if n.significand ≠ 0 ∧ upward then failNext .numberOutOfRange
        else
          discard skipDigits
          return signed n.negative 0.0
      else toDouble { n with
        exponent := clampExponent (n.exponent + if upward then (e : Int) else -(e : Int)) }
    else failNext .invalidNumber

/-- Goes on after the digits before an exponent. -/
def readAfterDigits (n : Scaled) : Reader JsonNumber := do
  match ← look with
  | some 'e' | some 'E' => readExponent n
  | _ => toDouble n

def readFraction (n : Scaled) : Reader JsonNumber := do
  step
  let (significand, count, beyond) ← takeDigits significandLimit n.significand
  -- a fraction is cut off where the significand is full
  if beyond then
    discard skipDigits
  else if count = 0 then
    failNext (if (← look).isSome then .invalidNumber else .eofInValue)
  readAfterDigits { n with significand, exponent := n.exponent - count }

/-- The number that an integer without fraction and exponent stands for. -/
def integerOrDouble (negative : Bool) (significand : Nat) : JsonNumber :=
  if negative then
    -- a negative zero and what is below the signed integers are doubles
    if 0 < significand && significand ≤ 1 <<< 63 then .integer (-(significand : Int))
    else signed true (Float.ofNat significand)
  else .integer significand

/-- Goes on after the digits of an integer that fits the significand. -/
def readAfterInteger (negative : Bool) (significand : Nat) : Reader JsonNumber := do
  match ← look with
  | some '.' => readFraction ⟨negative, significand, 0⟩
  | some 'e' | some 'E' => readExponent ⟨negative, significand, 0⟩
  | _ => return integerOrDouble negative significand

def readNumber (negative : Bool) : Reader JsonNumber := do
  match ← look with
  | none => failHere .eofInValue
  | some '0' =>
    step
    match ← look with
    -- no digit follows a leading zero
    | some c => if c.isDigit then failNext .invalidNumber else readAfterInteger negative 0
    | none => readAfterInteger negative 0
  | some c =>
    if c.isDigit then
      let (significand, _, beyond) ← takeDigits significandLimit 0
      if beyond then
        let skipped ← skipDigits
        match ← look with
        | some '.' => readFraction ⟨negative, significand, skipped⟩
        | _ => readAfterDigits ⟨negative, significand, skipped⟩
      else readAfterInteger negative significand
    else failNext .invalidNumber

def hexValue? (c : Char) : Option Nat :=
  if c.isDigit then some (c.toNat - '0'.toNat)
  else if 'a' ≤ c ∧ c ≤ 'f' then some (c.toNat - 'a'.toNat + 10)
  else if 'A' ≤ c ∧ c ≤ 'F' then some (c.toNat - 'A'.toNat + 10)
  else none

/-- The number of bytes of a text, counted up to `n`. -/
def bytesUpTo : (n : Nat) → List Char → Nat
  | 0, _ => 0
  | _ + 1, [] => 0
  | n + 1, c :: rest => min (n + 1) (c.utf8Size + bytesUpTo (n + 1 - c.utf8Size) rest)
termination_by _ text => text.length

def readHex : Reader Nat := do
  match (← get).rest with
  | a :: b :: c :: d :: _ =>
    match hexValue? a, hexValue? b, hexValue? c, hexValue? d with
    | some a, some b, some c, some d =>
      step; step; step; step
      return ((a * 16 + b) * 16 + c) * 16 + d
    | _, _, _, _ => failAfter 4 .invalidEscape
  | rest =>
    failAfter 4 (if bytesUpTo 4 rest < 4 then .eofInString else .invalidEscape)

/-- Takes a character that has to follow the first half of a surrogate pair. -/
def expectInPair (c : Char) : Reader Unit := do
  match ← look with
  | none => failHere .eofInString
  | some d => if d = c then step else failNext .endOfEscape

def readUnicode : Reader Char := do
  let n ← readHex
  -- the second half of a pair cannot come first
  if 0xDC00 ≤ n ∧ n ≤ 0xDFFF then failHere .loneSurrogate
  else if 0xD800 ≤ n ∧ n ≤ 0xDBFF then
    expectInPair '\\'
    expectInPair 'u'
    let low ← readHex
    if 0xDC00 ≤ low ∧ low ≤ 0xDFFF then
      return Char.ofNat (0x10000 + (n - 0xD800) * 0x400 + (low - 0xDC00))
    else failHere .loneSurrogate
  else return Char.ofNat n

/-- The character for which a one-letter escape stands. -/
def escaped? (c : Char) : Option Char :=
  if c = '"' ∨ c = '\\' ∨ c = '/' then some c
  else if c = 'b' then some '\x08'
  else if c = 'f' then some '\x0c'
  else if c = 'n' then some '\n'
  else if c = 'r' then some '\r'
  else if c = 't' then some '\t'
  else none

def readEscape : Reader Char := do
  match ← look with
  | none => failHere .eofInString
  | some c =>
    if c = 'u' then
      step
      readUnicode
    else match escaped? c with
      | some d => step; return d
      | none => failNext .invalidEscape

/-- Reads characters up to the closing quote. `reversed` holds those read before. -/
def readCharacters : (steps : Nat) → (reversed : List Char) → Reader String
  | 0, _ => failHere .eofInString
  | steps + 1, reversed => do
    match ← look with
    | none => failHere .eofInString
    | some c =>
      if c = '"' then
        step
        return String.ofList reversed.reverse
      else if c = '\\' then
        step
        readCharacters steps ((← readEscape) :: reversed)
      else if c.toNat < 32 then failNext .controlCharacter
      else
        step
        readCharacters steps (c :: reversed)

def readString : Reader String := do
  readCharacters ((← get).bound + 1) []

end EntityModels.Reader
