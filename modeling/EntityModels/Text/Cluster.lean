import EntityModels.Text.Marks

/-!
User-perceived characters: a character together with what belongs to it, such as marks, the other
letters of a Hangul syllable, the second letter of a flag or the next pictograph of a sequence. The
text before a character is given in reverse.
-/
namespace EntityModels.Text

/-- A consonant that begins a syllable. -/
def isLeadingJamo (c : Char) : Bool :=
  ('\u1100' ≤ c && c ≤ '\u115f') || ('\ua960' ≤ c && c ≤ '\ua97c')

/-- A vowel of a syllable. -/
def isVowelJamo (c : Char) : Bool :=
  ('\u1160' ≤ c && c ≤ '\u11a7') || ('\ud7b0' ≤ c && c ≤ '\ud7c6') ||
    c.toNat = 0x16d63 || (0x16d67 ≤ c.toNat && c.toNat ≤ 0x16d6a)

/-- A consonant that ends a syllable. -/
def isTrailingJamo (c : Char) : Bool :=
  ('\u11a8' ≤ c && c ≤ '\u11ff') || ('\ud7cb' ≤ c && c ≤ '\ud7fb')

/-- A syllable in one character. -/
def isSyllable (c : Char) : Bool := '\uac00' ≤ c && c ≤ '\ud7a3'

/-- A syllable in one character without a consonant at its end. -/
def isOpenSyllable (c : Char) : Bool := isSyllable c && (c.toNat - 0xac00) % 28 = 0

/-- Whether `c` and the `d` after it belong to one syllable. -/
def joinsSyllable (c d : Char) : Bool :=
  (isLeadingJamo c && (isLeadingJamo d || isVowelJamo d || isSyllable d)) ||
    ((isOpenSyllable c || isVowelJamo c) && (isVowelJamo d || isTrailingJamo d)) ||
    ((isSyllable c || isTrailingJamo c) && isTrailingJamo d)

/-- The character that joins pictographs and keeps consonants together. -/
def joiner : Char := '\u200d'

/-- Half of a flag. -/
def isRegional (c : Char) : Bool := 0x1f1e6 ≤ c.toNat && c.toNat ≤ 0x1f1ff

/-- Whether a pictograph, with marks after it, and a joiner stand before the pictograph `d`. -/
def joinsPictograph (before : List Char) (d : Char) : Bool :=
  match before with
  | c :: earlier =>
    c = joiner && pictographs.contains d &&
      (earlier.dropWhile extenders.contains).head?.any pictographs.contains
  | [] => false

/-- Whether `d` is the second half of a flag. -/
def joinsFlag (before : List Char) (d : Char) : Bool :=
  isRegional d && (before.takeWhile isRegional).length % 2 = 1

/-- A mark that may stand between the consonants of a conjunct. -/
def staysInConjunct (c : Char) : Bool := c = joiner || (c ≠ '\u200c' && extenders.contains c)

/-- Whether `d` is a consonant linked to one before it. -/
def joinsConjunct (before : List Char) (d : Char) : Bool :=
  conjunctConsonants.contains d &&
    (before.takeWhile staysInConjunct).any conjunctLinkers.contains &&
    (before.dropWhile staysInConjunct).head?.any conjunctConsonants.contains

/-- A character that stands alone. -/
def standsAlone (c : Char) : Bool := c = '\r' || c = '\n' || controls.contains c

/-- Whether `d` belongs to the same user-perceived character as the one before it. -/
def joins (before : List Char) (d : Char) : Bool :=
  match before with
  | [] => false
  | c :: _ =>
    -- the only such pair within ASCII
    if c = '\r' && d = '\n' then true
    else if c.toNat < 0x80 && d.toNat < 0x80 then false
    else if standsAlone c || standsAlone d then false
    else
      d = joiner || extenders.contains d || spacingMarks.contains d || prepended.contains c ||
        joinsSyllable c d || joinsPictograph before d || joinsFlag before d ||
        joinsConjunct before d

/-- Cuts what comes after the text whose reverse is `before` into user-perceived characters. -/
def clustersAfter (before : List Char) : List Char → List (List Char)
  | [] => []
  | c :: rest =>
    match rest, clustersAfter (c :: before) rest with
    | d :: _, cluster :: more =>
      if joins (c :: before) d then (c :: cluster) :: more else [c] :: cluster :: more
    | _, _ => [[c]]

def clusters (s : List Char) : List (List Char) := clustersAfter [] s

end EntityModels.Text
