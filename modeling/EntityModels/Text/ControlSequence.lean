/-!
Control sequences of a terminal, and text without them.

A sequence begins with the escape character. What is shown of a text is its characters outside
sequences, without the control characters among them that are no blanks.
-/
namespace EntityModels.Text

/-- A control sequence as far as it has been read. -/
inductive ControlSequence where
  /-- The escape character alone. -/
  | escape
  /-- An escape with further characters, up to its last one. -/
  | escapeIntermediate
  /-- A function of the terminal with its parameters, up to its last character. -/
  | function
  /-- The beginning of a device string. -/
  | device
  /-- The parameters of a device string. -/
  | deviceParameters
  /-- What comes after the parameters of a device string. -/
  | deviceIntermediate
  /-- The content of a device string, and of other strings up to the string terminator. -/
  | string
  /-- A command to the system, up to the bell. -/
  | system
deriving DecidableEq, Repr

def escapeChar : Char := '\x1b'

/-- The control characters that are shown. -/
def isBlankControl (c : Char) : Bool := c = '\t' || c = '\n' || c = '\x0c' || c = '\r'

/-- A character that is shown outside sequences. -/
def isShown (c : Char) : Bool := isBlankControl c || (' ' ≤ c && c ≠ '\x7f')

/-- Whether the string terminator, the byte `9c`, is among the bytes of a character. -/
def holdsTerminator (c : Char) : Bool := (String.utf8EncodeChar c).contains 0x9c

namespace ControlSequence

/-- Whether blank controls are shown inside the sequence. -/
def showsBlanks : ControlSequence → Bool
  | .escape | .escapeIntermediate | .function => true
  | .device | .deviceParameters | .deviceIntermediate | .string | .system => false

/-- The sequence after one more character; none when it ends. -/
def next (s : ControlSequence) (c : Char) : Option ControlSequence :=
  let isFinal := '@' ≤ c && c ≤ '~'
  let isParameter := '0' ≤ c && c ≤ '?'
  let isIntermediate := ' ' ≤ c && c ≤ '/'
  if c = '\x18' || c = '\x1a' then none
  else if c = escapeChar then some .escape
  else match s with
    | .escape =>
      if isIntermediate then some .escapeIntermediate
      else if isParameter || isFinal then
        match c with
        | '[' => some .function
        | ']' => some .system
        | 'P' => some .device
        | 'X' | '^' | '_' => some .string
        | _ => none
      else some s
    | .escapeIntermediate => if isParameter || isFinal then none else some s
    | .function => if isFinal then none else some s
    | .device =>
      if isFinal then some .string
      else if isParameter then some .deviceParameters
      else if isIntermediate then some .deviceIntermediate
      else some s
    | .deviceParameters =>
      if isFinal || ('<' ≤ c && c ≤ '?') then some .string
      else if isIntermediate then some .deviceIntermediate
      else some s
    | .deviceIntermediate => if isFinal || isParameter then some .string else some s
    | .string => if holdsTerminator c then none else some s
    | .system => if c = '\x07' then none else some s

end ControlSequence

/-- Where a text has been read to: outside sequences, inside one, or behind a blank that has been
shown inside one. There, text is shown until the next control character goes on with the
sequence. -/
inductive TextPosition where
  | outside
  | inside (sequence : ControlSequence)
  | behindBlank (sequence : ControlSequence)
deriving DecidableEq, Repr

namespace TextPosition

/-- The position after one more character of a sequence. -/
def ofNext (s : ControlSequence) (c : Char) : TextPosition :=
  (s.next c).elim .outside .inside

/-- Whether a character is shown, and the position after it. -/
def step (p : TextPosition) (c : Char) : Bool × TextPosition :=
  match p with
  | .outside => if c = escapeChar then (false, .inside .escape) else (isShown c, .outside)
  | .inside s =>
    if s.showsBlanks && isBlankControl c then (true, .behindBlank s) else (false, ofNext s c)
  | .behindBlank s =>
    if '\x7f' < c then (true, .outside)
    else if isShown c then (true, p)
    else (false, ofNext s c)

end TextPosition

/-- What is shown of a text read from a position. -/
def shownFrom (p : TextPosition) : List Char → List Char
  | [] => []
  | c :: rest =>
    let (isVisible, p) := p.step c
    if isVisible then c :: shownFrom p rest else shownFrom p rest

def shown (s : String) : String := String.ofList (shownFrom .outside s.toList)

end EntityModels.Text
