import EntityModels.Text.Printable

/-!
Text between double quotes, as messages show it: quotes, backslashes and everything that would not
be seen as it is are escaped.
-/
namespace EntityModels.Text

/-- The code point in lower-case hexadecimal digits, without leading zeros. -/
def hexDigits (n : Nat) : String := String.ofList (Nat.toDigits 16 n)

def quotedChar (c : Char) : String :=
  if c = '"' then "\\\""
  else if c = '\\' then "\\\\"
  else if c = '\t' then "\\t"
  else if c = '\r' then "\\r"
  else if c = '\n' then "\\n"
  else if c.toNat = 0 then "\\0"
  else if c.toNat < 127 && 32 ≤ c.toNat then c.toString
  else if printable.contains c then c.toString
  else "\\u\x7b" ++ hexDigits c.toNat ++ "\x7d"

def quoted (s : String) : String :=
  "\"" ++ String.join (s.toList.map quotedChar) ++ "\""

end EntityModels.Text
