-- SUMMARY: Byte strings in double quotes, unambiguous and free of control characters.
import ShellCoverage.Text.Printable
import ShellCoverage.Text.Utf8

/-!
# Quoted byte strings

A message that has to show every byte of a name puts it in double quotes. A double quote and a
backslash take a backslash, the usual controls have letters, every other character that cannot
stand for itself is shown by its number, and a byte that belongs to no character by its two
hexadecimal digits.
-/

namespace ShellCoverage.Text

/-- The hexadecimal digits of a number, in lower case. -/
def hexDigits (n : Nat) : String :=
  String.ofList (Nat.toDigits 16 n)

/-- A byte as two hexadecimal digits in upper case. -/
def hexByte (b : UInt8) : String :=
  String.ofList
    [(Nat.digitChar (b.toNat / 16)).toUpper, (Nat.digitChar (b.toNat % 16)).toUpper]

/-- A character between double quotes. -/
def quotedChar (c : Char) : String :=
  if c = '\x00' then "\\0"
  else if c = '\t' then "\\t"
  else if c = '\n' then "\\n"
  else if c = '\r' then "\\r"
  else if c = '"' then "\\\""
  else if c = '\\' then "\\\\"
  else if isPrintable c then c.toString
  else "\\u\x7b" ++ hexDigits c.toNat ++ "\x7d"

def quotedPiece : Utf8.Piece → String
  | .char c => quotedChar c
  | .broken bytes => String.join (bytes.map fun b => "\\x" ++ hexByte b)

def quoted (bytes : Bytes) : String :=
  "\"" ++ String.join ((Utf8.pieces bytes).map quotedPiece) ++ "\""

end ShellCoverage.Text
