import LineShell.Text.Printable
import LineShell.Text.Utf8

/-!
# Quoted bytes

Bytes between double quotes, for people to read: what is UTF-8 and printable stands for itself, and
everything else is escaped. Two escapes need no number (`\\"` and `\\\\`), four characters have a
letter or a digit of their own, any other character is spelled by its number in hexadecimal digits
between braces, and each byte of what is no UTF-8 by its two hexadecimal digits.
-/

namespace LineShell.Quoted

/-! ## Hexadecimal digits -/

/-- A number in hexadecimal digits, in lower case and without leading zeros. -/
def hex (n : Nat) : Text := Nat.toDigits 16 n

/-- A byte in two hexadecimal digits, in upper case. -/
def hexByte (b : UInt8) : Text :=
  [(Nat.digitChar (b.toNat / 16)).toUpper, (Nat.digitChar (b.toNat % 16)).toUpper]

/-! ## Escapes -/

/-- A character as it stands between quotes. -/
def escapeChar (c : Char) : Text :=
  if c = Char.ofNat 0 then ['\\', '0']
  else if c = '\t' then ['\\', 't']
  else if c = '\r' then ['\\', 'r']
  else if c = '\n' then ['\\', 'n']
  else if c = '"' ∨ c = '\\' then ['\\', c]
  else if isPrintable c then [c]
  else ['\\', 'u', '\x7b'] ++ hex c.toNat ++ ['\x7d']

/-- A byte that belongs to no character, as it stands between quotes. -/
def escapeByte (b : UInt8) : Text := ['\\', 'x'] ++ hexByte b

/-- A piece of some bytes as it stands between quotes. -/
def escapePiece : Utf8.Piece → Text
  | .char c => escapeChar c
  | .fault bytes => bytes.flatMap escapeByte

/-- Bytes in quotes. -/
def quote (bs : Bytes) : Text := '"' :: (Utf8.scan bs).flatMap escapePiece ++ ['"']

end LineShell.Quoted
