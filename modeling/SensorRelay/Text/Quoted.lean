import SensorRelay.Text.Combining
import SensorRelay.Text.Printable

/-! # Quoted text

Text between double quotes, in which every character that a reader could not see or could not tell
apart is written as an escape. -/
namespace SensorRelay.Text

/-- A code point in braces, in hexadecimal. -/
def codeEscape (c : Char) : List Char :=
  ['\\', 'u', '\x7b'] ++ Nat.toDigits 16 c.toNat ++ ['\x7d']

def escape (c : Char) : List Char :=
  if c = '\x00' then ['\\', '0']
  else if c = '\t' then ['\\', 't']
  else if c = '\r' then ['\\', 'r']
  else if c = '\n' then ['\\', 'n']
  else if c = '\\' ∨ c = '"' then ['\\', c]
  else if isCombining c ∨ !isPrintable c then codeEscape c
  else [c]

def quote (cs : List Char) : List Char := '"' :: cs.flatMap escape ++ ['"']

end SensorRelay.Text
