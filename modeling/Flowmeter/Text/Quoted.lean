import Flowmeter.Text.Extender
import Flowmeter.Text.Unprintable

/-! Text between double quotes, as messages name files.

Quotes, backslashes, and characters that show nothing or only as part of another one are
escaped. -/
namespace Flowmeter.Text

/-- A character as it stands between the quotes. -/
def quotedChar (c : Char) : List Char :=
  if c = '"' || c = '\\' then ['\\', c]
  else if c = '\n' then ['\\', 'n']
  else if c = '\r' then ['\\', 'r']
  else if c = '\t' then ['\\', 't']
  else if c = '\x00' then ['\\', '0']
  else if isUnprintable c || isExtender c then
    ['\\', 'u', '\x7b'] ++ Nat.toDigits 16 c.toNat ++ ['\x7d']
  else [c]

/-- The text between double quotes. -/
def quoted (text : String) : String :=
  String.ofList ('"' :: (text.toList.flatMap quotedChar ++ ['"']))

end Flowmeter.Text
