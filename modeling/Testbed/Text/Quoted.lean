import Testbed.Text.Unprintable
import Testbed.Text.Combining

/-!
Text quoted in messages.  `quote` puts a text between quotation marks and escapes whatever would be
invisible or ambiguous there: quotation marks, backslashes, line ends and tabs have short escapes,
every other character without a glyph of its own is written by its code point in lower-case
hexadecimal.
-/

namespace Testbed.Text

/-- The written form of one character inside quotation marks. -/
def escapeChar (c : Char) : List Char :=
  if c = '"' then ['\\', '"']
  else if c = '\\' then ['\\', '\\']
  else if c = '\n' then ['\\', 'n']
  else if c = '\t' then ['\\', 't']
  else if c = '\r' then ['\\', 'r']
  else if c = '\x00' then ['\\', '0']
  else if isUnprintable c || isCombining c then
    ['\\', 'u', '\x7b'] ++ Nat.toDigits 16 c.toNat ++ ['\x7d']
  else [c]

/-- A text between quotation marks, with every invisible or ambiguous character escaped. -/
def quote (s : String) : String :=
  String.ofList ('"' :: s.toList.flatMap escapeChar ++ ['"'])

end Testbed.Text
