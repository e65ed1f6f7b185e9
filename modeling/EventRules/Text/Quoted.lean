import EventRules.Text.CharClass
import EventRules.Text.Hex

/-!
# Quoted text

Text as messages quote it. The quote, the backslash and the common control characters are written with a
backslash; combining marks and what has no visible form are written by their code.
-/

namespace EventRules.Text

/-- How a character is written between quotes of the kind `quote`. -/
def escapeIn (quote c : Char) : List Char :=
  if c = '\\' ∨ c = quote then ['\\', c]
  else if c = '\n' then ['\\', 'n']
  else if c = '\r' then ['\\', 'r']
  else if c = '\t' then ['\\', 't']
  else if c.toNat = 0 then ['\\', '0']
  else if isGraphemeExtend c || !isPrintable c then
    '\\' :: 'u' :: '\x7b' :: hexDigits c.toNat ++ ['\x7d']
  else [c]

/-- The text in double quotes. -/
def quoted (s : String) : String :=
  String.ofList ('"' :: s.toList.flatMap (escapeIn '"') ++ ['"'])

/-- The character in single quotes. -/
def quotedChar (c : Char) : String :=
  String.ofList ('\'' :: escapeIn '\'' c ++ ['\''])

end EventRules.Text
