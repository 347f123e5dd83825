import JobLedger.Text.Printable

/-!
# Quoted text in messages

A text is quoted by putting it between double quotes.  The quote itself, the
backslash and a few control characters get a backslash before them; whatever
else cannot be shown is written as its code point in hexadecimal digits.
-/

namespace JobLedger.Text

/-- A character inside quotes. -/
def quotedChar (c : Char) : List Char :=
  if c = '\x00' then ['\\', '0']
  else if c = '\t' then ['\\', 't']
  else if c = '\n' then ['\\', 'n']
  else if c = '\r' then ['\\', 'r']
  else if c = '"' then ['\\', '"']
  else if c = '\\' then ['\\', '\\']
  else if isShown c then [c]
  else '\\' :: 'u' :: '\x7b' :: Nat.toDigits 16 c.toNat ++ ['\x7d']

/-- A text between quotes. -/
def quoted (text : List Char) : List Char :=
  '"' :: text.flatMap quotedChar ++ ['"']

end JobLedger.Text
