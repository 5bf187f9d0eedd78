import CandleArchive.Text.PlainRuns

/-!
# Quoted text — a text as messages show it

A message that blames a value shows it between double quotes, with every character that could not
be seen written as an escape.

* `escapeChar`: a character inside quotes;
* `quoted`: the text between quotes.
-/

namespace CandleArchive.Text

/-- A character inside quotes: the quote, the backslash and four controls have a short escape, and
any other character that is not plain is given by its code point in hexadecimal. -/
def escapeChar (c : Char) : List Char :=
  if c = '"' then ['\\', '"']
  else if c = '\\' then ['\\', '\\']
  else if c = '\t' then ['\\', 't']
  else if c = '\n' then ['\\', 'n']
  else if c = '\r' then ['\\', 'r']
  else if c = '\x00' then ['\\', '0']
  else if isPlain c then [c]
  else ['\\', 'u', '\x7b'] ++ Nat.toDigits 16 c.toNat ++ ['\x7d']

/-- The text between double quotes. -/
def quoted (s : String) : String :=
  String.ofList ('"' :: s.toList.flatMap escapeChar ++ ['"'])

end CandleArchive.Text
